import AgentId.OwnerRecall
import AgentId.RevocationRuns

/-!
# Revocations over restarts (`delegation.py`)

A registry is kept over a restart by its snapshot, which a fresh registry restores.  Whatever
happens after a revocation was admitted, its digest stays, and the digest is that of every spelling
of the grant.

* **`later_holds`** — nothing a registry knows is lost over any run of calls and restarts.
* **`revoked_in_every_spelling`** — so no chain with a revoked grant verifies, however the grant is
  spelled.
-/

namespace AgentRegistryRestarts

open AgentPy AgentBase58 AgentJson AgentCanonicalText AgentNormalization AgentJsonRender
  AgentCanonicalEquivalence AgentSigning AgentSignedText AgentSerde AgentDelegation AgentChainVerdict
  AgentRevocation AgentFeed AgentRevocationRuns AgentOwnerRecall

/-! ## Snapshots -/

/-- `SNAPSHOT_VERSION` -/
def registrySnapshotVersion : ℤ := 2

/-- What is persisted; `restore` reads each member with a default. -/
structure RegistrySnapshot where
  version : Option ℤ
  digests : Option (List PyStr)
  revokedKeys : Option (List PyStr)

/-- `RevocationRegistry.snapshot`: the digests and the keys, sorted. -/
def registrySnapshot (reg : RevocationRegistry) : RegistrySnapshot :=
  ⟨some registrySnapshotVersion, some (sortedScopes reg.digests),
    some (sortedScopes reg.revokedKeys)⟩

/-- `RevocationRegistry.restore`: an older version is loaded too, with a warning in the log. -/
def restoreRegistry (reg : RevocationRegistry) (snapshot : RegistrySnapshot) : RevocationRegistry :=
  { reg with
    digests := reg.digests ∪ (snapshot.digests.getD []).toFinset
    revokedKeys := reg.revokedKeys ∪ (snapshot.revokedKeys.getD []).toFinset }

/-- What a snapshot recalls. -/
def RegistrySnapshot.Holds (snapshot : RegistrySnapshot) : Recall → Prop
  | .grant digest => digest ∈ snapshot.digests.getD []
  | .key address => address ∈ snapshot.revokedKeys.getD []

/-- **RESTORING ADDS**, and never removes. -/
theorem restoreRegistry_holds {reg : RevocationRegistry} {snapshot : RegistrySnapshot} {x : Recall} :
    (restoreRegistry reg snapshot).Holds x ↔ reg.Holds x ∨ snapshot.Holds x := by
  cases x with
  | grant digest =>
      show digest ∈ _ ∪ _ ↔ _
      rw [Finset.mem_union, List.mem_toFinset]
      rfl
  | key address =>
      show address ∈ _ ∪ _ ↔ _
      rw [Finset.mem_union, List.mem_toFinset]
      rfl

/-- A snapshot holds what its registry does. -/
theorem registrySnapshot_holds {reg : RevocationRegistry} {x : Recall} :
    (registrySnapshot reg).Holds x ↔ reg.Holds x := by
  cases x with
  | grant digest => exact Finset.mem_sort _
  | key address => exact Finset.mem_sort _

/-! ## Runs with restarts -/

/-- What can happen to a registry. -/
inductive Event where
  | call (c : Call)
  | markSynced (when_ : Option Datetime)
  | restart (syncedAt : Option Datetime) (others : List RegistrySnapshot)

/-- The registry an event leaves.  A restart is a fresh one that restores the last snapshot, and
    then others. -/
def after (H : Host) (now : Datetime) (reg : RevocationRegistry) : Event → RevocationRegistry
  | .call c => step H now reg c
  | .markSynced when_ => reg.markSynced now when_
  | .restart syncedAt others =>
      others.foldl restoreRegistry (restoreRegistry { syncedAt := syncedAt } (registrySnapshot reg))

/-- Events in turn, each with its reading of the clock. -/
def later (H : Host) (reg : RevocationRegistry) (events : List (Datetime × Event)) :
    RevocationRegistry :=
  events.foldl (fun reg event => after H event.1 reg event.2) reg

variable {H : Host} {x : Recall}

theorem foldl_restoreRegistry_holds {others : List RegistrySnapshot} {reg : RevocationRegistry}
    (h : reg.Holds x) : (others.foldl restoreRegistry reg).Holds x := by
  induction others generalizing reg with
  | nil => exact h
  | cons snapshot others ih => exact ih (restoreRegistry_holds.mpr (Or.inl h))

/-- One event keeps what the registry holds. -/
theorem after_holds {now : Datetime} {reg : RevocationRegistry} {event : Event} (h : reg.Holds x) :
    (after H now reg event).Holds x := by
  cases event with
  | call c => exact step_holds.mpr (Or.inl h)
  | markSynced when_ => exact holds_markSynced.mpr h
  | restart syncedAt others =>
      refine foldl_restoreRegistry_holds (restoreRegistry_holds.mpr (Or.inr ?_))
      exact registrySnapshot_holds.mpr h

/-- **NOTHING IS FORGOTTEN**, over any run of calls, failures and restarts. -/
theorem later_holds {events : List (Datetime × Event)} {reg : RevocationRegistry}
    (h : reg.Holds x) : (later H reg events).Holds x := by
  induction events generalizing reg with
  | nil => exact h
  | cons event events ih => exact ih (after_holds h)

/-! ## Every spelling of a grant -/

/-- The digest reads the canonical bytes and the decoded signature. -/
theorem digest_congr {d d' : Delegation}
    (hbytes : canonicalJson H.nfc d'.payload = canonicalJson H.nfc d.payload)
    (hsignature : decodeSignature (.str d'.signature) = decodeSignature (.str d.signature)) :
    d'.digest H = d.digest H := by
  simp only [Delegation.digest, signingInput]
  rw [hbytes, hsignature]

/-- A chain with a recalled link does not verify. -/
theorem verify_error_of_revoked {chain : DelegationChain} {d : Delegation} (hd : d ∈ chain.links)
    {digest : PyStr} (hdigest : d.digest H = .ok digest) {revoked : Finset PyStr}
    (hrevoked : digest ∈ revoked) (agent : PyStr) (now : Datetime) (revokedKeys : Finset PyStr)
    (opts : VerifyOptions) :
    ∃ e, chain.verify H agent now revoked revokedKeys opts = .error e := by
  rcases ok_or_error (chain.verify H agent now revoked revokedKeys opts) with ⟨scopes, hok⟩ | herr
  · obtain ⟨hpass, -⟩ := (DelegationChain.verify_ok_iff (List.ne_nil_of_mem hd)).mp hok
    exact absurd hrevoked ((hpass d hd).digest_notMem digest hdigest)
  · exact herr

/-- **A REVOKED GRANT STAYS REVOKED IN EVERY SPELLING**: once a revocation that names its digest is
    admitted, and whatever happens then, no chain verifies that has a link of the same canonical
    bytes and the same signature, wherever the link was read from. -/
theorem revoked_in_every_spelling (H : Host) (d : Delegation) (r : Revocation)
    (reg reg' : RevocationRegistry) (hadmitted : reg.add H r = (.ok (), reg'))
    (hnames : d.digest H = .ok r.delegationDigest) (events : List (Datetime × Event))
    (d' : Delegation) (hbytes : canonicalJson H.nfc d'.payload = canonicalJson H.nfc d.payload)
    (hsignature : decodeSignature (.str d'.signature) = decodeSignature (.str d.signature))
    (chain : DelegationChain) (hlink : d' ∈ chain.links) (agent : PyStr) (now : Datetime)
    (revokedKeys : Finset PyStr) (opts : VerifyOptions) :
    ∃ e, chain.verify H agent now (later H reg' events).digests revokedKeys opts = .error e := by
  have hheld : reg'.Holds (.grant r.delegationDigest) :=
    ((@RevocationRegistry.enter_ok H now _ _ (.revocation r) hadmitted).2 _).mpr
      (Or.inr rfl)
  have hlater : (later H reg' events).Holds (.grant r.delegationDigest) := later_holds hheld
  exact verify_error_of_revoked hlink ((digest_congr hbytes hsignature).trans hnames) hlater agent
    now revokedKeys opts

/-! ### A grant respelled -/

theorem note_shadows_nothing (note : PyStr) :
    ∀ k ∈ [(py "note", Json.str note)].map Prod.fst, k ∉ delegationFields := by
  have hnote : ∀ k ∈ [py "note"], k ∉ delegationFields := by decide
  exact hnote

theorem note_present (note : PyStr) :
    ∀ name ∈ ([] : List PyStr), name ∈ [(py "note", Json.str note)].map Prod.fst :=
  fun _ hname => absurd hname List.not_mem_nil

/-- The plain grant of key 1 to key 3, with a note. -/
def notedGrant (note : PyStr) : Delegation :=
  { plainGrant 1 3 with
    extra := [(py "note", .str note)]
    extra_nodup := List.nodup_singleton _
    extra_shadows_nothing := note_shadows_nothing note
    critical_present := note_present note }

/-- One spelling of the note for another gives the same canonical bytes. -/
theorem canonicalJson_notedGrant {a b : PyStr} (h : SameText a b) :
    canonicalJson sampleNfc (notedGrant a).payload = canonicalJson sampleNfc (notedGrant b).payload := by
  have hmatch : Matches SameText (notedGrant a).payload (notedGrant b).payload := by
    have hrefl : ∀ s, Matches SameText (.str s) (.str s) := fun s => .str rfl
    have hscopes : Matches SameText (strs (sortedScopes (plainGrant 1 3).scopes))
        (strs (sortedScopes (plainGrant 1 3).scopes)) := by
      refine @matches_refl SameText (fun _ => rfl) _ (.arr fun v hv => ?_)
      obtain ⟨s, -, rfl⟩ := List.mem_map.mp hv
      exact .str s
    refine @matches_obj_of_forall₂ SameText (fun _ => rfl) _ _ ?_
    refine .cons ⟨rfl, hrefl _⟩ (.cons ⟨rfl, hrefl _⟩ (.cons ⟨rfl, hscopes⟩ ?_))
    exact .cons ⟨rfl, hrefl _⟩ (.cons ⟨rfl, hrefl _⟩ (.cons ⟨rfl, .str h⟩ .nil))
  obtain ⟨ha, hb⟩ := Matches.floatFree hmatch
  exact canonicalJson_congr ha hb ((nfc_dumps_eq_iff sampleNfc_text ha hb).mpr hmatch)

/-- In every spelling of an ASCII note the grant verifies, and its digest is one. -/
theorem notedGrant_signed {a b : PyStr} (ha : IsAscii a) (h : SameText a b) :
    (notedGrant b).Signed openHost ∧
      (notedGrant b).digest openHost = (notedGrant a).digest openHost := by
  have hascii : AsciiJson (notedGrant a).payload :=
    asciiJson_grantMembers 1 3 isAscii_plainScopes (.obj_cons (by decide) (.str ha) .obj_nil)
  have hbytes := canonicalJson_notedGrant h
  refine ⟨?_, digest_congr hbytes.symm rfl⟩
  obtain ⟨message, hmessage⟩ := signingInput_ascii (H := openHost) sampleNfc_text.toNfcLaws
    (show IsContext contextDelegation by decide) hascii
  have hspelled : signingInput openHost contextDelegation (notedGrant b).payload = .ok message := by
    rw [signingInput, show canonicalJson openHost.nfc (notedGrant b).payload = _ from hbytes.symm]
    exact hmessage
  exact verifyByAddress_ok_iff.mpr ⟨_, _, message, signingKey_constAddress 1,
    decodeSignature_b64encode _, hspelled, rfl⟩

/-- The grant is revoked under one spelling of its note; after a restart it verifies under another,
    and no chain with it does. -/
theorem revoked_in_every_spelling_respelled :
    ∃ digest, (notedGrant (py "OK")).digest openHost = .ok digest ∧
      respell (py "OK") ≠ py "OK" ∧
      (notedGrant (respell (py "OK"))).verify openHost plainNow {} = .ok () ∧
      ∃ e, (DelegationChain.mk [notedGrant (respell (py "OK"))]).verify openHost (constAddress 3)
        plainNow (later openHost ⟨{digest}, ∅, none⟩
          [(plainNow, .call (.add (plainRevocation 2 (py "00")))),
            (plainNow, .restart none [⟨some 1, some [py "01"], none⟩])]).digests ∅ {} = .error e := by
  have hascii : IsAscii (py "OK") := by decide
  have hspelled := notedGrant_signed hascii (sampleNfc_respell (py "OK"))
  obtain ⟨digest, hdigest⟩ := Delegation.digest_of_signed (notedGrant_signed hascii rfl).1
  have hverify : (plainRevocation 1 digest).verify openHost = .ok () := by
    obtain ⟨message, hmessage⟩ := signingInput_ascii (H := openHost) sampleNfc_text.toNfcLaws
      (show IsContext contextRevocation by decide) (Revocation.asciiJson_payload
        (r := plainRevocation 1 digest) (isAscii_constAddress 1)
        (Delegation.isHex_digest hdigest).isPlain.isAscii)
    exact Revocation.verify_ok_iff.mpr <| verifyByAddress_ok_iff.mpr ⟨_, _, message,
      signingKey_constAddress 1, decodeSignature_b64encode _, hmessage, rfl⟩
  have hadmitted : RevocationRegistry.add openHost {} (plainRevocation 1 digest)
      = (.ok (), ⟨{digest}, ∅, none⟩) := by
    rw [RevocationRegistry.add, hverify]
    rfl
  refine ⟨digest, hdigest, by decide, ?_, ?_⟩
  · exact Delegation.verify_ok_iff.mpr ⟨(Delegation.checkWindow_ok_iff windowChecked_plainNow).mpr
      fun _ => plainGrant_inWindow 1 3, hspelled.1, fun _ hname => absurd hname List.not_mem_nil⟩
  · exact revoked_in_every_spelling openHost (notedGrant (py "OK")) (plainRevocation 1 digest) {} _
      hadmitted hdigest _ (notedGrant (respell (py "OK")))
      (canonicalJson_notedGrant (sampleNfc_respell (py "OK"))).symm rfl _ List.mem_cons_self
      (constAddress 3) plainNow ∅ {}

end AgentRegistryRestarts
