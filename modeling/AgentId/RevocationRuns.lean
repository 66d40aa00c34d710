import AgentId.Feed
import AgentId.SignedText

/-!
# Who can revoke what

A run is any sequence of `add`, `revoke_key` and `apply_feed_delta` calls on an empty registry,
with records from anyone.  The registry never holds more than the verified records handed to it
recall (**`run_holds`**), and the two authority questions are answered from that.

* **`isRevoked_issuerSigned`** — a grant reads as revoked only if its issuer recalled it, in every
  run where nobody else's verified revocation names its digest; **`stranger_revokes`** shows that
  `add` itself does not ask who issued the grant.
* **`stranger_recall_refused`** — strangers cannot recall an identity key, in every run where no
  proof chain crosses from them to the outside on a link they issued themselves;
  **`stranger_recalls`** shows that such a chain is taken as proof of control.
-/

namespace AgentRevocationRuns

open AgentPy AgentBase58 AgentJson AgentCanonicalText AgentJsonRender AgentSigning AgentSignedText
  AgentSerde AgentDelegation AgentChainVerdict AgentRevocation AgentFeed

/-! ## Runs -/

/-- A call on a registry. -/
inductive Call where
  | add (r : Revocation)
  | revokeKey (k : KeyRevocation)
  | applyFeedDelta (entries : List EntryArg) (cursor : Int) (syncedAt : Option Datetime)
      (since : Int)

/-- The registry a call leaves, whether it returns or raises. -/
def step (H : Host) (now : Datetime) (reg : RevocationRegistry) : Call → RevocationRegistry
  | .add r => (reg.add H r).2
  | .revokeKey k => (reg.revokeKey H now k).2
  | .applyFeedDelta entries cursor syncedAt since =>
      (applyFeedDelta H now reg entries cursor syncedAt since).2

/-- Calls in turn on an empty registry, each with its reading of the clock. -/
def run (H : Host) (calls : List (Datetime × Call)) : RevocationRegistry :=
  calls.foldl (fun reg call => step H call.1 reg call.2) {}

/-- The call hands `record` to the registry. -/
def Presents (H : Host) (now : Datetime) : Call → Record → Prop
  | .add r, record => record = .revocation r
  | .revokeKey k, record => record = .keyRevocation k
  | .applyFeedDelta entries cursor _ since, record =>
      ∃ revived, validateDelta entries cursor since = .ok revived ∧ Offered H now revived record

variable {H : Host}

theorem holds_enter {now : Datetime} {reg : RevocationRegistry} {record : Record} {x : Recall} :
    (reg.enter H now record).2.Holds x ↔
      reg.Holds x ∨ (record.verify H now = .ok () ∧ x = record.recall) := by
  rcases reg.enter_cases H now record with ⟨hverify, hentered⟩ | ⟨e, hverify, hrefused⟩
  · rw [hentered, holds_withRecall]
    simp [hverify]
  · rw [hrefused]
    simp [hverify]

/-- **ONE CALL** adds what the verified records handed to the registry recall. -/
theorem step_holds {now : Datetime} {reg : RevocationRegistry} {call : Call} {x : Recall} :
    (step H now reg call).Holds x ↔
      reg.Holds x ∨ ∃ record, Presents H now call record ∧ record.verify H now = .ok () ∧
        x = record.recall := by
  cases call with
  | add r =>
      show (reg.enter H now (.revocation r)).2.Holds x ↔ _
      rw [holds_enter]
      simp [Presents]
  | revokeKey k =>
      show (reg.enter H now (.keyRevocation k)).2.Holds x ↔ _
      rw [holds_enter]
      simp [Presents]
  | applyFeedDelta entries cursor syncedAt since =>
      -- a delta that fails its checks touches nothing; the loop keeps what it entered
      rw [step, applyFeedDelta]
      simp only [Presents]
      cases hvalid : validateDelta entries cursor since with
      | error err => simp
      | ok revived =>
          have hloop := @enterAll_holds H now reg revived x
          cases henter : enterAll H now reg revived with
          | mk out reg' =>
              rw [henter] at hloop
              cases out with
              | ok _ => simpa [henter, holds_markSynced] using hloop
              | error err => simpa [henter] using hloop

/-- **EVERY RUN**: what the registry holds, some verified record handed to it recalled. -/
theorem run_holds {calls : List (Datetime × Call)} {x : Recall} (h : (run H calls).Holds x) :
    ∃ call ∈ calls, ∃ record, Presents H call.1 call.2 record ∧
      record.verify H call.1 = .ok () ∧ x = record.recall := by
  have hfold : ∀ (cs : List (Datetime × Call)) (reg : RevocationRegistry),
      (cs.foldl (fun reg call => step H call.1 reg call.2) reg).Holds x → reg.Holds x ∨
        ∃ call ∈ cs, ∃ record, Presents H call.1 call.2 record ∧
          record.verify H call.1 = .ok () ∧ x = record.recall := by
    intro cs
    induction cs with
    | nil => exact fun reg h => Or.inl h
    | cons call cs ih =>
        intro reg h
        rcases ih _ h with h | ⟨c, hc, hrecord⟩
        · rcases step_holds.mp h with h | hrecord
          · exact Or.inl h
          · exact Or.inr ⟨call, List.mem_cons_self, hrecord⟩
        · exact Or.inr ⟨c, List.mem_cons_of_mem _ hc, hrecord⟩
  rcases hfold calls {} h with h | h
  · exact absurd h (RevocationRegistry.not_holds_empty x)
  · exact h

/-! ## Recalling a grant -/

/-- The digest of `d` is named by no verified revocation but its issuer's. -/
def OnlyIssuerRecalls (H : Host) (d : Delegation) (now : Datetime) (call : Call) : Prop :=
  ∀ r, Presents H now call (.revocation r) → r.verify H = .ok () →
    d.digest H = .ok r.delegationDigest → r.issuer = d.issuer

theorem isRevoked_iff {reg : RevocationRegistry} {d : Delegation} :
    reg.isRevoked H d = .ok true ↔ ∃ digest, d.digest H = .ok digest ∧ reg.Holds (.grant digest) := by
  rw [RevocationRegistry.isRevoked]
  cases d.digest H with
  | ok digest => simp [RevocationRegistry.Holds]
  | error e =>
      by_cases h : e.cls = .signatureError
      · simp [h]
      · simp [h]

/-- **A GRANT READS AS REVOKED ONLY IF ITS ISSUER REVOKED IT**, in every run in which no one
    else's verified revocation names its digest. -/
theorem isRevoked_issuerSigned (H : Host) (signed : Bytes → Bytes → Prop)
    (hunforgeable : Unforgeable H signed) (d : Delegation) (calls : List (Datetime × Call))
    (hissuer : ∀ call ∈ calls, OnlyIssuerRecalls H d call.1 call.2)
    (hrevoked : (run H calls).isRevoked H d = .ok true) :
    ∃ r : Revocation, d.digest H = .ok r.delegationDigest ∧
      HolderSigned H signed d.issuer contextRevocation r.payload := by
  obtain ⟨digest, hdigest, hholds⟩ := isRevoked_iff.mp hrevoked
  obtain ⟨call, hcall, record, hpresents, hverify, hrecall⟩ := run_holds hholds
  cases record with
  | keyRevocation k => exact nomatch hrecall
  | revocation r =>
      cases hrecall
      have hverify' : r.verify H = .ok () := hverify
      have hby : r.issuer = d.issuer := hissuer call hcall r hpresents hverify' hdigest
      refine ⟨r, hdigest, ?_⟩
      rw [← hby]
      exact holderSigned_of_verify hunforgeable (Revocation.verify_ok_iff.mp hverify')

/-- Key 1 signed a grant to key 3 and the revocation of a digest; key 2 signs anything. -/
def revokedLedger (digest : PyStr) : Ledger :=
  [(constKey 1, contextDelegation, (plainGrant 1 3).payload),
    (constKey 1, contextRevocation, (plainRevocation 1 digest).payload)]

def strangerFree (key : Bytes) : Bool := key = constKey 2

def revokedHost (digest : PyStr) : Host := ledgerHost strangerFree (revokedLedger digest)

/-- A key recalls itself. -/
def selfRecall (b : UInt8) : KeyRevocation :=
  ⟨constAddress b, constAddress b, .zero, none, .str idealSignature⟩

/-- A key that signs anything can recall itself. -/
theorem selfRecall_holds {free : Bytes → Bool} {ledger : Ledger} {b : UInt8} {now : Datetime}
    {reg : RevocationRegistry} (hfree : free (constKey b) = true) :
    (step (ledgerHost free ledger) now reg (.revokeKey (selfRecall b))).Holds
      (.key (constAddress b)) := by
  have hsig : verifyByAddress (ledgerHost free ledger) (constAddress b) contextKeyRevocation
      (selfRecall b).payload (.str idealSignature) = .ok () :=
    verifyByAddress_idealHost (signingKey_constAddress b) (by decide)
      (KeyRevocation.asciiJson_payload (isAscii_constAddress b) (isAscii_constAddress b) .null)
      fun _ _ => ledgerSigns_of_free hfree
  have hverify : (selfRecall b).verify (ledgerHost free ledger) now = .ok () :=
    KeyRevocation.verify_ok_iff.mpr ⟨hsig, Or.inl rfl⟩
  exact step_holds.mpr <| Or.inr ⟨.keyRevocation (selfRecall b), rfl, hverify, rfl⟩

/-- Key 2 revokes a grant that is not key 1's, then its own key; key 1 revokes its grant. -/
def revokedCalls (digest : PyStr) : List (Datetime × Call) :=
  [(plainNow, .add (plainRevocation 2 (py "grant of key 2"))), (plainNow, .revokeKey (selfRecall 2)),
    (plainNow, .add (plainRevocation 1 digest))]

/-- Among the records of another party, the issuer's own revocation is admitted, and accounts for
    the grant reading as revoked. -/
theorem isRevoked_issuerSigned_ledger :
    ∃ digest, (plainGrant 1 3).digest (revokedHost digest) = .ok digest ∧
      ∃ r : Revocation, (plainGrant 1 3).digest (revokedHost digest) = .ok r.delegationDigest ∧
        HolderSigned (revokedHost digest) (fun key message =>
            ledgerSigns strangerFree (revokedLedger digest) key message = true)
          (plainGrant 1 3).issuer contextRevocation r.payload := by
  obtain ⟨digest, hanyone⟩ := Delegation.digest_of_signed
    (plainGrant_signed fun _ _ => rfl : (plainGrant 1 3).Signed (idealHost fun _ _ => true))
  -- a digest does not depend on who signed what
  have hdigest : (plainGrant 1 3).digest (revokedHost digest) = .ok digest := hanyone
  have hhex := Delegation.isHex_digest hdigest
  refine ⟨digest, hdigest, isRevoked_issuerSigned (revokedHost digest) _ (idealHost_unforgeable _)
    (plainGrant 1 3) (revokedCalls digest) ?_ ?_⟩
  · intro call hcall r hpresents _ hnames
    simp only [revokedCalls, List.mem_cons, List.not_mem_nil, or_false] at hcall
    rcases hcall with rfl | rfl | rfl
    · cases hpresents
      rw [hdigest] at hnames
      have hsame : digest = py "grant of key 2" := Except.ok.inj hnames
      rw [hsame] at hhex
      have hfirst := hhex _ List.mem_cons_self
      rw [IsHexDigit] at hfirst
      exact absurd hfirst (by decide)
    · cases hpresents
    · cases hpresents
      rfl
  · have hverify : (plainRevocation 1 digest).verify (revokedHost digest) = .ok () :=
      plainRevocation_verify hhex.isPlain.isAscii fun _ hm =>
        ledgerSigns_of_mem (List.mem_cons_of_mem _ List.mem_cons_self) hm
    have hstep : (run (revokedHost digest) (revokedCalls digest)).Holds (.grant digest) := by
      show (step _ plainNow _ (.add (plainRevocation 1 digest))).Holds _
      exact step_holds.mpr <| Or.inr ⟨.revocation (plainRevocation 1 digest), rfl, hverify, rfl⟩
    exact isRevoked_iff.mpr ⟨digest, hdigest, hstep⟩

/-- The only thing key 1 ever signed is a grant to key 3; key 2 signs anything. -/
def strangerLedger : Ledger := [(constKey 1, contextDelegation, (plainGrant 1 3).payload)]

def strangerHost : Host := ledgerHost strangerFree strangerLedger

/-- A STRANGER REVOKES: key 2 revokes the grant of key 1, which signed no revocation at all. -/
theorem stranger_revokes :
    Unforgeable strangerHost (fun key message =>
        ledgerSigns strangerFree strangerLedger key message = true) ∧
      CollisionFree strangerHost ∧ (plainGrant 1 3).verify strangerHost plainNow {} = .ok () ∧
      ∃ digest, (plainGrant 1 3).digest strangerHost = .ok digest ∧
        (run strangerHost [(plainNow, .add (plainRevocation 2 digest))]).isRevoked strangerHost
          (plainGrant 1 3) = .ok true ∧
        ¬ ∃ r : Revocation, HolderSigned strangerHost (fun key message =>
          ledgerSigns strangerFree strangerLedger key message = true) (plainGrant 1 3).issuer
          contextRevocation r.payload := by
  have hgrant : (plainGrant 1 3).Signed strangerHost :=
    plainGrant_signed fun _ hm => ledgerSigns_of_mem List.mem_cons_self hm
  obtain ⟨digest, hdigest⟩ := Delegation.digest_of_signed hgrant
  refine ⟨idealHost_unforgeable _, idealHost_collisionFree _, plainGrant_verify hgrant, digest,
    hdigest, ?_, ?_⟩
  · have hverify : (plainRevocation 2 digest).verify strangerHost = .ok () :=
      plainRevocation_verify (Delegation.isHex_digest hdigest).isPlain.isAscii fun _ _ =>
        ledgerSigns_of_free (by decide)
    have hstep : (step strangerHost plainNow {} (.add (plainRevocation 2 digest))).Holds
        (.grant digest) :=
      step_holds.mpr <| Or.inr ⟨.revocation (plainRevocation 2 digest), rfl, hverify, rfl⟩
    exact isRevoked_iff.mpr ⟨digest, hdigest, hstep⟩
  · rintro ⟨r, hsigned⟩
    obtain ⟨payload, _, hmem, -⟩ :=
      ledger_of_holderSigned (signingKey_constAddress 1) (by decide) hsigned
    have hcontext : contextRevocation = contextDelegation := by
      have := List.mem_singleton.mp hmem
      rw [Prod.mk.injEq, Prod.mk.injEq] at this
      exact this.2.1
    exact absurd hcontext (by decide)

/-! ## Recalling an identity key -/

/-- What the strangers' victim can count on: it is not one of them, it never recalled its own
    key, and nobody outside recalled its key or delegated to a stranger. -/
structure Uninvolved (H : Host) (signed : Bytes → Bytes → Prop) (strangers : Set PyStr)
    (victim : PyStr) : Prop where
  victim_notMem : victim ∉ strangers
  victim_unsigned : ∀ k : KeyRevocation,
    ¬ HolderSigned H signed victim contextKeyRevocation k.payload
  unrecalled : ∀ a ∉ strangers, ∀ k : KeyRevocation, k.address = victim →
    ¬ HolderSigned H signed a contextKeyRevocation k.payload
  undelegated : ∀ a ∉ strangers, ∀ d : Delegation, d.subject ∈ strangers →
    ¬ HolderSigned H signed a contextDelegation d.payload

/-- No key revocation of the victim carries a chain from its issuer to the victim in which a
    stranger itself signed the grant that leads out of the strangers. -/
def NoSelfMadeProof (H : Host) (strangers : Set PyStr) (victim : PyStr) (now : Datetime)
    (call : Call) : Prop :=
  ∀ k, Presents H now call (.keyRevocation k) → k.address = victim →
    ∀ chain, k.chain = some chain → chain.rootIssuer = some k.issuer → Linked chain.links →
      (∀ last ∈ chain.links.getLast?, last.subject = victim) →
      ∀ link ∈ chain.links, link.Signed H → link.issuer ∈ strangers → link.subject ∈ strangers

/-- A chain that starts among the strangers and never leaves them ends among them. -/
theorem subject_mem_of_linked {strangers : Set PyStr} {links : List Delegation}
    (hlinked : Linked links)
    (hstays : ∀ link ∈ links, link.issuer ∈ strangers → link.subject ∈ strangers)
    (hroot : ∀ first ∈ links.head?, first.issuer ∈ strangers) :
    ∀ link ∈ links, link.subject ∈ strangers := by
  induction links with
  | nil => exact fun link hlink => absurd hlink List.not_mem_nil
  | cons first rest ih =>
      have hfirst : first.subject ∈ strangers :=
        hstays first List.mem_cons_self (hroot first rfl)
      have hrest : ∀ link ∈ rest, link.subject ∈ strangers := by
        cases rest with
        | nil => exact fun link hlink => absurd hlink List.not_mem_nil
        | cons next tail =>
            obtain ⟨hnext, htail⟩ := List.isChain_cons_cons.mp hlinked
            refine ih htail (fun link hlink => hstays link (List.mem_cons_of_mem _ hlink)) ?_
            intro head hhead
            cases hhead
            rw [hnext]
            exact hfirst
      intro link hlink
      rcases List.mem_cons.mp hlink with rfl | hlink
      · exact hfirst
      · exact hrest link hlink

/-- A recall of the victim that verifies proves control by a grant a stranger signed itself. -/
theorem selfMade_of_verify {signed : Bytes → Bytes → Prop} (hunforgeable : Unforgeable H signed)
    {strangers : Set PyStr} {victim : PyStr} (hu : Uninvolved H signed strangers victim)
    {now : Datetime} {k : KeyRevocation} (hk : k.address = victim)
    (hverify : k.verify H now = .ok ()) :
    ∃ chain, k.chain = some chain ∧ ProvesControl H k chain ∧
      ∃ link ∈ chain.links, link.issuer ∈ strangers ∧ link.subject ∉ strangers := by
  obtain ⟨hsig, hentitled⟩ := KeyRevocation.verify_ok_iff.mp hverify
  -- the signature leaves only a stranger as the issuer
  have hissuer : k.issuer ∈ strangers := by
    by_contra hout
    exact hu.unrecalled k.issuer hout k hk (holderSigned_of_verify hunforgeable hsig)
  rcases hentitled with hself | ⟨chain, hchain, hproof⟩
  · rw [hself, hk] at hissuer
    exact absurd hissuer hu.victim_notMem
  · refine ⟨chain, hchain, hproof, ?_⟩
    by_contra hnone
    push Not at hnone
    obtain ⟨first, hfirst, hroot⟩ := Option.map_eq_some_iff.mp hproof.rooted
    -- so the chain never leaves the strangers, and ends at one
    have hsubjects := subject_mem_of_linked hproof.linked hnone (by
      intro first' hfirst'
      rw [hfirst, Option.mem_some_iff] at hfirst'
      rw [← hfirst', hroot]
      exact hissuer)
    have hne : chain.links ≠ [] := by
      intro hnil
      rw [hnil] at hfirst
      exact nomatch hfirst
    have hlast := hproof.terminates _ (List.getLast?_eq_getLast_of_ne_nil hne)
    have hmem := hsubjects _ (List.getLast_mem hne)
    rw [hlast, hk] at hmem
    exact hu.victim_notMem hmem

/-- **STRANGERS CANNOT RECALL A KEY**, in every run in which no proof chain leaves the strangers
    on a grant they signed themselves: each recall of the victim is refused, and its key never
    reads as revoked. -/
theorem stranger_recall_refused (H : Host) (signed : Bytes → Bytes → Prop)
    (hunforgeable : Unforgeable H signed) (strangers : Set PyStr) (victim : PyStr)
    (huninvolved : Uninvolved H signed strangers victim) (calls : List (Datetime × Call))
    (hproof : ∀ call ∈ calls, NoSelfMadeProof H strangers victim call.1 call.2) :
    (∀ call ∈ calls, ∀ k, Presents H call.1 call.2 (.keyRevocation k) → k.address = victim →
        ∀ reg : RevocationRegistry, ∃ e, reg.revokeKey H call.1 k = (.error e, reg)) ∧
      (run H calls).isKeyRevoked victim = false := by
  have hrefused : ∀ call ∈ calls, ∀ k, Presents H call.1 call.2 (.keyRevocation k) →
      k.address = victim → k.verify H call.1 ≠ .ok () := by
    intro call hcall k hpresents hk hverify
    obtain ⟨chain, hchain, hcontrol, link, hlink, hin, hout⟩ :=
      selfMade_of_verify hunforgeable huninvolved hk hverify
    exact hout (hproof call hcall k hpresents hk chain hchain hcontrol.rooted hcontrol.linked
      (hk ▸ hcontrol.terminates) link hlink (hcontrol.signed link hlink) hin)
  constructor
  · intro call hcall k hpresents hk reg
    rcases ok_or_error (k.verify H call.1) with ⟨⟨⟩, hok⟩ | ⟨e, he⟩
    · exact absurd hok (hrefused call hcall k hpresents hk)
    · exact ⟨e, by rw [RevocationRegistry.revokeKey, he]⟩
  · refine decide_eq_false fun hmem => ?_
    obtain ⟨call, hcall, record, hpresents, hverify, hrecall⟩ :=
      run_holds (H := H) (x := .key victim) hmem
    cases record with
    | revocation r => cases hrecall
    | keyRevocation k =>
        cases hrecall
        exact hrefused call hcall k hpresents rfl hverify

/-- Key 2 signs anything, and no other key has signed a thing. -/
def loneHost : Host := ledgerHost strangerFree []

/-- Key 2 recalls key 1, on the strength of its own grant to key 1. -/
def selfMadeRecall : KeyRevocation :=
  ⟨constAddress 1, constAddress 2, .zero, some ⟨[plainGrant 2 1]⟩, .str idealSignature⟩

theorem loneHost_unsigned {address context : PyStr} {payload : Json}
    (haddress : address ≠ constAddress 2) :
    ¬ HolderSigned loneHost (fun key message => ledgerSigns strangerFree [] key message = true)
      address context payload := by
  rintro ⟨key, message, hkey, hmessage, hsigned⟩
  have hfree : strangerFree key = false := by
    refine decide_eq_false fun heq => haddress ?_
    rw [heq] at hkey
    exact signingKeyFromAddress_inj hkey (signingKey_constAddress 2)
  rw [ledgerSigns, hfree] at hsigned
  exact absurd hsigned Bool.false_ne_true

theorem uninvolved_loneHost :
    Uninvolved loneHost (fun key message => ledgerSigns strangerFree [] key message = true)
      {constAddress 2} (constAddress 1) := by
  have hne : constAddress 1 ≠ constAddress 2 := fun h => absurd (constAddress_inj h) (by decide)
  exact ⟨hne, fun k => loneHost_unsigned hne, fun a ha k _ => loneHost_unsigned ha,
    fun a ha d _ => loneHost_unsigned ha⟩

/-- Keys 2 and 3 sign anything; key 4 has signed a grant to key 1. -/
def alliedFree (key : Bytes) : Bool := key = constKey 2 ∨ key = constKey 3

def alliedLedger : Ledger := [(constKey 4, contextDelegation, (plainGrant 4 1).payload)]

def alliedHost : Host := ledgerHost alliedFree alliedLedger

def allies : Set PyStr := {constAddress 2, constAddress 3}

/-- Key 2 recalls key 1 on the strength of the grant of key 4, then on that of a chain through key 3
    whose last grant nobody signed; and then it recalls itself. -/
def alliedCalls : List (Datetime × Call) :=
  [(plainNow, .revokeKey { selfMadeRecall with chain := some ⟨[plainGrant 4 1]⟩ }),
    (plainNow, .revokeKey { selfMadeRecall with
      chain := some ⟨[plainGrant 2 3, { plainGrant 3 1 with signature := [] }]⟩ }),
    (plainNow, .revokeKey (selfRecall 2))]

/-- Outside the allies there is one signature: key 4's, of its grant. -/
theorem alliedLedger_of_holderSigned {address context : PyStr} {payload : Json}
    (haddress : address ∉ allies)
    (h : HolderSigned alliedHost (fun key message =>
      ledgerSigns alliedFree alliedLedger key message = true) address context payload) :
    signingKeyFromAddress address = .ok (constKey 4) ∧ context = contextDelegation ∧
      Matches (· = ·) payload (plainGrant 4 1).payload := by
  obtain ⟨key, _, hkey, -⟩ := id h
  have hfree : alliedFree key = false := by
    refine decide_eq_false fun heq => haddress ?_
    rcases heq with rfl | rfl
    · exact Or.inl (signingKeyFromAddress_inj hkey (signingKey_constAddress 2))
    · exact Or.inr (signingKeyFromAddress_inj hkey (signingKey_constAddress 3))
  obtain ⟨payload', message, hmem, hmessage, hmessage'⟩ := ledger_of_holderSigned hkey hfree h
  cases List.mem_singleton.mp hmem
  exact ⟨hkey, rfl, matches_of_signingInput (idealHost_nfcText _) hmessage hmessage'⟩

theorem uninvolved_alliedHost :
    Uninvolved alliedHost (fun key message => ledgerSigns alliedFree alliedLedger key message = true)
      allies (constAddress 1) := by
  have hne : ∀ b : UInt8, b ≠ 1 → constAddress 1 ≠ constAddress b :=
    fun b hb h => hb (constAddress_inj h).symm
  have hvictim : constAddress 1 ∉ allies := by
    rintro (h | h)
    · exact hne 2 (by decide) h
    · exact hne 3 (by decide) h
  have hcontext : contextKeyRevocation ≠ contextDelegation := by decide
  refine ⟨hvictim, fun k hk => ?_, fun a ha k _ hk => ?_, fun a ha d hd hsigned => ?_⟩
  · exact hcontext (alliedLedger_of_holderSigned hvictim hk).2.1
  · exact hcontext (alliedLedger_of_holderSigned ha hk).2.1
  · -- the one grant there is goes to key 1, who is none of the allies
    obtain ⟨-, -, hmatches⟩ := alliedLedger_of_holderSigned ha hsigned
    obtain ⟨m, hm, hkey, hvalue⟩ := member_of_matches hmatches
      (show (py "subject", .str d.subject) ∈ _ from List.mem_cons_of_mem _ List.mem_cons_self)
    have hfive : m ∈ [(py "issuer", .str (constAddress 4)), (py "subject", .str (constAddress 1)),
        (py "scopes", strs (sortedScopes (plainGrant 4 1).scopes)),
        (py "issued_at", .str (canonicalTimestamp .zero)),
        (py "expires_at", .str (canonicalTimestamp (plainGrant 4 1).expiresAt))] := hm
    have hname : py "subject" = m.1 := hkey
    simp only [List.mem_cons, List.not_mem_nil, or_false] at hfive
    rcases hfive with rfl | rfl | rfl | rfl | rfl
    · exact absurd hname (by decide)
    · have hsubject : d.subject = constAddress 1 := matches_str_iff.mp hvalue
      exact hvictim (hsubject ▸ hd)
    · exact absurd hname (by decide)
    · exact absurd hname (by decide)
    · exact absurd hname (by decide)

/-- None of it revokes key 1, and the last call revokes key 2. -/
theorem stranger_recall_refused_allied :
    (run alliedHost alliedCalls).isKeyRevoked (constAddress 1) = false ∧
      (run alliedHost alliedCalls).isKeyRevoked (constAddress 2) = true := by
  have hne : ∀ b : UInt8, b ≠ 1 → constAddress b ≠ constAddress 1 :=
    fun b hb h => hb (constAddress_inj h)
  refine ⟨?_, decide_eq_true (selfRecall_holds (by decide))⟩
  refine (stranger_recall_refused alliedHost
    (fun key message => ledgerSigns alliedFree alliedLedger key message = true)
    (idealHost_unforgeable _) allies (constAddress 1) uninvolved_alliedHost alliedCalls ?_).2
  intro call hcall k hpresents hk chain hchain hrooted hlinked hends link hlink hsigned hin
  simp only [alliedCalls, List.mem_cons, List.not_mem_nil, or_false] at hcall
  rcases hcall with rfl | rfl | rfl
  · -- the grant of key 4 is no chain from key 2
    cases hpresents
    cases hchain
    exact absurd (constAddress_inj (Option.some.inj hrooted)) (by decide)
  · -- and the grant that leads to key 1 carries no signature
    cases hpresents
    cases hchain
    rcases List.mem_pair.mp hlink with rfl | rfl
    · exact Or.inr rfl
    · obtain ⟨_, raw, _, _, hraw, _, hverify⟩ := verifyByAddress_ok_iff.mp hsigned
      rw [show raw = [] from (Except.ok.inj hraw).symm] at hverify
      exact absurd hverify Bool.false_ne_true
  · cases hpresents
    exact absurd hk (hne 2 (by decide))

/-- A STRANGER RECALLS: key 1 has signed nothing and nobody else is involved, yet its key reads
    as revoked. -/
theorem stranger_recalls :
    Unforgeable loneHost (fun key message => ledgerSigns strangerFree [] key message = true) ∧
      Uninvolved loneHost (fun key message => ledgerSigns strangerFree [] key message = true)
        {constAddress 2} (constAddress 1) ∧
      (run loneHost [(plainNow, .revokeKey selfMadeRecall)]).isKeyRevoked (constAddress 1)
        = true := by
  refine ⟨idealHost_unforgeable _, uninvolved_loneHost, ?_⟩
  have hgrant : (plainGrant 2 1).Signed loneHost :=
    plainGrant_signed fun _ _ => ledgerSigns_of_free (by decide)
  have hchain : AsciiJson (dumpChain selfMadeRecall.chain) := by
    refine .obj (fun m hm => ?_) fun m hm => ?_
    · rw [List.mem_singleton.mp hm]
      decide
    · rw [List.mem_singleton.mp hm]
      refine .arr fun v hv => ?_
      rw [List.mem_singleton.mp hv]
      exact (asciiJson_plainGrant 2 1).2
  have hsig : verifyByAddress loneHost selfMadeRecall.issuer contextKeyRevocation
      selfMadeRecall.payload selfMadeRecall.signature = .ok () :=
    verifyByAddress_idealHost (signingKey_constAddress 2) (by decide)
      (KeyRevocation.asciiJson_payload (isAscii_constAddress 1) (isAscii_constAddress 2) hchain)
      fun _ _ => ledgerSigns_of_free (by decide)
  have hproof : ProvesControl loneHost selfMadeRecall ⟨[plainGrant 2 1]⟩ :=
    ⟨rfl, fun link hlink => List.mem_singleton.mp hlink ▸ hgrant, List.isChain_singleton _,
      fun last hlast => by cases hlast; rfl⟩
  have hverify : selfMadeRecall.verify loneHost plainNow = .ok () :=
    KeyRevocation.verify_ok_iff.mpr ⟨hsig, Or.inr ⟨_, rfl, hproof⟩⟩
  have hstep : (step loneHost plainNow {} (.revokeKey selfMadeRecall)).Holds
      (.key (constAddress 1)) :=
    step_holds.mpr <| Or.inr ⟨.keyRevocation selfMadeRecall, rfl, hverify, rfl⟩
  exact decide_eq_true hstep

end AgentRevocationRuns
