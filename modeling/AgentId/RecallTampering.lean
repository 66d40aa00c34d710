import AgentId.SignedText
import AgentId.WireForm

/-!
# Key recalls in transit (`delegation.py`)

The signature of a `KeyRevocation` covers the normal form of its text; the registry records the
address as it was delivered.  A transport can respell the address of a recall: the signature
still verifies, and the registry learns a name that no agent has.

* **`recall_survives_iff`** — a recall delivered under its signature and accepted has its effect
  exactly when the address it is delivered with is an address.
* **`self_recall_survives`** — a recall without a proof chain always has its effect.
* **`respelled_recall_accepted`** — an owner recall that is accepted and recalls nothing.
-/

namespace AgentRecallTampering

open AgentPy AgentBase58 AgentJson AgentCanonicalText AgentNormalization AgentJsonRender
  AgentSigning AgentSerde AgentIsoText AgentSignedText AgentDelegation AgentChainVerdict
  AgentRevocation AgentWireForm

/-! ## What a delivered recall shares with the signed one -/

variable {H : Host} {now : Datetime} {reg reg' : RevocationRegistry} {R k : KeyRevocation}
  {raw message : Bytes}

/-- A key recall that is entered verifies, and recalls its own address. -/
theorem revokeKey_ok (h : reg.revokeKey H now k = (.ok (), reg')) :
    k.verify H now = .ok () ∧
      ∀ address, reg'.isKeyRevoked address = true ↔
        reg.isKeyRevoked address = true ∨ address = k.address := by
  obtain ⟨hverify, hholds⟩ :=
    RevocationRegistry.enter_ok (show reg.enter H now (.keyRevocation k) = (.ok (), reg') from h)
  refine ⟨hverify, fun address => ?_⟩
  have hkey : address ∈ reg'.revokedKeys ↔ address ∈ reg.revokedKeys ∨ address = k.address := by
    have := hholds (.key address)
    rwa [Record.recall, Recall.key.injEq] at this
  rw [RevocationRegistry.isKeyRevoked, RevocationRegistry.isKeyRevoked, decide_eq_true_iff,
    decide_eq_true_iff, hkey]

/-- The members of the payload stand in the order they are signed in. -/
theorem payload_sorted (k : KeyRevocation) :
    (([(py "address", .str k.address), (py "chain", dumpChain k.chain),
      (py "issuer", .str k.issuer), (py "revoked_at", .str (canonicalTimestamp k.revokedAt))] :
        Members).map Prod.fst).Pairwise (· ≤ ·) := by
  show [py "address", py "chain", py "issuer", py "revoked_at"].Pairwise (· ≤ ·)
  decide

/-- **THE DELIVERED FIELDS** are spellings of the signed ones. -/
theorem fields_of_matches {same : PyStr → PyStr → Prop} (h : Matches same R.payload k.payload) :
    same R.address k.address ∧ Matches same (dumpChain R.chain) (dumpChain k.chain) := by
  rw [KeyRevocation.payload, KeyRevocation.payload,
    matches_obj_iff (payload_sorted R) (payload_sorted k)] at h
  simp only [List.forall₂_cons] at h
  obtain ⟨⟨-, haddress⟩, ⟨-, hchain⟩, -⟩ := h
  exact ⟨matches_str_iff.mp haddress, hchain⟩

/-- The address of a wire object is the base58 of a key. -/
def DeliversAddress (W : Members) : Prop :=
  ∃ address key, W.lookup (py "address") = some (.str address) ∧
    signingKeyFromAddress address = .ok key

/-- The address of a recall that was read is the one on the wire. -/
theorem lookup_address {W : Members} (h : KeyRevocation.modelValidate H W = .ok k) :
    W.lookup (py "address") = some (.str k.address) := by
  obtain ⟨value, hvalue, h⟩ := bind_ok_iff.mp h
  obtain ⟨_, -, h⟩ := bind_ok_iff.mp h
  obtain ⟨_, -, h⟩ := bind_ok_iff.mp h
  obtain ⟨_, -, h⟩ := bind_ok_iff.mp h
  obtain ⟨_, -, h⟩ := bind_ok_iff.mp h
  obtain ⟨address, haddress, h⟩ := bind_ok_iff.mp h
  obtain ⟨_, -, h⟩ := bind_ok_iff.mp h
  cases h
  rw [getField_ok_iff.mp hvalue, requireStr_ok_iff.mp haddress]

/-- The wire form delivers an address when that of the recall certifies a key. -/
theorem deliversAddress_iff {W : Members} (h : KeyRevocation.modelValidate H W = .ok k) :
    DeliversAddress W ↔ ∃ key, signingKeyFromAddress k.address = .ok key := by
  rw [DeliversAddress, lookup_address h]
  constructor
  · rintro ⟨address, key, haddress, hkey⟩
    cases haddress
    exact ⟨key, hkey⟩
  · rintro ⟨key, hkey⟩
    exact ⟨k.address, key, rfl, hkey⟩

/-- What an accepted delivery under the signature of `R` agrees with `R` on. -/
theorem matches_of_accepted (N : NfcText H.nfc)
    (S : SignedBy H R.issuer contextKeyRevocation R.payload R.signature raw message)
    (hsignature : k.signature = R.signature) (hverify : k.verify H now = .ok ()) :
    Matches (fun s t => H.nfc s = H.nfc t) R.payload k.payload := by
  obtain ⟨hsigned, -⟩ := KeyRevocation.verify_ok_iff.mp hverify
  rw [hsignature] at hsigned
  exact S.matches_of_verify N hsigned

/-- Two addresses with one normal form are one address. -/
theorem address_eq_of_nfc (N : NfcText H.nfc) {a b : PyStr} {key key' : Bytes}
    (ha : signingKeyFromAddress a = .ok key) (hb : signingKeyFromAddress b = .ok key')
    (h : H.nfc a = H.nfc b) : a = b := by
  rwa [N.ascii a (isAscii_of_signingKey ha), N.ascii b (isAscii_of_signingKey hb)] at h

/-- **WHEN A RECALL SURVIVES ITS TRANSPORT**: the address it is delivered with decodes, or the
    key was recalled before. -/
theorem recall_survives_iff (N : NfcText H.nfc) {key : Bytes} {W : Members}
    (hreal : signingKeyFromAddress R.address = .ok key)
    (S : SignedBy H R.issuer contextKeyRevocation R.payload R.signature raw message)
    (hread : KeyRevocation.modelValidate H W = .ok k) (hsignature : k.signature = R.signature)
    (haccept : reg.revokeKey H now k = (.ok (), reg')) :
    reg'.isKeyRevoked R.address = true ↔
      DeliversAddress W ∨ reg.isKeyRevoked R.address = true := by
  obtain ⟨hverify, hrevoked⟩ := revokeKey_ok haccept
  obtain ⟨haddress, -⟩ := fields_of_matches (matches_of_accepted N S hsignature hverify)
  rw [hrevoked, deliversAddress_iff hread]
  constructor
  · rintro (hbefore | heq)
    · exact Or.inr hbefore
    · exact Or.inl ⟨key, heq ▸ hreal⟩
  · rintro (⟨key', hkey'⟩ | hbefore)
    · exact Or.inr (address_eq_of_nfc N hreal hkey' haddress)
    · exact Or.inl hbefore

/-- **SELF-RECALLS SURVIVE**: without a proof chain the address delivered is the signer's, which
    decodes. -/
theorem self_recall_survives (N : NfcText H.nfc) {key : Bytes} {W : Members}
    (hreal : signingKeyFromAddress R.address = .ok key) (hchain : R.chain = none)
    (S : SignedBy H R.issuer contextKeyRevocation R.payload R.signature raw message)
    (hread : KeyRevocation.modelValidate H W = .ok k) (hsignature : k.signature = R.signature)
    (haccept : reg.revokeKey H now k = (.ok (), reg')) :
    reg'.isKeyRevoked R.address = true := by
  obtain ⟨hverify, -⟩ := revokeKey_ok haccept
  obtain ⟨-, hdump⟩ := fields_of_matches (matches_of_accepted N S hsignature hverify)
  have hnone : k.chain = none := by
    cases hk : k.chain with
    | none => rfl
    | some chain =>
        rw [hchain, hk] at hdump
        cases hdump
  obtain ⟨hsigned, hself | ⟨chain, hsome, -⟩⟩ := KeyRevocation.verify_ok_iff.mp hverify
  · obtain ⟨key', -, -, hkey', -⟩ := verifyByAddress_ok_iff.mp hsigned
    exact (recall_survives_iff N hreal S hread hsignature haccept).mpr
      (Or.inl ((deliversAddress_iff hread).mpr ⟨key', hself ▸ hkey'⟩))
  · rw [hnone] at hsome
    cases hsome

/-! ## A recall respelled in transit -/

def linkRaw : Bytes := List.replicate 64 1

def recallRaw : Bytes := List.replicate 64 2

/-- The grant of the owner, key 2, to an agent. -/
def ownedLink (address : PyStr) : Delegation where
  issuer := constAddress 2
  subject := address
  scopes := ∅
  issuedAt := moment2026
  expiresAt := moment2026
  signature := b64encode linkRaw
  critical := []
  extra := []
  extra_nodup := List.nodup_nil
  extra_shadows_nothing := nothing_shadows
  critical_present := nothing_critical

/-- The owner's recall of the agent, with the grant as its proof. -/
def ownerRecall (address : PyStr) : KeyRevocation :=
  ⟨address, constAddress 2, moment2026, some ⟨[ownedLink address]⟩, .str (b64encode recallRaw)⟩

/-- What the owner signed about the agent of key 1. -/
def ownerTable : List Signature :=
  [⟨constKey 2, linkRaw, contextDelegation, (ownedLink (constAddress 1)).payload⟩,
    ⟨constKey 2, recallRaw, contextKeyRevocation, (ownerRecall (constAddress 1)).payload⟩]

def ownedMembers (address : PyStr) : Members :=
  [(py "issuer", .str (constAddress 2)), (py "subject", .str address),
    (py "scopes", strs (sortedScopes ∅)), (py "issued_at", .str (canonicalTimestamp moment2026)),
    (py "expires_at", .str (canonicalTimestamp moment2026))]

theorem ownedLink_payload (address : PyStr) :
    (ownedLink address).payload = .obj (ownedMembers address) := rfl

theorem ownedLink_modelDump (address : PyStr) : (ownedLink address).modelDump
    = .obj (ownedMembers address ++ [(py "signature", .str (b64encode linkRaw))]) := rfl

/-- The members of a grant to one spelling of an address match those of a grant to another. -/
theorem matches_ownedMembers {a b : PyStr} (h : SameText a b) {rest : Members}
    (hrest : ∀ m ∈ rest, FloatFree m.2) :
    Matches SameText (.obj (ownedMembers a ++ rest)) (.obj (ownedMembers b ++ rest)) := by
  have hrefl : ∀ v, FloatFree v → Matches SameText v v :=
    fun v hv => @matches_refl SameText (fun _ => rfl) v hv
  have hscopes : FloatFree (strs (sortedScopes ∅)) := .arr fun v hv => by
    obtain ⟨s, -, rfl⟩ := List.mem_map.mp hv
    exact .str s
  refine @matches_obj_of_forall₂ SameText (fun _ => rfl) _ _ ?_
  refine .cons ⟨rfl, hrefl _ (.str _)⟩ (.cons ⟨rfl, .str h⟩ (.cons ⟨rfl, hrefl _ hscopes⟩ ?_))
  refine .cons ⟨rfl, hrefl _ (.str _)⟩ (.cons ⟨rfl, hrefl _ (.str _)⟩ ?_)
  exact List.forall₂_same.mpr fun m hm => ⟨rfl, hrefl _ (hrest m hm)⟩

/-- Addresses of one normal form make links of one payload. -/
theorem matches_ownedLink {a b : PyStr} (h : SameText a b) :
    Matches SameText (ownedLink a).payload (ownedLink b).payload := by
  rw [ownedLink_payload, ownedLink_payload, ← List.append_nil (ownedMembers a),
    ← List.append_nil (ownedMembers b)]
  exact matches_ownedMembers h fun m hm => absurd hm List.not_mem_nil

/-- And recalls of one payload. -/
theorem matches_ownerRecall {a b : PyStr} (h : SameText a b) :
    Matches SameText (ownerRecall a).payload (ownerRecall b).payload := by
  have hlink : Matches SameText (ownedLink a).modelDump (ownedLink b).modelDump := by
    rw [ownedLink_modelDump, ownedLink_modelDump]
    refine matches_ownedMembers h fun m hm => ?_
    rw [List.mem_singleton.mp hm]
    exact .str _
  have hrefl : ∀ s, Matches SameText (.str s) (.str s) := fun s => .str rfl
  refine @matches_obj_of_forall₂ SameText (fun _ => rfl) _ _ ?_
  refine .cons ⟨rfl, .str h⟩ (.cons ⟨rfl, ?_⟩ (.cons ⟨rfl, hrefl _⟩ (.cons ⟨rfl, hrefl _⟩ .nil)))
  refine @matches_obj_of_forall₂ SameText (fun _ => rfl) _ _ (.cons ⟨rfl, ?_⟩ .nil)
  refine .arr rfl fun p hp => ?_
  rw [List.mem_singleton.mp hp]
  exact hlink

theorem asciiJson_ownedMembers (b : UInt8) {rest : Members} (hrest : AsciiJson (.obj rest)) :
    AsciiJson (.obj (ownedMembers (constAddress b) ++ rest)) := by
  have hscopes : AsciiJson (strs (sortedScopes ∅)) := asciiJson_strs fun s hs =>
    absurd ((Finset.mem_sort _).mp hs) (Finset.notMem_empty s)
  refine .obj_cons (by decide) (.str (isAscii_constAddress 2)) ?_
  refine .obj_cons (by decide) (.str (isAscii_constAddress b)) ?_
  refine .obj_cons (by decide) hscopes ?_
  refine .obj_cons (by decide) (asciiJson_timestamp _) ?_
  exact .obj_cons (by decide) (asciiJson_timestamp _) hrest

theorem asciiJson_ownerRecall (b : UInt8) :
    AsciiJson (ownerRecall (constAddress b)).payload := by
  have hlink : AsciiJson (ownedLink (constAddress b)).modelDump := by
    rw [ownedLink_modelDump]
    exact asciiJson_ownedMembers b (.obj_cons (by decide) (.str (by decide +kernel)) .obj_nil)
  have hlinks : AsciiJson (.arr [(ownedLink (constAddress b)).modelDump]) :=
    .arr fun v hv => List.mem_singleton.mp hv ▸ hlink
  refine .obj_cons (by decide) (.str (isAscii_constAddress b)) ?_
  refine .obj_cons (by decide) (.obj_cons (by decide) hlinks .obj_nil) ?_
  refine .obj_cons (by decide) (.str (isAscii_constAddress 2)) ?_
  exact .obj_cons (by decide) (asciiJson_timestamp _) .obj_nil

/-- Everything the owner has signed has a signing input. -/
theorem ownerTable_input : ∀ s ∈ ownerTable,
    ∃ message, signingInput (tableHost ownerTable) s.context s.payload = .ok message := by
  have hlink : AsciiJson (ownedLink (constAddress 1)).payload := by
    rw [ownedLink_payload, ← List.append_nil (ownedMembers _)]
    exact asciiJson_ownedMembers 1 .obj_nil
  intro s hs
  rcases List.mem_cons.mp hs with rfl | hs
  · exact signingInput_ascii sampleNfc_text.toNfcLaws (show IsContext contextDelegation by decide)
      hlink
  · rw [List.mem_singleton.mp hs]
    exact signingInput_ascii sampleNfc_text.toNfcLaws
      (show IsContext contextKeyRevocation by decide) (asciiJson_ownerRecall 1)

/-- The owner's recall verifies under every spelling of the agent's address. -/
theorem ownerRecall_verify {address : PyStr} (h : SameText (constAddress 1) address)
    (now : Datetime) : (ownerRecall address).verify (tableHost ownerTable) now = .ok () := by
  have hlinkMem : (⟨constKey 2, linkRaw, contextDelegation,
      (ownedLink (constAddress 1)).payload⟩ : Signature) ∈ ownerTable := List.mem_cons_self
  have hrecallMem : (⟨constKey 2, recallRaw, contextKeyRevocation,
      (ownerRecall (constAddress 1)).payload⟩ : Signature) ∈ ownerTable :=
    List.mem_cons_of_mem _ List.mem_cons_self
  obtain ⟨linkMessage, hlinkInput⟩ := ownerTable_input _ hlinkMem
  obtain ⟨recallMessage, hrecallInput⟩ := ownerTable_input _ hrecallMem
  refine KeyRevocation.verify_ok_iff.mpr ⟨?_, Or.inr ⟨_, rfl, rfl, ?_, .singleton _, ?_⟩⟩
  · exact tableHost_verify hrecallMem (signingKey_constAddress 2) hrecallInput
      (matches_ownerRecall h)
  · intro link hlink
    rw [List.mem_singleton.mp hlink]
    exact tableHost_verify hlinkMem (signingKey_constAddress 2) hlinkInput (matches_ownedLink h)
  · intro last hlast
    cases hlast
    rfl

theorem ownerRecall_signedBy : ∃ message,
    SignedBy (tableHost ownerTable) (constAddress 2) contextKeyRevocation
      (ownerRecall (constAddress 1)).payload (.str (b64encode recallRaw)) recallRaw message := by
  have hmem : (⟨constKey 2, recallRaw, contextKeyRevocation,
      (ownerRecall (constAddress 1)).payload⟩ : Signature) ∈ ownerTable :=
    List.mem_cons_of_mem _ List.mem_cons_self
  obtain ⟨message, hinput⟩ := ownerTable_input _ hmem
  refine ⟨message, ?_, decodeSignature_b64encode _, hinput, ?_⟩
  · exact (KeyRevocation.verify_ok_iff.mp (ownerRecall_verify rfl plainNow)).1
  · refine @tableHost_signatureOver _ _ _ hinput fun s' hs' hraw => ?_
    rcases List.mem_cons.mp hs' with rfl | hs'
    · exact absurd hraw (show linkRaw ≠ recallRaw by decide)
    · exact List.mem_singleton.mp hs'

/-- What a transport delivers, and what is read from it. -/
theorem ownerRecall_delivered (address : PyStr) :
    KeyRevocation.modelValidate (tableHost ownerTable) (ownerRecall address).modelDump
      = .ok (ownerRecall address) := by
  have hyear : FourDigitYear moment2026 := show yearThousand ≤ moment2026.ms by decide
  refine KeyRevocation.modelValidate_modelDump tableHost_isoReads ⟨hyear, ?_⟩
  intro chain hchain link hlink
  cases hchain
  rw [List.mem_singleton.mp hlink]
  exact ⟨hyear, hyear⟩

/-- The recall is entered, whichever of these spellings its address has. -/
theorem ownerRecall_accepted {address : PyStr} (h : SameText (constAddress 1) address) :
    RevocationRegistry.revokeKey (tableHost ownerTable) plainNow {} (ownerRecall address)
      = (.ok (), { revokedKeys := insert address ∅ }) := by
  rw [RevocationRegistry.revokeKey, ownerRecall_verify h plainNow]
  rfl

/-- Delivered as it was signed, the owner's recall has its effect. -/
theorem recall_survives_iff_owner :
    RevocationRegistry.isKeyRevoked { revokedKeys := insert (constAddress 1) ∅ } (constAddress 1)
      = true := by
  obtain ⟨message, hsigned⟩ := ownerRecall_signedBy
  exact (recall_survives_iff tableHost_nfcText (signingKey_constAddress 1) hsigned
    (ownerRecall_delivered _) rfl (ownerRecall_accepted rfl)).mpr
    (Or.inl ⟨_, _, rfl, signingKey_constAddress 1⟩)

/-- **A RECALL NEUTRALISED IN TRANSIT**: its address is respelled, in the recall and in its
    proof chain; it is accepted, and the agent's key is not revoked. -/
theorem respelled_recall_accepted : ∃ message,
    SignedBy (tableHost ownerTable) (constAddress 2) contextKeyRevocation
        (ownerRecall (constAddress 1)).payload (ownerRecall (constAddress 1)).signature recallRaw
        message ∧
      signingKeyFromAddress (constAddress 1) = .ok (constKey 1) ∧
      KeyRevocation.modelValidate (tableHost ownerTable)
          (ownerRecall (respell (constAddress 1))).modelDump
        = .ok (ownerRecall (respell (constAddress 1))) ∧
      (ownerRecall (respell (constAddress 1))).signature
        = (ownerRecall (constAddress 1)).signature ∧
      (RevocationRegistry.revokeKey (tableHost ownerTable) plainNow {}
        (ownerRecall (respell (constAddress 1)))).1 = .ok () ∧
      (RevocationRegistry.revokeKey (tableHost ownerTable) plainNow {}
        (ownerRecall (respell (constAddress 1)))).2.isKeyRevoked (constAddress 1) = false := by
  obtain ⟨message, hsigned⟩ := ownerRecall_signedBy
  have hrespelled : SameText (constAddress 1) (respell (constAddress 1)) := sampleNfc_respell _
  refine ⟨message, hsigned, signingKey_constAddress 1, ownerRecall_delivered _, rfl, ?_⟩
  rw [ownerRecall_accepted hrespelled]
  refine ⟨rfl, decide_eq_false fun hmem => ?_⟩
  have heq : constAddress 1 = respell (constAddress 1) := by
    rcases Finset.mem_insert.mp hmem with h | h
    · exact h
    · exact absurd h (Finset.notMem_empty _)
  have hkelvin : kelvin ∈ respell (constAddress 1) := by decide +kernel
  have := isAscii_constAddress 1 kelvin (heq ▸ hkelvin)
  exact absurd this (by decide)

end AgentRecallTampering
