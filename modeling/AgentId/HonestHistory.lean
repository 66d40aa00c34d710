import AgentId.RotationGossip

/-!
# Honest identities

An honest chain is a chain that resolves; an honest history commits to a real next key as well,
which matters only where keys are stolen.  Whoever holds a key of it signs only the records of that
history, except where the key is stolen.  Two facts about
one accepted rotation carry everything here and in the thefts: under an unstolen key it is the
honest rotation at that place (**`honest_step`**), and under an honest commitment it reveals the
honest successor (**`committed_step`**).

* **`stateAt_eq_of_unstolen`** — with no key stolen, what resolves is a prefix of the history.
* **`honest_identity_safe`** — with no key stolen, no run frames or diverts the identity.
-/

namespace AgentHonestHistory

open AgentPy AgentBase58 AgentJson AgentCanonicalText AgentSigning AgentSerde AgentRotation
  AgentRotationText AgentPrefixLog AgentRotationRegistry AgentRotationGossip

/-! ## Honest histories -/

/-- A chain that resolves, whose last commitment is a hex digest of whatever. -/
structure HonestChain (H : Host) where
  chain : RotationChain
  state : RotationState
  resolves : chain.resolve H = .ok state
  isHex_last : IsHex state.nextCommitment

namespace HonestChain

variable {H : Host}

/-- The stable name, `A₀`. -/
def identity (h : HonestChain H) : PyStr := h.chain.identity

/-- The number of rotations so far, `n`. -/
def length (h : HonestChain H) : ℕ := h.chain.rotations.length

/-- The state is the one after all the rotations. -/
theorem state_eq (h : HonestChain H) : h.state = h.chain.stateAt h.length :=
  resolve_eq_stateAt h.resolves

/-- A key for the inception and one for each rotation. -/
theorem length_addresses (h : HonestChain H) : h.chain.addresses.length = h.length + 1 := by
  rw [RotationChain.addresses, List.length_cons, List.length_map, length]

/-- **EVERY COMMITMENT BUT THE LAST** is to the key of the next address. -/
theorem commitment_met (h : HonestChain H) {k : ℕ} (hk : k < h.length) :
    commitmentForAddress H (h.chain.stateAt (k + 1)).currentAddress =
      .ok (h.chain.stateAt k).nextCommitment := by
  obtain ⟨hstep, hnext⟩ := stepOk_stateAt h.resolves hk
  rw [hnext]
  exact hstep.reveals

/-- Every standing commitment is hexadecimal. -/
theorem isHex_commitment (h : HonestChain H) {k : ℕ} (hk : k ≤ h.length) :
    IsHex (h.chain.stateAt k).nextCommitment := by
  rcases Nat.lt_or_eq_of_le hk with hlt | rfl
  · exact isHex_of_commitment (h.commitment_met hlt)
  · rw [← h.state_eq]
    exact h.isHex_last

/-- The address in force certifies a key. -/
theorem exists_currentKey (h : HonestChain H) :
    ∃ key, signingKeyFromAddress h.state.currentAddress = .ok key := by
  rw [h.state_eq]
  cases hn : h.length with
  | zero =>
      obtain ⟨key, _, _, hkey, -⟩ := verifyByAddress_ok_iff.mp (resolve_ok_iff.mp h.resolves).1
      exact ⟨key, hkey⟩
  | succ n =>
      obtain ⟨key, hkey, -⟩ := commitmentForAddress_ok_iff.mp (h.commitment_met (k := n) (by omega))
      exact ⟨key, hkey⟩

theorem isAscii_identity (h : HonestChain H) : IsAscii h.identity := by
  obtain ⟨key, _, _, hkey, -⟩ := verifyByAddress_ok_iff.mp (resolve_ok_iff.mp h.resolves).1
  exact isAscii_of_signingKey hkey

end HonestChain

/-- An honest chain, and the key its last commitment is to. -/
structure HonestHistory (H : Host) extends HonestChain H where
  nextKey : Bytes
  commits : keyCommitment H nextKey = .ok state.nextCommitment

instance honestHistoryCoe {H : Host} : Coe (HonestHistory H) (HonestChain H) :=
  ⟨HonestHistory.toHonestChain⟩

namespace HonestHistory

variable {H : Host}

/-- The address of the pre-committed next key. -/
def nextAddress (h : HonestHistory H) : PyStr := addressPrefix ++ base58Encode h.nextKey

/-- `A₀, …, Aₙ` and the address of the pre-committed next key. -/
def line (h : HonestHistory H) : List PyStr := h.chain.addresses ++ [h.nextAddress]

/-- The address after the last certifies the next key. -/
theorem signingKey_nextAddress (h : HonestHistory H) :
    signingKeyFromAddress h.nextAddress = .ok h.nextKey :=
  signingKeyFromAddress_ok_iff.mpr ⟨(keyCommitment_ok_iff.mp h.commits).1, rfl⟩

/-- The line of addresses has those in force. -/
theorem line_getElem? (h : HonestHistory H) {k : ℕ} (hk : k ≤ h.length) :
    h.line[k]? = some (h.chain.stateAt k).currentAddress := by
  rw [line, List.getElem?_append_left (by rw [h.length_addresses]; omega)]
  exact stateAt_currentAddress h.chain hk

/-- And then the one committed to. -/
theorem line_next (h : HonestHistory H) : h.line[h.length + 1]? = some h.nextAddress := by
  rw [line, List.getElem?_append_right (by rw [h.length_addresses]), h.length_addresses, Nat.sub_self]
  rfl

theorem line_eq_some_lt (h : HonestHistory H) {k : ℕ} {a : PyStr} (ha : h.line[k]? = some a) :
    k ≤ h.length + 1 := by
  have := (List.getElem?_eq_some_iff.mp ha).1
  rw [line, List.length_append, h.length_addresses, List.length_singleton] at this
  omega

/-- **EVERY STANDING COMMITMENT IS MET BY THE NEXT ADDRESS OF THE LINE.** -/
theorem line_commitment (h : HonestHistory H) {k : ℕ} (hk : k ≤ h.length) :
    ∃ a, h.line[k + 1]? = some a ∧
      commitmentForAddress H a = .ok (h.chain.stateAt k).nextCommitment := by
  rcases Nat.lt_or_eq_of_le hk with hlt | rfl
  · exact ⟨_, h.line_getElem? hlt, h.commitment_met hlt⟩
  · refine ⟨_, h.line_next, commitmentForAddress_ok_iff.mpr ⟨_, h.signingKey_nextAddress, ?_⟩⟩
    rw [← h.state_eq]
    exact (keyCommitment_ok_iff.mp h.commits).2

end HonestHistory

/-! ## One accepted rotation -/

/-- The holder of the key of `a` has signed no rotation but those of the history. -/
def SignsOnly (H : Host) (signed : Bytes → Bytes → Prop) (h : HonestChain H) (a : PyStr) : Prop :=
  ∀ r : KeyRotation, HolderSigned H signed a contextKeyRotation r.payload →
    ∃ s ∈ h.chain.rotations, SameBytes H contextKeyRotation r.payload s.payload

/-- The holder of the inception key has signed no inception but that of the history. -/
def InceptsOnce (H : Host) (signed : Bytes → Bytes → Prop) (h : HonestChain H) : Prop :=
  ∀ i : Inception, HolderSigned H signed h.identity contextInception i.payload →
    SameBytes H contextInception i.payload h.chain.inception.payload

variable {H : Host} {signed : Bytes → Bytes → Prop}

theorem stateAt_identity (chain : RotationChain) (k : ℕ) :
    (chain.stateAt k).identity = chain.identity := after_identity _ _

/-- **UNDER AN UNSTOLEN KEY** an accepted rotation is the honest one at its place. -/
theorem honest_step (N : NfcLaws H.nfc) (U : Unforgeable H signed) (h : HonestChain H)
    {st : RotationState} {r : KeyRotation} (hstep : StepOk H st r)
    (hid : st.identity = h.identity) (honly : SignsOnly H signed h st.currentAddress) :
    st.sequence < h.length ∧ st.advance r = h.chain.stateAt (st.sequence + 1) ∧
      ∃ s, h.chain.rotations[st.sequence]? = some s ∧
        SameBytes H contextKeyRotation r.payload s.payload := by
  have hsigned := holderSigned_of_verify U hstep.verified
  rw [hstep.previous] at hsigned
  obtain ⟨s, hs, hbytes⟩ := honly r hsigned
  obtain ⟨j, hj⟩ := List.getElem?_of_mem hs
  obtain ⟨hlt, hget⟩ := List.getElem?_eq_some_iff.mp hj
  obtain ⟨hstep', hnext⟩ := stepOk_stateAt h.resolves hlt
  rw [hget] at hstep' hnext
  have hident : r.identity = s.identity := by
    rw [hstep.identity, hstep'.identity, hid, stateAt_identity]
    rfl
  have hhex : IsHex s.nextCommitment := by
    have := h.isHex_commitment (k := j + 1) hlt
    rwa [hnext] at this
  obtain ⟨haddress, hcommitment, hsequence⟩ := rotation_of_bytes N hbytes hident
    (isPlain_of_commitment hstep.reveals) (isPlain_of_commitment hstep'.reveals) hhex
    (isPlain_previous hstep.verified) (isPlain_previous hstep'.verified)
  -- the sequence in the bytes puts the honest rotation at the same place
  have hplace : j = st.sequence := by
    have h1 := hstep.sequence
    have h2 := hstep'.sequence
    rw [stateAt_sequence h.resolves hlt.le] at h2
    omega
  subst hplace
  refine ⟨hlt, ?_, s, hj, hbytes⟩
  rw [hnext, RotationState.advance, RotationState.advance, haddress, hcommitment, hsequence, hid,
    stateAt_identity]
  rfl

/-- **UNDER AN HONEST COMMITMENT** an accepted rotation reveals the honest successor. -/
theorem committed_step (C : CollisionFree H) (h : HonestHistory H) {st : RotationState}
    {r : KeyRotation} (hstep : StepOk H st r) {k : ℕ} (hk : k ≤ h.length)
    (hcommitment : st.nextCommitment = (h.chain.stateAt k).nextCommitment) :
    h.line[k + 1]? = some r.nextAddress := by
  obtain ⟨a, ha, hmet⟩ := h.line_commitment hk
  have hreveals := hstep.reveals
  rw [hcommitment] at hreveals
  rw [ha, commitmentForAddress_inj C hmet hreveals]

/-- An inception of the identity, its key unstolen, opens the honest history. -/
theorem honest_genesis (N : NfcLaws H.nfc) (U : Unforgeable H signed) (h : HonestChain H)
    (hincepts : InceptsOnce H signed h) {c : RotationChain} {st : RotationState}
    (hc : c.resolve H = .ok st) (hid : c.identity = h.identity) :
    c.stateAt 0 = h.chain.stateAt 0 ∧
      SameBytes H contextInception c.inception.payload h.chain.inception.payload := by
  obtain ⟨hverified, -, -⟩ := resolve_ok_iff.mp hc
  have hsigned := holderSigned_of_verify U hverified
  have haddr : c.inception.address = h.chain.inception.address := hid
  rw [haddr] at hsigned
  have hbytes := hincepts c.inception hsigned
  have hcommitment := inception_of_bytes N hbytes haddr (h.isHex_commitment (Nat.zero_le _))
  refine ⟨?_, hbytes⟩
  show RotationState.mk c.inception.address c.inception.address c.inception.nextCommitment 0 = _
  rw [haddr, hcommitment]
  rfl

/-! ## No key stolen -/

/-- No holder of a key in force has signed anything but the history. -/
structure Unstolen (H : Host) (signed : Bytes → Bytes → Prop) (h : HonestChain H) : Prop where
  incepts : InceptsOnce H signed h
  signs : ∀ a ∈ h.chain.addresses, SignsOnly H signed h a

/-- The key in force at every point of the history signs the history only. -/
theorem Unstolen.signs_stateAt {h : HonestChain H} (hu : Unstolen H signed h) {k : ℕ}
    (hk : k ≤ h.length) : SignsOnly H signed h (h.chain.stateAt k).currentAddress :=
  hu.signs _ (List.mem_of_getElem? (stateAt_currentAddress h.chain hk))

/-- **WHAT RESOLVES IS A PREFIX OF THE HISTORY**: state by state. -/
theorem stateAt_eq_of_unstolen (N : NfcLaws H.nfc) (U : Unforgeable H signed)
    (h : HonestChain H) (hu : Unstolen H signed h) {c : RotationChain} {st : RotationState}
    (hc : c.resolve H = .ok st) (hid : c.identity = h.identity) {k : ℕ}
    (hk : k ≤ c.rotations.length) : k ≤ h.length ∧ c.stateAt k = h.chain.stateAt k := by
  induction k with
  | zero => exact ⟨Nat.zero_le _, (honest_genesis N U h hu.incepts hc hid).1⟩
  | succ k ih =>
      -- the state before is honest, so an honest key signed this rotation
      obtain ⟨hkh, hst⟩ := ih (by omega)
      obtain ⟨hstep, hnext⟩ := stepOk_stateAt hc hk
      have hseq : (c.stateAt k).sequence = k := stateAt_sequence hc (by omega)
      have honly : SignsOnly H signed h (c.stateAt k).currentAddress := by
        rw [hst]
        exact hu.signs_stateAt hkh
      obtain ⟨hlt, hadvance, -⟩ :=
        honest_step N U h hstep ((stateAt_identity c k).trans hid) honly
      rw [hseq] at hlt hadvance
      exact ⟨hlt, hnext.trans hadvance⟩

/-- The fingerprints of what resolves are those of the history. -/
theorem fingerprint_eq_of_unstolen (N : NfcLaws H.nfc) (U : Unforgeable H signed)
    (h : HonestChain H) (hu : Unstolen H signed h) {c : RotationChain} {st : RotationState}
    (hc : c.resolve H = .ok st) (hid : c.identity = h.identity) {fps honest : List PyStr}
    (hf : c.fingerprints H = .ok fps) (hh : h.chain.fingerprints H = .ok honest) {i : ℕ}
    {fp : PyStr} (hfp : fps[i]? = some fp) : honest[i]? = some fp := by
  obtain ⟨⟨first, hfirst, h0⟩, hrest⟩ := fingerprints_getElem? hf
  obtain ⟨⟨first', hfirst', h0'⟩, hrest'⟩ := fingerprints_getElem? hh
  have hlen := fingerprints_length hc hf
  rw [resolve_sequence hc] at hlen
  have hi := (List.getElem?_eq_some_iff.mp hfp).1
  cases i with
  | zero =>
      obtain ⟨-, message, hm, hm'⟩ := honest_genesis N U h hu.incepts hc hid
      have e1 := inceptionIdentity_ok_iff.mpr ⟨message, hm, rfl⟩
      have e2 := inceptionIdentity_ok_iff.mpr ⟨message, hm', rfl⟩
      rw [h0', Except.ok.inj (hfirst'.symm.trans e2), ← hfp, h0,
        Except.ok.inj (hfirst.symm.trans e1)]
  | succ k =>
      have hk : k < c.rotations.length := by omega
      obtain ⟨hkh, hst⟩ := stateAt_eq_of_unstolen N U h hu hc hid hk.le
      obtain ⟨hstep, -⟩ := stepOk_stateAt hc hk
      have hseq : (c.stateAt k).sequence = k := stateAt_sequence hc hk.le
      have honly : SignsOnly H signed h (c.stateAt k).currentAddress := by
        rw [hst]
        exact hu.signs_stateAt hkh
      obtain ⟨-, -, s, hs, message, hm, hm'⟩ :=
        honest_step N U h hstep ((stateAt_identity c k).trans hid) honly
      rw [hseq] at hs
      obtain ⟨fpk, hr, hfpk⟩ := hrest k _ (List.getElem?_eq_getElem hk)
      obtain ⟨fpk', hr', hfpk'⟩ := hrest' k s hs
      have e1 := rotationIdentity_ok_iff.mpr ⟨message, hm, rfl⟩
      have e2 := rotationIdentity_ok_iff.mpr ⟨message, hm', rfl⟩
      rw [hfpk', Except.ok.inj (hr'.symm.trans e2), ← hfp, hfpk, Except.ok.inj (hr.symm.trans e1)]

/-- An honest chain has fingerprints. -/
theorem HonestChain.exists_fingerprints (h : HonestChain H) :
    ∃ honest, h.chain.fingerprints H = .ok honest := by
  obtain ⟨_, honest, hsteps⟩ := stepsOf_resolve h.resolves
  exact ⟨honest, hsteps.fingerprints_ok⟩

/-- **NEITHER FRAMED NOR DIVERTED**: with no key stolen, after any run the identity is not
    duplicitous, resolves to one of its own addresses, and stands at a prefix of its history. -/
theorem honest_identity_safe (H : Host) (signed : Bytes → Bytes → Prop) (N : NfcLaws H.nfc)
    (U : Unforgeable H signed) (h : HonestChain H) (hu : Unstolen H signed h)
    (chains : List RotationChain) :
    (RotationRegistry.learnAll H {} chains).isDuplicitous h.identity = false ∧
      (∃ a ∈ h.chain.addresses,
        (RotationRegistry.learnAll H {} chains).resolve h.identity = .ok a) ∧
      ((RotationRegistry.learnAll H {} chains).state h.identity = none ∨
        ∃ k ≤ h.length, ∃ st, (h.chain.take k).resolve H = .ok st ∧
          (RotationRegistry.learnAll H {} chains).state h.identity = some st) := by
  have ht := learnAll_tracks H h.identity chains
  obtain ⟨honest, hh⟩ := h.exists_fingerprints
  have hclean : (RotationRegistry.learnAll H {} chains).isDuplicitous h.identity = false := by
    rw [← Bool.not_eq_true, ht.duplicity, View.forked_learnAll_iff]
    -- two chains that contradict each other would both be prefixes of the history
    rintro ⟨a, ha, b, hb, hab⟩
    obtain ⟨c, -, hca⟩ := List.mem_filterMap.mp ha
    obtain ⟨d, -, hdb⟩ := List.mem_filterMap.mp hb
    obtain ⟨hcx, ⟨_, hcr⟩, hcf⟩ := history_eq_some_iff.mp hca
    obtain ⟨hdx, ⟨_, hdr⟩, hdf⟩ := history_eq_some_iff.mp hdb
    refine hab (compatible_iff.mpr fun i x y hx hy => ?_)
    have e1 := fingerprint_eq_of_unstolen N U h hu hcr hcx hcf hh hx
    have e2 := fingerprint_eq_of_unstolen N U h hu hdr hdx hdf hh hy
    exact Option.some.inj (e1.symm.trans e2)
  have hstate : ∀ st, (RotationRegistry.learnAll H {} chains).state h.identity = some st →
      ∃ k ≤ h.length, st = h.chain.stateAt k := by
    intro st hst
    obtain ⟨c, hcx, hcr, -⟩ := ht.known st hst
    obtain ⟨hk, heq⟩ := stateAt_eq_of_unstolen N U h hu hcr hcx le_rfl
    exact ⟨_, hk, (resolve_eq_stateAt hcr).trans heq⟩
  refine ⟨hclean, ?_, ?_⟩
  · rw [RotationRegistry.resolve, hclean]
    simp only [Bool.false_eq_true, if_false]
    cases hst : (RotationRegistry.learnAll H {} chains).state h.identity with
    | none => exact ⟨h.identity, List.mem_cons_self, rfl⟩
    | some st =>
        obtain ⟨k, hk, rfl⟩ := hstate st hst
        exact ⟨_, List.mem_of_getElem? (stateAt_currentAddress h.chain hk), rfl⟩
  · cases hst : (RotationRegistry.learnAll H {} chains).state h.identity with
    | none => exact Or.inl rfl
    | some st =>
        obtain ⟨k, hk, rfl⟩ := hstate st hst
        exact Or.inr ⟨k, hk, _, resolve_take h.resolves k, rfl⟩

/-! ### Histories of the ideal service -/

section Ledger

variable {free : Bytes → Bool} {ledger : Ledger}

/-- Who signed what, by a ledger. -/
def Holders (free : Bytes → Bool) (ledger : Ledger) (key message : Bytes) : Prop :=
  ledgerSigns free ledger key message = true

/-- Whatever the ledger says, no one signs for another. -/
theorem unforgeable_holders (free : Bytes → Bool) (ledger : Ledger) :
    Unforgeable (ledgerHost free ledger) (Holders free ledger) :=
  idealHost_unforgeable _

/-- A free key signs any message. -/
theorem exists_verify_of_free {key : Bytes} (h : free key = true) (message : Bytes) :
    ∃ raw, (ledgerHost free ledger).ed25519Verify key raw message = true := by
  refine ⟨List.replicate 64 0, ?_⟩
  show ((List.replicate 64 (0 : UInt8)).length == 64 && ledgerSigns free ledger key message) = true
  rw [ledgerSigns_of_free h, List.length_replicate]
  rfl

/-- A key that is not free, and of whose rotations the ledger has only those of the history. -/
theorem signsOnly_of_ledger {h : HonestChain (ledgerHost free ledger)} {b : UInt8}
    (hfree : free (constKey b) = false)
    (hledger : ∀ payload, (constKey b, contextKeyRotation, payload) ∈ ledger →
      ∃ s ∈ h.chain.rotations, s.payload = payload) :
    SignsOnly (ledgerHost free ledger) (Holders free ledger) h (constAddress b) := by
  intro r hr
  obtain ⟨payload, message, hmem, hm, hm'⟩ :=
    ledger_of_holderSigned (signingKey_constAddress b) hfree hr
  obtain ⟨s, hs, rfl⟩ := hledger payload hmem
  exact ⟨s, hs, message, hm, hm'⟩

/-- A key that is not free, and of whose inceptions the ledger has only that of the history. -/
theorem inceptsOnce_of_ledger {h : HonestChain (ledgerHost free ledger)} {b : UInt8}
    (hid : h.identity = constAddress b) (hfree : free (constKey b) = false)
    (hledger : ∀ payload, (constKey b, contextInception, payload) ∈ ledger →
      payload = h.chain.inception.payload) :
    InceptsOnce (ledgerHost free ledger) (Holders free ledger) h := by
  intro i hi
  rw [hid] at hi
  obtain ⟨payload, message, hmem, hm, hm'⟩ :=
    ledger_of_holderSigned (signingKey_constAddress b) hfree hi
  rw [hledger payload hmem] at hm'
  exact ⟨message, hm, hm'⟩

/-- Key 1 opened an identity and committed to key 2. -/
def opening (h : (plainInception 1 2).Verified (ledgerHost free ledger)) :
    HonestHistory (ledgerHost free ledger) where
  chain := ⟨plainInception 1 2, []⟩
  state := ⟨constAddress 1, constAddress 1, plainCommitment 2, 0⟩
  resolves := plainInception_resolve h
  isHex_last := isHex_hexdigest _
  nextKey := constKey 2
  commits := keyCommitment_ok_iff.mpr ⟨List.length_replicate .., rfl⟩

/-- Key 1 opened an identity, and handed over to key 2, which committed to key 3. -/
def handover (h : (plainInception 1 2).Verified (ledgerHost free ledger))
    (hr : (plainRotation 1 0 1 2 3).Verified (ledgerHost free ledger)) :
    HonestHistory (ledgerHost free ledger) where
  chain := ⟨plainInception 1 2, [plainRotation 1 0 1 2 3]⟩
  state := ⟨constAddress 1, constAddress 2, plainCommitment 3, 1⟩
  resolves := plainRotation_resolve h hr
  isHex_last := isHex_hexdigest _
  nextKey := constKey 3
  commits := keyCommitment_ok_iff.mpr ⟨List.length_replicate .., rfl⟩

end Ledger

/-- Key 1 has signed the two records of the handover, and no other key that is not free a thing. -/
def handoverLedger : Ledger :=
  [(constKey 1, contextInception, (plainInception 1 2).payload),
    (constKey 1, contextKeyRotation, (plainRotation 1 0 1 2 3).payload)]

section Handover

variable {free : Bytes → Bool}

theorem handover_inception : (plainInception 1 2).Verified (ledgerHost free handoverLedger) :=
  plainInception_verified fun _ hm => ledgerSigns_of_mem List.mem_cons_self hm

theorem handover_rotation : (plainRotation 1 0 1 2 3).Verified (ledgerHost free handoverLedger) :=
  plainRotation_verified fun _ hm =>
    ledgerSigns_of_mem (List.mem_cons_of_mem _ (List.mem_singleton.mpr rfl)) hm

/-- A key that is not free signs only the rotation of the handover, if any. -/
theorem signsOnly_handover {b : UInt8} (hfree : free (constKey b) = false) :
    SignsOnly (ledgerHost free handoverLedger) (Holders free handoverLedger)
      (handover handover_inception handover_rotation).toHonestChain (constAddress b) := by
  refine signsOnly_of_ledger hfree fun payload hmem => ?_
  rcases List.mem_cons.mp hmem with h | h
  · have hcontext : contextKeyRotation = contextInception := congrArg (fun entry => entry.2.1) h
    exact absurd hcontext (by decide)
  · exact ⟨_, List.mem_singleton.mpr rfl,
      (congrArg (fun entry => entry.2.2) (List.mem_singleton.mp h)).symm⟩

/-- The holder of the first key has incepted once. -/
theorem inceptsOnce_handover (hfree : free (constKey 1) = false) :
    InceptsOnce (ledgerHost free handoverLedger) (Holders free handoverLedger)
      (handover handover_inception handover_rotation).toHonestChain := by
  refine inceptsOnce_of_ledger rfl hfree fun payload hmem => ?_
  rcases List.mem_cons.mp hmem with h | h
  · exact congrArg (fun entry => entry.2.2) h
  · have hcontext : contextInception = contextKeyRotation :=
      congrArg (fun entry => entry.2.1) (List.mem_singleton.mp h)
    exact absurd hcontext (by decide)

end Handover

/-- Key 5 is a stranger's. -/
def strangerFree (key : Bytes) : Bool := key == constKey 5

/-- Key 1 opened the identity and handed it over to key 2, under the eyes of the stranger. -/
def watched : HonestChain (ledgerHost strangerFree handoverLedger) :=
  (handover handover_inception handover_rotation).toHonestChain

theorem unstolen_watched : Unstolen (ledgerHost strangerFree handoverLedger)
    (Holders strangerFree handoverLedger) watched where
  incepts := inceptsOnce_handover (by decide)
  signs a ha := by
    rcases List.mem_pair.mp ha with rfl | rfl
    · exact signsOnly_handover (by decide)
    · exact signsOnly_handover (by decide)

/-- The stranger opens the identity anew, rotates it to its own key behind the honest inception,
    and rotates it onwards from key 2; its own identity it shows as well. -/
def strangersChains : List RotationChain :=
  [⟨plainInception 1 5, [plainRotation 1 0 1 5 6]⟩,
    ⟨plainInception 1 2, [plainRotation 1 0 1 5 6]⟩,
    ⟨plainInception 1 2, [plainRotation 1 0 1 2 3, plainRotation 1 1 2 5 6]⟩,
    ⟨plainInception 5 1, []⟩]

/-- In whatever order they come among the honest chains, the identity is neither framed nor
    diverted. -/
theorem honest_identity_safe_watched :
    (RotationRegistry.learnAll (ledgerHost strangerFree handoverLedger) {}
        (watched.chain.take 0 :: strangersChains ++ [watched.chain])).isDuplicitous (constAddress 1)
          = false ∧
      ∃ a ∈ [constAddress 1, constAddress 2],
        (RotationRegistry.learnAll (ledgerHost strangerFree handoverLedger) {}
          (watched.chain.take 0 :: strangersChains ++ [watched.chain])).resolve (constAddress 1)
            = .ok a := by
  obtain ⟨hclean, hresolve, -⟩ := honest_identity_safe (ledgerHost strangerFree handoverLedger)
    (Holders strangerFree handoverLedger) (idealHost_nfcLaws _) (unforgeable_holders _ _) watched
    unstolen_watched (watched.chain.take 0 :: strangersChains ++ [watched.chain])
  exact ⟨hclean, hresolve⟩

end AgentHonestHistory
