import AgentId.FeedSchedule
import AgentId.RotationWire

/-!
# What resolving a chain reports (`rotation.py`)

`RotationChain.resolve` checks the inception and then each rotation at its place.  The checks are
stated here of the chain as it stands, position by position, without the state the loop carries.
One step of the loop calls `commitment_for_address` outside any `try`: what that raises on text
that is no address goes through as it is.

* **`resolve_ok_iff_holds`** — a chain resolves when its history holds, and to its last records.
* **`reported_as_rotation_error_iff`** — when every defect is reported as a `RotationError`.
-/

namespace AgentRotationVerdict

open AgentRaises AgentPy AgentBase58 AgentJson AgentSigning AgentSerde AgentRotation
  AgentRotationWire

/-- The standing commitments, from the inception on. -/
def RotationChain.commitments (chain : RotationChain) : List PyStr :=
  chain.inception.nextCommitment :: chain.rotations.map KeyRotation.nextCommitment

/-- What the rotation at position `i` must satisfy before its successor is looked at. -/
structure InOrder (chain : RotationChain) (i : ℕ) (r : KeyRotation) : Prop where
  identity : r.identity = chain.inception.address
  sequence : r.sequence = i + 1
  previous : chain.addresses[i]? = some r.previous

/-- What the rotation at position `i` must satisfy: it is in order, reveals an address whose key
    hashes to the standing commitment, and is signed by the address in force. -/
structure RotationHolds (H : Host) (chain : RotationChain) (i : ℕ) (r : KeyRotation) : Prop where
  inOrder : InOrder chain i r
  reveals : ∃ key, signingKeyFromAddress r.nextAddress = .ok key ∧
    (RotationChain.commitments chain)[i]? = some (hexdigest (H.sha256 key))
  signed : r.Verified H

/-- The inception is signed, and every rotation holds at its place. -/
structure HistoryHolds (H : Host) (chain : RotationChain) : Prop where
  inception : chain.inception.Verified H
  rotations : ∀ (i : ℕ) (r : KeyRotation), chain.rotations[i]? = some r → RotationHolds H chain i r

/-- The last revealed address, the last commitment and the number of rotations. -/
def RotationChain.lastState (chain : RotationChain) : RotationState :=
  ⟨chain.inception.address,
    (chain.rotations.getLast?.map KeyRotation.nextAddress).getD chain.inception.address,
    (chain.rotations.getLast?.map KeyRotation.nextCommitment).getD chain.inception.nextCommitment,
    chain.rotations.length⟩

/-! ## The state the loop carries, read off the chain -/

variable {H : Host}

theorem stateAt_identity (chain : RotationChain) (i : ℕ) :
    (chain.stateAt i).identity = chain.inception.address := by
  rw [RotationChain.stateAt, after_identity]
  rfl

theorem stateAt_nextCommitment (chain : RotationChain) {i : ℕ} (hi : i ≤ chain.rotations.length) :
    (RotationChain.commitments chain)[i]? = some (chain.stateAt i).nextCommitment := by
  cases i with
  | zero => rfl
  | succ i =>
      rw [RotationChain.commitments, List.getElem?_cons_succ, List.getElem?_map,
        List.getElem?_eq_getElem hi, RotationChain.stateAt, after_take_succ _ hi]
      rfl

/-- Rotations numbered by their places leave their number as the sequence. -/
theorem stateAt_sequence_of_inOrder {chain : RotationChain} {i : ℕ}
    (hi : i ≤ chain.rotations.length)
    (h : ∀ (j : ℕ) (r : KeyRotation), j < i → chain.rotations[j]? = some r → r.sequence = j + 1) :
    (chain.stateAt i).sequence = i := by
  cases i with
  | zero => rfl
  | succ i =>
      rw [RotationChain.stateAt, after_take_succ _ hi]
      exact h i _ (Nat.lt_succ_self i) (List.getElem?_eq_getElem hi)

/-- Being in order is passing the first three checks in the state the loop has reached. -/
theorem inOrder_iff {chain : RotationChain} {i : ℕ} {r : KeyRotation}
    (hi : i ≤ chain.rotations.length) (hseq : (chain.stateAt i).sequence = i) :
    InOrder chain i r ↔ r.identity = (chain.stateAt i).identity ∧
      r.sequence = (chain.stateAt i).sequence + 1 ∧
      r.previous = (chain.stateAt i).currentAddress := by
  rw [stateAt_identity, hseq]
  constructor
  · rintro ⟨hid, hsequence, hprev⟩
    rw [stateAt_currentAddress chain hi] at hprev
    exact ⟨hid, hsequence, (Option.some.inj hprev).symm⟩
  · rintro ⟨hid, hsequence, hprev⟩
    exact ⟨hid, hsequence, (stateAt_currentAddress chain hi).trans (congrArg some hprev.symm)⟩

/-- Holding at a place is being accepted in the state the loop has reached there. -/
theorem rotationHolds_iff {chain : RotationChain} {i : ℕ} {r : KeyRotation}
    (hi : i ≤ chain.rotations.length) (hseq : (chain.stateAt i).sequence = i) :
    RotationHolds H chain i r ↔ StepOk H (chain.stateAt i) r := by
  constructor
  · rintro ⟨horder, ⟨key, hkey, hcommitment⟩, hsigned⟩
    obtain ⟨hid, hsequence, hprev⟩ := (inOrder_iff hi hseq).mp horder
    rw [stateAt_nextCommitment chain hi] at hcommitment
    exact ⟨hid, hsequence, hprev,
      commitmentForAddress_ok_iff.mpr ⟨key, hkey, Option.some.inj hcommitment⟩, hsigned⟩
  · rintro ⟨hid, hsequence, hprev, hreveals, hsigned⟩
    obtain ⟨key, hkey, hcommitment⟩ := commitmentForAddress_ok_iff.mp hreveals
    exact ⟨(inOrder_iff hi hseq).mpr ⟨hid, hsequence, hprev⟩,
      ⟨key, hkey, (stateAt_nextCommitment chain hi).trans (congrArg some hcommitment)⟩, hsigned⟩

/-- Rotations are accepted one after another exactly when each is, in the state before it. -/
theorem accepts_iff_getElem? {st : RotationState} {rs : List KeyRotation} :
    Accepts H st rs ↔ ∀ (i : ℕ) (r : KeyRotation), rs[i]? = some r →
      StepOk H (after st (rs.take i)) r := by
  induction rs generalizing st with
  | nil => exact ⟨fun _ i r hr => (Option.some_ne_none r (hr.symm.trans List.getElem?_nil)).elim,
      fun _ => trivial⟩
  | cons s rs ih =>
      constructor
      · rintro ⟨hs, hrs⟩ i r hr
        cases i with
        | zero =>
            cases hr
            exact hs
        | succ i => exact ih.mp hrs i r hr
      · intro h
        exact ⟨h 0 s rfl, ih.mpr fun i r hr => h (i + 1) r hr⟩

theorem le_length_of_getElem? {α : Type} {l : List α} {i : ℕ} {a : α} (h : l[i]? = some a) :
    i ≤ l.length :=
  Nat.le_of_lt (List.getElem?_eq_some_iff.mp h).1

/-- The rotations before place `i` hold exactly when the loop accepts them. -/
theorem accepts_take_iff {chain : RotationChain} {i : ℕ} :
    Accepts H chain.genesis (chain.rotations.take i) ↔
      ∀ (j : ℕ) (r : KeyRotation), j < i → chain.rotations[j]? = some r →
        RotationHolds H chain j r := by
  rw [accepts_iff_getElem?]
  constructor
  · intro h j
    induction j using Nat.strong_induction_on with
    | _ j ih =>
        intro r hj hr
        have hle := le_length_of_getElem? hr
        have hseq : (chain.stateAt j).sequence = j := stateAt_sequence_of_inOrder hle
          fun k s hk hs => (ih k hk s (hk.trans hj) hs).inOrder.sequence
        have hstep := h j r (by rw [List.getElem?_take_of_lt hj, hr])
        rw [List.take_take, min_eq_left (Nat.le_of_lt hj)] at hstep
        exact (rotationHolds_iff hle hseq).mpr hstep
  · intro h j r hr
    have hj : j < i := by
      by_contra hge
      rw [List.getElem?_eq_none (by rw [List.length_take]; omega)] at hr
      cases hr
    rw [List.getElem?_take_of_lt hj] at hr
    rw [List.take_take, min_eq_left (Nat.le_of_lt hj)]
    have hle := le_length_of_getElem? hr
    exact (rotationHolds_iff hle (stateAt_sequence_of_inOrder hle
      fun k s hk hs => (h k s (hk.trans hj) hs).inOrder.sequence)).mp (h j r hj hr)

/-- A history that holds leaves the last records of the chain. -/
theorem after_eq_lastState {chain : RotationChain}
    (h : Accepts H chain.genesis chain.rotations) :
    after chain.genesis chain.rotations = RotationChain.lastState chain := by
  have hseq := after_sequence h
  rw [RotationChain.lastState]
  rcases List.eq_nil_or_concat' chain.rotations with hnil | ⟨rs, r, hlast⟩
  · rw [hnil]
    rfl
  · rw [hlast] at hseq ⊢
    rw [after_append] at hseq ⊢
    have hid := after_identity chain.genesis rs
    rw [List.getLast?_concat]
    show RotationState.mk (after chain.genesis rs).identity r.nextAddress r.nextCommitment r.sequence
      = _
    rw [hid, show r.sequence = chain.genesis.sequence + (rs ++ [r]).length from hseq]
    show RotationState.mk _ _ _ (0 + (rs ++ [r]).length) = _
    rw [Nat.zero_add]
    rfl

/-- **WHEN A CHAIN RESOLVES**, place by place, and to what. -/
theorem resolve_ok_iff_holds {chain : RotationChain} {st : RotationState} :
    chain.resolve H = .ok st ↔ HistoryHolds H chain ∧ st = RotationChain.lastState chain := by
  have hall : Accepts H chain.genesis chain.rotations ↔
      ∀ (i : ℕ) (r : KeyRotation), chain.rotations[i]? = some r → RotationHolds H chain i r := by
    rw [← List.take_length (l := chain.rotations), accepts_take_iff, List.take_length]
    exact ⟨fun h i r hr => h i r (List.getElem?_eq_some_iff.mp hr).1 hr,
      fun h i r _ hr => h i r hr⟩
  rw [resolve_ok_iff]
  constructor
  · rintro ⟨hinc, hacc, rfl⟩
    exact ⟨⟨hinc, hall.mp hacc⟩, after_eq_lastState hacc⟩
  · rintro ⟨⟨hinc, hrot⟩, rfl⟩
    exact ⟨hinc, hall.mpr hrot, (after_eq_lastState (hall.mpr hrot)).symm⟩

/-! ## What is raised -/

/-- An address that certifies a key has a commitment. -/
theorem commitmentForAddress_error {address : PyStr} :
    Raises (fun e => signingKeyFromAddress address = .error e) (commitmentForAddress H address) := by
  rw [commitmentForAddress]
  refine Raises.bind (fun e h => h) fun key hkey => ?_
  exact raises_of_ok (keyCommitment_ok_iff.mpr ⟨(signingKeyFromAddress_ok_iff.mp hkey).1, rfl⟩)

/-- A step of the loop fails with a `RotationError`, or on a successor that is no address. -/
theorem checkStep_error {st : RotationState} {r : KeyRotation} :
    Raises (fun e => e.cls = .rotationError ∨ (r.identity = st.identity ∧
      r.sequence = st.sequence + 1 ∧ r.previous = st.currentAddress ∧
      signingKeyFromAddress r.nextAddress = .error e)) (checkStep H st r) := by
  rw [checkStep]
  refine Raises.bind (raises_raiseIf (Or.inl rfl)) fun _ hid => ?_
  refine Raises.bind (raises_raiseIf (Or.inl rfl)) fun _ hseq => ?_
  refine Raises.bind (raises_raiseIf (Or.inl rfl)) fun _ hprev => ?_
  rw [raiseIf_ok_iff, not_not] at hid hseq hprev
  refine (commitmentForAddress_error.weaken fun e he => ?_).bind fun _ _ => ?_
  · exact Or.inr ⟨hid, hseq, hprev, he⟩
  refine Raises.bind (raises_raiseIf (Or.inl rfl)) fun _ _ => ?_
  exact raises_exceptRaise (Or.inl rfl)

/-- A successor that is no address ends the step with what reading it raises. -/
theorem checkStep_of_no_address {st : RotationState} {r : KeyRotation} {e : PyError}
    (hid : r.identity = st.identity) (hseq : r.sequence = st.sequence + 1)
    (hprev : r.previous = st.currentAddress) (h : signingKeyFromAddress r.nextAddress = .error e) :
    checkStep H st r = .error e := by
  refine bind_error_iff.mpr (Or.inr ⟨(), (raiseIf_ok_iff ..).mpr (not_not.mpr hid), ?_⟩)
  refine bind_error_iff.mpr (Or.inr ⟨(), (raiseIf_ok_iff ..).mpr (not_not.mpr hseq), ?_⟩)
  refine bind_error_iff.mpr (Or.inr ⟨(), (raiseIf_ok_iff ..).mpr (not_not.mpr hprev), ?_⟩)
  exact bind_error_iff.mpr (Or.inl (bind_error_iff.mpr (Or.inl h)))

/-- The loop fails at the first rotation that fails. -/
theorem replay_error_iff {st : RotationState} {rs : List KeyRotation} {e : PyError} :
    replay H st rs = .error e ↔ ∃ (i : ℕ) (r : KeyRotation), rs[i]? = some r ∧
      Accepts H st (rs.take i) ∧ checkStep H (after st (rs.take i)) r = .error e := by
  induction rs generalizing st with
  | nil =>
      refine iff_of_false (fun h => by cases h) ?_
      rintro ⟨i, r, hr, -⟩
      cases hr
  | cons s rs ih =>
      rw [replay, bind_error_iff]
      constructor
      · rintro (h | ⟨⟨⟩, hs, h⟩)
        · exact ⟨0, s, rfl, trivial, h⟩
        · obtain ⟨i, r, hr, hacc, hfail⟩ := ih.mp h
          exact ⟨i + 1, r, hr, ⟨checkStep_ok_iff.mp hs, hacc⟩, hfail⟩
      · rintro ⟨i, r, hr, hacc, hfail⟩
        cases i with
        | zero =>
            cases hr
            exact Or.inl hfail
        | succ i => exact Or.inr ⟨(), checkStep_ok_iff.mpr hacc.1, ih.mpr ⟨i, r, hr, hacc.2, hfail⟩⟩

/-- The loop comes to the successor of the rotation at position `i`: the inception is signed, the
    rotations before hold, and this one is in order. -/
structure ComesTo (H : Host) (chain : RotationChain) (i : ℕ) (r : KeyRotation) : Prop where
  here : chain.rotations[i]? = some r
  inception : chain.inception.Verified H
  before : ∀ (j : ℕ) (s : KeyRotation), j < i → chain.rotations[j]? = some s →
    RotationHolds H chain j s
  inOrder : InOrder chain i r

theorem ComesTo.step {chain : RotationChain} {i : ℕ} {r : KeyRotation}
    (h : ComesTo H chain i r) : Accepts H chain.genesis (chain.rotations.take i) ∧
      r.identity = (chain.stateAt i).identity ∧ r.sequence = (chain.stateAt i).sequence + 1 ∧
      r.previous = (chain.stateAt i).currentAddress := by
  have hle := le_length_of_getElem? h.here
  exact ⟨accepts_take_iff.mpr h.before, (inOrder_iff hle (stateAt_sequence_of_inOrder hle
    fun j s hj hs => (h.before j s hj hs).inOrder.sequence)).mp h.inOrder⟩

/-- **THE EXCEPTION THAT GOES THROUGH**: what is raised is a `RotationError`, or what reading the
    successor of the first failing rotation raised. -/
theorem resolve_error {chain : RotationChain} :
    Raises (fun e => e.cls = .rotationError ∨ ∃ (i : ℕ) (r : KeyRotation), ComesTo H chain i r ∧
      signingKeyFromAddress r.nextAddress = .error e) (chain.resolve H) := by
  rw [RotationChain.resolve]
  refine Raises.bind (raises_exceptRaise (Or.inl rfl)) fun _ hinc e h => ?_
  obtain ⟨i, r, hr, hacc, hfail⟩ := replay_error_iff.mp h
  obtain hcls | ⟨hid, hseq, hprev, hkey⟩ := checkStep_error hfail
  · exact Or.inl hcls
  · have hbefore := accepts_take_iff.mp hacc
    have hle := le_length_of_getElem? hr
    have hstate := stateAt_sequence_of_inOrder hle
      fun j s hj hs => (hbefore j s hj hs).inOrder.sequence
    exact Or.inr ⟨i, r, ⟨hr, exceptRaise_ok_iff.mp hinc, hbefore,
      (inOrder_iff hle hstate).mpr ⟨hid, hseq, hprev⟩⟩, hkey⟩

theorem ComesTo.resolve_error {chain : RotationChain} {i : ℕ} {r : KeyRotation} {e : PyError}
    (h : ComesTo H chain i r) (hkey : signingKeyFromAddress r.nextAddress = .error e) :
    chain.resolve H = .error e := by
  obtain ⟨hacc, hid, hseq, hprev⟩ := h.step
  exact bind_error_iff.mpr (Or.inr ⟨(), exceptRaise_ok_iff.mpr h.inception,
    replay_error_iff.mpr ⟨i, r, h.here, hacc, checkStep_of_no_address hid hseq hprev hkey⟩⟩)

/-- Resolving returns a state exactly when the history holds, the state of the last records, and
    reports everything else as a `RotationError`. -/
structure ReportsAsRotationError (H : Host) (chain : RotationChain) : Prop where
  returns : ∀ st, chain.resolve H = .ok st ↔ HistoryHolds H chain ∧ st = RotationChain.lastState chain
  raises : ∀ e, chain.resolve H = .error e → e.cls = .rotationError

/-- **WHEN EVERY DEFECT IS A `RotationError`**: the loop comes to no successor that is not an
    address. -/
theorem reported_as_rotation_error_iff (H : Host) (chain : RotationChain) :
    ReportsAsRotationError H chain ↔ ∀ (i : ℕ) (r : KeyRotation), ComesTo H chain i r →
      ∃ key, signingKeyFromAddress r.nextAddress = .ok key := by
  constructor
  · intro h i r hcome
    obtain ⟨key, hkey⟩ | ⟨e, hkey⟩ := ok_or_error (signingKeyFromAddress r.nextAddress)
    · exact ⟨key, hkey⟩
    · have haddress : e.cls = .addressError := signingKeyFromAddress_error hkey
      rw [h.raises e (hcome.resolve_error hkey)] at haddress
      cases haddress
  · intro h
    refine ⟨fun st => resolve_ok_iff_holds, fun e he => ?_⟩
    obtain hcls | ⟨i, r, hcome, hkey⟩ := AgentRotationVerdict.resolve_error he
    · exact hcls
    · obtain ⟨key, hok⟩ := h i r hcome
      rw [hok] at hkey
      cases hkey

/-! ## A successor that is no address -/

section Samples

open AgentIsoText AgentCanonicalText AgentFeedSchedule

/-- An inception of key 1 in 2026, committing to key 2. -/
def datedInception : Inception := { plainInception 1 2 with createdAt := moment2026 }

/-- The first rotation of key 1, to an empty address. -/
def emptySuccessor : KeyRotation :=
  { plainRotation 1 0 1 2 3 with nextAddress := [], rotatedAt := moment2026 }

def emptySuccessorChain : RotationChain := ⟨datedInception, [emptySuccessor]⟩

theorem datedInception_verified : datedInception.Verified datedHost := by
  simp only [Inception.Verified]
  rw [verifyByAddress_congr (show datedHost.nfc = (idealHost fun _ _ => true).nfc from rfl) rfl]
  exact verifyByAddress_idealHost (signingKey_constAddress 1) (by decide)
    (Inception.asciiJson_payload (isAscii_constAddress 1) (isAscii_hexdigest _)) fun _ _ => rfl

theorem emptySuccessor_comesTo : ComesTo datedHost emptySuccessorChain 0 emptySuccessor where
  here := rfl
  inception := datedInception_verified
  before := fun j _ hj => absurd hj (Nat.not_lt_zero j)
  inOrder := ⟨rfl, rfl, rfl⟩

/-- The chain comes off the wire, and resolving it raises an `AddressError`. -/
theorem malformed_successor_escapes :
    RotationChain.modelValidate datedHost (.obj (RotationChain.modelDump emptySuccessorChain))
        = .ok emptySuccessorChain ∧
      ¬ ReportsAsRotationError datedHost emptySuccessorChain ∧
      ∃ e, emptySuccessorChain.resolve datedHost = .error e ∧ e.cls = .addressError := by
  have hyear : FourDigitYear moment2026 := by
    simp only [FourDigitYear]
    decide
  have hread : signingKeyFromAddress [] = .error ⟨.addressError, ["not an AMP address: ", .repr []]⟩ := by
    decide
  have hraise := emptySuccessor_comesTo.resolve_error hread
  refine ⟨RotationChain.modelValidate_modelDump datedHost_isoReads ⟨hyear, fun r hr => ?_⟩,
    fun h => ?_, _, hraise, rfl⟩
  · rw [List.mem_singleton.mp hr]
    exact hyear
  · have hcls := h.raises _ hraise
    cases hcls

end Samples

end AgentRotationVerdict
