import AgentId.Serde

/-!
# Rotation records and their replay (`rotation.py`)

An `Inception` opens a history and commits to a digest of the next key; each `KeyRotation` is
signed by the key in force, reveals a key that meets the standing commitment and commits to the
one after.  `RotationChain.resolve` replays the history from the inception.

* **`checkStep_ok_iff`** — what one rotation must satisfy.
* **`resolve_ok_iff`** — a chain resolves exactly when its inception verifies and every rotation
  is accepted in turn; the state is then the fold of the rotations.
-/

namespace AgentRotation

open AgentPy AgentBase58 AgentJson AgentCanonicalText AgentSigning AgentSerde

/-! ## Commitments -/

/-- `key_commitment`: the SHA-256 of the raw key, in hexadecimal. -/
def keyCommitment (H : Host) (signingPublic : Bytes) : Py PyStr := do
  raiseIf (signingPublic.length ≠ 32) .rotationError ["signing public key must be 32 raw bytes"]
  .ok (hexdigest (H.sha256 signingPublic))

def commitmentForAddress (H : Host) (address : PyStr) : Py PyStr := do
  let signing ← signingKeyFromAddress address
  keyCommitment H signing

/-! ## Records -/

/-- The genesis record. -/
structure Inception where
  address : PyStr
  nextCommitment : PyStr
  createdAt : Timestamp
  signature : PyStr
  deriving DecidableEq

/-- `Inception._payload` -/
def Inception.payload (i : Inception) : Json :=
  .obj [(py "address", .str i.address), (py "created_at", .str (canonicalTimestamp i.createdAt)),
    (py "next_commitment", .str i.nextCommitment)]

def Inception.verify (H : Host) (i : Inception) : Py Unit :=
  exceptRaise (verifyByAddress H i.address contextInception i.payload (.str i.signature))
    .rotationError ["invalid inception signature for ", i.address]

/-- One succession step, signed by the key in force. -/
structure KeyRotation where
  identity : PyStr
  sequence : ℕ
  previous : PyStr
  nextAddress : PyStr
  nextCommitment : PyStr
  rotatedAt : Timestamp
  signature : PyStr
  sequence_pos : 1 ≤ sequence
  deriving DecidableEq

/-- `KeyRotation._payload` -/
def KeyRotation.payload (r : KeyRotation) : Json :=
  .obj [(py "identity", .str r.identity), (py "next_address", .str r.nextAddress),
    (py "next_commitment", .str r.nextCommitment), (py "previous", .str r.previous),
    (py "rotated_at", .str (canonicalTimestamp r.rotatedAt)), (py "sequence", .int r.sequence)]

def KeyRotation.verifySignature (H : Host) (r : KeyRotation) : Py Unit :=
  exceptRaise (verifyByAddress H r.previous contextKeyRotation r.payload (.str r.signature))
    .rotationError ["invalid rotation signature from ", r.previous]

/-! ## Replay -/

/-- Where an identity stands after replaying its history. -/
structure RotationState where
  identity : PyStr
  currentAddress : PyStr
  nextCommitment : PyStr
  sequence : ℕ
  deriving DecidableEq

/-- What the loop of `resolve` assigns once a rotation has passed its checks. -/
def RotationState.advance (st : RotationState) (r : KeyRotation) : RotationState :=
  { st with
    currentAddress := r.nextAddress
    nextCommitment := r.nextCommitment
    sequence := r.sequence }

/-- The checks of one turn of the loop of `resolve`. -/
def checkStep (H : Host) (st : RotationState) (r : KeyRotation) : Py Unit := do
  raiseIf (r.identity ≠ st.identity) .rotationError
    ["rotation names identity ", r.identity, ", expected ", st.identity]
  raiseIf (r.sequence ≠ st.sequence + 1) .rotationError
    ["rotation out of order: got sequence ", .int r.sequence, ", expected ",
      .int (st.sequence + 1)]
  raiseIf (r.previous ≠ st.currentAddress) .rotationError
    ["rotation ", .int r.sequence, " signed by ", r.previous, ", but ", st.currentAddress,
      " is in force"]
  let revealed ← commitmentForAddress H r.nextAddress
  raiseIf (revealed ≠ st.nextCommitment) .rotationError
    ["rotation ", .int r.sequence, " reveals a key that does not match ",
      "the standing pre-rotation commitment"]
  r.verifySignature H

/-- The loop of `RotationChain.resolve`. -/
def replay (H : Host) : RotationState → List KeyRotation → Py RotationState
  | st, [] => .ok st
  | st, r :: rotations => do
      checkStep H st r
      replay H (st.advance r) rotations

/-- An identity's key history. -/
structure RotationChain where
  inception : Inception
  rotations : List KeyRotation

/-- `RotationChain.identity` -/
def RotationChain.identity (chain : RotationChain) : PyStr := chain.inception.address

/-- The state at inception. -/
def RotationChain.genesis (chain : RotationChain) : RotationState :=
  ⟨chain.identity, chain.inception.address, chain.inception.nextCommitment, 0⟩

def RotationChain.resolve (H : Host) (chain : RotationChain) : Py RotationState := do
  chain.inception.verify H
  replay H chain.genesis chain.rotations

/-! ## What a replay establishes -/

variable {H : Host}

/-- Only a raw key of 32 bytes has a commitment. -/
theorem keyCommitment_ok_iff {key : Bytes} {commitment : PyStr} :
    keyCommitment H key = .ok commitment ↔
      key.length = 32 ∧ commitment = hexdigest (H.sha256 key) := by
  rw [keyCommitment, seq_ok_iff, raiseIf_ok_iff, not_not, Except.ok.injEq]
  exact and_congr_right fun _ => eq_comm

/-- An address has a commitment exactly when it certifies a key. -/
theorem commitmentForAddress_ok_iff {address commitment : PyStr} :
    commitmentForAddress H address = .ok commitment ↔
      ∃ key, signingKeyFromAddress address = .ok key ∧
        commitment = hexdigest (H.sha256 key) := by
  rw [commitmentForAddress, bind_ok_iff]
  constructor
  · rintro ⟨key, hkey, hc⟩
    exact ⟨key, hkey, (keyCommitment_ok_iff.mp hc).2⟩
  · rintro ⟨key, hkey, hc⟩
    exact ⟨key, hkey, keyCommitment_ok_iff.mpr ⟨(signingKeyFromAddress_ok_iff.mp hkey).1, hc⟩⟩

/-- **A COMMITMENT IS MET BY ONE ADDRESS ONLY.** -/
theorem commitmentForAddress_inj (C : CollisionFree H) {a b commitment : PyStr}
    (ha : commitmentForAddress H a = .ok commitment)
    (hb : commitmentForAddress H b = .ok commitment) : a = b := by
  obtain ⟨key, hkey, hc⟩ := commitmentForAddress_ok_iff.mp ha
  obtain ⟨key', hkey', hc'⟩ := commitmentForAddress_ok_iff.mp hb
  -- the digest gives the key back, and a key has one address
  have hkeys : key = key' := C (hexdigest_inj (hc.symm.trans hc'))
  rw [hkeys] at hkey
  exact signingKeyFromAddress_inj hkey hkey'

/-- The signature of an inception verifies under the key of its address. -/
def Inception.Verified (H : Host) (i : Inception) : Prop :=
  verifyByAddress H i.address contextInception i.payload (.str i.signature) = .ok ()

/-- The signature of a rotation verifies under the key it takes over from. -/
def KeyRotation.Verified (H : Host) (r : KeyRotation) : Prop :=
  verifyByAddress H r.previous contextKeyRotation r.payload (.str r.signature) = .ok ()

/-- What a rotation must satisfy in the state it meets. -/
structure StepOk (H : Host) (st : RotationState) (r : KeyRotation) : Prop where
  identity : r.identity = st.identity
  sequence : r.sequence = st.sequence + 1
  previous : r.previous = st.currentAddress
  reveals : commitmentForAddress H r.nextAddress = .ok st.nextCommitment
  verified : r.Verified H

/-- The checks of one turn pass exactly when the rotation is `StepOk`. -/
theorem checkStep_ok_iff {st : RotationState} {r : KeyRotation} :
    checkStep H st r = .ok () ↔ StepOk H st r := by
  rw [checkStep, seq_ok_iff, seq_ok_iff, seq_ok_iff, bind_ok_iff]
  simp only [seq_ok_iff, raiseIf_ok_iff, not_not]
  constructor
  · rintro ⟨hid, hseq, hprev, revealed, hrevealed, heq, hsig⟩
    exact ⟨hid, hseq, hprev, heq ▸ hrevealed, exceptRaise_ok_iff.mp hsig⟩
  · rintro ⟨hid, hseq, hprev, hreveals, hsig⟩
    exact ⟨hid, hseq, hprev, _, hreveals, rfl, exceptRaise_ok_iff.mpr hsig⟩

/-- Every rotation is accepted in the state the ones before it leave. -/
def Accepts (H : Host) : RotationState → List KeyRotation → Prop
  | _, [] => True
  | st, r :: rotations => StepOk H st r ∧ Accepts H (st.advance r) rotations

/-- The state after some rotations. -/
def after (st : RotationState) (rotations : List KeyRotation) : RotationState :=
  rotations.foldl RotationState.advance st

/-- The loop accepts every rotation in turn, and returns the fold of them. -/
theorem replay_ok_iff {st st' : RotationState} {rotations : List KeyRotation} :
    replay H st rotations = .ok st' ↔ Accepts H st rotations ∧ st' = after st rotations := by
  -- each turn of the loop starts in the state the one before left
  induction rotations generalizing st with
  | nil =>
      rw [replay, Except.ok.injEq]
      exact ⟨fun h => ⟨trivial, h.symm⟩, fun h => h.2.symm⟩
  | cons r rotations ih =>
      rw [replay, seq_ok_iff, checkStep_ok_iff, ih, ← and_assoc]
      rfl

/-- **WHEN A CHAIN RESOLVES**, and to what. -/
theorem resolve_ok_iff {chain : RotationChain} {st : RotationState} :
    chain.resolve H = .ok st ↔ chain.inception.Verified H ∧
      Accepts H chain.genesis chain.rotations ∧ st = after chain.genesis chain.rotations := by
  rw [RotationChain.resolve, seq_ok_iff, replay_ok_iff, Inception.verify, exceptRaise_ok_iff]
  rfl

/-- A list is accepted piece by piece: the second from where the first leaves off. -/
theorem accepts_append {st : RotationState} {rs rs' : List KeyRotation} :
    Accepts H st (rs ++ rs') ↔ Accepts H st rs ∧ Accepts H (after st rs) rs' := by
  induction rs generalizing st with
  | nil => exact ⟨fun h => ⟨trivial, h⟩, fun h => h.2⟩
  | cons r rs ih =>
      show StepOk H st r ∧ Accepts H (st.advance r) (rs ++ rs') ↔ _
      rw [ih, ← and_assoc]
      rfl

theorem after_append (st : RotationState) (rs rs' : List KeyRotation) :
    after st (rs ++ rs') = after (after st rs) rs' := List.foldl_append

@[simp] theorem after_identity (st : RotationState) (rs : List KeyRotation) :
    (after st rs).identity = st.identity := by
  induction rs generalizing st with
  | nil => rfl
  | cons r rs ih => exact ih (st.advance r)

/-- Accepted rotations are numbered without gaps. -/
theorem after_sequence {st : RotationState} {rs : List KeyRotation} (h : Accepts H st rs) :
    (after st rs).sequence = st.sequence + rs.length := by
  induction rs generalizing st with
  | nil => rfl
  | cons r rs ih =>
      show (after (st.advance r) rs).sequence = _
      rw [ih h.2, List.length_cons, show (st.advance r).sequence = st.sequence + 1 from h.1.sequence]
      omega

/-- The rotation at position `i` of an accepted list meets the state the first `i` leave. -/
theorem stepOk_getElem {st : RotationState} {rs : List KeyRotation} (h : Accepts H st rs)
    (i : ℕ) (hi : i < rs.length) : StepOk H (after st (rs.take i)) rs[i] := by
  -- cut the list at the rotation: what stands before it leads to the state it meets
  have hsplit : rs = rs.take i ++ rs[i] :: rs.drop (i + 1) := by
    rw [← List.drop_eq_getElem_cons hi, List.take_append_drop]
  rw [hsplit, accepts_append] at h
  exact h.2.1

/-- What is accepted is accepted up to any point. -/
theorem accepts_take {st : RotationState} {rs : List KeyRotation} (h : Accepts H st rs) (i : ℕ) :
    Accepts H st (rs.take i) := by
  have hsplit := List.take_append_drop i rs
  rw [← hsplit, accepts_append] at h
  exact h.1

/-- One rotation more is one `advance` more. -/
theorem after_take_succ (st : RotationState) {rs : List KeyRotation} {i : ℕ} (hi : i < rs.length) :
    after st (rs.take (i + 1)) = (after st (rs.take i)).advance rs[i] := by
  rw [List.take_add_one, List.getElem?_eq_getElem hi, after_append]
  rfl

/-- A chain cut after `k` rotations. -/
def RotationChain.take (chain : RotationChain) (k : ℕ) : RotationChain :=
  ⟨chain.inception, chain.rotations.take k⟩

/-- The state after the first `k` rotations. -/
def RotationChain.stateAt (chain : RotationChain) (k : ℕ) : RotationState :=
  after chain.genesis (chain.rotations.take k)

/-- The addresses in force, from the inception on. -/
def RotationChain.addresses (chain : RotationChain) : List PyStr :=
  chain.inception.address :: chain.rotations.map KeyRotation.nextAddress

/-- A prefix of a chain that resolves resolves to the state at that point. -/
theorem resolve_take {chain : RotationChain} {st : RotationState} (h : chain.resolve H = .ok st)
    (k : ℕ) : (chain.take k).resolve H = .ok (chain.stateAt k) := by
  obtain ⟨hinc, hacc, -⟩ := resolve_ok_iff.mp h
  exact resolve_ok_iff.mpr ⟨hinc, accepts_take hacc k, rfl⟩

/-- The state after `k` rotations of a chain that resolves has sequence `k`. -/
theorem stateAt_sequence {chain : RotationChain} {st : RotationState}
    (h : chain.resolve H = .ok st) {k : ℕ} (hk : k ≤ chain.rotations.length) :
    (chain.stateAt k).sequence = k := by
  obtain ⟨-, hacc, -⟩ := resolve_ok_iff.mp h
  rw [RotationChain.stateAt, after_sequence (accepts_take hacc k), List.length_take, min_eq_left hk]
  exact Nat.zero_add k

/-- The state after all the rotations is the one `resolve` returns. -/
theorem stateAt_length (chain : RotationChain) :
    chain.stateAt chain.rotations.length = after chain.genesis chain.rotations := by
  rw [RotationChain.stateAt, List.take_length]

/-- The address in force after `k` rotations is the `k`-th of the chain. -/
theorem stateAt_currentAddress (chain : RotationChain) {k : ℕ}
    (hk : k ≤ chain.rotations.length) :
    chain.addresses[k]? = some (chain.stateAt k).currentAddress := by
  cases k with
  | zero => rfl
  | succ k =>
      rw [RotationChain.addresses, List.getElem?_cons_succ, List.getElem?_map,
        List.getElem?_eq_getElem hk, RotationChain.stateAt, after_take_succ _ hk]
      rfl

/-! ## Fingerprints -/

/-- `_rotation_identity`: a digest of everything a rotation asserts. -/
def rotationIdentity (H : Host) (r : KeyRotation) : Py PyStr := do
  let message ← signingInput H contextKeyRotation r.payload
  .ok (hexdigest (H.sha256 message))

/-- `_inception_identity` -/
def inceptionIdentity (H : Host) (i : Inception) : Py PyStr := do
  let message ← signingInput H contextInception i.payload
  .ok (hexdigest (H.sha256 message))

theorem rotationIdentity_ok_iff {r : KeyRotation} {fingerprint : PyStr} :
    rotationIdentity H r = .ok fingerprint ↔
      ∃ message, signingInput H contextKeyRotation r.payload = .ok message ∧
        fingerprint = hexdigest (H.sha256 message) := by
  rw [rotationIdentity, bind_ok_iff]
  simp only [Except.ok.injEq, eq_comm]

theorem inceptionIdentity_ok_iff {i : Inception} {fingerprint : PyStr} :
    inceptionIdentity H i = .ok fingerprint ↔
      ∃ message, signingInput H contextInception i.payload = .ok message ∧
        fingerprint = hexdigest (H.sha256 message) := by
  rw [inceptionIdentity, bind_ok_iff]
  simp only [Except.ok.injEq, eq_comm]

/-- The fingerprints of a chain's records, the inception first. -/
def RotationChain.fingerprints (H : Host) (chain : RotationChain) : Py (List PyStr) := do
  let first ← inceptionIdentity H chain.inception
  let rest ← chain.rotations.mapM (rotationIdentity H)
  .ok (first :: rest)

/-- A rotation that verifies has a fingerprint: its payload has a canonical form. -/
theorem KeyRotation.Verified.fingerprint {r : KeyRotation} (h : r.Verified H) :
    ∃ fingerprint, rotationIdentity H r = .ok fingerprint := by
  obtain ⟨_, _, message, -, -, hmessage, -⟩ := verifyByAddress_ok_iff.mp h
  exact ⟨_, rotationIdentity_ok_iff.mpr ⟨message, hmessage, rfl⟩⟩

/-- So has an inception that verifies. -/
theorem Inception.Verified.fingerprint {i : Inception} (h : i.Verified H) :
    ∃ fingerprint, inceptionIdentity H i = .ok fingerprint := by
  obtain ⟨_, _, message, -, -, hmessage, -⟩ := verifyByAddress_ok_iff.mp h
  exact ⟨_, inceptionIdentity_ok_iff.mpr ⟨message, hmessage, rfl⟩⟩

/-! ## Records of the ideal service -/

/-- The commitment to a sample key; the ideal service hashes nothing away. -/
def plainCommitment (b : UInt8) : PyStr := hexdigest (constKey b)

/-- An inception of key `a` that commits to key `next`. -/
def plainInception (a next : UInt8) : Inception :=
  ⟨constAddress a, plainCommitment next, .zero, idealSignature⟩

/-- Rotation `n + 1` of the identity of key `i`: from key `a` to key `b`, committing to `next`. -/
def plainRotation (i : UInt8) (n : ℕ) (a b next : UInt8) : KeyRotation :=
  ⟨constAddress i, n + 1, constAddress a, constAddress b, plainCommitment next, .zero,
    idealSignature, Nat.succ_pos n⟩

/-- The payload of an inception is ASCII when its address and its commitment are. -/
theorem Inception.asciiJson_payload {i : Inception} (haddress : IsAscii i.address)
    (hcommitment : IsAscii i.nextCommitment) : AsciiJson i.payload := by
  refine .obj_cons (by decide) (.str haddress) ?_
  refine .obj_cons (by decide) (asciiJson_timestamp _) ?_
  exact .obj_cons (by decide) (.str hcommitment) .obj_nil

/-- So is that of a rotation, when its four strings are. -/
theorem KeyRotation.asciiJson_payload {r : KeyRotation} (hid : IsAscii r.identity)
    (hnext : IsAscii r.nextAddress) (hcommitment : IsAscii r.nextCommitment)
    (hprev : IsAscii r.previous) : AsciiJson r.payload := by
  refine .obj_cons (by decide) (.str hid) ?_
  refine .obj_cons (by decide) (.str hnext) ?_
  refine .obj_cons (by decide) (.str hcommitment) ?_
  refine .obj_cons (by decide) (.str hprev) ?_
  refine .obj_cons (by decide) (asciiJson_timestamp _) ?_
  exact .obj_cons (by decide) (.int _) .obj_nil

theorem isAscii_hexdigest (digest : Bytes) : IsAscii (hexdigest digest) :=
  (isHex_hexdigest digest).isPlain.isAscii

/-- An inception its holder signed verifies. -/
theorem plainInception_verified {signs : Bytes → Bytes → Bool} {a next : UInt8}
    (h : ∀ message, signingInput (idealHost signs) contextInception (plainInception a next).payload
      = .ok message → signs (constKey a) message = true) :
    (plainInception a next).Verified (idealHost signs) :=
  verifyByAddress_idealHost (signingKey_constAddress a) (by decide)
    (Inception.asciiJson_payload (isAscii_constAddress a) (isAscii_hexdigest _)) h

/-- A rotation the holder of the key in force signed verifies. -/
theorem plainRotation_verified {signs : Bytes → Bytes → Bool} {i a b next : UInt8} {n : ℕ}
    (h : ∀ message, signingInput (idealHost signs) contextKeyRotation
      (plainRotation i n a b next).payload = .ok message → signs (constKey a) message = true) :
    (plainRotation i n a b next).Verified (idealHost signs) :=
  verifyByAddress_idealHost (signingKey_constAddress a) (by decide)
    (KeyRotation.asciiJson_payload (isAscii_constAddress i) (isAscii_constAddress b)
      (isAscii_hexdigest _) (isAscii_constAddress a)) h

/-- The sample commitment to a key is met by the address of that key. -/
theorem plainCommitment_met {signs : Bytes → Bytes → Bool} (b : UInt8) :
    commitmentForAddress (idealHost signs) (constAddress b) = .ok (plainCommitment b) :=
  commitmentForAddress_ok_iff.mpr ⟨constKey b, signingKey_constAddress b, rfl⟩

/-- A chain that is only an inception resolves to the key it opens with. -/
theorem plainInception_resolve {signs : Bytes → Bytes → Bool} {a next : UInt8}
    (h : (plainInception a next).Verified (idealHost signs)) :
    (RotationChain.mk (plainInception a next) []).resolve (idealHost signs)
      = .ok ⟨constAddress a, constAddress a, plainCommitment next, 0⟩ :=
  resolve_ok_iff.mpr ⟨h, trivial, rfl⟩

/-- One rotation to the committed key resolves to that key. -/
theorem plainRotation_resolve {signs : Bytes → Bytes → Bool} {a b next : UInt8}
    (h : (plainInception a b).Verified (idealHost signs))
    (hr : (plainRotation a 0 a b next).Verified (idealHost signs)) :
    (RotationChain.mk (plainInception a b) [plainRotation a 0 a b next]).resolve (idealHost signs)
      = .ok ⟨constAddress a, constAddress b, plainCommitment next, 1⟩ :=
  resolve_ok_iff.mpr ⟨h, ⟨⟨rfl, rfl, rfl, plainCommitment_met b, hr⟩, trivial⟩, rfl⟩

/-- Two sample keys with one commitment are one key. -/
theorem plainCommitment_inj {a b : UInt8} (h : plainCommitment a = plainCommitment b) : a = b :=
  (List.cons.inj (hexdigest_inj h : constKey a = constKey b)).1

end AgentRotation
