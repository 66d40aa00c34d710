import AgentId.RotationText
import AgentId.TsAlike

/-!
# Key rotation in TypeScript (`rotation.ts`)

The records of `rotation.ts` and their replay, beside those of `rotation.py`.  Records are objects
that a registry tells apart by reference, so a chain holds them with their references.

* **`agree_resolve`** — both packages replay a key history to the same state, or refuse it with an
  error of one class.
-/

namespace AgentTsRotation

open AgentLockstep AgentRaises AgentPy AgentBase58 AgentJson AgentCanonicalText AgentNormalization
  AgentJsonRender AgentSigning AgentSerde AgentSignedText AgentRotation AgentRotationText
  AgentTsCanonical AgentTsSigning AgentTsDelegation AgentTsDate AgentTsDigest AgentTsWire
  AgentTsAlike

/-! ## Commitments -/

/-- `keyCommitment` of `rotation.ts` -/
def tsKeyCommitment (H : Host) (signingPublic : Bytes) : Ts PyStr := do
  throwAsIf (signingPublic.length ≠ 32) .rotationError ["signing public key must be 32 raw bytes"]
  .ok (hexdigest (H.sha256 signingPublic))

def tsCommitmentForAddress (H : Host) (address : PyStr) : Ts PyStr := do
  let signing ← ofJs (tsSigningKeyFromAddress address)
  tsKeyCommitment H signing

/-! ## Records -/

/-- An object, which `===` tells apart from every other by its reference. -/
structure Obj (α : Type) where
  ref : ℕ
  value : α

/-- `Inception`; nothing checks what the signature is. -/
structure TsInception where
  address : PyStr
  nextCommitment : PyStr
  createdAt : JsDate
  signature : JsonValue

def TsInception.payload (i : TsInception) : JsonValue :=
  .object [(py "address", .string i.address), (py "created_at", .string i.createdAt.toISOString),
    (py "next_commitment", .string i.nextCommitment)]

def TsInception.verify (H : Host) (i : TsInception) : Ts Unit :=
  catchAs (tsVerifyByAddress H i.address contextInception i.payload i.signature) .rotationError
    ["invalid inception signature for ", i.address]

/-- `KeyRotation`; the constructor takes an integer from 1 on. -/
structure TsKeyRotation where
  identity : PyStr
  sequence : ℕ
  previous : PyStr
  nextAddress : PyStr
  nextCommitment : PyStr
  rotatedAt : JsDate
  signature : JsonValue
  sequence_pos : 1 ≤ sequence

def TsKeyRotation.payload (r : TsKeyRotation) : JsonValue :=
  .object [(py "identity", .string r.identity), (py "next_address", .string r.nextAddress),
    (py "next_commitment", .string r.nextCommitment), (py "previous", .string r.previous),
    (py "rotated_at", .string r.rotatedAt.toISOString),
    (py "sequence", .number (.integer r.sequence))]

def TsKeyRotation.verifySignature (H : Host) (r : TsKeyRotation) : Ts Unit :=
  catchAs (tsVerifyByAddress H r.previous contextKeyRotation r.payload r.signature) .rotationError
    ["invalid rotation signature from ", r.previous]

/-! ## Replay -/

/-- What the loop of `resolve` assigns once a rotation has passed its checks. -/
def tsAdvance (st : RotationState) (r : TsKeyRotation) : RotationState :=
  { st with
    currentAddress := r.nextAddress
    nextCommitment := r.nextCommitment
    sequence := r.sequence }

/-- The checks of one turn of the loop of `resolve`.  The sequence reached is that of a rotation
    whose signature was checked, so it is a safe integer and the sum is exact. -/
def tsCheckStep (H : Host) (st : RotationState) (r : TsKeyRotation) : Ts Unit := do
  throwAsIf (r.identity ≠ st.identity) .rotationError
    ["rotation names identity ", r.identity, ", expected ", st.identity]
  throwAsIf (r.sequence ≠ st.sequence + 1) .rotationError
    ["rotation out of order: got sequence ", .int r.sequence, ", expected ",
      .int (st.sequence + 1)]
  throwAsIf (r.previous ≠ st.currentAddress) .rotationError
    ["rotation ", .int r.sequence, " signed by ", r.previous, ", but ", st.currentAddress,
      " is in force"]
  let revealed ← tsCommitmentForAddress H r.nextAddress
  throwAsIf (revealed ≠ st.nextCommitment) .rotationError
    ["rotation ", .int r.sequence, " reveals a key that does not match ",
      "the standing pre-rotation commitment"]
  r.verifySignature H

/-- The loop of `resolve`. -/
def tsReplay (H : Host) : RotationState → List TsKeyRotation → Ts RotationState
  | st, [] => .ok st
  | st, r :: rotations => do
      tsCheckStep H st r
      tsReplay H (tsAdvance st r) rotations

/-- `RotationChain` of `rotation.ts` -/
structure TsRotationChain where
  inception : Obj TsInception
  rotations : List (Obj TsKeyRotation)

namespace TsRotationChain

/-- `identity` -/
def identity (chain : TsRotationChain) : PyStr := chain.inception.value.address

/-- The state at inception. -/
def genesis (chain : TsRotationChain) : RotationState :=
  ⟨chain.identity, chain.inception.value.address, chain.inception.value.nextCommitment, 0⟩

def resolve (H : Host) (chain : TsRotationChain) : Ts RotationState := do
  chain.inception.value.verify H
  tsReplay H chain.genesis (chain.rotations.map Obj.value)

/-- `extend`: the longer chain, once it has resolved. -/
def extend (H : Host) (chain : TsRotationChain) (rotation : Obj TsKeyRotation) :
    Ts TsRotationChain := do
  let extended : TsRotationChain := ⟨chain.inception, chain.rotations ++ [rotation]⟩
  let _ ← extended.resolve H
  .ok extended

end TsRotationChain

/-! ## One history in both packages -/

/-- The record the TypeScript constructor builds of the same fields. -/
def Inception.ts (i : Inception) : TsInception :=
  ⟨i.address, i.nextCommitment, toDate i.createdAt, .string i.signature⟩

/-- The record the TypeScript constructor builds of the same fields. -/
def KeyRotation.ts (r : KeyRotation) : TsKeyRotation :=
  ⟨r.identity, r.sequence, r.previous, r.nextAddress, r.nextCommitment, toDate r.rotatedAt,
    .string r.signature, r.sequence_pos⟩

/-- The TypeScript chain holds the records of the Python one. -/
structure SameHistory (chain : RotationChain) (chain' : TsRotationChain) : Prop where
  inception : chain'.inception.value = Inception.ts chain.inception
  rotations : chain'.rotations.map Obj.value = chain.rotations.map KeyRotation.ts

variable {H : Host} {st : RotationState}

/-- An inception has one payload in both packages, if its strings are written alike. -/
theorem alike_inception {i : Inception} (haddress : SpelledAlike H.nfc i.address)
    (hcommitment : SpelledAlike H.nfc i.nextCommitment) :
    Alike H.nfc i.payload (Inception.ts i).payload := by
  have hcreated : SpelledAlike H.nfc (canonicalTimestamp i.createdAt) :=
    spelledAlike_of_plain (isPlain_canonicalTimestamp _)
  rw [TsInception.payload, Inception.ts, toISOString_toDate]
  refine alike_obj (.cons (alike_member (by decide) (alike_str haddress)) ?_)
  refine .cons (alike_member (by decide) (alike_str hcreated)) ?_
  exact .cons (alike_member (by decide) (alike_str hcommitment)) .nil

/-- The texts of a rotation both packages write alike, and a sequence both write. -/
structure RotationAlike (nfc : PyStr → PyStr) (r : KeyRotation) : Prop where
  identity : SpelledAlike nfc r.identity
  nextAddress : SpelledAlike nfc r.nextAddress
  nextCommitment : SpelledAlike nfc r.nextCommitment
  previous : SpelledAlike nfc r.previous
  sequence : r.sequence ≤ maxSafeInteger

/-- So has a rotation. -/
theorem alike_rotation {r : KeyRotation} (h : RotationAlike H.nfc r) :
    Alike H.nfc r.payload (KeyRotation.ts r).payload := by
  have hrotated : SpelledAlike H.nfc (canonicalTimestamp r.rotatedAt) :=
    spelledAlike_of_plain (isPlain_canonicalTimestamp _)
  have hsequence : (r.sequence : Int).natAbs ≤ maxSafeInteger := h.sequence
  rw [TsKeyRotation.payload, KeyRotation.ts, toISOString_toDate]
  refine alike_obj (.cons (alike_member (by decide) (alike_str h.identity)) ?_)
  refine .cons (alike_member (by decide) (alike_str h.nextAddress)) ?_
  refine .cons (alike_member (by decide) (alike_str h.nextCommitment)) ?_
  refine .cons (alike_member (by decide) (alike_str h.previous)) ?_
  refine .cons (alike_member (by decide) (alike_str hrotated)) ?_
  exact .cons (alike_member (by decide) (alike_int hsequence)) .nil

/-- Both commit to a key alike. -/
theorem agree_keyCommitment (key : Bytes) :
    Agree SameClass Eq (keyCommitment H key) (tsKeyCommitment H key) := by
  refine Agree.bind (agree_guard Iff.rfl rfl) ?_
  rintro _ _ - - -
  exact .ok rfl

/-- And to the key of an address. -/
theorem agree_commitmentForAddress (address : PyStr) :
    Agree SameClass Eq (commitmentForAddress H address) (tsCommitmentForAddress H address) := by
  refine (agree_signingKey address).bind ?_
  rintro key _ - - rfl
  exact agree_keyCommitment key

/-- An address that certifies a key is written alike. -/
theorem isPlain_of_certified {address : PyStr} {key : Bytes}
    (h : signingKeyFromAddress address = .ok key) : SpelledAlike H.nfc address :=
  spelledAlike_of_plain (isPlain_of_signingKey h)

/-- An inception is verified alike when its commitment is written alike. -/
theorem agree_inception (N : NfcText H.nfc) {i : Inception}
    (hcommitment : SpelledAlike H.nfc i.nextCommitment) :
    Agree SameClass Eq (i.verify H) ((Inception.ts i).verify H) :=
  agree_handler (tsVerifyByAddress_alike N (by decide) fun _ hkey =>
    alike_inception (isPlain_of_certified hkey) hcommitment) fun _ _ => rfl

/-- **THE SIGNATURE OF A ROTATION** is judged alike. -/
theorem agree_signature (N : NfcText H.nfc) {r : KeyRotation}
    (h : ∀ key, signingKeyFromAddress r.previous = .ok key → RotationAlike H.nfc r) :
    Agree SameClass Eq (r.verifySignature H) ((KeyRotation.ts r).verifySignature H) :=
  agree_handler (tsVerifyByAddress_alike N (by decide) fun _ hkey => alike_rotation (h _ hkey))
    fun _ _ => rfl

/-- **ONE TURN OF THE LOOP**, from a state whose identity is plain text. -/
theorem agree_checkStep (N : NfcText H.nfc) {r : KeyRotation} (hid : SpelledAlike H.nfc st.identity)
    (hsequence : st.sequence < maxSafeInteger) (hcommitment : SpelledAlike H.nfc r.nextCommitment) :
    Agree SameClass Eq (checkStep H st r) (tsCheckStep H st (KeyRotation.ts r)) := by
  refine Agree.bind (agree_guard Iff.rfl rfl) fun _ _ hid' _ _ => ?_
  refine Agree.bind (agree_guard Iff.rfl rfl) fun _ _ hseq _ _ => ?_
  refine Agree.bind (agree_guard Iff.rfl rfl) fun _ _ _ _ _ => ?_
  refine Agree.bind (agree_commitmentForAddress _) ?_
  rintro revealed _ hrevealed - rfl
  refine Agree.bind (agree_guard Iff.rfl rfl) fun _ _ _ _ _ => ?_
  simp only [raiseIf_ok_iff, not_not] at hid' hseq
  exact agree_signature N fun key hkey =>
    { identity := hid' ▸ hid
      nextAddress := spelledAlike_of_plain (isPlain_of_commitment hrevealed)
      nextCommitment := hcommitment
      previous := isPlain_of_certified hkey
      sequence := by omega }

/-- The loop, as long as the sequences are safe integers. -/
theorem agree_replay (N : NfcText H.nfc) (hid : SpelledAlike H.nfc st.identity)
    {rotations : List KeyRotation} (hlength : st.sequence + rotations.length ≤ maxSafeInteger)
    (hcommitments : ∀ r ∈ rotations, SpelledAlike H.nfc r.nextCommitment) :
    Agree SameClass Eq (replay H st rotations) (tsReplay H st (rotations.map KeyRotation.ts)) := by
  induction rotations generalizing st with
  | nil => exact .ok rfl
  | cons r rotations ih =>
      obtain ⟨hr, hcommitments⟩ := List.forall_mem_cons.mp hcommitments
      rw [List.length_cons] at hlength
      refine Agree.bind (agree_checkStep N hid (by omega) hr) fun _ _ hstep _ _ => ?_
      have hseq : (st.advance r).sequence = st.sequence + 1 := (checkStep_ok_iff.mp hstep).sequence
      exact ih hid (by omega) hcommitments

/-- What is asked of a history for both packages to read it alike: each commitment is written alike,
    and there are no more rotations than a number can count. -/
structure HistoryAlike (nfc : PyStr → PyStr) (chain : RotationChain) : Prop where
  inception : SpelledAlike nfc chain.inception.nextCommitment
  rotations : ∀ r ∈ chain.rotations, SpelledAlike nfc r.nextCommitment
  length_le : chain.rotations.length ≤ maxSafeInteger

/-- **ONE HISTORY, ONE KEY.**  Both packages replay a history to the same state, or both refuse it,
    with an error of one class. -/
theorem agree_resolve (H : Host) (N : NfcText H.nfc) (chain : RotationChain)
    (A : HistoryAlike H.nfc chain) (chain' : TsRotationChain) (S : SameHistory chain chain') :
    Agree SameClass Eq (chain.resolve H) (chain'.resolve H) := by
  rw [TsRotationChain.resolve, TsRotationChain.genesis, TsRotationChain.identity, S.inception,
    S.rotations]
  refine Agree.bind (agree_inception N A.inception) fun _ _ hinception _ _ => ?_
  obtain ⟨key, _, _, hkey, -⟩ := verifyByAddress_ok_iff.mp (exceptRaise_ok_iff.mp hinception)
  refine agree_replay N (isPlain_of_certified hkey) ?_ A.rotations
  rw [show chain.genesis.sequence = 0 from rfl, Nat.zero_add]
  exact A.length_le

/-- A key history as objects with references from `n` on. -/
def RotationChain.objects (n : ℕ) (chain : RotationChain) : TsRotationChain :=
  ⟨⟨n, Inception.ts chain.inception⟩,
    chain.rotations.zipIdx.map fun p => ⟨n + 1 + p.2, KeyRotation.ts p.1⟩⟩

/-- A history on new objects is the same history. -/
theorem sameHistory_objects (n : ℕ) (chain : RotationChain) :
    SameHistory chain (RotationChain.objects n chain) where
  inception := rfl
  rotations := by
    have hfst : chain.rotations = chain.rotations.zipIdx.map Prod.fst := by
      rw [List.zipIdx_map_fst]
    rw [RotationChain.objects, List.map_map]
    conv_rhs => rw [hfst]
    rw [List.map_map]
    rfl

end AgentTsRotation
