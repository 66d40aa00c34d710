import AgentId.IsoText
import AgentId.Rotation

/-!
# Key histories on the wire (`rotation.py`)

The records of a key history have no optional fields and nothing that is sorted, so each of them
comes back as it was.

* **`Inception.modelValidate_modelDump`**, **`KeyRotation.modelValidate_modelDump`**
* **`RotationChain.modelValidate_modelDump`** — so does a whole history.
-/

namespace AgentRotationWire

open AgentPy AgentJson AgentSigning AgentSerde AgentIsoText AgentRotation

/-- What `data["…"]` reads: only a `dict` is subscripted by a name. -/
def subscripted : Json → Py Members
  | .obj members => .ok members
  | v => raise .typeError [typeName v, " cannot be subscripted by a name"]

/-- `Inception.model_dump(mode="json")` -/
def Inception.modelDump (i : Inception) : Members :=
  [(py "address", .str i.address), (py "next_commitment", .str i.nextCommitment),
    (py "created_at", .str (canonicalTimestamp i.createdAt)), (py "signature", .str i.signature)]

def Inception.modelValidate (H : Host) (data : Json) : Py Inception := do
  let data ← subscripted data
  let address ← getField data (py "address")
  let nextCommitment ← getField data (py "next_commitment")
  let createdAt ← getField data (py "created_at")
  let createdAt ← parseDatetime H (py "created_at") createdAt
  let address ← requireStr (py "address") address
  let nextCommitment ← requireStr (py "next_commitment") nextCommitment
  let signature ← requireStr (py "signature") (getFieldOr data (py "signature") (.str []))
  .ok ⟨address, nextCommitment, createdAt, signature⟩

/-- The check of `sequence` in `KeyRotation.__post_init__`; a `bool` is no number. -/
def requireSequence : Json → Py Int
  | .int n => .ok n
  | _ => raise .typeError ["sequence must be an int"]

/-- `KeyRotation.model_dump(mode="json")` -/
def KeyRotation.modelDump (r : KeyRotation) : Members :=
  [(py "identity", .str r.identity), (py "next_address", .str r.nextAddress),
    (py "next_commitment", .str r.nextCommitment), (py "previous", .str r.previous),
    (py "rotated_at", .str (canonicalTimestamp r.rotatedAt)), (py "sequence", .int r.sequence),
    (py "signature", .str r.signature)]

def KeyRotation.modelValidate (H : Host) (data : Json) : Py KeyRotation := do
  let data ← subscripted data
  let identity ← getField data (py "identity")
  let sequence ← getField data (py "sequence")
  let previous ← getField data (py "previous")
  let nextAddress ← getField data (py "next_address")
  let nextCommitment ← getField data (py "next_commitment")
  let rotatedAt ← getField data (py "rotated_at")
  let rotatedAt ← parseDatetime H (py "rotated_at") rotatedAt
  let identity ← requireStr (py "identity") identity
  let previous ← requireStr (py "previous") previous
  let nextAddress ← requireStr (py "next_address") nextAddress
  let nextCommitment ← requireStr (py "next_commitment") nextCommitment
  let signature ← requireStr (py "signature") (getFieldOr data (py "signature") (.str []))
  let sequence ← requireSequence sequence
  if hpos : 1 ≤ sequence.toNat then
    .ok ⟨identity, sequence.toNat, previous, nextAddress, nextCommitment, rotatedAt, signature, hpos⟩
  else raise .rotationError ["rotation sequence starts at 1"]

/-- `RotationChain.model_dump(mode="json")` -/
def RotationChain.modelDump (chain : RotationChain) : Members :=
  [(py "inception", .obj (Inception.modelDump chain.inception)),
    (py "rotations", .arr (chain.rotations.map fun r => .obj (KeyRotation.modelDump r)))]

def RotationChain.modelValidate (H : Host) (data : Json) : Py RotationChain := do
  let data ← subscripted data
  let inception ← getField data (py "inception")
  let inception ← Inception.modelValidate H inception
  let rotations ← iterate (getFieldOr data (py "rotations") (.arr []))
  let rotations ← rotations.mapM (KeyRotation.modelValidate H)
  .ok ⟨inception, rotations⟩

/-! ## The trip -/

variable {H : Host}

/-- **AN INCEPTION COMES BACK.** -/
theorem Inception.modelValidate_modelDump (R : IsoReads H) {i : Inception}
    (hyear : FourDigitYear i.createdAt) :
    Inception.modelValidate H (.obj (Inception.modelDump i)) = .ok i := by
  refine bind_ok_iff.mpr ⟨_, rfl, bind_ok_iff.mpr ⟨_, rfl, bind_ok_iff.mpr ⟨_, rfl, ?_⟩⟩⟩
  refine bind_ok_iff.mpr ⟨_, rfl, bind_ok_iff.mpr ⟨_, parseDatetime_canonical R hyear _, ?_⟩⟩
  exact bind_ok_iff.mpr ⟨_, rfl, bind_ok_iff.mpr ⟨_, rfl, bind_ok_iff.mpr ⟨_, rfl, rfl⟩⟩⟩

/-- **A ROTATION COMES BACK.** -/
theorem KeyRotation.modelValidate_modelDump (R : IsoReads H) {r : KeyRotation}
    (hyear : FourDigitYear r.rotatedAt) :
    KeyRotation.modelValidate H (.obj (KeyRotation.modelDump r)) = .ok r := by
  refine bind_ok_iff.mpr ⟨_, rfl, bind_ok_iff.mpr ⟨_, rfl, bind_ok_iff.mpr ⟨_, rfl, ?_⟩⟩⟩
  refine bind_ok_iff.mpr ⟨_, rfl, bind_ok_iff.mpr ⟨_, rfl, bind_ok_iff.mpr ⟨_, rfl, ?_⟩⟩⟩
  refine bind_ok_iff.mpr ⟨_, rfl, bind_ok_iff.mpr ⟨_, parseDatetime_canonical R hyear _, ?_⟩⟩
  refine bind_ok_iff.mpr ⟨_, rfl, bind_ok_iff.mpr ⟨_, rfl, bind_ok_iff.mpr ⟨_, rfl, ?_⟩⟩⟩
  refine bind_ok_iff.mpr ⟨_, rfl, bind_ok_iff.mpr ⟨_, rfl, bind_ok_iff.mpr ⟨_, rfl, ?_⟩⟩⟩
  exact dif_pos r.sequence_pos

/-- The instants of a key history have four-digit years. -/
def HistoryYears (chain : RotationChain) : Prop :=
  FourDigitYear chain.inception.createdAt ∧ ∀ r ∈ chain.rotations, FourDigitYear r.rotatedAt

/-- **A KEY HISTORY COMES BACK.** -/
theorem RotationChain.modelValidate_modelDump (R : IsoReads H) {chain : RotationChain}
    (hyears : HistoryYears chain) :
    RotationChain.modelValidate H (.obj (RotationChain.modelDump chain)) = .ok chain := by
  have hrotations : (chain.rotations.map fun r => Json.obj (KeyRotation.modelDump r)).mapM
      (KeyRotation.modelValidate H) = .ok chain.rotations :=
    mapM_map_self fun r hr => KeyRotation.modelValidate_modelDump R (hyears.2 r hr)
  refine bind_ok_iff.mpr ⟨_, rfl, bind_ok_iff.mpr ⟨_, rfl, ?_⟩⟩
  refine bind_ok_iff.mpr ⟨_, Inception.modelValidate_modelDump R hyears.1, ?_⟩
  exact bind_ok_iff.mpr ⟨_, rfl, bind_ok_iff.mpr ⟨_, hrotations, rfl⟩⟩

end AgentRotationWire
