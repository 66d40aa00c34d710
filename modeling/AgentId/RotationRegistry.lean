import Mathlib.Data.List.AList
import AgentId.PrefixLog
import AgentId.RotationText

/-!
# The rotation registry (`rotation.py`)

`RotationRegistry.learn` resolves a chain, compares the fingerprint of each of its records with
the one recorded at that sequence, and either notes a conflict or adopts the chain.  A method
that changes the registry returns its outcome with the registry it leaves.

* **`learn_tracks`** — for each identity the registry refines a `View` of fingerprint histories:
  learning a chain is learning its fingerprints.
* **`learnAll_tracks`** — after any run it is the view of the histories that resolved.
-/

namespace AgentRotationRegistry

open AgentPy AgentJson AgentSigning AgentSerde AgentRotation AgentRotationText AgentPrefixLog

/-! ## The registry -/

/-- Evidence of duplicity is a rotation or, at sequence 0, an inception. -/
inductive Evidence where
  | inception (i : Inception)
  | rotation (r : KeyRotation)
  deriving DecidableEq

/-- The three maps of the registry. -/
structure RotationRegistry where
  states : AList fun _ : PyStr => RotationState := ∅
  seen : AList fun _ : PyStr × ℕ => PyStr := ∅
  duplicity : AList fun _ : PyStr => List Evidence := ∅

/-- One entry of `steps` in `learn`. -/
structure LearnStep where
  sequence : ℕ
  fingerprint : PyStr
  record : Evidence

def rotationStep (H : Host) (r : KeyRotation) : Py LearnStep := do
  let fingerprint ← rotationIdentity H r
  .ok ⟨r.sequence, fingerprint, .rotation r⟩

/-- `steps`: every record of the chain, genesis included. -/
def chainSteps (H : Host) (chain : RotationChain) : Py (List LearnStep) := do
  let fingerprint ← inceptionIdentity H chain.inception
  let rest ← chain.rotations.mapM (rotationStep H)
  .ok (⟨0, fingerprint, .inception chain.inception⟩ :: rest)

/-- The first record that contradicts what was recorded at its sequence. -/
def findConflict (seen : AList fun _ : PyStr × ℕ => PyStr) (identity : PyStr) :
    List LearnStep → Option LearnStep
  | [] => none
  | s :: steps =>
      match seen.lookup (identity, s.sequence) with
      | none => findConflict seen identity steps
      | some established =>
          if established ≠ s.fingerprint then some s else findConflict seen identity steps

namespace RotationRegistry

/-- Record the evidence, once. -/
def noteConflict (reg : RotationRegistry) (identity : PyStr) (record : Evidence) :
    RotationRegistry :=
  let evidence := (reg.duplicity.lookup identity).getD []
  { reg with
    duplicity := reg.duplicity.insert identity
      (if record ∈ evidence then evidence else evidence ++ [record]) }

/-- `self._seen[(identity, sequence)] = fingerprint` for every step. -/
def recordSteps (identity : PyStr) (steps : List LearnStep)
    (seen : AList fun _ : PyStr × ℕ => PyStr) : AList fun _ : PyStr × ℕ => PyStr :=
  steps.foldl (fun seen s => seen.insert (identity, s.sequence) s.fingerprint) seen

/-- The end of `learn`: keep the state that is further along. -/
def adopt (reg : RotationRegistry) (state : RotationState) (steps : List LearnStep) :
    Py RotationState × RotationRegistry :=
  let seen := recordSteps state.identity steps reg.seen
  match reg.states.lookup state.identity with
  | none =>
      (.ok state, { reg with seen := seen, states := reg.states.insert state.identity state })
  | some known =>
      -- a chain that is not further along leaves the state known before
      if known.sequence < state.sequence then
        (.ok state, { reg with seen := seen, states := reg.states.insert state.identity state })
      else (.ok known, { reg with seen := seen })

def learn (H : Host) (reg : RotationRegistry) (chain : RotationChain) :
    Py RotationState × RotationRegistry :=
  match chain.resolve H with
  | .error e => (.error e, reg)
  | .ok state =>
      match chainSteps H chain with
      | .error e => (.error e, reg)
      | .ok steps =>
          match findConflict reg.seen state.identity steps with
          | some conflict =>
              (raise .rotationError
                ["conflicting records at sequence ", .int conflict.sequence, " for ",
                  state.identity, " — the signing key is compromised; refusing to advance"],
                reg.noteConflict state.identity conflict.record)
          -- the duplicity record is not consulted here
          | none => reg.adopt state steps

/-- `is_duplicitous` -/
def isDuplicitous (reg : RotationRegistry) (identity : PyStr) : Bool :=
  (reg.duplicity.lookup identity).isSome

/-- `state` -/
def state (reg : RotationRegistry) (identity : PyStr) : Option RotationState :=
  reg.states.lookup identity

/-- `RotationRegistry.resolve` -/
def resolve (reg : RotationRegistry) (identity : PyStr) : Py PyStr :=
  if reg.isDuplicitous identity then
    raise .rotationError [identity, " is compromised — conflicting records proved the ",
      "signing key leaked; refusing to resolve a trusted address"]
  else
    match reg.state identity with
    | some st => .ok st.currentAddress
    | none => .ok identity

/-- Learn chains in turn, whatever each call returns or raises. -/
def learnAll (H : Host) (reg : RotationRegistry) (chains : List RotationChain) :
    RotationRegistry :=
  chains.foldl (fun reg chain => (reg.learn H chain).2) reg

end RotationRegistry

/-! ## The steps of a chain that resolves -/

variable {H : Host}

/-- The steps carry the fingerprints, numbered from 0. -/
structure StepsOf (H : Host) (chain : RotationChain) (steps : List LearnStep)
    (fingerprints : List PyStr) : Prop where
  ok : chainSteps H chain = .ok steps
  fingerprints_ok : chain.fingerprints H = .ok fingerprints
  map_fingerprint : steps.map LearnStep.fingerprint = fingerprints
  map_sequence : steps.map LearnStep.sequence = List.range steps.length
  length_eq : steps.length = chain.rotations.length + 1

/-- The steps of accepted rotations: their fingerprints, numbered from the state they start in. -/
theorem rotationSteps_of_accepts {st : RotationState} {rs : List KeyRotation}
    (h : Accepts H st rs) :
    ∃ steps, rs.mapM (rotationStep H) = .ok steps ∧
      rs.mapM (rotationIdentity H) = .ok (steps.map LearnStep.fingerprint) ∧
      steps.map LearnStep.sequence = List.range' (st.sequence + 1) rs.length ∧
      steps.length = rs.length := by
  induction rs generalizing st with
  | nil => exact ⟨[], rfl, rfl, rfl, rfl⟩
  | cons r rs ih =>
      obtain ⟨fingerprint, hf⟩ := h.1.verified.fingerprint
      obtain ⟨steps, hsteps, hprints, hseq, hlen⟩ := ih h.2
      have hstep : rotationStep H r = .ok ⟨r.sequence, fingerprint, .rotation r⟩ := by
        rw [rotationStep, hf]
        rfl
      refine ⟨⟨r.sequence, fingerprint, .rotation r⟩ :: steps, ?_, ?_, ?_, ?_⟩
      · rw [List.mapM_cons, hstep, hsteps]
        rfl
      · rw [List.mapM_cons, hf, hprints]
        rfl
      · rw [List.map_cons, hseq, List.length_cons, List.range'_succ, h.1.sequence,
          show (st.advance r).sequence = st.sequence + 1 from h.1.sequence]
      · rw [List.length_cons, hlen, List.length_cons]

/-- **A CHAIN THAT RESOLVES HAS STEPS**, one a record, numbered from 0. -/
theorem stepsOf_resolve {chain : RotationChain} {st : RotationState}
    (h : chain.resolve H = .ok st) : ∃ steps fingerprints, StepsOf H chain steps fingerprints := by
  obtain ⟨hinc, hacc, -⟩ := resolve_ok_iff.mp h
  obtain ⟨first, hfirst⟩ := hinc.fingerprint
  obtain ⟨steps, hsteps, hprints, hseq, hlen⟩ := rotationSteps_of_accepts hacc
  refine ⟨⟨0, first, .inception chain.inception⟩ :: steps,
    first :: steps.map LearnStep.fingerprint, ?_, ?_, rfl, ?_, by rw [List.length_cons, hlen]⟩
  · rw [chainSteps, hfirst, hsteps]
    rfl
  · rw [RotationChain.fingerprints, hfirst, hprints]
    rfl
  · rw [List.map_cons, hseq, List.length_cons, hlen, List.range_eq_range', List.range'_succ]
    rfl

/-- The step at a position has that position as its sequence, and the fingerprint there. -/
theorem StepsOf.getElem?_sequence {chain : RotationChain} {steps : List LearnStep}
    {fingerprints : List PyStr} (h : StepsOf H chain steps fingerprints) {i : ℕ} {s : LearnStep}
    (hs : steps[i]? = some s) : s.sequence = i ∧ fingerprints[i]? = some s.fingerprint := by
  have hi := (List.getElem?_eq_some_iff.mp hs).1
  have hseq : (steps.map LearnStep.sequence)[i]? = (List.range steps.length)[i]? := by
    rw [h.map_sequence]
  rw [List.getElem?_map, hs, List.getElem?_range hi] at hseq
  refine ⟨Option.some.inj hseq, ?_⟩
  rw [← h.map_fingerprint, List.getElem?_map, hs]
  rfl

/-! ## Conflicts -/

/-- No conflict is found exactly when whatever is recorded for a step is its fingerprint. -/
theorem findConflict_eq_none_iff {seen : AList fun _ : PyStr × ℕ => PyStr} {identity : PyStr}
    {steps : List LearnStep} :
    findConflict seen identity steps = none ↔ ∀ s ∈ steps, ∀ established,
      seen.lookup (identity, s.sequence) = some established → established = s.fingerprint := by
  induction steps with
  | nil => exact ⟨fun _ s hs => absurd hs List.not_mem_nil, fun _ => rfl⟩
  | cons s steps ih =>
      rw [findConflict, List.forall_mem_cons, ← ih]
      cases hseen : seen.lookup (identity, s.sequence) with
      | none => simp
      | some established =>
          by_cases he : established = s.fingerprint
          · simp [he]
          · simp [he]

/-- Where the recorded fingerprints are `log`, a conflict is an incompatible history. -/
theorem findConflict_eq_none_iff_compatible {seen : AList fun _ : PyStr × ℕ => PyStr}
    {chain : RotationChain} {steps : List LearnStep} {fingerprints log : List PyStr}
    (hsteps : StepsOf H chain steps fingerprints) {identity : PyStr}
    (hseen : ∀ i, seen.lookup (identity, i) = log[i]?) :
    findConflict seen identity steps = none ↔ Compatible log fingerprints := by
  rw [findConflict_eq_none_iff, compatible_iff]
  constructor
  · intro h i x y hx hy
    rw [← hsteps.map_fingerprint, List.getElem?_map, Option.map_eq_some_iff] at hy
    obtain ⟨s, hs, rfl⟩ := hy
    obtain ⟨hseq, -⟩ := hsteps.getElem?_sequence hs
    refine h s (List.mem_of_getElem? hs) x ?_
    rw [hseq, hseen]
    exact hx
  · intro h s hs established hlookup
    obtain ⟨i, hi⟩ := List.getElem?_of_mem hs
    obtain ⟨hseq, hprint⟩ := hsteps.getElem?_sequence hi
    rw [hseq, hseen] at hlookup
    exact h i _ _ hlookup hprint

/-! ## Recording -/

/-- Steps numbered from 0 write their fingerprints over what is recorded, position by position. -/
theorem lookup_recordSteps {steps : List LearnStep} {identity : PyStr}
    {seen : AList fun _ : PyStr × ℕ => PyStr}
    (hseq : steps.map LearnStep.sequence = List.range steps.length) (i : ℕ) :
    (RotationRegistry.recordSteps identity steps seen).lookup (identity, i)
      = (steps.map LearnStep.fingerprint)[i]?.or (seen.lookup (identity, i)) := by
  induction steps using List.reverseRecOn with
  | nil => rfl
  | append_singleton steps s ih =>
      rw [List.map_append, List.length_append, List.length_singleton, List.range_succ] at hseq
      obtain ⟨hinit, hlast⟩ := List.append_inj hseq (by simp)
      have hs : s.sequence = steps.length := (List.cons.inj hlast).1
      rw [RotationRegistry.recordSteps, List.foldl_concat, List.map_append]
      -- the last step was written last, at its own sequence
      by_cases hi : i = steps.length
      · rw [hi, ← hs, AList.lookup_insert, hs, List.getElem?_append_right (by simp)]
        simp
      · have hne : (identity, i) ≠ (identity, s.sequence) := by
          rw [hs]
          exact fun h => hi (Prod.mk.inj h).2
        rw [AList.lookup_insert_ne hne]
        refine (ih hinit).trans ?_
        rcases Nat.lt_or_gt_of_ne hi with hlt | hgt
        · rw [List.getElem?_append_left (by simpa using hlt)]
        · have hlong : i - steps.length ≠ 0 := by omega
          rw [List.getElem?_append_right (by simpa using hgt.le),
            List.getElem?_eq_none (by simpa using hgt.le)]
          simp [hlong]

/-- What is recorded for another identity stays. -/
theorem lookup_recordSteps_ne {steps : List LearnStep} {identity other : PyStr}
    {seen : AList fun _ : PyStr × ℕ => PyStr} (hne : other ≠ identity) (i : ℕ) :
    (RotationRegistry.recordSteps identity steps seen).lookup (other, i)
      = seen.lookup (other, i) := by
  induction steps using List.reverseRecOn with
  | nil => rfl
  | append_singleton steps s ih =>
      rw [RotationRegistry.recordSteps, List.foldl_concat,
        AList.lookup_insert_ne fun h => hne (Prod.mk.inj h).1]
      exact ih

/-! ## Refinement -/

/-- The registry's knowledge of `x` is the view `v`: the recorded fingerprints are its log, the
    known state is that of a chain with those fingerprints. -/
structure Tracks (H : Host) (reg : RotationRegistry) (x : PyStr) (v : View PyStr) : Prop where
  seen : ∀ i, reg.seen.lookup (x, i) = v.log[i]?
  duplicity : reg.isDuplicitous x = true ↔ v.forked
  known : ∀ st, reg.state x = some st → ∃ chain : RotationChain, chain.identity = x ∧
    chain.resolve H = .ok st ∧ chain.fingerprints H = .ok v.log
  unknown : reg.state x = none → v.log = []

/-- What a chain contributes to the history of `x`. -/
def history (H : Host) (x : PyStr) (chain : RotationChain) : Option (List PyStr) :=
  if chain.identity = x then
    match chain.resolve H, chain.fingerprints H with
    | .ok _, .ok fingerprints => some fingerprints
    | _, _ => none
  else none

/-- A chain contributes to its own identity only, and only when it resolves. -/
theorem history_eq_some_iff {x : PyStr} {chain : RotationChain} {fingerprints : List PyStr} :
    history H x chain = some fingerprints ↔ chain.identity = x ∧
      (∃ st, chain.resolve H = .ok st) ∧ chain.fingerprints H = .ok fingerprints := by
  simp only [history]
  by_cases hx : chain.identity = x
  · rw [if_pos hx]
    cases chain.resolve H with
    | error e => simp
    | ok st =>
        cases chain.fingerprints H with
        | error e => simp
        | ok fps => simp [hx]
  · simp [hx]

/-- A chain resolves to a state of its own identity. -/
theorem resolve_identity {chain : RotationChain} {st : RotationState}
    (h : chain.resolve H = .ok st) : st.identity = chain.identity := by
  obtain ⟨-, -, rfl⟩ := resolve_ok_iff.mp h
  exact after_identity _ _

/-- The sequence of the state is the number of rotations. -/
theorem resolve_sequence {chain : RotationChain} {st : RotationState}
    (h : chain.resolve H = .ok st) : st.sequence = chain.rotations.length := by
  obtain ⟨-, hacc, rfl⟩ := resolve_ok_iff.mp h
  rw [after_sequence hacc]
  exact Nat.zero_add _

/-- One fingerprint a record, the inception's first. -/
theorem fingerprints_length {chain : RotationChain} {st : RotationState} {fps : List PyStr}
    (h : chain.resolve H = .ok st) (hf : chain.fingerprints H = .ok fps) :
    fps.length = st.sequence + 1 := by
  obtain ⟨steps, fps', hsteps⟩ := stepsOf_resolve h
  rw [hsteps.fingerprints_ok] at hf
  cases hf
  rw [← hsteps.map_fingerprint, List.length_map, hsteps.length_eq, resolve_sequence h]

/-- **HOW `learn` ENDS**: the chain fails to resolve, contradicts the record, or is adopted. -/
theorem learn_cases (H : Host) (reg : RotationRegistry) (chain : RotationChain) :
    (∃ e, chain.resolve H = .error e ∧ reg.learn H chain = (.error e, reg)) ∨
    (∃ st steps fps conflict e, chain.resolve H = .ok st ∧ StepsOf H chain steps fps ∧
      findConflict reg.seen chain.identity steps = some conflict ∧ e.cls = .rotationError ∧
      reg.learn H chain = (.error e, reg.noteConflict chain.identity conflict.record)) ∨
    ∃ st steps fps, chain.resolve H = .ok st ∧ StepsOf H chain steps fps ∧
      findConflict reg.seen chain.identity steps = none ∧
      reg.learn H chain = reg.adopt st steps := by
  cases hresolve : chain.resolve H with
  | error e => exact Or.inl ⟨e, rfl, by rw [RotationRegistry.learn, hresolve]⟩
  | ok st =>
      obtain ⟨steps, fps, hsteps⟩ := stepsOf_resolve hresolve
      refine Or.inr ?_
      rw [RotationRegistry.learn, hresolve, hsteps.ok]
      simp only [resolve_identity hresolve]
      cases hconflict : findConflict reg.seen chain.identity steps with
      | some conflict => exact Or.inl ⟨st, steps, fps, conflict, _, rfl, hsteps, hconflict, rfl, rfl⟩
      | none => exact Or.inr ⟨st, steps, fps, rfl, hsteps, hconflict, rfl⟩

/-- A conflict marks its identity, and no other. -/
theorem isDuplicitous_noteConflict (reg : RotationRegistry) (identity x : PyStr)
    (record : Evidence) : (reg.noteConflict identity record).isDuplicitous x = true ↔
      x = identity ∨ reg.isDuplicitous x = true := by
  simp only [RotationRegistry.isDuplicitous, RotationRegistry.noteConflict]
  by_cases hx : x = identity
  · subst hx
    simp
  · rw [AList.lookup_insert_ne hx]
    simp [hx]

/-- What adopting a chain leaves known of its identity. -/
theorem adopt_state {reg : RotationRegistry} {st : RotationState} {steps : List LearnStep}
    {x : PyStr} (hx : st.identity = x) :
    (reg.adopt st steps).2.state x =
      match reg.state x with
      | none => some st
      | some known => if known.sequence < st.sequence then some st else some known := by
  subst hx
  simp only [RotationRegistry.adopt, RotationRegistry.state]
  cases hknown : reg.states.lookup st.identity with
  | none => exact AList.lookup_insert _
  | some known =>
      by_cases hlt : known.sequence < st.sequence
      · simp only [hlt, if_true]
        exact AList.lookup_insert _
      · simp only [hlt, if_false]
        exact hknown

/-- Adopting a chain leaves what is known of other identities. -/
theorem adopt_state_ne {reg : RotationRegistry} {st : RotationState} {steps : List LearnStep}
    {x : PyStr} (hx : x ≠ st.identity) : (reg.adopt st steps).2.state x = reg.state x := by
  simp only [RotationRegistry.adopt, RotationRegistry.state]
  cases reg.states.lookup st.identity with
  | none => exact AList.lookup_insert_ne hx
  | some known =>
      by_cases hlt : known.sequence < st.sequence
      · simp only [hlt, if_true]
        exact AList.lookup_insert_ne hx
      · simp only [hlt, if_false]

/-- Adopting records every step, and marks no identity. -/
theorem adopt_seen (reg : RotationRegistry) (st : RotationState) (steps : List LearnStep) :
    (reg.adopt st steps).2.seen = RotationRegistry.recordSteps st.identity steps reg.seen ∧
      (reg.adopt st steps).2.duplicity = reg.duplicity := by
  simp only [RotationRegistry.adopt]
  cases reg.states.lookup st.identity with
  | none => exact ⟨rfl, rfl⟩
  | some known =>
      by_cases hlt : known.sequence < st.sequence
      · simp [hlt]
      · simp [hlt]

/-- A conflict marks the view, and leaves its log. -/
theorem tracks_noteConflict {reg : RotationRegistry} {x : PyStr} {v : View PyStr}
    (h : Tracks H reg x v) {fps : List PyStr} (hnot : ¬ Compatible v.log fps) (record : Evidence) :
    Tracks H (reg.noteConflict x record) x (v.learn fps) := by
  rw [View.learn_of_not_compatible hnot]
  exact ⟨h.seen, ⟨fun _ => trivial,
    fun _ => (isDuplicitous_noteConflict reg x x record).mpr (Or.inl rfl)⟩, h.known, h.unknown⟩

/-- A conflict of another identity leaves the view. -/
theorem tracks_noteConflict_ne {reg : RotationRegistry} {x y : PyStr} {v : View PyStr}
    (h : Tracks H reg x v) (hne : x ≠ y) (record : Evidence) :
    Tracks H (reg.noteConflict y record) x v := by
  refine ⟨h.seen, ?_, h.known, h.unknown⟩
  rw [isDuplicitous_noteConflict, ← h.duplicity]
  exact or_iff_right hne

/-- Adopting a compatible chain is learning its fingerprints. -/
theorem tracks_adopt {reg : RotationRegistry} {x : PyStr} {v : View PyStr} (h : Tracks H reg x v)
    {chain : RotationChain} {st : RotationState} {steps : List LearnStep} {fps : List PyStr}
    (hx : chain.identity = x) (hresolve : chain.resolve H = .ok st)
    (hsteps : StepsOf H chain steps fps) (hcompat : Compatible v.log fps) :
    Tracks H (reg.adopt st steps).2 x (v.learn fps) := by
  obtain ⟨hseen, hdup⟩ := adopt_seen reg st steps
  have hid : st.identity = x := (resolve_identity hresolve).trans hx
  have hstate := @adopt_state reg st steps x hid
  have hfps : fps.length = st.sequence + 1 :=
    fingerprints_length hresolve hsteps.fingerprints_ok
  rw [View.learn_of_compatible hcompat]
  refine ⟨fun i => ?_, ?_, ?_, ?_⟩
  -- the fingerprints are written over a log they agree with
  · rw [hseen, hid, lookup_recordSteps hsteps.map_sequence, hsteps.map_fingerprint, h.seen,
      getElem?_or_of_compatible hcompat]
  · rw [RotationRegistry.isDuplicitous, hdup]
    exact h.duplicity
  · intro st' hst'
    show ∃ c : RotationChain, c.identity = x ∧ c.resolve H = .ok st' ∧
      c.fingerprints H = .ok (if v.log.length < fps.length then fps else v.log)
    -- the state adopted is that of the longer of the two histories
    rw [hstate] at hst'
    cases hknown : reg.state x with
    | none =>
        rw [hknown] at hst'
        cases hst'
        rw [h.unknown hknown, if_pos (by rw [hfps]; exact Nat.succ_pos _)]
        exact ⟨chain, hx, hresolve, hsteps.fingerprints_ok⟩
    | some known =>
        obtain ⟨c, hcx, hcresolve, hcfps⟩ := h.known known hknown
        have hlog : v.log.length = known.sequence + 1 := fingerprints_length hcresolve hcfps
        rw [hknown] at hst'
        by_cases hlt : known.sequence < st.sequence
        · simp only [hlt, if_true] at hst'
          cases hst'
          rw [if_pos (by omega)]
          exact ⟨chain, hx, hresolve, hsteps.fingerprints_ok⟩
        · simp only [hlt, if_false] at hst'
          cases hst'
          rw [if_neg (by omega)]
          exact ⟨c, hcx, hcresolve, hcfps⟩
  · intro hnone
    rw [hstate] at hnone
    cases hknown : reg.state x with
    | none => rw [hknown] at hnone; exact nomatch hnone
    | some known =>
        rw [hknown] at hnone
        by_cases hlt : known.sequence < st.sequence
        · simp [hlt] at hnone
        · simp [hlt] at hnone

/-- Adopting a chain of another identity leaves the view. -/
theorem tracks_adopt_ne {reg : RotationRegistry} {x : PyStr} {v : View PyStr}
    (h : Tracks H reg x v) {st : RotationState} (hne : x ≠ st.identity) (steps : List LearnStep) :
    Tracks H (reg.adopt st steps).2 x v := by
  obtain ⟨hseen, hdup⟩ := adopt_seen reg st steps
  have hstate := @adopt_state_ne reg st steps x hne
  refine ⟨fun i => ?_, ?_, fun st' hst' => h.known st' (hstate ▸ hst'),
    fun hst' => h.unknown (hstate ▸ hst')⟩
  · rw [hseen, lookup_recordSteps_ne hne, h.seen]
  · rw [RotationRegistry.isDuplicitous, hdup]
    exact h.duplicity

/-- The view after a chain. -/
def learnHistory (H : Host) (x : PyStr) (v : View PyStr) (chain : RotationChain) : View PyStr :=
  match history H x chain with
  | some fingerprints => v.learn fingerprints
  | none => v

theorem learnHistory_some {x : PyStr} {chain : RotationChain} {fps : List PyStr}
    (h : history H x chain = some fps) (v : View PyStr) :
    learnHistory H x v chain = v.learn fps := by
  rw [learnHistory, h]

theorem learnHistory_none {x : PyStr} {chain : RotationChain} (h : history H x chain = none)
    (v : View PyStr) : learnHistory H x v chain = v := by
  rw [learnHistory, h]

/-- A chain that does not resolve contributes to no history. -/
theorem history_eq_none {x : PyStr} {chain : RotationChain} {e : PyError}
    (h : chain.resolve H = .error e) : history H x chain = none := by
  refine Option.eq_none_iff_forall_ne_some.mpr fun fps hfps => ?_
  obtain ⟨-, ⟨st, hst⟩, -⟩ := history_eq_some_iff.mp hfps
  rw [h] at hst
  exact nomatch hst

/-- **LEARNING A CHAIN IS LEARNING ITS FINGERPRINTS.** -/
theorem learn_tracks {reg : RotationRegistry} {x : PyStr} {v : View PyStr}
    (h : Tracks H reg x v) (chain : RotationChain) :
    Tracks H (reg.learn H chain).2 x (learnHistory H x v chain) := by
  rcases learn_cases H reg chain with ⟨e, hresolve, hlearn⟩ |
    ⟨st, steps, fps, conflict, e, hresolve, hsteps, hconflict, -, hlearn⟩ |
    ⟨st, steps, fps, hresolve, hsteps, hconflict, hlearn⟩
  · rw [hlearn, learnHistory_none (history_eq_none hresolve)]
    exact h
  · rw [hlearn]
    by_cases hx : chain.identity = x
    · subst hx
      rw [learnHistory_some (history_eq_some_iff.mpr ⟨rfl, ⟨st, hresolve⟩, hsteps.fingerprints_ok⟩)]
      refine tracks_noteConflict h (fun hcompat => ?_) conflict.record
      -- compatible histories would have shown no conflict
      rw [← findConflict_eq_none_iff_compatible hsteps h.seen, hconflict] at hcompat
      exact nomatch hcompat
    · rw [learnHistory_none (if_neg hx)]
      exact tracks_noteConflict_ne h (fun he => hx he.symm) conflict.record
  · rw [hlearn]
    by_cases hx : chain.identity = x
    · subst hx
      rw [learnHistory_some (history_eq_some_iff.mpr ⟨rfl, ⟨st, hresolve⟩, hsteps.fingerprints_ok⟩)]
      exact tracks_adopt h rfl hresolve hsteps
        ((findConflict_eq_none_iff_compatible hsteps h.seen).mp hconflict)
    · rw [learnHistory_none (if_neg hx)]
      exact tracks_adopt_ne h (fun he => hx (he.trans (resolve_identity hresolve)).symm) steps

/-- An empty registry is the view that has learned nothing. -/
theorem tracks_empty (x : PyStr) : Tracks H {} x {} :=
  ⟨fun _ => rfl, ⟨fun h => absurd h Bool.false_ne_true, fun h => absurd h id⟩,
    fun st h => absurd h (Option.some_ne_none st).symm, fun _ => rfl⟩

/-- From any registry the view describes, so do all the chains in turn. -/
theorem learnAll_tracks_from {reg : RotationRegistry} {x : PyStr} {v : View PyStr}
    (h : Tracks H reg x v) (chains : List RotationChain) :
    Tracks H (reg.learnAll H chains) x (chains.foldl (learnHistory H x) v) := by
  induction chains generalizing reg v with
  | nil => exact h
  | cons chain chains ih => exact ih (learn_tracks h chain)

/-- **AFTER ANY RUN** the registry is the view of the histories that resolved. -/
theorem learnAll_tracks (H : Host) (x : PyStr) (chains : List RotationChain) :
    Tracks H (RotationRegistry.learnAll H {} chains) x
      (View.learnAll (chains.filterMap (history H x))) := by
  have hfold : ∀ (cs : List RotationChain) (v : View PyStr),
      cs.foldl (learnHistory H x) v = (cs.filterMap (history H x)).foldl View.learn v := by
    intro cs
    induction cs with
    | nil => exact fun v => rfl
    | cons c cs ih =>
        intro v
        rw [List.foldl_cons, ih, List.filterMap_cons, learnHistory]
        cases history H x c with
        | none => rfl
        | some fps => rfl
  rw [View.learnAll, ← hfold]
  exact learnAll_tracks_from (tracks_empty x) chains

end AgentRotationRegistry
