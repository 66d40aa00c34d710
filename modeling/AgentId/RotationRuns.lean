import AgentId.RotationSnapshot

/-!
# Runs of the rotation registry (`rotation.py`)

A registry learns chains and restores snapshots, in any order and with any arguments: chains that
are good, stale, conflicting or invalid, and snapshots of this registry, of another, or of none.
One order on registries, `Advances`, says what no call undoes; each call advances, so a run does.

* **`run_advances`** — over any run, states move forward and duplicity stays.
* **`evidence_learn_twice`** — learning a chain again adds no evidence.
* **`registry_guarantees`** — the guarantees of the registry over every run.
-/

namespace AgentRotationRuns

open AgentPy AgentSigning AgentRotation AgentRotationRegistry AgentRotationGossip
  AgentRotationSnapshot

/-- `duplicity_evidence` -/
def RotationRegistry.duplicityEvidence (reg : RotationRegistry) (identity : PyStr) :
    List Evidence :=
  (reg.duplicity.lookup identity).getD []

/-- A call that changes the registry. -/
inductive RegistryCall where
  | learn (chain : RotationChain)
  | restore (snap : Snapshot)

/-- The registry after a call, whether it returns or raises. -/
def RegistryCall.apply (H : Host) (reg : RotationRegistry) : RegistryCall → RotationRegistry
  | .learn chain => (reg.learn H chain).2
  | .restore snap => AgentRotationSnapshot.restore reg snap

def runCalls (H : Host) (reg : RotationRegistry) (calls : List RegistryCall) : RotationRegistry :=
  calls.foldl (RegistryCall.apply H) reg

/-! ## What no call undoes -/

/-- The state known under a key is kept, or replaced by one that is at least as far along. -/
def StatesAdvance (states states' : AList fun _ : PyStr => RotationState) : Prop :=
  ∀ (x : PyStr) (st : RotationState), states.lookup x = some st →
    ∃ st', states'.lookup x = some st' ∧ st.sequence ≤ st'.sequence

/-- States move forward only, and duplicity stays. -/
structure Advances (reg reg' : RotationRegistry) : Prop where
  states : StatesAdvance reg.states reg'.states
  duplicity : ∀ x, reg.isDuplicitous x = true → reg'.isDuplicitous x = true

theorem StatesAdvance.refl (states : AList fun _ : PyStr => RotationState) :
    StatesAdvance states states :=
  fun _ st hst => ⟨st, hst, le_rfl⟩

theorem StatesAdvance.trans {a b c : AList fun _ : PyStr => RotationState}
    (hab : StatesAdvance a b) (hbc : StatesAdvance b c) : StatesAdvance a c := by
  intro x st hst
  obtain ⟨st', hst', hle⟩ := hab x st hst
  obtain ⟨st'', hst'', hle'⟩ := hbc x st' hst'
  exact ⟨st'', hst'', hle.trans hle'⟩

theorem Advances.refl (reg : RotationRegistry) : Advances reg reg :=
  ⟨.refl _, fun _ h => h⟩

theorem Advances.trans {a b c : RotationRegistry} (hab : Advances a b) (hbc : Advances b c) :
    Advances a c :=
  ⟨hab.states.trans hbc.states, fun x h => hbc.duplicity x (hab.duplicity x h)⟩

/-- A step that only goes forward goes forward when repeated. -/
theorem foldl_induction {α β : Type} {R : β → β → Prop} (hrefl : ∀ b, R b b)
    (htrans : ∀ {a b c}, R a b → R b c → R a c) {f : β → α → β} (h : ∀ b a, R b (f b a)) (b : β)
    (l : List α) : R b (l.foldl f b) := by
  induction l generalizing b with
  | nil => exact hrefl b
  | cons a l ih => exact htrans (h b a) (ih (f b a))

theorem noteConflict_advances (reg : RotationRegistry) (identity : PyStr) (record : Evidence) :
    Advances reg (reg.noteConflict identity record) :=
  ⟨.refl _, fun x h => (isDuplicitous_noteConflict reg identity x record).mpr (Or.inr h)⟩

theorem adopt_advances (reg : RotationRegistry) (st : RotationState) (steps : List LearnStep) :
    Advances reg (reg.adopt st steps).2 := by
  refine ⟨fun x known hknown => ?_, fun x h => ?_⟩
  · by_cases hx : x = st.identity
    · have hstate := @adopt_state reg st steps x hx.symm
      rw [show reg.state x = some known from hknown] at hstate
      by_cases hlt : known.sequence < st.sequence
      · exact ⟨st, hstate.trans (if_pos hlt), hlt.le⟩
      · exact ⟨known, hstate.trans (if_neg hlt), le_rfl⟩
    · exact ⟨known, (adopt_state_ne hx).trans hknown, le_rfl⟩
  · rw [RotationRegistry.isDuplicitous, (adopt_seen reg st steps).2]
    exact h

theorem learn_advances (H : Host) (reg : RotationRegistry) (chain : RotationChain) :
    Advances reg (reg.learn H chain).2 := by
  rcases learn_cases H reg chain with ⟨_, -, h⟩ | ⟨_, _, _, conflict, _, -, -, -, -, h⟩ |
    ⟨st, steps, _, -, -, -, h⟩
  · rw [h]
    exact .refl reg
  · rw [h]
    exact noteConflict_advances reg _ _
  · rw [h]
    exact adopt_advances reg st steps

/-- Whatever record a snapshot holds, the state further along is kept. -/
theorem restoreState_advances (states : AList fun _ : PyStr => RotationState) (identity : PyStr)
    (raw : StateRecord) : StatesAdvance states (restoreState states identity raw) := by
  intro x st hst
  by_cases hx : x = identity
  · subst hx
    rw [lookup_restoreState, hst, keepFurther]
    by_cases hlt : st.sequence < (raw.toState x).sequence
    · rw [if_pos hlt]
      exact ⟨_, rfl, hlt.le⟩
    · rw [if_neg hlt]
      exact ⟨st, rfl, le_rfl⟩
  · exact ⟨st, (lookup_restoreState_ne states identity raw x hx).trans hst, le_rfl⟩

/-- `setdefault` forgets no identity. -/
theorem setDuplicity_keeps (duplicity : AList fun _ : PyStr => List Evidence) (identity x : PyStr)
    (h : (duplicity.lookup x).isSome = true) :
    ((setDuplicity duplicity identity).lookup x).isSome = true :=
  (lookup_setDuplicity duplicity identity x).mpr (Or.inr h)

theorem restore_advances (reg : RotationRegistry) (snap : Snapshot) :
    Advances reg (restore reg snap) where
  states := by
    have hfold : StatesAdvance reg.states
        (snap.states.foldl (fun states e => restoreState states e.1 e.2) reg.states) :=
      foldl_induction StatesAdvance.refl StatesAdvance.trans
        (fun states (e : Σ _ : PyStr, StateRecord) => restoreState_advances states e.1 e.2) _ _
    exact hfold
  duplicity := by
    intro x h
    show ((snap.duplicity.foldl setDuplicity reg.duplicity).lookup x).isSome = true
    induction snap.duplicity using List.reverseRecOn with
    | nil => exact h
    | append_singleton earlier identity ih =>
        rw [List.foldl_concat]
        exact setDuplicity_keeps _ identity x ih

theorem apply_advances (H : Host) (reg : RotationRegistry) (call : RegistryCall) :
    Advances reg (call.apply H reg) := by
  cases call with
  | learn chain => exact learn_advances H reg chain
  | restore snap => exact restore_advances reg snap

/-- **EVERY RUN GOES FORWARD.** -/
theorem run_advances (H : Host) (reg : RotationRegistry) (calls : List RegistryCall) :
    Advances reg (runCalls H reg calls) :=
  foldl_induction Advances.refl Advances.trans (apply_advances H) reg calls

theorem runCalls_append (H : Host) (reg : RotationRegistry) (calls later : List RegistryCall) :
    runCalls H reg (calls ++ later) = runCalls H (runCalls H reg calls) later :=
  List.foldl_append

/-! ## A chain learned again -/

variable {H : Host}

/-- Noting a record a second time changes no evidence. -/
theorem duplicityEvidence_noteConflict_twice (reg : RotationRegistry) (identity : PyStr)
    (record : Evidence) (x : PyStr) :
    RotationRegistry.duplicityEvidence
        ((reg.noteConflict identity record).noteConflict identity record) x
      = RotationRegistry.duplicityEvidence (reg.noteConflict identity record) x := by
  simp only [RotationRegistry.duplicityEvidence, RotationRegistry.noteConflict,
    AList.lookup_insert, Option.getD_some]
  have hmem : record ∈ (if record ∈ (reg.duplicity.lookup identity).getD []
      then (reg.duplicity.lookup identity).getD []
      else (reg.duplicity.lookup identity).getD [] ++ [record]) := by
    split_ifs with h
    · exact h
    · exact List.mem_append_right _ (List.mem_singleton_self record)
  rw [if_pos hmem]
  by_cases hx : x = identity
  · rw [hx, AList.lookup_insert, AList.lookup_insert]
  · rw [AList.lookup_insert_ne hx, AList.lookup_insert_ne hx]

/-- Once its fingerprints are recorded, a chain conflicts with nothing. -/
theorem findConflict_recordSteps {chain : RotationChain} {steps : List LearnStep}
    {fps : List PyStr} (hsteps : StepsOf H chain steps fps) (identity : PyStr)
    (seen : AList fun _ : PyStr × ℕ => PyStr) :
    findConflict (RotationRegistry.recordSteps identity steps seen) identity steps = none := by
  refine findConflict_eq_none_iff.mpr fun s hs established hlookup => ?_
  obtain ⟨i, hi⟩ := List.getElem?_of_mem hs
  rw [(hsteps.getElem?_sequence hi).1, lookup_recordSteps hsteps.map_sequence, List.getElem?_map,
    hi] at hlookup
  exact (Option.some.inj hlookup).symm

/-- How `learn` goes on with a chain that resolves. -/
theorem learn_of_steps {chain : RotationChain} {st : RotationState} {steps : List LearnStep}
    {fps : List PyStr} (hresolve : chain.resolve H = .ok st) (hsteps : StepsOf H chain steps fps)
    (reg : RotationRegistry) :
    (∀ conflict, findConflict reg.seen chain.identity steps = some conflict →
      (reg.learn H chain).2 = reg.noteConflict chain.identity conflict.record) ∧
    (findConflict reg.seen chain.identity steps = none →
      reg.learn H chain = reg.adopt st steps) := by
  rw [RotationRegistry.learn, hresolve, hsteps.ok]
  simp only [resolve_identity hresolve]
  constructor
  · intro conflict h
    rw [h]
  · intro h
    rw [h]

/-- **LEARNING A CHAIN AGAIN ADDS NO EVIDENCE.** -/
theorem evidence_learn_twice (reg : RotationRegistry) (chain : RotationChain) (x : PyStr) :
    RotationRegistry.duplicityEvidence ((reg.learn H chain).2.learn H chain).2 x
      = RotationRegistry.duplicityEvidence (reg.learn H chain).2 x := by
  rcases learn_cases H reg chain with ⟨e, -, h⟩ |
    ⟨st, steps, fps, conflict, e, hresolve, hsteps, hconflict, -, h⟩ |
    ⟨st, steps, fps, hresolve, hsteps, hnone, h⟩
  · -- the chain does not resolve: both calls change nothing
    rw [h]
    show RotationRegistry.duplicityEvidence (reg.learn H chain).2 x = _
    rw [h]
  · -- the fingerprints are the same, and so is the record found
    rw [h]
    show RotationRegistry.duplicityEvidence
      ((reg.noteConflict chain.identity conflict.record).learn H chain).2 x = _
    rw [(learn_of_steps hresolve hsteps (reg.noteConflict chain.identity conflict.record)).1
      conflict hconflict]
    exact duplicityEvidence_noteConflict_twice reg _ _ x
  · -- the chain was adopted: its own fingerprints are on record
    have hid := resolve_identity hresolve
    have hclear : findConflict (reg.adopt st steps).2.seen chain.identity steps = none := by
      rw [(adopt_seen reg st steps).1, hid]
      exact findConflict_recordSteps hsteps chain.identity reg.seen
    rw [h, (learn_of_steps hresolve hsteps _).2 hclear]
    simp only [RotationRegistry.duplicityEvidence, (adopt_seen _ st steps).2]

/-- Any number of times in a row. -/
theorem evidence_learn_again (reg : RotationRegistry) (chain : RotationChain) (n : ℕ) (x : PyStr) :
    RotationRegistry.duplicityEvidence (reg.learnAll H (List.replicate (n + 1) chain)) x
      = RotationRegistry.duplicityEvidence (reg.learn H chain).2 x := by
  induction n with
  | zero => rfl
  | succ n ih =>
      rw [← ih, List.replicate_succ' (n := n + 1), List.replicate_succ' (n := n)]
      simp only [RotationRegistry.learnAll, List.foldl_append, List.foldl_cons, List.foldl_nil]
      exact evidence_learn_twice _ chain x

/-! ## The guarantees -/

/-- A known state is kept, at its sequence or a later one. -/
def KeepsState (reg later : RotationRegistry) (x : PyStr) : Prop :=
  ∀ st, reg.state x = some st → ∃ st', later.state x = some st' ∧ st.sequence ≤ st'.sequence

/-- The two registries agree on every state and every recorded fingerprint. -/
def SameStatesAndFingerprints (reg reg' : RotationRegistry) : Prop :=
  (∀ y, reg'.state y = reg.state y) ∧
    ∀ (y : PyStr) (i : ℕ), reg'.seen.lookup (y, i) = reg.seen.lookup (y, i)

/-- **THE REGISTRY'S GUARANTEES**, at every point of every run: from there on a known state moves
    forward only; duplicity stays, in this registry and in one restored from a later snapshot,
    whatever is called on it; a `learn` that raises leaves states and fingerprints as they were;
    and a chain submitted again and again leaves the evidence of the first time. -/
theorem registry_guarantees (H : Host) (calls later : List RegistryCall) (x : PyStr) :
    KeepsState (runCalls H {} calls) (runCalls H {} (calls ++ later)) x ∧
    ((runCalls H {} calls).isDuplicitous x = true →
      (runCalls H {} (calls ++ later)).isDuplicitous x = true ∧
      ∀ fresh, (runCalls H {} (.restore (snapshot (runCalls H {} (calls ++ later))) ::
        fresh)).isDuplicitous x = true) ∧
    (∀ chain e, ((runCalls H {} calls).learn H chain).1 = .error e →
      SameStatesAndFingerprints (runCalls H {} calls) ((runCalls H {} calls).learn H chain).2) ∧
    ∀ chain n, RotationRegistry.duplicityEvidence
        ((runCalls H {} calls).learnAll H (List.replicate (n + 1) chain)) x
      = RotationRegistry.duplicityEvidence ((runCalls H {} calls).learn H chain).2 x := by
  have hadvances := run_advances H (runCalls H {} calls) later
  rw [← runCalls_append] at hadvances
  refine ⟨hadvances.states x, fun h => ?_, fun chain e he => ?_, fun chain n => ?_⟩
  · have hlater := hadvances.duplicity x h
    refine ⟨hlater, fun fresh => (run_advances H _ fresh).duplicity x ?_⟩
    exact (restore_duplicity {} _ x).mpr (Or.inr hlater)
  · obtain ⟨hstates, hseen⟩ := learn_error_unchanged he
    simp only [SameStatesAndFingerprints, RotationRegistry.state, hstates, hseen]
    exact ⟨fun _ => trivial, fun _ _ => trivial⟩
  · exact evidence_learn_again _ chain n x

end AgentRotationRuns
