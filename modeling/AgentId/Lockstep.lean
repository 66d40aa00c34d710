import Mathlib.Data.List.Forall2

/-!
# Two implementations in lockstep

Two computations agree when both return, and what they return corresponds, or both fail, and how
they fail corresponds.  Two machines are in lockstep when corresponding calls are answered in
correspondence, and leave states that correspond.

* **`Agree.bind`** — computations agree when their halves do.
* **`Lockstep.run`** — all the answers of corresponding runs correspond, and the states they end in.
-/

namespace AgentLockstep

/-! ## Computations that agree -/

section Agree

variable {ε ε' α α' β β' : Type} {fails : ε → ε' → Prop} {same : α → α' → Prop}
  {same' : β → β' → Prop}

/-- Both return values that correspond, or both fail in corresponding ways. -/
inductive Agree (fails : ε → ε' → Prop) (same : α → α' → Prop) : Except ε α → Except ε' α' → Prop where
  | ok {a : α} {a' : α'} : same a a' → Agree fails same (.ok a) (.ok a')
  | error {e : ε} {e' : ε'} : fails e e' → Agree fails same (.error e) (.error e')

/-- **SEQUENCING**: the second halves run on what the first returned. -/
theorem Agree.bind {x : Except ε α} {x' : Except ε' α'} {f : α → Except ε β}
    {f' : α' → Except ε' β'} (hx : Agree fails same x x')
    (hf : ∀ a a', x = .ok a → x' = .ok a' → same a a' → Agree fails same' (f a) (f' a')) :
    Agree fails same' (x >>= f) (x' >>= f') := by
  cases hx with
  | ok ha => exact hf _ _ rfl rfl ha
  | error he => exact .error he

/-- And what the second returns, the first returns something of. -/
theorem Agree.exists_ok_left {x : Except ε α} {x' : Except ε' α'} (h : Agree fails same x x')
    {a' : α'} (hx : x' = .ok a') : ∃ a, x = .ok a ∧ same a a' := by
  cases h with
  | ok hsame =>
      cases hx
      exact ⟨_, rfl, hsame⟩
  | error _ => cases hx

/-- What agrees up to equality returns the same things. -/
theorem Agree.ok_iff {x : Except ε α} {x' : Except ε' α} (h : Agree fails Eq x x') {a : α} :
    x = .ok a ↔ x' = .ok a := by
  cases h with
  | ok hab =>
      subst hab
      rw [Except.ok.injEq, Except.ok.injEq]
  | error _ =>
      constructor
      · intro h
        cases h
      · intro h
        cases h

/-- Computations that return the same things agree, if all their failures correspond. -/
theorem agree_of_ok_iff {x : Except ε α} {x' : Except ε' α} (hok : ∀ a, x = .ok a ↔ x' = .ok a)
    (herror : ∀ e e', x = .error e → x' = .error e' → fails e e') : Agree fails Eq x x' := by
  cases x with
  | ok a =>
      rw [(hok a).mp rfl]
      exact .ok rfl
  | error e =>
      cases x' with
      | ok a => exact nomatch (hok a).mpr rfl
      | error e' => exact .error (herror e e' rfl rfl)

end Agree

/-! ## Lists in correspondence -/

section Lists

variable {α β : Type} {R : α → β → Prop} {as : List α} {bs : List β}

theorem forall₂_mem_left (h : List.Forall₂ R as bs) {a : α} (ha : a ∈ as) : ∃ b ∈ bs, R a b := by
  induction h with
  | nil => exact absurd ha List.not_mem_nil
  | cons hab _ ih =>
      rcases List.mem_cons.mp ha with rfl | ha
      · exact ⟨_, List.mem_cons_self, hab⟩
      · obtain ⟨b, hb, h⟩ := ih ha
        exact ⟨b, List.mem_cons_of_mem _ hb, h⟩

theorem forall₂_mem_right (h : List.Forall₂ R as bs) {b : β} (hb : b ∈ bs) : ∃ a ∈ as, R a b :=
  forall₂_mem_left h.flip hb

/-- The last elements correspond. -/
theorem rel_getLast? (h : List.Forall₂ R as bs) : Option.Rel R as.getLast? bs.getLast? := by
  induction h with
  | nil => exact .none
  | cons hab hrest ih =>
      cases hrest with
      | nil => exact .some hab
      | cons _ _ =>
          rw [List.getLast?_cons_cons, List.getLast?_cons_cons]
          exact ih

end Lists

/-! ## Machines in lockstep -/

variable {σ σ' ι ι' ο ο' : Type*}

/-- Calls in turn: what each answers, and the state they leave. -/
def run (step : σ → ι → ο × σ) : σ → List ι → List ο × σ
  | s, [] => ([], s)
  | s, call :: calls =>
      ((step s call).1 :: (run step (step s call).2 calls).1, (run step (step s call).2 calls).2)

/-- Corresponding calls in corresponding states: the answers correspond, and the states left. -/
structure Lockstep (step : σ → ι → ο × σ) (step' : σ' → ι' → ο' × σ') (calls : ι → ι' → Prop)
    (answers : ο → ο' → Prop) (states : σ → σ' → Prop) : Prop where
  answers : ∀ s s' i i', states s s' → calls i i' → answers (step s i).1 (step' s' i').1
  states : ∀ s s' i i', states s s' → calls i i' → states (step s i).2 (step' s' i').2

variable {step : σ → ι → ο × σ} {step' : σ' → ι' → ο' × σ'} {calls : ι → ι' → Prop}
  {answers : ο → ο' → Prop} {states : σ → σ' → Prop}

/-- **EVERY RUN** of two machines in lockstep. -/
theorem Lockstep.run (L : Lockstep step step' calls answers states) {s : σ} {s' : σ'}
    (hs : states s s') {is : List ι} {is' : List ι'} (his : List.Forall₂ calls is is') :
    List.Forall₂ answers (run step s is).1 (run step' s' is').1 ∧
      states (run step s is).2 (run step' s' is').2 := by
  induction his generalizing s s' with
  | nil => exact ⟨.nil, hs⟩
  | cons hcall hcalls ih =>
      obtain ⟨hanswers, hlast⟩ := ih (L.states _ _ _ _ hs hcall)
      exact ⟨.cons (L.answers _ _ _ _ hs hcall) hanswers, hlast⟩

end AgentLockstep
