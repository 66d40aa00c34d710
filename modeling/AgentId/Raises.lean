/-!
# What a computation may fail with

A postcondition on the failures of an `Except` computation.  It says nothing of the values that are
returned; but the rule for a sequence may use, of its second half, that the first returned.

* **`Raises.bind`** — a sequence fails as its first half does, or as its second half does after it.
* **`raises_false_iff`** — a computation that cannot fail returns.
-/

namespace AgentRaises

variable {ε α β : Type} {p q : ε → Prop} {x : Except ε α}

/-- Every failure of the computation satisfies `p`. -/
def Raises (p : ε → Prop) (x : Except ε α) : Prop := ∀ ⦃e : ε⦄, x = .error e → p e

theorem raises_of_ok {a : α} (h : x = .ok a) : Raises p x := by
  rintro e he
  rw [h] at he
  cases he

theorem raises_ok (a : α) : Raises p (.ok a : Except ε α) := raises_of_ok rfl

theorem raises_error_iff {e : ε} : Raises p (.error e : Except ε α) ↔ p e := by
  constructor
  · intro h
    exact h rfl
  · rintro h _ ⟨⟩
    exact h

theorem Raises.weaken (h : Raises p x) (hpq : ∀ e, p e → q e) : Raises q x :=
  fun e he => hpq e (h he)

/-- **SEQUENCING**: the second half runs on what the first returned. -/
theorem Raises.bind {f : α → Except ε β} (hx : Raises p x)
    (hf : ∀ a, x = .ok a → Raises p (f a)) : Raises p (x >>= f) := by
  cases x with
  | error e => exact raises_error_iff.mpr (hx rfl)
  | ok a => exact hf a rfl

/-- The rule loses nothing. -/
theorem raises_bind_iff {f : α → Except ε β} :
    Raises p (x >>= f) ↔ Raises p x ∧ ∀ a, x = .ok a → Raises p (f a) := by
  refine ⟨fun h => ?_, fun h => h.1.bind h.2⟩
  cases x with
  | error e =>
      refine ⟨raises_error_iff.mpr (h rfl), fun a ha => ?_⟩
      cases ha
  | ok b =>
      refine ⟨raises_ok b, fun a ha => ?_⟩
      cases ha
      exact h

/-- A list comprehension fails as one of its calls does. -/
theorem raises_mapM {f : α → Except ε β} {l : List α} (h : ∀ a ∈ l, Raises p (f a)) :
    Raises p (l.mapM f) := by
  induction l with
  | nil => exact raises_ok []
  | cons a l ih =>
      rw [List.mapM_cons]
      refine (h a List.mem_cons_self).bind fun _ _ => ?_
      refine (ih fun b hb => h b (List.mem_cons_of_mem a hb)).bind fun _ _ => ?_
      exact raises_ok _

/-- **TOTALITY**: a computation that cannot fail returns. -/
theorem raises_false_iff : Raises (fun _ => False) x ↔ ∃ a, x = .ok a := by
  constructor
  · intro h
    cases x with
    | error e => exact (h rfl).elim
    | ok a => exact ⟨a, rfl⟩
  · rintro ⟨a, h⟩
    exact raises_of_ok h

/-- If no failure of a computation satisfies `p`, it satisfies `p` by returning. -/
theorem Raises.iff_ok (hx : Raises q x) (hpq : ∀ e, q e → ¬ p e) :
    Raises p x ↔ ∃ a, x = .ok a := by
  rw [← raises_false_iff]
  constructor
  · intro h e he
    exact hpq e (hx he) (h he)
  · intro h
    exact h.weaken fun _ => False.elim

end AgentRaises
