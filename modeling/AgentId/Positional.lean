import Mathlib.Data.List.TakeWhile
import Mathlib.Data.Nat.Digits.Lemmas

/-!
# Positional notation with leading zeros

A big-endian digit list carries two things: its value and how many zeros it starts with.
`expand` rebuilds the list from the two, so re-reading the pair in another base loses nothing.
That is the whole content of base-58 text: `convert b c` keeps value and leading zeros, and
**`convert_convert`** says the trip there and back is the identity.
-/

namespace AgentPositional

/-- The number a big-endian digit list denotes in base `b`. -/
def value (b : ℕ) (ds : List ℕ) : ℕ := ds.foldl (fun n d => n * b + d) 0

/-- How many zeros a digit list starts with. -/
def leading (ds : List ℕ) : ℕ := (ds.takeWhile (· = 0)).length

/-- The base-`b` digits of `n`, most significant first, behind `p` zeros. -/
def expand (b p n : ℕ) : List ℕ := List.replicate p 0 ++ (Nat.digits b n).reverse

/-- The same value behind the same number of zeros, in another base. -/
def convert (b c : ℕ) (ds : List ℕ) : List ℕ := expand c (leading ds) (value b ds)

theorem value_eq_ofDigits (b : ℕ) (ds : List ℕ) : value b ds = Nat.ofDigits b ds.reverse := by
  rw [Nat.ofDigits_eq_foldr, List.foldr_reverse]
  simp only [value]
  congr 1
  funext n d
  simp only [Nat.cast_id]
  ring

theorem value_replicate_zero_append (b p : ℕ) (ds : List ℕ) :
    value b (List.replicate p 0 ++ ds) = value b ds := by
  induction p with
  | zero => rfl
  | succ p ih =>
      rw [List.replicate_succ, List.cons_append]
      show List.foldl _ (0 * b + 0) _ = _
      rw [Nat.zero_mul]
      exact ih

@[simp] theorem value_expand (b p n : ℕ) : value b (expand b p n) = n := by
  rw [expand, value_replicate_zero_append, value_eq_ofDigits, List.reverse_reverse,
    Nat.ofDigits_digits]

theorem takeWhile_eq_replicate (ds : List ℕ) :
    ds.takeWhile (· = 0) = List.replicate (leading ds) 0 := by
  refine List.eq_replicate_iff.mpr ⟨rfl, ?_⟩
  intro d hd
  have := List.mem_takeWhile_imp hd
  exact of_decide_eq_true this

/-- The most significant digit of a number is not zero. -/
theorem head_reverse_digits_ne_zero {b n : ℕ} (h : (Nat.digits b n).reverse ≠ []) :
    (Nat.digits b n).reverse.head h ≠ 0 := by
  rw [List.head_reverse]
  have hn : n ≠ 0 := by
    rintro rfl
    exact h (by rw [Nat.digits_zero, List.reverse_nil])
  exact Nat.getLast_digit_ne_zero b hn

@[simp] theorem leading_expand (b p n : ℕ) : leading (expand b p n) = p := by
  simp only [leading, expand]
  have hzero : ∀ d ∈ List.replicate p 0, decide (d = 0) = true := by
    intro d hd
    rw [List.eq_of_mem_replicate hd]
    rfl
  rw [List.takeWhile_append_of_pos hzero]
  have hrest : (Nat.digits b n).reverse.takeWhile (· = 0) = [] := by
    cases hds : (Nat.digits b n).reverse with
    | nil => rfl
    | cons d ds =>
        have hne : (Nat.digits b n).reverse ≠ [] := by
          rw [hds]
          exact List.cons_ne_nil d ds
        have hd := head_reverse_digits_ne_zero hne
        simp only [hds, List.head_cons] at hd
        rw [List.takeWhile_cons_of_neg (by simpa using hd)]
  rw [hrest, List.append_nil, List.length_replicate]

/-- **REBUILDING**: a digit list is its leading zeros and the digits of its value. -/
theorem expand_leading_value {b : ℕ} (hb : 1 < b) {ds : List ℕ} (hds : ∀ d ∈ ds, d < b) :
    expand b (leading ds) (value b ds) = ds := by
  have hsplit : List.replicate (leading ds) 0 ++ ds.dropWhile (· = 0) = ds := by
    rw [← takeWhile_eq_replicate, List.takeWhile_append_dropWhile]
  have hvalue : value b ds = Nat.ofDigits b (ds.dropWhile (· = 0)).reverse := by
    rw [← value_eq_ofDigits]
    conv_lhs => rw [← hsplit]
    exact value_replicate_zero_append b (leading ds) _
  have hdigits : Nat.digits b (value b ds) = (ds.dropWhile (· = 0)).reverse := by
    rw [hvalue]
    refine Nat.digits_ofDigits b hb _ ?_ ?_
    · intro d hd
      exact hds d ((List.dropWhile_sublist _).subset (List.mem_reverse.mp hd))
    · intro hne
      rw [List.getLast_reverse]
      exact of_decide_eq_false (List.head_dropWhile_not (fun d => decide (d = 0)) _)
  rw [expand, hdigits, List.reverse_reverse, hsplit]

theorem lt_of_mem_expand {b p n d : ℕ} (hb : 1 < b) (h : d ∈ expand b p n) : d < b := by
  rcases List.mem_append.mp h with hz | hd
  · rw [List.eq_of_mem_replicate hz]
    omega
  · exact Nat.digits_lt_base hb (List.mem_reverse.mp hd)

/-- **BASE CHANGE IS REVERSIBLE**: converting to base `c` and back is the identity. -/
theorem convert_convert {b c : ℕ} (hb : 1 < b) {ds : List ℕ} (hds : ∀ d ∈ ds, d < b) :
    convert c b (convert b c ds) = ds := by
  simp only [convert]
  rw [leading_expand, value_expand, expand_leading_value hb hds]

/-- A loop that takes the last digit off and puts it in front writes the digits of the number. -/
theorem loop_eq_digits {α : Type} {b : ℕ} (hb : 1 < b) {digit : ℕ → α}
    {loop : ℕ → List α → List α}
    (hloop : ∀ n done, loop n done = if 0 < n then loop (n / b) (digit (n % b) :: done) else done)
    (n : ℕ) (done : List α) : loop n done = (Nat.digits b n).reverse.map digit ++ done := by
  induction n using Nat.strong_induction_on generalizing done with
  | _ n ih =>
      rw [hloop]
      by_cases h : 0 < n
      · rw [if_pos h, ih (n / b) (Nat.div_lt_self h hb), Nat.digits_def' hb h]
        simp
      · rw [if_neg h, show n = 0 by omega]
        simp

end AgentPositional
