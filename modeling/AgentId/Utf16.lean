import Mathlib.Data.List.Sort
import AgentId.Normalization

/-!
# The order of UTF-16 code units

JavaScript compares strings by their UTF-16 code units, Python by their code points.  A character
outside the basic plane begins with a unit below those of U+E000 to U+FFFF, and there the two
orders part.

* **`utf16_lt_iff`** — of two strings in code point order, when the units are in order too.
* **`sortByUnits_eq_iff`** — when sorting by units is sorting by code points.
-/

namespace AgentUtf16

open AgentPy AgentNormalization

/-- The code units of one code point: itself, or a surrogate pair. -/
def units (c : CodePoint) : List ℕ :=
  if c.val < 0x10000 then [c.val]
  else [0xD800 + (c.val - 0x10000) / 0x400, 0xDC00 + (c.val - 0x10000) % 0x400]

def utf16 (s : PyStr) : List ℕ := s.flatMap units

/-- Where `a` and `b` first differ, `a` has a character of U+E000 to U+FFFF and `b` one beyond. -/
def Clash (a b : PyStr) : Prop :=
  ∃ p c d s t, a = p ++ c :: s ∧ b = p ++ d :: t ∧
    0xE000 ≤ c.val ∧ c.val < 0x10000 ∧ 0x10000 ≤ d.val

theorem utf16_cons (c : CodePoint) (s : PyStr) : utf16 (c :: s) = units c ++ utf16 s := rfl

/-- A string of the first plane has as many code units as characters. -/
theorem length_utf16_of_lt {s : PyStr} (h : ∀ c ∈ s, c.val < 0x10000) :
    (utf16 s).length = s.length := by
  induction s with
  | nil => rfl
  | cons c s ih =>
      rw [utf16_cons, List.length_append, List.length_cons,
        ih fun d hd => h d (List.mem_cons_of_mem c hd), units, if_pos (h c List.mem_cons_self)]
      exact add_comm _ _

theorem not_clash_nil {b : PyStr} : ¬ Clash [] b := by
  rintro ⟨p, c, d, s, t, ha, -⟩
  exact absurd ha.symm (List.append_ne_nil_of_right_ne_nil _ (List.cons_ne_nil _ _))

/-- Two texts clash at their first difference. -/
theorem clash_cons_iff {c d : CodePoint} {s t : PyStr} :
    Clash (c :: s) (d :: t) ↔
      (0xE000 ≤ c.val ∧ c.val < 0x10000 ∧ 0x10000 ≤ d.val) ∨ (c = d ∧ Clash s t) := by
  constructor
  · rintro ⟨p, x, y, s', t', ha, hb, hx⟩
    cases p with
    | nil =>
        obtain ⟨rfl, -⟩ := List.cons.inj ha
        obtain ⟨rfl, -⟩ := List.cons.inj hb
        exact Or.inl hx
    | cons z p =>
        obtain ⟨rfl, rfl⟩ := List.cons.inj ha
        obtain ⟨rfl, rfl⟩ := List.cons.inj hb
        exact Or.inr ⟨rfl, p, x, y, s', t', rfl, rfl, hx⟩
  · rintro (h | ⟨rfl, p, x, y, s', t', rfl, rfl, hx⟩)
    · exact ⟨[], c, d, s, t, rfl, rfl, h⟩
    · exact ⟨c :: p, x, y, s', t', rfl, rfl, hx⟩

/-- A common beginning decides nothing. -/
theorem append_lt_append_iff {p a b : List ℕ} : p ++ a < p ++ b ↔ a < b := by
  induction p with
  | nil => rfl
  | cons x p ih => rw [List.cons_append, List.cons_append, List.cons_lt_cons_self, ih]

theorem cons_lt_of_lt {x y : ℕ} (h : x < y) (a b : List ℕ) : x :: a < y :: b :=
  List.cons_lt_cons_iff.mpr (Or.inl h)

/-- Two scalar values in order: their units are, or one stands on each side of the gap. -/
theorem units_lt {c d : CodePoint} (hc : IsScalar c) (hcd : c < d) (a b : List ℕ) :
    ((0xE000 ≤ c.val ∧ c.val < 0x10000 ∧ 0x10000 ≤ d.val) ∧ units d ++ b < units c ++ a) ∨
      (¬ (0xE000 ≤ c.val ∧ c.val < 0x10000 ∧ 0x10000 ≤ d.val) ∧ units c ++ a < units d ++ b) := by
  have hlt : c.val < d.val := hcd
  have hd := d.isLt
  simp only [IsScalar, Nat.isValidChar] at hc
  simp only [units]
  by_cases hcb : c.val < 0x10000
  · rw [if_pos hcb]
    by_cases hdb : d.val < 0x10000
    · rw [if_pos hdb]
      exact Or.inr ⟨by omega, cons_lt_of_lt hlt _ _⟩
    · rw [if_neg hdb]
      by_cases hgap : 0xE000 ≤ c.val
      · exact Or.inl ⟨by omega, cons_lt_of_lt (by omega) _ _⟩
      · exact Or.inr ⟨by omega, cons_lt_of_lt (by omega) _ _⟩
  · rw [if_neg hcb, if_neg (by omega)]
    refine Or.inr ⟨by omega, ?_⟩
    -- two pairs: the high surrogates decide, or the low ones
    by_cases hhigh : (c.val - 0x10000) / 0x400 = (d.val - 0x10000) / 0x400
    · rw [hhigh]
      exact List.cons_lt_cons_iff.mpr (Or.inr ⟨rfl, cons_lt_of_lt (by omega) _ _⟩)
    · exact cons_lt_of_lt (by omega) _ _

/-- **THE TWO ORDERS** of scalar strings agree on a pair, or the pair clashes. -/
theorem utf16_lt_or_clash {a b : PyStr} (ha : ∀ c ∈ a, IsScalar c) (hab : a < b) :
    (Clash a b ∧ utf16 b < utf16 a) ∨ (¬ Clash a b ∧ utf16 a < utf16 b) := by
  induction a generalizing b with
  | nil =>
      cases b with
      | nil => exact absurd hab (lt_irrefl _)
      | cons d t =>
          refine Or.inr ⟨not_clash_nil, ?_⟩
          rw [utf16_cons, units]
          split_ifs
          · exact List.nil_lt_cons _ _
          · exact List.nil_lt_cons _ _
  | cons c s ih =>
      cases b with
      | nil => exact absurd hab (List.not_lt_nil _)
      | cons d t =>
          obtain ⟨hc, hs⟩ := List.forall_mem_cons.mp ha
          rw [clash_cons_iff, utf16_cons, utf16_cons]
          rcases List.cons_lt_cons_iff.mp hab with hcd | ⟨rfl, hst⟩
          · rcases units_lt hc hcd (utf16 s) (utf16 t) with ⟨hgap, h⟩ | ⟨hgap, h⟩
            · exact Or.inl ⟨Or.inl hgap, h⟩
            · refine Or.inr ⟨?_, h⟩
              rintro (hg | ⟨rfl, -⟩)
              · exact hgap hg
              · exact lt_irrefl _ hcd
          · rw [append_lt_append_iff, append_lt_append_iff]
            have hself : ¬ (0xE000 ≤ c.val ∧ c.val < 0x10000 ∧ 0x10000 ≤ c.val) := by omega
            rcases ih hs hst with ⟨hclash, h⟩ | ⟨hclash, h⟩
            · exact Or.inl ⟨Or.inr ⟨rfl, hclash⟩, h⟩
            · exact Or.inr ⟨fun hor => hor.elim hself fun h => hclash h.2, h⟩

/-- Of scalar strings in code point order, the units are in order exactly when they do not clash. -/
theorem utf16_lt_iff {a b : PyStr} (ha : ∀ c ∈ a, IsScalar c) (hab : a < b) :
    utf16 a < utf16 b ↔ ¬ Clash a b := by
  rcases utf16_lt_or_clash ha hab with ⟨hclash, h⟩ | ⟨hclash, h⟩
  · exact ⟨fun h' => absurd h' (lt_asymm h), fun h' => absurd hclash h'⟩
  · exact ⟨fun _ => hclash, fun _ => h⟩

/-! ## Sorting by units -/

/-- `Array.prototype.sort` of strings, with no comparison function. -/
def sortByUnits (names : List PyStr) : List PyStr := names.insertionSort fun a b => utf16 a ≤ utf16 b

/-- Sorting by code units keeps the names. -/
theorem perm_sortByUnits (names : List PyStr) : (sortByUnits names).Perm names :=
  List.perm_insertionSort _ _

instance unitsTotal : Std.Total fun a b : PyStr => utf16 a ≤ utf16 b := ⟨fun _ _ => le_total _ _⟩

instance unitsTrans : IsTrans PyStr fun a b => utf16 a ≤ utf16 b := ⟨fun _ _ _ => le_trans⟩

/-- And puts them in the order of their code units. -/
theorem sortByUnits_pairwise (names : List PyStr) :
    (sortByUnits names).Pairwise fun a b => utf16 a ≤ utf16 b :=
  List.pairwise_insertionSort _ _

/-- **WHEN THE SORTS AGREE**: no name clashes with another. -/
theorem sortByUnits_eq_iff {names sorted : List PyStr} (hscalar : ∀ s ∈ names, ∀ c ∈ s, IsScalar c)
    (hperm : sorted.Perm names) (hsorted : sorted.Pairwise (· ≤ ·)) :
    sortByUnits names = sorted ↔ ∀ a ∈ names, ∀ b ∈ names, a < b → ¬ Clash a b := by
  constructor
  · intro heq a ha b hb hab
    have hunits : sorted.Pairwise fun a b => utf16 a ≤ utf16 b := heq ▸ sortByUnits_pairwise names
    have hsym : Std.Symm fun a b : PyStr => (a ≤ b ∧ utf16 a ≤ utf16 b) ∨ (b ≤ a ∧ utf16 b ≤ utf16 a) :=
      ⟨fun _ _ h => h.symm⟩
    have hboth := List.Pairwise.forall ((hsorted.and hunits).imp (S := fun a b =>
      (a ≤ b ∧ utf16 a ≤ utf16 b) ∨ (b ≤ a ∧ utf16 b ≤ utf16 a)) fun h => Or.inl h)
      (hperm.mem_iff.mpr ha) (hperm.mem_iff.mpr hb) hab.ne
    rcases utf16_lt_or_clash (hscalar a ha) hab with ⟨-, h⟩ | ⟨hclash, -⟩
    · rcases hboth with ⟨-, hle⟩ | ⟨hle, -⟩
      · exact absurd h (not_lt.mpr hle)
      · exact absurd hab (not_lt.mpr hle)
    · exact hclash
  · intro hclash
    have hlt : ∀ a ∈ names, ∀ b ∈ names, a < b → utf16 a < utf16 b := fun a ha b hb hab =>
      (utf16_lt_iff (hscalar a ha) hab).mpr (hclash a ha b hb hab)
    have hunits : sorted.Pairwise fun a b => utf16 a ≤ utf16 b := by
      refine hsorted.imp_of_mem fun {a b} ha hb hab => ?_
      rcases hab.lt_or_eq with h | rfl
      · exact (hlt a (hperm.mem_iff.mp ha) b (hperm.mem_iff.mp hb) h).le
      · exact le_rfl
    refine List.Perm.eq_of_pairwise (fun a b ha hb hab hba => ?_) (sortByUnits_pairwise names)
      hunits ((perm_sortByUnits names).trans hperm.symm)
    have ha' := (perm_sortByUnits names).mem_iff.mp ha
    have hb' := hperm.mem_iff.mp hb
    rcases lt_trichotomy a b with h | h | h
    · exact absurd (hlt a ha' b hb' h) (not_lt.mpr hba)
    · exact h
    · exact absurd (hlt b hb' a ha' h) (not_lt.mpr hab)

end AgentUtf16
