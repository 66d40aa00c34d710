import Mathlib.Computability.Language

/-!
# Token languages

The languages of small anchored patterns, `[ab]+`, `[ab]+([,;][ab]+)*` and the like, as Mathlib's
`Language`, and the tests that decide them by splitting a word at its separators.

* **`mem_separated`** — `[p]+([sep][p]+)*`: every piece between separators is a non-empty run.
* **`mem_pointed_iff`** — `[p]+(a[p]+)?`: one run, or two at the sides of one `a`.
-/

namespace AgentTokenLanguage

open scoped Computability

variable {α : Type} {p sep : α → Bool} {w : List α}

/-- A class of characters, as words of one character. -/
def oneOf (p : α → Bool) : Language α := {w | ∃ c, p c = true ∧ w = [c]}

/-- One word or more. -/
def plus (L : Language α) : Language α := L * L∗

/-- A non-empty run of characters of the class. -/
def IsRun (p : α → Bool) (w : List α) : Prop := w ≠ [] ∧ ∀ c ∈ w, p c = true

/-- The words over some characters. -/
theorem mem_kstar_oneOf : w ∈ (oneOf p)∗ ↔ ∀ c ∈ w, p c = true := by
  rw [Language.mem_kstar]
  constructor
  · rintro ⟨words, rfl, hwords⟩ c hc
    obtain ⟨word, hmem, hc⟩ := List.mem_flatten.mp hc
    obtain ⟨d, hd, rfl⟩ := hwords word hmem
    rwa [List.mem_singleton.mp hc]
  · intro hall
    refine ⟨w.map fun c => [c], ?_, ?_⟩
    · induction w with
      | nil => rfl
      | cons c w ih =>
          rw [List.map_cons, List.flatten_cons, ← ih fun d hd => hall d (List.mem_cons_of_mem c hd)]
          rfl
    · intro word hmem
      obtain ⟨c, hc, rfl⟩ := List.mem_map.mp hmem
      exact ⟨c, hall c hc, rfl⟩

/-- A word is the language of itself. -/
theorem mem_word {u v : List α} : u ∈ ({v} : Language α) ↔ u = v := Iff.rfl

/-- A word of the class and more begins with a character of it. -/
theorem cons_mem_oneOf_mul {L : Language α} {c : α} :
    c :: w ∈ oneOf p * L ↔ p c = true ∧ w ∈ L := by
  rw [Language.mem_mul]
  constructor
  · rintro ⟨_, ⟨d, hd, rfl⟩, v, hv, heq⟩
    obtain ⟨rfl, rfl⟩ := List.cons.inj heq
    exact ⟨hd, hv⟩
  · rintro ⟨hc, hw⟩
    exact ⟨[c], ⟨c, hc, rfl⟩, w, hw, rfl⟩

theorem nil_not_mem_oneOf_mul {L : Language α} : [] ∉ oneOf p * L := by
  rintro ⟨_, ⟨d, hd, rfl⟩, v, hv, heq⟩
  cases heq

/-- One character or more of a kind is a run. -/
theorem mem_plus_oneOf : w ∈ plus (oneOf p) ↔ IsRun p w := by
  cases w with
  | nil => exact iff_of_false nil_not_mem_oneOf_mul fun h => h.1 rfl
  | cons c w =>
      rw [plus, cons_mem_oneOf_mul, mem_kstar_oneOf, IsRun, List.forall_mem_cons]
      exact ⟨fun h => ⟨List.cons_ne_nil c w, h⟩, fun h => h.2⟩

/-! ## Tokens between separators -/

/-- `[p]+([sep][p]+)*` -/
def separated (p sep : α → Bool) : Language α :=
  plus (oneOf p) * (oneOf sep * plus (oneOf p))∗

/-- A run is split nowhere. -/
theorem IsRun.not_sep (hdisj : ∀ c, p c = true → sep c = false) (h : IsRun p w) :
    ∀ c ∈ w, sep c = false :=
  fun c hc => hdisj c (h.2 c hc)

/-- One run, then a separator and more, is split at that separator. -/
theorem splitOnP_run (hdisj : ∀ c, p c = true → sep c = false) (h : IsRun p w) {c : α}
    (hc : sep c = true) (rest : List α) :
    (w ++ c :: rest).splitOnP sep = w :: rest.splitOnP sep :=
  List.splitOnP_append_cons_of_forall_mem (h.not_sep hdisj) c hc rest

/-- A word without a separator, or one up to the first. -/
theorem first_separator (sep : α → Bool) (w : List α) :
    (∀ c ∈ w, sep c = false) ∨ ∃ first c rest, (∀ d ∈ first, sep d = false) ∧ sep c = true ∧
      w = first ++ c :: rest := by
  induction w with
  | nil => exact Or.inl fun c hc => absurd hc List.not_mem_nil
  | cons x w ih =>
      cases hx : sep x with
      | true => exact Or.inr ⟨[], x, w, fun d hd => absurd hd List.not_mem_nil, hx, rfl⟩
      | false =>
          rcases ih with hall | ⟨first, c, rest, hfirst, hc, rfl⟩
          · exact Or.inl (List.forall_mem_cons.mpr ⟨hx, hall⟩)
          · exact Or.inr ⟨x :: first, c, rest, List.forall_mem_cons.mpr ⟨hx, hfirst⟩, hc, rfl⟩

/-- One run, and then perhaps a separator and the same again. -/
theorem separated_unfold (p sep : α → Bool) :
    separated p sep = plus (oneOf p) + plus (oneOf p) * (oneOf sep * separated p sep) := by
  calc separated p sep
      = plus (oneOf p) * (1 + oneOf sep * plus (oneOf p) * (oneOf sep * plus (oneOf p))∗) := by
        rw [Language.one_add_self_mul_kstar_eq_kstar]
        rfl
    _ = plus (oneOf p) + plus (oneOf p) * (oneOf sep * separated p sep) := by
        rw [mul_add, mul_one, mul_assoc (oneOf sep)]
        rfl

/-- A word of tokens splits into runs at its separators. -/
theorem pieces_of_separated (hdisj : ∀ c, p c = true → sep c = false)
    (h : w ∈ separated p sep) : ∀ piece ∈ w.splitOnP sep, IsRun p piece := by
  obtain ⟨first, hfirst, tail, htail, rfl⟩ := Language.mem_mul.mp h
  obtain ⟨words, rfl, hwords⟩ := Language.mem_kstar.mp htail
  clear h htail
  rw [mem_plus_oneOf] at hfirst
  induction words generalizing first with
  | nil =>
      rw [List.flatten_nil, List.append_nil, List.splitOnP_eq_singleton (hfirst.not_sep hdisj)]
      exact fun piece hmem => List.mem_singleton.mp hmem ▸ hfirst
  | cons word words ih =>
      -- the next word is a separator and a run, which starts the rest
      obtain ⟨_, ⟨c, hc, rfl⟩, run, hrun, rfl⟩ :=
        Language.mem_mul.mp (hwords word List.mem_cons_self)
      rw [mem_plus_oneOf] at hrun
      rw [List.flatten_cons, List.singleton_append, List.cons_append,
        splitOnP_run hdisj hfirst hc]
      exact List.forall_mem_cons.mpr
        ⟨hfirst, ih run hrun fun y hy => hwords y (List.mem_cons_of_mem _ hy)⟩

/-- It has characters of tokens and separators only. -/
theorem mem_of_separated (h : w ∈ separated p sep) : ∀ c ∈ w, p c = true ∨ sep c = true := by
  obtain ⟨first, hfirst, tail, htail, rfl⟩ := Language.mem_mul.mp h
  obtain ⟨words, rfl, hwords⟩ := Language.mem_kstar.mp htail
  intro c hc
  rcases List.mem_append.mp hc with hc | hc
  · exact Or.inl ((mem_plus_oneOf.mp hfirst).2 c hc)
  · obtain ⟨word, hmem, hc⟩ := List.mem_flatten.mp hc
    obtain ⟨_, ⟨d, hd, rfl⟩, run, hrun, rfl⟩ := Language.mem_mul.mp (hwords word hmem)
    rcases List.mem_cons.mp hc with rfl | hc
    · exact Or.inr hd
    · exact Or.inl ((mem_plus_oneOf.mp hrun).2 c hc)

/-- **TOKENS BETWEEN SEPARATORS**: every piece of the split is a run. -/
theorem mem_separated (hdisj : ∀ c, p c = true → sep c = false) :
    w ∈ separated p sep ↔ ∀ piece ∈ w.splitOnP sep, IsRun p piece := by
  refine ⟨pieces_of_separated hdisj, fun hpieces => ?_⟩
  induction hn : w.length using Nat.strong_induction_on generalizing w with
  | _ n ih =>
      rw [separated_unfold]
      rcases first_separator sep w with hall | ⟨first, c, rest, hfirst, hc, rfl⟩
      · rw [List.splitOnP_eq_singleton hall] at hpieces
        exact Or.inl (mem_plus_oneOf.mpr (hpieces w List.mem_cons_self))
      · rw [List.splitOnP_append_cons_of_forall_mem hfirst c hc, List.forall_mem_cons] at hpieces
        rw [List.length_append, List.length_cons] at hn
        refine Or.inr (Language.mem_mul.mpr ⟨first, mem_plus_oneOf.mpr hpieces.1, c :: rest, ?_, rfl⟩)
        exact cons_mem_oneOf_mul.mpr ⟨hc, ih rest.length (by omega) hpieces.2 rfl⟩

/-! ## One point -/

/-- `[p]+(a[p]+)?` -/
def pointed (p : α → Bool) (a : α) : Language α :=
  plus (oneOf p) * (1 + {[a]} * plus (oneOf p))

/-- A pointed number is a run, or two with the point between. -/
theorem mem_pointed_iff {a : α} :
    w ∈ pointed p a ↔ IsRun p w ∨ ∃ whole fraction, IsRun p whole ∧ IsRun p fraction ∧
      w = whole ++ a :: fraction := by
  simp only [pointed]
  rw [mul_add, mul_one, Language.mem_add, mem_plus_oneOf]
  refine or_congr_right ⟨?_, ?_⟩
  · rintro ⟨whole, hwhole, _, ⟨_, rfl, fraction, hfraction, rfl⟩, rfl⟩
    exact ⟨whole, fraction, mem_plus_oneOf.mp hwhole, mem_plus_oneOf.mp hfraction, rfl⟩
  · rintro ⟨whole, fraction, hwhole, hfraction, rfl⟩
    exact ⟨whole, mem_plus_oneOf.mpr hwhole, a :: fraction,
      ⟨[a], rfl, fraction, mem_plus_oneOf.mpr hfraction, rfl⟩, rfl⟩

/-- It has digits and the point only. -/
theorem mem_of_pointed {a : α} (h : w ∈ pointed p a) : ∀ c ∈ w, p c = true ∨ c = a := by
  intro c hc
  rcases mem_pointed_iff.mp h with hrun | ⟨whole, fraction, hwhole, hfraction, rfl⟩
  · exact Or.inl (hrun.2 c hc)
  · rcases List.mem_append.mp hc with hc | hc
    · exact Or.inl (hwhole.2 c hc)
    · rcases List.mem_cons.mp hc with rfl | hc
      · exact Or.inr rfl
      · exact Or.inl (hfraction.2 c hc)

/-! ## Splitting at one character -/

/-- What stands before the first separator is the first piece. -/
theorem splitOn_eq_takeWhile_cons [DecidableEq α] (a : α) (w : List α) :
    ∃ rest, w.splitOn a = w.takeWhile (· ≠ a) :: rest := by
  induction w with
  | nil => exact ⟨[], rfl⟩
  | cons x w ih =>
      obtain ⟨rest, ih⟩ := ih
      rw [List.splitOn_cons_eq_if_modifyHead]
      by_cases hx : x = a
      · rw [if_pos (beq_iff_eq.mpr hx), List.takeWhile_cons_of_neg (by simpa using hx)]
        exact ⟨_, rfl⟩
      · rw [if_neg (by simpa using hx), List.takeWhile_cons_of_pos (by simpa using hx), ih]
        exact ⟨rest, rfl⟩

/-- Joining puts the separator before every piece but the first. -/
theorem intercalate_cons_eq_flatMap (a : α) (first : List α) (rest : List (List α)) :
    [a].intercalate (first :: rest) = first ++ rest.flatMap (a :: ·) := by
  induction rest generalizing first with
  | nil => simp [List.intercalate]
  | cons second rest ih =>
      rw [List.intercalate_cons_of_ne_nil (List.cons_ne_nil _ _), ih, List.flatMap_cons]
      simp

/-! ## The end of a line -/

/-- What an anchor at the end of the line accepts: the words, one of `newline` perhaps behind. -/
def endsLine (newline : α) (L : Language α) : Language α := L * (1 + {[newline]})

/-- `$` matches at the end, or before a last line feed. -/
theorem mem_endsLine {newline : α} {L : Language α} :
    w ∈ endsLine newline L ↔ w ∈ L ∨ ∃ v ∈ L, w = v ++ [newline] := by
  simp only [endsLine]
  rw [mul_add, mul_one, Language.mem_add]
  refine or_congr_right ⟨?_, ?_⟩
  · rintro ⟨v, hv, _, rfl, rfl⟩
    exact ⟨v, hv, rfl⟩
  · rintro ⟨v, hv, rfl⟩
    exact ⟨v, hv, _, rfl, rfl⟩

end AgentTokenLanguage
