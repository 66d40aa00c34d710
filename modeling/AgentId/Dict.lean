import Mathlib.Data.List.Nodup

/-!
# Insertion-ordered dictionaries

A dictionary is a list of pairs in insertion order.  Assignment changes a value in place or adds a
pair at the end, an update assigns the pairs of another dictionary one by one, and dictionaries
are compared by what they hold under each key.

* **`lookup_update`** — after an update, a key has the new value if there is one.
* **`lookup_filter`** — a comprehension that filters by key hides the other keys.
* **`filter_record`** — of a record with known keys around others, the others can be taken back.
-/

namespace AgentDict

variable {κ α : Type} [BEq κ] [LawfulBEq κ]

/-- `d[key] = value` -/
def setItem (d : List (κ × α)) (key : κ) (value : α) : List (κ × α) :=
  if d.any (·.1 == key) then d.map fun m => if m.1 == key then (key, value) else m
  else d ++ [(key, value)]

/-- `d.update(e)` -/
def update (d e : List (κ × α)) : List (κ × α) :=
  e.foldl (fun d m => setItem d m.1 m.2) d

/-- `d == e`: the same value under every key. -/
def Same (d e : List (κ × α)) : Prop := ∀ k, d.lookup k = e.lookup k

/-! ## Keys -/

theorem lookup_eq_none {d : List (κ × α)} {k : κ} : d.lookup k = none ↔ k ∉ d.map Prod.fst := by
  rw [List.lookup_eq_none_iff]
  constructor
  · intro h hk
    obtain ⟨m, hm, rfl⟩ := List.mem_map.mp hk
    exact absurd (h m hm) (by simp)
  · intro h m hm
    exact bne_iff_ne.mpr fun heq => h (List.mem_map.mpr ⟨m, hm, heq.symm⟩)

theorem mem_keys_iff {d : List (κ × α)} {k : κ} :
    k ∈ d.map Prod.fst ↔ ∃ v, d.lookup k = some v := by
  rw [← Option.isSome_iff_exists, ← not_iff_not, Bool.not_eq_true, Option.isSome_eq_false_iff,
    Option.isNone_iff_eq_none, lookup_eq_none]

theorem Same.mem_keys {d e : List (κ × α)} (h : Same d e) {k : κ} :
    k ∈ d.map Prod.fst ↔ k ∈ e.map Prod.fst := by
  rw [mem_keys_iff, mem_keys_iff, h k]

theorem mem_of_lookup {d : List (κ × α)} {k : κ} {v : α} (h : d.lookup k = some v) :
    (k, v) ∈ d := by
  obtain ⟨before, behind, rfl, -⟩ := List.lookup_eq_some_iff.mp h
  exact List.mem_append_right _ List.mem_cons_self

/-! ## Filters -/

/-- Pairs under known keys are dropped when the others are collected. -/
theorem filter_known {d : List (κ × α)} {known : List κ} (h : d.map Prod.fst ⊆ known) :
    d.filter (·.1 ∉ known) = [] := by
  rw [List.filter_eq_nil_iff]
  intro m hm hkept
  exact of_decide_eq_true hkept (h (List.mem_map_of_mem hm))

/-- And the others are all kept. -/
theorem filter_fresh {d : List (κ × α)} {known : List κ} (h : ∀ k ∈ d.map Prod.fst, k ∉ known) :
    d.filter (·.1 ∉ known) = d := by
  rw [List.filter_eq_self]
  intro m hm
  exact decide_eq_true (h m.1 (List.mem_map_of_mem hm))

/-- A key that is not there need not be filtered out. -/
theorem filter_ne {κ α : Type} [DecidableEq κ] {d : List (κ × α)} {k : κ}
    (h : k ∉ d.map Prod.fst) : d.filter (·.1 ≠ k) = d := by
  rw [List.filter_eq_self]
  intro m hm
  exact decide_eq_true fun hname => h (hname ▸ List.mem_map_of_mem hm)

/-- A key that is filtered out is not found. -/
theorem lookup_filter_ne [DecidableEq κ] {d : List (κ × α)} {k : κ} :
    (d.filter (·.1 ≠ k)).lookup k = none := by
  refine lookup_eq_none.mpr fun hmem => ?_
  obtain ⟨m, hm, hname⟩ := List.mem_map.mp hmem
  exact of_decide_eq_true (List.mem_filter.mp hm).2 hname

/-- **A RECORD IS TAKEN APART**: the known keys around the others go, the others stay. -/
theorem filter_record {before extra behind : List (κ × α)} {known : List κ}
    (hknown : (before ++ behind).map Prod.fst ⊆ known)
    (hextra : ∀ k ∈ extra.map Prod.fst, k ∉ known) :
    (before ++ extra ++ behind).filter (·.1 ∉ known) = extra := by
  rw [List.map_append] at hknown
  have hbefore : before.map Prod.fst ⊆ known := (List.append_subset.mp hknown).1
  have hbehind : behind.map Prod.fst ⊆ known := (List.append_subset.mp hknown).2
  rw [List.filter_append, List.filter_append, filter_known hbefore, filter_fresh hextra,
    filter_known hbehind, List.nil_append, List.append_nil]

theorem lookup_filter {d : List (κ × α)} (p : κ → Bool) {k : κ} :
    (d.filter fun m => p m.1).lookup k = if p k then d.lookup k else none := by
  induction d with
  | nil => simp
  | cons m d ih =>
      obtain ⟨key, value⟩ := m
      rw [List.filter_cons, List.lookup_cons]
      by_cases hk : k = key
      · rw [← hk, beq_self_eq_true]
        by_cases hp : p k
        · rw [if_pos hp, if_pos hp, List.lookup_cons_self]
        · rw [if_neg hp, if_neg hp, ih, if_neg hp]
      · rw [beq_eq_false_iff_ne.mpr hk]
        by_cases hp : p key
        · rw [if_pos hp, List.lookup_cons, beq_eq_false_iff_ne.mpr hk]
          exact ih
        · rw [if_neg hp]
          exact ih

/-! ## Updates -/

theorem lookup_map_setItem {d : List (κ × α)} {key : κ} {value : α} {k : κ} (hk : k ≠ key) :
    (d.map fun m => if m.1 == key then (key, value) else m).lookup k = d.lookup k := by
  induction d with
  | nil => rfl
  | cons m d ih =>
      obtain ⟨other, old⟩ := m
      rw [List.map_cons, List.lookup_cons]
      by_cases hother : other = key
      · rw [if_pos (beq_iff_eq.mpr hother), List.lookup_cons, beq_eq_false_iff_ne.mpr hk,
          beq_eq_false_iff_ne.mpr (hother ▸ hk)]
        exact ih
      · rw [if_neg (mt beq_iff_eq.mp hother), List.lookup_cons, ih]

theorem lookup_map_setItem_self {d : List (κ × α)} {key : κ} {value : α}
    (h : d.any (·.1 == key) = true) :
    (d.map fun m => if m.1 == key then (key, value) else m).lookup key = some value := by
  induction d with
  | nil => cases h
  | cons m d ih =>
      obtain ⟨other, old⟩ := m
      rw [List.map_cons, List.lookup_cons]
      by_cases hother : other = key
      · rw [if_pos (beq_iff_eq.mpr hother), beq_self_eq_true]
      · rw [if_neg (mt beq_iff_eq.mp hother), beq_eq_false_iff_ne.mpr (Ne.symm hother)]
        rw [List.any_cons, beq_eq_false_iff_ne.mpr hother, Bool.false_or] at h
        exact ih h

/-- **ASSIGNMENT** changes what is under one key. -/
theorem lookup_setItem {d : List (κ × α)} {key : κ} {value : α} {k : κ} :
    (setItem d key value).lookup k = if k == key then some value else d.lookup k := by
  simp only [setItem]
  by_cases hany : d.any (·.1 == key) = true
  · rw [if_pos hany]
    by_cases hk : k = key
    · rw [hk, if_pos (beq_self_eq_true key), lookup_map_setItem_self hany]
    · rw [if_neg (mt beq_iff_eq.mp hk), lookup_map_setItem hk]
  · have hnone : d.lookup key = none := by
      rw [List.lookup_eq_none_iff]
      intro m hm
      exact bne_iff_ne.mpr fun heq => hany (List.any_eq_true.mpr ⟨m, hm, beq_iff_eq.mpr heq.symm⟩)
    rw [if_neg hany, List.lookup_append]
    by_cases hk : k = key
    · rw [hk, hnone, if_pos (beq_self_eq_true key), List.lookup_cons_self]
      rfl
    · rw [if_neg (mt beq_iff_eq.mp hk), List.lookup_cons, beq_eq_false_iff_ne.mpr hk]
      exact Option.or_none

/-- **AN UPDATE** prefers the pairs it is given. -/
theorem lookup_update {d e : List (κ × α)} (he : (e.map Prod.fst).Nodup) {k : κ} :
    (update d e).lookup k = (e.lookup k).or (d.lookup k) := by
  induction e generalizing d with
  | nil => rfl
  | cons m e ih =>
      obtain ⟨key, value⟩ := m
      obtain ⟨hnotin, he⟩ := List.nodup_cons.mp he
      have hstep : update d ((key, value) :: e) = update (setItem d key value) e := rfl
      rw [hstep, ih he, lookup_setItem, List.lookup_cons]
      by_cases hk : k = key
      · rw [hk, lookup_eq_none.mpr hnotin, beq_self_eq_true]
        rfl
      · rw [beq_eq_false_iff_ne.mpr hk]
        rfl

end AgentDict
