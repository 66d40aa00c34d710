import Mathlib.Data.List.Infix
import Mathlib.Data.List.Perm.Basic

/-!
# Logs that only grow, and forks between them

A `View` keeps the longest history seen and whether a history ever contradicted it.  Learning a
history compares it with the log position by position; a contradicting history is dropped.

* **`forked_learnAll_iff`** — dropping loses nothing: the view is forked exactly when two of the
  histories contradict each other.
* **`log_learnAll_perm`** — without a fork the log is the same in every order of arrival.
* **`forked_learnAll_append`** — what two views together know, against what merging them keeps.
-/

namespace AgentPrefixLog

variable {α : Type*}

/-- One history continues the other. -/
def Compatible (a b : List α) : Prop := a <+: b ∨ b <+: a

instance [DecidableEq α] (a b : List α) : Decidable (Compatible a b) := by
  unfold Compatible
  infer_instance

/-- Prefixes of one list are compatible. -/
theorem compatible_of_prefixes {a b c : List α} (ha : a <+: c) (hb : b <+: c) : Compatible a b :=
  List.prefix_or_prefix_of_prefix ha hb

/-- Two histories are compatible exactly when they agree wherever both have an entry. -/
theorem compatible_iff {a b : List α} :
    Compatible a b ↔ ∀ (i : ℕ) (x y : α), a[i]? = some x → b[i]? = some y → x = y := by
  constructor
  · rintro (⟨t, rfl⟩ | ⟨t, rfl⟩) i x y hx hy
    · rw [List.getElem?_append_left (List.getElem?_eq_some_iff.mp hx).1, hx] at hy
      exact Option.some.inj hy
    · rw [List.getElem?_append_left (List.getElem?_eq_some_iff.mp hy).1, hy] at hx
      exact (Option.some.inj hx).symm
  · intro h
    induction a generalizing b with
    | nil => exact Or.inl (List.nil_prefix)
    | cons x a ih =>
        cases b with
        | nil => exact Or.inr (List.nil_prefix)
        | cons y b =>
            have hxy : x = y := h 0 x y rfl rfl
            subst hxy
            rcases ih fun i u v hu hv => h (i + 1) u v hu hv with hab | hba
            · exact Or.inl (List.cons_prefix_cons.mpr ⟨rfl, hab⟩)
            · exact Or.inr (List.cons_prefix_cons.mpr ⟨rfl, hba⟩)

/-- Writing one of two compatible histories over the other gives the longer one. -/
theorem getElem?_or_of_compatible {a b : List α} (h : Compatible a b) (i : ℕ) :
    (b[i]?).or a[i]? = (if a.length < b.length then b else a)[i]? := by
  split_ifs with hlt
  · rcases h with ⟨t, rfl⟩ | h
    · cases hb : (a ++ t)[i]? with
      | some y => rfl
      | none =>
          have hlen := List.getElem?_eq_none_iff.mp hb
          rw [List.length_append] at hlen
          rw [List.getElem?_eq_none (by omega)]
          rfl
    · exact absurd h.length_le (by omega)
  · have hpre : b <+: a := by
      rcases h with h | h
      · rw [h.eq_of_length_le (by omega)]
      · exact h
    obtain ⟨t, rfl⟩ := hpre
    cases hb : b[i]? with
    | none => rfl
    | some y =>
        rw [List.getElem?_append_left (List.getElem?_eq_some_iff.mp hb).1, hb]
        rfl

/-- The longest history seen, and whether another contradicted it. -/
structure View (α : Type*) where
  log : List α := []
  forked : Prop := False

namespace View

/-- Learn a history: keep the longer of two compatible ones, note a contradiction. -/
def learn [DecidableEq α] (v : View α) (h : List α) : View α :=
  if Compatible v.log h then
    { v with log := if v.log.length < h.length then h else v.log }
  else { v with forked := True }

def learnAll [DecidableEq α] (hs : List (List α)) : View α := hs.foldl learn {}

variable [DecidableEq α]

/-- A compatible history extends the log, if it is longer. -/
theorem learn_of_compatible {v : View α} {h : List α} (hc : Compatible v.log h) :
    v.learn h = ⟨if v.log.length < h.length then h else v.log, v.forked⟩ := if_pos hc

/-- Another one marks the view, and leaves the log. -/
theorem learn_of_not_compatible {v : View α} {h : List α} (hc : ¬ Compatible v.log h) :
    v.learn h = ⟨v.log, True⟩ := if_neg hc

/-- **THE LOG ONLY GROWS.** -/
theorem log_prefix_learn (v : View α) (h : List α) : v.log <+: (v.learn h).log := by
  by_cases hc : Compatible v.log h
  · rw [learn_of_compatible hc]
    show v.log <+: if v.log.length < h.length then h else v.log
    split_ifs with hlt
    · rcases hc with hc | hc
      · exact hc
      · exact absurd hc.length_le (by omega)
    · exact List.prefix_rfl
  · rw [learn_of_not_compatible hc]

/-- A mark stays. -/
theorem forked_learn {v : View α} {h : List α} (hf : v.forked) : (v.learn h).forked := by
  by_cases hc : Compatible v.log h
  · rw [learn_of_compatible hc]
    exact hf
  · rw [learn_of_not_compatible hc]
    trivial

/-- A compatible history is below the log once learned. -/
theorem prefix_learn_of_compatible {v : View α} {h : List α} (hc : Compatible v.log h) :
    h <+: (v.learn h).log := by
  rw [learn_of_compatible hc]
  show h <+: if v.log.length < h.length then h else v.log
  split_ifs with hlt
  · exact List.prefix_rfl
  · rcases hc with hc | hc
    · rw [hc.eq_of_length_le (by omega)]
    · exact hc

/-- After learning, the history is below the log or contradicted it. -/
theorem prefix_log_learn (v : View α) (h : List α) :
    (v.learn h).forked ∨ h <+: (v.learn h).log := by
  by_cases hc : Compatible v.log h
  · exact Or.inr (prefix_learn_of_compatible hc)
  · rw [learn_of_not_compatible hc]
    exact Or.inl trivial

/-- What holds after learning `hs`: every history is below the log unless forked, the log is one
    of them, and a fork has two of them to show. -/
structure Learned (hs : List (List α)) (v : View α) : Prop where
  below : ∀ h ∈ hs, v.forked ∨ h <+: v.log
  log_mem : v.log = [] ∨ v.log ∈ hs
  fork : v.forked → ∃ a ∈ hs, ∃ b ∈ hs, ¬ Compatible a b

/-- One more history is learned as those before it. -/
theorem Learned.learn {hs : List (List α)} {v : View α} (hv : Learned hs v) (h : List α) :
    Learned (hs ++ [h]) (v.learn h) := by
  refine ⟨?_, ?_, ?_⟩
  · intro g hg
    rcases List.mem_append.mp hg with hg | hg
    · rcases hv.below g hg with hf | hp
      · exact Or.inl (forked_learn hf)
      · exact Or.inr (hp.trans (log_prefix_learn v h))
    · rw [List.mem_singleton.mp hg]
      exact prefix_log_learn v h
  · have hlog : v.log = [] ∨ v.log ∈ hs ++ [h] := hv.log_mem.imp_right (List.mem_append_left _)
    by_cases hc : Compatible v.log h
    · rw [learn_of_compatible hc]
      show (if v.log.length < h.length then h else v.log) = [] ∨
        (if v.log.length < h.length then h else v.log) ∈ hs ++ [h]
      split_ifs
      · exact Or.inr (List.mem_append_right _ (List.mem_singleton_self h))
      · exact hlog
    · rw [learn_of_not_compatible hc]
      exact hlog
  · intro hf
    by_cases hc : Compatible v.log h
    · rw [learn_of_compatible hc] at hf
      obtain ⟨a, ha, b, hb, hab⟩ := hv.fork hf
      exact ⟨a, List.mem_append_left _ ha, b, List.mem_append_left _ hb, hab⟩
    -- a log that contradicts a history is itself one of the histories
    · have hne : v.log ≠ [] := fun hnil => hc (Or.inl (hnil ▸ List.nil_prefix))
      exact ⟨v.log, List.mem_append_left _ (hv.log_mem.resolve_left hne), h,
        List.mem_append_right _ (List.mem_singleton_self h), hc⟩

/-- So are all of them in turn. -/
theorem learned_learnAll (hs : List (List α)) : Learned hs (learnAll hs) := by
  induction hs using List.reverseRecOn with
  | nil => exact ⟨fun h hh => absurd hh List.not_mem_nil, Or.inl rfl, fun hf => absurd hf id⟩
  | append_singleton hs h ih =>
      rw [learnAll, List.foldl_concat]
      exact ih.learn h

/-- **DROPPING LOSES NOTHING**: a view is forked exactly when two of the histories it was shown
    contradict each other. -/
theorem forked_learnAll_iff (hs : List (List α)) :
    (learnAll hs).forked ↔ ∃ a ∈ hs, ∃ b ∈ hs, ¬ Compatible a b := by
  have hl := learned_learnAll hs
  refine ⟨hl.fork, ?_⟩
  rintro ⟨a, ha, b, hb, hab⟩
  rcases hl.below a ha with hf | hpa
  · exact hf
  rcases hl.below b hb with hf | hpb
  · exact hf
  · exact absurd (compatible_of_prefixes hpa hpb) hab

/-- The mark depends on no order. -/
theorem forked_learnAll_perm {hs hs' : List (List α)} (hp : hs.Perm hs') :
    (learnAll hs).forked ↔ (learnAll hs').forked := by
  simp only [forked_learnAll_iff, hp.mem_iff]

/-- **ORDER DOES NOT MATTER**: unless forked, the log is the longest history in any order. -/
theorem log_learnAll_perm {hs hs' : List (List α)} (hp : hs.Perm hs')
    (hf : ¬ (learnAll hs).forked) : (learnAll hs).log = (learnAll hs').log := by
  have hl := learned_learnAll hs
  have hl' := learned_learnAll hs'
  have hf' : ¬ (learnAll hs').forked := fun h => hf ((forked_learnAll_perm hp).mpr h)
  have hle : (learnAll hs).log <+: (learnAll hs').log := by
    rcases hl.log_mem with hnil | hmem
    · rw [hnil]
      exact List.nil_prefix
    · exact (hl'.below _ (hp.mem_iff.mp hmem)).resolve_left hf'
  have hge : (learnAll hs').log <+: (learnAll hs).log := by
    rcases hl'.log_mem with hnil | hmem
    · rw [hnil]
      exact List.nil_prefix
    · exact (hl.below _ (hp.mem_iff.mpr hmem)).resolve_left hf
  exact hle.eq_of_length_le hge.length_le

/-! ### Two views side by side -/

/-- Merge two views without comparing their logs: keep the longer log, and either's fork. -/
def merge (v w : View α) : View α :=
  ⟨if v.log.length < w.log.length then w.log else v.log, v.forked ∨ w.forked⟩

omit [DecidableEq α] in
/-- Merging compatible views keeps both logs. -/
theorem log_merge_of_compatible {v w : View α} (h : Compatible v.log w.log) :
    v.log <+: (v.merge w).log ∧ w.log <+: (v.merge w).log := by
  show v.log <+: (if v.log.length < w.log.length then w.log else v.log) ∧
    w.log <+: (if v.log.length < w.log.length then w.log else v.log)
  split_ifs with hlt
  · refine ⟨h.resolve_right fun hp => ?_, List.prefix_rfl⟩
    exact absurd hp.length_le (by omega)
  · refine ⟨List.prefix_rfl, ?_⟩
    rcases h with h | h
    · rw [h.eq_of_length_le (by omega)]
    · exact h

/-- Histories learned by two unforked views with compatible logs are all below the longer log. -/
theorem prefix_merge {hs gs : List (List α)} (hf : ¬ (learnAll hs).forked)
    (hg : ¬ (learnAll gs).forked) (hc : Compatible (learnAll hs).log (learnAll gs).log)
    {a : List α} (ha : a ∈ hs ++ gs) : a <+: ((learnAll hs).merge (learnAll gs)).log := by
  obtain ⟨hv, hw⟩ := log_merge_of_compatible hc
  rcases List.mem_append.mp ha with ha | ha
  · exact (((learned_learnAll hs).below a ha).resolve_left hf).trans hv
  · exact (((learned_learnAll gs).below a ha).resolve_left hg).trans hw

/-- **WHAT MERGING MISSES**: learning both lots of histories forks when either lot does, or when
    the two logs contradict each other. -/
theorem forked_learnAll_append (hs gs : List (List α)) :
    (learnAll (hs ++ gs)).forked ↔ (learnAll hs).forked ∨ (learnAll gs).forked ∨
      ¬ Compatible (learnAll hs).log (learnAll gs).log := by
  constructor
  · intro hfork
    by_contra hnone
    push Not at hnone
    obtain ⟨hf, hg, hc⟩ := hnone
    obtain ⟨a, ha, b, hb, hab⟩ := (forked_learnAll_iff _).mp hfork
    exact hab (compatible_of_prefixes (prefix_merge hf hg hc ha) (prefix_merge hf hg hc hb))
  · intro h
    rw [forked_learnAll_iff]
    rcases h with h | h | h
    · obtain ⟨a, ha, b, hb, hab⟩ := (forked_learnAll_iff _).mp h
      exact ⟨a, List.mem_append_left _ ha, b, List.mem_append_left _ hb, hab⟩
    · obtain ⟨a, ha, b, hb, hab⟩ := (forked_learnAll_iff _).mp h
      exact ⟨a, List.mem_append_right _ ha, b, List.mem_append_right _ hb, hab⟩
    -- an empty log contradicts nothing, so both logs are histories
    · have hl : (learnAll hs).log ≠ [] := fun hnil => h (Or.inl (hnil ▸ List.nil_prefix))
      have hr : (learnAll gs).log ≠ [] := fun hnil => h (Or.inr (hnil ▸ List.nil_prefix))
      exact ⟨_, List.mem_append_left _ ((learned_learnAll hs).log_mem.resolve_left hl), _,
        List.mem_append_right _ ((learned_learnAll gs).log_mem.resolve_left hr), h⟩

/-- Without a fork, learning both lots keeps the longer of the two logs. -/
theorem log_learnAll_append {hs gs : List (List α)} (hnot : ¬ (learnAll (hs ++ gs)).forked) :
    (learnAll (hs ++ gs)).log = ((learnAll hs).merge (learnAll gs)).log := by
  have hparts := fun h => hnot ((forked_learnAll_append hs gs).mpr h)
  have hf : ¬ (learnAll hs).forked := fun h => hparts (Or.inl h)
  have hg : ¬ (learnAll gs).forked := fun h => hparts (Or.inr (Or.inl h))
  have hc : Compatible (learnAll hs).log (learnAll gs).log := by
    by_contra hc
    exact hparts (Or.inr (Or.inr hc))
  have hall := learned_learnAll (hs ++ gs)
  have hle : (learnAll (hs ++ gs)).log <+: ((learnAll hs).merge (learnAll gs)).log := by
    rcases hall.log_mem with hnil | hmem
    · rw [hnil]
      exact List.nil_prefix
    · exact prefix_merge hf hg hc hmem
  have hbelow : ∀ a, a = [] ∨ a ∈ hs ++ gs → a <+: (learnAll (hs ++ gs)).log := by
    rintro a (rfl | ha)
    · exact List.nil_prefix
    · exact (hall.below a ha).resolve_left hnot
  have hge : ((learnAll hs).merge (learnAll gs)).log <+: (learnAll (hs ++ gs)).log := by
    show (if (learnAll hs).log.length < (learnAll gs).log.length then (learnAll gs).log
      else (learnAll hs).log) <+: _
    split_ifs
    · exact hbelow _ ((learned_learnAll gs).log_mem.imp_right (List.mem_append_right _))
    · exact hbelow _ ((learned_learnAll hs).log_mem.imp_right (List.mem_append_left _))
  exact hle.eq_of_length_le hge.length_le

end View

end AgentPrefixLog
