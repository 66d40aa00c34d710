import Mathlib.Data.List.Nodup
import Mathlib.Logic.Function.Basic
import Mathlib.Logic.Relation

/-!
# What a single-use store is for

A store hands things out under names: a thing is put in once, and may be taken once while it has
not expired.  A `Vault` remembers everything that was put in and everything that was taken; what a
store loses on the way just stays in its vault.

* **`Step.sound`** — one step keeps what the vault is for.
* **`sound_of_reachable`** — after any steps nothing was taken twice, and what was taken was put in
  under that name and had not expired.
* **`Custody`** — a thing not yet taken lies in one place: the shared table, or somebody's hands.
* **`reachable_refines`** — a store each step of which is a step of a vault, or none, runs as a vault.
-/

namespace AgentSingleUse

variable {ι α τ : Type*}

/-- What was put in under each name, what is still there, and what was taken when, latest first. -/
structure Vault (ι α τ : Type*) where
  issued : ι → Option α := fun _ => none
  live : ι → Option α := fun _ => none
  taken : List (ι × α × τ) := []

/-- One step of a store in which `expired now a` says that `a` is no longer to be taken. -/
inductive Step [DecidableEq ι] (expired : τ → α → Prop) : Vault ι α τ → Vault ι α τ → Prop where
  | issue {v : Vault ι α τ} {id : ι} (a : α) : v.issued id = none →
      Step expired v { v with
        issued := Function.update v.issued id (some a)
        live := Function.update v.live id (some a) }
  | take {v : Vault ι α τ} {id : ι} {a : α} (now : τ) : v.live id = some a → ¬ expired now a →
      Step expired v { v with
        live := Function.update v.live id none
        taken := (id, a, now) :: v.taken }

/-- What a single-use store is for. -/
structure Vault.Sound (expired : τ → α → Prop) (v : Vault ι α τ) : Prop where
  live_issued : ∀ id a, v.live id = some a → v.issued id = some a
  taken_issued : ∀ t ∈ v.taken, v.issued t.1 = some t.2.1
  taken_gone : ∀ t ∈ v.taken, v.live t.1 = none
  taken_fresh : ∀ t ∈ v.taken, ¬ expired t.2.2 t.2.1
  once : (v.taken.map Prod.fst).Nodup

variable {expired : τ → α → Prop} {v v' : Vault ι α τ}

theorem sound_empty : Vault.Sound expired ({} : Vault ι α τ) where
  live_issued _ _ h := absurd h (Option.some_ne_none _).symm
  taken_issued _ h := absurd h List.not_mem_nil
  taken_gone _ h := absurd h List.not_mem_nil
  taken_fresh _ h := absurd h List.not_mem_nil
  once := List.nodup_nil

theorem Vault.Sound.not_live (S : v.Sound expired) {id : ι} (hnew : v.issued id = none) :
    v.live id = none := by
  rw [Option.eq_none_iff_forall_ne_some]
  intro a hlive
  have := S.live_issued id a hlive
  rw [hnew] at this
  cases this

variable [DecidableEq ι]

/-- A list of what was put in keeps up with the vault. -/
theorem issued_cons {issued : List α} (nameOf : α → ι) {a : α}
    (hnew : v.issued (nameOf a) = none)
    (h : ∀ id b, v.issued id = some b ↔ b ∈ issued ∧ nameOf b = id) (id : ι) (b : α) :
    Function.update v.issued (nameOf a) (some a) id = some b ↔ b ∈ a :: issued ∧ nameOf b = id := by
  by_cases hid : id = nameOf a
  · subst hid
    rw [Function.update_self, Option.some.injEq, List.mem_cons]
    constructor
    · rintro rfl
      exact ⟨Or.inl rfl, rfl⟩
    · rintro ⟨rfl | hmem, hname⟩
      · rfl
      · have := (h _ b).mpr ⟨hmem, hname⟩
        rw [hnew] at this
        cases this
  · rw [Function.update_of_ne hid, h, List.mem_cons]
    refine and_congr_left fun hname => ⟨Or.inr, fun hmem => hmem.resolve_left ?_⟩
    rintro rfl
    exact hid hname.symm

/-- **ONE STEP KEEPS WHAT THE STORE IS FOR.** -/
theorem Step.sound (h : Step expired v v') (S : v.Sound expired) : v'.Sound expired := by
  cases h with
  | @issue id a hnew =>
      -- nothing was taken under a name nothing was put in under
      have hne : ∀ t ∈ v.taken, t.1 ≠ id := by
        intro t ht heq
        have := S.taken_issued t ht
        rw [heq, hnew] at this
        cases this
      refine ⟨fun id' a' hlive => ?_, fun t ht => ?_, fun t ht => ?_, S.taken_fresh, S.once⟩
      · by_cases hid : id' = id
        · subst hid
          simpa only [Function.update_self] using hlive
        · simp only [Function.update_of_ne hid] at hlive ⊢
          exact S.live_issued id' a' hlive
      · simp only [Function.update_of_ne (hne t ht)]
        exact S.taken_issued t ht
      · simp only [Function.update_of_ne (hne t ht)]
        exact S.taken_gone t ht
  | @take id a now hlive hfresh =>
      refine ⟨fun id' a' hlive' => ?_, ?_, ?_, ?_, ?_⟩
      · by_cases hid : id' = id
        · subst hid
          simp only [Function.update_self] at hlive'
          cases hlive'
        · simp only [Function.update_of_ne hid] at hlive'
          exact S.live_issued id' a' hlive'
      · exact List.forall_mem_cons.mpr ⟨S.live_issued id a hlive, S.taken_issued⟩
      · refine List.forall_mem_cons.mpr ⟨Function.update_self .., fun t ht => ?_⟩
        by_cases hid : t.1 = id
        · simp only [hid, Function.update_self]
        · simp only [Function.update_of_ne hid]
          exact S.taken_gone t ht
      · exact List.forall_mem_cons.mpr ⟨hfresh, S.taken_fresh⟩
      · refine List.nodup_cons.mpr ⟨fun hmem => ?_, S.once⟩
        obtain ⟨t, ht, hid⟩ := List.mem_map.mp hmem
        have := S.taken_gone t ht
        rw [hid, hlive] at this
        cases this

/-- **NOTHING IS TAKEN TWICE**, whatever the order of the steps. -/
theorem sound_of_reachable (h : Relation.ReflTransGen (Step expired) {} v) : v.Sound expired := by
  induction h with
  | refl => exact sound_empty
  | tail _ hstep ih => exact hstep.sound ih

/-- **A STORE THAT KEEPS TO ITS VAULT**: a step of the store is a step of the vault, or none. -/
theorem reachable_refines {σ : Type*} {step : σ → σ → Prop} {R : σ → Vault ι α τ → Prop} {start s : σ}
    (hstart : R start {})
    (hstep : ∀ s s' v, v.Sound expired → R s v → step s s' →
      ∃ v', Relation.ReflGen (Step expired) v v' ∧ R s' v')
    (h : Relation.ReflTransGen step start s) :
    ∃ v, Relation.ReflTransGen (Step expired) {} v ∧ R s v := by
  induction h with
  | refl => exact ⟨{}, .refl, hstart⟩
  | tail _ hlast ih =>
      obtain ⟨v, hv, hR⟩ := ih
      obtain ⟨v', hv', hR'⟩ := hstep _ _ v (sound_of_reachable hv) hR hlast
      exact ⟨v', hv.trans hv'.to_reflTransGen, hR'⟩

/-! ## Where things lie -/

section Custody

variable {P β : Type*} {stands : β → α → Prop} {lies lies' : P → ι → β → Prop}
  {live : ι → Option α} {p : P} {id : ι} {a : α} {b : β}

/-- What lies anywhere stands for what is live under its name, and lies in that place alone. -/
structure Custody (stands : β → α → Prop) (lies : P → ι → β → Prop) (live : ι → Option α) : Prop where
  lies_live : ∀ p id b, lies p id b → ∃ a, live id = some a ∧ stands b a
  alone : ∀ p p' id b b', lies p id b → lies p' id b' → p = p'

omit [DecidableEq ι] in
theorem Custody.mono (C : Custody stands lies live)
    (hsub : ∀ q id' b', lies' q id' b' → lies q id' b') : Custody stands lies' live :=
  ⟨fun q id' b' h => C.lies_live q id' b' (hsub q id' b' h),
    fun q q' id' b' b'' h h' => C.alone q q' id' b' b'' (hsub _ _ _ h) (hsub _ _ _ h')⟩

omit [DecidableEq ι] in
/-- A thing goes from one place to another. -/
theorem Custody.move (C : Custody stands lies live) (p p' : P) (id : ι) (b : β) (hlies : lies p id b)
    (hmove : ∀ q id' b', lies' q id' b' →
      (lies q id' b' ∧ ¬ (q = p ∧ id' = id)) ∨ (q = p' ∧ id' = id ∧ b' = b)) :
    Custody stands lies' live := by
  -- what stayed has another name than what went
  have hne : ∀ {q b'}, lies q id b' → ¬ q ≠ p := fun h hq => hq (C.alone _ _ _ _ _ h hlies)
  refine ⟨fun q id' b' h => ?_, fun q q' id' b' b'' h h' => ?_⟩
  · rcases hmove q id' b' h with ⟨hold, -⟩ | ⟨-, rfl, rfl⟩
    · exact C.lies_live q id' b' hold
    · exact C.lies_live p id' b' hlies
  · rcases hmove q id' b' h with ⟨hold, hkept⟩ | ⟨rfl, rfl, -⟩
    · rcases hmove q' id' b'' h' with ⟨hold', -⟩ | ⟨-, rfl, -⟩
      · exact C.alone q q' id' b' b'' hold hold'
      · exact absurd (fun hq => hkept ⟨hq, rfl⟩) (hne hold)
    · rcases hmove q' id' b'' h' with ⟨hold', hkept'⟩ | ⟨rfl, -, -⟩
      · exact absurd (fun hq => hkept' ⟨hq, rfl⟩) (hne hold')
      · rfl

/-- A thing is put in under a name that is not live. -/
theorem Custody.make (C : Custody stands lies live) (hnew : live id = none) (hstands : stands b a)
    (hmake : ∀ q id' b', lies' q id' b' → lies q id' b' ∨ (q = p ∧ id' = id ∧ b' = b)) :
    Custody stands lies' (Function.update live id (some a)) := by
  have hne : ∀ {q id' b'}, lies q id' b' → id' ≠ id := by
    rintro q id' b' h rfl
    obtain ⟨a', hlive, -⟩ := C.lies_live q id' b' h
    rw [hnew] at hlive
    cases hlive
  refine ⟨fun q id' b' h => ?_, fun q q' id' b' b'' h h' => ?_⟩
  · rcases hmake q id' b' h with hold | ⟨-, rfl, rfl⟩
    · rw [Function.update_of_ne (hne hold)]
      exact C.lies_live q id' b' hold
    · exact ⟨a, Function.update_self .., hstands⟩
  · rcases hmake q id' b' h with hold | ⟨rfl, rfl, -⟩
    · rcases hmake q' id' b'' h' with hold' | ⟨-, rfl, -⟩
      · exact C.alone q q' id' b' b'' hold hold'
      · exact absurd rfl (hne hold)
    · rcases hmake q' id' b'' h' with hold' | ⟨rfl, -, -⟩
      · exact absurd rfl (hne hold')
      · rfl

/-- A thing is taken out of its place. -/
theorem Custody.take (C : Custody stands lies live) (hlies : lies p id b)
    (htake : ∀ q id' b', lies' q id' b' → lies q id' b' ∧ ¬ (q = p ∧ id' = id)) :
    Custody stands lies' (Function.update live id none) := by
  refine ⟨fun q id' b' h => ?_, fun q q' id' b' b'' h h' => ?_⟩
  · obtain ⟨hold, hkept⟩ := htake q id' b' h
    have hid : id' ≠ id := by
      rintro rfl
      exact hkept ⟨C.alone _ _ _ _ _ hold hlies, rfl⟩
    rw [Function.update_of_ne hid]
    exact C.lies_live q id' b' hold
  · exact C.alone q q' id' b' b'' (htake _ _ _ h).1 (htake _ _ _ h').1

end Custody

end AgentSingleUse
