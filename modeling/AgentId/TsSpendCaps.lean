import Mathlib.Order.Bounds.Lattice
import Mathlib.Order.WithBot
import AgentId.SpendRender
import AgentId.TsDigest
import AgentId.TsSpend

/-!
# Spend caps in TypeScript (`spend.ts`)

Amounts are compared and added on scaled integers, without rounding.  The sum goes back through the
constructor of `Amount`, and with it through the limit on its text.

* **`addAmounts_ok_iff`** — when a sum is an amount again.
* **`Stands`** — an authority is the greatest lower bound of the scopes it was narrowed by.
* **`ts_verify_exact_iff`** — when `SpendAuthority.verify` is the rule of its documentation.
-/

namespace AgentTsSpendCaps

open AgentPy AgentJson AgentPositional AgentDecimal AgentSpendAuthority AgentTokenLanguage
  AgentSpendGrammar AgentSpendRender AgentUtf16 AgentTsCanonical AgentTsSigning AgentTsSpend
  AgentTsDigest

open AgentSpend (isDigit digitValue maxAmountChars)

/-! ## Addition -/

/-- `s.padStart(n, "0")` -/
def padStart (s : PyStr) (n : ℕ) : PyStr := List.replicate (n - s.length) (codePoint '0') ++ s

/-- The digits behind the point of a sum. -/
def places (a b : Amount) : ℕ := max a.parts.2.length b.parts.2.length

/-- The digits of a sum, at least one before the point. -/
def sumDigits (a b : Amount) : PyStr :=
  padStart (natText (a.scaled (places a b) + b.scaled (places a b))) (places a b + 1)

def addAmounts (a b : Amount) : Js Amount :=
  if places a b = 0 then newAmount (sumDigits a b)
  else newAmount ((sumDigits a b).take ((sumDigits a b).length - places a b) ++ py "."
    ++ (sumDigits a b).drop ((sumDigits a b).length - places a b))

/-- The sum, written to the places of both amounts, has at most 40 characters. -/
def SumFits (a b : Amount) : Prop :=
  a.toRat + b.toRat < 10 ^ (if places a b = 0 then 40 else 39 - places a b)

/-- The text of an amount has the digits of its parts. -/
theorem exists_digits (a : Amount) :
    ∃ whole fraction, digits? a.text = some (whole, fraction) ∧ a.parts = (whole, fraction) := by
  obtain ⟨⟨whole, fraction⟩, h⟩ := testAmount_iff_digits.mp a.matches_re
  exact ⟨whole, fraction, h, parts_of_digits h⟩

/-- An amount of 40 characters has a digit, a point, and 38 places at most. -/
theorem length_fraction_le (a : Amount) : a.parts.2.length ≤ 38 := by
  obtain ⟨whole, fraction, hdigits, hparts⟩ := exists_digits a
  have hshort := a.short
  rw [length_utf16_amount (testAmount_iff.mp a.matches_re)] at hshort
  have hmax : maxAmountChars = 40 := rfl
  obtain ⟨hwhole, ⟨rfl, -⟩ | ⟨-, htext⟩⟩ := digits?_eq_some_iff.mp hdigits
  · rw [hparts]
    exact Nat.zero_le _
  · have hpos : 0 < whole.length := List.length_pos_iff.mpr hwhole.1
    rw [htext, List.length_append, List.length_cons] at hshort
    rw [hparts]
    show fraction.length ≤ 38
    omega

/-- An amount has at most 38 places behind its point. -/
theorem places_le (a b : Amount) : places a b ≤ 38 :=
  max_le (length_fraction_le a) (length_fraction_le b)

/-- Text with the digits of an amount is an amount when it is not too long. -/
theorem newAmount_of_digits {text whole fraction : PyStr}
    (h : digits? text = some (whole, fraction)) :
    ((∃ c, newAmount text = .ok c) ↔ text.length ≤ maxAmountChars) ∧
      ∀ c, newAmount text = .ok c →
        c.toRat = Amount.bigInt (whole ++ fraction) * 10 ^ (-(fraction.length : ℤ)) := by
  constructor
  · have hmem : text ∈ amountPattern := mem_amountPattern_iff.mpr ⟨_, h⟩
    have hiff := @exists_tsAmount_iff text
    simp only [tsAmountOf_eq_some_iff, hmem, true_and] at hiff
    exact hiff
  · intro c hc
    cases newAmount_ok_iff.mp hc
    rw [Amount.toRat, parts_of_digits h]

/-- How many digits a sum is written with. -/
theorem length_sumDigits (a b : Amount) : (sumDigits a b).length
    = max (natText (a.scaled (places a b) + b.scaled (places a b))).length (places a b + 1) := by
  rw [sumDigits, padStart, List.length_append, List.length_replicate]
  omega

theorem isDigit_sumDigits (a b : Amount) : ∀ c ∈ sumDigits a b, isDigit c = true := by
  rw [sumDigits, padStart, List.forall_mem_append]
  refine ⟨fun c hc => ?_, (isRun_natText _).2⟩
  rw [List.eq_of_mem_replicate hc]
  decide

/-- The digits of a sum denote it. -/
theorem bigInt_sumDigits (a b : Amount) :
    Amount.bigInt (sumDigits a b) = a.scaled (places a b) + b.scaled (places a b) := by
  refine value_append_digits _ fun c hc => ?_
  rw [List.eq_of_mem_replicate hc]
  decide

/-- **THE DIGITS ARE THOSE OF THE SUM**, at the scale of both. -/
theorem cast_bigInt_sumDigits (a b : Amount) : (Amount.bigInt (sumDigits a b) : ℚ)
    = (a.toRat + b.toRat) * 10 ^ places a b := by
  have ha := @Amount.scaled_eq a (places a b) (le_max_left _ _)
  have hb := @Amount.scaled_eq b (places a b) (le_max_right _ _)
  rw [bigInt_sumDigits, Nat.cast_add, ha, hb, add_mul]

/-- A sum of so many digits is below that power of ten. -/
theorem length_sumDigits_le_iff (a b : Amount) {k : ℕ} (hk : places a b + 1 ≤ k) :
    (sumDigits a b).length ≤ k ↔ a.toRat + b.toRat < 10 ^ (k - places a b) := by
  have hpow : (10 : ℚ) ^ k = 10 ^ (k - places a b) * 10 ^ places a b := by
    rw [← pow_add, Nat.sub_add_cancel (by omega)]
  have hvalue := cast_bigInt_sumDigits a b
  rw [bigInt_sumDigits] at hvalue
  rw [length_sumDigits, max_le_iff, and_iff_left hk, length_natText_le (by omega),
    ← Nat.cast_lt (α := ℚ), hvalue, Nat.cast_pow, Nat.cast_ofNat, hpow]
  exact mul_lt_mul_iff_left₀ (by positivity)

/-- Digits alone. -/
theorem digits?_of_run {digits : PyStr} (hne : 0 < digits.length)
    (hdigit : ∀ c ∈ digits, isDigit c = true) : digits? digits = some (digits, []) :=
  digits?_eq_some_iff.mpr ⟨⟨List.length_pos_iff.mp hne, hdigit⟩, Or.inl ⟨rfl, rfl⟩⟩

/-- Digits with a point before the last `p`. -/
theorem digits?_of_point {digits : PyStr} {p : ℕ} (hp : p ≠ 0) (hlt : p < digits.length)
    (hdigit : ∀ c ∈ digits, isDigit c = true) :
    digits? (digits.take (digits.length - p) ++ py "." ++ digits.drop (digits.length - p))
      = some (digits.take (digits.length - p), digits.drop (digits.length - p)) := by
  refine digits?_eq_some_iff.mpr ⟨⟨?_, ?_⟩, Or.inr ⟨⟨?_, ?_⟩, ?_⟩⟩
  · rw [← List.length_pos_iff, List.length_take]
    omega
  · exact fun c hc => hdigit c (List.mem_of_mem_take hc)
  · rw [← List.length_pos_iff, List.length_drop]
    omega
  · exact fun c hc => hdigit c (List.mem_of_mem_drop hc)
  · rw [List.append_assoc]
    rfl

/-- **WHEN A SUM IS AN AMOUNT AGAIN**: when its text is not too long; and then it is exact. -/
theorem addAmounts_ok_iff (a b : Amount) :
    ((∃ c, addAmounts a b = .ok c) ↔ SumFits a b) ∧
      ∀ c, addAmounts a b = .ok c → c.toRat = a.toRat + b.toRat := by
  have hlen := length_sumDigits a b
  have hdigit := isDigit_sumDigits a b
  have hplaces := places_le a b
  have hmax : maxAmountChars = 40 := rfl
  have hvalue := cast_bigInt_sumDigits a b
  have hfits := fun k hk => @length_sumDigits_le_iff a b k hk
  rw [addAmounts, SumFits]
  generalize sumDigits a b = digits at *
  by_cases hzero : places a b = 0
  · obtain ⟨hok, hrat⟩ := newAmount_of_digits (digits?_of_run (by omega) hdigit)
    rw [if_pos hzero, if_pos hzero]
    refine ⟨hok.trans ?_, fun c hc => ?_⟩
    · rw [hmax, hfits 40 (by omega), hzero]
    · rw [hrat c hc, List.append_nil, hvalue, hzero]
      simp
  · obtain ⟨hok, hrat⟩ := newAmount_of_digits (digits?_of_point hzero (by omega) hdigit)
    have hfraction : (digits.drop (digits.length - places a b)).length = places a b := by
      rw [List.length_drop]
      omega
    rw [if_neg hzero, if_neg hzero]
    refine ⟨hok.trans ?_, fun c hc => ?_⟩
    · rw [← hfits 39 (by omega), hmax, List.length_append, List.length_append, hfraction,
        List.length_take]
      show min (digits.length - places a b) digits.length + 1 + places a b ≤ 40 ↔ _
      omega
    · rw [hrat c hc, List.take_append_drop, hvalue, hfraction, mul_assoc, zpow_neg, zpow_natCast,
        mul_inv_cancel₀ (by positivity), mul_one]

/-! ## Composition -/

/-- `Amount.min` -/
def tsMin (a b : Amount) : Amount := if Amount.compare a b ≤ 0 then a else b

/-- `minCap` -/
def tsMinCap : Option Amount → Option Amount → Option Amount
  | none, b => b
  | a, none => a
  | some a, some b => some (tsMin a b)

/-- `intersect` -/
def tsIntersect (s other : TsSpendScope) : Js TsSpendScope := do
  throwIf (s.asset ≠ other.asset) .spendScopeError
    ["cannot intersect spend scopes for different assets: ", .repr s.asset, " vs ",
      .repr other.asset]
  .ok ⟨s.asset, tsMinCap s.txCap other.txCap, tsMinCap s.totalCap other.totalCap⟩

/-- `a === null ? b : a.intersect(b)`, as both loops narrow. -/
def tsNarrow (authority : Option TsSpendScope) (scope : TsSpendScope) : Js TsSpendScope :=
  match authority with
  | none => .ok scope
  | some a => tsIntersect a scope

/-- The loop of `spendAuthorityFor`. -/
def tsAuthorityLoop (asset : PyStr) :
    Option TsSpendScope → List PyStr → Js (Option TsSpendScope)
  | authority, [] => .ok authority
  | authority, scope :: scopes =>
      if tsIsSpendScope scope then do
        let parsed ← tsParseSpendScope scope
        if parsed.asset = asset then do
          let narrowed ← tsNarrow authority parsed
          tsAuthorityLoop asset (some narrowed) scopes
        else tsAuthorityLoop asset authority scopes
      else tsAuthorityLoop asset authority scopes

def tsSpendAuthorityFor (scopes : List PyStr) (asset : PyStr) : Js (Option TsSpendScope) :=
  tsAuthorityLoop asset none scopes

/-- The loop of `composeSpendAuthority`; without a link it leaves `effective` null. -/
def tsComposeLoop (asset : PyStr) :
    Option TsSpendScope → List (List PyStr) → Js (Option TsSpendScope)
  | effective, [] => .ok effective
  | effective, scopes :: links => do
      match ← tsSpendAuthorityFor scopes asset with
      | none => .ok none
      | some link => do
          let narrowed ← tsNarrow effective link
          tsComposeLoop asset (some narrowed) links

def tsComposeSpendAuthority (links : List (List PyStr)) (asset : PyStr) :
    Js (Option TsSpendScope) :=
  tsComposeLoop asset none links

/-! ### Bounds -/

/-- The bound a cap sets; an absent one sets none. -/
def capBound : Option Amount → WithTop ℚ
  | none => ⊤
  | some a => a.toRat

/-- To be within a cap's bound is to be within the cap. -/
theorem coe_le_capBound {x : ℚ} {c : Option Amount} :
    (x : WithTop ℚ) ≤ capBound c ↔ ∀ a ∈ c, x ≤ a.toRat := by
  cases c with
  | none => exact iff_of_true le_top fun a ha => absurd ha (Option.not_mem_none a)
  | some a =>
      rw [capBound, WithTop.coe_le_coe]
      simp only [Option.mem_def, Option.some_inj, forall_eq']

/-- Only the missing cap bounds nothing. -/
theorem top_le_capBound {c : Option Amount} : ⊤ ≤ capBound c ↔ c = none := by
  cases c with
  | none => exact iff_of_true le_top rfl
  | some a => exact iff_of_false (WithTop.coe_lt_top _).not_ge (Option.some_ne_none a)

/-- **THE NARROWER CAP** sets the lower bound. -/
theorem capBound_tsMinCap (a b : Option Amount) :
    capBound (tsMinCap a b) = capBound a ⊓ capBound b := by
  cases a with
  | none => exact (top_inf_eq _).symm
  | some a =>
      cases b with
      | none => exact (inf_top_eq _).symm
      | some b =>
          simp only [tsMinCap, tsMin, capBound]
          split_ifs with hle
          · refine (inf_eq_left.mpr (WithTop.coe_le_coe.mpr (not_lt.mp fun hlt => ?_))).symm
            exact absurd ((Amount.compare_pos_iff a b).mpr hlt) (not_lt.mpr hle)
          · have hlt := (Amount.compare_pos_iff a b).mp (not_le.mp hle)
            exact (inf_eq_right.mpr (WithTop.coe_le_coe.mpr hlt.le)).symm

/-- The bound a scope sets on an axis. -/
def tsBound (axis : Axis) (s : TsSpendScope) : WithTop ℚ := capBound (tsCap s axis)

/-- Scopes of one asset intersect to the smaller bounds. -/
theorem tsIntersect_ok {a b : TsSpendScope} (h : a.asset = b.asset) :
    ∃ c, tsIntersect a b = .ok c ∧ c.asset = a.asset ∧
      ∀ axis, tsBound axis c = tsBound axis a ⊓ tsBound axis b := by
  refine ⟨⟨a.asset, tsMinCap a.txCap b.txCap, tsMinCap a.totalCap b.totalCap⟩, ?_, rfl, ?_⟩
  · rw [tsIntersect, seq_ok_iff, throwIf_ok_iff, not_not]
    exact ⟨h, rfl⟩
  · intro axis
    cases axis with
    | tx => exact capBound_tsMinCap _ _
    | total => exact capBound_tsMinCap _ _

variable {asset : PyStr}

/-- The authority is for the asset, and on each axis sets the greatest bound below those of the
    scopes granted so far. -/
structure Stands (asset : PyStr) (granted : Set TsSpendScope) (authority : Option TsSpendScope) :
    Prop where
  none_iff : authority = none ↔ granted = ∅
  asset_eq : ∀ a ∈ authority, a.asset = asset
  isGLB : ∀ a ∈ authority, ∀ axis, IsGLB (tsBound axis '' granted) (tsBound axis a)

/-- No scope stands for none. -/
theorem stands_none : Stands asset ∅ none :=
  ⟨iff_of_true rfl rfl, fun _ h => absurd h (Option.not_mem_none _),
    fun _ h => absurd h (Option.not_mem_none _)⟩

/-- One scope stands for itself. -/
theorem stands_single {s : TsSpendScope} (h : s.asset = asset) : Stands asset {s} (some s) := by
  refine ⟨iff_of_false (Option.some_ne_none _) (Set.singleton_ne_empty s), ?_, ?_⟩
  · rintro a ⟨⟩
    exact h
  · rintro a ⟨⟩ axis
    rw [Set.image_singleton]
    exact isGLB_singleton

/-- **ONE NARROWING** adds what the scope stands for. -/
theorem Stands.narrow {granted granted' : Set TsSpendScope} {authority : Option TsSpendScope}
    {scope : TsSpendScope} (h : Stands asset granted authority)
    (h' : Stands asset granted' (some scope)) :
    ∃ a, tsNarrow authority scope = .ok a ∧ Stands asset (granted ∪ granted') (some a) := by
  cases authority with
  | none =>
      rw [h.none_iff.mp rfl, Set.empty_union]
      exact ⟨scope, rfl, h'⟩
  | some a =>
      obtain ⟨c, hc, hasset, hbound⟩ :=
        tsIntersect_ok ((h.asset_eq a rfl).trans (h'.asset_eq scope rfl).symm)
      refine ⟨c, hc, iff_of_false (Option.some_ne_none _) fun hempty => ?_, ?_, ?_⟩
      · have hnone := h.none_iff.mpr (Set.union_empty_iff.mp hempty).1
        cases hnone
      · rintro _ ⟨⟩
        exact hasset.trans (h.asset_eq a rfl)
      · rintro _ ⟨⟩ axis
        rw [Set.image_union, hbound]
        exact (h.isGLB a rfl axis).union (h'.isGLB scope rfl axis)

/-! ### Within a grant -/

/-- Every spend scope of a grant parses. -/
def TsParses (scopes : List PyStr) : Prop :=
  ∀ scope ∈ scopes, tsIsSpendScope scope = true → ∃ s, tsParseSpendScope scope = .ok s

/-- The spend scopes a grant carries for the asset. -/
def tsGrants (asset : PyStr) (scopes : List PyStr) : Set TsSpendScope :=
  {s | ∃ scope ∈ scopes, tsParseSpendScope scope = .ok s ∧ s.asset = asset}

theorem tsGrants_nil : tsGrants asset [] = ∅ := by
  ext s
  refine iff_of_false ?_ (Set.notMem_empty s)
  rintro ⟨_, hmem, -⟩
  exact absurd hmem List.not_mem_nil

/-- A scope that is not for the asset adds nothing. -/
theorem tsGrants_cons_of_not {scope : PyStr} {scopes : List PyStr}
    (h : ∀ s, tsParseSpendScope scope = .ok s → s.asset ≠ asset) :
    tsGrants asset (scope :: scopes) = tsGrants asset scopes := by
  ext s
  constructor
  · rintro ⟨t, ht, hparse, hasset⟩
    rcases List.mem_cons.mp ht with rfl | ht
    · exact absurd hasset (h s hparse)
    · exact ⟨t, ht, hparse, hasset⟩
  · rintro ⟨t, ht, hs⟩
    exact ⟨t, List.mem_cons_of_mem _ ht, hs⟩

/-- A scope for the asset adds itself. -/
theorem tsGrants_cons_of_ok {scope : PyStr} {scopes : List PyStr} {s : TsSpendScope}
    (hparse : tsParseSpendScope scope = .ok s) (hasset : s.asset = asset) :
    tsGrants asset (scope :: scopes) = {s} ∪ tsGrants asset scopes := by
  ext s'
  constructor
  · rintro ⟨t, ht, hparse', hasset'⟩
    rcases List.mem_cons.mp ht with rfl | ht
    · cases hparse.symm.trans hparse'
      exact Or.inl rfl
    · exact Or.inr ⟨t, ht, hparse', hasset'⟩
  · rintro (rfl | ⟨t, ht, hs⟩)
    · exact ⟨scope, List.mem_cons_self, hparse, hasset⟩
    · exact ⟨t, List.mem_cons_of_mem _ ht, hs⟩

/-- What parses begins as a spend scope does. -/
theorem tsIsSpendScope_of_ok {scope : PyStr} {s : TsSpendScope}
    (h : tsParseSpendScope scope = .ok s) : tsIsSpendScope scope = true := by
  obtain ⟨hspend, -⟩ := seq_ok_iff.mp h
  exact Bool.eq_true_of_not_eq_false ((throwIf_ok_iff ..).mp hspend)

/-- **`spendAuthorityFor`**, from any authority built so far. -/
theorem stands_tsAuthorityLoop {scopes : List PyStr} (hparses : TsParses scopes)
    {granted : Set TsSpendScope} {authority : Option TsSpendScope}
    (h : Stands asset granted authority) :
    ∃ r, tsAuthorityLoop asset authority scopes = .ok r ∧
      Stands asset (granted ∪ tsGrants asset scopes) r := by
  induction scopes generalizing granted authority with
  | nil =>
      refine ⟨authority, rfl, ?_⟩
      rwa [tsGrants_nil, Set.union_empty]
  | cons scope scopes ih =>
      have hrest : TsParses scopes := fun t ht => hparses t (List.mem_cons_of_mem _ ht)
      rw [tsAuthorityLoop]
      by_cases hspend : tsIsSpendScope scope = true
      · obtain ⟨s, hs⟩ := hparses scope List.mem_cons_self hspend
        rw [if_pos hspend, hs]
        show ∃ r, (if s.asset = asset then _ else _) = Except.ok r ∧ _
        by_cases hasset : s.asset = asset
        · obtain ⟨a, ha, hstands⟩ := h.narrow (stands_single hasset)
          obtain ⟨r, hr, hall⟩ := ih hrest hstands
          rw [if_pos hasset, ha, tsGrants_cons_of_ok hs hasset, ← Set.union_assoc]
          exact ⟨r, hr, hall⟩
        · have hnot : ∀ t, tsParseSpendScope scope = .ok t → t.asset ≠ asset := by
            intro t ht
            cases hs.symm.trans ht
            exact hasset
          rw [if_neg hasset, tsGrants_cons_of_not hnot]
          exact ih hrest h
      · have hnot : ∀ t, tsParseSpendScope scope = .ok t → t.asset ≠ asset := fun t ht =>
          absurd (tsIsSpendScope_of_ok ht) hspend
        rw [if_neg hspend, tsGrants_cons_of_not hnot]
        exact ih hrest h

/-! ### Down a chain -/

/-- The spend scopes all links carry for the asset. -/
def chainGrants (asset : PyStr) (links : List (List PyStr)) : Set TsSpendScope :=
  {s | ∃ scopes ∈ links, s ∈ tsGrants asset scopes}

theorem chainGrants_nil : chainGrants asset [] = ∅ := by
  ext s
  refine iff_of_false ?_ (Set.notMem_empty s)
  rintro ⟨_, hmem, -⟩
  exact absurd hmem List.not_mem_nil

/-- A chain grants what its links grant. -/
theorem chainGrants_cons (scopes : List PyStr) (links : List (List PyStr)) :
    chainGrants asset (scopes :: links) = tsGrants asset scopes ∪ chainGrants asset links := by
  ext s
  simp only [chainGrants, Set.mem_union, Set.mem_ofPred_eq, List.mem_cons, exists_eq_or_imp]

/-- **`composeSpendAuthority`**, from any authority built so far: nothing as soon as one link
    grants nothing, else the greatest lower bound of what all links grant. -/
theorem tsComposeLoop_cases {links : List (List PyStr)} (hparses : ∀ scopes ∈ links, TsParses scopes)
    {granted : Set TsSpendScope} {effective : Option TsSpendScope}
    (h : Stands asset granted effective) :
    ((∃ scopes ∈ links, tsGrants asset scopes = ∅) ∧ tsComposeLoop asset effective links = .ok none) ∨
      ((∀ scopes ∈ links, (tsGrants asset scopes).Nonempty) ∧
        ∃ r, tsComposeLoop asset effective links = .ok r ∧
          Stands asset (granted ∪ chainGrants asset links) r) := by
  induction links generalizing granted effective with
  | nil =>
      refine Or.inr ⟨fun scopes hs => absurd hs List.not_mem_nil, effective, rfl, ?_⟩
      rwa [chainGrants_nil, Set.union_empty]
  | cons scopes links ih =>
      obtain ⟨hhere, hrest⟩ := List.forall_mem_cons.mp hparses
      obtain ⟨link, hlink, hstands⟩ := stands_tsAuthorityLoop hhere (@stands_none asset)
      rw [Set.empty_union] at hstands
      have hstep : tsSpendAuthorityFor scopes asset = .ok link := hlink
      rw [tsComposeLoop, hstep]
      cases link with
      | none => exact Or.inl ⟨⟨scopes, List.mem_cons_self, hstands.none_iff.mp rfl⟩, rfl⟩
      | some link =>
          have hne : (tsGrants asset scopes).Nonempty := by
            refine Set.nonempty_iff_ne_empty.mpr fun hempty => ?_
            cases hstands.none_iff.mpr hempty
          obtain ⟨a, ha, hmore⟩ := h.narrow hstands
          show (_ ∧ (tsNarrow effective link >>= fun narrowed =>
              tsComposeLoop asset (some narrowed) links) = _) ∨
            (_ ∧ ∃ r, (tsNarrow effective link >>= fun narrowed =>
              tsComposeLoop asset (some narrowed) links) = _ ∧ _)
          rw [ha, chainGrants_cons, ← Set.union_assoc]
          rcases ih hrest hmore with ⟨⟨t, ht, hempty⟩, hnone⟩ | ⟨hall, r, hr, hr'⟩
          · exact Or.inl ⟨⟨t, List.mem_cons_of_mem _ ht, hempty⟩, hnone⟩
          · exact Or.inr ⟨List.forall_mem_cons.mpr ⟨hne, hall⟩, r, hr, hr'⟩

/-- **`composeSpendAuthority`**: nothing as soon as one link grants nothing, else the greatest lower
    bound of what all links grant. -/
theorem tsComposeSpendAuthority_cases {links : List (List PyStr)}
    (hparses : ∀ scopes ∈ links, TsParses scopes) :
    ((∃ scopes ∈ links, tsGrants asset scopes = ∅) ∧
        tsComposeSpendAuthority links asset = .ok none) ∨
      ((∀ scopes ∈ links, (tsGrants asset scopes).Nonempty) ∧
        ∃ r, tsComposeSpendAuthority links asset = .ok r ∧
          Stands asset (chainGrants asset links) r) := by
  have h := tsComposeLoop_cases hparses (@stands_none asset)
  rwa [Set.empty_union] at h

/-! ## One prospective payment -/

structure JsDelegationChain where
  links : List JsDelegation

/-- `Amount | string` -/
inductive AmountArg where
  | amount (a : Amount)
  | text (s : PyStr)

/-- `x instanceof Amount ? x : parseAmount(x)` -/
def AmountArg.toAmount : AmountArg → Js Amount
  | .amount a => .ok a
  | .text s => tsParseAmount s

/-- The check of the transaction cap. -/
def tsCheckTx (asset : PyStr) (amount : Amount) : Option Amount → Js Unit
  | none => .ok ()
  | some cap => throwIf (0 < Amount.compare amount cap) .spendScopeError
      ["amount ", .str amount.text, " exceeds per-transaction cap ", .str cap.text, " for ",
        .repr asset]

/-- The check of the total cap. -/
def tsCheckTotal (asset : PyStr) (amount spent : Amount) : Option Amount → Js Unit
  | none => .ok ()
  | some cap => do
      let total ← addAmounts spent amount
      throwIf (0 < Amount.compare total cap) .spendScopeError
        ["amount ", .str amount.text, " on top of ", .str spent.text,
          " already spent exceeds total cap ", .str cap.text, " for ", .repr asset]

/-- `SpendAuthority.verify` -/
def tsVerify (chain : JsDelegationChain) (asset : PyStr) (amount spentSoFar : AmountArg) :
    Js TsSpendScope := do
  let amt ← amount.toAmount
  let spent ← spentSoFar.toAmount
  match ← tsComposeSpendAuthority (chain.links.map JsDelegation.scopes) asset with
  | none => throwNew .spendScopeError ["chain grants no spend authority over ", .repr asset]
  | some effective => do
      tsCheckTx asset amt effective.txCap
      tsCheckTotal asset amt spent effective.totalCap
      .ok effective

theorem toAmount_text (a : Amount) : AmountArg.toAmount (.text a.text) = .ok a := by
  show newAmount a.text = .ok a
  exact newAmount_ok_iff.mpr rfl

/-- A payment passes the cap on one transaction within its bound. -/
theorem tsCheckTx_ok_iff {amount : Amount} {c : Option Amount} :
    tsCheckTx asset amount c = .ok () ↔ (amount.toRat : WithTop ℚ) ≤ capBound c := by
  cases c with
  | none => exact iff_of_true rfl le_top
  | some cap =>
      rw [tsCheckTx, throwIf_ok_iff, Amount.compare_pos_iff, not_lt, capBound, WithTop.coe_le_coe]

/-- The total is checked on the exact sum, if the sum is an amount. -/
theorem tsCheckTotal_ok_iff {amount spent : Amount} {c : Option Amount} :
    tsCheckTotal asset amount spent c = .ok () ↔
      ((spent.toRat + amount.toRat : ℚ) : WithTop ℚ) ≤ capBound c ∧
        (c ≠ none → SumFits spent amount) := by
  obtain ⟨hok, hexact⟩ := addAmounts_ok_iff spent amount
  cases c with
  | none => exact iff_of_true rfl ⟨le_top, fun h => absurd rfl h⟩
  | some cap =>
      rw [tsCheckTotal, bind_ok_iff, capBound, WithTop.coe_le_coe, ← hok]
      simp only [throwIf_ok_iff, Amount.compare_pos_iff, not_lt]
      constructor
      · rintro ⟨total, htotal, hle⟩
        rw [hexact total htotal] at hle
        exact ⟨hle, fun _ => ⟨total, htotal⟩⟩
      · rintro ⟨hle, hfits⟩
        obtain ⟨total, htotal⟩ := hfits (Option.some_ne_none cap)
        refine ⟨total, htotal, ?_⟩
        rwa [hexact total htotal]

/-! ## The rule -/

/-- Every spend scope of the chain parses. -/
def JsDelegationChain.Parses (chain : JsDelegationChain) : Prop :=
  ∀ link ∈ chain.links, TsParses link.scopes

/-- A cap for the asset, in some link of the chain. -/
def IsTsCap (chain : JsDelegationChain) (asset : PyStr) (axis : Axis) (cap : Amount) : Prop :=
  ∃ link ∈ chain.links, ∃ s ∈ tsGrants asset link.scopes, cap ∈ tsCap s axis

/-- The rule of the documentation, on exact values. -/
structure TsPermitted (chain : JsDelegationChain) (asset : PyStr) (amount spent : ℚ) : Prop where
  nonempty : chain.links ≠ []
  links : ∀ link ∈ chain.links, (tsGrants asset link.scopes).Nonempty
  tx : ∀ cap, IsTsCap chain asset .tx cap → amount ≤ cap.toRat
  total : ∀ cap, IsTsCap chain asset .total cap → spent + amount ≤ cap.toRat

/-- A link sets a total cap for the asset. -/
def TotalCapped (chain : JsDelegationChain) (asset : PyStr) : Prop :=
  ∃ cap, IsTsCap chain asset .total cap

/-- A bound on all scopes of a chain is a bound on its caps. -/
theorem mem_lowerBounds_iff {chain : JsDelegationChain} {axis : Axis} {x : ℚ} :
    (x : WithTop ℚ) ∈ lowerBounds
        (tsBound axis '' chainGrants asset (chain.links.map JsDelegation.scopes)) ↔
      ∀ cap, IsTsCap chain asset axis cap → x ≤ cap.toRat := by
  constructor
  · rintro h cap ⟨link, hlink, s, hs, hcap⟩
    have hle := h ⟨s, ⟨link.scopes, List.mem_map_of_mem hlink, hs⟩, rfl⟩
    exact coe_le_capBound.mp hle cap hcap
  · rintro h _ ⟨s, ⟨_, hscopes, hs⟩, rfl⟩
    obtain ⟨link, hlink, rfl⟩ := List.mem_map.mp hscopes
    exact coe_le_capBound.mpr fun cap hcap => h cap ⟨link, hlink, s, hs, hcap⟩

/-- A chain without a cap sets no bound. -/
theorem top_mem_lowerBounds_iff {chain : JsDelegationChain} {axis : Axis} :
    ⊤ ∈ lowerBounds (tsBound axis '' chainGrants asset (chain.links.map JsDelegation.scopes)) ↔
      ¬ ∃ cap, IsTsCap chain asset axis cap := by
  constructor
  · rintro h ⟨cap, link, hlink, s, hs, hcap⟩
    have hle := h ⟨s, ⟨link.scopes, List.mem_map_of_mem hlink, hs⟩, rfl⟩
    rw [top_le_capBound.mp hle] at hcap
    exact absurd hcap (Option.not_mem_none cap)
  · rintro h _ ⟨s, ⟨_, hscopes, hs⟩, rfl⟩
    obtain ⟨link, hlink, rfl⟩ := List.mem_map.mp hscopes
    refine top_le_capBound.mpr (Option.eq_none_iff_forall_not_mem.mpr fun cap hcap => ?_)
    exact h ⟨cap, link, hlink, s, hs, hcap⟩

section Verdict

variable {chain : JsDelegationChain} {amount spent : AmountArg} {a b : Amount} {e : TsSpendScope}

/-- The check of the effective transaction cap is the check of every one. -/
theorem Stands.checkTx_iff
    (h : Stands asset (chainGrants asset (chain.links.map JsDelegation.scopes)) (some e)) :
    tsCheckTx asset a e.txCap = .ok () ↔
      ∀ cap, IsTsCap chain asset .tx cap → a.toRat ≤ cap.toRat := by
  rw [tsCheckTx_ok_iff, ← mem_lowerBounds_iff]
  exact le_isGLB_iff (h.isGLB e rfl .tx)

/-- So is the check of the effective total cap, which adds only under a cap. -/
theorem Stands.checkTotal_iff
    (h : Stands asset (chainGrants asset (chain.links.map JsDelegation.scopes)) (some e)) :
    tsCheckTotal asset a b e.totalCap = .ok () ↔
      (∀ cap, IsTsCap chain asset .total cap → b.toRat + a.toRat ≤ cap.toRat) ∧
        (TotalCapped chain asset → SumFits b a) := by
  have hbound := h.isGLB e rfl .total
  have hcapped : e.totalCap ≠ none ↔ TotalCapped chain asset := by
    rw [TotalCapped, ← not_not (a := ∃ cap, _), ← top_mem_lowerBounds_iff, ← le_isGLB_iff hbound]
    exact not_congr top_le_capBound.symm
  rw [tsCheckTotal_ok_iff, ← mem_lowerBounds_iff, hcapped]
  exact and_congr_left fun _ => le_isGLB_iff hbound

variable (ha : amount.toAmount = .ok a) (hb : spent.toAmount = .ok b)

include ha hb

/-- Without authority nothing is paid. -/
theorem not_tsVerify_of_none
    (h : tsComposeSpendAuthority (chain.links.map JsDelegation.scopes) asset = .ok none) :
    ¬ ∃ scope, tsVerify chain asset amount spent = .ok scope := by
  rw [tsVerify, ha, hb]
  show ¬ ∃ scope,
    (tsComposeSpendAuthority (chain.links.map JsDelegation.scopes) asset >>= _) = Except.ok scope
  rw [h]
  rintro ⟨_, hok⟩
  cases hok

/-- With it a payment passes both caps or is refused. -/
theorem tsVerify_ok_iff_checks
    (h : tsComposeSpendAuthority (chain.links.map JsDelegation.scopes) asset = .ok (some e)) :
    (∃ scope, tsVerify chain asset amount spent = .ok scope) ↔
      tsCheckTx asset a e.txCap = .ok () ∧ tsCheckTotal asset a b e.totalCap = .ok () := by
  rw [tsVerify, ha, hb]
  show (∃ scope,
    (tsComposeSpendAuthority (chain.links.map JsDelegation.scopes) asset >>= _) = _) ↔ _
  rw [h]
  constructor
  · rintro ⟨scope, hok⟩
    obtain ⟨htx, hok⟩ := seq_ok_iff.mp hok
    exact ⟨htx, (seq_ok_iff.mp hok).1⟩
  · rintro ⟨htx, htotal⟩
    exact ⟨e, seq_ok_iff.mpr ⟨htx, seq_ok_iff.mpr ⟨htotal, rfl⟩⟩⟩

/-- **WHEN A PAYMENT IS LET THROUGH**: the rule permits it and, under a total cap, its sum is an
    amount. -/
theorem tsVerify_ok_iff (hparses : chain.Parses) :
    (∃ scope, tsVerify chain asset amount spent = .ok scope) ↔
      TsPermitted chain asset a.toRat b.toRat ∧ (TotalCapped chain asset → SumFits b a) := by
  have hall : ∀ scopes ∈ chain.links.map JsDelegation.scopes, TsParses scopes :=
    List.forall_mem_map.mpr hparses
  rcases tsComposeSpendAuthority_cases hall with
    ⟨⟨_, hscopes, hempty⟩, hcompose⟩ | ⟨hlinks, r, hcompose, hstands⟩
  · -- a link without a scope for the asset voids the chain
    refine iff_of_false (not_tsVerify_of_none ha hb hcompose) ?_
    rintro ⟨hpermitted, -⟩
    obtain ⟨link, hlink, rfl⟩ := List.mem_map.mp hscopes
    exact (hpermitted.links link hlink).ne_empty hempty
  cases r with
  | none =>
      -- a chain without links
      refine iff_of_false (not_tsVerify_of_none ha hb hcompose) ?_
      rintro ⟨hpermitted, -⟩
      obtain ⟨link, hlink⟩ := List.exists_mem_of_ne_nil _ hpermitted.nonempty
      obtain ⟨s, hs⟩ := hpermitted.links link hlink
      have hmem : s ∈ chainGrants asset (chain.links.map JsDelegation.scopes) :=
        ⟨link.scopes, List.mem_map_of_mem hlink, hs⟩
      rw [hstands.none_iff.mp rfl] at hmem
      exact Set.notMem_empty s hmem
  | some e =>
      have hne : chain.links ≠ [] := by
        intro hnil
        rw [hnil, List.map_nil, chainGrants_nil] at hstands
        cases hstands.none_iff.mpr rfl
      rw [tsVerify_ok_iff_checks ha hb hcompose, hstands.checkTx_iff, hstands.checkTotal_iff]
      constructor
      · rintro ⟨htx, htotal, hfits⟩
        have hcarried : ∀ link ∈ chain.links, (tsGrants asset link.scopes).Nonempty :=
          fun link hlink => hlinks _ (List.mem_map_of_mem hlink)
        exact ⟨⟨hne, hcarried, htx, htotal⟩, hfits⟩
      · rintro ⟨hpermitted, hfits⟩
        exact ⟨hpermitted.tx, hpermitted.total, hfits⟩

end Verdict

/-- **WHEN `verify` IS THE RULE**: but for a permitted payment under a total cap whose sum has more
    than 40 characters. -/
theorem ts_verify_exact_iff (chain : JsDelegationChain) (asset : PyStr) (hparses : chain.Parses)
    (amount spent : AmountArg) (a b : Amount) (ha : amount.toAmount = .ok a)
    (hb : spent.toAmount = .ok b) :
    ((∃ scope, tsVerify chain asset amount spent = .ok scope) ↔
        TsPermitted chain asset a.toRat b.toRat) ↔
      (TsPermitted chain asset a.toRat b.toRat → TotalCapped chain asset → SumFits b a) := by
  rw [tsVerify_ok_iff ha hb hparses]
  exact ⟨fun h hpermitted => (h.mpr hpermitted).2, fun h => ⟨fun hand => hand.1,
    fun hpermitted => ⟨hpermitted, h hpermitted⟩⟩⟩

/-! ## Two payments -/

/-- A chain of one grant that carries one scope. -/
def tsSpendChain (scope : PyStr) : JsDelegationChain := ⟨[{ readGrant [] with scopes := [scope] }]⟩

section TsSpendChain

variable {scope : PyStr} {s : TsSpendScope} (hparsed : tsParseSpendScope scope = .ok s)

include hparsed

theorem parses_tsSpendChain : (tsSpendChain scope).Parses := by
  intro link hlink t ht _
  cases List.mem_singleton.mp hlink
  cases List.mem_singleton.mp ht
  exact ⟨s, hparsed⟩

theorem tsGrants_tsSpendChain {link : JsDelegation} (hlink : link ∈ (tsSpendChain scope).links) :
    tsGrants s.asset link.scopes = {s} := by
  cases List.mem_singleton.mp hlink
  show tsGrants s.asset [scope] = {s}
  rw [tsGrants_cons_of_ok hparsed rfl, tsGrants_nil, Set.union_empty]

theorem isTsCap_tsSpendChain {axis : Axis} {cap : Amount} :
    IsTsCap (tsSpendChain scope) s.asset axis cap ↔ cap ∈ tsCap s axis := by
  constructor
  · rintro ⟨link, hlink, t, ht, hcap⟩
    rw [tsGrants_tsSpendChain hparsed hlink] at ht
    rwa [← Set.mem_singleton_iff.mp ht]
  · intro hcap
    refine ⟨_, List.mem_singleton_self _, s, ?_, hcap⟩
    rw [tsGrants_tsSpendChain hparsed (List.mem_singleton_self _)]
    rfl

/-- Without a transaction cap the total cap decides. -/
theorem tsPermitted_tsSpendChain (htx : s.txCap = none) {cap : Amount} (hcap : s.totalCap = some cap)
    {amount spent : ℚ} (h : spent + amount ≤ cap.toRat) :
    TsPermitted (tsSpendChain scope) s.asset amount spent where
  nonempty := List.cons_ne_nil _ _
  links link hlink := by
    rw [tsGrants_tsSpendChain hparsed hlink]
    exact Set.singleton_nonempty s
  tx c hc := by
    have hmem : c ∈ s.txCap := (isTsCap_tsSpendChain hparsed).mp hc
    rw [htx] at hmem
    exact absurd hmem (Option.not_mem_none c)
  total c hc := by
    have hmem : c ∈ s.totalCap := (isTsCap_tsSpendChain hparsed).mp hc
    rw [hcap] at hmem
    cases hmem
    exact h

end TsSpendChain

/-- `1` -/
def one : Amount := ⟨py "1", by decide, by decide⟩

/-- `100` -/
def hundred : Amount := ⟨py "100", by decide, by decide⟩

/-- An amount with `p` places and the digits of `n`. -/
theorem toRat_of_parts {a : Amount} {n p : ℕ}
    (h : Amount.bigInt (a.parts.1 ++ a.parts.2) = n ∧ a.parts.2.length = p) :
    a.toRat = n * 10 ^ (-(p : ℤ)) := by
  rw [Amount.toRat, h.1, h.2]

theorem toRat_one : one.toRat = 1 := by
  rw [toRat_of_parts (n := 1) (p := 0) (by decide)]
  norm_num

theorem toRat_hundred : hundred.toRat = 100 := by
  rw [toRat_of_parts (n := 100) (p := 0) (by decide)]
  norm_num

theorem tsParse_hundred :
    tsParseSpendScope (py "pay:usd:total<=100") = .ok ⟨py "usd", none, some hundred⟩ := by
  rfl

/-- Under a cap of 100, one more on top of one is let through. -/
theorem ts_verify_exact_iff_hundred : ∃ scope, tsVerify (tsSpendChain (py "pay:usd:total<=100"))
    (py "usd") (.text (py "1")) (.text (py "1")) = .ok scope := by
  refine ((ts_verify_exact_iff _ (py "usd") (parses_tsSpendChain tsParse_hundred) _ _ one one
    (toAmount_text one) (toAmount_text one)).mpr fun _ _ => ?_).mpr ?_
  · have hplaces : places one one = 0 := by decide
    rw [SumFits, toRat_one, if_pos hplaces]
    norm_num
  · refine tsPermitted_tsSpendChain tsParse_hundred rfl rfl ?_
    rw [toRat_one, toRat_hundred]
    norm_num

/-- `10 ^ 21` -/
def wide : Amount := ⟨py "1000000000000000000000", by decide, by decide⟩

/-- `10 ^ 20 - 1` -/
def nines : Amount := ⟨py "99999999999999999999", by decide, by decide⟩

/-- `10 ^ -20` -/
def speck : Amount := ⟨py "0.00000000000000000001", by decide, by decide⟩

theorem toRat_wide : wide.toRat = 10 ^ 21 := by
  rw [toRat_of_parts (n := 10 ^ 21) (p := 0) (by decide)]
  norm_num

theorem toRat_nines : nines.toRat = 10 ^ 20 - 1 := by
  rw [toRat_of_parts (n := 10 ^ 20 - 1) (p := 0) (by decide)]
  norm_num

theorem toRat_speck : speck.toRat = 10 ^ (-20 : ℤ) := by
  rw [toRat_of_parts (n := 1) (p := 20) (by decide)]
  norm_num

theorem tsParse_wide : tsParseSpendScope (py "pay:usd:total<=1000000000000000000000")
    = .ok ⟨py "usd", none, some wide⟩ := by
  rfl

/-- A SUM OF 41 CHARACTERS: a payment far below the cap is refused. -/
theorem long_sum_refused :
    (tsSpendChain (py "pay:usd:total<=1000000000000000000000")).Parses ∧
      AmountArg.toAmount (.text speck.text) = .ok speck ∧
      AmountArg.toAmount (.text nines.text) = .ok nines ∧
      TsPermitted (tsSpendChain (py "pay:usd:total<=1000000000000000000000")) (py "usd")
        speck.toRat nines.toRat ∧
      ∀ scope, tsVerify (tsSpendChain (py "pay:usd:total<=1000000000000000000000")) (py "usd")
        (.text speck.text) (.text nines.text) ≠ .ok scope := by
  have hplaces : places nines speck = 20 := by decide
  have hpermitted : TsPermitted (tsSpendChain (py "pay:usd:total<=1000000000000000000000"))
      (py "usd") speck.toRat nines.toRat := by
    refine tsPermitted_tsSpendChain tsParse_wide rfl rfl ?_
    rw [toRat_wide, toRat_nines, toRat_speck]
    norm_num
  refine ⟨parses_tsSpendChain tsParse_wide, toAmount_text speck, toAmount_text nines, hpermitted,
    fun scope h => ?_⟩
  have hfits := ((tsVerify_ok_iff (toAmount_text speck) (toAmount_text nines)
    (parses_tsSpendChain tsParse_wide)).mp ⟨scope, h⟩).2
      ⟨wide, (isTsCap_tsSpendChain tsParse_wide).mpr rfl⟩
  rw [SumFits, hplaces, toRat_nines, toRat_speck] at hfits
  norm_num at hfits

end AgentTsSpendCaps
