import Mathlib.Algebra.Order.Floor.Ring
import Mathlib.Data.Rat.Floor
import Mathlib.Data.Int.Log
import Mathlib.Tactic.Linarith
import Mathlib.Tactic.FieldSimp
import Mathlib.Tactic.Ring
import Mathlib.Tactic.Positivity

/-!
# Rounding half to even

`halfEven` is the nearest integer with ties to the even neighbour, over any ordered field with
floors.  It fixes the integers and is monotone.  `roundSig b p emin` rounds to `p` significant
digits in base `b`, but never finer than `b ^ emin`: the value a floating decimal operation
returns.

* **`halfEven_natCast_div`** — on a quotient of naturals it is `divHalfEven`, integer
  arithmetic only.
* **`roundSig_natCast_mul_zpow_of_lt`** — on a coefficient and an exponent, `roundSig` drops
  digits by `divHalfEven`.
* **`roundSig_le_iff`** — a number rounds to a bound or below exactly up to the bound's
  `breakpoint`, half a unit past the digits of the bound that are kept.
-/

namespace AgentHalfEven

section Nearest

variable {α : Type*} [Field α] [LinearOrder α] [FloorRing α]

/-- The nearest integer, a tie going to the even neighbour. -/
def halfEven (x : α) : ℤ :=
  if 2 * Int.fract x < 1 then ⌊x⌋
  else if 1 < 2 * Int.fract x then ⌊x⌋ + 1
  else if Even ⌊x⌋ then ⌊x⌋
  else ⌊x⌋ + 1

/-- Rounding goes no further down than the floor. -/
theorem floor_le_halfEven (x : α) : ⌊x⌋ ≤ halfEven x := by
  simp only [halfEven]
  split_ifs <;> omega

/-- And no further up than the next integer. -/
theorem halfEven_le_floor_add_one (x : α) : halfEven x ≤ ⌊x⌋ + 1 := by
  simp only [halfEven]
  split_ifs <;> omega

variable [IsStrictOrderedRing α]

/-- An integer is rounded to itself. -/
@[simp] theorem halfEven_intCast (n : ℤ) : halfEven (n : α) = n := by
  simp [halfEven]

/-- **MONOTONE**: rounding never reverses an order. -/
theorem halfEven_mono {x y : α} (h : x ≤ y) : halfEven x ≤ halfEven y := by
  rcases (Int.floor_le_floor h).lt_or_eq with hlt | heq
  · calc halfEven x ≤ ⌊x⌋ + 1 := halfEven_le_floor_add_one x
      _ ≤ ⌊y⌋ := hlt
      _ ≤ halfEven y := floor_le_halfEven y
  · have hfract : Int.fract x ≤ Int.fract y := by
      rw [Int.fract, Int.fract, heq]
      linarith
    simp only [halfEven]
    rw [heq]
    split_ifs <;> first | omega | (exfalso; linarith)

/-- A number rounds to an integer or below up to half a unit past it; just there, when the integer
    is even. -/
theorem halfEven_le_iff {n : ℤ} {x : α} :
    halfEven x ≤ n ↔ x < n + 1 / 2 ∨ (x = n + 1 / 2 ∧ Even n) := by
  have hsplit : (⌊x⌋ : α) + Int.fract x = x := Int.floor_add_fract x
  have hlo := Int.fract_nonneg x
  have hhi := Int.fract_lt_one x
  rcases lt_trichotomy ⌊x⌋ n with hlt | rfl | hgt
  · have hcast : (⌊x⌋ : α) + 1 ≤ n := by exact_mod_cast hlt
    have := halfEven_le_floor_add_one x
    exact iff_of_true (by omega) (Or.inl (by linarith))
  · simp only [halfEven]
    split_ifs with h1 h2 h3
    · exact iff_of_true le_rfl (Or.inl (by linarith))
    · refine iff_of_false (by omega) ?_
      rintro (h | ⟨h, -⟩) <;> linarith
    · exact iff_of_true le_rfl (Or.inr ⟨by linarith, h3⟩)
    · refine iff_of_false (by omega) ?_
      rintro (h | ⟨-, h⟩)
      · linarith
      · exact h3 h
  · have hcast : (n : α) + 1 ≤ ⌊x⌋ := by exact_mod_cast hgt
    have := floor_le_halfEven x
    refine iff_of_false (by omega) ?_
    rintro (h | ⟨h, -⟩) <;> linarith

/-- Rounding a number that is at most an integer stays at most that integer. -/
theorem halfEven_le_of_le_intCast {n : ℤ} {x : α} (h : x ≤ n) : halfEven x ≤ n := by
  have := halfEven_mono h
  rwa [halfEven_intCast] at this

/-- Rounding a number that is at least an integer stays at least that integer. -/
theorem le_halfEven_of_intCast_le {n : ℤ} {x : α} (h : (n : α) ≤ x) : n ≤ halfEven x := by
  have := halfEven_mono h
  rwa [halfEven_intCast] at this

end Nearest

/-- `n / d` rounded half to even, on naturals. -/
def divHalfEven (n d : ℕ) : ℕ :=
  if 2 * (n % d) < d then n / d
  else if d < 2 * (n % d) then n / d + 1
  else if Even (n / d) then n / d
  else n / d + 1

section Digits

variable {α : Type*} [Field α] [LinearOrder α] [IsStrictOrderedRing α] [FloorRing α]

theorem floor_natCast_div_natCast (n d : ℕ) : ⌊(n : α) / d⌋ = ((n / d : ℕ) : ℤ) := by
  rw [Int.floor_div_natCast, Int.floor_natCast, Int.natCast_div]

theorem fract_natCast_div_natCast {n d : ℕ} (hd : 0 < d) :
    Int.fract ((n : α) / d) = ((n % d : ℕ) : α) / d := by
  have hd' : (d : α) ≠ 0 := by positivity
  have hn : (n : α) = d * ((n / d : ℕ) : α) + ((n % d : ℕ) : α) := by
    exact_mod_cast (Nat.div_add_mod n d).symm
  rw [Int.fract, floor_natCast_div_natCast, Int.cast_natCast]
  field_simp
  linarith

/-- On naturals the nearest integer is computed by quotient and remainder. -/
theorem halfEven_natCast_div {n d : ℕ} (hd : 0 < d) :
    halfEven ((n : α) / d) = (divHalfEven n d : ℕ) := by
  have hd' : (0 : α) < d := by exact_mod_cast hd
  have hlt : 2 * Int.fract ((n : α) / d) < 1 ↔ 2 * (n % d) < d := by
    rw [fract_natCast_div_natCast hd, mul_div_assoc', div_lt_one hd']
    exact_mod_cast Iff.rfl
  have hgt : 1 < 2 * Int.fract ((n : α) / d) ↔ d < 2 * (n % d) := by
    rw [fract_natCast_div_natCast hd, mul_div_assoc', one_lt_div hd']
    exact_mod_cast Iff.rfl
  simp only [halfEven, divHalfEven]
  rw [floor_natCast_div_natCast]
  simp only [hlt, hgt, Int.even_coe_nat]
  split_ifs <;> rfl

/-- The exponent of the last digit kept when rounding to `p` digits, never below `emin`. -/
def sigExp (b p : ℕ) (emin : ℤ) (x : α) : ℤ := max (Int.log b x + 1 - p) emin

/-- `x` rounded half to even to `p` significant digits, never finer than `b ^ emin`. -/
def roundSig (b p : ℕ) (emin : ℤ) (x : α) : α :=
  halfEven (x / (b : α) ^ sigExp b p emin x) * (b : α) ^ sigExp b p emin x

/-- A coefficient whose last digit is kept is not changed. -/
theorem roundSig_natCast_mul_zpow_of_le {b p : ℕ} {emin : ℤ} (hb : 1 < b) (c : ℕ) (e : ℤ)
    (he : sigExp b p emin ((c : α) * (b : α) ^ e) ≤ e) :
    roundSig b p emin ((c : α) * (b : α) ^ e) = (c : α) * (b : α) ^ e := by
  have hb0 : (b : α) ≠ 0 := by positivity
  set E := sigExp b p emin ((c : α) * (b : α) ^ e) with hE
  obtain ⟨k, hk⟩ := Int.eq_ofNat_of_zero_le (sub_nonneg.mpr he)
  have hquot : (c : α) * (b : α) ^ e / (b : α) ^ E = ((c * b ^ k : ℕ) : ℤ) := by
    rw [mul_div_assoc, ← zpow_sub₀ hb0, hk]
    push_cast
    rw [zpow_natCast]
  simp only [roundSig]
  rw [← hE, hquot, halfEven_intCast, ← hquot]
  field_simp

/-- A coefficient with digits below the last one kept loses them, half to even. -/
theorem roundSig_natCast_mul_zpow_of_lt {b p : ℕ} {emin : ℤ} (hb : 1 < b) (c : ℕ) (e : ℤ)
    (he : e < sigExp b p emin ((c : α) * (b : α) ^ e)) :
    roundSig b p emin ((c : α) * (b : α) ^ e)
      = (divHalfEven c (b ^ (sigExp b p emin ((c : α) * (b : α) ^ e) - e).toNat) : ℕ)
        * (b : α) ^ sigExp b p emin ((c : α) * (b : α) ^ e) := by
  have hb0 : (b : α) ≠ 0 := by positivity
  set E := sigExp b p emin ((c : α) * (b : α) ^ e) with hE
  obtain ⟨k, hk⟩ := Int.eq_ofNat_of_zero_le (sub_nonneg.mpr he.le)
  have hquot : (c : α) * (b : α) ^ e / (b : α) ^ E = (c : α) / ((b ^ k : ℕ) : α) := by
    have hEe : E = e + k := by omega
    rw [hEe, zpow_add₀ hb0, zpow_natCast]
    push_cast
    field_simp
  simp only [roundSig]
  rw [← hE, hquot, halfEven_natCast_div (by positivity), hk]
  push_cast
  rfl

/-- Rounding keeps the leading digit's place. -/
theorem zpow_log_le_roundSig {b p : ℕ} {emin : ℤ} (hb : 1 < b) (hp : 0 < p) {x : α} (hx : 0 < x)
    (he : emin ≤ Int.log b x) : (b : α) ^ Int.log b x ≤ roundSig b p emin x := by
  have hb0 : (0 : α) < b := by positivity
  have hE : sigExp b p emin x ≤ Int.log b x := by
    simp only [sigExp]
    omega
  obtain ⟨k, hk⟩ := Int.eq_ofNat_of_zero_le (sub_nonneg.mpr hE)
  have hgrid : (((b ^ k : ℕ) : ℤ) : α) ≤ x / (b : α) ^ sigExp b p emin x := by
    rw [le_div_iff₀ (zpow_pos hb0 _)]
    push_cast
    rw [← zpow_natCast, ← zpow_add₀ hb0.ne', show (k : ℤ) + sigExp b p emin x = Int.log b x by omega]
    exact Int.zpow_log_le_self hb hx
  have hround : (((b ^ k : ℕ) : ℤ) : α) ≤ (halfEven (x / (b : α) ^ sigExp b p emin x) : α) :=
    Int.cast_le.mpr (le_halfEven_of_intCast_le hgrid)
  calc (b : α) ^ Int.log b x
      = (((b ^ k : ℕ) : ℤ) : α) * (b : α) ^ sigExp b p emin x := by
        push_cast
        rw [← zpow_natCast, ← zpow_add₀ hb0.ne',
          show (k : ℤ) + sigExp b p emin x = Int.log b x by omega]
    _ ≤ roundSig b p emin x :=
        mul_le_mul_of_nonneg_right hround (zpow_pos hb0 _).le

/-- The leading place of a coefficient and an exponent. -/
theorem log_natCast_mul_zpow {b : ℕ} (hb : 1 < b) {c : ℕ} (hc : c ≠ 0) (e : ℤ) :
    Int.log b ((c : α) * (b : α) ^ e) = Nat.log b c + e := by
  have hb0 : (0 : α) < b := by positivity
  have hc0 : (0 : α) < c := by exact_mod_cast Nat.pos_of_ne_zero hc
  refine eq_of_forall_le_iff fun z => ?_
  rw [← Int.zpow_le_iff_le_log hb (mul_pos hc0 (zpow_pos hb0 e)), ← sub_le_iff_le_add,
    ← Int.log_natCast (R := α), ← Int.zpow_le_iff_le_log hb hc0, zpow_sub₀ hb0.ne',
    div_le_iff₀ (zpow_pos hb0 e)]

/-- The place a coefficient and an exponent are rounded at. -/
theorem sigExp_natCast_mul_zpow {b p : ℕ} {emin : ℤ} (hb : 1 < b) {c : ℕ} (hc : c ≠ 0) (e : ℤ) :
    sigExp b p emin ((c : α) * (b : α) ^ e) = max (Nat.log b c + 1 + e - p) emin := by
  rw [sigExp, log_natCast_mul_zpow hb hc]
  congr 1
  ring

/-- A rounded quotient is at most one over the quotient. -/
theorem divHalfEven_le (n d : ℕ) : divHalfEven n d ≤ n / d + 1 := by
  simp only [divHalfEven]
  split_ifs <;> omega

/-- A number is rounded at a place or a finer one when it is below the power that needs a coarser
    one. -/
theorem sigExp_le_iff {b p : ℕ} {emin E : ℤ} (hb : 1 < b) {x : α} (hx : 0 < x) (hE : emin ≤ E) :
    sigExp b p emin x ≤ E ↔ x < (b : α) ^ (E + p) := by
  rw [Int.lt_zpow_iff_log_lt hb hx, sigExp, max_le_iff]
  omega

/-- Where a bound's last kept digit stands: zero has no leading digit, so there it is the finest. -/
def lastPlace (b p : ℕ) (emin : ℤ) (k : α) : ℤ := if k = 0 then emin else sigExp b p emin k

omit [IsStrictOrderedRing α] in
theorem le_lastPlace (b p : ℕ) (emin : ℤ) (k : α) : emin ≤ lastPlace b p emin k := by
  simp only [lastPlace]
  split_ifs
  · exact le_rfl
  · exact le_max_right _ _

/-- A bound lies below the first number that is rounded at a coarser place. -/
theorem lt_zpow_lastPlace {b p : ℕ} {emin : ℤ} (hb : 1 < b) {k : α} (hk : 0 ≤ k) :
    k < (b : α) ^ (lastPlace b p emin k + p) := by
  have hb0 : (0 : α) < b := by positivity
  simp only [lastPlace]
  split_ifs with h
  · rw [h]
    exact zpow_pos hb0 _
  · exact (sigExp_le_iff hb (lt_of_le_of_ne hk (Ne.symm h)) (le_max_right _ _)).mp le_rfl

/-- The digits of a bound that are kept. -/
def keptDigits (b p : ℕ) (emin : ℤ) (k : α) : ℤ := ⌊k / (b : α) ^ lastPlace b p emin k⌋

/-- Half a unit past the kept digits of a bound: where rounding starts to go above it. -/
def breakpoint (b p : ℕ) (emin : ℤ) (k : α) : α :=
  (keptDigits b p emin k + 1 / 2) * (b : α) ^ lastPlace b p emin k

theorem roundSig_zero (b p : ℕ) (emin : ℤ) : roundSig b p emin (0 : α) = 0 := by
  have h : halfEven ((0 : ℤ) : α) = 0 := halfEven_intCast 0
  rw [roundSig, zero_div, ← Int.cast_zero, h, Int.cast_zero, zero_mul]

section Bound

variable {b p : ℕ} {emin : ℤ} (hb : 1 < b)

include hb

/-- The digits kept of a bound are at most it. -/
theorem keptDigits_mul_le (k : α) :
    (keptDigits b p emin k : α) * (b : α) ^ lastPlace b p emin k ≤ k := by
  have hb0 : (0 : α) < b := by positivity
  exact (le_div_iff₀ (zpow_pos hb0 _)).mp (Int.floor_le _)

/-- One more of the last place is over it. -/
theorem lt_keptDigits_add_one_mul (k : α) :
    k < ((keptDigits b p emin k + 1 : ℤ) : α) * (b : α) ^ lastPlace b p emin k := by
  have hb0 : (0 : α) < b := by positivity
  have h := Int.lt_floor_add_one (k / (b : α) ^ lastPlace b p emin k)
  rw [div_lt_iff₀ (zpow_pos hb0 _)] at h
  rw [Int.cast_add, Int.cast_one]
  exact h

/-- One more unit still has at most `p` digits. -/
theorem keptDigits_lt {k : α} (hk : 0 ≤ k) : keptDigits b p emin k < (b : ℤ) ^ p := by
  have hb0 : (0 : α) < b := by positivity
  rw [keptDigits, Int.floor_lt, div_lt_iff₀ (zpow_pos hb0 _)]
  push_cast
  rw [← zpow_natCast, ← zpow_add₀ hb0.ne', add_comm]
  exact lt_zpow_lastPlace hb hk

/-- A point of a grid is a point of every finer grid. -/
theorem exists_finer_grid (n : ℤ) {E F : ℤ} (h : F ≤ E) :
    ∃ m : ℤ, (n : α) * (b : α) ^ E = m * (b : α) ^ F := by
  have hb0 : (0 : α) < b := by positivity
  obtain ⟨j, hj⟩ := Int.eq_ofNat_of_zero_le (sub_nonneg.mpr h)
  refine ⟨n * b ^ j, ?_⟩
  push_cast
  rw [mul_assoc, ← zpow_natCast, ← zpow_add₀ hb0.ne']
  congr 2
  omega

/-- On a grid no finer than the digits kept, rounding does not pass a grid point. -/
theorem grid_le_roundSig {E n : ℤ} {x : α} (hE : sigExp b p emin x ≤ E)
    (h : (n : α) * (b : α) ^ E ≤ x) : (n : α) * (b : α) ^ E ≤ roundSig b p emin x := by
  have hb0 : (0 : α) < b := by positivity
  obtain ⟨m, hgrid⟩ : ∃ m : ℤ, (n : α) * (b : α) ^ E = m * (b : α) ^ sigExp b p emin x :=
    exists_finer_grid hb n hE
  rw [hgrid] at h ⊢
  refine mul_le_mul_of_nonneg_right (Int.cast_le.mpr ?_) (zpow_pos hb0 _).le
  exact le_halfEven_of_intCast_le ((le_div_iff₀ (zpow_pos hb0 _)).mpr h)

/-- Under a number of the grid nothing rounds to more than it. -/
theorem roundSig_le_grid {E n : ℤ} {x : α} (hE : sigExp b p emin x ≤ E)
    (h : x ≤ (n : α) * (b : α) ^ E) : roundSig b p emin x ≤ (n : α) * (b : α) ^ E := by
  have hb0 : (0 : α) < b := by positivity
  obtain ⟨m, hgrid⟩ : ∃ m : ℤ, (n : α) * (b : α) ^ E = m * (b : α) ^ sigExp b p emin x :=
    exists_finer_grid hb n hE
  rw [hgrid] at h ⊢
  refine mul_le_mul_of_nonneg_right (Int.cast_le.mpr ?_) (zpow_pos hb0 _).le
  exact halfEven_le_of_le_intCast ((div_le_iff₀ (zpow_pos hb0 _)).mpr h)

/-- Below that power a number is rounded at the place of the bound or a finer one. -/
theorem sigExp_le_lastPlace {x k : α} (hx : 0 < x)
    (h : x < (b : α) ^ (lastPlace b p emin k + p)) :
    sigExp b p emin x ≤ lastPlace b p emin k :=
  (sigExp_le_iff hb hx (le_lastPlace b p emin k)).mpr h

/-- The next number of the grid is no higher than that power. -/
theorem keptDigits_add_one_mul_le {k : α} (hk : 0 ≤ k) :
    ((keptDigits b p emin k + 1 : ℤ) : α) * (b : α) ^ lastPlace b p emin k
      ≤ (b : α) ^ (lastPlace b p emin k + p) := by
  have hb0 : (0 : α) < b := by positivity
  have h : ((keptDigits b p emin k + 1 : ℤ) : α) ≤ (b : α) ^ p := by
    exact_mod_cast keptDigits_lt hb hk
  rw [zpow_add₀ hb0.ne', zpow_natCast, mul_comm]
  exact mul_le_mul_of_nonneg_left h (zpow_pos hb0 _).le

/-- Between the kept digits of a bound and one unit more, rounding keeps the same places. -/
theorem sigExp_eq_lastPlace (hp : 0 < p) {x k : α} (hx : 0 < x) (hk : 0 ≤ k)
    (hlo : (keptDigits b p emin k : α) * (b : α) ^ lastPlace b p emin k ≤ x)
    (hhi : x < ((keptDigits b p emin k + 1 : ℤ) : α) * (b : α) ^ lastPlace b p emin k) :
    sigExp b p emin x = lastPlace b p emin k := by
  have hb0 : (0 : α) < b := by positivity
  refine le_antisymm
    (sigExp_le_lastPlace hb hx (hhi.trans_le (keptDigits_add_one_mul_le hb hk))) ?_
  by_contra hlt
  set E := lastPlace b p emin k with hE
  have hemin : emin ≤ E - 1 := by
    have : emin ≤ sigExp b p emin x := le_max_right _ _
    omega
  have hk0 : k ≠ 0 := by
    intro h0
    rw [lastPlace, if_pos h0] at hE
    omega
  have hsig : E = sigExp b p emin k := by rw [hE, lastPlace, if_neg hk0]
  have hxlt : x < (b : α) ^ (E - 1 + p) := (sigExp_le_iff hb hx hemin).mp (by omega)
  -- the bound has a digit at that place, so its kept digits reach it
  have hkge : (b : α) ^ (E - 1 + p) ≤ k := by
    rw [← not_lt, ← sigExp_le_iff hb (lt_of_le_of_ne hk (Ne.symm hk0)) hemin]
    omega
  have hpow : (b : α) ^ (E - 1 + p) = ((b ^ (p - 1) : ℕ) : ℤ) * (b : α) ^ E := by
    push_cast
    rw [← zpow_natCast, ← zpow_add₀ hb0.ne']
    congr 1
    omega
  have hq : ((b ^ (p - 1) : ℕ) : ℤ) ≤ keptDigits b p emin k := by
    rw [keptDigits, ← hE, Int.le_floor, le_div_iff₀ (zpow_pos hb0 _), ← hpow]
    exact hkge
  have hle : (b : α) ^ (E - 1 + p) ≤ x := by
    rw [hpow]
    exact (mul_le_mul_of_nonneg_right (Int.cast_le.mpr hq) (zpow_pos hb0 _).le).trans hlo
  exact absurd hxlt (not_lt.mpr hle)

theorem keptDigits_nonneg {k : α} (hk : 0 ≤ k) : 0 ≤ keptDigits b p emin k := by
  have hb0 : (0 : α) < b := by positivity
  exact Int.floor_nonneg.mpr (div_nonneg hk (zpow_pos hb0 _).le)

/-- **WHERE ROUNDING CROSSES A BOUND**: a number rounds to a bound or below exactly up to the
    bound's breakpoint, and just there when the kept digits are even. -/
theorem roundSig_le_iff (hp : 0 < p) {x k : α} (hx : 0 ≤ x) (hk : 0 ≤ k) :
    roundSig b p emin x ≤ k ↔ x < breakpoint b p emin k ∨
      (x = breakpoint b p emin k ∧ Even (keptDigits b p emin k)) := by
  have hb0 : (0 : α) < b := by positivity
  have hu : (0 : α) < (b : α) ^ lastPlace b p emin k := zpow_pos hb0 _
  have hq : (0 : α) ≤ keptDigits b p emin k := by exact_mod_cast keptDigits_nonneg hb hk
  have hle : (keptDigits b p emin k : α) * (b : α) ^ lastPlace b p emin k ≤ k :=
    keptDigits_mul_le hb k
  have hlt : k < ((keptDigits b p emin k + 1 : ℤ) : α) * (b : α) ^ lastPlace b p emin k :=
    lt_keptDigits_add_one_mul hb k
  rcases hx.eq_or_lt with rfl | hx
  · rw [roundSig_zero]
    exact iff_of_true hk (Or.inl (by unfold breakpoint; positivity))
  -- below the kept digits, within one unit of them, or above
  rcases lt_or_ge x (keptDigits b p emin k * (b : α) ^ lastPlace b p emin k) with hlow | hlow
  · have hsig : sigExp b p emin x ≤ lastPlace b p emin k :=
      sigExp_le_lastPlace hb hx ((hlow.trans_le hle).trans (lt_zpow_lastPlace hb hk))
    refine iff_of_true ((roundSig_le_grid hb hsig hlow.le).trans hle) (Or.inl ?_)
    simp only [breakpoint]
    linarith [mul_pos (show (0 : α) < 1 / 2 by norm_num) hu]
  rcases lt_or_ge x (((keptDigits b p emin k + 1 : ℤ) : α) * (b : α) ^ lastPlace b p emin k)
    with hhigh | hhigh
  · have hsig := sigExp_eq_lastPlace hb hp hx hk hlow hhigh
    have hround : roundSig b p emin x ≤ k ↔
        halfEven (x / (b : α) ^ lastPlace b p emin k) ≤ keptDigits b p emin k := by
      rw [roundSig, hsig, ← le_div_iff₀ hu, keptDigits, Int.le_floor]
    rw [hround, halfEven_le_iff, div_lt_iff₀ hu, div_eq_iff hu.ne', breakpoint]
  · have hbreak : breakpoint b p emin k < x := by
      rw [Int.cast_add, Int.cast_one] at hhigh
      simp only [breakpoint]
      linarith
    refine iff_of_false (not_le.mpr (hlt.trans_le ?_)) ?_
    · by_cases hsig : sigExp b p emin x ≤ lastPlace b p emin k
      · exact grid_le_roundSig hb hsig hhigh
      · -- the number has more digits than the bound, and rounding keeps its leading place
        rw [sigExp_le_iff hb hx (le_lastPlace b p emin k), not_lt, Int.zpow_le_iff_le_log hb hx]
          at hsig
        have hemin := le_lastPlace b p emin k
        calc ((keptDigits b p emin k + 1 : ℤ) : α) * (b : α) ^ lastPlace b p emin k
            ≤ (b : α) ^ (lastPlace b p emin k + p) := keptDigits_add_one_mul_le hb hk
          _ ≤ (b : α) ^ Int.log b x := zpow_le_zpow_right₀ (by exact_mod_cast hb.le) hsig
          _ ≤ roundSig b p emin x := zpow_log_le_roundSig hb hp hx (by omega)
    · rintro (h | ⟨h, -⟩) <;> linarith

end Bound

end Digits

end AgentHalfEven
