import AgentId.Json
import AgentId.SpendGrammar

/-!
# Rendering a spend scope (`spend.py`)

`render` writes each cap as `str` writes a decimal, which turns to an exponent below a millionth;
the grammar has no exponents.

* **`parse_render`** — a scope whose caps are written without one parses to itself.
* **`render_roundtrips_iff`** — of scopes parsed and intersected, exactly these survive.
-/

namespace AgentSpendRender

open AgentPy AgentPositional AgentJson AgentDecimal AgentSpend AgentSpendAuthority
  AgentTokenLanguage AgentSpendGrammar

/-! ## `str` of a decimal -/

/-- `"%+d" % n` -/
def signedText (n : ℤ) : PyStr := (if n < 0 then py "-" else py "+") ++ natText n.natAbs

/-- `leftdigits`: the digits before the point, without an exponent. -/
def leftDigits (d : Decimal) : ℤ := d.exp + (natText d.coeff).length

/-- `dotplace`: the digits before the point, as it is written. -/
def dotPlace (d : Decimal) : ℤ := if d.exp ≤ 0 ∧ -6 < leftDigits d then leftDigits d else 1

/-- The digits with the point at this place, behind zeros or before them where they do not reach. -/
def pointAt (place : ℤ) (digits : PyStr) : PyStr :=
  if place ≤ 0 then py "0." ++ List.replicate (-place).toNat (codePoint '0') ++ digits
  else if digits.length ≤ place then
    digits ++ List.replicate (place - digits.length).toNat (codePoint '0')
  else digits.take place.toNat ++ py "." ++ digits.drop place.toNat

/-- `str(d)` -/
def decimalText (d : Decimal) : PyStr :=
  (if d.negative then py "-" else []) ++ pointAt (dotPlace d) (natText d.coeff) ++
    if leftDigits d = dotPlace d then [] else py "E" ++ signedText (leftDigits d - dotPlace d)

/-- The segment of one cap, if there is one. -/
def capSegment (text : PyStr) : Option Decimal → List PyStr
  | none => []
  | some d => [text ++ decimalText d]

/-- `SpendScope.render` -/
def render (s : SpendScope) : PyStr :=
  (py ":").intercalate ([spendPrefix, s.asset] ++ capSegment txCapPrefix s.txCap
    ++ capSegment totalCapPrefix s.totalCap)

/-! ## Digits -/

/-- A number is written in digits. -/
theorem isRun_natText (n : ℕ) : IsRun isDigit (natText n) := by
  refine ⟨fun h => Nat.toDigits_ne_nil (List.map_eq_nil_iff.mp h), fun c hc => ?_⟩
  obtain ⟨ch, hch, rfl⟩ := List.mem_map.mp hc
  have hdigit := Nat.isDigit_of_mem_toDigits (by decide) (by decide) hch
  simp only [Char.isDigit, Bool.and_eq_true, decide_eq_true_eq] at hdigit
  rw [isDigit, Bool.and_eq_true, decide_eq_true_eq, decide_eq_true_eq]
  exact hdigit

theorem length_natText_pos (n : ℕ) : 0 < (natText n).length :=
  List.length_pos_iff.mpr (isRun_natText n).1

/-- The digits of a number denote it. -/
theorem value_natText (n : ℕ) : value 10 ((natText n).map digitValue) = n := by
  have hfold : ∀ (cs : List Char) (init : ℕ),
      (cs.map (digitValue ∘ codePoint)).foldl (fun n d => n * 10 + d) init
        = Nat.ofDigitChars 10 cs init := by
    intro cs
    induction cs with
    | nil => exact fun init => Nat.ofDigitChars_nil.symm
    | cons c cs ih =>
        intro init
        rw [Nat.ofDigitChars_cons, ← ih, mul_comm 10 init]
        rfl
  rw [natText, List.map_map, value, hfold]
  exact Nat.ofDigitChars_ten_toDigits

/-- A numeral is no shorter than the number. -/
theorem length_natText_le {n k : ℕ} (hk : 0 < k) : (natText n).length ≤ k ↔ n < 10 ^ k := by
  rw [natText, List.length_map]
  exact Nat.length_toDigits_le_iff (by decide) hk

/-- Zeros in front change no number. -/
theorem value_append_digits (w : PyStr) {n : ℕ} (hw : ∀ c ∈ w, digitValue c = 0) :
    value 10 ((w ++ natText n).map digitValue) = n := by
  have hzeros : w.map digitValue = List.replicate w.length 0 :=
    List.eq_replicate_iff.mpr ⟨List.length_map _, fun d hd => by
      obtain ⟨c, hc, rfl⟩ := List.mem_map.mp hd
      exact hw c hc⟩
  rw [List.map_append, hzeros, value_replicate_zero_append, value_natText]

/-! ## Where no exponent is written -/

/-- A cap of a millionth or more, or a zero of at most six places. -/
def Plain (d : Decimal) : Prop := (d.coeff = 0 ∧ -6 ≤ d.exp) ∨ 1 / 10 ^ 6 ≤ d.toRat

/-- The point of a zero. -/
theorem leftDigits_zero {d : Decimal} (h : d.coeff = 0) : leftDigits d = d.exp + 1 := by
  rw [leftDigits, h]
  rfl

/-- The number of digits places a number between two powers of ten. -/
theorem magnitude_between {d : Decimal} (h : d.coeff ≠ 0) :
    (10 : ℚ) ^ (leftDigits d - 1) ≤ d.magnitude ∧ d.magnitude < 10 ^ leftDigits d := by
  set n := (natText d.coeff).length with hn
  have hpos : 0 < n := length_natText_pos d.coeff
  have hhigh : d.coeff < 10 ^ n := (length_natText_le hpos).mp le_rfl
  have hlow : 10 ^ (n - 1) ≤ d.coeff := by
    by_contra hlt
    rw [not_le] at hlt
    rcases Nat.eq_zero_or_pos (n - 1) with hzero | hone
    · rw [hzero, pow_zero] at hlt
      exact h (Nat.lt_one_iff.mp hlt)
    · have := (length_natText_le hone).mpr hlt
      omega
  have hscale : (0 : ℚ) < 10 ^ d.exp := zpow_pos (by norm_num) _
  have hleft : leftDigits d = (n : ℤ) + d.exp := by rw [leftDigits, add_comm]
  constructor
  · calc (10 : ℚ) ^ (leftDigits d - 1) = ((10 ^ (n - 1) : ℕ) : ℚ) * 10 ^ d.exp := by
          rw [hleft, Nat.cast_pow, ← zpow_natCast, Nat.cast_ofNat, ← zpow_add₀ (by norm_num)]
          congr 1
          omega
      _ ≤ d.magnitude := mul_le_mul_of_nonneg_right (by exact_mod_cast hlow) hscale.le
  · calc d.magnitude < ((10 ^ n : ℕ) : ℚ) * 10 ^ d.exp :=
          mul_lt_mul_of_pos_right (by exact_mod_cast hhigh) hscale
      _ = 10 ^ leftDigits d := by
          rw [hleft, Nat.cast_pow, ← zpow_natCast, Nat.cast_ofNat, zpow_add₀ (by norm_num)]

/-- **NO EXPONENT IS WRITTEN** for exactly the plain ones. -/
theorem plain_iff {d : Decimal} (hsign : d.negative = false) : Plain d ↔ -6 < leftDigits d := by
  have hvalue : d.toRat = d.magnitude := by rw [d.toRat_of_magnitude, hsign]; rfl
  rw [Plain, hvalue]
  rcases eq_or_ne d.coeff 0 with hzero | hne
  · have hmag : ¬ (1 : ℚ) / 10 ^ 6 ≤ d.magnitude := by
      rw [Decimal.magnitude, hzero]
      norm_num
    rw [leftDigits_zero hzero]
    constructor
    · rintro (h | h)
      · omega
      · exact absurd h hmag
    · exact fun h => Or.inl ⟨hzero, by omega⟩
  · have hpow : (1 : ℚ) / 10 ^ 6 = 10 ^ (-6 : ℤ) := by norm_num
    obtain ⟨hlow, hhigh⟩ := magnitude_between hne
    rw [hpow]
    constructor
    · rintro (h | h)
      · exact absurd h.1 hne
      · exact (zpow_lt_zpow_iff_right₀ (by norm_num)).mp (h.trans_lt hhigh)
    · intro h
      refine Or.inr (le_trans ?_ hlow)
      exact zpow_le_zpow_right₀ (by norm_num) (by omega)

/-- A written exponent shows. -/
theorem exponent_mem {d : Decimal} (h : leftDigits d ≤ -6) : codePoint 'E' ∈ decimalText d := by
  have hplace : dotPlace d = 1 := if_neg fun ⟨_, hleft⟩ => by omega
  have hne : leftDigits d ≠ dotPlace d := by omega
  rw [decimalText, if_neg hne]
  exact List.mem_append_right _ (List.mem_append_left _ (by decide))

/-! ## An amount as it is written again -/

/-- **THE POINT STANDS WHERE IT DID**: the digits around it are those of the number. -/
theorem pointAt_digits {d : Decimal} (hexp : d.exp ≤ 0) :
    ∃ whole fraction, digits? (pointAt (leftDigits d) (natText d.coeff)) = some (whole, fraction) ∧
      value 10 ((whole ++ fraction).map digitValue) = d.coeff ∧ d.exp = -fraction.length := by
  have hrun := isRun_natText d.coeff
  have hleft : leftDigits d = d.exp + (natText d.coeff).length := rfl
  simp only [pointAt]
  split_ifs with hzero hlong
  · -- `0.` and zeros, then all the digits
    refine ⟨py "0", List.replicate (-leftDigits d).toNat (codePoint '0') ++ natText d.coeff,
      digits?_eq_some_iff.mpr ⟨isRun_natText 0, Or.inr ⟨?_, rfl⟩⟩, ?_, ?_⟩
    · refine ⟨List.append_ne_nil_of_right_ne_nil _ hrun.1, fun c hc => ?_⟩
      rcases List.mem_append.mp hc with hc | hc
      · rw [List.eq_of_mem_replicate hc]
        decide
      · exact hrun.2 c hc
    · rw [← List.append_assoc]
      refine value_append_digits _ fun c hc => ?_
      rcases List.mem_append.mp hc with hc | hc
      · rw [List.mem_singleton.mp hc]
        decide
      · rw [List.eq_of_mem_replicate hc]
        decide
    · rw [List.length_append, List.length_replicate]
      omega
  · -- no fraction
    have hexp0 : d.exp = 0 := by omega
    have hnone : (leftDigits d - ((natText d.coeff).length : ℤ)).toNat = 0 := by omega
    rw [hnone, List.replicate_zero, List.append_nil]
    refine ⟨natText d.coeff, [], digits?_eq_some_iff.mpr ⟨hrun, Or.inl ⟨rfl, rfl⟩⟩, ?_, ?_⟩
    · rw [List.append_nil, value_natText]
    · rw [hexp0]
      rfl
  · -- the point stands inside the digits
    have hlt : (leftDigits d).toNat < (natText d.coeff).length := by omega
    have hpos : 0 < (leftDigits d).toNat := by omega
    refine ⟨(natText d.coeff).take (leftDigits d).toNat, (natText d.coeff).drop (leftDigits d).toNat,
      digits?_eq_some_iff.mpr ⟨⟨?_, ?_⟩, Or.inr ⟨⟨?_, ?_⟩, ?_⟩⟩, ?_, ?_⟩
    · rw [← List.length_pos_iff, List.length_take]
      omega
    · exact fun c hc => hrun.2 c (List.mem_of_mem_take hc)
    · rw [← List.length_pos_iff, List.length_drop]
      omega
    · exact fun c hc => hrun.2 c (List.mem_of_mem_drop hc)
    · rw [List.append_assoc]
      rfl
    · rw [List.take_append_drop, value_natText]
    · rw [List.length_drop]
      omega

/-- What a parsed amount is: digits within 40 characters, the point counted. -/
theorem size_of_parseAmount {text : PyStr} {d : Decimal} (h : parseAmount text = .ok d) :
    d.negative = false ∧ d.exp ≤ 0 ∧ ∃ places : ℕ, d.exp = -places ∧
      (natText d.coeff).length ≤ maxAmountChars ∧
      (0 < places → places + 2 ≤ maxAmountChars ∧
        (natText d.coeff).length + 1 ≤ maxAmountChars) := by
  obtain ⟨hlen, whole, fraction, hdigits, rfl⟩ := parseAmount_ok_iff_digits.mp h
  have hchomp := length_chomp_le text
  obtain ⟨hwhole, hshape⟩ := digits?_eq_some_iff.mp hdigits
  have hpos : 0 < whole.length := List.length_pos_iff.mpr hwhole.1
  have hdigit : ∀ c ∈ whole ++ fraction, isDigit c = true := (digits_of_amount hdigits).1
  have hvalue := value_digits_lt hdigit
  rw [List.length_append] at hvalue
  have hnat := (length_natText_le (by omega)).mpr hvalue
  have hcoeff : (decimalOf whole fraction).coeff = value 10 ((whole ++ fraction).map digitValue) := rfl
  refine ⟨rfl, Int.neg_nonpos_of_nonneg (Int.natCast_nonneg _), fraction.length, rfl, ?_⟩
  rw [hcoeff]
  rcases hshape with ⟨rfl, heq⟩ | ⟨-, heq⟩
  · rw [heq] at hchomp
    rw [List.length_nil] at hnat ⊢
    exact ⟨by omega, fun h => absurd h (lt_irrefl 0)⟩
  · rw [heq, List.length_append, List.length_cons] at hchomp
    exact ⟨by omega, fun _ => ⟨by omega, by omega⟩⟩

/-- And the text is no longer than an amount may be. -/
theorem length_pointAt (d : Decimal) {places : ℕ} (hplaces : d.exp = -places)
    (hlen : (natText d.coeff).length ≤ maxAmountChars)
    (hlong : 0 < places → places + 2 ≤ maxAmountChars ∧
      (natText d.coeff).length + 1 ≤ maxAmountChars) :
    (pointAt (leftDigits d) (natText d.coeff)).length ≤ maxAmountChars := by
  have hpos := length_natText_pos d.coeff
  have hleft : leftDigits d = d.exp + (natText d.coeff).length := rfl
  simp only [pointAt]
  split_ifs with hzero hshort
  · have htwo : (py "0.").length = 2 := rfl
    obtain ⟨hle, -⟩ := hlong (by omega)
    rw [List.length_append, List.length_append, List.length_replicate, htwo]
    omega
  · rw [List.length_append, List.length_replicate]
    omega
  · have hone : (py ".").length = 1 := rfl
    obtain ⟨-, hle⟩ := hlong (by omega)
    rw [List.length_append, List.length_append, List.length_take, List.length_drop, hone]
    omega

/-- **A PLAIN CAP IS READ BACK** as it was, digit for digit. -/
theorem parseAmount_decimalText {text : PyStr} {d : Decimal} (h : parseAmount text = .ok d)
    (hplain : -6 < leftDigits d) : parseAmount (decimalText d) = .ok d := by
  obtain ⟨hsign, hexp, places, hplaces, hlen, hlong⟩ := size_of_parseAmount h
  have hplace : dotPlace d = leftDigits d := if_pos ⟨hexp, hplain⟩
  have htext : decimalText d = pointAt (leftDigits d) (natText d.coeff) := by
    rw [decimalText, hplace, if_pos rfl, hsign, List.append_nil]
    rfl
  obtain ⟨whole, fraction, hdigits, hvalue, hpoint⟩ := pointAt_digits hexp
  have hmem : pointAt (leftDigits d) (natText d.coeff) ∈ amountPattern :=
    mem_amountPattern_iff.mpr ⟨_, hdigits⟩
  refine parseAmount_ok_iff_digits.mpr ⟨?_, whole, fraction, ?_, ?_⟩
  · rw [htext]
    exact length_pointAt d hplaces hlen hlong
  · rw [htext, chomp_of_notMem (newline_notMem_amount _ hmem), hdigits]
  · rw [decimalOf, hvalue, ← hpoint]
    cases d
    cases hsign
    rfl

/-! ## A scope as it is rendered -/

/-- The caps of a scope, as they are written. -/
def writtenCaps (s : SpendScope) : List (Axis × PyStr) :=
  (s.txCap.toList.map fun d => (Axis.tx, decimalText d))
    ++ s.totalCap.toList.map fun d => (Axis.total, decimalText d)

/-- A scope is rendered as segments joined by colons. -/
theorem render_eq (s : SpendScope) :
    render s = [codePoint ':'].intercalate (spendPrefix :: s.asset :: (writtenCaps s).map segmentOf) := by
  obtain ⟨asset, tx, total⟩ := s
  cases tx <;> cases total <;> rfl

/-- The caps that are written are those of the scope. -/
theorem mem_writtenCaps {s : SpendScope} {c : Axis × PyStr} :
    c ∈ writtenCaps s ↔ ∃ d ∈ cap s c.1, c.2 = decimalText d := by
  obtain ⟨axis, text⟩ := c
  cases axis <;> simp [writtenCaps, cap, Option.mem_toList, eq_comm]

/-- At most one on each axis. -/
theorem nodup_writtenCaps (s : SpendScope) : ((writtenCaps s).map Prod.fst).Nodup := by
  obtain ⟨asset, tx, total⟩ := s
  cases tx <;> cases total <;> simp [writtenCaps]

/-- One for each cap. -/
theorem mem_map_writtenCaps {s : SpendScope} {axis : Axis} :
    axis ∈ (writtenCaps s).map Prod.fst ↔ cap s axis ≠ none := by
  obtain ⟨asset, tx, total⟩ := s
  cases axis <;> cases tx <;> cases total <;> simp [writtenCaps, cap]

/-- What parsed scopes and their intersections have in common. -/
structure WellSpelled (s : SpendScope) : Prop where
  asset_mem : s.asset ∈ looseAsset
  amounts : ∀ axis, ∀ d ∈ cap s axis, ∃ text, parseAmount text = .ok d

/-- **A PLAIN SCOPE PARSES TO ITSELF** once it is rendered. -/
theorem parse_render {s : SpendScope} (h : WellSpelled s)
    (hplain : ∀ axis, ∀ d ∈ cap s axis, -6 < leftDigits d) : parseSpendScope (render s) = .ok s := by
  have hread : ∀ axis, ∀ d ∈ cap s axis, parseAmount (decimalText d) = .ok d := by
    intro axis d hd
    obtain ⟨text, htext⟩ := h.amounts axis d hd
    exact parseAmount_decimalText htext (hplain axis d hd)
  refine parseSpendScope_ok_iff.mpr ⟨writtenCaps s, ?_, ?_, ?_⟩
  · refine ⟨(render_eq s).trans (join_segments _ _), h.asset_mem, nodup_writtenCaps s, ?_⟩
    intro c hc
    obtain ⟨d, hd, hc⟩ := mem_writtenCaps.mp hc
    rw [hc]
    exact exists_amount_iff.mp ⟨d, hread c.1 d hd⟩
  · intro c hc
    obtain ⟨d, hd, hc⟩ := mem_writtenCaps.mp hc
    exact ⟨d, amountOf_eq_some_iff.mpr (hc ▸ hread c.1 d hd), hd⟩
  · intro axis haxis
    rw [mem_map_writtenCaps, not_not] at haxis
    exact haxis

/-! ## Parsed scopes and their intersections -/

/-- What parsed scopes for one asset intersect to, in any order and number. -/
inductive Intersected (asset : PyStr) : SpendScope → Prop where
  | parsed (s : PyStr) (p : SpendScope) :
      parseSpendScope s = .ok p → p.asset = asset → Intersected asset p
  | intersect (a b c : SpendScope) :
      Intersected asset a → Intersected asset b → a.intersect b = .ok c → Intersected asset c

/-- What parses is well spelled. -/
theorem wellSpelled_of_parse {s : PyStr} {p : SpendScope} (h : parseSpendScope s = .ok p) :
    WellSpelled p := by
  obtain ⟨caps, hspells, hcaps⟩ := parseSpendScope_ok_iff.mp h
  refine ⟨hspells.asset_mem, fun axis d hd => ?_⟩
  by_cases haxis : axis ∈ caps.map Prod.fst
  · obtain ⟨c, hc, rfl⟩ := List.mem_map.mp haxis
    obtain ⟨d', hread, hd'⟩ := hcaps.present c hc
    cases Option.mem_unique hd hd'
    exact ⟨c.2, amountOf_eq_some_iff.mp hread⟩
  · rw [hcaps.absent axis haxis] at hd
    cases hd

/-- Intersecting keeps that. -/
theorem WellSpelled.intersect {a b c : SpendScope} (ha : WellSpelled a) (hb : WellSpelled b)
    (h : a.intersect b = .ok c) : WellSpelled c := by
  have hsame : a.asset = b.asset := by
    by_contra hne
    rw [SpendScope.intersect, raiseIf, if_pos hne] at h
    cases h
  obtain ⟨c', hc', hasset, hcap⟩ := intersect_ok hsame
  cases hc'.symm.trans h
  refine ⟨hasset ▸ ha.asset_mem, fun axis d hd => ?_⟩
  rw [hcap] at hd
  rcases mem_minCap hd with hd | hd
  · exact ha.amounts axis d hd
  · exact hb.amounts axis d hd

/-- However often. -/
theorem Intersected.wellSpelled {asset : PyStr} {s : SpendScope} (h : Intersected asset s) :
    WellSpelled s := by
  induction h with
  | parsed s p hparse _ => exact wellSpelled_of_parse hparse
  | intersect a b c _ _ hc iha ihb => exact iha.intersect ihb hc

/-- No text of the grammar has an `E`. -/
theorem notMem_of_parse {s : PyStr} {p : SpendScope} (h : parseSpendScope s = .ok p) :
    codePoint 'E' ∉ s := by
  obtain ⟨caps, h, -⟩ := parseSpendScope_ok_iff.mp h
  have hasset : ∀ w ∈ looseAsset, codePoint 'E' ∉ w :=
    notMem_endsLine (by decide) fun _ => notMem_of_assetPattern (by decide) (by decide)
  have hamount : ∀ w ∈ looseAmount, codePoint 'E' ∉ w :=
    notMem_endsLine (by decide) fun _ => notMem_of_amountPattern (by decide) (by decide)
  have hprefix : ∀ axis, codePoint 'E' ∉ axisPrefix axis := fun axis => by cases axis <;> decide
  rw [h.text, List.mem_append, List.mem_append, List.mem_flatMap]
  rintro ((hmem | hmem) | ⟨c, hc, hmem⟩)
  · exact absurd hmem (by decide)
  · exact hasset _ h.asset_mem hmem
  · rcases List.mem_cons.mp hmem with hcolon | hmem
    · exact absurd hcolon (by decide)
    rcases List.mem_append.mp hmem with hmem | hmem
    · exact hprefix c.1 hmem
    · exact hamount c.2 (h.amount_mem c hc).1 hmem

/-- The text of a cap is in that of the scope. -/
theorem decimalText_subset_render {s : SpendScope} {axis : Axis} {d : Decimal} (h : d ∈ cap s axis) :
    decimalText d ⊆ render s := by
  intro x hx
  rw [render_eq, join_segments]
  refine List.mem_append_right _ (List.mem_flatMap.mpr ⟨(axis, decimalText d), ?_, ?_⟩)
  · exact mem_writtenCaps.mpr ⟨d, h, rfl⟩
  · exact List.mem_cons_of_mem _ (List.mem_append_right _ hx)

/-- The rendered scope parses, to the same asset and the same caps as numbers. -/
def RoundTrips (s : SpendScope) : Prop :=
  ∃ p, parseSpendScope (render s) = .ok p ∧ p.asset = s.asset ∧
    ∀ axis, (cap p axis).map Decimal.toRat = (cap s axis).map Decimal.toRat

/-- **WHEN A SCOPE CAN BE RENDERED AND GRANTED AGAIN**: exactly when each of its caps is a millionth
    or more, or a zero of at most six places. -/
theorem render_roundtrips_iff (asset : PyStr) (s : SpendScope) (h : Intersected asset s) :
    RoundTrips s ↔ ∀ axis, ∀ d ∈ cap s axis, Plain d := by
  have hw := h.wellSpelled
  have hplain : ∀ axis, ∀ d ∈ cap s axis, (Plain d ↔ -6 < leftDigits d) := by
    intro axis d hd
    obtain ⟨text, htext⟩ := hw.amounts axis d hd
    exact plain_iff (size_of_parseAmount htext).1
  constructor
  · rintro ⟨p, hp, -, -⟩ axis d hd
    rw [hplain axis d hd]
    by_contra hleft
    exact notMem_of_parse hp (decimalText_subset_render hd (exponent_mem (not_lt.mp hleft)))
  · intro hall
    exact ⟨s, parse_render hw fun axis d hd => (hplain axis d hd).mp (hall axis d hd), rfl,
      fun _ => rfl⟩

/-- A cap of 9.99 survives. -/
theorem render_roundtrips_999 :
    RoundTrips ⟨py "usd", some ⟨false, 999, -2⟩, none⟩ := by
  have hparse : parseSpendScope (py "pay:usd:tx<=9.99")
      = .ok ⟨py "usd", some ⟨false, 999, -2⟩, none⟩ := by decide +kernel
  refine (render_roundtrips_iff (py "usd") _ (.parsed _ _ hparse rfl)).mpr ?_
  intro axis d hd
  cases axis with
  | tx =>
      cases hd
      refine Or.inr ?_
      norm_num [Decimal.toRat, Decimal.signed]
  | total => cases hd

/-- TOO SMALL A CAP: a ten-millionth is rendered as `1E-7`, which does not parse. -/
theorem small_cap_lost :
    parseSpendScope (py "pay:usd:tx<=0.0000001") = .ok ⟨py "usd", some ⟨false, 1, -7⟩, none⟩ ∧
      render ⟨py "usd", some ⟨false, 1, -7⟩, none⟩ = py "pay:usd:tx<=1E-7" ∧
      ¬ RoundTrips ⟨py "usd", some ⟨false, 1, -7⟩, none⟩ := by
  have hrender : render ⟨py "usd", some ⟨false, 1, -7⟩, none⟩ = py "pay:usd:tx<=1E-7" := by
    decide +kernel
  refine ⟨by decide +kernel, hrender, ?_⟩
  rintro ⟨p, hp, -, -⟩
  rw [hrender] at hp
  exact notMem_of_parse hp (by decide)

end AgentSpendRender
