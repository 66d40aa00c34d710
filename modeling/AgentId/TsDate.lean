import AgentId.TsTimestamp

/-!
# Dates in both packages (`serde.ts`, `serde.py`)

`parseTimestamp` checks the shape of a text and leaves the rest to `Date.UTC`, which lets a field
that is out of range run over into the next and takes the years below 100 for those of the
twentieth century.  `datetime.fromisoformat` raises on such fields, and `datetime` ends with the
year 9999.

* **`JsDate`**, **`jsParseTimestamp`**, **`JsDate.toISOString`** — dates of any year, read and
  written.
* **`isoformatOf`** — what `fromisoformat` makes of a text of the same shape.
* **`timestamps_agree_iff`** — when both packages read a text as one instant.
-/

namespace AgentTsDate

open AgentPy AgentJson AgentSigning AgentSerde AgentIsoText AgentTsCanonical AgentTsSigning
  AgentTsTimestamp

/-! ## The calendar -/

def daysInMonth (leap : Bool) (month : ℕ) : ℕ :=
  [31, 28, 31, 30, 31, 30, 31, 31, 30, 31, 30, 31].getD (month - 1) 0
    + if leap && month = 2 then 1 else 0

theorem monthOf_daysInMonth : ∀ r < 365, ∀ leap : Bool,
    r < daysBeforeMonth leap (monthOf leap r) + daysInMonth leap (monthOf leap r) := by
  decide +kernel

/-- The day of a date is a day of its month. -/
theorem civil_day_le (n : ℕ) :
    (civil n).2.2 ≤ daysInMonth (isLeap (civil n).1) (civil n).2.1 := by
  rcases civil_cases n with ⟨a, b, c, -, -, -, -, hcivil⟩ |
    ⟨a, b, c, e, r, leap, hb, hc, he, hr, hleap, -, hcivil⟩
  · rw [hcivil]
    show 31 ≤ daysInMonth (isLeap (a * 400 + b * 100 + c * 4 + 4)) 12
    cases isLeap (a * 400 + b * 100 + c * 4 + 4) with
    | false => decide
    | true => decide
  · obtain ⟨-, hle, -⟩ := monthOf_spec r hr leap
    have hlt := monthOf_daysInMonth r hr leap
    rw [hcivil]
    show r - daysBeforeMonth leap (monthOf leap r) + 1
      ≤ daysInMonth (isLeap (a * 400 + b * 100 + c * 4 + e + 1)) (monthOf leap r)
    rw [isLeap_eq hb hc he, ← hleap]
    omega

theorem daysBeforeYear_mono {y z : ℕ} (h : y ≤ z) : daysBeforeYear y ≤ daysBeforeYear z := by
  rcases h.eq_or_lt with rfl | hlt
  · exact le_rfl
  · have hfour : (y - 1) / 4 ≤ (z - 1) / 4 := Nat.div_le_div_right (by omega)
    have hera : (y - 1) / 400 ≤ (z - 1) / 400 := Nat.div_le_div_right (by omega)
    simp only [daysBeforeYear]
    omega

/-- A day is in its year: not before the first of January, and before the next. -/
theorem civil_year_bounds (n : ℕ) :
    daysBeforeYear (civil n).1 ≤ n ∧ n < daysBeforeYear ((civil n).1 + 1) := by
  constructor
  · have hordinal := ordinal_civil n
    simp only [ordinal] at hordinal
    omega
  · rcases civil_cases n with ⟨a, b, c, hb, hc, hleap, hn, hcivil⟩ |
      ⟨a, b, c, e, r, leap, hb, hc, he, hr, hleap, hn, hcivil⟩
    · rw [hcivil]
      show n < daysBeforeYear (a * 400 + b * 100 + c * 4 + 4 + 1)
      simp only [daysBeforeYear]
      omega
    · rw [hcivil]
      show n < daysBeforeYear (a * 400 + b * 100 + c * 4 + e + 1 + 1)
      simp only [daysBeforeYear]
      omega

/-- The year of a day is counted by the firsts of January before it. -/
theorem le_civil_year_iff (y n : ℕ) : y ≤ (civil n).1 ↔ daysBeforeYear y ≤ n := by
  obtain ⟨hle, hlt⟩ := civil_year_bounds n
  constructor
  · exact fun h => (daysBeforeYear_mono h).trans hle
  · intro h
    by_contra hno
    have hnext : daysBeforeYear ((civil n).1 + 1) ≤ daysBeforeYear y :=
      daysBeforeYear_mono (not_le.mp hno)
    omega

/-- The calendar repeats after four hundred years. -/
theorem civil_era (k : ℕ) {r : ℕ} (hr : r < 146097) :
    civil (k * 146097 + r) = (k * 400 + (civil r).1, (civil r).2) := by
  have hdiv : (k * 146097 + r) / 146097 = k := by omega
  have hmod : (k * 146097 + r) % 146097 = r := by omega
  simp only [civil, hdiv, hmod, Nat.div_eq_of_lt hr, Nat.mod_eq_of_lt hr]
  by_cases hlast : r % 36524 % 1461 / 365 = 4 ∨ r / 36524 = 4
  · rw [if_pos hlast, if_pos hlast]
    simp only [Prod.mk.injEq, and_true]
    omega
  · rw [if_neg hlast, if_neg hlast]
    simp only [Prod.mk.injEq, and_true]
    omega

/-! ## `Date` -/

/-- Milliseconds from 0001-01-01 to 1970-01-01, from which a time value counts. -/
def unixEpoch : Int := 62135596800000

/-- A `Date` with a time value; the other ones hold `NaN`. -/
structure JsDate where
  time : Int
  in_range : -8640000000000000 ≤ time ∧ time ≤ 8640000000000000
  deriving DecidableEq

/-- `TimeClip`: `NaN` for a time value out of range. -/
def timeClip (time : Int) : Option JsDate :=
  if h : -8640000000000000 ≤ time ∧ time ≤ 8640000000000000 then some ⟨time, h⟩ else none

namespace JsDate

/-- The milliseconds since 0001-01-01. -/
def sinceYearOne (d : JsDate) : Int := d.time + unixEpoch

/-- A year of four digits, or a signed one of six. -/
def yearText (year : Int) : PyStr :=
  if 0 ≤ year ∧ year ≤ 9999 then padded 4 year.toNat
  else (if year < 0 then py "-" else py "+") ++ padded 6 year.natAbs

/-- `toISOString`; the calendar is that of the four hundred years the date is in. -/
def toISOString (d : JsDate) : PyStr :=
  let day := d.sinceYearOne / 86400000
  let ms := (d.sinceYearOne % 86400000).toNat
  let (year, month, dayOfMonth) := civil (day % 146097).toNat
  yearText (day / 146097 * 400 + year) ++ py "-" ++ padded 2 month ++ py "-"
    ++ padded 2 dayOfMonth ++ py "T" ++ padded 2 (ms / 3600000) ++ py ":"
    ++ padded 2 (ms / 60000 % 60) ++ py ":" ++ padded 2 (ms / 1000 % 60) ++ py "."
    ++ padded 3 (ms % 1000) ++ py "Z"

end JsDate

/-- `parseTimestamp` of a text. -/
def jsParseTimestamp (name value : PyStr) : Js JsDate :=
  match offsetRe value with
  | none => throwNew .error
      [.str name, " must be an ISO-8601 datetime carrying a timezone offset: ", .repr value]
  | some m =>
      -- `Date.UTC` clips, and `new Date` clips again
      match (timeClip (dateUtc m - unixEpoch)).bind fun epoch =>
          timeClip (epoch.time - m.offset * 60000) with
      | none => throwNew .error [.str name, " is not a valid datetime: ", .str value]
      | some parsed => .ok parsed

/-! ## `datetime.fromisoformat` -/

/-- What `datetime(…)` asks of its fields. -/
def IsReal (m : OffsetMatch) : Prop :=
  1 ≤ m.year ∧ (1 ≤ m.month ∧ m.month ≤ 12) ∧
    (1 ≤ m.day ∧ m.day ≤ daysInMonth (isLeap m.year) m.month) ∧
    m.hour < 24 ∧ m.minute < 60 ∧ m.second < 60

instance isRealDecidable (m : OffsetMatch) : Decidable (IsReal m) :=
  inferInstanceAs (Decidable (_ ∧ _))

/-- The microseconds a fraction of a second spells; digits after the sixth are dropped. -/
def microsecond (value : PyStr) : ℕ :=
  if value[19]? = some (codePoint '.') then
    readNat (((value.drop 20).takeWhile isDigit ++ py "000000").take 6)
  else 0

/-- `datetime.fromisoformat` of a text of the shape of `OFFSET_RE`, in Python 3.11 and 3.12: the
    fields must name a date and a time of day, no lower-case `z` ends it, and the offset is of
    less than a day. -/
def isoformatOf (value : PyStr) (m : OffsetMatch) : IsoDatetime :=
  if IsReal m ∧ value.getLast? ≠ some (codePoint 'z') ∧ m.offset.natAbs < 1440 then
    .aware ((ordinal m.year m.month m.day * 86400000000 + m.hour * 3600000000
      + m.minute * 60000000 + m.second * 1000000 + microsecond value : ℕ) - m.offset * 60000000)
  else .invalid

/-- The standard library reads texts of that shape as documented. -/
def ReadsIsoformat (H : Host) : Prop :=
  ∀ value m, offsetRe value = some m → H.fromisoformat value = isoformatOf value m

/-! ## What the expression finds -/

theorem readDigits_some {n value v : ℕ} {s rest : PyStr}
    (h : readDigits n value s = some (v, rest)) :
    (∃ ds, ds.length = n ∧ s = ds ++ rest) ∧ v < (value + 1) * 10 ^ n := by
  induction n generalizing value s with
  | zero =>
      cases h
      refine ⟨⟨[], rfl, rfl⟩, ?_⟩
      rw [pow_zero, mul_one]
      exact Nat.lt_succ_self _
  | succ n ih =>
      cases s with
      | nil => cases h
      | cons c s =>
          rw [readDigits] at h
          split_ifs at h with hdigit
          obtain ⟨⟨ds, hlen, rfl⟩, hlt⟩ := ih h
          refine ⟨⟨c :: ds, congrArg (· + 1) hlen, rfl⟩, ?_⟩
          rw [isDigit, decide_eq_true_eq] at hdigit
          have hle : value * 10 + (c.val - 0x30) + 1 ≤ (value + 1) * 10 := by omega
          calc v < (value * 10 + (c.val - 0x30) + 1) * 10 ^ n := hlt
            _ ≤ (value + 1) * 10 * 10 ^ n := Nat.mul_le_mul_right _ hle
            _ = (value + 1) * 10 ^ (n + 1) := by rw [pow_succ']; ring

theorem oneOf_some {chars s rest : PyStr} (h : oneOf chars s = some rest) : ∃ c, s = c :: rest := by
  cases s with
  | nil => cases h
  | cons c s =>
      rw [oneOf] at h
      split_ifs at h
      cases h
      exact ⟨c, rfl⟩

/-- The groups of a match, and what stands behind the seconds. -/
structure Groups (value : PyStr) (m : OffsetMatch) : Prop where
  year : m.year < 10000
  month : m.month < 100
  day : m.day < 100
  hour : m.hour < 100
  minute : m.minute < 100
  second : m.second < 100
  ms : m.ms = (fractionMs (value.drop 19)).1
  offset : offsetMinutes (fractionMs (value.drop 19)).2 = some m.offset

theorem groups_of_offsetRe {value : PyStr} {m : OffsetMatch} (h : offsetRe value = some m) :
    Groups value m := by
  obtain ⟨⟨year, s1⟩, h1, h⟩ := Option.bind_eq_some_iff.mp h
  obtain ⟨s2, h2, h⟩ := Option.bind_eq_some_iff.mp h
  obtain ⟨⟨month, s3⟩, h3, h⟩ := Option.bind_eq_some_iff.mp h
  obtain ⟨s4, h4, h⟩ := Option.bind_eq_some_iff.mp h
  obtain ⟨⟨day, s5⟩, h5, h⟩ := Option.bind_eq_some_iff.mp h
  obtain ⟨s6, h6, h⟩ := Option.bind_eq_some_iff.mp h
  obtain ⟨⟨hour, s7⟩, h7, h⟩ := Option.bind_eq_some_iff.mp h
  obtain ⟨s8, h8, h⟩ := Option.bind_eq_some_iff.mp h
  obtain ⟨⟨minute, s9⟩, h9, h⟩ := Option.bind_eq_some_iff.mp h
  obtain ⟨s10, h10, h⟩ := Option.bind_eq_some_iff.mp h
  obtain ⟨⟨second, rest⟩, h11, h⟩ := Option.bind_eq_some_iff.mp h
  obtain ⟨offset, hoffset, h⟩ := Option.bind_eq_some_iff.mp h
  cases h
  obtain ⟨⟨y, hy, rfl⟩, hyear⟩ := readDigits_some h1
  obtain ⟨c1, rfl⟩ := oneOf_some h2
  obtain ⟨⟨mo, hmo, rfl⟩, hmonth⟩ := readDigits_some h3
  obtain ⟨c2, rfl⟩ := oneOf_some h4
  obtain ⟨⟨d, hd, rfl⟩, hday⟩ := readDigits_some h5
  obtain ⟨c3, rfl⟩ := oneOf_some h6
  obtain ⟨⟨hh, hhh, rfl⟩, hhour⟩ := readDigits_some h7
  obtain ⟨c4, rfl⟩ := oneOf_some h8
  obtain ⟨⟨mi, hmi, rfl⟩, hminute⟩ := readDigits_some h9
  obtain ⟨c5, rfl⟩ := oneOf_some h10
  obtain ⟨⟨ss, hss, rfl⟩, hsecond⟩ := readDigits_some h11
  have hstart : (y ++ c1 :: (mo ++ c2 :: (d ++ c3 :: (hh ++ c4 :: (mi ++ c5 :: (ss ++ rest)))))).drop
      19 = rest := by
    have happend : y ++ c1 :: (mo ++ c2 :: (d ++ c3 :: (hh ++ c4 :: (mi ++ c5 :: (ss ++ rest)))))
        = (y ++ c1 :: (mo ++ c2 :: (d ++ c3 :: (hh ++ c4 :: (mi ++ c5 :: ss))))) ++ rest := by
      simp only [List.append_assoc, List.cons_append]
    rw [happend]
    refine List.drop_left' ?_
    simp only [List.length_append, List.length_cons, hy, hmo, hd, hhh, hmi, hss]
  exact ⟨hyear, hmonth, hday, hhour, hminute, hsecond, by rw [hstart], by rw [hstart]; exact hoffset⟩

/-! ### Fractions of a second -/

theorem readNat_append_digits (s t : PyStr) :
    readNat (s ++ t) = readNat s * 10 ^ t.length + readNat t := by
  have hfold : ∀ (t : PyStr) (n : ℕ), t.foldl (fun n c => n * 10 + (c.val - 0x30)) n
      = n * 10 ^ t.length + readNat t := by
    intro t
    induction t with
    | nil => exact fun n => (mul_one n).symm
    | cons c t ih =>
        intro n
        have hcons : readNat (c :: t) = (0 * 10 + (c.val - 0x30)) * 10 ^ t.length + readNat t := ih _
        rw [List.foldl_cons, ih, hcons, List.length_cons, pow_succ']
        ring
  rw [readNat, List.foldl_append]
  exact hfold t _

theorem readNat_lt {s : PyStr} (h : ∀ c ∈ s, isDigit c = true) : readNat s < 10 ^ s.length := by
  induction s using List.reverseRecOn with
  | nil => exact Nat.one_pos
  | append_singleton s c ih =>
      have hs := ih fun d hd => h d (List.mem_append_left _ hd)
      have hc := h c (List.mem_append_right _ (List.mem_singleton_self c))
      rw [isDigit, decide_eq_true_eq] at hc
      have hlast : readNat [c] = c.val - 0x30 := Nat.zero_add _
      rw [readNat_append_digits, hlast, List.length_append, List.length_singleton, pow_one,
        pow_succ]
      omega

theorem isDigit_zeros : ∀ c ∈ py "000000", isDigit c = true :=
  List.all_eq_true.mp (by decide)

/-- Six digits of a fraction, cut to three. -/
theorem microsecond_cut {f : PyStr} (hf : ∀ c ∈ f, isDigit c = true) :
    readNat ((f ++ py "000000").take 6) / 1000 = readNat ((f ++ py "000").take 3) ∧
      readNat ((f ++ py "000").take 3) < 1000 := by
  have hdigits : ∀ c ∈ f ++ py "000000", isDigit c = true :=
    List.forall_mem_append.mpr ⟨hf, isDigit_zeros⟩
  have hlen : (f ++ py "000000").length = f.length + 6 := List.length_append
  have hthree : (f ++ py "000").take 3 = (f ++ py "000000").take 3 := by
    rw [show py "000000" = py "000" ++ py "000" from rfl, ← List.append_assoc]
    refine (List.take_append_of_le_length ?_).symm
    rw [List.length_append]
    exact Nat.le_add_left _ _
  have hsplit : (f ++ py "000000").take 6
      = (f ++ py "000000").take 3 ++ ((f ++ py "000000").drop 3).take 3 :=
    @List.take_add _ _ 3 3
  have hfront := readNat_lt fun c hc => hdigits c (List.mem_of_mem_take (l := f ++ py "000000")
    (i := 3) hc)
  have hback := readNat_lt fun c hc => hdigits c (List.mem_of_mem_drop (i := 3)
    (List.mem_of_mem_take (l := (f ++ py "000000").drop 3) (i := 3) hc))
  rw [List.length_take, hlen, Nat.min_eq_left (by omega)] at hfront
  have hbacklen : (((f ++ py "000000").drop 3).take 3).length = 3 := by
    rw [List.length_take, List.length_drop, hlen]
    omega
  rw [hbacklen] at hback
  rw [hthree, hsplit, readNat_append_digits, hbacklen]
  omega

/-- **ONE FRACTION**: both packages cut it to the same milliseconds. -/
theorem Groups.microsecond {value : PyStr} {m : OffsetMatch} (G : Groups value m) :
    microsecond value / 1000 = m.ms ∧ m.ms < 1000 := by
  have hhead : value[19]? = (value.drop 19).head? := by
    rw [List.head?_drop]
  have htail : value.drop 20 = (value.drop 19).tail := by
    rw [List.tail_drop]
  rw [AgentTsDate.microsecond, hhead, htail, G.ms]
  generalize value.drop 19 = rest
  cases rest with
  | nil => exact ⟨rfl, Nat.zero_lt_succ 999⟩
  | cons c s =>
      rw [List.head?_cons, List.tail_cons, fractionMs]
      by_cases hc : c = codePoint '.'
      · have hcut := microsecond_cut fun d hd => List.mem_takeWhile_imp (l := s) (p := isDigit) hd
        rw [if_pos (congrArg some hc)]
        split_ifs with hne
        · exact hcut
        · have hnone : s.takeWhile isDigit = [] := not_not.mp fun h => hne ⟨hc, h⟩
          have hzero : readNat (([] ++ py "000000").take 6) / 1000 = 0 := by decide
          rw [hnone, hzero]
          exact ⟨rfl, Nat.zero_lt_succ 999⟩
      · rw [if_neg fun h => hc (Option.some.inj h), if_neg fun h => hc h.1]
        exact ⟨rfl, Nat.zero_lt_succ 999⟩

/-- An offset is of at most 99 hours and 99 minutes. -/
theorem natAbs_offsetMinutes_le {s : PyStr} {k : Int} (h : offsetMinutes s = some k) :
    k.natAbs ≤ 6039 := by
  cases s with
  | nil => cases h
  | cons c s =>
      rw [offsetMinutes] at h
      by_cases hz : (py "Zz").contains c = true
      · rw [if_pos hz] at h
        split_ifs at h
        cases h
        decide
      rw [if_neg hz] at h
      by_cases hsign : (py "+-").contains c = true
      · rw [if_pos hsign] at h
        obtain ⟨⟨oh, s1⟩, h1, h⟩ := Option.bind_eq_some_iff.mp h
        obtain ⟨⟨om, s2⟩, h2, h⟩ := Option.bind_eq_some_iff.mp h
        have hoh := (readDigits_some h1).2
        have hom := (readDigits_some h2).2
        have hminutes : ∀ sign : Int, sign = -1 ∨ sign = 1 →
            (sign * (oh * 60 + om)).natAbs ≤ 6039 := by
          rintro sign (rfl | rfl)
          · omega
          · omega
        simp only at h
        by_cases hend : s2 = []
        · rw [if_pos hend] at h
          cases h
          exact hminutes _ (by split_ifs <;> simp)
        · rw [if_neg hend] at h
          cases h
      · rw [if_neg hsign] at h
        cases h

/-! ## What each package reads -/

/-- The time on the clock, in milliseconds. -/
def wallMs (m : OffsetMatch) : ℕ :=
  ordinal m.year m.month m.day * 86400000 + m.hour * 3600000 + m.minute * 60000 + m.second * 1000
    + m.ms

variable {H : Host} {name value : PyStr} {m : OffsetMatch}

/-- `Date.UTC` leaves the years 99 to 10007 for no match. -/
theorem dateUtc_bounds (G : Groups value m) :
    500000000 ≤ dateUtc m ∧ dateUtc m < 4000000000000000 := by
  have hms := G.microsecond.2
  obtain ⟨hyear, hmonth, hday, hhour, hminute, hsecond, -, -⟩ := G
  obtain ⟨year, hyear'⟩ : ∃ year, (if m.year < 100 then 1900 + m.year else m.year) = year := ⟨_, rfl⟩
  have hlow : 100 ≤ year ∧ year < 10000 := by
    rw [← hyear']
    split_ifs <;> omega
  simp only [dateUtc, hyear']
  obtain ⟨y, hy⟩ : ∃ y, (year * 12 + m.month - 1) / 12 = y := ⟨_, rfl⟩
  have hybounds : 99 ≤ y ∧ y ≤ 10008 := by omega
  have hbefore := daysBeforeMonth_le ((year * 12 + m.month - 1) % 12 + 1) (by omega) (isLeap y)
  have hfirst : daysBeforeYear 99 ≤ daysBeforeYear y := daysBeforeYear_mono hybounds.1
  have hlast : daysBeforeYear y ≤ daysBeforeYear 10008 := daysBeforeYear_mono hybounds.2
  have hconst : daysBeforeYear 99 = 35794 ∧ daysBeforeYear 10008 = 3654981 := ⟨rfl, rfl⟩
  rw [hy]
  omega

/-- **TYPESCRIPT READS EVERY TEXT OF THE SHAPE**, as what `Date.UTC` makes of its fields. -/
theorem jsParseTimestamp_eq (hm : offsetRe value = some m) :
    ∃ d, jsParseTimestamp name value = .ok d ∧ d.sinceYearOne = dateUtc m - m.offset * 60000 ∧
      0 ≤ d.sinceYearOne := by
  have G := groups_of_offsetRe hm
  obtain ⟨hlow, hhigh⟩ := dateUtc_bounds G
  have hoffset := natAbs_offsetMinutes_le G.offset
  have hutc : -8640000000000000 ≤ dateUtc m - unixEpoch ∧ dateUtc m - unixEpoch ≤ 8640000000000000 := by
    simp only [unixEpoch]
    omega
  have htime : -8640000000000000 ≤ dateUtc m - unixEpoch - m.offset * 60000 ∧
      dateUtc m - unixEpoch - m.offset * 60000 ≤ 8640000000000000 := by
    simp only [unixEpoch]
    omega
  refine ⟨⟨_, htime⟩, ?_, ?_, ?_⟩
  · rw [jsParseTimestamp, hm]
    simp only [timeClip]
    rw [dif_pos hutc, Option.bind_some, dif_pos htime]
  · simp only [JsDate.sinceYearOne]
    omega
  · simp only [JsDate.sinceYearOne]
    omega

/-- Within the years of a `Timestamp` this is what `tsParseTimestamp` reads. -/
theorem tsParseTimestamp_ok_iff {t : Timestamp} (hm : offsetRe value = some m) :
    tsParseTimestamp name (some (.string value)) = .ok t ↔
      ∃ d, jsParseTimestamp name value = .ok d ∧ d.sinceYearOne = t.ms := by
  obtain ⟨d, hparse, hsince, hpos⟩ := @jsParseTimestamp_eq name _ _ hm
  have ht := t.ms_lt
  rw [tsParseTimestamp, hm]
  simp only [newDate]
  constructor
  · intro h
    refine ⟨d, hparse, ?_⟩
    split_ifs at h
    · cases h
      simp only
      omega
    · cases h
  · rintro ⟨d', hparse', hsame⟩
    cases hparse.symm.trans hparse'
    have hms : (dateUtc m - m.offset * 60000).toNat = t.ms := by omega
    rw [dif_pos (hms ▸ ht)]
    cases t with
    | mk ms ms_lt =>
        simp only [Except.ok.injEq, Timestamp.mk.injEq]
        exact hms

/-- Fields that are real are read as they stand, but for the years below 100. -/
theorem dateUtc_eq_iff (hreal : IsReal m) : dateUtc m = wallMs m ↔ 100 ≤ m.year := by
  obtain ⟨hyear, ⟨hmonth, hmonth'⟩, ⟨hday, hday'⟩, -⟩ := hreal
  have hmonths : ∀ y, (y * 12 + m.month - 1) / 12 = y ∧ (y * 12 + m.month - 1) % 12 + 1 = m.month := by
    intro y
    omega
  simp only [dateUtc, wallMs, ordinal, hmonths]
  split_ifs with hcentury
  · -- nineteen hundred years later, by less than the hundred before
    refine iff_of_false ?_ (not_le.mpr hcentury)
    have hbefore := daysBeforeMonth_le m.month hmonth' (isLeap m.year)
    have hlate : daysBeforeYear 1900 ≤ daysBeforeYear (1900 + m.year) :=
      daysBeforeYear_mono (Nat.le_add_right _ _)
    have hearly : daysBeforeYear m.year ≤ daysBeforeYear 100 := daysBeforeYear_mono hcentury.le
    have hconst : daysBeforeYear 1900 = 693595 ∧ daysBeforeYear 100 = 36159 := ⟨rfl, rfl⟩
    omega
  · refine iff_of_true ?_ (not_lt.mp hcentury)
    omega

/-- **WHAT PYTHON READS**: real fields, an offset of less than a day, and an instant in the years
    1 to 9999. -/
theorem parseDatetime_ok_iff (R : ReadsIsoformat H) (hm : offsetRe value = some m) {t : Timestamp} :
    parseDatetime H name (.str value) = .ok t ↔
      (IsReal m ∧ value.getLast? ≠ some (codePoint 'z') ∧ m.offset.natAbs < 1440) ∧
        (wallMs m : Int) - m.offset * 60000 = t.ms := by
  obtain ⟨hcut, hms⟩ := (groups_of_offsetRe hm).microsecond
  have ht := t.ms_lt
  rw [parseDatetime, R value m hm, isoformatOf]
  split_ifs with hvalid
  · obtain ⟨us, hus⟩ : ∃ us : Int, (ordinal m.year m.month m.day * 86400000000
        + m.hour * 3600000000 + m.minute * 60000000 + m.second * 1000000 + microsecond value : ℕ)
        - m.offset * 60000000 = us := ⟨_, rfl⟩
    have hwall : us / 1000 = wallMs m - m.offset * 60000 := by
      rw [← hus, wallMs]
      omega
    simp only [hus, Datetime.ofMicros]
    rw [← hwall]
    constructor
    · intro h
      refine ⟨hvalid, ?_⟩
      split_ifs at h with hrange
      · cases h
        simp only [normalizeTimestamp]
        omega
      · cases h
    · rintro ⟨-, h⟩
      have hrange : 0 ≤ us ∧ us < maxMicros := by
        simp only [maxMicros]
        omega
      rw [dif_pos hrange]
      refine congrArg Except.ok ?_
      cases t with
      | mk ms ms_lt =>
          simp only [normalizeTimestamp, Timestamp.mk.injEq]
          simp only at h
          omega
  · refine iff_of_false (fun h => by cases h) fun h => hvalid h.1

/-! ## What each package writes -/

/-- `toISOString` of a day since the year 1. -/
theorem toISOString_eq {d : JsDate} {n : ℕ} (hd : d.sinceYearOne = n) :
    d.toISOString = JsDate.yearText (civil (n / 86400000)).1 ++ py "-"
      ++ padded 2 (civil (n / 86400000)).2.1 ++ py "-" ++ padded 2 (civil (n / 86400000)).2.2
      ++ py "T" ++ padded 2 (n % 86400000 / 3600000) ++ py ":"
      ++ padded 2 (n % 86400000 / 60000 % 60) ++ py ":" ++ padded 2 (n % 86400000 / 1000 % 60)
      ++ py "." ++ padded 3 (n % 86400000 % 1000) ++ py "Z" := by
  obtain ⟨day, hday⟩ : ∃ day, n / 86400000 = day := ⟨_, rfl⟩
  have hdiv : (n : Int) / 86400000 = day := by omega
  have hms : ((n : Int) % 86400000).toNat = n % 86400000 := by omega
  have hera : ((day : Int) % 146097).toNat = day % 146097 := by omega
  have hcivil := civil_era (day / 146097) (Nat.mod_lt day (by decide : 0 < 146097))
  rw [Nat.div_add_mod'] at hcivil
  simp only [JsDate.toISOString, hd, hday, hdiv, hms, hera, hcivil]
  rfl

/-- Within the years of four digits the texts are the same. -/
theorem toISOString_of_lt {d : JsDate} {n : ℕ} (hd : d.sinceYearOne = n)
    (hn : n < 3652059 * 86400000) : d.toISOString = canonicalTimestamp ⟨n, hn⟩ := by
  obtain ⟨hyear, -, -⟩ := @civil_bounds (n / 86400000) (by omega)
  rw [toISOString_eq hd, JsDate.yearText, if_pos (by omega)]
  rfl

/-- Behind them the year has a sign and six digits. -/
theorem length_toISOString_of_le {d : JsDate} {n : ℕ} (hd : d.sinceYearOne = n)
    (hn : 3652059 * 86400000 ≤ n) : d.toISOString.length = 27 := by
  have hyear : 10000 ≤ (civil (n / 86400000)).1 := by
    rw [le_civil_year_iff]
    have hconst : daysBeforeYear 10000 = 3652059 := rfl
    omega
  rw [toISOString_eq hd, JsDate.yearText, if_neg (by omega), if_neg (by omega)]
  simp only [List.length_append, length_padded]
  rfl

theorem length_canonicalTimestamp (t : Timestamp) : (canonicalTimestamp t).length = 24 := by
  rw [canonicalTimestamp_eq]
  simp only [List.length_append, length_padded]
  rfl

/-- **ONE TEXT, ONE INSTANT.** -/
theorem toISOString_eq_iff {d : JsDate} (hd : 0 ≤ d.sinceYearOne) {t : Timestamp} :
    d.toISOString = canonicalTimestamp t ↔ d.sinceYearOne = t.ms := by
  obtain ⟨n, hn⟩ := Int.eq_ofNat_of_zero_le hd
  have ht := t.ms_lt
  by_cases hlt : n < 3652059 * 86400000
  · rw [toISOString_of_lt hn hlt, hn]
    constructor
    · intro h
      have hms := congrArg isoMs h
      rw [isoMs_canonicalTimestamp, isoMs_canonicalTimestamp] at hms
      exact congrArg Nat.cast hms
    · intro h
      cases t with
      | mk ms ms_lt =>
          cases Int.ofNat.inj h
          rfl
  · refine iff_of_false (fun h => ?_) (by omega)
    have hlen := congrArg List.length h
    rw [length_toISOString_of_le hn (not_lt.mp hlt), length_canonicalTimestamp] at hlen
    cases hlen

/-! ## What was written, read again -/

/-- What the expression finds in a canonical timestamp. -/
def canonicalMatch (t : Timestamp) : OffsetMatch :=
  ⟨(civil (t.ms / 86400000)).1, (civil (t.ms / 86400000)).2.1, (civil (t.ms / 86400000)).2.2,
    t.ms % 86400000 / 3600000, t.ms % 86400000 / 60000 % 60, t.ms % 86400000 / 1000 % 60,
    t.ms % 86400000 % 1000, 0⟩

theorem offsetRe_eq_canonicalMatch (t : Timestamp) :
    offsetRe (canonicalTimestamp t) = some (canonicalMatch t) :=
  offsetRe_canonical t

theorem isReal_canonicalMatch (t : Timestamp) : IsReal (canonicalMatch t) := by
  obtain ⟨hmonth, hmonth', hday, -⟩ := civil_month (t.ms / 86400000)
  have hyear : 1 ≤ (civil (t.ms / 86400000)).1 := (le_civil_year_iff 1 _).mpr (Nat.zero_le _)
  refine ⟨hyear, ⟨hmonth, hmonth'⟩, ⟨hday, civil_day_le _⟩, ?_, ?_, ?_⟩
  · show t.ms % 86400000 / 3600000 < 24
    omega
  · exact Nat.mod_lt _ (by decide)
  · exact Nat.mod_lt _ (by decide)

theorem wallMs_canonicalMatch (t : Timestamp) : wallMs (canonicalMatch t) = t.ms := by
  have hordinal := ordinal_civil (t.ms / 86400000)
  simp only [wallMs, canonicalMatch, hordinal]
  omega

theorem getLast_canonicalTimestamp (t : Timestamp) :
    (canonicalTimestamp t).getLast? = some (codePoint 'Z') := by
  rw [canonicalTimestamp]
  exact List.getLast?_concat

/-- Python reads every timestamp back. -/
theorem parseDatetime_canonicalTimestamp (R : ReadsIsoformat H) (t : Timestamp) :
    parseDatetime H name (.str (canonicalTimestamp t)) = .ok t := by
  rw [parseDatetime_ok_iff R (offsetRe_eq_canonicalMatch t), getLast_canonicalTimestamp,
    wallMs_canonicalMatch]
  refine ⟨⟨isReal_canonicalMatch t, by decide, Nat.zero_lt_succ 1439⟩, ?_⟩
  show (t.ms : Int) - 0 * 60000 = t.ms
  omega

/-- The first instant of the year 100. -/
def yearHundred : ℕ := 36159 * 86400000

/-- **TYPESCRIPT READS BACK** the timestamps from the year 100 on. -/
theorem jsParseTimestamp_canonicalTimestamp (t : Timestamp) :
    ∃ d, jsParseTimestamp name (canonicalTimestamp t) = .ok d ∧ 0 ≤ d.sinceYearOne ∧
      (d.sinceYearOne = t.ms ↔ yearHundred ≤ t.ms) := by
  obtain ⟨d, hparse, hsince, hpos⟩ := @jsParseTimestamp_eq name _ _ (offsetRe_eq_canonicalMatch t)
  have hoffset : (canonicalMatch t).offset = 0 := rfl
  have hyear : 100 ≤ (canonicalMatch t).year ↔ daysBeforeYear 100 ≤ t.ms / 86400000 :=
    le_civil_year_iff 100 _
  have hconst : daysBeforeYear 100 = 36159 := rfl
  rw [hoffset, zero_mul, sub_zero] at hsince
  refine ⟨d, hparse, hpos, ?_⟩
  rw [hsince, ← wallMs_canonicalMatch t, dateUtc_eq_iff (isReal_canonicalMatch t), hyear,
    wallMs_canonicalMatch, yearHundred]
  omega

/-! ## One instant in both packages -/

/-- Both packages fail on the text, or both read it, write one text for what they read, and read
    that text as the same instant. -/
def Agree (H : Host) (name value : PyStr) : Prop :=
  ((∀ d, jsParseTimestamp name value ≠ .ok d) ∧ ∀ t, parseDatetime H name (.str value) ≠ .ok t) ∨
    ∃ d t, jsParseTimestamp name value = .ok d ∧ parseDatetime H name (.str value) = .ok t ∧
      d.toISOString = canonicalTimestamp t ∧
      jsParseTimestamp name (canonicalTimestamp t) = .ok d ∧
      parseDatetime H name (.str (canonicalTimestamp t)) = .ok t ∧ d.sinceYearOne = t.ms

/-- The fields are real, no lower-case `z` ends the text, the offset is of less than a day, and
    the year and the instant are in the years 100 to 9999. -/
def ReadAlike (value : PyStr) (m : OffsetMatch) : Prop :=
  (IsReal m ∧ value.getLast? ≠ some (codePoint 'z') ∧ m.offset.natAbs < 1440) ∧ 100 ≤ m.year ∧
    (yearHundred : Int) ≤ wallMs m - m.offset * 60000 ∧
    wallMs m - m.offset * 60000 < 3652059 * 86400000

instance readAlikeDecidable (value : PyStr) (m : OffsetMatch) : Decidable (ReadAlike value m) :=
  inferInstanceAs (Decidable (_ ∧ _))

/-- **WHEN A TEXT IS THE SAME INSTANT TO BOTH PACKAGES**, of the texts that have the shape. -/
theorem timestamps_agree_iff (H : Host) (R : ReadsIsoformat H) (name value : PyStr)
    (m : OffsetMatch) (hm : offsetRe value = some m) : Agree H name value ↔ ReadAlike value m := by
  obtain ⟨d, hjs, hsince, hpos⟩ := @jsParseTimestamp_eq name _ _ hm
  constructor
  · rintro (⟨hfail, -⟩ | ⟨d', t, hjs', hpy, -, hagain, -, hsame⟩)
    · exact absurd hjs (hfail d)
    · cases hjs.symm.trans hjs'
      obtain ⟨hvalid, hinstant⟩ := (parseDatetime_ok_iff R hm).mp hpy
      have hwall : dateUtc m = wallMs m := by omega
      have hyear := (dateUtc_eq_iff hvalid.1).mp hwall
      -- the text written is read again as the instant it was written for
      obtain ⟨d', hparse, -, hback⟩ := @jsParseTimestamp_canonicalTimestamp name t
      cases hagain.symm.trans hparse
      have hhundred := hback.mp hsame
      have ht := t.ms_lt
      exact ⟨hvalid, hyear, by omega, by omega⟩
  · rintro ⟨hvalid, hyear, hlow, hhigh⟩
    have hwall := (dateUtc_eq_iff hvalid.1).mpr hyear
    obtain ⟨ms, hms⟩ : ∃ ms : ℕ, (wallMs m : Int) - m.offset * 60000 = ms :=
      ⟨((wallMs m : Int) - m.offset * 60000).toNat, by omega⟩
    have hlt : ms < 3652059 * 86400000 := by omega
    have hpy : parseDatetime H name (.str value) = .ok ⟨ms, hlt⟩ :=
      (parseDatetime_ok_iff R hm).mpr ⟨hvalid, hms⟩
    have hsame : d.sinceYearOne = ms := by omega
    obtain ⟨d', hparse, hpos', hback⟩ := @jsParseTimestamp_canonicalTimestamp name ⟨ms, hlt⟩
    have hdate : d' = d := by
      have hsame' : d'.sinceYearOne = ms := hback.mpr (by show yearHundred ≤ ms; omega)
      simp only [JsDate.sinceYearOne] at hsame hsame'
      cases d
      cases d'
      simp only at hsame hsame'
      simp only [JsDate.mk.injEq]
      omega
    rw [hdate] at hparse
    exact Or.inr ⟨d, _, hjs, hpy, (toISOString_eq_iff hpos).mpr hsame, hparse,
      parseDatetime_canonicalTimestamp R _, hsame⟩

/-! ## Two texts -/

/-- A host whose `fromisoformat` reads texts of that shape, and no others. -/
def isoHost : Host :=
  { nfc := id
    sha256 := id
    ed25519Verify := fun _ _ _ => false
    fromisoformat := fun value => ((offsetRe value).map (isoformatOf value)).getD .invalid }

theorem isoHost_readsIsoformat : ReadsIsoformat isoHost := by
  intro value m hm
  show ((offsetRe value).map (isoformatOf value)).getD .invalid = _
  rw [hm]
  rfl

def lateEvening : PyStr := py "2026-12-31 23:30:00.1239-01:00"

/-- A text of New Year's Eve is read alike. -/
theorem timestamps_agree_iff_evening : Agree isoHost (py "issued_at") lateEvening :=
  (timestamps_agree_iff isoHost isoHost_readsIsoformat (py "issued_at") lateEvening
    ⟨2026, 12, 31, 23, 30, 0, 123, -60⟩ rfl).mpr (by decide +kernel)

/-- The thirtieth of February. -/
def february30 : PyStr := py "2026-02-30T00:00:00Z"

/-- A DAY THAT DOES NOT EXIST: Python refuses it, and TypeScript reads the second of March. -/
theorem february_runs_over :
    (∃ d, jsParseTimestamp (py "issued_at") february30 = .ok d ∧
      d.toISOString = py "2026-03-02T00:00:00.000Z") ∧
    (∀ t, parseDatetime isoHost (py "issued_at") (.str february30) ≠ .ok t) ∧
    ¬ Agree isoHost (py "issued_at") february30 := by
  have hpy : ∀ t, parseDatetime isoHost (py "issued_at") (.str february30) ≠ .ok t := by
    intro t h
    have hmatch : offsetRe february30 = some ⟨2026, 2, 30, 0, 0, 0, 0, 0⟩ := rfl
    have hreal := ((parseDatetime_ok_iff isoHost_readsIsoformat hmatch).mp h).1.1
    exact absurd hreal (by decide)
  have hjs : ∃ d, jsParseTimestamp (py "issued_at") february30 = .ok d ∧
      d.toISOString = py "2026-03-02T00:00:00.000Z" :=
    ⟨⟨1772409600000, by decide⟩, by decide +kernel, by decide +kernel⟩
  refine ⟨hjs, hpy, ?_⟩
  obtain ⟨d, hd, -⟩ := hjs
  rintro (⟨hfail, -⟩ | ⟨_, t, -, ht, -⟩)
  · exact hfail d hd
  · exact hpy t ht

end AgentTsDate
