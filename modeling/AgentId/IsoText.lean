import AgentId.Serde

/-!
# Timestamps read back

`canonical_timestamp` writes the calendar date of an instant; `datetime.fromisoformat` reads it.
The reader is taken from outside, with one fact about it (`IsoReads`).  Here the calendar is
inverted, so that a reader of the canonical spelling exists.

* **`ordinal_civil`** — the day a date names is the day it was computed from.
* **`readIso_reads`** — a reader that inverts `canonical_timestamp`.
* **`parseDatetime_canonical`** — what was dumped parses to the same timestamp.
-/

namespace AgentIsoText

open AgentPy AgentJson AgentSigning AgentSerde

/-! ## From a date back to its day -/

/-- Days before the first of January of a year (`_days_before_year`). -/
def daysBeforeYear (year : ℕ) : ℕ :=
  (year - 1) * 365 + (year - 1) / 4 - (year - 1) / 100 + (year - 1) / 400

def isLeap (year : ℕ) : Bool := year % 4 = 0 ∧ (year % 100 ≠ 0 ∨ year % 400 = 0)

/-- The day a date names, counted from 0001-01-01. -/
def ordinal (year month day : ℕ) : ℕ :=
  daysBeforeYear year + daysBeforeMonth (isLeap year) month + (day - 1)

/-- The month `civil` finds for a day of the year. -/
def monthOf (leap : Bool) (r : ℕ) : ℕ :=
  if r < daysBeforeMonth leap ((r + 50) / 32) then (r + 50) / 32 - 1 else (r + 50) / 32

/-- The month found is the one the day falls in. -/
theorem monthOf_spec : ∀ r < 365, ∀ leap : Bool, monthOf leap r < 13 ∧
    daysBeforeMonth leap (monthOf leap r) ≤ r ∧ r < daysBeforeMonth leap (monthOf leap r) + 31 := by
  decide +kernel

theorem daysBeforeYear_eq {a b c e : ℕ} (hb : b < 4) (hc : c < 25) (he : e < 4) :
    daysBeforeYear (a * 400 + b * 100 + c * 4 + e + 1)
      = a * 146097 + b * 36524 + c * 1461 + e * 365 := by
  simp only [daysBeforeYear]
  omega

theorem isLeap_eq {a b c e : ℕ} (hb : b < 4) (hc : c < 25) (he : e < 4) :
    isLeap (a * 400 + b * 100 + c * 4 + e + 1) = decide (e = 3 ∧ (c ≠ 24 ∨ b = 3)) := by
  simp only [isLeap]
  refine decide_eq_decide.mpr ?_
  omega

/-- The last of December of a leap year. -/
theorem ordinal_leap_december {a b c : ℕ} (hb : b < 4) (hc : c < 25) (hleap : c ≠ 24 ∨ b = 3) :
    ordinal (a * 400 + b * 100 + c * 4 + 4) 12 31
      = a * 146097 + b * 36524 + c * 1461 + 1460 := by
  have hyear : a * 400 + b * 100 + c * 4 + 4 = a * 400 + b * 100 + c * 4 + 3 + 1 := rfl
  rw [ordinal, hyear, daysBeforeYear_eq hb hc (by decide), isLeap_eq hb hc (by decide),
    decide_eq_true ⟨rfl, hleap⟩, show daysBeforeMonth true 12 = 335 from rfl]

/-- **HOW `civil` ENDS**: on the leap day that closes four years or four hundred, or on a day of a
    month of a year counted in centuries, olympiads and years. -/
theorem civil_cases (n : ℕ) :
    (∃ a b c, b < 4 ∧ c < 25 ∧ (c ≠ 24 ∨ b = 3) ∧
        n = a * 146097 + b * 36524 + c * 1461 + 1460 ∧
        civil n = (a * 400 + b * 100 + c * 4 + 4, 12, 31)) ∨
      ∃ a b c e r leap, b < 4 ∧ c < 25 ∧ e < 4 ∧ r < 365 ∧
        leap = decide (e = 3 ∧ (c ≠ 24 ∨ b = 3)) ∧
        n = a * 146097 + b * 36524 + c * 1461 + e * 365 + r ∧
        civil n = (a * 400 + b * 100 + c * 4 + e + 1, monthOf leap r,
          r - daysBeforeMonth leap (monthOf leap r) + 1) := by
  obtain ⟨a, ha⟩ : ∃ a, n / 146097 = a := ⟨_, rfl⟩
  obtain ⟨n1, hn1⟩ : ∃ n1, n % 146097 = n1 := ⟨_, rfl⟩
  obtain ⟨b, hb⟩ : ∃ b, n1 / 36524 = b := ⟨_, rfl⟩
  obtain ⟨n2, hn2⟩ : ∃ n2, n1 % 36524 = n2 := ⟨_, rfl⟩
  obtain ⟨c, hc⟩ : ∃ c, n2 / 1461 = c := ⟨_, rfl⟩
  obtain ⟨n3, hn3⟩ : ∃ n3, n2 % 1461 = n3 := ⟨_, rfl⟩
  obtain ⟨e, he⟩ : ∃ e, n3 / 365 = e := ⟨_, rfl⟩
  obtain ⟨r, hr⟩ : ∃ r, n3 % 365 = r := ⟨_, rfl⟩
  simp only [civil, ha, hn1, hb, hn2, hc, hn3, he, hr]
  by_cases hlast : e = 4 ∨ b = 4
  · rw [if_pos hlast]
    rcases hlast with rfl | rfl
    · exact Or.inl ⟨a, b, c, by omega, by omega, by omega, by omega, rfl⟩
    · refine Or.inl ⟨a, 3, 24, by omega, by omega, by omega, by omega, ?_⟩
      rw [show a * 400 + 4 * 100 + c * 4 + e + 1 - 1 = a * 400 + 3 * 100 + 24 * 4 + 4 by omega]
  · rw [if_neg hlast]
    push Not at hlast
    exact Or.inr ⟨a, b, c, e, r, _, by omega, by omega, by omega, by omega, rfl, by omega, rfl⟩

/-- **THE CALENDAR IS INVERTED.** -/
theorem ordinal_civil (n : ℕ) : ordinal (civil n).1 (civil n).2.1 (civil n).2.2 = n := by
  rcases civil_cases n with ⟨a, b, c, hb, hc, hleap, hn, hcivil⟩ |
    ⟨a, b, c, e, r, leap, hb, hc, he, hr, hleap, hn, hcivil⟩
  · rw [hcivil]
    exact (ordinal_leap_december hb hc hleap).trans hn.symm
  · obtain ⟨-, hle, -⟩ := monthOf_spec r hr leap
    rw [hcivil]
    show ordinal (a * 400 + b * 100 + c * 4 + e + 1) (monthOf leap r)
      (r - daysBeforeMonth leap (monthOf leap r) + 1) = n
    rw [ordinal, daysBeforeYear_eq hb hc he, isLeap_eq hb hc he, ← hleap]
    omega

/-- The fields of a date in the years 1 to 9999 fit their places. -/
theorem civil_bounds {n : ℕ} (hn : n < 3652059) :
    (civil n).1 < 10000 ∧ (civil n).2.1 < 100 ∧ (civil n).2.2 < 100 := by
  rcases civil_cases n with ⟨a, b, c, hb, hc, hleap, heq, hcivil⟩ |
    ⟨a, b, c, e, r, leap, hb, hc, he, hr, hleap, heq, hcivil⟩
  · rw [hcivil]
    show a * 400 + b * 100 + c * 4 + 4 < 10000 ∧ 12 < 100 ∧ 31 < 100
    omega
  · obtain ⟨hmonth, hle, hlt⟩ := monthOf_spec r hr leap
    rw [hcivil]
    show a * 400 + b * 100 + c * 4 + e + 1 < 10000 ∧ monthOf leap r < 100 ∧
      r - daysBeforeMonth leap (monthOf leap r) + 1 < 100
    omega

theorem monthOf_pos (leap : Bool) (r : ℕ) : 1 ≤ monthOf leap r := by
  have hjanuary : daysBeforeMonth leap 1 = 0 := by
    cases leap <;> rfl
  rw [monthOf]
  by_cases hone : (r + 50) / 32 = 1
  · rw [hone, hjanuary, if_neg (Nat.not_lt_zero r)]
  · split_ifs
    · omega
    · omega

/-- Months and days are counted from one. -/
theorem civil_month (n : ℕ) :
    1 ≤ (civil n).2.1 ∧ (civil n).2.1 ≤ 12 ∧ 1 ≤ (civil n).2.2 ∧ (civil n).2.2 ≤ 31 := by
  rcases civil_cases n with ⟨a, b, c, -, -, -, -, hcivil⟩ |
    ⟨a, b, c, e, r, leap, -, -, -, hr, -, -, hcivil⟩
  · rw [hcivil]
    exact (by decide : 1 ≤ 12 ∧ 12 ≤ 12 ∧ 1 ≤ 31 ∧ 31 ≤ 31)
  · obtain ⟨hmonth, hle, hlt⟩ := monthOf_spec r hr leap
    have hpos := monthOf_pos leap r
    rw [hcivil]
    show 1 ≤ monthOf leap r ∧ monthOf leap r ≤ 12 ∧
      1 ≤ r - daysBeforeMonth leap (monthOf leap r) + 1 ∧
      r - daysBeforeMonth leap (monthOf leap r) + 1 ≤ 31
    omega

theorem daysBeforeMonth_le : ∀ month ≤ 12, ∀ leap : Bool, daysBeforeMonth leap month ≤ 335 := by
  decide

/-- A day this far from the first is not in the first hundred years. -/
theorem hundred_le_year {n : ℕ} (hn : 36525 ≤ n) : 100 ≤ (civil n).1 := by
  obtain ⟨-, hmonth, -, hday⟩ := civil_month n
  have hbefore := daysBeforeMonth_le _ hmonth (isLeap (civil n).1)
  have hordinal := ordinal_civil n
  simp only [ordinal, daysBeforeYear] at hordinal
  omega

/-! ## Reading the canonical spelling -/

/-- The number a run of decimal digits writes. -/
def readNat (s : PyStr) : ℕ := s.foldl (fun n c => n * 10 + (c.val - 0x30)) 0

/-- The field of a timestamp's text at a place. -/
def field (s : PyStr) (start width : ℕ) : ℕ := readNat ((s.drop start).take width)

/-- The instant `YYYY-MM-DDTHH:MM:SS.mmmZ` names, in milliseconds. -/
def isoMs (s : PyStr) : ℕ :=
  ordinal (field s 0 4) (field s 5 2) (field s 8 2) * 86400000 + field s 11 2 * 3600000
    + field s 14 2 * 60000 + field s 17 2 * 1000 + field s 20 3

/-- A reader of the canonical spelling, and of nothing else. -/
def readIso (s : PyStr) : IsoDatetime :=
  if h : isoMs s < 3652059 * 86400000 then
    if canonicalTimestamp ⟨isoMs s, h⟩ = s then .aware (isoMs s * 1000) else .invalid
  else .invalid

theorem digit_val : ∀ n < 10, ((py "0123456789").getD n 0).val - 0x30 = n := by decide

theorem readNat_append (s : PyStr) (n : ℕ) (hn : n < 10) :
    readNat (s ++ [(py "0123456789").getD n 0]) = readNat s * 10 + n := by
  rw [readNat, List.foldl_concat, digit_val n hn]
  rfl

theorem readNat_padded (width n : ℕ) : readNat (padded width n) = n % 10 ^ width := by
  induction width generalizing n with
  | zero => rw [padded, pow_zero, Nat.mod_one]; rfl
  | succ width ih =>
      rw [padded, readNat_append _ _ (by omega), ih, pow_succ, Nat.mul_comm (10 ^ width),
        Nat.mod_mul, Nat.mul_comm]
      omega

theorem length_padded (width n : ℕ) : (padded width n).length = width := by
  induction width generalizing n with
  | zero => rfl
  | succ width ih => rw [padded, List.length_append, ih]; rfl

/-- The field that begins the text. -/
theorem field_here {width n : ℕ} (hn : n < 10 ^ width) (rest : PyStr) :
    field (padded width n ++ rest) 0 width = n := by
  rw [field, List.drop_zero, List.take_left' (length_padded width n), readNat_padded,
    Nat.mod_eq_of_lt hn]

/-- A field behind another one. -/
theorem field_padded {w n start width : ℕ} (h : w ≤ start) (rest : PyStr) :
    field (padded w n ++ rest) start width = field rest (start - w) width := by
  rw [field, field, List.drop_append, length_padded,
    List.drop_eq_nil_of_le ((length_padded w n).trans_le h), List.nil_append]

/-- A field behind a separator. -/
theorem field_separator {sep : String} {start width : ℕ} (hsep : (py sep).length = 1)
    (h : 1 ≤ start) (rest : PyStr) :
    field (py sep ++ rest) start width = field rest (start - 1) width := by
  rw [field, field, List.drop_append, hsep, List.drop_eq_nil_of_le (hsep.trans_le h),
    List.nil_append]

/-- The text of a timestamp, field by field. -/
theorem canonicalTimestamp_eq (t : Timestamp) :
    canonicalTimestamp t = padded 4 (civil (t.ms / 86400000)).1 ++ (py "-"
      ++ (padded 2 (civil (t.ms / 86400000)).2.1 ++ (py "-"
      ++ (padded 2 (civil (t.ms / 86400000)).2.2 ++ (py "T"
      ++ (padded 2 (t.ms % 86400000 / 3600000) ++ (py ":"
      ++ (padded 2 (t.ms % 86400000 / 60000 % 60) ++ (py ":"
      ++ (padded 2 (t.ms % 86400000 / 1000 % 60) ++ (py "."
      ++ (padded 3 (t.ms % 86400000 % 1000) ++ py "Z")))))))))))) := by
  simp only [← List.append_assoc]
  rfl

theorem isoMs_canonicalTimestamp (t : Timestamp) : isoMs (canonicalTimestamp t) = t.ms := by
  have ht := t.ms_lt
  obtain ⟨hy, hmo, hd⟩ := @civil_bounds (t.ms / 86400000) (by omega)
  have hday := ordinal_civil (t.ms / 86400000)
  rw [isoMs, canonicalTimestamp_eq]
  simp (disch := decide) only [field_padded, field_separator, Nat.reduceSub]
  rw [field_here hy, field_here hmo, field_here hd, field_here (by omega), field_here (by omega),
    field_here (by omega), field_here (by omega), hday]
  omega

/-- **THE READER INVERTS `canonical_timestamp`.** -/
theorem readIso_reads (t : Timestamp) : readIso (canonicalTimestamp t) = .aware t.us := by
  have hms := isoMs_canonicalTimestamp t
  have hlt : isoMs (canonicalTimestamp t) < 3652059 * 86400000 := by
    rw [hms]
    exact t.ms_lt
  have hback : (⟨isoMs (canonicalTimestamp t), hlt⟩ : Timestamp) = t := by
    cases t
    simpa only [Timestamp.mk.injEq] using hms
  rw [readIso, dif_pos hlt, hback, if_pos rfl, hms, Timestamp.us]

/-! ## The assumption on the reader -/

/-- The first instant of the year 1000. -/
def yearThousand : ℕ := 364877 * 86400000

/-- A timestamp in the years 1000 to 9999. -/
def FourDigitYear (t : Timestamp) : Prop := yearThousand ≤ t.ms

/-- A moment in 2026. -/
def moment2026 : Timestamp := ⟨63902908801007, by decide⟩

/-- `datetime.fromisoformat` reads the canonical spelling of every timestamp with a four-digit
    year. -/
def IsoReads (H : Host) : Prop :=
  ∀ t, FourDigitYear t → H.fromisoformat (canonicalTimestamp t) = .aware t.us

theorem normalizeTimestamp_us (t : Timestamp) (h : 0 ≤ t.us) (h' : t.us < maxMicros) :
    normalizeTimestamp ⟨t.us, h, h'⟩ = t := by
  cases t with
  | mk ms ms_lt =>
      simp only [normalizeTimestamp, Timestamp.us, Timestamp.mk.injEq]
      omega

/-- A spelling that was read parses to its timestamp. -/
theorem parseDatetime_aware {H : Host} {t : Timestamp}
    (h : H.fromisoformat (canonicalTimestamp t) = .aware t.us) (name : PyStr) :
    parseDatetime H name (.str (canonicalTimestamp t)) = .ok t := by
  have hlt := t.ms_lt
  have h0 : 0 ≤ t.us := by
    simp only [Timestamp.us]
    omega
  have h1 : t.us < maxMicros := by
    simp only [Timestamp.us, maxMicros]
    omega
  rw [parseDatetime, h]
  show (Datetime.ofMicros t.us >>= fun parsed => Except.ok (normalizeTimestamp parsed)) = _
  rw [Datetime.ofMicros, dif_pos ⟨h0, h1⟩]
  exact congrArg _ (normalizeTimestamp_us t h0 h1)

/-- **WHAT WAS DUMPED PARSES BACK.** -/
theorem parseDatetime_canonical {H : Host} (R : IsoReads H) {t : Timestamp} (ht : FourDigitYear t)
    (name : PyStr) : parseDatetime H name (.str (canonicalTimestamp t)) = .ok t :=
  parseDatetime_aware (R t ht) name

end AgentIsoText
