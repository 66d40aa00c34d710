import AgentId.IsoText
import AgentId.TsSigning

/-!
# Timestamps in TypeScript (`serde.ts`)

`parseTimestamp` matches a text against one regular expression and computes the instant with
`Date.UTC`, which lets a month or a day that does not exist run over into the next.

* **`tsParseTimestamp_canonical`** — a canonical timestamp with a four-digit year is read back.
-/

namespace AgentTsTimestamp

open AgentPy AgentJson AgentSigning AgentTsCanonical AgentTsSigning AgentSerde AgentIsoText

/-! ## `OFFSET_RE` -/

/-- `\d` -/
def isDigit (c : CodePoint) : Bool := 0x30 ≤ c.val ∧ c.val ≤ 0x39

/-- `(\d{n})` as a number, and what is left. -/
def readDigits : ℕ → ℕ → PyStr → Option (ℕ × PyStr)
  | 0, value, s => some (value, s)
  | _ + 1, _, [] => none
  | n + 1, value, c :: s =>
      if isDigit c then readDigits n (value * 10 + (c.val - 0x30)) s else none

/-- One of the characters, and what is left. -/
def oneOf (chars : PyStr) : PyStr → Option PyStr
  | [] => none
  | c :: s => if chars.contains c then some s else none

/-- `(\.\d+)?`, cut to milliseconds as `parseTimestamp` does. -/
def fractionMs : PyStr → ℕ × PyStr
  | [] => (0, [])
  | c :: s =>
      -- no digit can begin the offset, so the run of digits is the whole of it
      if c = codePoint '.' ∧ s.takeWhile isDigit ≠ [] then
        (readNat ((s.takeWhile isDigit ++ py "000").take 3), s.dropWhile isDigit)
      else (0, c :: s)

/-- `(Z|z|[+-]\d{2}:?\d{2})$` in minutes. -/
def offsetMinutes : PyStr → Option Int
  | [] => none
  | c :: s =>
      if (py "Zz").contains c then if s = [] then some 0 else none
      else if (py "+-").contains c then do
        let (oh, s) ← readDigits 2 0 s
        let (om, s) ← readDigits 2 0 (if s.head? = some (codePoint ':') then s.tail else s)
        if s = [] then some ((if c = codePoint '-' then -1 else 1) * (oh * 60 + om)) else none
      else none

/-- What the groups of a match hold. -/
structure OffsetMatch where
  year : ℕ
  month : ℕ
  day : ℕ
  hour : ℕ
  minute : ℕ
  second : ℕ
  ms : ℕ
  offset : Int

/-- `OFFSET_RE.exec(value)` -/
def offsetRe (value : PyStr) : Option OffsetMatch := do
  let (year, s) ← readDigits 4 0 value
  let s ← oneOf (py "-") s
  let (month, s) ← readDigits 2 0 s
  let s ← oneOf (py "-") s
  let (day, s) ← readDigits 2 0 s
  let s ← oneOf (py "T ") s
  let (hour, s) ← readDigits 2 0 s
  let s ← oneOf (py ":") s
  let (minute, s) ← readDigits 2 0 s
  let s ← oneOf (py ":") s
  let (second, s) ← readDigits 2 0 s
  let offset ← offsetMinutes (fractionMs s).2
  some ⟨year, month, day, hour, minute, second, (fractionMs s).1, offset⟩

/-! ## `parseTimestamp` -/

/-- `Date.UTC(…)` of the fields of a match, counted from 0001-01-01.  Years below 100 are of the
    twentieth century. -/
def dateUtc (m : OffsetMatch) : Int :=
  let year := if m.year < 100 then 1900 + m.year else m.year
  let months := year * 12 + m.month - 1
  let firstOfMonth :=
    daysBeforeYear (months / 12) + daysBeforeMonth (isLeap (months / 12)) (months % 12 + 1)
  (firstOfMonth + m.day - 1 : Int) * 86400000 + m.hour * 3600000 + m.minute * 60000
    + m.second * 1000 + m.ms

/-- `new Date(epoch)`: a `Timestamp` holds the dates of the years 1 to 9999, and the later ones
    that a match can name are outside the model. -/
def newDate (name : PyStr) (epoch : Int) : Js Timestamp :=
  if h : epoch.toNat < 3652059 * 86400000 then .ok ⟨epoch.toNat, h⟩
  else throwNew .error [.str name, " is not a valid datetime"]

/-- `parseTimestamp` of a wire value, which is never a `Date`. -/
def tsParseTimestamp (name : PyStr) : Option JsonValue → Js Timestamp
  | some (.string s) =>
      match offsetRe s with
      | none => throwNew .error
          [.str name, " must be an ISO-8601 datetime carrying a timezone offset: ",
            .str (quote :: (stringify s ++ [quote]))]
      | some m => newDate name (dateUtc m - m.offset * 60000)
  | _ => throwNew .typeError [.str name, " must be a Date or ISO-8601 string"]

/-! ## Reading the canonical spelling -/

theorem isDigit_digit : ∀ n < 10, isDigit ((py "0123456789").getD n 0) = true := by decide

theorem isDigit_padded (width n : ℕ) : ∀ c ∈ padded width n, isDigit c = true := by
  induction width generalizing n with
  | zero => exact fun c hc => absurd hc List.not_mem_nil
  | succ width ih =>
      intro c hc
      rw [padded] at hc
      rcases List.mem_append.mp hc with hc | hc
      · exact ih _ c hc
      · rw [List.mem_singleton.mp hc]
        exact isDigit_digit _ (Nat.mod_lt _ (by decide))

/-- Digits are read off the front, most significant first. -/
theorem readDigits_padded (width n value : ℕ) (rest : PyStr) (k : ℕ) :
    readDigits (width + k) value (padded width n ++ rest)
      = readDigits k (value * 10 ^ width + n % 10 ^ width) rest := by
  induction width generalizing n k rest with
  | zero =>
      rw [padded, List.nil_append, Nat.zero_add, pow_zero, mul_one, Nat.mod_one, add_zero]
  | succ width ih =>
      have hlt : n % 10 < 10 := Nat.mod_lt _ (by decide)
      have hvalue : (value * 10 ^ width + n / 10 % 10 ^ width) * 10 + n % 10
          = value * 10 ^ (width + 1) + n % 10 ^ (width + 1) := by
        rw [pow_succ', Nat.mod_mul]
        ring
      rw [padded, List.append_assoc, show width + 1 + k = width + (k + 1) by omega, ih,
        List.singleton_append, readDigits, if_pos (isDigit_digit _ hlt), digit_val _ hlt, hvalue]

/-- A field of its own width is read whole. -/
theorem readDigits_field {width n : ℕ} (hn : n < 10 ^ width) (rest : PyStr) :
    readDigits width 0 (padded width n ++ rest) = some (n, rest) := by
  have h := readDigits_padded width n 0 rest 0
  rw [add_zero, zero_mul, zero_add, Nat.mod_eq_of_lt hn] at h
  rw [h, readDigits]

/-- The fraction of a canonical timestamp. -/
theorem fractionMs_canonical {ms : ℕ} (hms : ms < 1000) :
    fractionMs (py "." ++ (padded 3 ms ++ py "Z")) = (ms, py "Z") := by
  have hspan : (padded 3 ms ++ py "Z").takeWhile isDigit = padded 3 ms ∧
      (padded 3 ms ++ py "Z").dropWhile isDigit = py "Z" := by
    have hdigits := isDigit_padded 3 ms
    exact ⟨by rw [List.takeWhile_append_of_pos hdigits]; exact List.append_nil _,
      by rw [List.dropWhile_append_of_pos hdigits]; rfl⟩
  have hne : padded 3 ms ≠ [] := by
    rw [← List.length_pos_iff, length_padded]
    decide
  have hread : readNat ((padded 3 ms ++ py "000").take 3) = ms := by
    rw [List.take_left' (length_padded 3 ms), readNat_padded]
    exact Nat.mod_eq_of_lt hms
  rw [show py "." = [codePoint '.'] from rfl, List.singleton_append, fractionMs, hspan.1, hspan.2,
    if_pos ⟨rfl, hne⟩, hread]

/-- What the expression finds in a canonical timestamp. -/
theorem offsetRe_canonical (t : Timestamp) : offsetRe (canonicalTimestamp t)
    = some ⟨(civil (t.ms / 86400000)).1, (civil (t.ms / 86400000)).2.1,
        (civil (t.ms / 86400000)).2.2, t.ms % 86400000 / 3600000, t.ms % 86400000 / 60000 % 60,
        t.ms % 86400000 / 1000 % 60, t.ms % 86400000 % 1000, 0⟩ := by
  have ht := t.ms_lt
  obtain ⟨hy, hmo, hd⟩ := @civil_bounds (t.ms / 86400000) (by omega)
  have hone : ∀ {sep chars : PyStr} {c : CodePoint} (s : PyStr), sep = [c] → c ∈ chars →
      oneOf chars (sep ++ s) = some s := by
    intro sep chars c s hsep hc
    rw [hsep, List.singleton_append, oneOf, if_pos (List.contains_iff_mem.mpr hc)]
  have hdash : ∀ s, oneOf (py "-") (py "-" ++ s) = some s := fun s => hone s rfl (by decide)
  have hletter : ∀ s, oneOf (py "T ") (py "T" ++ s) = some s := fun s => hone s rfl (by decide)
  have hcolon : ∀ s, oneOf (py ":") (py ":" ++ s) = some s := fun s => hone s rfl (by decide)
  have hfraction := fractionMs_canonical (show t.ms % 86400000 % 1000 < 1000 by omega)
  have hoffset : offsetMinutes (py "Z") = some 0 := by decide
  rw [canonicalTimestamp_eq]
  -- one group of the expression after the other
  refine Option.bind_eq_some_iff.mpr ⟨_, @readDigits_field 4 _ hy _, ?_⟩
  refine Option.bind_eq_some_iff.mpr ⟨_, hdash _, ?_⟩
  refine Option.bind_eq_some_iff.mpr ⟨_, @readDigits_field 2 _ hmo _, ?_⟩
  refine Option.bind_eq_some_iff.mpr ⟨_, hdash _, ?_⟩
  refine Option.bind_eq_some_iff.mpr ⟨_, @readDigits_field 2 _ hd _, ?_⟩
  refine Option.bind_eq_some_iff.mpr ⟨_, hletter _, ?_⟩
  refine Option.bind_eq_some_iff.mpr ⟨_, readDigits_field (by omega) _, ?_⟩
  refine Option.bind_eq_some_iff.mpr ⟨_, hcolon _, ?_⟩
  refine Option.bind_eq_some_iff.mpr ⟨_, readDigits_field (by omega) _, ?_⟩
  refine Option.bind_eq_some_iff.mpr ⟨_, hcolon _, ?_⟩
  refine Option.bind_eq_some_iff.mpr ⟨_, readDigits_field (by omega) _, ?_⟩
  simp only [hfraction]
  exact Option.bind_eq_some_iff.mpr ⟨_, hoffset, rfl⟩

/-- **WHAT WAS WRITTEN IS READ BACK.** -/
theorem tsParseTimestamp_canonical {t : Timestamp} (ht : FourDigitYear t) (name : PyStr) :
    tsParseTimestamp name (some (.string (canonicalTimestamp t))) = .ok t := by
  have hday : 36525 ≤ t.ms / 86400000 := by
    simp only [FourDigitYear, yearThousand] at ht
    omega
  have hyear := hundred_le_year hday
  obtain ⟨hmonth, hmonth', hfirst, -⟩ := civil_month (t.ms / 86400000)
  have hordinal := ordinal_civil (t.ms / 86400000)
  generalize hc : civil (t.ms / 86400000) = date at *
  obtain ⟨year, month, day⟩ := date
  have hmonths : (year * 12 + month - 1) / 12 = year ∧ (year * 12 + month - 1) % 12 + 1 = month := by
    simp only at hmonth hmonth'
    omega
  have hepoch : dateUtc ⟨year, month, day, t.ms % 86400000 / 3600000,
      t.ms % 86400000 / 60000 % 60, t.ms % 86400000 / 1000 % 60, t.ms % 86400000 % 1000, 0⟩
      = t.ms := by
    simp only [ordinal] at hordinal
    simp only [dateUtc, if_neg (not_lt.mpr hyear), hmonths.1, hmonths.2]
    simp only at hordinal hfirst
    omega
  rw [tsParseTimestamp, offsetRe_canonical]
  simp only [hc, hepoch, zero_mul, sub_zero]
  exact dif_pos t.ms_lt

end AgentTsTimestamp
