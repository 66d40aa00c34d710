import AgentId.Signing

/-!
# Wire helpers (`serde.py`)

Timestamps at the precision the wire carries, their one spelling, and the field checks of the
record constructors.  A `Timestamp` is what `normalize_timestamp` returns: an instant in whole
milliseconds, UTC, in the years 1 to 9999.
-/

namespace AgentSerde

open AgentPy AgentJson AgentCanonicalText AgentSigning

/-- A normalised timestamp: milliseconds since 0001-01-01T00:00:00Z. -/
structure Timestamp where
  ms : ℕ
  ms_lt : ms < 3652059 * 86400000
  deriving DecidableEq

/-- The first instant of year 1. -/
def Timestamp.zero : Timestamp := ⟨0, by decide⟩

/-- The instant of a timestamp, in microseconds. -/
def Timestamp.us (t : Timestamp) : Int := t.ms * 1000

/-- `normalize_timestamp`: UTC, truncated to milliseconds. -/
def normalizeTimestamp (value : Datetime) : Timestamp :=
  ⟨value.us.toNat / 1000, by
    have h1 := value.us_nonneg
    have h2 := value.us_lt
    unfold maxMicros at h2
    omega⟩

/-! ## The proleptic Gregorian calendar, as `datetime` counts it -/

def daysBeforeMonth (leap : Bool) (month : ℕ) : ℕ :=
  [0, 31, 59, 90, 120, 151, 181, 212, 243, 273, 304, 334].getD (month - 1) 0
    + if leap && 2 < month then 1 else 0

/-- Year, month and day of a day counted from 0001-01-01 (`_ord2ymd`). -/
def civil (day : ℕ) : ℕ × ℕ × ℕ :=
  let n400 := day / 146097
  let n := day % 146097
  let n100 := n / 36524
  let n := n % 36524
  let n4 := n / 1461
  let n := n % 1461
  let n1 := n / 365
  let n := n % 365
  let year := n400 * 400 + n100 * 100 + n4 * 4 + n1 + 1
  if n1 = 4 ∨ n100 = 4 then (year - 1, 12, 31)
  else
    let leap := n1 = 3 ∧ (n4 ≠ 24 ∨ n100 = 3)
    let guess := (n + 50) / 32
    let month := if n < daysBeforeMonth leap guess then guess - 1 else guess
    (year, month, n - daysBeforeMonth leap month + 1)

/-- The last `width` decimal digits of a number. -/
def padded : ℕ → ℕ → PyStr
  | 0, _ => []
  | width + 1, n => padded width (n / 10) ++ [(py "0123456789").getD (n % 10) 0]

/-- `canonical_timestamp`: RFC 3339 UTC with exactly three fractional digits. -/
def canonicalTimestamp (value : Timestamp) : PyStr :=
  let (year, month, day) := civil (value.ms / 86400000)
  let ms := value.ms % 86400000
  padded 4 year ++ py "-" ++ padded 2 month ++ py "-" ++ padded 2 day ++ py "T"
    ++ padded 2 (ms / 3600000) ++ py ":" ++ padded 2 (ms / 60000 % 60) ++ py ":"
    ++ padded 2 (ms / 1000 % 60) ++ py "." ++ padded 3 (ms % 1000) ++ py "Z"

example : canonicalTimestamp ⟨63902908801007, by decide⟩ = py "2026-01-02T00:00:01.007Z" := by
  decide +kernel

/-- A digit needs no escape. -/
theorem isPlain_digit : ∀ n < 10, ((py "0123456789").getD n 0).val < 128 ∧
    0x20 ≤ ((py "0123456789").getD n 0).val ∧ (py "0123456789").getD n 0 ≠ quote ∧
    (py "0123456789").getD n 0 ≠ backslash := by decide

/-- A number padded with zeros needs no escape. -/
theorem isPlain_padded (width n : ℕ) : IsPlain (padded width n) := by
  induction width generalizing n with
  | zero =>
      intro c hc
      exact nomatch hc
  | succ width ih =>
      rw [padded, isPlain_append]
      refine ⟨ih _, ?_⟩
      intro c hc
      rw [List.mem_singleton.mp hc]
      exact isPlain_digit _ (by omega)

/-- A timestamp's text needs no escaping. -/
theorem isPlain_canonicalTimestamp (value : Timestamp) : IsPlain (canonicalTimestamp value) := by
  simp only [canonicalTimestamp, isPlain_append, isPlain_padded, true_and, and_true]
  decide

/-- A canonical timestamp is ASCII. -/
theorem asciiJson_timestamp (value : Timestamp) :
    AsciiJson (.str (canonicalTimestamp value)) :=
  .str (isPlain_canonicalTimestamp value).isAscii

/-! ## Field checks -/

/-- `data[name]` -/
def getField (data : Members) (name : PyStr) : Py Json :=
  match data.lookup name with
  | some v => .ok v
  | none => raise .keyError [.repr name]

/-- A field is read when it is there. -/
theorem getField_ok_iff {data : Members} {name : PyStr} {v : Json} :
    getField data name = .ok v ↔ data.lookup name = some v := by
  rw [getField]
  cases data.lookup name with
  | none => exact ⟨fun h => absurd h (by simp [raise]), fun h => absurd h (by simp)⟩
  | some w => exact ⟨fun h => congrArg _ (Except.ok.inj h), fun h => congrArg _ (Option.some.inj h)⟩

/-- `data.get(name, default)` -/
def getFieldOr (data : Members) (name : PyStr) (dflt : Json) : Json :=
  (data.lookup name).getD dflt

/-- `type(value).__name__` -/
def typeName : Json → String
  | .null => "NoneType"
  | .bool _ => "bool"
  | .int _ => "int"
  | .float _ => "float"
  | .str _ => "str"
  | .arr _ => "list"
  | .obj _ => "dict"

/-- `require_str` -/
def requireStr (name : PyStr) : Json → Py PyStr
  | .str s => .ok s
  | value => raise .typeError [.str name, " must be a string, got ", typeName value]

/-- A string passes as it is. -/
theorem requireStr_ok_iff {name : PyStr} {v : Json} {s : PyStr} :
    requireStr name v = .ok s ↔ v = .str s := by
  cases v <;> simp [requireStr, raise]

/-- A list of wire values is read as strings when each of them is one. -/
theorem mapM_requireStr_ok_iff {name : PyStr} {items : List Json} {names : List PyStr} :
    items.mapM (requireStr name) = .ok names ↔ items = names.map .str :=
  mapM_ok_iff_eq_map fun _ _ => requireStr_ok_iff

/-- `require_mapping` -/
def requireMapping (name : PyStr) : Json → Py Members
  | .obj members => .ok members
  | value => raise .typeError [.str name, " must be a mapping, got ", typeName value]

/-- An object passes as it is. -/
theorem requireMapping_ok_iff {name : PyStr} {v : Json} {members : Members} :
    requireMapping name v = .ok members ↔ v = .obj members := by
  cases v <;> simp [requireMapping, raise]

/-- `data.items()` -/
def getItems : Json → Py Members
  | .obj members => .ok members
  | _ => raise .attributeError ["no attribute items"]

/-- What iterating over a wire value yields: a `dict` its keys, a `str` its characters. -/
def iterate : Json → Py (List Json)
  | .arr items => .ok items
  | .str s => .ok (s.map fun c => .str [c])
  | .obj members => .ok (members.map fun m => .str m.1)
  | _ => raise .typeError ["not iterable"]

/-- The strings an iterable of strings yields. -/
def requireStrs (name : PyStr) (value : Json) : Py (List PyStr) := do
  let items ← iterate value
  items.mapM (requireStr name)

/-- `parse_datetime` of a wire value, which is never a `datetime` object. -/
def parseDatetime (H : Host) (name : PyStr) : Json → Py Timestamp
  | .str s =>
      match H.fromisoformat s with
      | .invalid => raise .valueError [.str name, " is not a valid ISO-8601 datetime: ", .repr s]
      | .naive => raise .valueError [.str name, " must carry a timezone offset: ", .repr s]
      | .aware us => do
          let parsed ← Datetime.ofMicros us
          .ok (normalizeTimestamp parsed)
  | _ => raise .typeError [.str name, " must be a datetime or ISO-8601 string"]

end AgentSerde
