import Mathlib.Data.List.Sort
import AgentId.Py

/-!
# Canonical JSON (`canonical.py`)

`canonicalJson` is the byte form every signature covers: no floats, members sorted by key, no
insignificant whitespace, the whole text NFC-normalised, UTF-8.  Normalisation is a parameter,
since the Unicode tables are not in the repository; `NfcLaws` states the documented facts about
NFC that reading a field back out of the text needs.
-/

namespace AgentJson

open AgentPy

/-- A parsed JSON value.  A float keeps its bits and nothing is computed with them: the
    canonical form refuses every float. -/
inductive Json where
  | null
  | bool (b : Bool)
  | int (n : Int)
  | float (bits : UInt64)
  | str (s : PyStr)
  | arr (items : List Json)
  | obj (members : List (PyStr × Json))

/-- A `dict` with string keys, in insertion order. -/
abbrev Members := List (PyStr × Json)

/-! ## `_reject_floats` -/

mutual

def rejectFloats : Json → Py Unit
  | .float _ => raise .valueError
      ["floats are not allowed in canonical (signed) payloads — ",
        "use an integer (e.g. milliseconds) or a string"]
  | .obj members => rejectFloatsMembers members
  | .arr items => rejectFloatsItems items
  | _ => .ok ()

def rejectFloatsItems : List Json → Py Unit
  | [] => .ok ()
  | v :: items => do
      rejectFloats v
      rejectFloatsItems items

def rejectFloatsMembers : List (PyStr × Json) → Py Unit
  | [] => .ok ()
  | (_, v) :: members => do
      rejectFloats v
      rejectFloatsMembers members

end

/-! ## `json.dumps` with sorted keys and no whitespace -/

def quote : CodePoint := codePoint '"'

def backslash : CodePoint := 0x5C

/-- The lower-case hexadecimal digit of a number below 16. -/
def hexDigit (n : ℕ) : CodePoint := (py "0123456789abcdef").getD n 0

/-- How `json.dumps` spells one character of a string with `ensure_ascii=False`. -/
def escapeChar (c : CodePoint) : PyStr :=
  if c = quote then [backslash, quote]
  else if c = backslash then [backslash, backslash]
  else if c.val = 0x0A then py "\\n"
  else if c.val = 0x0D then py "\\r"
  else if c.val = 0x09 then py "\\t"
  else if c.val = 0x0C then py "\\f"
  else if c.val = 0x08 then py "\\b"
  else if c.val < 0x20 then py "\\u00" ++ [hexDigit (c.val / 16), hexDigit (c.val % 16)]
  else [c]

def escape (s : PyStr) : PyStr := s.flatMap escapeChar

/-- A JSON string token. -/
def quoted (s : PyStr) : PyStr := quote :: (escape s ++ [quote])

def natText (n : ℕ) : PyStr := (Nat.toDigits 10 n).map codePoint

/-- `int.__repr__` -/
def intText (n : Int) : PyStr := if n < 0 then py "-" ++ natText n.natAbs else natText n.natAbs

/-- `sort_keys=True` on the members of one object. -/
def sortKeys {α : Type} (members : List (PyStr × α)) : List (PyStr × α) :=
  members.insertionSort (fun a b => a.1 ≤ b.1)

/-- One member of an object, its value already written. -/
def memberText (member : PyStr × PyStr) : PyStr := quoted member.1 ++ py ":" ++ member.2

mutual

def dumps : Json → PyStr
  | .null => py "null"
  | .bool true => py "true"
  | .bool false => py "false"
  | .int n => intText n
  -- not reached from `canonicalJson`: `rejectFloats` has raised
  | .float _ => []
  | .str s => quoted s
  | .arr items => py "[" ++ (py ",").intercalate (dumpsItems items) ++ py "]"
  | .obj members =>
      py "\x7b" ++ (py ",").intercalate ((sortKeys (dumpsMembers members)).map memberText)
        ++ py "\x7d"

def dumpsItems : List Json → List PyStr
  | [] => []
  | v :: items => dumps v :: dumpsItems items

def dumpsMembers : List (PyStr × Json) → List (PyStr × PyStr)
  | [] => []
  | (k, v) :: members => (k, dumps v) :: dumpsMembers members

end

/-- `canonical_json`, with `unicodedata.normalize("NFC", ·)` as `nfc`. -/
def canonicalJson (nfc : PyStr → PyStr) (data : Json) : Py Bytes := do
  rejectFloats data
  utf8Encode (nfc (dumps data))

end AgentJson
