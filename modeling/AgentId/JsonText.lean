import AgentId.Json
import AgentId.Utf16

/-!
# `json.dumps` and `json.loads`

The text `json.dumps` writes with its defaults: members in their order, a space after each
separator, everything outside printable ASCII escaped, a character beyond U+FFFF as two escapes.
`json.loads` reads two escapes of a surrogate pair as one character, so a string that holds the two
halves of a pair side by side comes back with the one character in their place.

* **`join_eq_self_iff`** — which strings hold no such halves.
* **`scanString_escapeAscii`** — what is read back of a string.
* **`loads_dumpsText`** — what is read back of an object of strings.
-/

namespace AgentJsonText

open AgentPy AgentJson AgentUtf16

/-! ## `json.dumps` -/

/-- The four hexadecimal digits of a code unit (`{:04x}`). -/
def hexFour (n : ℕ) : PyStr :=
  [hexDigit (n / 4096 % 16), hexDigit (n / 256 % 16), hexDigit (n / 16 % 16), hexDigit (n % 16)]

/-- `\uXXXX` -/
def unitEscape (n : ℕ) : PyStr := backslash :: codePoint 'u' :: hexFour n

/-- How `json.dumps` spells one character of a string with `ensure_ascii=True`. -/
def escapeAsciiChar (c : CodePoint) : PyStr :=
  if c = quote then [backslash, quote]
  else if c = backslash then [backslash, backslash]
  else if c.val = 0x0A then [backslash, codePoint 'n']
  else if c.val = 0x0D then [backslash, codePoint 'r']
  else if c.val = 0x09 then [backslash, codePoint 't']
  else if c.val = 0x0C then [backslash, codePoint 'f']
  else if c.val = 0x08 then [backslash, codePoint 'b']
  else if 0x20 ≤ c.val ∧ c.val ≤ 0x7E then [c]
  else (units c).flatMap unitEscape

def escapeAscii (s : PyStr) : PyStr := s.flatMap escapeAsciiChar

/-- A string token. -/
def quotedAscii (s : PyStr) : PyStr := quote :: (escapeAscii s ++ [quote])

/-- One member of an object, its value already written. -/
def memberAscii (member : PyStr × PyStr) : PyStr := quotedAscii member.1 ++ py ": " ++ member.2

mutual

/-- `json.dumps(value)`, with `float.__repr__` as `repr`. -/
def dumpsText (repr : UInt64 → PyStr) : Json → PyStr
  | .null => py "null"
  | .bool true => py "true"
  | .bool false => py "false"
  | .int n => intText n
  | .float bits => repr bits
  | .str s => quotedAscii s
  | .arr items => py "[" ++ (py ", ").intercalate (dumpsTextItems repr items) ++ py "]"
  | .obj members =>
      py "\x7b" ++ (py ", ").intercalate ((dumpsTextMembers repr members).map memberAscii)
        ++ py "\x7d"

def dumpsTextItems (repr : UInt64 → PyStr) : List Json → List PyStr
  | [] => []
  | v :: items => dumpsText repr v :: dumpsTextItems repr items

def dumpsTextMembers (repr : UInt64 → PyStr) : Members → List (PyStr × PyStr)
  | [] => []
  | (k, v) :: members => (k, dumpsText repr v) :: dumpsTextMembers repr members

end

/-! ## `json.loads`: strings -/

/-- The first half of a surrogate pair, and the second. -/
def IsHigh (n : ℕ) : Prop := 0xD800 ≤ n ∧ n ≤ 0xDBFF

def IsLow (n : ℕ) : Prop := 0xDC00 ≤ n ∧ n ≤ 0xDFFF

instance isHighDecidable (n : ℕ) : Decidable (IsHigh n) := inferInstanceAs (Decidable (_ ∧ _))

instance isLowDecidable (n : ℕ) : Decidable (IsLow n) := inferInstanceAs (Decidable (_ ∧ _))

/-- `chr` -/
def chr (n : ℕ) : CodePoint := Fin.ofNat 0x110000 n

/-- The character a surrogate pair stands for. -/
def pairOf (high low : ℕ) : CodePoint := chr (0x10000 + (high - 0xD800) * 0x400 + (low - 0xDC00))

/-- The value of a hexadecimal digit, in either case. -/
def hexValue (c : CodePoint) : Option ℕ :=
  if 0x30 ≤ c.val ∧ c.val ≤ 0x39 then some (c.val - 0x30)
  else if 0x41 ≤ c.val ∧ c.val ≤ 0x46 then some (c.val - 0x37)
  else if 0x61 ≤ c.val ∧ c.val ≤ 0x66 then some (c.val - 0x57)
  else none

/-- `_decode_uXXXX`: the unit, and the text behind it. -/
def scanHex : PyStr → Py (ℕ × PyStr)
  | a :: b :: c :: d :: rest =>
      match hexValue a, hexValue b, hexValue c, hexValue d with
      | some a, some b, some c, some d => .ok (a * 4096 + b * 256 + c * 16 + d, rest)
      | _, _, _, _ => raise .valueError ["Invalid \\uXXXX escape"]
  | _ => raise .valueError ["Invalid \\uXXXX escape"]

/-- A unit that was read: the first half of a pair takes the second from the next escape. -/
def joinLow (unit : ℕ) (rest : PyStr) : Py (CodePoint × PyStr) :=
  match rest with
  | b :: u :: behind =>
      if IsHigh unit ∧ b = backslash ∧ u = codePoint 'u' then do
        let (second, behind) ← scanHex behind
        if IsLow second then .ok (pairOf unit second, behind) else .ok (chr unit, rest)
      else .ok (chr unit, rest)
  | _ => .ok (chr unit, rest)

/-- `BACKSLASH` -/
def simpleEscape (e : CodePoint) : Option CodePoint :=
  if e = quote then some quote
  else if e = backslash then some backslash
  else if e = codePoint '/' then some (codePoint '/')
  else if e = codePoint 'b' then some (chr 0x08)
  else if e = codePoint 'f' then some (chr 0x0C)
  else if e = codePoint 'n' then some (chr 0x0A)
  else if e = codePoint 'r' then some (chr 0x0D)
  else if e = codePoint 't' then some (chr 0x09)
  else none

/-- What stands behind a backslash. -/
def scanEscape : PyStr → Py (CodePoint × PyStr)
  | [] => raise .valueError ["Unterminated string starting at"]
  | e :: rest =>
      if e = codePoint 'u' then do
        let (unit, rest) ← scanHex rest
        joinLow unit rest
      else
        match simpleEscape e with
        | some c => .ok (c, rest)
        | none => raise .valueError ["Invalid \\escape: "]

/-- `scanstring`: the string up to the closing quote, and the text behind it.  Each step takes a
    character of the text, so its length is fuel enough. -/
def scanString : ℕ → PyStr → Py (PyStr × PyStr)
  | 0, _ => raise .valueError ["Unterminated string starting at"]
  | _ + 1, [] => raise .valueError ["Unterminated string starting at"]
  | n + 1, c :: rest =>
      if c = quote then .ok ([], rest)
      else if c = backslash then do
        let (c, rest) ← scanEscape rest
        let (s, rest) ← scanString n rest
        .ok (c :: s, rest)
      else if c.val < 0x20 then raise .valueError ["Invalid control character at"]
      else do
        let (s, rest) ← scanString n rest
        .ok (c :: s, rest)

/-! ## `json.loads`: values -/

/-- The text from the first character on that is no whitespace. -/
def skipSpace (text : PyStr) : PyStr :=
  text.dropWhile fun c => c.val = 0x20 ∨ c.val = 0x09 ∨ c.val = 0x0A ∨ c.val = 0x0D

def isDigit (c : CodePoint) : Bool := 0x30 ≤ c.val ∧ c.val ≤ 0x39

/-- `int` of a run of digits. -/
def digitsValue (digits : PyStr) : ℕ := digits.foldl (fun n c => n * 10 + (c.val - 0x30)) 0

/-- The digits a text begins with, and the text behind them. -/
def spanDigits (text : PyStr) : PyStr × PyStr := (text.takeWhile isDigit, text.dropWhile isDigit)

/-- The part of `NUMBER_RE` before the fraction: no leading zero. -/
def integerPart : PyStr → Option (PyStr × PyStr)
  | [] => none
  | c :: rest =>
      if c = codePoint '0' then some ([c], rest)
      else if isDigit c then some (c :: (spanDigits rest).1, (spanDigits rest).2)
      else none

/-- A mark and the digits behind it, when there are any. -/
def markedDigits (isMark : CodePoint → Bool) (signed : Bool) : PyStr → PyStr × PyStr
  | [] => ([], [])
  | c :: rest =>
      let (sign, behind) := match rest with
        | s :: behind =>
            if signed ∧ (s = codePoint '+' ∨ s = codePoint '-') then ([s], behind) else ([], rest)
        | [] => ([], rest)
      let (digits, behind) := spanDigits behind
      if isMark c ∧ digits ≠ [] then (c :: (sign ++ digits), behind) else ([], c :: rest)

/-- `NUMBER_RE` and what is made of its match, with `float` as `parseFloat`. -/
def scanNumber (parseFloat : PyStr → UInt64) (text : PyStr) : Option (Json × PyStr) :=
  let (sign, body) := match text with
    | c :: rest => if c = codePoint '-' then ([c], rest) else ([], text)
    | [] => ([], text)
  match integerPart body with
  | none => none
  | some (digits, rest) =>
      let (fraction, rest) := markedDigits (· = codePoint '.') false rest
      let (exponent, rest) := markedDigits (fun c => c = codePoint 'e' ∨ c = codePoint 'E') true rest
      if fraction = [] ∧ exponent = [] then
        some (.int (if sign = [] then digitsValue digits else -digitsValue digits), rest)
      else some (.float (parseFloat (sign ++ digits ++ fraction ++ exponent)), rest)

/-- The text behind a literal it begins with. -/
def afterLiteral (literal : String) (text : PyStr) : Option PyStr :=
  if py literal <+: text then some (text.drop (py literal).length) else none

/-- A literal or a number. -/
def scanAtom (parseFloat : PyStr → UInt64) (text : PyStr) : Py (Json × PyStr) :=
  match afterLiteral "null" text, afterLiteral "true" text, afterLiteral "false" text with
  | some rest, _, _ => .ok (.null, rest)
  | _, some rest, _ => .ok (.bool true, rest)
  | _, _, some rest => .ok (.bool false, rest)
  | none, none, none =>
      match scanNumber parseFloat text with
      | some found => .ok found
      | none =>
          match afterLiteral "NaN" text, afterLiteral "Infinity" text, afterLiteral "-Infinity" text with
          | some rest, _, _ => .ok (.float (parseFloat (py "NaN")), rest)
          | _, some rest, _ => .ok (.float (parseFloat (py "Infinity")), rest)
          | _, _, some rest => .ok (.float (parseFloat (py "-Infinity")), rest)
          | none, none, none => raise .valueError ["Expecting value"]

/-- `dict(pairs)`: a key that comes again keeps its place and takes the last value. -/
def dictOf (pairs : Members) : Members :=
  pairs.foldl (fun dict m =>
    if m.1 ∈ dict.map Prod.fst then dict.map fun entry => if entry.1 = m.1 then m else entry
    else dict ++ [m]) []

/-- The text behind one character, with space before it. -/
def expectChar (c : Char) (message : String) (text : PyStr) : Py PyStr :=
  match skipSpace text with
  | d :: rest => if d = codePoint c then .ok rest else raise .valueError [message]
  | [] => raise .valueError [message]

mutual

/-- `scan_once` -/
def scanValue (parseFloat : PyStr → UInt64) : ℕ → PyStr → Py (Json × PyStr)
  | 0, _ => raise .valueError ["Expecting value"]
  | _ + 1, [] => raise .valueError ["Expecting value"]
  | n + 1, c :: rest =>
      if c = quote then do
        let (s, rest) ← scanString (rest.length + 1) rest
        .ok (.str s, rest)
      else if c = codePoint '{' then
        match skipSpace rest with
        | d :: behind =>
            if d = codePoint '}' then .ok (.obj [], behind)
            else if d = quote then do
              let (pairs, rest) ← scanPairs parseFloat n behind
              .ok (.obj (dictOf pairs), rest)
            else raise .valueError ["Expecting property name enclosed in double quotes"]
        | [] => raise .valueError ["Expecting property name enclosed in double quotes"]
      else if c = codePoint '[' then
        match skipSpace rest with
        | d :: behind =>
            if d = codePoint ']' then .ok (.arr [], behind)
            else do
              let (items, rest) ← scanItems parseFloat n (d :: behind)
              .ok (.arr items, rest)
        | [] => raise .valueError ["Expecting value"]
      else scanAtom parseFloat (c :: rest)

/-- The members of an object, from behind the quote of a key to behind the closing brace. -/
def scanPairs (parseFloat : PyStr → UInt64) : ℕ → PyStr → Py (Members × PyStr)
  | 0, _ => raise .valueError ["Expecting value"]
  | n + 1, text => do
      let (key, rest) ← scanString (text.length + 1) text
      let rest ← expectChar ':' "Expecting ':' delimiter" rest
      let (value, rest) ← scanValue parseFloat n (skipSpace rest)
      match skipSpace rest with
      | d :: behind =>
          if d = codePoint '}' then .ok ([(key, value)], behind)
          else if d = codePoint ',' then do
            let rest ← expectChar '"' "Expecting property name enclosed in double quotes" behind
            let (pairs, rest) ← scanPairs parseFloat n rest
            .ok ((key, value) :: pairs, rest)
          else raise .valueError ["Expecting ',' delimiter"]
      | [] => raise .valueError ["Expecting ',' delimiter"]

/-- The items of an array, from the first one to behind the closing bracket. -/
def scanItems (parseFloat : PyStr → UInt64) : ℕ → PyStr → Py (List Json × PyStr)
  | 0, _ => raise .valueError ["Expecting value"]
  | n + 1, text => do
      let (value, rest) ← scanValue parseFloat n text
      match skipSpace rest with
      | d :: behind =>
          if d = codePoint ']' then .ok ([value], behind)
          else if d = codePoint ',' then do
            let (items, rest) ← scanItems parseFloat n (skipSpace behind)
            .ok (value :: items, rest)
          else raise .valueError ["Expecting ',' delimiter"]
      | [] => raise .valueError ["Expecting ',' delimiter"]

end

/-- `json.loads` of a text, with `float` as `parseFloat`. -/
def loads (parseFloat : PyStr → UInt64) (text : PyStr) : Py Json := do
  raiseIf (text.head? = some (chr 0xFEFF)) .valueError ["Unexpected UTF-8 BOM (decode using utf-8-sig)"]
  let (value, rest) ← scanValue parseFloat (text.length + 1) (skipSpace text)
  raiseIf (skipSpace rest ≠ []) .valueError ["Extra data"]
  .ok value

/-! ## Halves of a pair side by side -/

/-- What is read back of a string: two halves side by side become one character. -/
def join : PyStr → PyStr
  | [] => []
  | [c] => [c]
  | c :: d :: s =>
      if IsHigh c.val ∧ IsLow d.val then pairOf c.val d.val :: join s else c :: join (d :: s)

/-- No first half of a pair stands right before a second half. -/
def Unpaired (s : PyStr) : Prop := s.IsChain fun c d => ¬ (IsHigh c.val ∧ IsLow d.val)

/-- Joining surrogate pairs makes no text longer. -/
theorem length_join_le (s : PyStr) : (join s).length ≤ s.length := by
  induction s using join.induct with
  | case1 => exact le_refl _
  | case2 c => exact le_refl _
  | case3 c d s hpair ih =>
      rw [join, if_pos hpair, List.length_cons, List.length_cons, List.length_cons]
      omega
  | case4 c d s hpair ih =>
      rw [join, if_neg hpair, List.length_cons, List.length_cons]
      omega

/-- **WHICH STRINGS COME BACK AS THEY WERE.** -/
theorem join_eq_self_iff {s : PyStr} : join s = s ↔ Unpaired s := by
  simp only [Unpaired]
  induction s using join.induct with
  | case1 => exact iff_of_true rfl .nil
  | case2 c => exact iff_of_true rfl (.singleton c)
  | case3 c d s hpair ih =>
      refine iff_of_false (fun h => ?_) fun h => (List.isChain_cons_cons.mp h).1 hpair
      have hlen := congrArg List.length h
      have hle := length_join_le s
      rw [join, if_pos hpair, List.length_cons, List.length_cons, List.length_cons] at hlen
      omega
  | case4 c d s hpair ih =>
      rw [join, if_neg hpair, List.isChain_cons_cons, ← ih, List.cons.injEq]
      exact ⟨fun h => ⟨hpair, h.2⟩, fun h => ⟨rfl, h.2⟩⟩

theorem join_ne_nil {s : PyStr} (h : s ≠ []) : join s ≠ [] := by
  cases s with
  | nil => exact absurd rfl h
  | cons c s =>
      cases s with
      | nil => exact List.cons_ne_nil _ _
      | cons d s =>
          rw [join]
          split_ifs
          · exact List.cons_ne_nil _ _
          · exact List.cons_ne_nil _ _

/-- ASCII text has no halves of pairs. -/
theorem unpaired_of_ascii {s : PyStr} (h : IsAscii s) : Unpaired s := by
  simp only [Unpaired]
  induction s with
  | nil => exact .nil
  | cons c s ih =>
      obtain ⟨hc, hs⟩ := isAscii_cons.mp h
      refine List.isChain_cons.mpr ⟨fun d _ hpair => ?_, ih hs⟩
      have := hpair.1.1
      omega

/-! ## Strings read back -/

/-- A hexadecimal digit is read back. -/
theorem hexValue_hexDigit : ∀ n < 16, hexValue (hexDigit n) = some n := by decide

/-- Four of them are. -/
theorem scanHex_hexFour {n : ℕ} (hn : n < 0x10000) (rest : PyStr) :
    scanHex (hexFour n ++ rest) = .ok (n, rest) := by
  show scanHex (hexDigit (n / 4096 % 16) :: hexDigit (n / 256 % 16) :: hexDigit (n / 16 % 16)
    :: hexDigit (n % 16) :: rest) = _
  rw [scanHex]
  simp only [hexValue_hexDigit _ (Nat.mod_lt _ (by decide : 0 < 16))]
  refine congrArg (fun k => Except.ok (k, rest)) ?_
  omega

/-- A `\u` escape is read back, up to a surrogate that may follow. -/
theorem scanEscape_unit {n : ℕ} (hn : n < 0x10000) (rest : PyStr) :
    scanEscape (codePoint 'u' :: hexFour n ++ rest) = joinLow n rest := by
  rw [List.cons_append, scanEscape, if_pos rfl, scanHex_hexFour hn]
  rfl

/-- What is no high surrogate stands alone. -/
theorem joinLow_of_not_high {n : ℕ} (h : ¬ IsHigh n) (rest : PyStr) :
    joinLow n rest = .ok (chr n, rest) := by
  simp only [joinLow]
  split
  · rw [if_neg fun hand => h hand.1]
  · rfl

/-- A high surrogate takes the low one behind it. -/
theorem joinLow_pair {n m : ℕ} (hn : IsHigh n) (hm : IsLow m) (rest : PyStr) :
    joinLow n (unitEscape m ++ rest) = .ok (pairOf n m, rest) := by
  have hlt : m < 0x10000 := by
    have := hm.2
    omega
  show joinLow n (backslash :: codePoint 'u' :: (hexFour m ++ rest)) = _
  rw [joinLow, if_pos ⟨hn, rfl, rfl⟩, scanHex_hexFour hlt]
  exact if_pos hm

/-- It stands alone before anything else. -/
theorem joinLow_unit {n m : ℕ} (hm : ¬ IsLow m) (hlt : m < 0x10000) (rest : PyStr) :
    joinLow n (unitEscape m ++ rest) = .ok (chr n, unitEscape m ++ rest) := by
  show joinLow n (backslash :: codePoint 'u' :: (hexFour m ++ rest)) = _
  rw [joinLow]
  by_cases hn : IsHigh n
  · rw [if_pos ⟨hn, rfl, rfl⟩, scanHex_hexFour hlt]
    exact if_neg hm
  · exact if_neg fun hand => hn hand.1

/-- No escape of a unit follows. -/
theorem joinLow_other {n : ℕ} {c : CodePoint} {rest : PyStr}
    (h : c ≠ backslash ∨ rest.head? ≠ some (codePoint 'u')) :
    joinLow n (c :: rest) = .ok (chr n, c :: rest) := by
  cases rest with
  | nil => rfl
  | cons d rest =>
      rw [joinLow, if_neg]
      rintro ⟨-, hb, hu⟩
      exact h.elim (fun h => h hb) fun h => h (congrArg some hu)

/-- How one character is spelled: behind a backslash, as itself, or by its units. -/
theorem escapeAsciiChar_cases (c : CodePoint) :
    (∃ e, escapeAsciiChar c = [backslash, e] ∧ e ≠ codePoint 'u' ∧ simpleEscape e = some c) ∨
      (escapeAsciiChar c = [c] ∧ c ≠ quote ∧ c ≠ backslash ∧ ¬ c.val < 0x20) ∨
      escapeAsciiChar c = (units c).flatMap unitEscape := by
  have heq : ∀ n : CodePoint, c.val = n.val → c = n := fun n h => Fin.ext h
  rw [escapeAsciiChar]
  by_cases hquote : c = quote
  · exact Or.inl ⟨quote, if_pos hquote, by decide, by rw [hquote]; decide⟩
  rw [if_neg hquote]
  by_cases hbackslash : c = backslash
  · exact Or.inl ⟨backslash, if_pos hbackslash, by decide, by rw [hbackslash]; decide⟩
  rw [if_neg hbackslash]
  by_cases hn : c.val = 0x0A
  · exact Or.inl ⟨_, if_pos hn, by decide, by rw [heq (chr 0x0A) hn]; decide⟩
  rw [if_neg hn]
  by_cases hr : c.val = 0x0D
  · exact Or.inl ⟨_, if_pos hr, by decide, by rw [heq (chr 0x0D) hr]; decide⟩
  rw [if_neg hr]
  by_cases ht : c.val = 0x09
  · exact Or.inl ⟨_, if_pos ht, by decide, by rw [heq (chr 0x09) ht]; decide⟩
  rw [if_neg ht]
  by_cases hf : c.val = 0x0C
  · exact Or.inl ⟨_, if_pos hf, by decide, by rw [heq (chr 0x0C) hf]; decide⟩
  rw [if_neg hf]
  by_cases hb : c.val = 0x08
  · exact Or.inl ⟨_, if_pos hb, by decide, by rw [heq (chr 0x08) hb]; decide⟩
  rw [if_neg hb]
  by_cases hprinted : 0x20 ≤ c.val ∧ c.val ≤ 0x7E
  · exact Or.inr (Or.inl ⟨if_pos hprinted, hquote, hbackslash, by omega⟩)
  · exact Or.inr (Or.inr (if_neg hprinted))

theorem chr_val (c : CodePoint) : chr c.val = c := Fin.ext (Nat.mod_eq_of_lt c.isLt)

/-- The units of a character: itself, or the halves of its pair. -/
theorem units_cases (c : CodePoint) :
    (c.val < 0x10000 ∧ (units c).flatMap unitEscape = unitEscape c.val) ∨
      ∃ high low, IsHigh high ∧ IsLow low ∧ pairOf high low = c ∧
        (units c).flatMap unitEscape = unitEscape high ++ unitEscape low := by
  have hc := c.isLt
  simp only [units]
  by_cases h : c.val < 0x10000
  · rw [if_pos h]
    exact Or.inl ⟨h, List.append_nil _⟩
  · rw [if_neg h]
    refine Or.inr ⟨0xD800 + (c.val - 0x10000) / 0x400, 0xDC00 + (c.val - 0x10000) % 0x400, ?_, ?_, ?_,
      ?_⟩
    · simp only [IsHigh]
      omega
    · simp only [IsLow]
      omega
    · refine Fin.ext ?_
      show (0x10000 + (0xD800 + (c.val - 0x10000) / 0x400 - 0xD800) * 0x400
        + (0xDC00 + (c.val - 0x10000) % 0x400 - 0xDC00)) % 0x110000 = c.val
      omega
    · show unitEscape _ ++ (unitEscape _ ++ []) = _
      rw [List.append_nil]

/-- A character that is no second half leaves a first half before it alone. -/
theorem joinLow_escape {n : ℕ} {d : CodePoint} (hd : ¬ IsLow d.val) (rest : PyStr) :
    joinLow n (escapeAsciiChar d ++ rest) = .ok (chr n, escapeAsciiChar d ++ rest) := by
  rcases escapeAsciiChar_cases d with ⟨e, hchar, he, -⟩ | ⟨hchar, -, hne, -⟩ | hchar
  · rw [hchar]
    exact joinLow_other (Or.inr fun h => he (Option.some.inj h))
  · rw [hchar]
    exact joinLow_other (Or.inl hne)
  · rw [hchar]
    rcases units_cases d with ⟨hlt, hunits⟩ | ⟨high, low, hhigh, -, -, hunits⟩
    · rw [hunits]
      exact joinLow_unit hd hlt rest
    · rw [hunits, List.append_assoc]
      simp only [IsHigh] at hhigh
      exact joinLow_unit (fun h => absurd h.1 (by omega)) (by omega) _

/-- One turn of `scanString`, at what a character is spelled as. -/
theorem scanString_escapeAsciiChar {k : ℕ} {c : CodePoint} {rest : PyStr}
    (hnext : IsHigh c.val → joinLow c.val rest = .ok (c, rest)) :
    scanString (k + 1) (escapeAsciiChar c ++ rest) =
      scanString k rest >>= fun r => .ok (c :: r.1, r.2) := by
  have hback : ∀ behind after, scanEscape behind = .ok (c, after) →
      scanString (k + 1) (backslash :: behind) = scanString k after >>= fun r => .ok (c :: r.1, r.2) := by
    intro behind after h
    rw [scanString, if_neg (by decide : backslash ≠ quote), if_pos rfl, h]
    rfl
  rcases escapeAsciiChar_cases c with ⟨e, hchar, he, hsimple⟩ | ⟨hchar, hquote, hne, hctrl⟩ | hchar
  · rw [hchar]
    refine hback (e :: rest) rest ?_
    rw [scanEscape, if_neg he, hsimple]
  · rw [hchar, List.singleton_append, scanString, if_neg hquote, if_neg hne, if_neg hctrl]
  · rw [hchar]
    rcases units_cases c with ⟨hlt, hunits⟩ | ⟨high, low, hhigh, hlow, hpair, hunits⟩
    · rw [hunits]
      refine hback (codePoint 'u' :: hexFour c.val ++ rest) rest ?_
      rw [scanEscape_unit hlt]
      by_cases hc : IsHigh c.val
      · exact hnext hc
      · rw [joinLow_of_not_high hc, chr_val]
    · rw [hunits, List.append_assoc]
      refine hback (codePoint 'u' :: hexFour high ++ (unitEscape low ++ rest)) rest ?_
      have hlt : high < 0x10000 := by
        have := hhigh.2
        omega
      rw [scanEscape_unit hlt, joinLow_pair hhigh hlow, hpair]

/-- Escaping goes character by character. -/
theorem escapeAscii_cons (c : CodePoint) (s : PyStr) :
    escapeAscii (c :: s) = escapeAsciiChar c ++ escapeAscii s := List.flatMap_cons

theorem escapeAsciiChar_ne_nil (c : CodePoint) : escapeAsciiChar c ≠ [] := by
  rcases escapeAsciiChar_cases c with ⟨e, h, -⟩ | ⟨h, -⟩ | h
  · rw [h]
    exact List.cons_ne_nil _ _
  · rw [h]
    exact List.cons_ne_nil _ _
  · rw [h]
    rcases units_cases c with ⟨-, h⟩ | ⟨high, low, -, -, -, h⟩
    · rw [h]
      exact List.cons_ne_nil _ _
    · rw [h]
      exact List.cons_ne_nil _ _

/-- A unit beyond ASCII is spelled by its digits. -/
theorem escapeAsciiChar_unit {c : CodePoint} (hlow : 0x7F ≤ c.val) (hhigh : c.val < 0x10000) :
    escapeAsciiChar c = unitEscape c.val := by
  have hquote : quote.val = 0x22 := rfl
  have hback : backslash.val = 0x5C := rfl
  have hunits : units c = [c.val] := if_pos hhigh
  rw [escapeAsciiChar, if_neg fun h => by rw [h] at hlow; omega,
    if_neg fun h => by rw [h] at hlow; omega, if_neg (by omega), if_neg (by omega), if_neg (by omega),
    if_neg (by omega), if_neg (by omega), if_neg (by omega), hunits]
  exact List.append_nil _

/-- **WHAT IS READ BACK OF A STRING**, whatever stands behind it. -/
theorem scanString_escapeAscii {k : ℕ} {s : PyStr} (hk : (escapeAscii s).length < k) (rest : PyStr) :
    scanString k (escapeAscii s ++ quote :: rest) = .ok (join s, rest) := by
  have hdone : ∀ {k}, scanString (k + 1) (quote :: rest) = .ok ([], rest) := fun {k} => if_pos rfl
  have hstep : ∀ {k c s t}, (∀ {k}, (escapeAscii s).length < k →
      scanString k (escapeAscii s ++ quote :: rest) = .ok (t, rest)) →
      (IsHigh c.val → joinLow c.val (escapeAscii s ++ quote :: rest)
        = .ok (c, escapeAscii s ++ quote :: rest)) → (escapeAscii (c :: s)).length < k →
      scanString k (escapeAscii (c :: s) ++ quote :: rest) = .ok (c :: t, rest) := by
    intro k c s t ih hnext hk
    have hpos := List.length_pos_of_ne_nil (escapeAsciiChar_ne_nil c)
    rw [escapeAscii_cons, List.length_append] at hk
    obtain ⟨k, rfl⟩ : ∃ k', k = k' + 1 := ⟨k - 1, by omega⟩
    rw [escapeAscii_cons, List.append_assoc, scanString_escapeAsciiChar hnext, ih (by omega)]
    rfl
  induction s using join.induct generalizing k with
  | case1 =>
      obtain ⟨k, rfl⟩ := Nat.exists_eq_succ_of_ne_zero (Nat.ne_of_gt hk)
      exact hdone
  | case2 c =>
      refine hstep (fun hk => ?_) (fun _ => ?_) hk
      · obtain ⟨k, rfl⟩ := Nat.exists_eq_succ_of_ne_zero (Nat.ne_of_gt hk)
        exact hdone
      · have hother := @joinLow_other c.val quote rest (Or.inl (by decide))
        rwa [chr_val] at hother
  | case3 c d s hpair ih =>
      -- the first half takes the second from the next escape
      obtain ⟨hhigh, hlow⟩ := hpair
      simp only [IsHigh] at hhigh
      have hlow' := hlow
      simp only [IsLow] at hlow'
      have hc := @escapeAsciiChar_unit c (by omega) (by omega)
      have hd := @escapeAsciiChar_unit d (by omega) (by omega)
      rw [escapeAscii_cons, escapeAscii_cons, hc, hd, List.length_append, List.length_append] at hk
      obtain ⟨k, rfl⟩ : ∃ k', k = k' + 1 := ⟨k - 1, by omega⟩
      have hsix : ∀ n, (unitEscape n).length = 6 := fun _ => rfl
      rw [hsix, hsix] at hk
      rw [join, if_pos ⟨hhigh, hlow⟩, escapeAscii_cons, escapeAscii_cons, hc, hd, List.append_assoc,
        List.append_assoc]
      show scanString (k + 1) (backslash :: (codePoint 'u' :: hexFour c.val ++ _)) = _
      rw [scanString, if_neg (by decide : backslash ≠ quote), if_pos rfl, scanEscape_unit (by omega),
        joinLow_pair hhigh hlow]
      show (scanString k (escapeAscii s ++ quote :: rest) >>= fun r =>
        Except.ok (pairOf c.val d.val :: r.1, r.2)) = _
      rw [ih (by omega)]
      rfl
  | case4 c d s hpair ih =>
      rw [join, if_neg hpair]
      refine hstep ih (fun hc => ?_) hk
      rw [escapeAscii_cons, List.append_assoc, joinLow_escape fun hd => hpair ⟨hc, hd⟩, chr_val]

/-! ## Objects of strings read back -/

/-- Distinct keys make a `dict` of just these members. -/
theorem dictOf_eq {pairs : Members} (hnodup : (pairs.map Prod.fst).Nodup) : dictOf pairs = pairs := by
  have hfold : ∀ (pairs dict : Members), (pairs.map Prod.fst).Nodup →
      (∀ k ∈ pairs.map Prod.fst, k ∉ dict.map Prod.fst) →
      pairs.foldl (fun dict m =>
        if m.1 ∈ dict.map Prod.fst then dict.map fun entry => if entry.1 = m.1 then m else entry
        else dict ++ [m]) dict = dict ++ pairs := by
    intro pairs
    induction pairs with
    | nil => exact fun dict _ _ => (List.append_nil dict).symm
    | cons m pairs ih =>
        intro dict hnodup hfresh
        obtain ⟨hm, hnodup⟩ := List.nodup_cons.mp hnodup
        obtain ⟨hmfresh, hfresh⟩ := List.forall_mem_cons.mp hfresh
        rw [List.foldl_cons, if_neg hmfresh, ih _ hnodup, List.append_assoc, List.singleton_append]
        intro k hk hmem
        rw [List.map_append] at hmem
        rcases List.mem_append.mp hmem with h | h
        · exact hfresh k hk h
        · exact hm (List.mem_singleton.mp h ▸ hk)
  exact hfold pairs [] hnodup fun _ _ => List.not_mem_nil

/-- Nothing is skipped before a character that is no space. -/
theorem skipSpace_cons {c : CodePoint} (h : ¬ (c.val = 0x20 ∨ c.val = 0x09 ∨ c.val = 0x0A ∨ c.val = 0x0D))
    (rest : PyStr) : skipSpace (c :: rest) = c :: rest :=
  List.dropWhile_cons_of_neg fun hc => h (of_decide_eq_true hc)

theorem skipSpace_space (rest : PyStr) : skipSpace (codePoint ' ' :: rest) = skipSpace rest :=
  List.dropWhile_cons_of_pos (by decide)

theorem expectChar_ok {c : Char} {message : String} {rest : PyStr}
    (h : ¬ ((codePoint c).val = 0x20 ∨ (codePoint c).val = 0x09 ∨ (codePoint c).val = 0x0A ∨
      (codePoint c).val = 0x0D)) : expectChar c message (codePoint c :: rest) = .ok rest := by
  rw [expectChar, skipSpace_cons h]
  exact if_pos rfl

/-- What stands behind the first member of an object of strings, and behind the object. -/
def membersTail (behind : PyStr) : List (PyStr × PyStr) → PyStr
  | [] => codePoint '\x7d' :: behind
  | (k, v) :: fields =>
      py ", " ++ (quote :: (escapeAscii k ++ quote :: (py ": " ++
        (quote :: (escapeAscii v ++ quote :: membersTail behind fields)))))

variable {parseFloat : PyStr → UInt64}

/-- A string is read back, its surrogate pairs joined. -/
theorem scanValue_string {n : ℕ} (v behind : PyStr) :
    scanValue parseFloat (n + 1) (quote :: (escapeAscii v ++ quote :: behind))
      = .ok (.str (join v), behind) := by
  rw [scanValue, if_pos rfl, scanString_escapeAscii]
  · rfl
  · rw [List.length_append]
    omega

/-- One turn of `scanPairs`, from behind the quote of a key to behind its value. -/
theorem scanPairs_turn {n : ℕ} {k v tail behind : PyStr} {pairs : Members}
    (h : (match skipSpace tail with
      | d :: behind =>
          if d = codePoint '\x7d' then .ok ([(join k, .str (join v))], behind)
          else if d = codePoint ',' then do
            let rest ← expectChar '"' "Expecting property name enclosed in double quotes" behind
            let (pairs, rest) ← scanPairs parseFloat (n + 1) rest
            .ok ((join k, .str (join v)) :: pairs, rest)
          else raise .valueError ["Expecting ',' delimiter"]
      | [] => raise .valueError ["Expecting ',' delimiter"]) = Except.ok (pairs, behind)) :
    scanPairs parseFloat (n + 2) (escapeAscii k ++ quote :: (py ": " ++
      (quote :: (escapeAscii v ++ quote :: tail)))) = .ok (pairs, behind) := by
  have hspace : skipSpace (codePoint ' ' :: quote :: (escapeAscii v ++ quote :: tail))
      = quote :: (escapeAscii v ++ quote :: tail) := by
    rw [skipSpace_space, skipSpace_cons (by decide)]
  rw [scanPairs]
  refine bind_ok_iff.mpr ⟨_, scanString_escapeAscii ?_ _, ?_⟩
  · rw [List.length_append]
    omega
  refine bind_ok_iff.mpr ⟨codePoint ' ' :: quote :: (escapeAscii v ++ quote :: tail), ?_, ?_⟩
  · exact expectChar_ok (by decide)
  refine bind_ok_iff.mpr ⟨(.str (join v), tail), ?_, h⟩
  rw [hspace]
  exact scanValue_string v tail

/-- **WHAT IS READ BACK OF THE MEMBERS**, from behind the quote of the first key. -/
theorem scanPairs_strings {n : ℕ} {fields : List (PyStr × PyStr)} (hn : fields.length + 2 ≤ n)
    (k v behind : PyStr) :
    scanPairs parseFloat n (escapeAscii k ++ quote :: (py ": " ++
        (quote :: (escapeAscii v ++ quote :: membersTail behind fields))))
      = .ok ((join k, .str (join v)) :: fields.map fun m => (join m.1, .str (join m.2)), behind) := by
  induction fields generalizing n k v with
  | nil =>
      obtain ⟨n, rfl⟩ : ∃ n', n = n' + 2 := ⟨n - 2, by rw [List.length_nil] at hn; omega⟩
      refine scanPairs_turn ?_
      rw [membersTail, skipSpace_cons (by decide)]
      exact if_pos rfl
  | cons m fields ih =>
      obtain ⟨k', v'⟩ := m
      rw [List.length_cons] at hn
      obtain ⟨n, rfl⟩ : ∃ n', n = n' + 2 := ⟨n - 2, by omega⟩
      refine scanPairs_turn ?_
      have hcomma : skipSpace (membersTail behind ((k', v') :: fields)) = codePoint ',' ::
          codePoint ' ' :: quote :: (escapeAscii k' ++ quote :: (py ": " ++
            (quote :: (escapeAscii v' ++ quote :: membersTail behind fields)))) :=
        skipSpace_cons (by decide) _
      rw [hcomma]
      simp only
      rw [if_neg (by decide), if_pos trivial]
      refine bind_ok_iff.mpr ⟨_, ?_, bind_ok_iff.mpr ⟨_, ih (by omega) k' v', rfl⟩⟩
      rw [expectChar, skipSpace_space, skipSpace_cons (by decide)]
      exact if_pos rfl

theorem dumpsTextMembers_eq_map (repr : UInt64 → PyStr) (members : Members) :
    dumpsTextMembers repr members = members.map fun m => (m.1, dumpsText repr m.2) := by
  induction members with
  | nil => rfl
  | cons m members ih =>
      obtain ⟨k, v⟩ := m
      rw [dumpsTextMembers, ih, List.map_cons]

/-- The members of an object of strings, written one behind the other. -/
theorem dumpsText_strings (repr : UInt64 → PyStr) (k v : PyStr) (fields : List (PyStr × PyStr)) :
    dumpsText repr (.obj (((k, v) :: fields).map fun m => (m.1, .str m.2)))
      = codePoint '\x7b' :: quote :: (escapeAscii k ++ quote :: (py ": " ++
        (quote :: (escapeAscii v ++ quote :: membersTail [] fields)))) := by
  have hmember : ∀ k v : PyStr, memberAscii (k, dumpsText repr (.str v)) = quote :: (escapeAscii k ++
      quote :: (py ": " ++ (quote :: (escapeAscii v ++ [quote])))) := by
    intro k v
    simp only [memberAscii, dumpsText, quotedAscii, List.append_assoc, List.cons_append,
      List.nil_append]
  have hmembers : ∀ k v : PyStr, (py ", ").intercalate
      ((((k, v) :: fields).map fun m => memberAscii (m.1, dumpsText repr (.str m.2)))) ++ py "\x7d"
        = quote :: (escapeAscii k ++ quote :: (py ": " ++
          (quote :: (escapeAscii v ++ quote :: membersTail [] fields)))) := by
    induction fields with
    | nil =>
        intro k v
        rw [List.map_cons, List.map_nil, List.intercalate_singleton, hmember, membersTail]
        simp only [List.append_assoc, List.cons_append, List.nil_append]
        rfl
    | cons m fields ih =>
        intro k v
        obtain ⟨k', v'⟩ := m
        have htail := ih k' v'
        rw [List.map_cons] at htail
        rw [List.map_cons, List.map_cons, List.intercalate_cons_cons, List.append_assoc, htail, hmember,
          membersTail]
        simp only [List.append_assoc, List.cons_append, List.nil_append]
  rw [dumpsText, dumpsTextMembers_eq_map, List.map_map, List.map_map]
  show codePoint '\x7b' :: _ = _
  exact congrArg _ (hmembers k v)

/-- The text of the members is longer than there are of them, which bounds the fuel. -/
theorem length_membersTail (behind : PyStr) (fields : List (PyStr × PyStr)) :
    fields.length < (membersTail behind fields).length := by
  induction fields with
  | nil => exact Nat.succ_pos _
  | cons m fields ih =>
      obtain ⟨k, v⟩ := m
      rw [membersTail]
      simp only [List.length_append, List.length_cons]
      omega

/-- **WHAT IS READ BACK OF AN OBJECT OF STRINGS.** -/
theorem loads_dumpsText (repr : UInt64 → PyStr) {fields : List (PyStr × PyStr)} (hne : fields ≠ [])
    (hnodup : (fields.map fun m => join m.1).Nodup) :
    loads parseFloat (dumpsText repr (.obj (fields.map fun m => (m.1, .str m.2))))
      = .ok (.obj (fields.map fun m => (join m.1, .str (join m.2)))) := by
  obtain ⟨⟨k, v⟩, fields, rfl⟩ := List.exists_cons_of_ne_nil hne
  have hbrace : ∀ {text : PyStr}, skipSpace (codePoint '\x7b' :: text) = codePoint '\x7b' :: text :=
    skipSpace_cons (by decide) _
  have hbom : some (codePoint '\x7b') ≠ some (chr 0xFEFF) := by decide
  have hlen := length_membersTail [] fields
  have hdict : dictOf (((k, v) :: fields).map fun m => (join m.1, .str (join m.2)))
      = ((k, v) :: fields).map fun m => (join m.1, .str (join m.2)) := by
    refine dictOf_eq ?_
    rw [List.map_map]
    exact hnodup
  rw [dumpsText_strings, loads]
  refine bind_ok_iff.mpr ⟨(), (raiseIf_ok_iff _ _ _ _).mpr hbom, ?_⟩
  rw [hbrace]
  refine bind_ok_iff.mpr ⟨(.obj (((k, v) :: fields).map fun m => (join m.1, .str (join m.2))), []), ?_,
    bind_ok_iff.mpr ⟨(), (raiseIf_ok_iff _ _ _ _).mpr (by decide), rfl⟩⟩
  rw [scanValue, if_neg (by decide), if_pos rfl, skipSpace_cons (by decide)]
  simp only
  rw [if_neg (by decide), if_pos trivial]
  refine bind_ok_iff.mpr ⟨_, scanPairs_strings ?_ k v [], ?_⟩
  · simp only [List.length_cons, List.length_append]
    omega
  · exact congrArg (fun members => Except.ok (Json.obj members, [])) hdict

end AgentJsonText
