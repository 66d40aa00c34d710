import AgentId.CanonicalEquivalence
import AgentId.Signing

/-!
# Canonical JSON and signing input in TypeScript (`canonical.ts`, `signing.ts`)

The TypeScript package normalises each string before it escapes it, where the Python package
normalises the escaped text as a whole.  A JavaScript string is the sequence of code points its
iterator yields, lone surrogates included; a number is what the checks of `encodeNumber` can tell
apart.

* **`canonicalize_ok_iff`** — the text of every value that is accepted.
* **`same_bytes_iff`** — both packages write the same bytes exactly when no control character's
  escape composes with what stands behind it.
* **`ts_signingInput_inj`** — a TypeScript signing input names its context, and its payload up to
  normalisation.
-/

namespace AgentTsCanonical

open AgentPy AgentJson AgentCanonicalText AgentNormalization AgentSigning AgentJsonRender
  AgentCanonicalEquivalence

/-! ## JavaScript values -/

/-- A `number`: NaN or an infinity, a finite number with a fraction, an integer, or minus zero. -/
inductive JsNumber where
  | nonFinite
  | fraction (bits : UInt64)
  | integer (n : Int)
  | negZero

/-- `JsonValue`; an object is its own enumerable properties. -/
inductive JsonValue where
  | null
  | boolean (b : Bool)
  | number (n : JsNumber)
  | bigint (n : Int)
  | string (s : PyStr)
  | array (items : List JsonValue)
  | object (members : List (PyStr × JsonValue))

/-- The classes of the errors the modelled functions throw (`errors.ts` and builtins). -/
inductive JsErrorClass where
  | error
  | typeError
  | addressError
  | signatureError
  | spendScopeError
  deriving DecidableEq

structure JsError where
  cls : JsErrorClass
  message : List Part
  deriving DecidableEq

/-- What a call returns, or the error it throws. -/
abbrev Js (α : Type) := Except JsError α

/-- `throw new Error(message)`, of some class. -/
def throwNew {α : Type} (cls : JsErrorClass) (message : List Part) : Js α := .error ⟨cls, message⟩

/-! ## `canonical.ts` -/

/-- `Number.MAX_SAFE_INTEGER` -/
def maxSafeInteger : ℕ := 2 ^ 53 - 1

/-- Half of a pair that has lost the other. -/
def IsSurrogate (c : CodePoint) : Prop := 0xD800 ≤ c.val ∧ c.val ≤ 0xDFFF

instance isSurrogateDecidable (c : CodePoint) : Decidable (IsSurrogate c) :=
  inferInstanceAs (Decidable (_ ∧ _))

/-- How `JSON.stringify` writes one code point: as `json.dumps` does, but a lone surrogate as an
    escape. -/
def stringifyChar (c : CodePoint) : PyStr :=
  if IsSurrogate c then
    py "\\ud" ++ [hexDigit (c.val / 256 % 16), hexDigit (c.val / 16 % 16), hexDigit (c.val % 16)]
  else escapeChar c

/-- The body `JSON.stringify` writes between the quotes of a string. -/
def stringify (s : PyStr) : PyStr := s.flatMap stringifyChar

/-- `encodeString`, with `String.prototype.normalize("NFC")` as `nfc`. -/
def encodeString (nfc : PyStr → PyStr) (value : PyStr) : PyStr :=
  quote :: (stringify (nfc value) ++ [quote])

def encodeNumber : JsNumber → Js PyStr
  | .nonFinite => throwNew .error ["NaN/Infinity are not allowed in canonical JSON"]
  | .fraction _ => throwNew .error
      ["floats are not allowed in canonical (signed) payloads — ",
        "use an integer (e.g. milliseconds) or a string"]
  | .integer n =>
      if n.natAbs ≤ maxSafeInteger then .ok (intText n)
      else throwNew .error ["integer exceeds Number.MAX_SAFE_INTEGER — pass a bigint for exactness"]
  -- `value === 0 ? 0 : value`
  | .negZero => .ok (intText 0)

mutual

def canonicalize (nfc : PyStr → PyStr) : JsonValue → Js PyStr
  | .null => .ok (py "null")
  | .boolean true => .ok (py "true")
  | .boolean false => .ok (py "false")
  | .number n => encodeNumber n
  | .bigint n => .ok (intText n)
  | .string s => .ok (encodeString nfc s)
  | .array items => do
      let texts ← (canonicalizeItems nfc items).mapM fun text => text
      .ok (py "[" ++ (py ",").intercalate texts ++ py "]")
  | .object members => do
      -- `Object.keys(value).sort(compareCodePoints)`: the keys as they are given
      let texts ← (sortKeys (canonicalizeMembers nfc members)).mapM fun m => do
        let text ← m.2
        .ok (encodeString nfc m.1 ++ py ":" ++ text)
      .ok (py "\x7b" ++ (py ",").intercalate texts ++ py "\x7d")

def canonicalizeItems (nfc : PyStr → PyStr) : List JsonValue → List (Js PyStr)
  | [] => []
  | v :: items => canonicalize nfc v :: canonicalizeItems nfc items

def canonicalizeMembers (nfc : PyStr → PyStr) :
    List (PyStr × JsonValue) → List (PyStr × Js PyStr)
  | [] => []
  | (k, v) :: members => (k, canonicalize nfc v) :: canonicalizeMembers nfc members

end

/-- The bytes `TextEncoder` writes of one code point; a lone surrogate becomes U+FFFD. -/
def encodeChar (c : CodePoint) : Bytes :=
  match toChar? c with
  | some ch => String.utf8EncodeChar ch
  | none => [0xEF, 0xBF, 0xBD]

/-- `utf8Encode` of `bytes.ts`: `new TextEncoder().encode(s)`. -/
def textEncode (s : PyStr) : Bytes := s.flatMap encodeChar

def tsCanonicalJson (nfc : PyStr → PyStr) (data : JsonValue) : Js Bytes := do
  let text ← canonicalize nfc data
  .ok (textEncode text)

/-! ## `signing.ts` -/

def tsDomainTag (context : PyStr) : Js Bytes :=
  if context = [] then throwNew .error ["signing context must be a non-empty string"]
  else
    let tag := textEncode (domain ++ py "/" ++ context)
    if maxTagBytes < tag.length then throwNew .error ["signing context tag is too long"]
    else .ok tag

def tsSigningInput (nfc : PyStr → PyStr) (context : PyStr) (payload : JsonValue) : Js Bytes := do
  let tag ← tsDomainTag context
  let body ← tsCanonicalJson nfc payload
  .ok (twoBytes tag.length ++ tag ++ body)

/-! ## What a value is as JSON -/

mutual

/-- The JSON value a JavaScript value stands for; a number that is no integer is a float. -/
def asJson : JsonValue → Json
  | .null => .null
  | .boolean b => .bool b
  | .number (.integer n) => .int n
  | .number .negZero => .int 0
  | .number (.fraction bits) => .float bits
  | .number .nonFinite => .float 0
  | .bigint n => .int n
  | .string s => .str s
  | .array items => .arr (asJsonItems items)
  | .object members => .obj (asJsonMembers members)

def asJsonItems : List JsonValue → List Json
  | [] => []
  | v :: items => asJson v :: asJsonItems items

def asJsonMembers : List (PyStr × JsonValue) → Members
  | [] => []
  | (k, v) :: members => (k, asJson v) :: asJsonMembers members

end

/-- The values `canonicalJson` accepts: every number in them a safe integer. -/
inductive Accepted : JsonValue → Prop where
  | null : Accepted .null
  | boolean (b : Bool) : Accepted (.boolean b)
  | integer {n : Int} : n.natAbs ≤ maxSafeInteger → Accepted (.number (.integer n))
  | negZero : Accepted (.number .negZero)
  | bigint (n : Int) : Accepted (.bigint n)
  | string (s : PyStr) : Accepted (.string s)
  | array {items : List JsonValue} : (∀ v ∈ items, Accepted v) → Accepted (.array items)
  | object {members : List (PyStr × JsonValue)} : (∀ m ∈ members, Accepted m.2) →
      Accepted (.object members)

/-- Induction over a JavaScript value, through arrays and objects. -/
theorem jsonValue_induction {motive : JsonValue → Prop} (null : motive .null)
    (boolean : ∀ b, motive (.boolean b)) (number : ∀ n, motive (.number n))
    (bigint : ∀ n, motive (.bigint n)) (string : ∀ s, motive (.string s))
    (array : ∀ items, (∀ v ∈ items, motive v) → motive (.array items))
    (object : ∀ members, (∀ m ∈ members, motive m.2) → motive (.object members)) :
    ∀ v, motive v
  | .null => null
  | .boolean b => boolean b
  | .number n => number n
  | .bigint n => bigint n
  | .string s => string s
  | .array items => array items fun v hv =>
      have := List.sizeOf_lt_of_mem hv
      jsonValue_induction null boolean number bigint string array object v
  | .object members => object members fun m hm =>
      have h1 := List.sizeOf_lt_of_mem hm
      have h2 : sizeOf m.2 < sizeOf m := by
        cases m
        simp
      jsonValue_induction null boolean number bigint string array object m.2

variable {nfc : PyStr → PyStr}

theorem canonicalizeItems_eq_map (items : List JsonValue) :
    canonicalizeItems nfc items = items.map (canonicalize nfc) := by
  induction items with
  | nil => rw [canonicalizeItems, List.map_nil]
  | cons v items ih => rw [canonicalizeItems, ih, List.map_cons]

theorem canonicalizeMembers_eq_map (members : List (PyStr × JsonValue)) :
    canonicalizeMembers nfc members = members.map fun m => (m.1, canonicalize nfc m.2) := by
  induction members with
  | nil => rw [canonicalizeMembers, List.map_nil]
  | cons m members ih =>
      obtain ⟨k, v⟩ := m
      rw [canonicalizeMembers, ih, List.map_cons]

theorem asJsonItems_eq_map (items : List JsonValue) : asJsonItems items = items.map asJson := by
  induction items with
  | nil => rw [asJsonItems, List.map_nil]
  | cons v items ih => rw [asJsonItems, ih, List.map_cons]

theorem asJsonMembers_eq_map (members : List (PyStr × JsonValue)) :
    asJsonMembers members = members.map fun m => (m.1, asJson m.2) := by
  induction members with
  | nil => rw [asJsonMembers, List.map_nil]
  | cons m members ih =>
      obtain ⟨k, v⟩ := m
      rw [asJsonMembers, ih, List.map_cons]

/-- Calls whose results are known. -/
theorem mapM_eq_map_iff {ε α β : Type} {f : α → Except ε β} {g : α → β} {P : α → Prop}
    {l : List α} {l' : List β} (h : ∀ a ∈ l, ∀ b, f a = .ok b ↔ P a ∧ b = g a) :
    l.mapM f = .ok l' ↔ (∀ a ∈ l, P a) ∧ l' = l.map g := by
  rw [mapM_ok_iff]
  induction l generalizing l' with
  | nil => simp
  | cons a l ih =>
      obtain ⟨ha, hl⟩ := List.forall_mem_cons.mp h
      rw [List.forall₂_cons_left_iff, List.forall_mem_cons, List.map_cons]
      constructor
      · rintro ⟨b, bs, hb, hbs, rfl⟩
        obtain ⟨hp, rfl⟩ := (ha b).mp hb
        obtain ⟨hps, rfl⟩ := (ih hl).mp hbs
        exact ⟨⟨hp, hps⟩, rfl⟩
      · rintro ⟨⟨hp, hps⟩, rfl⟩
        exact ⟨_, _, (ha _).mpr ⟨hp, rfl⟩, (ih hl).mpr ⟨hps, rfl⟩, rfl⟩

/-- A value that is always accepted, with its text. -/
theorem canonicalize_of_eq {v : JsonValue} {t text : PyStr} (hv : Accepted v)
    (ht : canonicalize nfc v = .ok t) (hrender : t = render (encodeString nfc) (asJson v)) :
    canonicalize nfc v = .ok text ↔ Accepted v ∧ text = render (encodeString nfc) (asJson v) := by
  rw [ht, Except.ok.injEq, ← hrender]
  exact ⟨fun h => ⟨hv, h.symm⟩, fun h => h.2.symm⟩

/-- A number is encoded when it is accepted, as Python renders it. -/
theorem encodeNumber_ok_iff {n : JsNumber} {text : PyStr} : encodeNumber n = .ok text ↔
    Accepted (.number n) ∧ text = render (encodeString nfc) (asJson (.number n)) := by
  cases n with
  | nonFinite =>
      constructor
      · intro h
        cases h
      · rintro ⟨h, -⟩
        cases h
  | fraction bits =>
      constructor
      · intro h
        cases h
      · rintro ⟨h, -⟩
        cases h
  | integer n =>
      rw [encodeNumber, asJson, render]
      by_cases hn : n.natAbs ≤ maxSafeInteger
      · rw [if_pos hn, Except.ok.injEq]
        exact ⟨fun h => ⟨.integer hn, h.symm⟩, fun h => h.2.symm⟩
      · rw [if_neg hn]
        constructor
        · intro h
          cases h
        · rintro ⟨h, -⟩
          cases h with
          | integer hle => exact absurd hle hn
  | negZero =>
      rw [encodeNumber, asJson, render, Except.ok.injEq]
      exact ⟨fun h => ⟨.negZero, h.symm⟩, fun h => h.2.symm⟩

/-- **WHAT `canonicalize` WRITES**: it accepts exactly the values without floats and without
    unsafe integers, and writes each string normalised and then escaped. -/
theorem canonicalize_ok_iff {v : JsonValue} {text : PyStr} :
    canonicalize nfc v = .ok text ↔ Accepted v ∧ text = render (encodeString nfc) (asJson v) := by
  induction v using jsonValue_induction generalizing text with
  | null => exact canonicalize_of_eq .null (by rw [canonicalize]) (by rw [asJson, render])
  | boolean b =>
      cases b with
      | true => exact canonicalize_of_eq (.boolean true) (by rw [canonicalize]) (by rw [asJson, render])
      | false => exact canonicalize_of_eq (.boolean false) (by rw [canonicalize]) (by rw [asJson, render])
  | number n =>
      rw [canonicalize]
      exact encodeNumber_ok_iff
  | bigint n => exact canonicalize_of_eq (.bigint n) (by rw [canonicalize]) (by rw [asJson, render])
  | string s => exact canonicalize_of_eq (.string s) (by rw [canonicalize]) (by rw [asJson, render])
  | array items ih =>
      rw [canonicalize, canonicalizeItems_eq_map, List.mapM_map, asJson, asJsonItems_eq_map,
        render_arr, List.map_map, bind_ok_iff]
      simp only [Function.comp_def, mapM_eq_map_iff fun v hv _ => ih v hv, Except.ok.injEq]
      constructor
      · rintro ⟨_, ⟨hall, rfl⟩, rfl⟩
        exact ⟨.array hall, rfl⟩
      · rintro ⟨hv, rfl⟩
        cases hv with
        | array hall => exact ⟨_, ⟨hall, rfl⟩, rfl⟩
  | object members ih =>
      have hmember : ∀ m ∈ sortKeys members, ∀ t,
          (canonicalize nfc m.2 >>= fun text => .ok (encodeString nfc m.1 ++ py ":" ++ text))
            = Except.ok t ↔
          Accepted m.2 ∧ t = renderMember (encodeString nfc) (m.1, asJson m.2) := by
        intro m hm t
        rw [bind_ok_iff]
        simp only [ih m (mem_sortKeys.mp hm), Except.ok.injEq]
        constructor
        · rintro ⟨_, ⟨hv, rfl⟩, rfl⟩
          exact ⟨hv, rfl⟩
        · rintro ⟨hv, rfl⟩
          exact ⟨_, ⟨hv, rfl⟩, rfl⟩
      rw [canonicalize, canonicalizeMembers_eq_map, sortKeys_map, List.mapM_map, asJson,
        asJsonMembers_eq_map, render_obj, sortKeys_map, List.map_map, bind_ok_iff]
      simp only [Function.comp_def, mapM_eq_map_iff hmember, Except.ok.injEq]
      constructor
      · rintro ⟨_, ⟨hall, rfl⟩, rfl⟩
        exact ⟨.object fun m hm => hall m (mem_sortKeys.mpr hm), rfl⟩
      · rintro ⟨hv, rfl⟩
        cases hv with
        | object hall => exact ⟨_, ⟨fun m hm => hall m (mem_sortKeys.mp hm), rfl⟩, rfl⟩

/-! ## What `JSON.stringify` writes between the quotes -/

/-- A code point is a scalar or a surrogate. -/
theorem isScalar_iff {c : CodePoint} : IsScalar c ↔ ¬ IsSurrogate c := by
  simp only [IsScalar, IsSurrogate, Nat.isValidChar]
  have := c.isLt
  omega

/-- The three hexadecimal digits of a surrogate's escape. -/
def surrogateDigits (c : CodePoint) : PyStr :=
  [hexDigit (c.val / 256 % 16), hexDigit (c.val / 16 % 16), hexDigit (c.val % 16)]

/-- `JSON.stringify` escapes a surrogate. -/
theorem stringifyChar_surrogate {c : CodePoint} (h : IsSurrogate c) :
    stringifyChar c = backslash :: (py "ud" ++ surrogateDigits c) := by
  rw [stringifyChar, if_pos h]
  rfl

/-- Any other character it escapes as `json.dumps` does. -/
theorem stringifyChar_scalar {c : CodePoint} (h : ¬ IsSurrogate c) :
    stringifyChar c = escapeChar c := by
  rw [stringifyChar, if_neg h]

/-- How a code point is written: escaped by its surrogate escape, by its own, or as it is. -/
theorem stringifyChar_cases (c : CodePoint) :
    (IsSurrogate c ∧ stringifyChar c = backslash :: (py "ud" ++ surrogateDigits c)) ∨
      (IsSpecial c ∧ stringifyChar c = backslash :: escapeTail c) ∨
      ((¬ IsSpecial c ∧ ¬ IsSurrogate c) ∧ stringifyChar c = [c]) := by
  by_cases hs : IsSurrogate c
  · exact Or.inl ⟨hs, stringifyChar_surrogate hs⟩
  rw [stringifyChar_scalar hs]
  by_cases hc : IsSpecial c
  · exact Or.inr (Or.inl ⟨hc, escapeChar_eq hc⟩)
  · refine Or.inr (Or.inr ⟨⟨hc, hs⟩, ?_⟩)
    simp only [IsSpecial] at hc
    push Not at hc
    exact escapeChar_plain hc.1 hc.2.1 hc.2.2

/-- On scalar values it is `json.dumps`. -/
theorem stringify_scalar {s : PyStr} (h : ∀ c ∈ s, IsScalar c) : stringify s = escape s := by
  induction s with
  | nil => rfl
  | cons c s ih =>
      rw [stringify, List.flatMap_cons, escape_cons,
        stringifyChar_scalar (isScalar_iff.mp (h c List.mem_cons_self))]
      exact congrArg _ (ih fun d hd => h d (List.mem_cons_of_mem _ hd))

theorem surrogateDigits_plain (c : CodePoint) : ∀ d ∈ surrogateDigits c, ¬ IsSpecial d := by
  have hdigit : ∀ n < 16, ¬ IsSpecial (hexDigit n) := by decide
  simp only [surrogateDigits, List.forall_mem_cons, List.not_mem_nil, false_imp_iff, implies_true,
    and_true]
  exact ⟨hdigit _ (by omega), hdigit _ (by omega), hdigit _ (by omega)⟩

/-- A written character never ends a token. -/
theorem scanned_stringifyChar (c : CodePoint) {s : PyStr} (hs : Scanned s) :
    Scanned (stringifyChar c ++ s) := by
  rcases stringifyChar_cases c with ⟨-, h⟩ | ⟨hc, h⟩ | ⟨⟨hc, -⟩, h⟩
  · rw [h]
    refine .escaped (codePoint 'u') (Scanned.append_plain (p := codePoint 'd' :: surrogateDigits c)
      (List.forall_mem_cons.mpr ⟨by decide, surrogateDigits_plain c⟩) hs)
  · rw [h, escapeTail_eq hc]
    rcases escapeLetter_cases hc with ⟨-, hstem⟩ | hletter
    · rw [hstem]
      exact .escaped _ hs
    · cases hst : escapeStem c with
      | nil => exact .escaped _ hs
      | cons x stem =>
          have hplain : Unescaped (stem ++ [escapeLetter c]) := by
            refine List.forall_mem_append.mpr ⟨fun d hd => ?_, by simpa using hletter⟩
            have := isPlain_escapeStem hc d (hst ▸ List.mem_cons_of_mem _ hd)
            simp only [IsSpecial]
            push Not
            exact ⟨this.2.1, this.2.2.1, this.2.2.2⟩
          exact .escaped x (Scanned.append_plain hplain hs)
  · rw [h]
    exact .plain (fun hq => hc (Or.inr (Or.inl hq))) (fun hb => hc (Or.inr (Or.inr hb))) hs

theorem scanned_stringify (s : PyStr) : Scanned (stringify s) := by
  induction s with
  | nil => exact .nil
  | cons c s ih =>
      rw [stringify, List.flatMap_cons]
      exact scanned_stringifyChar c ih

/-- A surrogate's escape is no other character's. -/
theorem escapeTail_not_surrogate {c : CodePoint} (hc : IsSpecial c) :
    ¬ escapeTail c <+: py "ud" ∧ ¬ py "ud" <+: escapeTail c :=
  of_decide_eq_true (special_of_all
    (p := fun c => decide (¬ escapeTail c <+: py "ud" ∧ ¬ py "ud" <+: escapeTail c))
    (by decide +kernel) hc)

/-- **WRITTEN CHARACTERS ARE A CODE**: what is written first tells which character it was. -/
theorem stringifyChar_append {c d : CodePoint} {x y : PyStr}
    (h : stringifyChar c ++ x = stringifyChar d ++ y) : c = d ∧ x = y := by
  have hpair : ∀ {c d : CodePoint} {x y : PyStr}, IsSpecial c →
      escapeTail c ++ x ≠ py "ud" ++ surrogateDigits d ++ y := by
    intro c d x y hc heq
    rw [List.append_assoc] at heq
    rcases List.prefix_or_prefix_of_prefix (List.prefix_append (escapeTail c) x)
      (heq ▸ List.prefix_append (py "ud") _) with hp | hp
    · exact (escapeTail_not_surrogate hc).1 hp
    · exact (escapeTail_not_surrogate hc).2 hp
  have hcd : c = d := by
    rcases stringifyChar_cases c with ⟨hc, hcs⟩ | ⟨hc, hcs⟩ | ⟨⟨hc, -⟩, hcs⟩ <;>
      rcases stringifyChar_cases d with ⟨hd, hds⟩ | ⟨hd, hds⟩ | ⟨⟨hd, -⟩, hds⟩ <;>
      rw [hcs, hds] at h
    · -- two surrogates: their digits tell them apart
      have htail : py "ud" ++ surrogateDigits c ++ x = py "ud" ++ surrogateDigits d ++ y :=
        (List.cons.inj h).2
      rw [List.append_assoc, List.append_assoc] at htail
      have hdigits := List.append_cancel_left htail
      obtain ⟨h1, hdigits⟩ := List.cons.inj hdigits
      obtain ⟨h2, hdigits⟩ := List.cons.inj hdigits
      have h3 := (List.cons.inj hdigits).1
      have e1 := hexDigit_inj _ (by omega) _ (by omega) h1
      have e2 := hexDigit_inj _ (by omega) _ (by omega) h2
      have e3 := hexDigit_inj _ (by omega) _ (by omega) h3
      simp only [IsSurrogate] at hc hd
      exact Fin.ext (by omega)
    · exact absurd (List.cons.inj h).2.symm (hpair hd)
    · exact absurd (Or.inr (Or.inr (List.cons.inj h).1.symm)) hd
    · exact absurd (List.cons.inj h).2 (hpair hc)
    · have htail : escapeTail c ++ x = escapeTail d ++ y := (List.cons.inj h).2
      rcases List.prefix_or_prefix_of_prefix (List.prefix_append (escapeTail c) x)
        (htail ▸ List.prefix_append (escapeTail d) y) with hp | hp
      · exact escapeTail_eq_of_isPrefix hc hd hp
      · exact (escapeTail_eq_of_isPrefix hd hc hp).symm
    · exact absurd (Or.inr (Or.inr (List.cons.inj h).1.symm)) hd
    · exact absurd (Or.inr (Or.inr (List.cons.inj h).1)) hc
    · exact absurd (Or.inr (Or.inr (List.cons.inj h).1)) hc
    · exact (List.cons.inj h).1
  subst hcd
  exact ⟨rfl, List.append_cancel_left h⟩

/-- No two strings are written alike. -/
theorem stringify_inj {s t : PyStr} (h : stringify s = stringify t) : s = t := by
  have hne : ∀ (c : CodePoint) (u : PyStr), stringifyChar c ++ u ≠ [] := by
    intro c u
    rcases stringifyChar_cases c with ⟨-, hc⟩ | ⟨-, hc⟩ | ⟨-, hc⟩ <;> rw [hc] <;>
      exact List.cons_ne_nil _ _
  induction s generalizing t with
  | nil =>
      cases t with
      | nil => rfl
      | cons d t => exact absurd h.symm (hne d _)
  | cons c s ih =>
      cases t with
      | nil => exact absurd h (hne c _)
      | cons d t =>
          obtain ⟨rfl, hrest⟩ := stringifyChar_append h
          rw [ih hrest]

/-- Two strings are encoded alike when they have one normal form. -/
theorem encodeString_eq_iff {s t : PyStr} :
    encodeString nfc s = encodeString nfc t ↔ nfc s = nfc t := by
  rw [encodeString, encodeString]
  constructor
  · exact fun h => stringify_inj (List.append_cancel_right (List.cons.inj h).2)
  · exact fun h => by rw [h]

theorem tokenPair_encodeString : TokenPair (encodeString nfc) (encodeString nfc) :=
  tokenPair_of_scanned (fun s => scanned_stringify (nfc s)) fun s => scanned_stringify (nfc s)

/-! ## The same bytes -/

/-- A JSON value both packages hold as it is: no floats, integers a `number` is exact for, and
    strings of scalar values. -/
inductive Portable : Json → Prop where
  | null : Portable .null
  | bool (b : Bool) : Portable (.bool b)
  | int {n : Int} : n.natAbs ≤ maxSafeInteger → Portable (.int n)
  | str {s : PyStr} : (∀ c ∈ s, IsScalar c) → Portable (.str s)
  | arr {items : List Json} : (∀ v ∈ items, Portable v) → Portable (.arr items)
  | obj {members : Members} : (∀ m ∈ members, ∀ c ∈ m.1, IsScalar c) →
      (∀ m ∈ members, Portable m.2) → Portable (.obj members)

mutual

/-- What `JSON.parse` makes of a value. -/
def ofJson : Json → JsonValue
  | .null => .null
  | .bool b => .boolean b
  | .int n => .number (.integer n)
  | .float bits => .number (.fraction bits)
  | .str s => .string s
  | .arr items => .array (ofJsonItems items)
  | .obj members => .object (ofJsonMembers members)

def ofJsonItems : List Json → List JsonValue
  | [] => []
  | v :: items => ofJson v :: ofJsonItems items

def ofJsonMembers : Members → List (PyStr × JsonValue)
  | [] => []
  | (k, v) :: members => (k, ofJson v) :: ofJsonMembers members

end

theorem ofJsonItems_eq_map (items : List Json) : ofJsonItems items = items.map ofJson := by
  induction items with
  | nil => rw [ofJsonItems, List.map_nil]
  | cons v items ih => rw [ofJsonItems, ih, List.map_cons]

theorem ofJsonMembers_eq_map (members : Members) :
    ofJsonMembers members = members.map fun m => (m.1, ofJson m.2) := by
  induction members with
  | nil => rw [ofJsonMembers, List.map_nil]
  | cons m members ih =>
      obtain ⟨k, v⟩ := m
      rw [ofJsonMembers, ih, List.map_cons]

/-- Parsing loses nothing. -/
theorem asJson_ofJson (v : Json) : asJson (ofJson v) = v := by
  induction v using json_induction with
  | null => rw [ofJson, asJson]
  | bool b => rw [ofJson, asJson]
  | int n => rw [ofJson, asJson]
  | float bits => rw [ofJson, asJson]
  | str s => rw [ofJson, asJson]
  | arr items ih =>
      rw [ofJson, asJson, ofJsonItems_eq_map, asJsonItems_eq_map, List.map_map]
      exact congrArg _ ((List.map_congr_left ih).trans (List.map_id _))
  | obj members ih =>
      rw [ofJson, asJson, ofJsonMembers_eq_map, asJsonMembers_eq_map, List.map_map]
      refine congrArg _ ((List.map_congr_left fun m hm => ?_).trans (List.map_id _))
      exact Prod.ext rfl (ih m hm)

/-- A portable value is accepted. -/
theorem Portable.accepted {v : Json} (h : Portable v) : Accepted (ofJson v) := by
  induction h with
  | null => exact .null
  | bool b => exact .boolean b
  | int hn => exact .integer hn
  | str _ => exact .string _
  | arr _ ih =>
      rw [ofJson, ofJsonItems_eq_map]
      exact .array (List.forall_mem_map.mpr ih)
  | obj _ _ ih =>
      rw [ofJson, ofJsonMembers_eq_map]
      exact .object (List.forall_mem_map.mpr ih)

/-- It has no surrogate. -/
theorem Portable.scalar {v : Json} (h : Portable v) :
    AllStrings (fun s => ∀ c ∈ s, IsScalar c) v := by
  induction h with
  | null => exact .null
  | bool b => exact .bool b
  | int _ => exact .int _
  | str hs => exact .str hs
  | arr _ ih => exact .arr ih
  | obj hkeys _ ih => exact .obj hkeys ih

/-- What `JSON.stringify` writes never holds a lone surrogate. -/
theorem isScalar_stringify (s : PyStr) : ∀ c ∈ stringify s, IsScalar c := by
  have hascii : ∀ {w : PyStr}, IsAscii w → ∀ c ∈ w, IsScalar c := fun h c hc =>
    isScalar_ascii (h c hc)
  have hdigits : ∀ c, IsAscii (py "ud" ++ surrogateDigits c) := by
    intro c
    refine isAscii_append.mpr ⟨by decide, ?_⟩
    simp only [surrogateDigits, isAscii_cons, isAscii_nil, and_true]
    exact ⟨isAscii_hexDigit _ (by omega), isAscii_hexDigit _ (by omega),
      isAscii_hexDigit _ (by omega)⟩
  intro c hc
  obtain ⟨d, -, hd⟩ := List.mem_flatMap.mp hc
  rcases stringifyChar_cases d with ⟨-, h⟩ | ⟨hs, h⟩ | ⟨⟨-, hs⟩, h⟩
  · exact hascii (isAscii_cons.mpr ⟨by decide, hdigits d⟩) c (h ▸ hd)
  · exact hascii (isAscii_cons.mpr ⟨by decide, isAscii_escapeTail hs⟩) c (h ▸ hd)
  · rw [h] at hd
    rw [List.mem_singleton.mp hd]
    exact isScalar_iff.mpr hs

theorem isScalar_token {s : PyStr} (h : ∀ c ∈ s, IsScalar c) :
    ∀ c ∈ quote :: (s ++ [quote]), IsScalar c := by
  have hq : IsScalar quote := isScalar_ascii (by decide)
  rw [List.forall_mem_cons, List.forall_mem_append]
  exact ⟨hq, h, by simpa using hq⟩

theorem isScalar_nfcToken (N : NfcText nfc) {s : PyStr} (h : ∀ c ∈ s, IsScalar c) :
    ∀ c ∈ nfcToken nfc s, IsScalar c :=
  isScalar_token (N.scalar _ (stringify_scalar h ▸ isScalar_stringify s))

/-- The characters of scalar text, and their bytes. -/
theorem exists_chars_of_scalar {s : PyStr} (h : ∀ c ∈ s, IsScalar c) :
    ∃ cs, s.mapM toChar? = some cs ∧ cs.flatMap String.utf8EncodeChar = textEncode s := by
  induction s with
  | nil => exact ⟨[], rfl, rfl⟩
  | cons c s ih =>
      obtain ⟨cs, hcs, henc⟩ := ih fun d hd => h d (List.mem_cons_of_mem _ hd)
      have hc : toChar? c = some (Char.ofNat c.val) := if_pos (h c List.mem_cons_self)
      refine ⟨Char.ofNat c.val :: cs, by simp [List.mapM_cons, hc, hcs], ?_⟩
      rw [List.flatMap_cons, henc, textEncode, textEncode, List.flatMap_cons]
      refine congrArg (· ++ s.flatMap encodeChar) ?_
      rw [encodeChar, hc]

/-- Scalar text is encoded the same by both languages. -/
theorem utf8Encode_scalar {s : PyStr} (h : ∀ c ∈ s, IsScalar c) :
    utf8Encode s = .ok (textEncode s) := by
  obtain ⟨cs, hcs, henc⟩ := exists_chars_of_scalar h
  rw [utf8Encode, hcs, ← henc]

/-- Scalar texts with the same bytes are the same. -/
theorem textEncode_inj {s t : PyStr} (hs : ∀ c ∈ s, IsScalar c) (ht : ∀ c ∈ t, IsScalar c)
    (h : textEncode s = textEncode t) : s = t :=
  utf8Encode_inj (utf8Encode_scalar hs) (h ▸ utf8Encode_scalar ht)

/-- **UTF-8 IS A PREFIX CODE**: bytes that begin with those of a text are of a text that begins
    with it. -/
theorem prefix_of_textEncode {s t : PyStr} (hs : ∀ c ∈ s, IsScalar c) (ht : ∀ c ∈ t, IsScalar c)
    {rest : Bytes} (h : textEncode s ++ rest = textEncode t) : s <+: t := by
  obtain ⟨cs, hcs, hsbytes⟩ := exists_chars_of_scalar hs
  obtain ⟨ct, hct, htbytes⟩ := exists_chars_of_scalar ht
  have hbytes : cs.utf8Encode ++ rest.toByteArray = ct.utf8Encode := by
    rw [List.utf8Encode, List.utf8Encode, hsbytes, htbytes, ← List.toByteArray_append, h]
  have hprefix := List.isPrefix_of_utf8Encode_append_eq_utf8Encode _ hbytes
  rw [← map_codePoint_of_mapM hcs, ← map_codePoint_of_mapM hct]
  exact hprefix.map codePoint

/-- A string is written alike by both packages exactly when its escapes stand. -/
theorem token_eq_iff (N : NfcText nfc) {s : PyStr} (hs : ∀ c ∈ s, IsScalar c) :
    nfcToken nfc s = encodeString nfc s ↔ EscapesStand nfc s := by
  rw [← nfc_escape_eq_iff N, nfcToken, encodeString, stringify_scalar (N.scalar s hs)]
  constructor
  · exact fun h => List.append_cancel_right (List.cons.inj h).2
  · exact fun h => by rw [h]

theorem AllStrings.and {P Q : PyStr → Prop} {v : Json} (hp : AllStrings P v)
    (hq : AllStrings Q v) : AllStrings (fun s => P s ∧ Q s) v := by
  induction hp with
  | null => exact .null
  | bool b => exact .bool b
  | int n => exact .int n
  | float bits => exact .float bits
  | str hs =>
      cases hq with
      | str hq => exact .str ⟨hs, hq⟩
  | arr _ ih =>
      cases hq with
      | arr hq => exact .arr fun v hv => ih v hv (hq v hv)
  | obj hkeys _ ih =>
      cases hq with
      | obj hq hqs => exact .obj (fun m hm => ⟨hkeys m hm, hq m hm⟩) fun m hm => ih m hm (hqs m hm)

/-- What TypeScript accepts holds no float. -/
theorem Accepted.floatFree {v : JsonValue} (h : Accepted v) : FloatFree (asJson v) := by
  induction h with
  | null => exact .null
  | boolean b => exact .bool b
  | integer _ => exact .int _
  | negZero => exact .int 0
  | bigint n => exact .int n
  | string s => exact .str s
  | array _ ih =>
      rw [asJson, asJsonItems_eq_map]
      exact .arr (List.forall_mem_map.mpr ih)
  | object _ ih =>
      rw [asJson, asJsonMembers_eq_map]
      exact .obj (List.forall_mem_map.mpr ih)

/-- Of a value TypeScript accepts whose strings are scalar, both packages return bytes, and the
    bytes are the same exactly when the escapes stand. -/
theorem same_bytes_of_accepted (N : NfcText nfc) {j : JsonValue} (hj : Accepted j)
    (hscalar : AllStrings (fun s => ∀ c ∈ s, IsScalar c) (asJson j)) :
    ∃ b b', canonicalJson nfc (asJson j) = .ok b ∧ tsCanonicalJson nfc j = .ok b' ∧
      (b = b' ↔ AllStrings (EscapesStand nfc) (asJson j)) := by
  have hpython : ∀ c ∈ render (nfcToken nfc) (asJson j), IsScalar c :=
    forall_mem_render (fun _ => isScalar_ascii) (hscalar.imp fun _ => isScalar_nfcToken N)
  have hts : ∀ c ∈ render (encodeString nfc) (asJson j), IsScalar c :=
    forall_mem_render (fun _ => isScalar_ascii)
      (hscalar.imp fun s _ => isScalar_token (isScalar_stringify (nfc s)))
  have hpair : TokenPair (nfcToken nfc) (encodeString nfc) :=
    tokenPair_of_scanned (scanned_nfc_escape N) fun s => scanned_stringify (nfc s)
  refine ⟨textEncode (render (nfcToken nfc) (asJson j)),
    textEncode (render (encodeString nfc) (asJson j)), ?_, ?_, ?_⟩
  · rw [canonicalJson, rejectFloats_ok_iff.mpr hj.floatFree, nfc_dumps N]
    exact utf8Encode_scalar hpython
  · exact bind_ok_iff.mpr ⟨_, canonicalize_ok_iff.mpr ⟨hj, rfl⟩, rfl⟩
  · have htext : textEncode (render (nfcToken nfc) (asJson j))
          = textEncode (render (encodeString nfc) (asJson j)) ↔
        render (nfcToken nfc) (asJson j) = render (encodeString nfc) (asJson j) :=
      ⟨textEncode_inj hpython hts, fun h => by rw [h]⟩
    rw [htext, render_eq_iff hpair hj.floatFree hj.floatFree, matches_self_iff hj.floatFree]
    constructor
    · exact fun h => (AllStrings.and hscalar h).imp fun s hs => (token_eq_iff N hs.1).mp hs.2
    · exact fun h => (AllStrings.and hscalar h).imp fun s hs => (token_eq_iff N hs.1).mpr hs.2

/-- **WHEN BOTH PACKAGES SIGN THE SAME BYTES.**  Of every value both hold, both return canonical
    bytes, and the bytes are the same exactly when in no string or key does the escape of a
    control character compose with the text behind it. -/
theorem same_bytes_iff (N : NfcText nfc) (v : Json) (hv : Portable v) :
    ∃ b b', canonicalJson nfc v = .ok b ∧ tsCanonicalJson nfc (ofJson v) = .ok b' ∧
      (b = b' ↔ AllStrings (EscapesStand nfc) v) := by
  have h := same_bytes_of_accepted N hv.accepted
  rw [asJson_ofJson] at h
  exact h hv.scalar

/-- A newline in front of plain text: its escape stands. -/
def standingLabel : Json := .str (py "\n" ++ py "a")

theorem same_bytes_iff_standing : ∃ b, canonicalJson sampleNfc standingLabel = .ok b ∧
    tsCanonicalJson sampleNfc (ofJson standingLabel) = .ok b := by
  have hportable : Portable standingLabel := .str fun c hc => isScalar_ascii
    ((by decide : IsAscii (py "\n" ++ py "a")) c hc)
  obtain ⟨b, b', hb, hb', hiff⟩ := same_bytes_iff sampleNfc_text standingLabel hportable
  have hstands : EscapesStand sampleNfc (py "\n" ++ py "a") := by
    refine (nfc_escape_eq_iff sampleNfc_text).mp ?_
    decide
  rw [← hiff.mpr (.str hstands)] at hb'
  exact ⟨b, hb, hb'⟩

/-- A newline in front of a combining tilde: `\n` and the tilde become `\ñ` in one package only. -/
def fallenLabel : Json := .str (py "\n" ++ [tilde])

/-- **THE PACKAGES SIGN DIFFERENT BYTES.** -/
theorem newline_tilde_differs : Portable fallenLabel ∧ ∃ b b',
    canonicalJson sampleNfc fallenLabel = .ok b ∧
      tsCanonicalJson sampleNfc (ofJson fallenLabel) = .ok b' ∧ b ≠ b' := by
  refine ⟨.str fun c hc => ?_, [0x22, 0x5C, 0xC3, 0xB1, 0x22], [0x22, 0x5C, 0x6E, 0xCC, 0x83, 0x22],
    by decide +kernel, by decide +kernel, by decide⟩
  rcases List.mem_append.mp hc with hc | hc
  · exact isScalar_ascii ((by decide : IsAscii (py "\n")) c hc)
  · rw [List.mem_singleton.mp hc]
    exact Or.inl (by decide)

/-! ## The signing input names what it covers -/

/-- Values that match correspond, member by member in some order. -/
theorem canonEquiv_of_matches {v w : Json} (h : Matches (fun s t => nfc s = nfc t) v w) :
    CanonEquiv nfc v w := by
  induction h with
  | null => exact .null
  | bool b => exact .bool b
  | int n => exact .int n
  | str hst => exact .str hst
  | arr hlen _ ih => exact .arr hlen ih
  | @obj members members' hlen hkeys _ ih =>
      have hsorted : List.Forall₂ (fun m m' : PyStr × Json => nfc m.1 = nfc m'.1 ∧
          CanonEquiv nfc m.2 m'.2) (sortKeys members) (sortKeys members') :=
        List.forall₂_iff_zip.mpr ⟨hlen, fun hp => ⟨hkeys _ hp, ih _ hp⟩⟩
      -- put the members of the second object back in the order they were given
      obtain ⟨order, hperm, hall⟩ : ∃ order, (sortKeys members).Perm order ∧
          List.Forall₂ (fun m m' : PyStr × Json => nfc m.1 = nfc m'.1 ∧
            CanonEquiv nfc m.2 m'.2) order members' := by
        have hcomp := List.forall₂_comp_perm_eq_perm_comp_forall₂
          (r := fun m m' : PyStr × Json => nfc m.1 = nfc m'.1 ∧ CanonEquiv nfc m.2 m'.2)
        have : Relation.Comp (List.Forall₂ fun m m' : PyStr × Json => nfc m.1 = nfc m'.1 ∧
            CanonEquiv nfc m.2 m'.2) List.Perm (sortKeys members) members' :=
          ⟨_, hsorted, List.perm_insertionSort _ _⟩
        rw [hcomp] at this
        exact this
      obtain ⟨hlen', hzip⟩ := List.forall₂_iff_zip.mp hall
      exact .obj ((List.perm_insertionSort _ _).symm.trans hperm) hlen'
        (fun p hp => (hzip hp).1) fun p hp => (hzip hp).2

/-- The text of an accepted value holds no lone surrogate. -/
theorem isScalar_canonicalize {v : JsonValue} {text : PyStr}
    (h : canonicalize nfc v = .ok text) : ∀ c ∈ text, IsScalar c := by
  obtain ⟨-, rfl⟩ := canonicalize_ok_iff.mp h
  refine forall_mem_render (fun _ => isScalar_ascii) ?_
  induction asJson v using json_induction with
  | null => exact .null
  | bool b => exact .bool b
  | int n => exact .int n
  | float bits => exact .float bits
  | str s => exact .str (isScalar_token (isScalar_stringify (nfc s)))
  | arr items ih => exact .arr ih
  | obj members ih =>
      exact .obj (fun m _ => isScalar_token (isScalar_stringify (nfc m.1))) ih

/-- **WHERE THE BYTES OF AN OBJECT END**: whatever bytes follow, they tell the object from them. -/
theorem canonicalize_object_append {members members' : List (PyStr × JsonValue)}
    {text text' : PyStr} (h : canonicalize nfc (.object members) = .ok text)
    (h' : canonicalize nfc (.object members') = .ok text') {raw raw' : Bytes}
    (heq : textEncode text ++ raw = textEncode text' ++ raw') : text = text' ∧ raw = raw' := by
  -- a text that begins with the text of an object is no longer than it
  have hsame : ∀ {m m' : List (PyStr × JsonValue)} {s s' : PyStr},
      canonicalize nfc (.object m) = .ok s → canonicalize nfc (.object m') = .ok s' →
      ∀ rest, textEncode s ++ rest = textEncode s' → s = s' := by
    intro m m' s s' hs hs' rest hbytes
    obtain ⟨z, hz⟩ := prefix_of_textEncode (isScalar_canonicalize hs) (isScalar_canonicalize hs')
      hbytes
    obtain ⟨haccepted, hrender⟩ := canonicalize_ok_iff.mp hs
    obtain ⟨haccepted', hrender'⟩ := canonicalize_ok_iff.mp hs'
    have hfree := haccepted.floatFree
    have hfree' := haccepted'.floatFree
    rw [hrender, hrender'] at hz
    rw [asJson] at hz hfree hfree'
    rw [asJson] at hz
    have hnil : z = [] := (matches_of_render_obj tokenPair_encodeString hfree hfree'
      (hz.trans (List.append_nil _).symm)).2
    rw [hrender, hrender', asJson, asJson, ← hz, hnil, List.append_nil]
  rcases List.append_eq_append_iff.mp heq with ⟨rest, hlong, -⟩ | ⟨rest, hlong, -⟩
  · obtain rfl := hsame h h' rest hlong.symm
    exact ⟨rfl, List.append_cancel_left heq⟩
  · obtain rfl := hsame h' h rest hlong.symm
    exact ⟨rfl, List.append_cancel_left heq⟩

/-- The signing input is the length of the tag, the tag, and the canonical payload. -/
theorem tsSigningInput_ok_iff {context : PyStr} {payload : JsonValue} {message : Bytes} :
    tsSigningInput nfc context payload = .ok message ↔
      ∃ tag text, tsDomainTag context = .ok tag ∧ canonicalize nfc payload = .ok text ∧
        message = twoBytes tag.length ++ tag ++ textEncode text := by
  rw [tsSigningInput, bind_ok_iff]
  constructor
  · rintro ⟨tag, htag, h⟩
    obtain ⟨body, hbody, h⟩ := bind_ok_iff.mp h
    obtain ⟨text, htext, hbody⟩ := bind_ok_iff.mp hbody
    cases hbody
    exact ⟨tag, text, htag, htext, (Except.ok.inj h).symm⟩
  · rintro ⟨tag, text, htag, htext, rfl⟩
    exact ⟨tag, htag, bind_ok_iff.mpr ⟨_, bind_ok_iff.mpr ⟨text, htext, rfl⟩, rfl⟩⟩

/-- A tag is the UTF-8 of domain and context, and its length fits in two bytes. -/
theorem tsDomainTag_ok {context : PyStr} {tag : Bytes} (h : tsDomainTag context = .ok tag) :
    tag = textEncode (domain ++ py "/" ++ context) ∧ tag.length ≤ maxTagBytes := by
  simp only [tsDomainTag] at h
  by_cases hne : context = []
  · rw [if_pos hne] at h
    cases h
  by_cases hlen : maxTagBytes < (textEncode (domain ++ py "/" ++ context)).length
  · rw [if_neg hne, if_pos hlen] at h
    cases h
  · rw [if_neg hne, if_neg hlen] at h
    cases h
    exact ⟨rfl, not_lt.mp hlen⟩

/-- **THE SIGNING INPUT IS UNAMBIGUOUS.**  Equal TypeScript signing inputs of two well-formed
    contexts have the same context, and payloads equal up to normalisation of strings and keys,
    members in any order. -/
theorem ts_signingInput_inj (nfc : PyStr → PyStr) (c1 c2 : PyStr) (p1 p2 : JsonValue)
    (hc1 : ∀ c ∈ c1, IsScalar c) (hc2 : ∀ c ∈ c2, IsScalar c) (message : Bytes)
    (h1 : tsSigningInput nfc c1 p1 = .ok message) (h2 : tsSigningInput nfc c2 p2 = .ok message) :
    c1 = c2 ∧ CanonEquiv nfc (asJson p1) (asJson p2) := by
  obtain ⟨tag1, text1, htag1, htext1, rfl⟩ := tsSigningInput_ok_iff.mp h1
  obtain ⟨tag2, text2, htag2, htext2, heq⟩ := tsSigningInput_ok_iff.mp h2
  obtain ⟨rfl, hlen1⟩ := tsDomainTag_ok htag1
  obtain ⟨rfl, hlen2⟩ := tsDomainTag_ok htag2
  -- the length prefix separates tag and payload
  rw [List.append_assoc (twoBytes _), List.append_assoc (twoBytes _)] at heq
  obtain ⟨hpre, hrest⟩ := List.append_inj heq rfl
  obtain ⟨htags, hbodies⟩ := List.append_inj hrest (twoBytes_inj hlen1 hlen2 hpre)
  have hdomain : ∀ c ∈ domain ++ py "/", IsScalar c := fun c hc =>
    isScalar_ascii ((by decide : IsAscii (domain ++ py "/")) c hc)
  have hcontexts := textEncode_inj (List.forall_mem_append.mpr ⟨hdomain, hc1⟩)
    (List.forall_mem_append.mpr ⟨hdomain, hc2⟩) htags
  have htexts : text1 = text2 :=
    textEncode_inj (isScalar_canonicalize htext1) (isScalar_canonicalize htext2) hbodies
  obtain ⟨hp1, rfl⟩ := canonicalize_ok_iff.mp htext1
  obtain ⟨hp2, rfl⟩ := canonicalize_ok_iff.mp htext2
  refine ⟨List.append_cancel_left hcontexts, canonEquiv_of_matches ?_⟩
  exact Matches.imp (fun _ _ => encodeString_eq_iff.mp)
    ((render_eq_iff tokenPair_encodeString hp1.floatFree hp2.floatFree).mp htexts)

/-- One label in two spellings, and one integer as a number and as a bigint. -/
theorem ts_signingInput_inj_spelled : CanonEquiv sampleNfc
    (asJson (.array [.string [enye], .number (.integer 1)]))
    (asJson (.array [.string [codePoint 'n', tilde], .bigint 1])) := by
  have hcontext : ∀ c ∈ contextDelegation, IsScalar c := fun c hc =>
    isScalar_ascii ((by decide : IsAscii contextDelegation) c hc)
  obtain ⟨message, hmessage⟩ : ∃ message, tsSigningInput sampleNfc contextDelegation
      (.array [.string [enye], .number (.integer 1)]) = .ok message := ⟨_, rfl⟩
  exact (ts_signingInput_inj sampleNfc contextDelegation contextDelegation _ _ hcontext hcontext
    message hmessage (hmessage ▸ by decide +kernel)).2

end AgentTsCanonical
