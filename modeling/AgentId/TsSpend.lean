import AgentId.SpendGrammar
import AgentId.TsSigning
import AgentId.Utf16

/-!
# Spend scopes in TypeScript (`spend.ts`)

The same grammar as the Python package reads, with patterns that end at the end of the text and
amounts kept as they are written.

* **`compare_pos_iff`** — `Amount.compare` compares the numbers.
* **`tsParseSpendScope_ok_iff`** — the parser reads the grammar and nothing else.
* **`parsers_agree_iff`** — the two parsers read the grammar alike, but for a line feed that Python
  lets stand behind the asset or an amount.
-/

namespace AgentTsSpend

open AgentPy AgentPositional AgentDecimal AgentSpend AgentSpendAuthority AgentTokenLanguage
  AgentSpendGrammar AgentUtf16 AgentTsCanonical AgentTsSigning

/-! ## Amounts -/

/-- `ASSET_RE.test` -/
def testAsset (s : PyStr) : Bool :=
  (s.splitOnP isAssetSeparator).all fun token => token ≠ [] && token.all isAssetChar

/-- `AMOUNT_RE.test` -/
def testAmount (s : PyStr) : Bool :=
  match s.splitOn (codePoint '.') with
  | [whole] => isDigits whole
  | [whole, fraction] => isDigits whole && isDigits fraction
  | _ => false

/-- An amount, kept as its text. -/
structure Amount where
  text : PyStr
  short : (utf16 text).length ≤ maxAmountChars
  matches_re : testAmount text = true

/-- The constructor of `Amount`. -/
def newAmount (text : PyStr) : Js Amount :=
  if hlong : maxAmountChars < (utf16 text).length then
    throwNew .spendScopeError ["amount is unreasonably long"]
  else if hbad : testAmount text = false then
    throwNew .spendScopeError
      ["amount must be a non-negative decimal like '25' or '9.99', got ", .repr text]
  else .ok ⟨text, Nat.le_of_not_lt hlong, Bool.eq_true_of_not_eq_false hbad⟩

def tsParseAmount (text : PyStr) : Js Amount := newAmount text

namespace Amount

/-- `const [ai, af = ""] = a.text.split(".")` -/
def parts (a : Amount) : PyStr × PyStr :=
  match a.text.splitOn (codePoint '.') with
  | whole :: fraction :: _ => (whole, fraction)
  | [whole] => (whole, [])
  | [] => (py "0", [])

/-- `BigInt` of a text of digits. -/
def bigInt (digits : PyStr) : ℕ := value 10 (digits.map digitValue)

/-- `s.padEnd(n, "0")` -/
def padEnd (s : PyStr) (n : ℕ) : PyStr := s ++ List.replicate (n - s.length) (codePoint '0')

/-- The digits of an amount to this many places. -/
def scaled (a : Amount) (scale : ℕ) : ℕ := bigInt (a.parts.1 ++ padEnd a.parts.2 scale)

/-- `Amount.compare` -/
def compare (a b : Amount) : ℤ :=
  let scale := max a.parts.2.length b.parts.2.length
  if a.scaled scale < b.scaled scale then -1 else if b.scaled scale < a.scaled scale then 1 else 0

/-- The number an amount stands for. -/
def toRat (a : Amount) : ℚ := bigInt (a.parts.1 ++ a.parts.2) * 10 ^ (-(a.parts.2.length : ℤ))

/-- Zeros behind a number multiply it by the base. -/
theorem value_append_zeros (ds : List ℕ) (n : ℕ) :
    value 10 (ds ++ List.replicate n 0) = value 10 ds * 10 ^ n := by
  rw [value_eq_ofDigits, value_eq_ofDigits, List.reverse_append, List.reverse_replicate,
    Nat.ofDigits_append, Nat.ofDigits_replicate_zero, List.length_replicate, zero_add, mul_comm]

/-- The digits at a scale are the number there. -/
theorem scaled_eq (a : Amount) {scale : ℕ} (h : a.parts.2.length ≤ scale) :
    (a.scaled scale : ℚ) = a.toRat * 10 ^ scale := by
  have hzero : digitValue (codePoint '0') = 0 := by decide
  have hscaled : a.scaled scale
      = bigInt (a.parts.1 ++ a.parts.2) * 10 ^ (scale - a.parts.2.length) := by
    simp only [scaled, bigInt, padEnd]
    rw [← List.append_assoc, List.map_append, List.map_replicate, hzero, value_append_zeros]
  have hpow : (10 : ℚ) ^ (scale - a.parts.2.length)
      = 10 ^ (-(a.parts.2.length : ℤ)) * 10 ^ scale := by
    rw [← zpow_natCast, ← zpow_natCast, ← zpow_add₀ (by norm_num)]
    congr 1
    omega
  rw [hscaled, Nat.cast_mul, Nat.cast_pow, Nat.cast_ofNat, hpow, toRat, mul_assoc]

/-- At a common scale digits compare as numbers. -/
theorem scaled_lt_iff (a b : Amount) {scale : ℕ} (ha : a.parts.2.length ≤ scale)
    (hb : b.parts.2.length ≤ scale) : a.scaled scale < b.scaled scale ↔ a.toRat < b.toRat := by
  rw [← Nat.cast_lt (α := ℚ), a.scaled_eq ha, b.scaled_eq hb]
  exact mul_lt_mul_iff_left₀ (by positivity)

/-- **`Amount.compare`** is positive when the one number is greater. -/
theorem compare_pos_iff (a b : Amount) : 0 < compare a b ↔ b.toRat < a.toRat := by
  rw [← scaled_lt_iff b a (le_max_right _ _) (le_max_left _ _), compare]
  split_ifs with hlt hgt
  · exact iff_of_false (by decide) hlt.not_gt
  · exact iff_of_true (by decide) hgt
  · exact iff_of_false (by decide) hgt

end Amount

/-! ## Scopes -/

/-- Parsed spend authority for one asset; an absent cap is unlimited. -/
structure TsSpendScope where
  asset : PyStr
  txCap : Option Amount
  totalCap : Option Amount

/-- `isSpendScope` -/
def tsIsSpendScope (scope : PyStr) : Bool := scope.takeWhile (· ≠ codePoint ':') = spendPrefix

/-- The loop over the cap segments of a scope. -/
def tsParseCaps (scope : PyStr) : TsSpendScope → List PyStr → Js TsSpendScope
  | parsed, [] => .ok parsed
  | parsed, segment :: segments =>
      if txCapPrefix.isPrefixOf segment then do
        throwIf (parsed.txCap.isSome = true) .spendScopeError
          ["duplicate tx cap in scope: ", .repr scope]
        let cap ← tsParseAmount (segment.drop txCapPrefix.length)
        tsParseCaps scope { parsed with txCap := some cap } segments
      else if totalCapPrefix.isPrefixOf segment then do
        throwIf (parsed.totalCap.isSome = true) .spendScopeError
          ["duplicate total cap in scope: ", .repr scope]
        let cap ← tsParseAmount (segment.drop totalCapPrefix.length)
        tsParseCaps scope { parsed with totalCap := some cap } segments
      else throwNew .spendScopeError ["unknown spend scope segment: ", .repr segment]

/-- `parseSpendScope` -/
def tsParseSpendScope (scope : PyStr) : Js TsSpendScope := do
  throwIf (tsIsSpendScope scope = false) .spendScopeError ["not a spend scope: ", .repr scope]
  match scope.splitOn (codePoint ':') with
  | _ :: asset :: segments => do
      -- the empty text is falsy
      throwIf (asset = []) .spendScopeError ["spend scope is missing an asset: ", .repr scope]
      throwIf (testAsset asset = false) .spendScopeError ["invalid asset token: ", .repr asset]
      tsParseCaps scope ⟨asset, none, none⟩ segments
  | _ => throwNew .spendScopeError ["spend scope is missing an asset: ", .repr scope]

/-! ## What the parser accepts -/

/-- The regular expression for an asset is the pattern itself. -/
theorem testAsset_iff {s : PyStr} : testAsset s = true ↔ s ∈ assetPattern :=
  mem_assetPattern_iff.symm

theorem testAmount_iff_digits {s : PyStr} : testAmount s = true ↔ ∃ parts, digits? s = some parts := by
  simp only [testAmount, digits?]
  generalize s.splitOn (codePoint '.') = pieces
  rcases pieces with _ | ⟨whole, _ | ⟨fraction, _ | ⟨next, rest⟩⟩⟩
  · exact iff_of_false Bool.false_ne_true fun ⟨_, h⟩ => absurd h.symm (Option.some_ne_none _)
  · by_cases h : isDigits whole = true <;> simp [h]
  · by_cases h : (isDigits whole && isDigits fraction) = true <;> simp [h]
  · exact iff_of_false Bool.false_ne_true fun ⟨_, h⟩ => absurd h.symm (Option.some_ne_none _)

/-- So is that for an amount. -/
theorem testAmount_iff {s : PyStr} : testAmount s = true ↔ s ∈ amountPattern :=
  testAmount_iff_digits.trans mem_amountPattern_iff.symm

theorem lt_of_isDigit {c : CodePoint} (h : isDigit c = true) : c.val < 0x10000 := by
  rw [isDigit, Bool.and_eq_true, decide_eq_true_eq, decide_eq_true_eq] at h
  omega

/-- An amount has as many code units as characters. -/
theorem length_utf16_amount {s : PyStr} (h : s ∈ amountPattern) : (utf16 s).length = s.length := by
  refine length_utf16_of_lt fun c hc => ?_
  rcases mem_of_pointed h c hc with hdigit | rfl
  · exact lt_of_isDigit hdigit
  · decide

/-- An amount keeps its text. -/
theorem newAmount_ok_iff {text : PyStr} {a : Amount} : newAmount text = .ok a ↔ a.text = text := by
  simp only [newAmount, throwNew]
  split_ifs with hlong hbad
  · refine iff_of_false (fun h => by cases h) ?_
    rintro rfl
    exact absurd a.short (Nat.not_le_of_lt hlong)
  · refine iff_of_false (fun h => by cases h) ?_
    rintro rfl
    rw [a.matches_re] at hbad
    cases hbad
  · constructor
    · rintro ⟨⟩
      rfl
    · rintro rfl
      rfl

/-- The amount a text stands for, if any. -/
def tsAmountOf (text : PyStr) : Option Amount := (tsParseAmount text).toOption

/-- The amount is the one the parser returns. -/
theorem tsAmountOf_eq_some_iff {text : PyStr} {a : Amount} :
    tsAmountOf text = some a ↔ tsParseAmount text = .ok a :=
  toOption_eq_some_iff

/-- **AN AMOUNT PARSES** when it has at most 40 characters and is wholly of the pattern. -/
theorem exists_tsAmount_iff {text : PyStr} :
    (∃ a, tsAmountOf text = some a) ↔ text ∈ amountPattern ∧ text.length ≤ maxAmountChars := by
  constructor
  · rintro ⟨a, ha⟩
    cases newAmount_ok_iff.mp (tsAmountOf_eq_some_iff.mp ha)
    have hmem := testAmount_iff.mp a.matches_re
    exact ⟨hmem, length_utf16_amount hmem ▸ a.short⟩
  · rintro ⟨hmem, hlen⟩
    exact ⟨⟨text, (length_utf16_amount hmem).symm ▸ hlen, testAmount_iff.mpr hmem⟩,
      tsAmountOf_eq_some_iff.mpr (newAmount_ok_iff.mpr rfl)⟩

def tsCap (s : TsSpendScope) : Axis → Option Amount
  | .tx => s.txCap
  | .total => s.totalCap

/-- The scope with one more cap. -/
def tsWithCap (s : TsSpendScope) (a : Amount) : Axis → TsSpendScope
  | .tx => { s with txCap := some a }
  | .total => { s with totalCap := some a }

/-- The loop of the parser, cap by cap. -/
theorem capLoop_tsParseCaps (scope : PyStr) :
    CapLoop tsAmountOf TsSpendScope.asset tsCap tsWithCap (tsParseCaps scope) where
  ext := by
    rintro ⟨asset, tx, total⟩ ⟨asset', tx', total'⟩ hasset hcaps
    cases hasset
    cases (congrFun hcaps .tx : tx = tx')
    cases (congrFun hcaps .total : total = total')
    rfl
  asset_withCap s a axis := by cases axis <;> rfl
  cap_withCap s a axis := by
    funext other
    cases axis <;> cases other <;> rfl
  nil_ok _ := rfl
  cons_ok s t axis text segments := by
    simp only [tsAmountOf_eq_some_iff]
    rw [tsParseCaps]
    cases axis with
    | tx =>
        rw [if_pos (isPrefixOf_tx text), seq_ok_iff, throwIf_ok_iff, Bool.not_eq_true,
          Option.isSome_eq_false_iff, Option.isNone_iff_eq_none, bind_ok_iff, drop_tx]
        rfl
    | total =>
        rw [not_isPrefixOf_total, if_neg Bool.false_ne_true, if_pos (isPrefixOf_total text),
          seq_ok_iff, throwIf_ok_iff, Bool.not_eq_true, Option.isSome_eq_false_iff,
          Option.isNone_iff_eq_none, bind_ok_iff, drop_total]
        rfl
  segment s t segment segments h := by
    simp only [tsParseCaps] at h
    split_ifs at h with htx htotal
    · exact @exists_segmentOf .tx _ htx
    · exact @exists_segmentOf .total _ htotal
    · cases h

theorem colon_notMem_asset : ∀ w ∈ assetPattern, codePoint ':' ∉ w :=
  fun _ => notMem_of_assetPattern (by decide) (by decide)

theorem colon_notMem_amount : ∀ w ∈ amountPattern, codePoint ':' ∉ w :=
  fun _ => notMem_of_amountPattern (by decide) (by decide)

/-- **WHAT THE PARSER ACCEPTS**: the grammar, and nothing else. -/
theorem tsParseSpendScope_ok_iff {s : PyStr} {t : TsSpendScope} :
    tsParseSpendScope s = .ok t ↔
      ∃ caps, Spells assetPattern amountPattern s t.asset caps ∧ HasCaps tsAmountOf caps (tsCap t) := by
  have hstart : ∀ asset, tsCap ⟨asset, none, none⟩ = fun _ => none := by
    intro asset
    funext axis
    cases axis <;> rfl
  have hspend : tsIsSpendScope s = isSpendScope s := rfl
  rw [← spells_iff_reads colon_notMem_asset colon_notMem_amount fun _ => exists_tsAmount_iff]
  simp only [tsParseSpendScope]
  rw [seq_ok_iff, throwIf_ok_iff, Bool.not_eq_false, hspend, isSpendScope_iff_splitOn]
  constructor
  · rintro ⟨⟨rest, hsplit⟩, h⟩
    rw [hsplit] at h
    cases rest with
    | nil => cases h
    | cons asset segments =>
        rw [seq_ok_iff, seq_ok_iff, throwIf_ok_iff, throwIf_ok_iff, Bool.not_eq_false,
          (capLoop_tsParseCaps s).ok_iff, hstart] at h
        obtain ⟨-, hasset, heq, hreads⟩ := h
        rw [heq]
        exact ⟨segments, hsplit, testAsset_iff.mp hasset, hreads⟩
  · rintro ⟨segments, hsplit, hasset, hreads⟩
    refine ⟨⟨_, hsplit⟩, ?_⟩
    have hmatch := testAsset_iff.mpr hasset
    have hne : t.asset ≠ [] := by
      intro hnil
      rw [hnil] at hmatch
      exact absurd hmatch (by decide)
    rw [hsplit, seq_ok_iff, seq_ok_iff, throwIf_ok_iff, throwIf_ok_iff, Bool.not_eq_false,
      (capLoop_tsParseCaps s).ok_iff, hstart]
    exact ⟨hne, hmatch, rfl, hreads⟩

/-! ## The two parsers -/

/-- The parts of an amount are its digits around the point. -/
theorem parts_of_digits {a : Amount} {whole fraction : PyStr}
    (h : digits? a.text = some (whole, fraction)) : a.parts = (whole, fraction) := by
  simp only [digits?] at h
  simp only [Amount.parts]
  split at h
  · next w heq =>
    rw [heq]
    split_ifs at h
    cases h
    rfl
  · next w f heq =>
    rw [heq]
    split_ifs at h
    cases h
    rfl
  · cases h

/-- **ONE NUMBER**: a text both packages read is the same number to both. -/
theorem toRat_eq_of_read {text : PyStr} {d : Decimal} {a : Amount} (hd : parseAmount text = .ok d)
    (ha : tsParseAmount text = .ok a) : d.toRat = a.toRat := by
  cases newAmount_ok_iff.mp ha
  have hchomp := chomp_of_notMem (newline_notMem_amount _ (testAmount_iff.mp a.matches_re))
  obtain ⟨-, whole, fraction, hdigits, rfl⟩ := parseAmount_ok_iff_digits.mp hd
  rw [hchomp] at hdigits
  rw [Amount.toRat, parts_of_digits hdigits]
  rfl

/-- The parsers accept the grammar, and read one scope in it. -/
structure Agree (s : PyStr) : Prop where
  python_iff : (∃ p, parseSpendScope s = .ok p) ↔ InGrammar s
  same_strings : (∃ t, tsParseSpendScope s = .ok t) ↔ ∃ p, parseSpendScope s = .ok p
  same_scope : ∀ p t, parseSpendScope s = .ok p → tsParseSpendScope s = .ok t →
    p.asset = t.asset ∧ ∀ axis,
      (cap p axis).map Decimal.toRat = (tsCap t axis).map Amount.toRat ∧
        (cap p axis = none ↔ ¬ HasSegment s axis)

/-- In the grammar the parsers agree. -/
theorem agree_of_inGrammar {s : PyStr} (h : InGrammar s) : Agree s := by
  obtain ⟨asset, caps, hspells⟩ := h
  have hloose : Spells looseAsset looseAmount s asset caps := hspells.loose
  obtain ⟨f, hf⟩ := exists_hasCaps hloose.distinct fun c hc =>
    (exists_congr fun _ => amountOf_eq_some_iff).mpr (exists_amount_iff.mpr (hloose.amount_mem c hc))
  obtain ⟨g, hg⟩ := exists_hasCaps hspells.distinct fun c hc =>
    exists_tsAmount_iff.mpr (hspells.amount_mem c hc)
  have hcapf : cap ⟨asset, f .tx, f .total⟩ = f := by
    funext axis
    cases axis <;> rfl
  have hcapg : tsCap ⟨asset, g .tx, g .total⟩ = g := by
    funext axis
    cases axis <;> rfl
  have hp : parseSpendScope s = .ok ⟨asset, f .tx, f .total⟩ :=
    parseSpendScope_ok_iff.mpr ⟨caps, hloose, hcapf.symm ▸ hf⟩
  have ht : tsParseSpendScope s = .ok ⟨asset, g .tx, g .total⟩ :=
    tsParseSpendScope_ok_iff.mpr ⟨caps, hspells, hcapg.symm ▸ hg⟩
  refine ⟨iff_of_true ⟨_, hp⟩ ⟨asset, caps, hspells⟩, iff_of_true ⟨_, ht⟩ ⟨_, hp⟩, ?_⟩
  intro p t hp' ht'
  cases hp.symm.trans hp'
  cases ht.symm.trans ht'
  refine ⟨rfl, fun axis => ?_⟩
  rw [hloose.hasSegment_iff]
  by_cases haxis : axis ∈ caps.map Prod.fst
  · obtain ⟨c, hc, rfl⟩ := List.mem_map.mp haxis
    obtain ⟨d, hd, hfd⟩ := hf.present c hc
    obtain ⟨a, ha, hga⟩ := hg.present c hc
    rw [hcapf, hcapg, hfd, hga]
    refine ⟨?_, iff_of_false (Option.some_ne_none d) (not_not.mpr haxis)⟩
    exact congrArg some
      (toRat_eq_of_read (amountOf_eq_some_iff.mp hd) (tsAmountOf_eq_some_iff.mp ha))
  · rw [hcapf, hcapg, hf.absent axis haxis, hg.absent axis haxis]
    exact ⟨rfl, iff_of_true rfl haxis⟩

/-- Outside it, and outside what a line feed makes of it, both parsers refuse. -/
theorem agree_of_not_inLooseGrammar {s : PyStr} (h : ¬ InLooseGrammar s) : Agree s := by
  have hstrict : ¬ InGrammar s := fun ⟨asset, caps, hspells⟩ => h ⟨asset, caps, hspells.loose⟩
  have hp : ¬ ∃ p, parseSpendScope s = .ok p := by
    rintro ⟨p, hp⟩
    obtain ⟨caps, hspells, -⟩ := parseSpendScope_ok_iff.mp hp
    exact h ⟨_, caps, hspells⟩
  have ht : ¬ ∃ t, tsParseSpendScope s = .ok t := by
    rintro ⟨t, ht⟩
    obtain ⟨caps, hspells, -⟩ := tsParseSpendScope_ok_iff.mp ht
    exact hstrict ⟨_, caps, hspells⟩
  exact ⟨iff_of_false hp hstrict, iff_of_false ht hp, fun p _ hp' => absurd ⟨p, hp'⟩ hp⟩

/-- Python accepts what is of the grammar but for line feeds. -/
theorem exists_scope_of_inLooseGrammar {s : PyStr} (h : InLooseGrammar s) :
    ∃ p, parseSpendScope s = .ok p := by
  obtain ⟨asset, caps, hspells⟩ := h
  obtain ⟨f, hf⟩ := exists_hasCaps hspells.distinct fun c hc =>
    (exists_congr fun _ => amountOf_eq_some_iff).mpr (exists_amount_iff.mpr (hspells.amount_mem c hc))
  have hcapf : cap ⟨asset, f .tx, f .total⟩ = f := by
    funext axis
    cases axis <;> rfl
  exact ⟨_, parseSpendScope_ok_iff.mpr ⟨caps, hspells, hcapf.symm ▸ hf⟩⟩

/-- **WHEN THE TWO PARSERS READ THE GRAMMAR ALIKE**: of every text but one that Python takes for
    a scope in spite of a line feed behind its asset or an amount. -/
theorem parsers_agree_iff (s : PyStr) : Agree s ↔ ¬ (newline ∈ s ∧ InLooseGrammar s) := by
  constructor
  · rintro h ⟨hnewline, hloose⟩
    exact newline_notMem_of_inGrammar (h.python_iff.mp (exists_scope_of_inLooseGrammar hloose))
      hnewline
  · intro h
    by_cases hloose : InLooseGrammar s
    · exact agree_of_inGrammar (hloose.inGrammar fun hnewline => h ⟨hnewline, hloose⟩)
    · exact agree_of_not_inLooseGrammar hloose

/-- ONE LINE FEED: Python reads `pay:usd` and a line feed as a scope of an asset with that name. -/
theorem line_feed_accepted :
    parseSpendScope (py "pay:usd\n") = .ok ⟨py "usd\n", none, none⟩ ∧ ¬ Agree (py "pay:usd\n") := by
  have hparse : parseSpendScope (py "pay:usd\n") = .ok ⟨py "usd\n", none, none⟩ := by decide +kernel
  refine ⟨hparse, fun h => ?_⟩
  exact newline_notMem_of_inGrammar (h.python_iff.mp ⟨_, hparse⟩) (by decide)

end AgentTsSpend
