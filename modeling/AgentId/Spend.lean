import AgentId.Decimal
import AgentId.Delegation
import AgentId.Positional

/-!
# Spend scopes (`spend.py`)

`pay:<asset>[:tx<=<amount>][:total<=<amount>]`: the grammar, the composition of caps within a
grant and down a chain, and the check of one prospective payment.  The pattern anchor `$` stands
before a final newline too, so `chomp` drops one before the text is matched.

* **`parseAmount_bounds`** — an amount that parses is not negative, and below `10 ^ 40`.
* **`parseSpendScope_bounds`** — so is every cap of a scope that parses.
-/

namespace AgentSpend

open AgentPy AgentPositional AgentDecimal AgentDelegation

def spendPrefix : PyStr := py "pay"

def txCapPrefix : PyStr := py "tx<="

def totalCapPrefix : PyStr := py "total<="

def maxAmountChars : ℕ := 40

/-! ## Amounts -/

/-- `[0-9]` -/
def isDigit (c : CodePoint) : Bool := 0x30 ≤ c.val && c.val ≤ 0x39

/-- `[0-9]+` -/
def isDigits (s : PyStr) : Bool := s ≠ [] && s.all isDigit

/-- What `$` leaves to the pattern before it: the text without one final newline. -/
def chomp (s : PyStr) : PyStr := if s.getLast? = some (codePoint '\n') then s.dropLast else s

/-- `_AMOUNT_RE`: the digits before and after the point. -/
def amountDigits? (s : PyStr) : Option (PyStr × PyStr) :=
  match (chomp s).splitOn (codePoint '.') with
  | [whole] => if isDigits whole then some (whole, []) else none
  | [whole, fraction] => if isDigits whole && isDigits fraction then some (whole, fraction) else none
  | _ => none

def digitValue (c : CodePoint) : ℕ := c.val - 0x30

/-- `Decimal(text)` of a text the pattern matched. -/
def decimalOf (whole fraction : PyStr) : Decimal :=
  ⟨false, value 10 ((whole ++ fraction).map digitValue), -fraction.length⟩

def parseAmount (text : PyStr) : Py Decimal := do
  raiseIf (maxAmountChars < text.length) .spendScopeError ["amount is unreasonably long"]
  match amountDigits? text with
  | none =>
      raise .spendScopeError
        ["amount must be a non-negative decimal like '25' or '9.99', got ", .repr text]
  | some (whole, fraction) => .ok (decimalOf whole fraction)

/-! ## Scopes -/

/-- Parsed spend authority for one asset; an absent cap is unlimited. -/
structure SpendScope where
  asset : PyStr
  txCap : Option Decimal
  totalCap : Option Decimal
  deriving DecidableEq

/-- `_min_cap` -/
def minCap : Option Decimal → Option Decimal → Option Decimal
  | none, b => b
  | a, none => a
  | some a, some b => some (if b < a then b else a)

def SpendScope.intersect (a b : SpendScope) : Py SpendScope := do
  raiseIf (a.asset ≠ b.asset) .spendScopeError
    ["cannot intersect spend scopes for different assets: ", .repr a.asset, " vs ", .repr b.asset]
  .ok ⟨a.asset, minCap a.txCap b.txCap, minCap a.totalCap b.totalCap⟩

def isSpendScope (scope : PyStr) : Bool := scope.takeWhile (· ≠ codePoint ':') = spendPrefix

/-- `[a-z0-9]` -/
def isAssetChar (c : CodePoint) : Bool := isDigit c || (0x61 ≤ c.val && c.val ≤ 0x7A)

/-- `[._-]` -/
def isAssetSeparator (c : CodePoint) : Bool := c ∈ py "._-"

/-- `_ASSET_RE` -/
def matchesAsset (s : PyStr) : Bool :=
  ((chomp s).splitOnP isAssetSeparator).all fun token => token ≠ [] && token.all isAssetChar

/-- The loop over the cap segments of a scope. -/
def parseCaps (scope : PyStr) : SpendScope → List PyStr → Py SpendScope
  | parsed, [] => .ok parsed
  | parsed, segment :: segments =>
      if txCapPrefix.isPrefixOf segment then do
        raiseIf (parsed.txCap ≠ none) .spendScopeError ["duplicate tx cap in scope: ", .repr scope]
        let cap ← parseAmount (segment.drop txCapPrefix.length)
        parseCaps scope { parsed with txCap := some cap } segments
      else if totalCapPrefix.isPrefixOf segment then do
        raiseIf (parsed.totalCap ≠ none) .spendScopeError
          ["duplicate total cap in scope: ", .repr scope]
        let cap ← parseAmount (segment.drop totalCapPrefix.length)
        parseCaps scope { parsed with totalCap := some cap } segments
      else raise .spendScopeError ["unknown spend scope segment: ", .repr segment]

def parseSpendScope (scope : PyStr) : Py SpendScope := do
  raiseIf (isSpendScope scope = false) .spendScopeError ["not a spend scope: ", .repr scope]
  match scope.splitOn (codePoint ':') with
  | _ :: asset :: segments => do
      -- `segments[1]` is there, but empty
      raiseIf (asset = []) .spendScopeError ["spend scope is missing an asset: ", .repr scope]
      raiseIf (matchesAsset asset = false) .spendScopeError ["invalid asset token: ", .repr asset]
      parseCaps scope ⟨asset, none, none⟩ segments
  -- `pay` alone: there is no second segment
  | _ => raise .spendScopeError ["spend scope is missing an asset: ", .repr scope]

/-! ## Composition -/

/-- `b if a is None else a.intersect(b)`, as both loops narrow. -/
def narrowAuthority (authority : Option SpendScope) (scope : SpendScope) : Py SpendScope :=
  match authority with
  | none => .ok scope
  | some a => a.intersect scope

/-- The loop of `spend_authority_for`. -/
def authorityLoop (asset : PyStr) : Option SpendScope → List PyStr → Py (Option SpendScope)
  | authority, [] => .ok authority
  | authority, scope :: scopes =>
      if isSpendScope scope then do
        let parsed ← parseSpendScope scope
        if parsed.asset = asset then do
          let narrowed ← narrowAuthority authority parsed
          authorityLoop asset (some narrowed) scopes
        else authorityLoop asset authority scopes
      else authorityLoop asset authority scopes

def spendAuthorityFor (scopes : List PyStr) (asset : PyStr) : Py (Option SpendScope) :=
  authorityLoop asset none scopes

/-- The loop of `compose_spend_authority`; without a link it leaves `effective` undefined. -/
def composeLoop (asset : PyStr) : Option SpendScope → List (List PyStr) → Py (Option SpendScope)
  | effective, [] => .ok effective
  | effective, scopes :: links => do
      match ← spendAuthorityFor scopes asset with
      -- a link that grants nothing voids the chain; later links are not looked at
      | none => .ok none
      | some link => do
          let narrowed ← narrowAuthority effective link
          composeLoop asset (some narrowed) links

def composeSpendAuthority (links : List (List PyStr)) (asset : PyStr) : Py (Option SpendScope) :=
  composeLoop asset none links

/-! ## One prospective payment -/

/-- `Decimal | str` -/
inductive Amount where
  | decimal (d : Decimal)
  | text (s : PyStr)

def Amount.toDecimal : Amount → Py Decimal
  | .decimal d => .ok d
  | .text s => parseAmount s

/-- The order in which a `frozenset` iterates: any, but each element once. -/
structure SetOrder where
  list : Finset PyStr → List PyStr
  nodup : ∀ s, (list s).Nodup
  mem_list : ∀ {s x}, x ∈ list s ↔ x ∈ s

def checkTx (asset : PyStr) (amount : Decimal) : Option Decimal → Py Unit
  | none => .ok ()
  | some cap => raiseIf (cap < amount) .spendScopeError
      ["amount ", amount.part, " exceeds per-transaction cap ", cap.part, " for ", .repr asset]

def checkTotal (asset : PyStr) (amount spentSoFar : Decimal) : Option Decimal → Py Unit
  | none => .ok ()
  | some cap => do
      let total ← spentSoFar.add amount
      raiseIf (cap < total) .spendScopeError
        ["amount ", amount.part, " on top of ", spentSoFar.part, " already spent exceeds ",
          "total cap ", cap.part, " for ", .repr asset]

/-- `SpendAuthority.verify` -/
def verify (order : SetOrder) (chain : DelegationChain) (asset : PyStr) (amount : Amount)
    (spentSoFar : Amount := .decimal .zero) : Py SpendScope := do
  let amount ← amount.toDecimal
  let spentSoFar ← spentSoFar.toDecimal
  raiseIf (amount < .zero ∨ spentSoFar < .zero) .spendScopeError ["amounts must be non-negative"]
  match ← composeSpendAuthority (chain.links.map fun link => order.list link.scopes) asset with
  | none => raise .spendScopeError ["chain grants no spend authority over ", .repr asset]
  | some effective => do
      checkTx asset amount effective.txCap
      checkTotal asset amount spentSoFar effective.totalCap
      .ok effective

/-! ## Bounds of parsed amounts -/

/-- What `$` looks at is no longer than the text. -/
theorem length_chomp_le (s : PyStr) : (chomp s).length ≤ s.length := by
  simp only [chomp]
  split_ifs
  · rw [List.length_dropLast]
    omega
  · exact le_rfl

theorem isDigits_iff {s : PyStr} : isDigits s = true ↔ s ≠ [] ∧ ∀ c ∈ s, isDigit c = true := by
  rw [isDigits, Bool.and_eq_true, decide_eq_true_eq, List.all_eq_true]

/-- The digits of an amount are digits, and no more of them than characters. -/
theorem digits_of_amount {s whole fraction : PyStr}
    (h : amountDigits? s = some (whole, fraction)) :
    (∀ c ∈ whole ++ fraction, isDigit c = true) ∧ (whole ++ fraction).length ≤ s.length := by
  have hjoin : [codePoint '.'].intercalate ((chomp s).splitOn (codePoint '.')) = chomp s :=
    List.intercalate_splitOn _
  have hlen := length_chomp_le s
  simp only [amountDigits?] at h
  split at h
  · next w heq =>
    split_ifs at h with hd
    cases h
    rw [heq] at hjoin
    have hw : whole = chomp s := by simpa [List.intercalate] using hjoin
    rw [List.append_nil, hw]
    exact ⟨hw ▸ (isDigits_iff.mp hd).2, hlen⟩
  · next w f heq =>
    split_ifs at h with hd
    cases h
    rw [Bool.and_eq_true] at hd
    rw [heq] at hjoin
    have hw : whole ++ codePoint '.' :: fraction = chomp s := by
      simpa [List.intercalate] using hjoin
    constructor
    · intro c hc
      rcases List.mem_append.mp hc with hc | hc
      · exact (isDigits_iff.mp hd.1).2 c hc
      · exact (isDigits_iff.mp hd.2).2 c hc
    · rw [← hw, List.length_append, List.length_cons] at hlen
      rw [List.length_append]
      omega
  · exact nomatch h

theorem digitValue_lt {c : CodePoint} (h : isDigit c = true) : digitValue c < 10 := by
  rw [isDigit, Bool.and_eq_true, decide_eq_true_eq, decide_eq_true_eq] at h
  simp only [digitValue]
  omega

/-- A numeral of `n` digits is below `10 ^ n`. -/
theorem value_digits_lt {s : PyStr} (h : ∀ c ∈ s, isDigit c = true) :
    value 10 (s.map digitValue) < 10 ^ s.length := by
  rw [value_eq_ofDigits]
  refine (Nat.ofDigits_lt_base_pow_length (by decide) fun d hd => ?_).trans_le ?_
  · obtain ⟨c, hc, rfl⟩ := List.mem_map.mp (List.mem_reverse.mp hd)
    exact digitValue_lt (h c hc)
  · rw [List.length_reverse, List.length_map]

/-- What a parsed amount or cap can be. -/
def Bounded (d : Decimal) : Prop := 0 ≤ d.toRat ∧ d.toRat < 10 ^ maxAmountChars

/-- **AN AMOUNT THAT PARSES** is not negative, and below `10 ^ 40`. -/
theorem parseAmount_bounds {text : PyStr} {d : Decimal} (h : parseAmount text = .ok d) :
    Bounded d := by
  unfold parseAmount at h
  rw [seq_ok_iff, raiseIf_ok_iff, not_lt] at h
  obtain ⟨hlen, h⟩ := h
  cases hdigits : amountDigits? text with
  | none =>
      rw [hdigits] at h
      exact nomatch h
  | some parts =>
      obtain ⟨whole, fraction⟩ := parts
      rw [hdigits] at h
      cases h
      obtain ⟨hall, hle⟩ := digits_of_amount hdigits
      have hvalue := (value_digits_lt hall).trans_le
        (Nat.pow_le_pow_right (by decide) (hle.trans hlen))
      have hmag : (decimalOf whole fraction).toRat = (decimalOf whole fraction).magnitude :=
        Decimal.toRat_of_magnitude _
      rw [Bounded, hmag]
      refine ⟨Decimal.magnitude_nonneg _, ?_⟩
      have hscale : (10 : ℚ) ^ (-(fraction.length : ℤ)) ≤ 1 :=
        zpow_le_one_of_nonpos₀ (by norm_num) (by omega)
      have hcoeff : ((value 10 ((whole ++ fraction).map digitValue) : ℕ) : ℚ)
          < 10 ^ maxAmountChars := by exact_mod_cast hvalue
      calc (decimalOf whole fraction).magnitude
          ≤ ((value 10 ((whole ++ fraction).map digitValue) : ℕ) : ℚ) * 1 :=
            mul_le_mul_of_nonneg_left hscale (Nat.cast_nonneg _)
        _ < 10 ^ maxAmountChars := by rw [mul_one]; exact hcoeff

/-- Every cap the loop reads is bounded, if those it starts with are. -/
theorem parseCaps_bounds {scope : PyStr} {start parsed : SpendScope} {segments : List PyStr}
    (h : parseCaps scope start segments = .ok parsed)
    (htx : ∀ d ∈ start.txCap, Bounded d) (htotal : ∀ d ∈ start.totalCap, Bounded d) :
    (∀ d ∈ parsed.txCap, Bounded d) ∧ ∀ d ∈ parsed.totalCap, Bounded d := by
  induction segments generalizing start with
  | nil =>
      cases h
      exact ⟨htx, htotal⟩
  | cons segment segments ih =>
      simp only [parseCaps] at h
      split_ifs at h
      · rw [seq_ok_iff, bind_ok_iff] at h
        obtain ⟨-, cap, hcap, h⟩ := h
        refine ih h (fun d hd => ?_) htotal
        cases hd
        exact parseAmount_bounds hcap
      · rw [seq_ok_iff, bind_ok_iff] at h
        obtain ⟨-, cap, hcap, h⟩ := h
        refine ih h htx fun d hd => ?_
        cases hd
        exact parseAmount_bounds hcap
      · exact nomatch h

/-- **SO IS EVERY CAP** of a scope that parses. -/
theorem parseSpendScope_bounds {scope : PyStr} {parsed : SpendScope}
    (h : parseSpendScope scope = .ok parsed) :
    (∀ d ∈ parsed.txCap, Bounded d) ∧ ∀ d ∈ parsed.totalCap, Bounded d := by
  unfold parseSpendScope at h
  rw [seq_ok_iff] at h
  obtain ⟨-, h⟩ := h
  split at h
  · rw [seq_ok_iff, seq_ok_iff] at h
    obtain ⟨-, -, h⟩ := h
    exact parseCaps_bounds h (fun _ hd => nomatch hd) fun _ hd => nomatch hd
  · exact nomatch h

/-- What parses begins as a spend scope does. -/
theorem isSpendScope_of_parse {scope : PyStr} {parsed : SpendScope}
    (h : parseSpendScope scope = .ok parsed) : isSpendScope scope = true := by
  simp only [parseSpendScope] at h
  rw [seq_ok_iff, raiseIf_ok_iff, Bool.not_eq_false] at h
  exact h.1

end AgentSpend
