import AgentId.SpendAuthority

/-!
# Spend caps on exact sums

The specification compares exact decimals; `verify` compares a sum rounded to 28 digits.  The two
part on the sums between the least total cap and the breakpoint of that cap, and nowhere else.

* **`verify_exact_iff`** — `verify` follows the exact rule exactly off that gap.
* **`belowBreakpoint_of_le`** — a cap of at most 28 digits refuses nothing that is permitted.
* **`rounded_sum_overspends`** — a sum in the gap.
-/

namespace AgentSpendCaps

open AgentPy AgentHalfEven AgentDecimal AgentDelegation AgentSpend AgentSpendAuthority

variable {asset : PyStr}

/-! ## The exact rule -/

/-- The rule of the specification, on exact values. -/
structure Permitted (chain : DelegationChain) (asset : PyStr) (amount spent : ℚ) : Prop extends
    Granted chain asset amount where
  total : ∀ d, IsCap chain asset .total d → spent + amount ≤ d.toRat

/-- Up to the breakpoint of a bound, where 28 digits still round to the bound or below. -/
def BelowBreakpoint (x k : ℚ) : Prop :=
  x < breakpoint 10 prec etiny k ∨
    (x = breakpoint 10 prec etiny k ∧ Even (keptDigits 10 prec etiny k))

/-- Between a bound and its breakpoint. -/
def InGap (x k : ℚ) : Prop := (k < x ∧ BelowBreakpoint x k) ∨ (x ≤ k ∧ ¬ BelowBreakpoint x k)

/-- A sum rounds to a cap or less exactly when it is below the breakpoint of the cap. -/
theorem roundSig_le_iff_belowBreakpoint {x k : ℚ} (hx : 0 ≤ x) (hk : 0 ≤ k) :
    roundSig 10 prec etiny x ≤ k ↔ BelowBreakpoint x k :=
  roundSig_le_iff (by decide) (by decide) hx hk

/-- Outside the gap rounding makes no difference. -/
theorem not_inGap_iff {x k : ℚ} : ¬ InGap x k ↔ (BelowBreakpoint x k ↔ x ≤ k) := by
  rw [InGap, ← not_le, not_or, not_and, not_and, not_not]
  constructor
  · rintro ⟨habove, hbelow⟩
    exact ⟨fun h => by_contra fun hx => habove hx h, hbelow⟩
  · intro h
    exact ⟨fun hx hb => hx (h.mp hb), h.mpr⟩

/-- The values of the total caps for the asset. -/
def totalCaps (chain : DelegationChain) (asset : PyStr) : Set ℚ :=
  {k | ∃ d, IsCap chain asset .total d ∧ d.toRat = k}

/-- A cap of a chain is bounded, as its text was. -/
theorem bounded_of_isCap {chain : DelegationChain} {d : Decimal}
    (h : IsCap chain asset .total d) : Bounded d := by
  obtain ⟨_, -, s, ⟨_, -, hparsed, -⟩, hd⟩ := h
  exact (parseSpendScope_bounds hparsed).2 d hd

/-- **THE COMPOSED TOTAL CAP** is the least total cap of the chain; without one there is none. -/
theorem totalCaps_cases (order : SetOrder) {chain : DelegationChain} (hparses : ChainParses chain)
    {amount : ℚ} (hgranted : Granted chain asset amount) :
    totalCaps chain asset = ∅ ∨ ∃ k, IsLeast (totalCaps chain asset) k := by
  rcases @composeSpendAuthority_cases asset order chain hparses with
    ⟨⟨link, hlink, hno⟩, -⟩ | ⟨hall, r, -, hcomb⟩
  · obtain ⟨s, hs⟩ := hgranted.links link hlink
    exact absurd hs (hno s)
  · obtain ⟨link, hlink⟩ := List.exists_mem_of_ne_nil _ hgranted.nonempty
    obtain ⟨s, hs⟩ := hall link hlink
    cases r with
    | none => exact absurd ⟨link, hlink, hs⟩ (hcomb.none_iff.mp rfl s)
    | some scope =>
        cases htotal : cap scope .total with
        | none =>
            -- an authority without a cap allows more than any cap would
            refine Or.inl (Set.eq_empty_of_forall_notMem ?_)
            rintro k ⟨d, ⟨link, hlink, s, hs, hd⟩, rfl⟩
            have hallows : Allows (cap scope .total) (d.toRat + 1) := by
              rw [htotal]
              exact fun _ h => absurd h (Option.not_mem_none _)
            have := (hcomb.allows scope rfl .total _).mp hallows s ⟨link, hlink, hs⟩ d hd
            linarith
        | some d =>
            refine Or.inr ⟨d.toRat, ?_, ?_⟩
            · obtain ⟨s, ⟨link, hlink, hs⟩, hd⟩ := hcomb.attained scope rfl .total d htotal
              exact ⟨d, ⟨link, hlink, s, hs, hd⟩, rfl⟩
            · rintro k ⟨d', ⟨link, hlink, s, hs, hd⟩, rfl⟩
              have hallows : Allows (cap scope .total) d.toRat := by
                rw [htotal]
                exact fun _ h => (congrArg Decimal.toRat (Option.some.inj h)).le
              exact (hcomb.allows scope rfl .total _).mp hallows s ⟨link, hlink, hs⟩ d' hd

/-- To be under every cap of a chain is to be a lower bound of them. -/
theorem forall_isCap_iff {chain : DelegationChain} {x : ℚ} :
    (∀ d, IsCap chain asset .total d → x ≤ d.toRat) ↔ x ∈ lowerBounds (totalCaps chain asset) := by
  constructor
  · rintro h k ⟨d, hd, rfl⟩
    exact h d hd
  · intro h d hd
    exact h ⟨d, hd, rfl⟩

/-- **WHEN ROUNDING DECIDES NOTHING**: `verify` follows the exact rule exactly when the payment is
    refused before the total is checked, or the exact sum is not between the least total cap and
    the breakpoint of that cap. -/
theorem verify_exact_iff (order : SetOrder) (chain : DelegationChain) (asset : PyStr)
    (hparses : ChainParses chain) (amount spent : Amount) (a b : Decimal)
    (ha : amount.toDecimal = .ok a) (hb : spent.toDecimal = .ok b) (ha0 : 0 ≤ a.toRat)
    (hb0 : 0 ≤ b.toRat) :
    ((∃ scope, verify order chain asset amount spent = .ok scope) ↔
        Permitted chain asset a.toRat b.toRat) ↔
      (Granted chain asset a.toRat → ∀ k, IsLeast (totalCaps chain asset) k →
        ¬ InGap (b.toRat + a.toRat) k) := by
  have hpermitted : Permitted chain asset a.toRat b.toRat ↔
      Granted chain asset a.toRat ∧ b.toRat + a.toRat ∈ lowerBounds (totalCaps chain asset) := by
    rw [← forall_isCap_iff]
    exact ⟨fun h => ⟨h.toGranted, h.total⟩, fun h => ⟨h.1, h.2⟩⟩
  rw [verify_ok_iff order hparses ha hb ha0 hb0, hpermitted, forall_isCap_iff]
  by_cases hgranted : Granted chain asset a.toRat
  · rw [and_iff_right hgranted, and_iff_right hgranted, forall_prop_of_true hgranted]
    rcases totalCaps_cases order hparses hgranted with hempty | ⟨k, hk⟩
    · rw [hempty]
      refine iff_of_true ?_ ?_
      · rw [lowerBounds_empty]
        exact iff_of_true (Set.mem_univ _) (Set.mem_univ _)
      · rintro k ⟨hk, -⟩
        exact absurd hk (Set.notMem_empty k)
    -- the least cap decides both sides: the rounded sum on one, the exact sum on the other
    · have hk0 : 0 ≤ k := by
        obtain ⟨d, hd, rfl⟩ := hk.1
        exact (bounded_of_isCap hd).1
      have hleast : (∀ k', IsLeast (totalCaps chain asset) k' → ¬ InGap (b.toRat + a.toRat) k') ↔
          ¬ InGap (b.toRat + a.toRat) k :=
        ⟨fun h => h k hk, fun h k' hk' => (hk'.unique hk) ▸ h⟩
      rw [hleast, ← le_isGLB_iff hk.isGLB, ← le_isGLB_iff hk.isGLB,
        roundSig_le_iff_belowBreakpoint (add_nonneg hb0 ha0) hk0, not_inGap_iff]
  · exact iff_of_true (iff_of_false (fun h => hgranted h.1) fun h => hgranted h.1)
      fun h => absurd h hgranted

/-! ### One link -/

/-- The order of the sorted elements. -/
def sortedOrder : SetOrder where
  list := sortedScopes
  nodup s := s.sort_nodup _
  mem_list := Finset.mem_sort _

/-- A chain of one grant that carries one scope. -/
def spendChain (scope : PyStr) : DelegationChain := ⟨[{ plainGrant 1 2 with scopes := {scope} }]⟩

section SpendChain

variable {scope : PyStr} {s : SpendScope} (hparsed : parseSpendScope scope = .ok s)

include hparsed

/-- The sample chain parses. -/
theorem chainParses_spendChain : ChainParses (spendChain scope) := by
  intro link hlink t ht _
  rw [List.mem_singleton.mp hlink] at ht
  rw [Finset.mem_singleton.mp ht]
  exact ⟨s, hparsed⟩

/-- Its links grant the scope they carry. -/
theorem linkGrants_spendChain {link : Delegation} (hlink : link ∈ (spendChain scope).links)
    {t : SpendScope} : LinkGrants s.asset link t ↔ t = s := by
  rw [List.mem_singleton.mp hlink]
  constructor
  · rintro ⟨u, hu, ht, -⟩
    rw [Finset.mem_singleton.mp hu, hparsed] at ht
    exact (Except.ok.inj ht).symm
  · rintro rfl
    exact ⟨scope, Finset.mem_singleton_self _, hparsed, rfl⟩

/-- Its caps are those of the scope. -/
theorem isCap_spendChain {axis : Axis} {d : Decimal} :
    IsCap (spendChain scope) s.asset axis d ↔ d ∈ cap s axis := by
  constructor
  · rintro ⟨link, hlink, t, ht, hd⟩
    rwa [(linkGrants_spendChain hparsed hlink).mp ht] at hd
  · intro hd
    exact ⟨_, List.mem_cons_self, s, (linkGrants_spendChain hparsed List.mem_cons_self).mpr rfl, hd⟩

/-- It composes to the scope. -/
theorem compose_spendChain :
    composeSpendAuthority ((spendChain scope).links.map fun link => sortedOrder.list link.scopes)
      s.asset = .ok (some s) := by
  have horder : sortedOrder.list {scope} = [scope] := Finset.sort_singleton _ _
  show composeLoop s.asset none [sortedOrder.list {scope}] = _
  rw [horder]
  simp only [composeLoop, spendAuthorityFor, authorityLoop]
  rw [if_pos (isSpendScope_of_parse hparsed), hparsed]
  show ((if s.asset = s.asset then _ else _) >>= _) = _
  rw [if_pos rfl]
  rfl

end SpendChain

/-- A number within a bound of at most 28 digits is below the bound's breakpoint. -/
theorem belowBreakpoint_of_le {c : ℕ} {e : ℤ} (hc : c < 10 ^ prec) (he : etiny ≤ e) {x : ℚ}
    (h : x ≤ c * ((10 : ℕ) : ℚ) ^ e) : BelowBreakpoint x (c * ((10 : ℕ) : ℚ) ^ e) := by
  set k := (c : ℚ) * ((10 : ℕ) : ℚ) ^ e with hk
  have hk0 : 0 ≤ k := mul_nonneg (Nat.cast_nonneg _) (zpow_nonneg (by norm_num) _)
  have hexact : roundSig 10 prec etiny k = k := by
    rcases Nat.eq_zero_or_pos c with rfl | hpos
    · rw [hk, Nat.cast_zero, zero_mul, roundSig_zero]
    · refine roundSig_natCast_mul_zpow_of_le (by decide) c e ?_
      rw [sigExp_natCast_mul_zpow (by decide) hpos.ne']
      have := Nat.log_lt_of_lt_pow hpos.ne' hc
      omega
  rcases (roundSig_le_iff_belowBreakpoint hk0 hk0).mp hexact.le with hlt | ⟨heq, heven⟩
  · exact Or.inl (h.trans_lt hlt)
  · rcases h.lt_or_eq with hlt | hx
    · exact Or.inl (heq ▸ hlt)
    · exact Or.inr ⟨hx.trans heq, heven⟩

def hundredScope : PyStr := py "pay:usd:total<=100"

theorem parse_hundredScope :
    parseSpendScope hundredScope = .ok ⟨py "usd", none, some ⟨false, 100, 0⟩⟩ := by
  decide +kernel

/-- Under a cap of 100, one more on top of one is let through exactly when it is permitted. -/
theorem verify_exact_iff_hundred :
    (∃ scope, verify sortedOrder (spendChain hundredScope) (py "usd") (.text (py "1"))
        (.text (py "1")) = .ok scope) ↔
      Permitted (spendChain hundredScope) (py "usd") 1 1 := by
  have hone : Amount.toDecimal (.text (py "1")) = .ok ⟨false, 1, 0⟩ := by decide +kernel
  have hval : Decimal.toRat ⟨false, 1, 0⟩ = 1 := by decide +kernel
  have hiff := verify_exact_iff sortedOrder (spendChain hundredScope) (py "usd")
    (chainParses_spendChain parse_hundredScope) (.text (py "1")) (.text (py "1")) ⟨false, 1, 0⟩
    ⟨false, 1, 0⟩ hone hone (by decide +kernel) (by decide +kernel)
  rw [hval] at hiff
  refine hiff.mpr ?_
  rintro - k ⟨⟨d, hd, rfl⟩, -⟩
  have hcap : d = ⟨false, 100, 0⟩ :=
    (Option.some.inj ((isCap_spendChain parse_hundredScope).mp hd)).symm
  have hhundred : d.toRat = ((100 : ℕ) : ℚ) * ((10 : ℕ) : ℚ) ^ (0 : ℤ) := by
    rw [hcap]
    decide +kernel
  rw [not_inGap_iff, hhundred]
  have hle : (1 : ℚ) + 1 ≤ ((100 : ℕ) : ℚ) * ((10 : ℕ) : ℚ) ^ (0 : ℤ) := by norm_num
  exact iff_of_true (belowBreakpoint_of_le (by decide) (by decide) hle) hle

/-- A cap of `10 ^ 28`. -/
def tightScope : PyStr := py "pay:usd:total<=10000000000000000000000000000"

theorem parse_tightScope :
    parseSpendScope tightScope = .ok ⟨py "usd", none, some ⟨false, 10 ^ 28, 0⟩⟩ := by
  decide +kernel

/-- ONE TOO MANY: with the whole cap of `10 ^ 28` spent, one more is let through. -/
theorem rounded_sum_overspends :
    ChainParses (spendChain tightScope) ∧
      Amount.toDecimal (.text (py "1")) = .ok ⟨false, 1, 0⟩ ∧
      Amount.toDecimal (.text (py "10000000000000000000000000000")) = .ok ⟨false, 10 ^ 28, 0⟩ ∧
      (∃ scope, verify sortedOrder (spendChain tightScope) (py "usd") (.text (py "1"))
        (.text (py "10000000000000000000000000000")) = .ok scope) ∧
      ¬ Permitted (spendChain tightScope) (py "usd") (Decimal.toRat ⟨false, 1, 0⟩)
        (Decimal.toRat ⟨false, 10 ^ 28, 0⟩) := by
  have hone : Amount.toDecimal (.text (py "1")) = .ok ⟨false, 1, 0⟩ := by decide +kernel
  have hspent : Amount.toDecimal (.text (py "10000000000000000000000000000"))
      = .ok ⟨false, 10 ^ 28, 0⟩ := by decide +kernel
  refine ⟨chainParses_spendChain parse_tightScope, hone, hspent,
    ⟨⟨py "usd", none, some ⟨false, 10 ^ 28, 0⟩⟩, ?_⟩, fun h => ?_⟩
  · refine (verify_of_compose hone hspent (by decide +kernel) (by decide +kernel)
      (compose_spendChain parse_tightScope)).mpr ⟨rfl, rfl, ?_⟩
    decide +kernel
  · have hle := h.total ⟨false, 10 ^ 28, 0⟩ ((isCap_spendChain parse_tightScope).mpr rfl)
    exact absurd hle (by decide +kernel)

end AgentSpendCaps
