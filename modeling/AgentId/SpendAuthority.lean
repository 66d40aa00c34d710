import AgentId.Spend

/-!
# Composed spend authority

Composition is intersection.  `Combines` says what an authority built so far stands for: it
allows a number exactly when every scope gone into it does, and each of its caps is one of theirs.
One narrowing keeps it (**`combines_narrow`**), so both loops do.

* **`composeSpendAuthority_cases`** — the authority of a chain.
* **`verify_ok_iff`** — `verify` returns exactly when every link grants, the amount is within every
  transaction cap, and the sum, rounded to 28 digits, within every total cap.
-/

namespace AgentSpendAuthority

open AgentPy AgentHalfEven AgentDecimal AgentDelegation AgentSpend

/-! ## Caps -/

inductive Axis where
  | tx
  | total
  deriving DecidableEq

def cap (s : SpendScope) : Axis → Option Decimal
  | .tx => s.txCap
  | .total => s.totalCap

/-- The number is within the cap. -/
def Allows (cap : Option Decimal) (x : ℚ) : Prop := ∀ d ∈ cap, x ≤ d.toRat

/-- The smaller of two caps allows what both allow. -/
theorem allows_minCap {a b : Option Decimal} {x : ℚ} :
    Allows (minCap a b) x ↔ Allows a x ∧ Allows b x := by
  cases a with
  | none => exact ⟨fun h => ⟨fun _ hd => absurd hd (Option.not_mem_none _), h⟩, fun h => h.2⟩
  | some a =>
      cases b with
      | none => exact ⟨fun h => ⟨h, fun _ hd => absurd hd (Option.not_mem_none _)⟩, fun h => h.1⟩
      | some b =>
          simp only [Allows, minCap, Option.mem_def, Option.some_inj, forall_eq']
          split_ifs with hlt
          · exact ⟨fun h => ⟨h.trans (Decimal.lt_def.mp hlt).le, h⟩, fun h => h.2⟩
          · exact ⟨fun h => ⟨h, h.trans (not_lt.mp hlt)⟩, fun h => h.1⟩

/-- It is one of the two. -/
theorem mem_minCap {a b : Option Decimal} {d : Decimal} (h : d ∈ minCap a b) :
    d ∈ a ∨ d ∈ b := by
  cases a with
  | none => exact Or.inr h
  | some a =>
      cases b with
      | none => exact Or.inl h
      | some b =>
          simp only [minCap] at h
          split_ifs at h
          · exact Or.inr h
          · exact Or.inl h

/-- Scopes of one asset intersect, cap by cap. -/
theorem intersect_ok {a b : SpendScope} (h : a.asset = b.asset) :
    ∃ c, a.intersect b = .ok c ∧ c.asset = a.asset ∧
      ∀ axis, cap c axis = minCap (cap a axis) (cap b axis) := by
  refine ⟨⟨a.asset, minCap a.txCap b.txCap, minCap a.totalCap b.totalCap⟩, ?_, rfl, fun axis => ?_⟩
  · rw [SpendScope.intersect, seq_ok_iff, raiseIf_ok_iff, not_not]
    exact ⟨h, rfl⟩
  · cases axis with
    | tx => rfl
    | total => rfl

/-! ## Composition -/

/-- The authority stands for the scopes granted so far. -/
structure Combines (asset : PyStr) (granted : SpendScope → Prop) (authority : Option SpendScope) :
    Prop where
  none_iff : authority = none ↔ ∀ s, ¬ granted s
  asset_eq : ∀ a ∈ authority, a.asset = asset
  allows : ∀ a ∈ authority, ∀ axis x, Allows (cap a axis) x ↔ ∀ s, granted s → Allows (cap s axis) x
  attained : ∀ a ∈ authority, ∀ axis, ∀ d ∈ cap a axis, ∃ s, granted s ∧ d ∈ cap s axis

variable {asset : PyStr}

/-- No scope combines to no authority. -/
theorem combines_none : Combines asset (fun _ => False) none :=
  ⟨iff_of_true rfl fun _ h => h, fun _ h => absurd h (Option.not_mem_none _),
    fun _ h => absurd h (Option.not_mem_none _), fun _ h => absurd h (Option.not_mem_none _)⟩

/-- One scope combines to itself. -/
theorem combines_single {s : SpendScope} (h : s.asset = asset) :
    Combines asset (fun t => t = s) (some s) := by
  refine ⟨iff_of_false (Option.some_ne_none _) fun hno => hno s rfl, ?_, ?_, ?_⟩
  · rintro a ⟨⟩
    exact h
  · rintro a ⟨⟩ axis x
    exact ⟨fun hx t ht => ht ▸ hx, fun hx => hx s rfl⟩
  · rintro a ⟨⟩ axis d hd
    exact ⟨s, rfl, hd⟩

theorem Combines.congr {g g' : SpendScope → Prop} {authority : Option SpendScope}
    (h : Combines asset g authority) (hg : ∀ s, g s ↔ g' s) : Combines asset g' authority := by
  rwa [show g' = g from funext fun s => propext (hg s).symm]

/-- **ONE NARROWING** adds what the scope stands for. -/
theorem combines_narrow {g g' : SpendScope → Prop} {authority : Option SpendScope}
    {scope : SpendScope} (h : Combines asset g authority) (h' : Combines asset g' (some scope)) :
    ∃ a, narrowAuthority authority scope = .ok a ∧
      Combines asset (fun s => g s ∨ g' s) (some a) := by
  cases authority with
  | none =>
      refine ⟨scope, rfl, h'.congr fun s => ?_⟩
      exact ⟨Or.inr, fun hs => hs.resolve_left (h.none_iff.mp rfl s)⟩
  | some a =>
      -- both speak of one asset, so `intersect` does not raise
      obtain ⟨c, hc, hasset, hcap⟩ :=
        intersect_ok ((h.asset_eq a rfl).trans (h'.asset_eq scope rfl).symm)
      refine ⟨c, hc, ⟨iff_of_false (Option.some_ne_none _) fun hno => ?_, ?_, ?_, ?_⟩⟩
      · exact absurd (h.none_iff.mpr fun s hs => hno s (Or.inl hs)) (Option.some_ne_none _)
      · rintro _ ⟨⟩
        exact hasset.trans (h.asset_eq a rfl)
      · rintro _ ⟨⟩ axis x
        rw [hcap, allows_minCap, h.allows a rfl, h'.allows scope rfl]
        exact ⟨fun hx s hs => hs.elim (hx.1 s) (hx.2 s),
          fun hx => ⟨fun s hs => hx s (Or.inl hs), fun s hs => hx s (Or.inr hs)⟩⟩
      · rintro _ ⟨⟩ axis d hd
        rw [hcap] at hd
        rcases mem_minCap hd with hd | hd
        · obtain ⟨s, hs, hds⟩ := h.attained a rfl axis d hd
          exact ⟨s, Or.inl hs, hds⟩
        · obtain ⟨s, hs, hds⟩ := h'.attained scope rfl axis d hd
          exact ⟨s, Or.inr hs, hds⟩

/-! ### Within a grant -/

/-- Every spend scope of a grant parses. -/
def Parses (scopes : List PyStr) : Prop :=
  ∀ scope ∈ scopes, isSpendScope scope = true → ∃ s, parseSpendScope scope = .ok s

/-- The grant carries this spend scope for the asset. -/
def Grants (asset : PyStr) (scopes : List PyStr) (s : SpendScope) : Prop :=
  ∃ scope ∈ scopes, parseSpendScope scope = .ok s ∧ s.asset = asset

/-- A scope grants itself, beside what the others grant. -/
theorem grants_cons {scope : PyStr} {scopes : List PyStr} {s : SpendScope} :
    Grants asset (scope :: scopes) s ↔
      (parseSpendScope scope = .ok s ∧ s.asset = asset) ∨ Grants asset scopes s := by
  simp only [Grants]
  simp only [List.mem_cons, exists_eq_or_imp]

/-- **`spend_authority_for`**, from any authority built so far. -/
theorem combines_authorityLoop {scopes : List PyStr} (hparses : Parses scopes)
    {g : SpendScope → Prop} {authority : Option SpendScope} (h : Combines asset g authority) :
    ∃ r, authorityLoop asset authority scopes = .ok r ∧
      Combines asset (fun s => g s ∨ Grants asset scopes s) r := by
  induction scopes generalizing g authority with
  | nil =>
      refine ⟨authority, rfl, h.congr fun s => ⟨Or.inl, fun hs => hs.resolve_right ?_⟩⟩
      rintro ⟨_, hmem, -⟩
      exact absurd hmem List.not_mem_nil
  | cons scope scopes ih =>
      have hrest : Parses scopes := fun t ht => hparses t (List.mem_cons_of_mem _ ht)
      -- a scope that adds nothing leaves the rest of the grant
      have hskip : (∀ s, ¬ (parseSpendScope scope = .ok s ∧ s.asset = asset)) →
          ∃ r, authorityLoop asset authority scopes = .ok r ∧
            Combines asset (fun s => g s ∨ Grants asset (scope :: scopes) s) r := by
        intro hno
        obtain ⟨r, hr, hcomb⟩ := ih hrest h
        refine ⟨r, hr, hcomb.congr fun s => ?_⟩
        rw [grants_cons, or_iff_right (hno s)]
      simp only [authorityLoop]
      by_cases hspend : isSpendScope scope = true
      · obtain ⟨parsed, hparsed⟩ := hparses scope List.mem_cons_self hspend
        rw [if_pos hspend, hparsed]
        show ∃ r, (if parsed.asset = asset then _ else _) = Except.ok r ∧ _
        by_cases hasset : parsed.asset = asset
        · obtain ⟨a, ha, hnarrow⟩ := combines_narrow h (combines_single hasset)
          obtain ⟨r, hr, hcomb⟩ := ih hrest hnarrow
          rw [if_pos hasset, ha]
          refine ⟨r, hr, hcomb.congr fun s => ?_⟩
          have hone : s = parsed ↔ parseSpendScope scope = .ok s ∧ s.asset = asset := by
            rw [hparsed]
            constructor
            · rintro rfl
              exact ⟨rfl, hasset⟩
            · rintro ⟨hs, -⟩
              exact (Except.ok.inj hs).symm
          rw [grants_cons, hone, or_assoc]
        · rw [if_neg hasset]
          refine hskip ?_
          rintro s ⟨hs, hsa⟩
          rw [hparsed] at hs
          cases hs
          exact hasset hsa
      · rw [if_neg hspend]
        exact hskip fun s hs => hspend (isSpendScope_of_parse hs.1)

/-! ### Down a chain -/

/-- **`compose_spend_authority`**, from any authority built so far: nothing as soon as one link
    grants nothing, else what all links grant. -/
theorem composeLoop_cases {links : List (List PyStr)} (hparses : ∀ scopes ∈ links, Parses scopes)
    {g : SpendScope → Prop} {effective : Option SpendScope} (h : Combines asset g effective) :
    ((∃ scopes ∈ links, ∀ s, ¬ Grants asset scopes s) ∧
        composeLoop asset effective links = .ok none) ∨
      ((∀ scopes ∈ links, ∃ s, Grants asset scopes s) ∧
        ∃ r, composeLoop asset effective links = .ok r ∧
          Combines asset (fun s => g s ∨ ∃ scopes ∈ links, Grants asset scopes s) r) := by
  induction links generalizing g effective with
  | nil =>
      refine Or.inr ⟨fun _ hmem => absurd hmem List.not_mem_nil, effective, rfl, ?_⟩
      refine h.congr fun s => ⟨Or.inl, fun hs => hs.resolve_right ?_⟩
      rintro ⟨_, hmem, -⟩
      exact absurd hmem List.not_mem_nil
  | cons scopes links ih =>
      obtain ⟨link, hlink, hcomb⟩ :=
        combines_authorityLoop (hparses scopes List.mem_cons_self) combines_none
      have hgranted : Combines asset (Grants asset scopes) link :=
        hcomb.congr fun s => or_iff_right id
      simp only [composeLoop, spendAuthorityFor]
      rw [hlink]
      cases link with
      | none => exact Or.inl ⟨⟨scopes, List.mem_cons_self, hgranted.none_iff.mp rfl⟩, rfl⟩
      | some link =>
          obtain ⟨a, ha, hnarrow⟩ := combines_narrow h hgranted
          have hsome : ∃ s, Grants asset scopes s := by
            by_contra hno
            exact absurd (hgranted.none_iff.mpr (not_exists.mp hno)) (Option.some_ne_none _)
          show (_ ∧ (narrowAuthority effective link >>= fun a =>
            composeLoop asset (some a) links) = _) ∨ _ ∧ ∃ r, (narrowAuthority effective link >>=
              fun a => composeLoop asset (some a) links) = _ ∧ _
          rw [ha]
          rcases ih (fun t ht => hparses t (List.mem_cons_of_mem _ ht)) hnarrow with
            ⟨⟨t, ht, hno⟩, hnone⟩ | ⟨hall, r, hr, hcomb⟩
          · exact Or.inl ⟨⟨t, List.mem_cons_of_mem _ ht, hno⟩, hnone⟩
          · refine Or.inr ⟨List.forall_mem_cons.mpr ⟨hsome, hall⟩, r, hr, hcomb.congr fun s => ?_⟩
            simp only [List.mem_cons, exists_eq_or_imp, or_assoc]

/-! ## The payment -/

/-- Every spend scope of the chain parses. -/
def ChainParses (chain : DelegationChain) : Prop :=
  ∀ link ∈ chain.links, ∀ scope ∈ link.scopes, isSpendScope scope = true →
    ∃ s, parseSpendScope scope = .ok s

/-- The link carries this spend scope for the asset. -/
def LinkGrants (asset : PyStr) (link : Delegation) (s : SpendScope) : Prop :=
  ∃ scope ∈ link.scopes, parseSpendScope scope = .ok s ∧ s.asset = asset

/-- A cap for the asset, in some link of the chain. -/
def IsCap (chain : DelegationChain) (asset : PyStr) (axis : Axis) (d : Decimal) : Prop :=
  ∃ link ∈ chain.links, ∃ s, LinkGrants asset link s ∧ d ∈ cap s axis

/-- There is a link, every link grants, and the amount is within every transaction cap. -/
structure Granted (chain : DelegationChain) (asset : PyStr) (amount : ℚ) : Prop where
  nonempty : chain.links ≠ []
  links : ∀ link ∈ chain.links, ∃ s, LinkGrants asset link s
  tx : ∀ d, IsCap chain asset .tx d → amount ≤ d.toRat

/-- In whatever order a set is iterated over, it grants the same. -/
theorem grants_order (order : SetOrder) (link : Delegation) (s : SpendScope) :
    Grants asset (order.list link.scopes) s ↔ LinkGrants asset link s := by
  simp only [Grants, LinkGrants]
  simp only [order.mem_list]

/-- **THE COMPOSED AUTHORITY** of a chain: none when a link grants nothing, else what all links
    grant. -/
theorem composeSpendAuthority_cases (order : SetOrder) {chain : DelegationChain}
    (hparses : ChainParses chain) :
    ((∃ link ∈ chain.links, ∀ s, ¬ LinkGrants asset link s) ∧
        composeSpendAuthority (chain.links.map fun link => order.list link.scopes) asset
          = .ok none) ∨
      ((∀ link ∈ chain.links, ∃ s, LinkGrants asset link s) ∧
        ∃ r, composeSpendAuthority (chain.links.map fun link => order.list link.scopes) asset
            = .ok r ∧
          Combines asset (fun s => ∃ link ∈ chain.links, LinkGrants asset link s) r) := by
  have hlists : ∀ scopes ∈ chain.links.map fun link => order.list link.scopes, Parses scopes := by
    intro scopes hmem scope hscope
    obtain ⟨link, hlink, rfl⟩ := List.mem_map.mp hmem
    exact hparses link hlink scope (order.mem_list.mp hscope)
  have hexists : ∀ p : List PyStr → Prop,
      (∃ scopes ∈ chain.links.map fun link => order.list link.scopes, p scopes) ↔
        ∃ link ∈ chain.links, p (order.list link.scopes) := by
    intro p
    simp only [List.mem_map, exists_exists_and_eq_and]
  have hnone : Combines asset (fun _ => False) none := combines_none
  have hcases := composeLoop_cases hlists hnone
  simp only [hexists, List.forall_mem_map, grants_order, false_or] at hcases
  exact hcases

/-- Past the composition, `verify` is its two cap checks. -/
theorem verify_of_compose {order : SetOrder} {chain : DelegationChain} {amount spent : Amount}
    {a b : Decimal} (ha : amount.toDecimal = .ok a) (hb : spent.toDecimal = .ok b)
    (ha0 : 0 ≤ a.toRat) (hb0 : 0 ≤ b.toRat) {effective : Option SpendScope}
    (hc : composeSpendAuthority (chain.links.map fun link => order.list link.scopes) asset
      = .ok effective) {scope : SpendScope} :
    verify order chain asset amount spent = .ok scope ↔
      effective = some scope ∧ checkTx asset a scope.txCap = .ok () ∧
        checkTotal asset a b scope.totalCap = .ok () := by
  have hsign : ¬ (a < Decimal.zero ∨ b < Decimal.zero) := by
    rw [Decimal.lt_def, Decimal.lt_def, Decimal.toRat_zero, not_or, not_lt, not_lt]
    exact ⟨ha0, hb0⟩
  have hguard : raiseIf (a < Decimal.zero ∨ b < Decimal.zero) .spendScopeError
      ["amounts must be non-negative"] = .ok () := (raiseIf_ok_iff _ _ _ _).mpr hsign
  unfold verify
  rw [ha, hb]
  show (raiseIf _ _ _ >>= fun _ => _) = _ ↔ _
  rw [seq_ok_iff, hc]
  cases effective with
  | none => exact iff_of_false (fun h => nomatch h.2) fun h => nomatch h.1
  | some e =>
      show _ ∧ (checkTx _ _ _ >>= fun _ => checkTotal _ _ _ _ >>= fun _ => _) = _ ↔ _
      rw [seq_ok_iff, seq_ok_iff]
      constructor
      · rintro ⟨-, htx, htotal, ⟨⟩⟩
        exact ⟨rfl, htx, htotal⟩
      · rintro ⟨⟨⟩, htx, htotal⟩
        exact ⟨hguard, htx, htotal, rfl⟩

/-- A payment passes the cap on one transaction when the cap allows it. -/
theorem checkTx_ok_iff {amount : Decimal} {c : Option Decimal} :
    checkTx asset amount c = .ok () ↔ Allows c amount.toRat := by
  cases c with
  | none => exact iff_of_true rfl fun _ hd => absurd hd (Option.not_mem_none _)
  | some d =>
      rw [checkTx, raiseIf_ok_iff, Decimal.lt_def, not_lt]
      exact ⟨fun h _ hd => Option.some.inj hd ▸ h, fun h => h d rfl⟩

/-- A bounded amount is far below `Emax`. -/
theorem lt_emax_of_bounded {d : Decimal} (h : Bounded d) : d.toRat < 10 ^ emax := by
  refine h.2.trans_le ?_
  rw [← zpow_natCast]
  exact zpow_le_zpow_right₀ (by norm_num) (by decide)

/-- The total is checked on the rounded sum; a sum that overflows exceeds every cap. -/
theorem checkTotal_ok_iff {amount spent : Decimal} {c : Option Decimal}
    (ha : 0 ≤ amount.toRat) (hs : 0 ≤ spent.toRat) (hc : ∀ d ∈ c, Bounded d) :
    checkTotal asset amount spent c = .ok () ↔
      Allows c (roundSig 10 prec etiny (spent.toRat + amount.toRat)) := by
  cases c with
  | none => exact iff_of_true rfl fun _ hd => absurd hd (Option.not_mem_none _)
  | some d =>
      have hallows : Allows (some d) (roundSig 10 prec etiny (spent.toRat + amount.toRat)) ↔
          roundSig 10 prec etiny (spent.toRat + amount.toRat) ≤ d.toRat :=
        ⟨fun h => h d rfl, fun h _ hd => Option.some.inj hd ▸ h⟩
      rw [hallows]
      rcases ok_or_error (spent.add amount) with ⟨total, htotal⟩ | ⟨e, he⟩
      · rw [checkTotal, htotal]
        show raiseIf _ _ _ = _ ↔ _
        rw [raiseIf_ok_iff, Decimal.lt_def, not_lt, Decimal.add_ok hs ha htotal]
      -- `decimal.Overflow` stops the call: the sum rounds above every cap a scope can carry
      · have hover := (Decimal.add_error hs ha he).2
        refine iff_of_false (fun h => ?_)
          (not_le.mpr ((lt_emax_of_bounded (hc d rfl)).trans_le hover))
        rw [checkTotal, he] at h
        exact nomatch h

/-- **WHEN A PAYMENT IS LET THROUGH**: every link grants, the amount is within every transaction
    cap, and the rounded sum within every total cap. -/
theorem verify_ok_iff (order : SetOrder) {chain : DelegationChain} (hparses : ChainParses chain)
    {amount spent : Amount} {a b : Decimal} (ha : amount.toDecimal = .ok a)
    (hb : spent.toDecimal = .ok b) (ha0 : 0 ≤ a.toRat) (hb0 : 0 ≤ b.toRat) :
    (∃ scope, verify order chain asset amount spent = .ok scope) ↔
      Granted chain asset a.toRat ∧ ∀ d, IsCap chain asset .total d →
        roundSig 10 prec etiny (b.toRat + a.toRat) ≤ d.toRat := by
  rcases @composeSpendAuthority_cases asset order chain hparses with
    ⟨⟨link, hlink, hno⟩, hc⟩ | ⟨hall, r, hc, hcomb⟩
  · refine iff_of_false ?_ ?_
    · rintro ⟨scope, h⟩
      exact nomatch ((verify_of_compose ha hb ha0 hb0 hc).mp h).1
    · rintro ⟨hgranted, -⟩
      obtain ⟨s, hs⟩ := hgranted.links link hlink
      exact hno s hs
  · simp only [verify_of_compose ha hb ha0 hb0 hc]
    have hiscap : ∀ axis x, (∀ s, (∃ link ∈ chain.links, LinkGrants asset link s) →
        Allows (cap s axis) x) ↔ ∀ d, IsCap chain asset axis d → x ≤ d.toRat := by
      intro axis x
      constructor
      · rintro h d ⟨link, hlink, s, hs, hd⟩
        exact h s ⟨link, hlink, hs⟩ d hd
      · rintro h s ⟨link, hlink, hs⟩ d hd
        exact h d ⟨link, hlink, s, hs, hd⟩
    have hbounded : ∀ scope ∈ r, ∀ d ∈ scope.totalCap, Bounded d := by
      intro scope hscope d hd
      obtain ⟨s, ⟨_, -, t, -, hparsed, -⟩, hds⟩ := hcomb.attained scope hscope .total d hd
      exact (parseSpendScope_bounds hparsed).2 d hds
    constructor
    · rintro ⟨scope, rfl, htx, htotal⟩
      have hnonempty : chain.links ≠ [] := by
        intro hnil
        refine absurd (hcomb.none_iff.mpr fun s => ?_) (Option.some_ne_none scope)
        rintro ⟨_, hlink, -⟩
        rw [hnil] at hlink
        exact absurd hlink List.not_mem_nil
      rw [checkTx_ok_iff] at htx
      rw [checkTotal_ok_iff ha0 hb0 (hbounded scope rfl)] at htotal
      exact ⟨⟨hnonempty, hall, (hiscap .tx _).mp ((hcomb.allows scope rfl .tx _).mp htx)⟩,
        (hiscap .total _).mp ((hcomb.allows scope rfl .total _).mp htotal)⟩
    · rintro ⟨hgranted, htotal⟩
      cases r with
      | none =>
          obtain ⟨link, hlink⟩ := List.exists_mem_of_ne_nil _ hgranted.nonempty
          obtain ⟨s, hs⟩ := hall link hlink
          exact absurd ⟨link, hlink, hs⟩ (hcomb.none_iff.mp rfl s)
      | some scope =>
          refine ⟨scope, rfl, checkTx_ok_iff.mpr ?_,
            (checkTotal_ok_iff ha0 hb0 (hbounded scope rfl)).mpr ?_⟩
          · exact (hcomb.allows scope rfl .tx _).mpr ((hiscap .tx _).mpr hgranted.tx)
          · exact (hcomb.allows scope rfl .total _).mpr ((hiscap .total _).mpr htotal)

end AgentSpendAuthority
