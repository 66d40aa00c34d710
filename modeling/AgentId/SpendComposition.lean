import Mathlib.Order.Bounds.Basic
import AgentId.SpendCaps

/-!
# The greatest authority every link allows (`spend.py`)

`compose_spend_authority` narrows twice, over the links of a chain and over the scopes of a link,
with "no cap yet" for unlimited on one level and "no authority" on the other.

* **`compose_greatest`** — what it returns: nothing for a chain with a link that grants nothing, else
  the least of all caps on each axis.
* **`Greatest.agree`**, **`Greatest.within`** — so the result depends on which scopes stand together
  in a link, and more of them leave less authority.
* **`composed_authority_exact`** — the two together.
-/

namespace AgentSpendComposition

open AgentPy AgentDecimal AgentSpend AgentSpendAuthority AgentSpendCaps

variable {asset : PyStr} {links links' : List (List PyStr)} {r r' : Option SpendScope}

/-! ## What is returned -/

/-- Every spend scope of every link parses. -/
def LinksParse (links : List (List PyStr)) : Prop := ∀ scopes ∈ links, Parses scopes

/-- There is no link, or one without a scope for the asset. -/
def Void (asset : PyStr) (links : List (List PyStr)) : Prop :=
  links = [] ∨ ∃ scopes ∈ links, ∀ s, ¬ Grants asset scopes s

/-- The values of the caps for the asset on one axis, in all links. -/
def capValues (asset : PyStr) (links : List (List PyStr)) (axis : Axis) : Set ℚ :=
  {x | ∃ scopes ∈ links, ∃ s, Grants asset scopes s ∧ ∃ d ∈ cap s axis, d.toRat = x}

/-- The greatest authority every link allows. -/
structure Greatest (asset : PyStr) (links : List (List PyStr)) (r : Option SpendScope) : Prop where
  none_iff : r = none ↔ Void asset links
  asset_eq : ∀ a ∈ r, a.asset = asset
  unlimited_iff : ∀ a ∈ r, ∀ axis, cap a axis = none ↔ capValues asset links axis = ∅
  least : ∀ a ∈ r, ∀ axis, ∀ d ∈ cap a axis, IsLeast (capValues asset links axis) d.toRat

/-- **WHAT COMPOSITION RETURNS** is the greatest authority every link allows. -/
theorem compose_greatest (hparses : LinksParse links) :
    ∃ r, composeSpendAuthority links asset = .ok r ∧ Greatest asset links r := by
  have hstart : Combines asset (fun _ => False) none := combines_none
  rcases composeLoop_cases hparses hstart with
    ⟨hvoid, hnone⟩ | ⟨hall, r, hr, hcomb⟩
  · refine ⟨none, hnone, iff_of_true rfl (Or.inr hvoid), ?_, ?_, ?_⟩
    · intro a ha
      cases ha
    · intro a ha
      cases ha
    · intro a ha
      cases ha
  · refine ⟨r, hr, ?_, hcomb.asset_eq, fun a ha axis => ?_, fun a ha axis d hd => ?_⟩
    · rw [hcomb.none_iff]
      constructor
      · intro hno
        -- every link grants something, so there is no link
        refine Or.inl (List.eq_nil_iff_forall_not_mem.mpr fun scopes hmem => ?_)
        obtain ⟨s, hs⟩ := hall scopes hmem
        exact hno s (Or.inr ⟨scopes, hmem, hs⟩)
      · rintro (rfl | ⟨scopes, hmem, hno⟩) s hs
        · rcases hs with hs | ⟨scopes, hmem, -⟩
          · exact hs
          · exact List.not_mem_nil hmem
        · obtain ⟨s, hs⟩ := hall scopes hmem
          exact hno s hs
    · constructor
      · intro hcap
        refine Set.eq_empty_iff_forall_notMem.mpr ?_
        rintro x ⟨scopes, hmem, s, hs, d, hd, rfl⟩
        have hbound := (hcomb.allows a ha axis (d.toRat + 1)).mp
          (fun d hd => by rw [hcap] at hd; cases hd) s (Or.inr ⟨scopes, hmem, hs⟩) d hd
        linarith
      · intro hempty
        refine Option.eq_none_iff_forall_ne_some.mpr fun d hd => ?_
        obtain ⟨s, hs, hds⟩ := hcomb.attained a ha axis d hd
        obtain ⟨scopes, hmem, hs⟩ := hs.resolve_left id
        exact (Set.eq_empty_iff_forall_notMem.mp hempty) _ ⟨scopes, hmem, s, hs, d, hds, rfl⟩
    · obtain ⟨s, hs, hds⟩ := hcomb.attained a ha axis d hd
      obtain ⟨scopes, hmem, hs⟩ := hs.resolve_left id
      refine ⟨⟨scopes, hmem, s, hs, d, hds, rfl⟩, ?_⟩
      rintro x ⟨scopes', hmem', s', hs', d', hd', rfl⟩
      refine (hcomb.allows a ha axis d.toRat).mp ?_ s' (Or.inr ⟨scopes', hmem', hs'⟩) d' hd'
      intro d₁ hd₁
      rw [Option.mem_unique hd₁ hd]

/-- What an authority allows on an axis: up to every cap for the asset. -/
theorem Greatest.allows_iff (G : Greatest asset links r) {a : SpendScope} (ha : a ∈ r) {axis : Axis}
    {x : ℚ} : Allows (cap a axis) x ↔ x ∈ lowerBounds (capValues asset links axis) := by
  cases hcap : cap a axis with
  | none =>
      rw [(G.unlimited_iff a ha axis).mp hcap, lowerBounds_empty]
      exact iff_of_true (fun _ hd => by cases hd) (Set.mem_univ x)
  | some d =>
      obtain ⟨hmem, hbound⟩ := G.least a ha axis d hcap
      constructor
      · exact fun hallows y hy => (hallows d rfl).trans (hbound hy)
      · rintro hx _ ⟨⟩
        exact hx hmem

/-! ## What the result depends on -/

/-- Each link of the one chain is among the links of the other, its scopes in any order. -/
def Among (links links' : List (List PyStr)) : Prop :=
  ∀ scopes ∈ links, ∃ scopes' ∈ links', ∀ x, x ∈ scopes ↔ x ∈ scopes'

/-- Each link of the one chain has grown into a link of the other. -/
def Extends (links links' : List (List PyStr)) : Prop :=
  ∀ scopes ∈ links, ∃ scopes' ∈ links', scopes ⊆ scopes'

/-- Links that are among others are extended by them. -/
theorem Among.extends (h : Among links links') : Extends links links' := by
  intro scopes hmem
  obtain ⟨scopes', hmem', hsame⟩ := h scopes hmem
  exact ⟨scopes', hmem', fun x hx => (hsame x).mp hx⟩

/-- More scopes grant what fewer do. -/
theorem grants_mono {scopes scopes' : List PyStr} (h : scopes ⊆ scopes') {s : SpendScope}
    (hs : Grants asset scopes s) : Grants asset scopes' s := by
  obtain ⟨scope, hmem, hparse⟩ := hs
  exact ⟨scope, h hmem, hparse⟩

/-- More links have more caps. -/
theorem capValues_subset (h : Extends links links') (axis : Axis) :
    capValues asset links axis ⊆ capValues asset links' axis := by
  rintro x ⟨scopes, hmem, s, hs, hd⟩
  obtain ⟨scopes', hmem', hsub⟩ := h scopes hmem
  exact ⟨scopes', hmem', s, grants_mono hsub hs, hd⟩

/-- Links that are among each other are void together. -/
theorem Among.void (h : Among links links') (h' : Among links' links) (hvoid : Void asset links) :
    Void asset links' := by
  rcases hvoid with rfl | ⟨scopes, hmem, hno⟩
  · refine Or.inl (List.eq_nil_iff_forall_not_mem.mpr fun scopes hmem => ?_)
    obtain ⟨_, hnil, -⟩ := h' scopes hmem
    exact List.not_mem_nil hnil
  · obtain ⟨scopes', hmem', hsame⟩ := h scopes hmem
    exact Or.inr ⟨scopes', hmem', fun s hs => hno s (grants_mono (fun x hx => (hsame x).mpr hx) hs)⟩

/-- Two authorities are the same, their caps as numbers. -/
def SameAuthority (r r' : Option SpendScope) : Prop :=
  (r = none ↔ r' = none) ∧ ∀ a ∈ r, ∀ a' ∈ r', a.asset = a'.asset ∧
    ∀ axis, (cap a axis).map Decimal.toRat = (cap a' axis).map Decimal.toRat

/-- The one authority is within the other: no more on either axis. -/
def Within (r' r : Option SpendScope) : Prop :=
  ∀ a' ∈ r', ∃ a ∈ r, a'.asset = a.asset ∧
    ∀ axis x, Allows (cap a' axis) x → Allows (cap a axis) x

/-- **THE SAME SCOPES TOGETHER** make the same authority. -/
theorem Greatest.agree (G : Greatest asset links r) (G' : Greatest asset links' r')
    (h : Among links links') (h' : Among links' links) : SameAuthority r r' := by
  have hvalues : ∀ axis, capValues asset links axis = capValues asset links' axis := fun axis =>
    (capValues_subset h.extends axis).antisymm (capValues_subset h'.extends axis)
  refine ⟨?_, fun a ha a' ha' => ⟨(G.asset_eq a ha).trans (G'.asset_eq a' ha').symm, fun axis => ?_⟩⟩
  · rw [G.none_iff, G'.none_iff]
    exact ⟨h.void h', h'.void h⟩
  · cases hcap : cap a axis with
    | none =>
        have hempty := (G.unlimited_iff a ha axis).mp hcap
        rw [hvalues] at hempty
        rw [(G'.unlimited_iff a' ha' axis).mpr hempty]
    | some d =>
        cases hcap' : cap a' axis with
        | none =>
            have hempty := (G'.unlimited_iff a' ha' axis).mp hcap'
            rw [← hvalues, ← G.unlimited_iff a ha axis, hcap] at hempty
            cases hempty
        | some d' =>
            have hleast := G'.least a' ha' axis d' hcap'
            rw [← hvalues] at hleast
            exact congrArg some ((G.least a ha axis d hcap).unique hleast)

/-- **MORE SCOPES LEAVE LESS AUTHORITY**, where there was any. -/
theorem Greatest.within (G : Greatest asset links r) (G' : Greatest asset links' r')
    (h : Extends links links') (hvoid : ¬ Void asset links) : Within r' r := by
  intro a' ha'
  obtain ⟨a, ha⟩ := Option.ne_none_iff_exists'.mp fun hnone => hvoid (G.none_iff.mp hnone)
  refine ⟨a, ha, (G'.asset_eq a' ha').trans (G.asset_eq a ha).symm, fun axis x hx => ?_⟩
  rw [G'.allows_iff ha'] at hx
  rw [G.allows_iff ha]
  exact fun y hy => hx (capValues_subset h axis hy)

/-! ## The law -/

/-- Reordered links are among each other. -/
theorem among_perm (h : links.Perm links') : Among links links' :=
  fun scopes hmem => ⟨scopes, h.mem_iff.mp hmem, fun _ => Iff.rfl⟩

/-- The scopes of each link in another order. -/
theorem among_forall₂ (h : List.Forall₂ List.Perm links links') : Among links links' := by
  induction h with
  | nil => exact fun _ hmem => absurd hmem List.not_mem_nil
  | cons hperm _ ih =>
      intro scopes hmem
      rcases List.mem_cons.mp hmem with rfl | hmem
      · exact ⟨_, List.mem_cons_self, fun _ => hperm.mem_iff⟩
      · obtain ⟨scopes', hmem', hsame⟩ := ih scopes hmem
        exact ⟨scopes', List.mem_cons_of_mem _ hmem', hsame⟩

/-- A link that is there already, set in anywhere. -/
theorem among_repeat {front back : List (List PyStr)} {link : List PyStr}
    (hmem : link ∈ front ++ back) : Among (front ++ link :: back) (front ++ back) := by
  intro scopes h
  rcases List.mem_append.mp h with h | h
  · exact ⟨scopes, List.mem_append_left _ h, fun _ => Iff.rfl⟩
  · rcases List.mem_cons.mp h with rfl | h
    · exact ⟨scopes, hmem, fun _ => Iff.rfl⟩
    · exact ⟨scopes, List.mem_append_right _ h, fun _ => Iff.rfl⟩

/-- Links that occur in a list are among it. -/
theorem among_of_subset (h : links ⊆ links') : Among links links' :=
  fun scopes hmem => ⟨scopes, h hmem, fun _ => Iff.rfl⟩

theorem subset_insert (front back : List (List PyStr)) (link : List PyStr) :
    front ++ back ⊆ front ++ link :: back := by
  intro scopes h
  rcases List.mem_append.mp h with h | h
  · exact List.mem_append_left _ h
  · exact List.mem_append_right _ (List.mem_cons_of_mem _ h)

/-- A link of the chain with one scope more, set in anywhere. -/
theorem extends_scope (front back : List (List PyStr)) (before after : List PyStr)
    (scope : PyStr) :
    Extends (front ++ (before ++ after) :: back) (front ++ (before ++ scope :: after) :: back) := by
  intro scopes h
  rcases List.mem_append.mp h with h | h
  · exact ⟨scopes, List.mem_append_left _ h, List.Subset.refl _⟩
  · rcases List.mem_cons.mp h with rfl | h
    · refine ⟨_, List.mem_append_right _ List.mem_cons_self, fun x hx => ?_⟩
      rcases List.mem_append.mp hx with hx | hx
      · exact List.mem_append_left _ hx
      · exact List.mem_append_right _ (List.mem_cons_of_mem _ hx)
    · exact ⟨scopes, List.mem_append_right _ (List.mem_cons_of_mem _ h), List.Subset.refl _⟩

/-- Both chains compose, and their authorities are so related. -/
def Composed (P : Option SpendScope → Option SpendScope → Prop) (asset : PyStr)
    (links links' : List (List PyStr)) : Prop :=
  ∃ r r', composeSpendAuthority links asset = .ok r ∧
    composeSpendAuthority links' asset = .ok r' ∧ P r r'

/-- **REORDERING AND REPEATING** links composes to the same authority. -/
theorem composed_same (hparses : LinksParse links) (hparses' : LinksParse links')
    (h : Among links links') (h' : Among links' links) :
    Composed SameAuthority asset links links' := by
  obtain ⟨r, hr, G⟩ := @compose_greatest asset _ hparses
  obtain ⟨r', hr', G'⟩ := @compose_greatest asset _ hparses'
  exact ⟨r, r', hr, hr', G.agree G' h h'⟩

/-- **MORE LINKS** compose to no greater authority. -/
theorem composed_within (hparses : LinksParse links) (hparses' : LinksParse links')
    (h : Extends links links') (hvoid : ¬ Void asset links) :
    Composed (fun r r' => Within r' r) asset links links' := by
  obtain ⟨r, hr, G⟩ := @compose_greatest asset _ hparses
  obtain ⟨r', hr', G'⟩ := @compose_greatest asset _ hparses'
  exact ⟨r, r', hr, hr', G.within G' h hvoid⟩

/-- Links that are among links that parse do too. -/
theorem Among.linksParse (h : Among links' links) (hparses : LinksParse links) :
    LinksParse links' := by
  intro scopes hmem scope hscope hspend
  obtain ⟨scopes', hmem', hsame⟩ := h scopes hmem
  exact hparses scopes' hmem' scope ((hsame scope).mp hscope) hspend

/-- One more link that parses keeps the list parsing. -/
theorem linksParse_insert {front back : List (List PyStr)} {link : List PyStr}
    (hparses : LinksParse (front ++ back)) (hlink : Parses link) :
    LinksParse (front ++ link :: back) := by
  intro scopes h
  rcases List.mem_append.mp h with h | h
  · exact hparses scopes (List.mem_append_left _ h)
  · rcases List.mem_cons.mp h with rfl | h
    · exact hlink
    · exact hparses scopes (List.mem_append_right _ h)

/-- So does one more scope in a link. -/
theorem linksParse_scope {front back : List (List PyStr)} {before after : List PyStr}
    {scope : PyStr} {s : SpendScope} (hparses : LinksParse (front ++ (before ++ after) :: back))
    (hscope : parseSpendScope scope = .ok s) :
    LinksParse (front ++ (before ++ scope :: after) :: back) := by
  refine linksParse_insert (fun scopes h => hparses scopes (subset_insert _ _ _ h)) ?_
  have hlink : Parses (before ++ after) :=
    hparses _ (List.mem_append_right _ List.mem_cons_self)
  intro x hx hspend
  rcases List.mem_append.mp hx with hx | hx
  · exact hlink x (List.mem_append_left _ hx) hspend
  · rcases List.mem_cons.mp hx with rfl | hx
    · exact ⟨s, hscope⟩
    · exact hlink x (List.mem_append_right _ hx) hspend

/-- **COMPOSED SPEND AUTHORITY IS THE GREATEST EVERY LINK ALLOWS**: it depends on no order and no
    repetition, and only shrinks when a chain that grants something gains a link or a scope. -/
theorem composed_authority_exact (asset : PyStr) (links : List (List PyStr))
    (hparses : LinksParse links) :
    (∃ r, composeSpendAuthority links asset = .ok r ∧ Greatest asset links r) ∧
      (∀ links', links.Perm links' → Composed SameAuthority asset links links') ∧
      (∀ links', List.Forall₂ List.Perm links links' →
        Composed SameAuthority asset links links') ∧
      (∀ front back, links = front ++ back → ∀ link ∈ links,
        Composed SameAuthority asset links (front ++ link :: back)) ∧
      (∀ front back, links = front ++ back → ∀ link, Parses link → ¬ Void asset links →
        Composed (fun r r' => Within r' r) asset links (front ++ link :: back)) ∧
      (∀ front back before after, links = front ++ (before ++ after) :: back →
        ∀ scope s, parseSpendScope scope = .ok s → s.asset = asset → ¬ Void asset links →
          Composed (fun r r' => Within r' r) asset links
            (front ++ (before ++ scope :: after) :: back)) := by
  refine ⟨compose_greatest hparses, ?_, ?_, ?_, ?_, ?_⟩
  · intro links' hperm
    have hback := among_perm hperm.symm
    exact composed_same hparses (hback.linksParse hparses) (among_perm hperm) hback
  · intro links' hperm
    have hback : Among links' links :=
      among_forall₂ (hperm.flip.imp fun _ _ h => h.symm)
    exact composed_same hparses (hback.linksParse hparses) (among_forall₂ hperm) hback
  · rintro front back rfl link hmem
    have hback := among_repeat hmem
    exact composed_same hparses (hback.linksParse hparses)
      (among_of_subset (subset_insert front back link)) hback
  · rintro front back rfl link hlink hvoid
    exact composed_within hparses (linksParse_insert hparses hlink)
      (among_of_subset (subset_insert front back link)).extends hvoid
  · rintro front back before after rfl scope s hscope - hvoid
    exact composed_within hparses (linksParse_scope hparses hscope)
      (extends_scope front back before after scope) hvoid

/-- Two links whose caps cross, with a scope that is no spend scope and one for another asset. -/
def crossingLinks : List (List PyStr) :=
  [[py "read", py "pay:usd:tx<=5:total<=100"], [py "pay:eur", py "pay:usd:tx<=10:total<=20"]]

theorem crossingLinks_parse : LinksParse crossingLinks := by
  intro scopes hmem scope hscope hspend
  simp only [crossingLinks, List.mem_cons, List.not_mem_nil, or_false] at hmem
  rcases hmem with rfl | rfl
  · rcases List.mem_pair.mp hscope with rfl | rfl
    · exact absurd hspend (by decide)
    · exact ⟨⟨py "usd", some ⟨false, 5, 0⟩, some ⟨false, 100, 0⟩⟩, by decide +kernel⟩
  · rcases List.mem_pair.mp hscope with rfl | rfl
    · exact ⟨⟨py "eur", none, none⟩, by decide +kernel⟩
    · exact ⟨⟨py "usd", some ⟨false, 10, 0⟩, some ⟨false, 20, 0⟩⟩, by decide +kernel⟩

/-- Each link gives the lower cap on one axis, in either order of the links. -/
theorem composed_authority_crossing :
    Greatest (py "usd") crossingLinks
        (some ⟨py "usd", some ⟨false, 5, 0⟩, some ⟨false, 20, 0⟩⟩) ∧
      Composed SameAuthority (py "usd") crossingLinks crossingLinks.reverse := by
  have hcompose : composeSpendAuthority crossingLinks (py "usd") =
      .ok (some ⟨py "usd", some ⟨false, 5, 0⟩, some ⟨false, 20, 0⟩⟩) := by decide +kernel
  obtain ⟨⟨r, hr, hgreatest⟩, hperm, -⟩ :=
    composed_authority_exact (py "usd") crossingLinks crossingLinks_parse
  rw [hcompose] at hr
  refine ⟨?_, hperm _ (List.reverse_perm crossingLinks).symm⟩
  rw [Except.ok.inj hr]
  exact hgreatest

end AgentSpendComposition
