import AgentId.Delegation

/-!
# The verdict of a chain

`DelegationChain.verify` interleaves its checks and stops at the first failure.  Here the loop
is shown to decide one declarative predicate: whatever order the defects come in, the call returns
the intersection of the links' scopes exactly when there is none, and otherwise raises
`DelegationError`.  The two edges of the windows are where Python's clock arithmetic puts them.

* **`verify_ok_iff_valid`** — the verdict, at the edges the code computes.
* **`chain_verify_verdict_iff`** — when these are the edges of the time line.
-/

namespace AgentChainVerdict

open AgentRaises AgentPy AgentTimezone AgentSigning AgentSerde AgentDelegation

/-- What must hold of one link, whatever the time. -/
structure LinkSound (H : Host) (revoked revokedKeys : Finset PyStr) (understood : List PyStr)
    (link : Delegation) : Prop where
  signed : link.Signed H
  understood : ∀ name ∈ link.critical, name ∈ understood
  digest_notMem : ∀ digest, link.digest H = .ok digest → digest ∉ revoked
  issuer_notMem : link.issuer ∉ revokedKeys
  subject_notMem : link.subject ∉ revokedKeys

/-- What must hold of a chain that ends at `agent`, whatever the time. -/
structure ChainSound (H : Host) (revoked revokedKeys : Finset PyStr) (understood : List PyStr)
    (chain : DelegationChain) (agent : PyStr) : Prop where
  links : ∀ link ∈ chain.links, LinkSound H revoked revokedKeys understood link
  adjacent : ∀ i (h : i + 1 < chain.links.length),
    chain.links[i + 1].issuer = chain.links[i].subject
  terminates : ∀ last ∈ chain.links.getLast?, last.subject = agent

/-- Every link is in its window, at these two edges. -/
def InWindows (chain : DelegationChain) (early late : Int) : Prop :=
  ∀ link ∈ chain.links, link.InWindowBetween early late

/-- What must hold of a chain that ends at `agent`, with its windows looked at at these edges. -/
structure ChainValid (H : Host) (early late : Int) (revoked revokedKeys : Finset PyStr)
    (understood : List PyStr) (chain : DelegationChain) (agent : PyStr) : Prop where
  sound : ChainSound H revoked revokedKeys understood chain agent
  inWindows : InWindows chain early late

/-- The scopes every link of a chain carries. -/
def IsEffective (chain : DelegationChain) (scopes : Finset PyStr) : Prop :=
  ∀ s, s ∈ scopes ↔ ∀ link ∈ chain.links, s ∈ link.scopes

/-! ## The loop -/

variable {T : Type} [Moment T] {H : Host} {now : T} {opts : VerifyOptions}
  {revoked revokedKeys : Finset PyStr}

/-- The checks of one turn of the loop, adjacency aside. -/
structure LinkPasses (H : Host) (now : T) (opts : VerifyOptions)
    (revoked revokedKeys : Finset PyStr) (link : Delegation) : Prop where
  verifies : link.verify H now opts = .ok ()
  digest_notMem : ∀ digest, link.digest H = .ok digest → digest ∉ revoked
  issuer_notMem : link.issuer ∉ revokedKeys
  subject_notMem : link.subject ∉ revokedKeys

/-- Each link is issued by the subject of the one before it. -/
def Linked (links : List Delegation) : Prop :=
  links.IsChain fun a b => b.issuer = a.subject

/-- The running intersection. -/
def narrowAll (effective : Option (Finset PyStr)) (links : List Delegation) :
    Option (Finset PyStr) :=
  links.foldl (fun e link => some (narrow e link.scopes)) effective

theorem checkAdjacent_ok_iff {i : ℕ} {previous : Option Delegation} {link : Delegation}
    {links : List Delegation} :
    (checkAdjacent i previous link = .ok () ∧ Linked (link :: links)) ↔
      Linked (previous.toList ++ link :: links) := by
  cases previous with
  | none => exact ⟨fun h => h.2, fun h => ⟨rfl, h⟩⟩
  | some p =>
      rw [checkAdjacent, raiseIf_ok_iff, not_not]
      show _ ↔ Linked (p :: link :: links)
      rw [Linked, Linked, List.isChain_cons_cons]

/-- **THE LOOP, DECLARATIVELY**: it returns the running intersection exactly when every link
    passes and every link follows its predecessor. -/
theorem verifyLinks_ok_iff {i : ℕ} {previous : Option Delegation}
    {effective effective' : Option (Finset PyStr)} {links : List Delegation} :
    verifyLinks H now opts revoked revokedKeys i previous effective links = .ok effective' ↔
      (∀ link ∈ links, LinkPasses H now opts revoked revokedKeys link) ∧
        (links ≠ [] → Linked (previous.toList ++ links)) ∧
        effective' = narrowAll effective links := by
  induction links generalizing i previous effective with
  | nil =>
      rw [verifyLinks]
      constructor
      · intro h
        cases h
        exact ⟨fun l hl => absurd hl List.not_mem_nil, fun h => absurd rfl h, rfl⟩
      · rintro ⟨-, -, rfl⟩
        rfl
  | cons link links ih =>
      simp only [verifyLinks, bind_ok_iff, ih, raiseIf_ok_iff, not_or]
      constructor
      · rintro ⟨_, hverify, digest, hdigest, _, hrevoked, _, ⟨hissuer, hsubject⟩, _, hadj, hpass,
          hlinked, heff⟩
        -- the loop checks one digest, and a link has no other
        have hlink : LinkPasses H now opts revoked revokedKeys link := by
          refine ⟨hverify, ?_, hissuer, hsubject⟩
          intro d hd
          rw [hdigest] at hd
          cases hd
          exact hrevoked
        -- the induction speaks of the tail with this link before it
        have htail : Linked (link :: links) := by
          cases links with
          | nil => exact List.isChain_singleton link
          | cons next rest => exact hlinked (List.cons_ne_nil next rest)
        refine ⟨?_, fun _ => checkAdjacent_ok_iff.mp ⟨hadj, htail⟩, heff⟩
        intro l hl
        rcases List.mem_cons.mp hl with rfl | hl
        · exact hlink
        · exact hpass l hl
      · rintro ⟨hpass, hlinked, heff⟩
        obtain ⟨hverify, hrevoked, hissuer, hsubject⟩ := hpass link List.mem_cons_self
        -- the source takes the digest of a link that has verified, so it is there
        obtain ⟨digest, hdigest⟩ := Delegation.digest_of_signed (Delegation.verify_ok_iff.mp hverify).2.1
        obtain ⟨hadj, htail⟩ := checkAdjacent_ok_iff.mpr (hlinked (List.cons_ne_nil link links))
        exact ⟨(), hverify, digest, hdigest, (), hrevoked digest hdigest, (),
          ⟨hissuer, hsubject⟩, (), hadj, fun l hl => hpass l (List.mem_cons_of_mem _ hl),
          fun _ => htail, heff⟩

/-- The loop raises nothing but `DelegationError`: a digest is only taken of a link that has
    just verified. -/
theorem verifyLinks_error (hopts : WindowChecked now opts) {i : ℕ} {previous : Option Delegation}
    {effective : Option (Finset PyStr)} {links : List Delegation} :
    Raises (fun e => e.cls = .delegationError)
      (verifyLinks H now opts revoked revokedKeys i previous effective links) := by
  induction links generalizing i previous effective with
  | nil => exact raises_ok effective
  | cons link links ih =>
      rw [verifyLinks]
      refine (Delegation.verify_error hopts).bind fun _ hverify => ?_
      obtain ⟨digest, hdigest⟩ :=
        Delegation.digest_of_signed (Delegation.verify_ok_iff.mp hverify).2.1
      refine (raises_of_ok hdigest).bind fun _ _ => ?_
      refine Raises.bind (raises_raiseIf rfl) fun _ _ => ?_
      refine Raises.bind (raises_raiseIf rfl) fun _ _ => ?_
      refine Raises.bind ?_ fun _ _ => ih
      cases previous with
      | none => exact raises_ok ()
      | some p => exact raises_raiseIf rfl

/-! ## The accumulated intersection -/

theorem mem_narrowAll {effective : Option (Finset PyStr)} {links : List Delegation} {s : PyStr}
    {scopes : Finset PyStr} (h : narrowAll effective links = some scopes) :
    s ∈ scopes ↔ (∀ e ∈ effective, s ∈ e) ∧ ∀ link ∈ links, s ∈ link.scopes := by
  induction links generalizing effective with
  | nil =>
      have heff : effective = some scopes := h
      rw [heff]
      simp
  | cons link links ih =>
      have hrest : narrowAll (some (narrow effective link.scopes)) links = some scopes := h
      rw [ih hrest, List.forall_mem_cons]
      cases effective with
      | none => simp [narrow]
      | some e => simp [narrow, and_assoc]

theorem exists_narrowAll {links : List Delegation} (h : links ≠ []) :
    ∃ scopes, narrowAll none links = some scopes := by
  have hsome : ∀ (ls : List Delegation) (e : Finset PyStr),
      ∃ scopes, narrowAll (some e) ls = some scopes := by
    intro ls
    induction ls with
    | nil => exact fun e => ⟨e, rfl⟩
    | cons l ls ih => exact fun e => ih _
  cases links with
  | nil => exact absurd rfl h
  | cons link links => exact hsome links _

/-! ## The verdict -/

theorem linked_iff {links : List Delegation} :
    Linked links ↔ ∀ i (h : i + 1 < links.length), links[i + 1].issuer = links[i].subject :=
  List.isChain_iff_getElem

/-- What a whole call returns, in terms of the loop's own checks. -/
theorem DelegationChain.verify_ok_iff {chain : DelegationChain} {agent : PyStr}
    {scopes : Finset PyStr} (hne : chain.links ≠ []) :
    chain.verify H agent now revoked revokedKeys opts = .ok scopes ↔
      (∀ link ∈ chain.links, LinkPasses H now opts revoked revokedKeys link) ∧
        Linked chain.links ∧ (∀ last ∈ chain.links.getLast?, last.subject = agent) ∧
        IsEffective chain scopes := by
  obtain ⟨last, hlast⟩ := Option.ne_none_iff_exists'.mp (mt List.getLast?_eq_none_iff.mp hne)
  obtain ⟨all, hall⟩ := exists_narrowAll hne
  have hmem : ∀ s, s ∈ all ↔ ∀ link ∈ chain.links, s ∈ link.scopes := by
    intro s
    rw [mem_narrowAll hall]
    simp
  rw [DelegationChain.verify, hlast]
  simp only [bind_ok_iff, verifyLinks_ok_iff, raiseIf_ok_iff, not_not, hall, Option.mem_some_iff,
    Option.toList_none, List.nil_append, forall_eq']
  constructor
  · rintro ⟨_, ⟨hpass, hlinked, rfl⟩, _, hsubject, hscopes⟩
    cases hscopes
    exact ⟨hpass, hlinked hne, hsubject, hmem⟩
  · rintro ⟨hpass, hlinked, hsubject, heff⟩
    refine ⟨some all, ⟨hpass, fun _ => hlinked, rfl⟩, (), hsubject, ?_⟩
    have hall' : all = scopes := Finset.ext fun s => (hmem s).trans (heff s).symm
    rw [← hall']
    rfl

/-- One turn of the loop, with the window and the rest apart. -/
theorem linkPasses_iff {leewaySeconds : ℚ} (hleeway : 0 ≤ leewaySeconds) {early late : T}
    (hearly : Moment.sub now (timedelta leewaySeconds) = .ok early)
    (hlate : Moment.add now (timedelta leewaySeconds) = .ok late) {understood : List PyStr}
    {link : Delegation} :
    LinkPasses H now { leewaySeconds := leewaySeconds, understoodExtensions := understood } revoked
        revokedKeys link ↔
      link.InWindowBetween (Moment.us early) (Moment.us late) ∧
        LinkSound H revoked revokedKeys understood link := by
  have hwindow : link.checkWindow now
        { leewaySeconds := leewaySeconds, understoodExtensions := understood } = .ok () ↔
      link.InWindowBetween (Moment.us early) (Moment.us late) := by
    rw [Delegation.checkWindow, if_pos rfl, max_eq_right hleeway,
      Delegation.checkEdges_ok_iff hearly hlate]
  constructor
  · rintro ⟨hv, hd, hi, hs⟩
    obtain ⟨hw, hsig, hcrit⟩ := Delegation.verify_ok_iff.mp hv
    exact ⟨hwindow.mp hw, hsig, hcrit, hd, hi, hs⟩
  · rintro ⟨hw, hsig, hcrit, hd, hi, hs⟩
    exact ⟨Delegation.verify_ok_iff.mpr ⟨hwindow.mpr hw, hsig, hcrit⟩, hd, hi, hs⟩

/-- **THE VERDICT OF A CHAIN**, at the edges the code computes: it returns the intersection of the
    links' scopes exactly when every condition holds. -/
theorem verify_ok_iff_valid {chain : DelegationChain} (hne : chain.links ≠ []) {agent : PyStr}
    {leewaySeconds : ℚ} (hleeway : 0 ≤ leewaySeconds) {early late : T}
    (hearly : Moment.sub now (timedelta leewaySeconds) = .ok early)
    (hlate : Moment.add now (timedelta leewaySeconds) = .ok late) {understood : List PyStr}
    {scopes : Finset PyStr} :
    chain.verify H agent now revoked revokedKeys
        { leewaySeconds := leewaySeconds, understoodExtensions := understood } = .ok scopes ↔
      ChainValid H (Moment.us early) (Moment.us late) revoked revokedKeys understood chain agent ∧
        IsEffective chain scopes := by
  rw [DelegationChain.verify_ok_iff hne, linked_iff]
  simp only [linkPasses_iff hleeway hearly hlate]
  constructor
  · rintro ⟨hlinks, hadj, hterm, heff⟩
    exact ⟨⟨⟨fun link hlink => (hlinks link hlink).2, hadj, hterm⟩,
      fun link hlink => (hlinks link hlink).1⟩, heff⟩
  · rintro ⟨⟨⟨hlinks, hadj, hterm⟩, hwindows⟩, heff⟩
    exact ⟨fun link hlink => ⟨hwindows link hlink, hlinks link hlink⟩, hadj, hterm, heff⟩

/-- **NOTHING BUT `DelegationError`** comes out of a call whose edges are within the years. -/
theorem DelegationChain.verify_error (hopts : WindowChecked now opts) {chain : DelegationChain}
    {agent : PyStr} :
    Raises (fun e => e.cls = .delegationError)
      (chain.verify H agent now revoked revokedKeys opts) := by
  rw [DelegationChain.verify]
  cases chain.links.getLast? with
  | none => exact raises_ok ∅
  | some last =>
      refine (verifyLinks_error hopts).bind fun _ _ => ?_
      exact Raises.bind (raises_raiseIf rfl) fun _ _ => raises_ok _

/-! ## On the time line -/

/-- The call decides validity: it returns a scope set exactly for a chain that is valid from `now`
    less the leeway to `now` plus the leeway, and the set is the intersection; else it raises
    `DelegationError`. -/
structure DecidesValidity (H : Host) (chain : DelegationChain) (agent : PyStr) (now : AwareDatetime)
    (leewaySeconds : ℚ) (revoked revokedKeys : Finset PyStr) (understood : List PyStr) : Prop where
  returns : ∀ scopes, chain.verify H agent now revoked revokedKeys
        { leewaySeconds := leewaySeconds, understoodExtensions := understood } = .ok scopes ↔
      ChainValid H (now.instant - timedelta leewaySeconds) (now.instant + timedelta leewaySeconds)
          revoked revokedKeys understood chain agent ∧
        IsEffective chain scopes
  raises : ∀ e, chain.verify H agent now revoked revokedKeys
        { leewaySeconds := leewaySeconds, understoodExtensions := understood } = .error e →
      e.cls = .delegationError

/-- Moving the clock on the wall and moving along the time line come to the same for the windows of
    a chain. -/
def WindowsAgree (chain : DelegationChain) (now : AwareDatetime) (leeway : Int) : Prop :=
  InWindows chain (now.instantAfter (-leeway)) (now.instantAfter leeway) ↔
    InWindows chain (now.instant - leeway) (now.instant + leeway)

/-- The clock is as far from UTC at both edges as it is now. -/
def SteadyOver (now : AwareDatetime) (leeway : Int) : Prop :=
  now.offsetAfter (-leeway) = now.utcoffset ∧ now.offsetAfter leeway = now.utcoffset

/-- On a steady clock they do. -/
theorem windowsAgree_of_steady {chain : DelegationChain} {now : AwareDatetime} {leeway : Int}
    (h : SteadyOver now leeway) : WindowsAgree chain now leeway := by
  rw [WindowsAgree, AwareDatetime.instantAfter_of_steady h.1,
    AwareDatetime.instantAfter_of_steady h.2, sub_eq_add_neg]

/-- **WHEN THE VERDICT IS THE VALIDITY.**  In any zone the call decides validity exactly if the chain
    fails for another reason than its windows, or the windows come out the same on the wall clock as
    on the time line; and so it does wherever the zone keeps its offset over the leeway. -/
theorem chain_verify_verdict_iff (H : Host) (chain : DelegationChain) (hne : chain.links ≠ [])
    (agent : PyStr) (now : AwareDatetime) (leewaySeconds : ℚ) (hleeway : 0 ≤ leewaySeconds)
    (hearly : ∃ d, now.sub (timedelta leewaySeconds) = .ok d)
    (hlate : ∃ d, now.add (timedelta leewaySeconds) = .ok d)
    (revoked revokedKeys : Finset PyStr) (understood : List PyStr) :
    (DecidesValidity H chain agent now leewaySeconds revoked revokedKeys understood ↔
        (ChainSound H revoked revokedKeys understood chain agent →
          WindowsAgree chain now (timedelta leewaySeconds))) ∧
      (SteadyOver now (timedelta leewaySeconds) →
        DecidesValidity H chain agent now leewaySeconds revoked revokedKeys understood) := by
  obtain ⟨early, hsub⟩ := hearly
  obtain ⟨late, hadd⟩ := hlate
  have hverdict : ∀ scopes, chain.verify H agent now revoked revokedKeys
        { leewaySeconds := leewaySeconds, understoodExtensions := understood } = .ok scopes ↔
      ChainValid H (now.instantAfter (-timedelta leewaySeconds))
          (now.instantAfter (timedelta leewaySeconds)) revoked revokedKeys understood chain agent ∧
        IsEffective chain scopes := by
    intro scopes
    rw [← AwareDatetime.sub_instant hsub, ← AwareDatetime.add_instant hadd]
    exact verify_ok_iff_valid hne hleeway hsub hadd
  have hopts : WindowChecked now
      { leewaySeconds := leewaySeconds, understoodExtensions := understood } :=
    fun _ => ⟨hleeway, ⟨early, hsub⟩, late, hadd⟩
  have hraises : ∀ e, chain.verify H agent now revoked revokedKeys
        { leewaySeconds := leewaySeconds, understoodExtensions := understood } = .error e →
      e.cls = .delegationError :=
    fun e h => DelegationChain.verify_error hopts h
  have hiff : DecidesValidity H chain agent now leewaySeconds revoked revokedKeys understood ↔
      (ChainSound H revoked revokedKeys understood chain agent →
        WindowsAgree chain now (timedelta leewaySeconds)) := by
    constructor
    · intro hdecides hsound
      -- the links have an intersection, which tells the two verdicts apart if the windows differ
      obtain ⟨scopes, heff⟩ : ∃ scopes, IsEffective chain scopes := by
        obtain ⟨scopes, hall⟩ := exists_narrowAll hne
        exact ⟨scopes, fun s => (mem_narrowAll hall).trans (by simp)⟩
      have hsame := (hverdict scopes).symm.trans (hdecides.returns scopes)
      constructor
      · intro hcode
        exact (hsame.mp ⟨⟨hsound, hcode⟩, heff⟩).1.inWindows
      · intro hline
        exact (hsame.mpr ⟨⟨hsound, hline⟩, heff⟩).1.inWindows
    · intro h
      refine ⟨fun scopes => (hverdict scopes).trans (and_congr_left fun _ => ?_), hraises⟩
      constructor
      · rintro ⟨hsound, hwindows⟩
        exact ⟨hsound, (h hsound).mp hwindows⟩
      · rintro ⟨hsound, hwindows⟩
        exact ⟨hsound, (h hsound).mpr hwindows⟩
  exact ⟨hiff, fun hsteady => hiff.mpr fun _ => windowsAgree_of_steady hsteady⟩

section Samples

/-- A plain grant with other scopes. -/
def scopedGrant (issuer subject : UInt8) (scopes : Finset PyStr) : Delegation :=
  { plainGrant issuer subject with scopes := scopes }

theorem scopedGrant_signed (issuer subject : UInt8) {scopes : Finset PyStr}
    (hscopes : ∀ s ∈ scopes, IsAscii s) :
    (scopedGrant issuer subject scopes).Signed (idealHost fun _ _ => true) :=
  verifyByAddress_idealHost (signingKey_constAddress issuer) (by decide)
    (asciiJson_grantMembers issuer subject hscopes .obj_nil) fun _ _ => rfl

theorem linkSound_scopedGrant (issuer subject : UInt8) {scopes : Finset PyStr}
    (hscopes : ∀ s ∈ scopes, IsAscii s) :
    LinkSound (idealHost fun _ _ => true) ∅ ∅ [] (scopedGrant issuer subject scopes) :=
  ⟨scopedGrant_signed issuer subject hscopes, fun _ hname => absurd hname List.not_mem_nil,
    fun _ _ => Finset.notMem_empty _, Finset.notMem_empty _, Finset.notMem_empty _⟩

/-- Key 1 grants two scopes to key 2, which passes one of them on to key 3 with one of its own. -/
def twoLinks : DelegationChain :=
  ⟨[scopedGrant 1 2 {py "read", py "write"}, scopedGrant 2 3 {py "audit", py "read"}]⟩

theorem isAscii_twoLinks : (∀ s ∈ ({py "read", py "write"} : Finset PyStr), IsAscii s) ∧
    ∀ s ∈ ({py "audit", py "read"} : Finset PyStr), IsAscii s := by decide

theorem isEffective_twoLinks : IsEffective twoLinks {py "read"} := by
  intro s
  constructor
  · intro hs link hlink
    rw [Finset.mem_singleton.mp hs]
    rcases List.mem_pair.mp hlink with rfl | rfl
    · exact Finset.mem_insert_self _ _
    · exact Finset.mem_insert_of_mem (Finset.mem_singleton_self _)
  · intro h
    have hroot : s ∈ ({py "read", py "write"} : Finset PyStr) := h _ List.mem_cons_self
    have hlast : s ∈ ({py "audit", py "read"} : Finset PyStr) :=
      h _ (List.mem_cons_of_mem _ List.mem_cons_self)
    have hboth := Finset.mem_inter.mpr ⟨hroot, hlast⟩
    rwa [show ({py "read", py "write"} ∩ {py "audit", py "read"} : Finset PyStr) = {py "read"} by
      decide] at hboth

/-- The first second of year 1 by a clock in summer time. -/
def summerNow : AwareDatetime := ⟨7201000000, false, autumnZone 99999999999, by decide, by decide⟩

/-- Within a minute of `summerNow` the chain confers the scope both links carry. -/
theorem chain_verify_verdict_iff_two_links :
    twoLinks.verify (idealHost fun _ _ => true) (constAddress 3) summerNow ∅ ∅
      { leewaySeconds := 60, understoodExtensions := [] } = .ok {py "read"} := by
  have hleeway : timedelta 60 = 60000000 := timedelta_intCast 60
  have hsteady : SteadyOver summerNow (timedelta 60) := by
    rw [hleeway]
    exact ⟨by decide, by decide⟩
  have hdecides := (chain_verify_verdict_iff (idealHost fun _ _ => true) twoLinks
    (List.cons_ne_nil _ _) (constAddress 3) summerNow 60 (by norm_num)
    (by rw [hleeway]; exact ⟨_, rfl⟩) (by rw [hleeway]; exact ⟨_, rfl⟩) ∅ ∅ []).2 hsteady
  refine (hdecides.returns {py "read"}).mpr ⟨⟨⟨?_, ?_, ?_⟩, ?_⟩, ?_⟩
  · intro link hlink
    rcases List.mem_pair.mp hlink with rfl | rfl
    · exact linkSound_scopedGrant 1 2 isAscii_twoLinks.1
    · exact linkSound_scopedGrant 2 3 isAscii_twoLinks.2
  · intro i h
    have hi : i = 0 := by
      have hlength : i + 1 < 2 := h
      omega
    subst hi
    rfl
  · rintro last ⟨⟩
    rfl
  · intro link hlink
    rw [hleeway]
    rcases List.mem_pair.mp hlink with rfl | rfl
    · exact ⟨by decide, by decide⟩
    · exact ⟨by decide, by decide⟩
  · exact isEffective_twoLinks

/-- A grant for the hour before 2026-10-25T01:00:00Z. -/
def octoberGrant : Delegation :=
  { plainGrant 1 2 with issuedAt := ⟨63928483200000, by decide⟩
                        expiresAt := ⟨63928486800000, by decide⟩ }

/-- Half past two on that morning, for the second time: half an hour past the expiry. -/
def halfPastTwo : AwareDatetime :=
  ⟨63928492200000000, true, autumnZone 63928494000000000, by decide, by decide⟩

theorem octoberGrant_sound :
    ChainSound (idealHost fun _ _ => true) ∅ ∅ [] ⟨[octoberGrant]⟩ (constAddress 2) := by
  refine ⟨fun link hlink => ?_, fun i h => ?_, ?_⟩
  · have hsigned : octoberGrant.Signed (idealHost fun _ _ => true) :=
      verifyByAddress_idealHost (signingKey_constAddress 1) (by decide)
        (asciiJson_grantMembers 1 2 isAscii_plainScopes .obj_nil) fun _ _ => rfl
    rw [List.mem_singleton.mp hlink]
    exact ⟨hsigned, fun _ hname => absurd hname List.not_mem_nil,
      fun _ _ => Finset.notMem_empty _, Finset.notMem_empty _, Finset.notMem_empty _⟩
  · have hlength : i + 1 < 1 := h
    omega
  · rintro last ⟨⟩
    rfl

/-- THE HOUR THAT COMES TWICE: with no leeway at all, the grant is accepted after it has expired. -/
theorem expired_grant_accepted :
    octoberGrant.expiresAt.us < halfPastTwo.instant ∧
      (∃ d, halfPastTwo.sub (timedelta 0) = .ok d) ∧ (∃ d, halfPastTwo.add (timedelta 0) = .ok d) ∧
      (DelegationChain.mk [octoberGrant]).verify (idealHost fun _ _ => true) (constAddress 2)
        halfPastTwo ∅ ∅ { leewaySeconds := 0, understoodExtensions := [] } = .ok {py "read"} ∧
      ¬ DecidesValidity (idealHost fun _ _ => true) ⟨[octoberGrant]⟩ (constAddress 2) halfPastTwo 0
        ∅ ∅ [] := by
  have hexpired : octoberGrant.expiresAt.us < halfPastTwo.instant := by decide
  obtain ⟨early, hearly⟩ : ∃ d, halfPastTwo.sub (timedelta 0) = .ok d := by
    rw [timedelta_zero]
    exact ⟨_, rfl⟩
  obtain ⟨late, hlate⟩ : ∃ d, halfPastTwo.add (timedelta 0) = .ok d := by
    rw [timedelta_zero]
    exact ⟨_, rfl⟩
  have hverify : (DelegationChain.mk [octoberGrant]).verify (idealHost fun _ _ => true)
      (constAddress 2) halfPastTwo ∅ ∅ { leewaySeconds := 0, understoodExtensions := [] }
        = .ok {py "read"} := by
    refine (verify_ok_iff_valid (List.cons_ne_nil _ _) le_rfl hearly hlate).mpr
      ⟨⟨octoberGrant_sound, fun link hlink => ?_⟩, fun s => ?_⟩
    · rw [List.mem_singleton.mp hlink]
      show octoberGrant.InWindowBetween early.instant late.instant
      rw [AwareDatetime.sub_instant hearly, AwareDatetime.add_instant hlate, timedelta_zero]
      exact ⟨by decide, by decide⟩
    · exact ⟨fun hs link hlink => List.mem_singleton.mp hlink ▸ hs,
        fun h => h _ List.mem_cons_self⟩
  refine ⟨hexpired, ⟨early, hearly⟩, ⟨late, hlate⟩, hverify, fun hdecides => ?_⟩
  have hwindow := ((hdecides.returns _).mp hverify).1.inWindows _ (List.mem_singleton_self _)
  have hbefore := hwindow.1
  rw [timedelta_zero] at hbefore
  omega

end Samples

end AgentChainVerdict
