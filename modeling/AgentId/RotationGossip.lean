import AgentId.RotationRegistry

/-!
# What a registry concludes from what it is shown

Histories arrive in any order, with forks among them.  A registry's answers depend on the set
of histories alone (**`learn_order_irrelevant`**).  Its record of duplicity, though, is not
consulted by `learn`: **`frozen_iff_refused`** says exactly which later chains leave a
compromised identity where it stands, and **`compromised_advances`** shows one that does not.
-/

namespace AgentRotationGossip

open AgentPy AgentJson AgentCanonicalText AgentSigning AgentSerde AgentRotation AgentRotationText
  AgentPrefixLog AgentRotationRegistry

variable {H : Host}

/-! ## Equal fingerprints, equal histories -/

theorem fingerprints_getElem? {chain : RotationChain} {fps : List PyStr}
    (h : chain.fingerprints H = .ok fps) :
    (∃ fp, inceptionIdentity H chain.inception = .ok fp ∧ fps[0]? = some fp) ∧
      ∀ (i : ℕ) (r : KeyRotation), chain.rotations[i]? = some r →
        ∃ fp, rotationIdentity H r = .ok fp ∧ fps[i + 1]? = some fp := by
  obtain ⟨first, hfirst, h⟩ := bind_ok_iff.mp h
  obtain ⟨rest, hrest, h⟩ := bind_ok_iff.mp h
  cases h
  exact ⟨⟨first, hfirst, rfl⟩, fun i r hr => getElem?_of_mapM_ok hrest hr⟩

theorem sameBytes_of_rotationIdentity (C : CollisionFree H) {r s : KeyRotation} {fp : PyStr}
    (hr : rotationIdentity H r = .ok fp) (hs : rotationIdentity H s = .ok fp) :
    SameBytes H contextKeyRotation r.payload s.payload := by
  obtain ⟨message, hm, hfp⟩ := rotationIdentity_ok_iff.mp hr
  obtain ⟨message', hm', hfp'⟩ := rotationIdentity_ok_iff.mp hs
  have heq : message = message' := C (hexdigest_inj (hfp.symm.trans hfp'))
  subst heq
  exact ⟨message, hm, hm'⟩

theorem sameBytes_of_inceptionIdentity (C : CollisionFree H) {i j : Inception} {fp : PyStr}
    (hi : inceptionIdentity H i = .ok fp) (hj : inceptionIdentity H j = .ok fp) :
    SameBytes H contextInception i.payload j.payload := by
  obtain ⟨message, hm, hfp⟩ := inceptionIdentity_ok_iff.mp hi
  obtain ⟨message', hm', hfp'⟩ := inceptionIdentity_ok_iff.mp hj
  have heq : message = message' := C (hexdigest_inj (hfp.symm.trans hfp'))
  subst heq
  exact ⟨message, hm, hm'⟩

/-- In a chain that resolves, rotation `k` meets the state at `k` and leads to the next. -/
theorem stepOk_stateAt {chain : RotationChain} {st : RotationState}
    (h : chain.resolve H = .ok st) {k : ℕ} (hk : k < chain.rotations.length) :
    StepOk H (chain.stateAt k) chain.rotations[k] ∧
      chain.stateAt (k + 1) = (chain.stateAt k).advance chain.rotations[k] := by
  obtain ⟨-, hacc, -⟩ := resolve_ok_iff.mp h
  exact ⟨stepOk_getElem hacc k hk, after_take_succ _ hk⟩

/-- Two records of one identity with equal fingerprints at `k` put the same key in force, and
    leave the same commitment when one of the two is hexadecimal. -/
theorem stateAt_of_fingerprint (N : NfcLaws H.nfc) (C : CollisionFree H) {c d : RotationChain}
    {st st' : RotationState} (hid : c.identity = d.identity) (hc : c.resolve H = .ok st)
    (hd : d.resolve H = .ok st') {fps fps' : List PyStr} (hf : c.fingerprints H = .ok fps)
    (hf' : d.fingerprints H = .ok fps') {k : ℕ} (hk : k ≤ c.rotations.length)
    (hk' : k ≤ d.rotations.length) (hfp : fps[k]? = fps'[k]?) :
    (c.stateAt k).currentAddress = (d.stateAt k).currentAddress ∧
      (IsHex (d.stateAt k).nextCommitment →
        (c.stateAt k).nextCommitment = (d.stateAt k).nextCommitment) := by
  obtain ⟨⟨fp, hfirst, h0⟩, hrest⟩ := fingerprints_getElem? hf
  obtain ⟨⟨fp', hfirst', h0'⟩, hrest'⟩ := fingerprints_getElem? hf'
  cases k with
  | zero =>
      rw [h0, h0', Option.some_inj] at hfp
      subst hfp
      exact ⟨hid, fun hhex =>
        inception_of_bytes N (sameBytes_of_inceptionIdentity C hfirst hfirst') hid hhex⟩
  | succ k =>
      obtain ⟨hstep, hnext⟩ := stepOk_stateAt hc hk
      obtain ⟨hstep', hnext'⟩ := stepOk_stateAt hd hk'
      obtain ⟨fpk, hr, hfpk⟩ := hrest k _ (List.getElem?_eq_getElem hk)
      obtain ⟨fpk', hr', hfpk'⟩ := hrest' k _ (List.getElem?_eq_getElem hk')
      -- equal fingerprints are equal signing bytes
      rw [hfpk, hfpk', Option.some_inj] at hfp
      subst hfp
      have hbytes := sameBytes_of_rotationIdentity C hr hr'
      have hident : (c.rotations[k]).identity = (d.rotations[k]).identity := by
        rw [hstep.identity, hstep'.identity, RotationChain.stateAt, RotationChain.stateAt,
          after_identity, after_identity]
        exact hid
      have hplain := isPlain_of_commitment hstep.reveals
      have hplain' := isPlain_of_commitment hstep'.reveals
      rw [hnext, hnext']
      exact ⟨nextAddress_of_bytes N hbytes hident hplain hplain', fun hhex =>
        (rotation_of_bytes N hbytes hident hplain hplain' hhex (isPlain_previous hstep.verified)
          (isPlain_previous hstep'.verified)).2.1⟩

theorem resolve_eq_stateAt {chain : RotationChain} {st : RotationState}
    (h : chain.resolve H = .ok st) : st = chain.stateAt chain.rotations.length := by
  rw [stateAt_length]
  exact (resolve_ok_iff.mp h).2.2

/-! ## The order of arrival -/

/-- Both calls return the same address, or both raise `RotationError`. -/
def SameOutcome (a b : Py PyStr) : Prop :=
  (∃ address, a = .ok address ∧ b = .ok address) ∨
    ∃ e e', a = .error e ∧ b = .error e' ∧ e.cls = .rotationError ∧ e'.cls = .rotationError

/-- Two chains that resolve for `x` carry different fingerprints at a common sequence. -/
def Contradict (H : Host) (x : PyStr) (c d : RotationChain) : Prop :=
  (c.identity = x ∧ ∃ st, c.resolve H = .ok st) ∧ (d.identity = x ∧ ∃ st, d.resolve H = .ok st) ∧
    ∃ fps fps', c.fingerprints H = .ok fps ∧ d.fingerprints H = .ok fps' ∧
      ∃ (sequence : ℕ) (fp fp' : PyStr), fps[sequence]? = some fp ∧ fps'[sequence]? = some fp' ∧
        fp ≠ fp'

/-- Incompatible histories come from chains that contradict each other. -/
theorem contradict_iff {x : PyStr} {chains : List RotationChain} :
    (∃ a ∈ chains.filterMap (history H x), ∃ b ∈ chains.filterMap (history H x),
        ¬ Compatible a b) ↔
      ∃ c ∈ chains, ∃ d ∈ chains, Contradict H x c d := by
  constructor
  · rintro ⟨a, ha, b, hb, hab⟩
    obtain ⟨c, hc, hca⟩ := List.mem_filterMap.mp ha
    obtain ⟨d, hd, hdb⟩ := List.mem_filterMap.mp hb
    obtain ⟨hcx, hcr, hcf⟩ := history_eq_some_iff.mp hca
    obtain ⟨hdx, hdr, hdf⟩ := history_eq_some_iff.mp hdb
    rw [compatible_iff] at hab
    push Not at hab
    obtain ⟨i, fp, fp', hfp, hfp', hne⟩ := hab
    exact ⟨c, hc, d, hd, ⟨hcx, hcr⟩, ⟨hdx, hdr⟩, a, b, hcf, hdf, i, fp, fp', hfp, hfp', hne⟩
  · rintro ⟨c, hc, d, hd, ⟨hcx, hcr⟩, ⟨hdx, hdr⟩, fps, fps', hcf, hdf, i, fp, fp', hfp, hfp', hne⟩
    refine ⟨fps, List.mem_filterMap.mpr ⟨c, hc, history_eq_some_iff.mpr ⟨hcx, hcr, hcf⟩⟩, fps',
      List.mem_filterMap.mpr ⟨d, hd, history_eq_some_iff.mpr ⟨hdx, hdr, hdf⟩⟩, fun hcompat => ?_⟩
    exact hne (compatible_iff.mp hcompat i fp fp' hfp hfp')

/-- A registry that is not duplicitous resolves by its log: registries with the same log give the
    same address. -/
theorem resolve_of_log (N : NfcLaws H.nfc) (C : CollisionFree H) {reg reg' : RotationRegistry}
    {x : PyStr} {v v' : View PyStr} (h : Tracks H reg x v) (h' : Tracks H reg' x v')
    (hlog : v.log = v'.log) (hdup : reg.isDuplicitous x = false)
    (hdup' : reg'.isDuplicitous x = false) :
    ∃ address, reg.resolve x = .ok address ∧ reg'.resolve x = .ok address := by
  have hne : ∀ {c : RotationChain} {st : RotationState}, c.resolve H = .ok st →
      c.fingerprints H ≠ .ok [] := by
    intro c st hc hf
    have := fingerprints_length hc hf
    exact absurd this (by simp)
  rw [RotationRegistry.resolve, RotationRegistry.resolve, hdup, hdup']
  simp only [Bool.false_eq_true, if_false]
  cases hst : reg.state x with
  | none =>
      cases hst' : reg'.state x with
      | none => exact ⟨x, rfl, rfl⟩
      | some st' =>
          obtain ⟨c, -, hc, hf⟩ := h'.known st' hst'
          rw [← hlog, h.unknown hst] at hf
          exact absurd hf (hne hc)
  | some st =>
      obtain ⟨c, hcx, hc, hf⟩ := h.known st hst
      cases hst' : reg'.state x with
      | none =>
          rw [hlog, h'.unknown hst'] at hf
          exact absurd hf (hne hc)
      | some st' =>
          obtain ⟨d, hdx, hd, hf'⟩ := h'.known st' hst'
          rw [← hlog] at hf'
          -- one log gives both chains one length, and its last fingerprint one address
          have hlen : c.rotations.length = d.rotations.length := by
            have h1 := fingerprints_length hc hf
            have h2 := fingerprints_length hd hf'
            rw [resolve_sequence hc] at h1
            rw [resolve_sequence hd] at h2
            omega
          have haddr := (stateAt_of_fingerprint N C (hcx.trans hdx.symm) hc hd hf hf' le_rfl
            hlen.le rfl).1
          refine ⟨st.currentAddress, rfl, ?_⟩
          rw [resolve_eq_stateAt hc, haddr, hlen, ← resolve_eq_stateAt hd]

theorem resolve_of_duplicitous {reg : RotationRegistry} {x : PyStr}
    (h : reg.isDuplicitous x = true) : ∃ e, reg.resolve x = .error e ∧ e.cls = .rotationError :=
  ⟨_, by rw [RotationRegistry.resolve, if_pos h, raise], rfl⟩

/-- **THE ORDER OF ARRIVAL DOES NOT MATTER**, and duplicity is exactly a contradiction among the
    chains that resolve. -/
theorem learn_order_irrelevant (H : Host) (N : NfcLaws H.nfc) (C : CollisionFree H)
    (chains chains' : List RotationChain) (hperm : chains.Perm chains') (x : PyStr) :
    (RotationRegistry.learnAll H {} chains).isDuplicitous x
        = (RotationRegistry.learnAll H {} chains').isDuplicitous x ∧
      SameOutcome ((RotationRegistry.learnAll H {} chains).resolve x)
        ((RotationRegistry.learnAll H {} chains').resolve x) ∧
      ((RotationRegistry.learnAll H {} chains).isDuplicitous x = true ↔
        ∃ c ∈ chains, ∃ d ∈ chains, Contradict H x c d) := by
  have h := learnAll_tracks H x chains
  have h' := learnAll_tracks H x chains'
  have hp : (chains.filterMap (history H x)).Perm (chains'.filterMap (history H x)) :=
    hperm.filterMap _
  have hdup : (RotationRegistry.learnAll H {} chains).isDuplicitous x
      = (RotationRegistry.learnAll H {} chains').isDuplicitous x := by
    rw [Bool.eq_iff_iff, h.duplicity, h'.duplicity]
    exact View.forked_learnAll_perm hp
  refine ⟨hdup, ?_, ?_⟩
  · cases hd : (RotationRegistry.learnAll H {} chains).isDuplicitous x with
    | true =>
        rw [hd] at hdup
        obtain ⟨e, he, hcls⟩ := resolve_of_duplicitous hd
        obtain ⟨e', he', hcls'⟩ := resolve_of_duplicitous hdup.symm
        exact Or.inr ⟨e, e', he, he', hcls, hcls'⟩
    | false =>
        -- without a fork both registries hold the longest history
        have hnot : ¬ (View.learnAll (chains.filterMap (history H x))).forked := by
          rw [← h.duplicity, hd]
          exact Bool.false_ne_true
        rw [hd] at hdup
        exact Or.inl (resolve_of_log N C h h' (View.log_learnAll_perm hp hnot) hd hdup.symm)
  · rw [h.duplicity, View.forked_learnAll_iff, contradict_iff]

/-- Two inceptions of key 1, committing to keys 2 and 3. -/
def inceptionOnly (next : UInt8) : RotationChain := ⟨plainInception 1 next, []⟩

/-- Two inceptions of one key prove duplicity in either order of arrival. -/
theorem learn_order_irrelevant_inceptions :
    (RotationRegistry.learnAll (idealHost fun _ _ => true) {}
        [inceptionOnly 2, inceptionOnly 3]).isDuplicitous (constAddress 1)
      = (RotationRegistry.learnAll (idealHost fun _ _ => true) {}
          [inceptionOnly 3, inceptionOnly 2]).isDuplicitous (constAddress 1) :=
  (learn_order_irrelevant (idealHost fun _ _ => true) (idealHost_nfcLaws _)
    (idealHost_collisionFree _) [inceptionOnly 2, inceptionOnly 3]
    [inceptionOnly 3, inceptionOnly 2] (List.Perm.swap _ _ _) (constAddress 1)).1

/-! ## After a conflict -/

/-- The chain fails to resolve with `RotationError`, or contradicts a recorded fingerprint. -/
def Refused (H : Host) (reg : RotationRegistry) (chain : RotationChain) : Prop :=
  (∃ e, chain.resolve H = .error e ∧ e.cls = .rotationError) ∨
    ∃ st fps, chain.resolve H = .ok st ∧ chain.fingerprints H = .ok fps ∧
      ∃ (sequence : ℕ) (fp established : PyStr), fps[sequence]? = some fp ∧
        reg.seen.lookup (chain.identity, sequence) = some established ∧ established ≠ fp

theorem findConflict_eq_some_iff {seen : AList fun _ : PyStr × ℕ => PyStr} {identity : PyStr}
    {chain : RotationChain} {steps : List LearnStep} {fps : List PyStr}
    (hsteps : StepsOf H chain steps fps) :
    (∃ s, findConflict seen identity steps = some s) ↔
      ∃ (sequence : ℕ) (fp established : PyStr), fps[sequence]? = some fp ∧
        seen.lookup (identity, sequence) = some established ∧ established ≠ fp := by
  rw [← Option.ne_none_iff_exists', Ne, findConflict_eq_none_iff]
  push Not
  constructor
  · rintro ⟨s, hs, established, hlookup, hne⟩
    obtain ⟨i, hi⟩ := List.getElem?_of_mem hs
    obtain ⟨hseq, hprint⟩ := hsteps.getElem?_sequence hi
    exact ⟨i, s.fingerprint, established, hprint, hseq ▸ hlookup, hne⟩
  · rintro ⟨i, fp, established, hfp, hlookup, hne⟩
    rw [← hsteps.map_fingerprint, List.getElem?_map, Option.map_eq_some_iff] at hfp
    obtain ⟨s, hs, rfl⟩ := hfp
    obtain ⟨hseq, -⟩ := hsteps.getElem?_sequence hs
    exact ⟨s, List.mem_of_getElem? hs, established, by rw [hseq]; exact hlookup, hne⟩

theorem adopt_ok (reg : RotationRegistry) (st : RotationState) (steps : List LearnStep) :
    ∃ st', (reg.adopt st steps).1 = .ok st' := by
  simp only [RotationRegistry.adopt]
  cases reg.states.lookup st.identity with
  | none => exact ⟨st, rfl⟩
  | some known =>
      by_cases hlt : known.sequence < st.sequence
      · exact ⟨st, by simp [hlt]⟩
      · exact ⟨known, by simp [hlt]⟩

/-- **ONE CALL**: `learn` raises `RotationError` exactly on a refused chain, and then changes
    neither the states nor the fingerprints. -/
theorem learn_refused_iff (reg : RotationRegistry) (chain : RotationChain) :
    (∃ e, (reg.learn H chain).1 = .error e ∧ e.cls = .rotationError) ↔ Refused H reg chain := by
  rcases learn_cases H reg chain with ⟨e, hresolve, hlearn⟩ |
    ⟨st, steps, fps, conflict, e, hresolve, hsteps, hconflict, hcls, hlearn⟩ |
    ⟨st, steps, fps, hresolve, hsteps, hconflict, hlearn⟩
  · rw [hlearn]
    constructor
    · rintro ⟨e', he', hcls⟩
      cases he'
      exact Or.inl ⟨e, hresolve, hcls⟩
    · rintro (⟨e', he', hcls⟩ | ⟨st, fps, hst, -⟩)
      · rw [hresolve] at he'
        cases he'
        exact ⟨e, rfl, hcls⟩
      · rw [hresolve] at hst
        exact nomatch hst
  · rw [hlearn]
    refine ⟨fun _ => Or.inr ⟨st, fps, hresolve, hsteps.fingerprints_ok, ?_⟩, fun _ => ⟨e, rfl, hcls⟩⟩
    exact (findConflict_eq_some_iff hsteps).mp ⟨conflict, hconflict⟩
  · obtain ⟨st', hst'⟩ := adopt_ok reg st steps
    rw [hlearn, hst']
    constructor
    · rintro ⟨e, he, -⟩
      exact nomatch he
    · rintro (⟨e, he, -⟩ | ⟨st'', fps', -, hfps', hcontra⟩)
      · rw [hresolve] at he
        exact nomatch he
      · rw [hsteps.fingerprints_ok] at hfps'
        cases hfps'
        obtain ⟨s, hs⟩ := (findConflict_eq_some_iff hsteps).mpr hcontra
        rw [hconflict] at hs
        exact nomatch hs

/-- A call that raises leaves states and fingerprints as they were. -/
theorem learn_error_unchanged {reg : RotationRegistry} {chain : RotationChain} {e : PyError}
    (h : (reg.learn H chain).1 = .error e) :
    (reg.learn H chain).2.states = reg.states ∧ (reg.learn H chain).2.seen = reg.seen := by
  rcases learn_cases H reg chain with ⟨e', -, hlearn⟩ | ⟨_, _, _, _, _, -, -, -, -, hlearn⟩ |
    ⟨st, steps, _, -, -, -, hlearn⟩
  · rw [hlearn]
    exact ⟨rfl, rfl⟩
  · rw [hlearn]
    exact ⟨rfl, rfl⟩
  · obtain ⟨st', hst'⟩ := adopt_ok reg st steps
    rw [hlearn, hst'] at h
    exact nomatch h

/-- A call on another identity leaves this one's state and fingerprints as they were. -/
theorem learn_other {reg : RotationRegistry} {chain : RotationChain} {x : PyStr}
    (hx : chain.identity ≠ x) :
    (reg.learn H chain).2.state x = reg.state x ∧
      ∀ i, (reg.learn H chain).2.seen.lookup (x, i) = reg.seen.lookup (x, i) := by
  rcases learn_cases H reg chain with ⟨e', -, hlearn⟩ | ⟨_, _, _, _, _, -, -, -, -, hlearn⟩ |
    ⟨st, steps, _, hresolve, -, -, hlearn⟩
  · rw [hlearn]
    exact ⟨rfl, fun _ => rfl⟩
  · rw [hlearn]
    exact ⟨rfl, fun _ => rfl⟩
  · have hne : x ≠ st.identity := fun he => hx (he.trans (resolve_identity hresolve)).symm
    rw [hlearn, (adopt_seen reg st steps).1]
    exact ⟨adopt_state_ne hne, fun i => lookup_recordSteps_ne hne i⟩

/-- In every call of the run on a chain of `x`, `learn` raises `RotationError`; no call changes
    the state of `x`. -/
def Frozen (H : Host) (x : PyStr) : RotationRegistry → List RotationChain → Prop
  | _, [] => True
  | reg, chain :: later =>
      (chain.identity = x → ∃ e, (reg.learn H chain).1 = .error e ∧ e.cls = .rotationError) ∧
        (reg.learn H chain).2.state x = reg.state x ∧ Frozen H x (reg.learn H chain).2 later

/-- Refusal depends on the fingerprints recorded for the chain's identity only. -/
theorem refused_congr {reg reg' : RotationRegistry} {chain : RotationChain}
    (h : ∀ i, reg'.seen.lookup (chain.identity, i) = reg.seen.lookup (chain.identity, i)) :
    Refused H reg' chain ↔ Refused H reg chain := by
  simp only [Refused]
  simp only [h]

theorem frozen_iff (x : PyStr) (reg : RotationRegistry) (later : List RotationChain) :
    Frozen H x reg later ↔ ∀ chain ∈ later, chain.identity = x → Refused H reg chain := by
  induction later generalizing reg with
  | nil => exact ⟨fun _ c hc => absurd hc List.not_mem_nil, fun _ => trivial⟩
  | cons chain later ih =>
      rw [Frozen, ih, List.forall_mem_cons, learn_refused_iff]
      have hrest : (chain.identity = x → Refused H reg chain) →
          (reg.learn H chain).2.state x = reg.state x ∧
            ∀ i, (reg.learn H chain).2.seen.lookup (x, i) = reg.seen.lookup (x, i) := by
        intro hrefused
        by_cases hx : chain.identity = x
        · obtain ⟨e, he, -⟩ := (learn_refused_iff reg chain).mpr (hrefused hx)
          obtain ⟨hstates, hseen⟩ := learn_error_unchanged he
          exact ⟨by rw [RotationRegistry.state, hstates]; rfl, fun i => by rw [hseen]⟩
        · exact learn_other hx
      constructor
      · rintro ⟨hrefused, -, hlater⟩
        obtain ⟨-, hseen⟩ := hrest hrefused
        refine ⟨hrefused, fun c hc hcx => ?_⟩
        -- no call of the run records a fingerprint for `x`, so refusal stays what it was
        exact (refused_congr fun i => by rw [hcx]; exact hseen i).mp (hlater c hc hcx)
      · rintro ⟨hrefused, hlater⟩
        obtain ⟨hstate, hseen⟩ := hrest hrefused
        refine ⟨hrefused, hstate, fun c hc hcx => ?_⟩
        exact (refused_congr fun i => by rw [hcx]; exact hseen i).mpr (hlater c hc hcx)

/-- **WHEN AN IDENTITY STAYS PUT**, found compromised or not: exactly when each later chain of it
    fails to resolve with `RotationError` or contradicts a fingerprint recorded before. -/
theorem frozen_iff_refused (H : Host) (before : List RotationChain) (x : PyStr)
    (later : List RotationChain) :
    Frozen H x (RotationRegistry.learnAll H {} before) later ↔
      ∀ chain ∈ later, chain.identity = x →
        Refused H (RotationRegistry.learnAll H {} before) chain :=
  frozen_iff x _ later

/-! ### A conflict, and a chain that extends the branch seen first -/

/-- Everyone signs anything here, so every record below verifies. -/
def openHost : Host := idealHost fun _ _ => true

/-- The branch seen first, one rotation on. -/
def firstBranch : RotationChain := ⟨plainInception 1 2, [plainRotation 1 0 1 2 4]⟩

theorem resolve_inceptionOnly (next : UInt8) : (inceptionOnly next).resolve openHost
    = .ok ⟨constAddress 1, constAddress 1, plainCommitment next, 0⟩ :=
  plainInception_resolve (plainInception_verified fun _ _ => rfl)

theorem resolve_firstBranch : firstBranch.resolve openHost
    = .ok ⟨constAddress 1, constAddress 2, plainCommitment 4, 1⟩ :=
  plainRotation_resolve (plainInception_verified fun _ _ => rfl)
    (plainRotation_verified fun _ _ => rfl)

/-- Inceptions that commit to different keys have different fingerprints. -/
theorem inceptionIdentity_ne {a b : UInt8} (hab : a ≠ b) {fp fp' : PyStr}
    (h : inceptionIdentity openHost (plainInception 1 a) = .ok fp)
    (h' : inceptionIdentity openHost (plainInception 1 b) = .ok fp') : fp ≠ fp' := by
  rintro rfl
  have hbytes := sameBytes_of_inceptionIdentity (idealHost_collisionFree _) h h'
  exact hab (plainCommitment_inj
    (inception_of_bytes (idealHost_nfcLaws _) hbytes rfl (isHex_hexdigest _)))

/-- The registry that saw both inceptions, key 2's first. -/
def conflicted : RotationRegistry :=
  RotationRegistry.learnAll openHost {} [inceptionOnly 2, inceptionOnly 3]

theorem fingerprints_inceptionOnly (next : UInt8) : ∃ fp,
    inceptionIdentity openHost (plainInception 1 next) = .ok fp ∧
      (inceptionOnly next).fingerprints openHost = .ok [fp] := by
  obtain ⟨fp, hfp⟩ : ∃ fp, inceptionIdentity openHost (plainInception 1 next) = .ok fp :=
    Inception.Verified.fingerprint (plainInception_verified fun _ _ => rfl)
  refine ⟨fp, hfp, ?_⟩
  rw [RotationChain.fingerprints, inceptionOnly, hfp]
  rfl

theorem history_inceptionOnly {next : UInt8} {fp : PyStr}
    (h : (inceptionOnly next).fingerprints openHost = .ok [fp]) :
    history openHost (constAddress 1) (inceptionOnly next) = some [fp] :=
  history_eq_some_iff.mpr ⟨rfl, ⟨_, resolve_inceptionOnly next⟩, h⟩

/-- What the conflicted registry knows: the first inception, and that another contradicted it. -/
theorem tracks_conflicted : ∃ fp fp', inceptionIdentity openHost (plainInception 1 2) = .ok fp ∧
    inceptionIdentity openHost (plainInception 1 3) = .ok fp' ∧
    Tracks openHost conflicted (constAddress 1) ⟨[fp], True⟩ := by
  obtain ⟨fp, hfp, hf⟩ := fingerprints_inceptionOnly 2
  obtain ⟨fp', hfp', hf'⟩ := fingerprints_inceptionOnly 3
  refine ⟨fp, fp', hfp, hfp', ?_⟩
  have hview : View.learnAll ([inceptionOnly 2, inceptionOnly 3].filterMap
      (history openHost (constAddress 1))) = ⟨[fp], True⟩ := by
    have hclash : ¬ Compatible [fp] [fp'] := fun hc =>
      inceptionIdentity_ne (by decide) hfp hfp' (compatible_iff.mp hc 0 fp fp' rfl rfl)
    rw [List.filterMap_cons, history_inceptionOnly hf, List.filterMap_cons,
      history_inceptionOnly hf', List.filterMap_nil]
    have hfirst : View.learn {} [fp] = ⟨[fp], False⟩ :=
      View.learn_of_compatible (Or.inl List.nil_prefix)
    show View.learn (View.learn {} [fp]) [fp'] = _
    rw [hfirst]
    exact View.learn_of_not_compatible hclash
  rw [← hview]
  exact learnAll_tracks openHost (constAddress 1) _

theorem isDuplicitous_conflicted : conflicted.isDuplicitous (constAddress 1) = true := by
  obtain ⟨_, _, -, -, h⟩ := tracks_conflicted
  exact h.duplicity.mpr trivial

/-- The second inception again is refused, and key 1's compromised identity stays put. -/
theorem frozen_iff_refused_replay : conflicted.isDuplicitous (constAddress 1) = true ∧
    Frozen openHost (constAddress 1) conflicted [inceptionOnly 3] := by
  refine ⟨isDuplicitous_conflicted, ?_⟩
  obtain ⟨fp, fp', hfp, hfp', h⟩ := tracks_conflicted
  obtain ⟨fp'', hfp'', hf⟩ := fingerprints_inceptionOnly 3
  rw [hfp'] at hfp''
  cases hfp''
  refine (frozen_iff_refused openHost [inceptionOnly 2, inceptionOnly 3] (constAddress 1)
    [inceptionOnly 3]).mpr ?_
  intro chain hchain _
  rw [List.mem_singleton.mp hchain]
  exact Or.inr ⟨_, _, resolve_inceptionOnly 3, hf, 0, fp', fp, rfl, h.seen 0,
    inceptionIdentity_ne (by decide) hfp hfp'⟩

/-- THE COMPROMISED IDENTITY ADVANCES: extending the branch seen first raises nothing, and moves
    key 1's identity to key 2. -/
theorem compromised_advances :
    conflicted.isDuplicitous (constAddress 1) = true ∧
      (∃ st, (conflicted.learn openHost firstBranch).1 = .ok st) ∧
      (∃ st, conflicted.state (constAddress 1) = some st ∧ st.sequence = 0) ∧
      (conflicted.learn openHost firstBranch).2.state (constAddress 1)
        = some ⟨constAddress 1, constAddress 2, plainCommitment 4, 1⟩ := by
  obtain ⟨fp, _, hfp, -, h⟩ := tracks_conflicted
  obtain ⟨known, hknown, hzero⟩ : ∃ st, conflicted.state (constAddress 1) = some st ∧
      st.sequence = 0 := by
    cases hst : conflicted.state (constAddress 1) with
    | none => exact absurd (h.unknown hst) (List.cons_ne_nil _ _)
    | some st =>
        obtain ⟨c, -, hc, hf⟩ := h.known st hst
        have hlen : 1 = st.sequence + 1 := fingerprints_length hc hf
        exact ⟨st, rfl, by omega⟩
  refine ⟨isDuplicitous_conflicted, ?_⟩
  rcases learn_cases openHost conflicted firstBranch with ⟨e, hresolve, -⟩ |
    ⟨st, steps, fps, conflict, e, -, hsteps, hconflict, -, -⟩ |
    ⟨st, steps, fps, hresolve, hsteps, -, hlearn⟩
  · rw [resolve_firstBranch] at hresolve
    exact nomatch hresolve
  · -- the branch starts with the inception the registry knows
    obtain ⟨⟨first, hfirst, h0⟩, -⟩ := fingerprints_getElem? hsteps.fingerprints_ok
    have hsame : first = fp := Except.ok.inj (hfirst.symm.trans hfp)
    have hnone := (findConflict_eq_none_iff_compatible hsteps h.seen).mpr (by
      refine compatible_iff.mpr fun i a b ha hb => ?_
      cases i with
      | succ i => exact nomatch ha
      | zero =>
          cases ha
          rw [h0, hsame, Option.some_inj] at hb
          exact hb)
    exact absurd (hnone.symm.trans hconflict) (Option.some_ne_none _).symm
  · rw [resolve_firstBranch] at hresolve
    cases hresolve
    have hstate := @adopt_state conflicted ⟨constAddress 1, constAddress 2, plainCommitment 4, 1⟩
      steps (constAddress 1) rfl
    rw [hknown] at hstate
    simp only [hzero, Nat.zero_lt_one, if_true] at hstate
    rw [hlearn]
    exact ⟨adopt_ok _ _ _, ⟨known, hknown, hzero⟩, hstate⟩

end AgentRotationGossip
