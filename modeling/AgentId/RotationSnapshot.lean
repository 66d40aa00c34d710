import Mathlib.Data.Prod.Lex
import AgentId.RotationGossip

/-!
# Snapshots of the rotation registry (`rotation.py`)

`restore` merges a snapshot into the three maps of a registry, each with code of its own: the
state further along is kept, duplicity is added, and the snapshot's fingerprints are written
over those recorded before, with no comparison.

* **`restore_seen`**, **`restore_state`**, **`restore_duplicity`** — each map after a restore,
  key by key.
* **`restored_as_learned_iff`** — restoring is learning exactly where the two registries recorded
  the same fingerprints.
* **`restore_forgets_conflict`** — a restore that drops the evidence of a leaked key.
-/

namespace AgentRotationSnapshot

open AgentPy AgentJson AgentCanonicalText AgentSigning AgentSerde AgentRotation AgentRotationText
  AgentPrefixLog AgentRotationRegistry AgentRotationGossip

/-! ## `snapshot` and `restore` -/

/-- `SNAPSHOT_VERSION` -/
def snapshotVersion : ℕ := 2

/-- One value of `states`, which is keyed by identity. -/
structure StateRecord where
  currentAddress : PyStr
  nextCommitment : PyStr
  sequence : ℕ

/-- One entry of `seen`. -/
structure SeenRecord where
  identity : PyStr
  sequence : ℕ
  fingerprint : PyStr

structure Snapshot where
  version : ℕ
  states : List (Σ _ : PyStr, StateRecord)
  seen : List SeenRecord
  duplicity : List PyStr

def StateRecord.ofState (st : RotationState) : StateRecord :=
  ⟨st.currentAddress, st.nextCommitment, st.sequence⟩

/-- The order of `sorted(self._seen.items())`: no two entries share a key. -/
def seenLe (a b : Σ _ : PyStr × ℕ, PyStr) : Prop := toLex a.1 ≤ toLex b.1

instance seenLeDecidable : DecidableRel seenLe := fun a b =>
  inferInstanceAs (Decidable (toLex a.1 ≤ toLex b.1))

/-- `RotationRegistry.snapshot` -/
def snapshot (reg : RotationRegistry) : Snapshot where
  version := snapshotVersion
  states := reg.states.entries.map fun e => ⟨e.1, .ofState e.2⟩
  seen := (reg.seen.entries.insertionSort seenLe).map fun e => ⟨e.1.1, e.1.2, e.2⟩
  duplicity := reg.duplicity.keys.insertionSort (· ≤ ·)

/-- The state `restore` builds for an identity. -/
def StateRecord.toState (identity : PyStr) (raw : StateRecord) : RotationState :=
  ⟨identity, raw.currentAddress, raw.nextCommitment, raw.sequence⟩

/-- One turn of the loop over `states`. -/
def restoreState (states : AList fun _ : PyStr => RotationState) (identity : PyStr)
    (raw : StateRecord) : AList fun _ : PyStr => RotationState :=
  let state := raw.toState identity
  match states.lookup identity with
  | none => states.insert identity state
  | some known => if known.sequence < state.sequence then states.insert identity state else states

/-- `self._duplicity.setdefault(identity, [])` -/
def setDuplicity (duplicity : AList fun _ : PyStr => List Evidence) (identity : PyStr) :
    AList fun _ : PyStr => List Evidence :=
  match duplicity.lookup identity with
  | none => duplicity.insert identity []
  | some _ => duplicity

/-- `RotationRegistry.restore` -/
def restore (reg : RotationRegistry) (snap : Snapshot) : RotationRegistry where
  states := snap.states.foldl (fun states e => restoreState states e.1 e.2) reg.states
  seen :=
    -- an older snapshot holds addresses where fingerprints now go: its history is discarded
    if snapshotVersion ≤ snap.version then
      snap.seen.foldl (fun seen e => seen.insert (e.identity, e.sequence) e.fingerprint) reg.seen
    else reg.seen
  duplicity := snap.duplicity.foldl setDuplicity reg.duplicity

/-! ## The maps after a restore -/

section Maps

variable {κ ν β : Type} [DecidableEq κ]

/-- Updating one key after another, each once, is one update at each key. -/
theorem lookup_foldl (put : AList (fun _ : κ => ν) → κ → β → AList fun _ : κ => ν)
    (update : Option ν → κ → β → Option ν)
    (hself : ∀ m k b, (put m k b).lookup k = update (m.lookup k) k b)
    (hother : ∀ m k b k', k' ≠ k → (put m k b).lookup k' = m.lookup k')
    {l : List (Σ _ : κ, β)} (hl : l.NodupKeys) (m : AList fun _ : κ => ν) (k : κ) :
    (l.foldl (fun m e => put m e.1 e.2) m).lookup k
      = match l.dlookup k with
        | none => m.lookup k
        | some b => update (m.lookup k) k b := by
  induction l generalizing m with
  | nil => rfl
  | cons e l ih =>
      obtain ⟨k', b⟩ := e
      obtain ⟨hfresh, hrest⟩ := List.nodupKeys_cons.mp hl
      rw [List.foldl_cons, ih hrest]
      by_cases hk : k = k'
      · subst hk
        rw [List.dlookup_eq_none.mpr hfresh, List.dlookup_cons_eq]
        exact hself m k b
      · rw [List.dlookup_cons_ne _ _ hk, hother m k' b k hk]

omit [DecidableEq κ] in
theorem nodupKeys_map {ν' : Type} (f : ν → ν') {l : List (Σ _ : κ, ν)} (hl : l.NodupKeys) :
    (l.map fun e => (⟨e.1, f e.2⟩ : Σ _ : κ, ν')).NodupKeys := by
  rw [List.NodupKeys, List.keys, List.map_map]
  exact hl

theorem dlookup_map {ν' : Type} (f : ν → ν') (l : List (Σ _ : κ, ν)) (k : κ) :
    (l.map fun e => (⟨e.1, f e.2⟩ : Σ _ : κ, ν')).dlookup k = (l.dlookup k).map f := by
  induction l with
  | nil => rfl
  | cons e l ih =>
      obtain ⟨k', v⟩ := e
      by_cases hk : k = k'
      · subst hk
        rw [List.map_cons, List.dlookup_cons_eq, List.dlookup_cons_eq]
        rfl
      · rw [List.map_cons, List.dlookup_cons_ne _ _ hk, ih, List.dlookup_cons_ne _ _ hk]

end Maps

/-- **FINGERPRINTS**: the snapshot's are written over the registry's. -/
theorem restore_seen (reg reg' : RotationRegistry) (k : PyStr × ℕ) :
    (restore reg (snapshot reg')).seen.lookup k
      = (reg'.seen.lookup k).or (reg.seen.lookup k) := by
  have hperm := List.perm_insertionSort seenLe reg'.seen.entries
  have hnodup : (reg'.seen.entries.insertionSort seenLe).NodupKeys :=
    (List.perm_nodupKeys hperm).mpr reg'.seen.nodupKeys
  have hfold := lookup_foldl (fun m k (b : PyStr) => m.insert k b) (fun _ _ b => some b)
    (fun m k b => AList.lookup_insert m) (fun m k b k' hk => AList.lookup_insert_ne hk)
    hnodup reg.seen k
  show (List.foldl _ reg.seen (List.map _ _)).lookup k = _
  rw [List.foldl_map]
  refine hfold.trans ?_
  rw [List.perm_dlookup k hnodup hperm]
  show _ = (List.dlookup k reg'.seen.entries).or _
  cases List.dlookup k reg'.seen.entries with
  | none => rfl
  | some fingerprint => rfl

/-- What one entry of `states` leaves under its identity. -/
def keepFurther (known : Option RotationState) (identity : PyStr) (raw : StateRecord) :
    Option RotationState :=
  match known with
  | none => some (raw.toState identity)
  | some known =>
      if known.sequence < (raw.toState identity).sequence then some (raw.toState identity)
      else some known

theorem keepFurther_ne_none (known : Option RotationState) (identity : PyStr)
    (raw : StateRecord) : keepFurther known identity raw ≠ none := by
  cases known with
  | none => exact Option.some_ne_none _
  | some known =>
      rw [keepFurther]
      split_ifs
      · exact Option.some_ne_none _
      · exact Option.some_ne_none _

theorem lookup_restoreState (states : AList fun _ : PyStr => RotationState) (identity : PyStr)
    (raw : StateRecord) : (restoreState states identity raw).lookup identity
      = keepFurther (states.lookup identity) identity raw := by
  cases hknown : states.lookup identity with
  | none =>
      rw [restoreState, hknown]
      exact AList.lookup_insert _
  | some known =>
      rw [restoreState, hknown]
      show AList.lookup identity (if known.sequence < (raw.toState identity).sequence then
        states.insert identity (raw.toState identity) else states) =
          if known.sequence < (raw.toState identity).sequence then some (raw.toState identity)
          else some known
      by_cases hlt : known.sequence < (raw.toState identity).sequence
      · rw [if_pos hlt, if_pos hlt]
        exact AList.lookup_insert _
      · rw [if_neg hlt, if_neg hlt]
        exact hknown

theorem lookup_restoreState_ne (states : AList fun _ : PyStr => RotationState)
    (identity : PyStr) (raw : StateRecord) (x : PyStr) (hx : x ≠ identity) :
    (restoreState states identity raw).lookup x = states.lookup x := by
  rw [restoreState]
  cases states.lookup identity with
  | none => exact AList.lookup_insert_ne hx
  | some known =>
      show AList.lookup x (if known.sequence < (raw.toState identity).sequence then
        states.insert identity (raw.toState identity) else states) = states.lookup x
      by_cases hlt : known.sequence < (raw.toState identity).sequence
      · rw [if_pos hlt]
        exact AList.lookup_insert_ne hx
      · rw [if_neg hlt]

/-- **STATES**: the one further along is kept. -/
theorem restore_state (reg reg' : RotationRegistry) (x : PyStr) :
    (restore reg (snapshot reg')).state x =
      match reg'.state x with
      | none => reg.state x
      | some st => keepFurther (reg.state x) x (.ofState st) := by
  refine (lookup_foldl restoreState keepFurther lookup_restoreState lookup_restoreState_ne
    (nodupKeys_map StateRecord.ofState reg'.states.nodupKeys) reg.states x).trans ?_
  rw [dlookup_map]
  show _ = match List.dlookup x reg'.states.entries with | none => _ | some st => _
  cases List.dlookup x reg'.states.entries with
  | none => rfl
  | some st => rfl

theorem lookup_setDuplicity (duplicity : AList fun _ : PyStr => List Evidence)
    (identity x : PyStr) : ((setDuplicity duplicity identity).lookup x).isSome = true ↔
      x = identity ∨ (duplicity.lookup x).isSome = true := by
  rw [setDuplicity]
  by_cases hx : x = identity
  · subst hx
    cases hd : duplicity.lookup x with
    | none => simp
    | some evidence => simp [hd]
  · cases duplicity.lookup identity with
    | none => simp [AList.lookup_insert_ne hx, hx]
    | some evidence => simp [hx]

/-- **DUPLICITY** is added, and only that of the snapshot. -/
theorem restore_duplicity (reg reg' : RotationRegistry) (x : PyStr) :
    (restore reg (snapshot reg')).isDuplicitous x = true ↔
      reg.isDuplicitous x = true ∨ reg'.isDuplicitous x = true := by
  have hfold : ∀ (l : List PyStr) (m : AList fun _ : PyStr => List Evidence),
      ((l.foldl setDuplicity m).lookup x).isSome = true ↔
        (m.lookup x).isSome = true ∨ x ∈ l := by
    intro l
    induction l with
    | nil => simp
    | cons y l ih =>
        intro m
        rw [List.foldl_cons, ih, lookup_setDuplicity, List.mem_cons]
        exact ⟨fun h => h.elim (fun h => h.elim (fun h => Or.inr (Or.inl h)) Or.inl)
          fun h => Or.inr (Or.inr h), fun h => h.elim (fun h => Or.inl (Or.inr h))
          fun h => h.elim (fun h => Or.inl (Or.inl h)) Or.inr⟩
  refine (hfold _ _).trans (or_congr_right ?_)
  show x ∈ reg'.duplicity.keys.insertionSort (· ≤ ·) ↔ _
  rw [(List.perm_insertionSort _ _).mem_iff, RotationRegistry.isDuplicitous, AList.lookup_isSome]
  exact Iff.rfl

/-! ## Restoring against learning -/

variable {H : Host}

/-- A state put back under its own identity is the state. -/
theorem toState_ofState {st : RotationState} {x : PyStr} (hx : st.identity = x) :
    (StateRecord.ofState st).toState x = st := by
  subst hx
  rfl

theorem identity_of_tracks {reg : RotationRegistry} {x : PyStr} {v : View PyStr}
    (h : Tracks H reg x v) {st : RotationState} (hst : reg.state x = some st) :
    st.identity = x ∧ v.log.length = st.sequence + 1 := by
  obtain ⟨c, hcx, hc, hf⟩ := h.known st hst
  exact ⟨(resolve_identity hc).trans hcx, fingerprints_length hc hf⟩

/-- **RESTORING IS MERGING** where the logs are compatible. -/
theorem tracks_restore {reg reg' : RotationRegistry} {x : PyStr} {v v' : View PyStr}
    (h : Tracks H reg x v) (h' : Tracks H reg' x v') (hc : Compatible v.log v'.log) :
    Tracks H (restore reg (snapshot reg')) x (v.merge v') := by
  refine ⟨fun i => ?_, ?_, ?_, ?_⟩
  · rw [restore_seen, h.seen, h'.seen, getElem?_or_of_compatible hc]
    rfl
  · rw [restore_duplicity, h.duplicity, h'.duplicity]
    exact Iff.rfl
  · intro st hst
    show ∃ c : RotationChain, c.identity = x ∧ c.resolve H = .ok st ∧
      c.fingerprints H = .ok (if v.log.length < v'.log.length then v'.log else v.log)
    rw [restore_state] at hst
    cases hother : reg'.state x with
    | none =>
        rw [hother] at hst
        rw [h'.unknown hother, List.length_nil, if_neg (Nat.not_lt_zero _)]
        exact h.known st hst
    | some other =>
        obtain ⟨hid, hlen'⟩ := identity_of_tracks h' hother
        rw [hother] at hst
        simp only [keepFurther, toState_ofState hid] at hst
        cases hknown : reg.state x with
        | none =>
            rw [hknown] at hst
            cases hst
            rw [h.unknown hknown, if_pos (by rw [hlen']; exact Nat.succ_pos _)]
            exact h'.known _ hother
        | some known =>
            obtain ⟨-, hlen⟩ := identity_of_tracks h hknown
            rw [hknown] at hst
            -- the state further along is the one with the longer log
            by_cases hlt : known.sequence < other.sequence
            · simp only [hlt, if_true] at hst
              cases hst
              rw [if_pos (by omega)]
              exact h'.known _ hother
            · simp only [hlt, if_false] at hst
              cases hst
              rw [if_neg (by omega)]
              exact h.known _ hknown
  · intro hst
    rw [restore_state] at hst
    cases hother : reg'.state x with
    | none =>
        rw [hother] at hst
        show (if v.log.length < v'.log.length then v'.log else v.log) = []
        rw [h'.unknown hother, List.length_nil, if_neg (Nat.not_lt_zero _), h.unknown hst]
    | some other =>
        rw [hother] at hst
        exact absurd hst (keepFurther_ne_none _ _ _)

/-- The two registries recorded the same fingerprint for `x` wherever both recorded one. -/
def SameRecord (reg reg' : RotationRegistry) (x : PyStr) : Prop :=
  ∀ (sequence : ℕ) (fp fp' : PyStr), reg.seen.lookup (x, sequence) = some fp →
    reg'.seen.lookup (x, sequence) = some fp' → fp = fp'

/-- What holds of `x` when `restored` came of restoring a snapshot into `reg`, and `learned`
    learned the same chains: the same answers, and no fingerprint of `reg` lost. -/
def RestoredAsLearned (reg restored learned : RotationRegistry) (x : PyStr) : Prop :=
  restored.isDuplicitous x = learned.isDuplicitous x ∧ restored.resolve x = learned.resolve x ∧
    ∀ (sequence : ℕ) (fp : PyStr), reg.seen.lookup (x, sequence) = some fp →
      restored.seen.lookup (x, sequence) = some fp

theorem sameRecord_iff {reg reg' : RotationRegistry} {x : PyStr} {v v' : View PyStr}
    (h : Tracks H reg x v) (h' : Tracks H reg' x v') :
    SameRecord reg reg' x ↔ Compatible v.log v'.log := by
  rw [compatible_iff, SameRecord]
  simp only [h.seen, h'.seen]

/-- Whatever is not overwritten is kept, so nothing is lost exactly where the records agree. -/
theorem seen_kept_iff (reg reg' : RotationRegistry) (x : PyStr) :
    (∀ (sequence : ℕ) (fp : PyStr), reg.seen.lookup (x, sequence) = some fp →
        (restore reg (snapshot reg')).seen.lookup (x, sequence) = some fp) ↔
      SameRecord reg reg' x := by
  simp only [restore_seen]
  constructor
  · intro h sequence fp fp' hfp hfp'
    have hkept := h sequence fp hfp
    rw [hfp', Option.some_or, Option.some_inj] at hkept
    exact hkept.symm
  · intro h sequence fp hfp
    cases hfp' : reg'.seen.lookup (x, sequence) with
    | none => rw [Option.none_or, hfp]
    | some fp' => rw [Option.some_or, h sequence fp fp' hfp hfp']

theorem resolve_of_isDuplicitous {reg reg' : RotationRegistry} {x : PyStr}
    (h : reg.isDuplicitous x = true) (h' : reg'.isDuplicitous x = true) :
    reg.resolve x = reg'.resolve x := by
  rw [RotationRegistry.resolve, RotationRegistry.resolve, if_pos h, if_pos h']

/-- **RESTORING AS LEARNING**: for every two runs of `learn`, restoring a snapshot of the second
    registry into the first answers as a registry that learned both runs, and keeps every
    fingerprint, exactly when the two registries recorded no contradicting fingerprints. -/
theorem restored_as_learned_iff (H : Host) (N : NfcLaws H.nfc) (C : CollisionFree H)
    (first second : List RotationChain) (x : PyStr) :
    RestoredAsLearned (RotationRegistry.learnAll H {} first)
        (restore (RotationRegistry.learnAll H {} first)
          (snapshot (RotationRegistry.learnAll H {} second)))
        (RotationRegistry.learnAll H {} (first ++ second)) x ↔
      SameRecord (RotationRegistry.learnAll H {} first)
        (RotationRegistry.learnAll H {} second) x := by
  have h := learnAll_tracks H x first
  have h' := learnAll_tracks H x second
  have hall := learnAll_tracks H x (first ++ second)
  rw [List.filterMap_append] at hall
  refine ⟨fun hsame => (seen_kept_iff _ _ _).mp hsame.2.2, fun hsame => ?_⟩
  have hcompat := (sameRecord_iff h h').mp hsame
  have hrestored := tracks_restore h h' hcompat
  have hdup : (restore (RotationRegistry.learnAll H {} first)
      (snapshot (RotationRegistry.learnAll H {} second))).isDuplicitous x
        = (RotationRegistry.learnAll H {} (first ++ second)).isDuplicitous x := by
    rw [Bool.eq_iff_iff, hrestored.duplicity, hall.duplicity, View.forked_learnAll_append]
    exact ⟨fun hf => hf.imp_right Or.inl,
      fun hf => hf.imp_right fun hf => hf.resolve_right (not_not.mpr hcompat)⟩
  refine ⟨hdup, ?_, (seen_kept_iff _ _ _).mpr hsame⟩
  cases hd : (RotationRegistry.learnAll H {} (first ++ second)).isDuplicitous x with
  | true => exact resolve_of_isDuplicitous (hdup.trans hd) hd
  | false =>
      have hnot : ¬ (View.learnAll (first.filterMap (history H x)
          ++ second.filterMap (history H x))).forked := by
        rw [← hall.duplicity, hd]
        exact Bool.false_ne_true
      obtain ⟨address, ha, ha'⟩ := resolve_of_log N C hrestored hall
        (View.log_learnAll_append hnot).symm (hdup.trans hd) hd
      rw [ha, ha']

/-! ### A key that signed two inceptions -/

/-- Each registry saw one of the two inceptions of key 1. -/
def sawOne (next : UInt8) : RotationRegistry :=
  RotationRegistry.learnAll openHost {} [inceptionOnly next]

/-- A registry that learned one chain knows its fingerprints. -/
theorem tracks_learned {chain : RotationChain} {st : RotationState} {fps : List PyStr}
    (h : chain.resolve H = .ok st) (hf : chain.fingerprints H = .ok fps) :
    Tracks H (RotationRegistry.learnAll H {} [chain]) chain.identity ⟨fps, False⟩ := by
  have hview : View.learnAll ([chain].filterMap (history H chain.identity)) = ⟨fps, False⟩ := by
    have hne : 0 < fps.length := by
      rw [fingerprints_length h hf]
      exact Nat.succ_pos _
    have hfirst : View.learn {} fps = ⟨if 0 < fps.length then fps else [], False⟩ :=
      View.learn_of_compatible (Or.inl List.nil_prefix)
    rw [List.filterMap_cons, history_eq_some_iff.mpr ⟨rfl, ⟨st, h⟩, hf⟩, List.filterMap_nil]
    show View.learn {} fps = _
    rw [hfirst, if_pos hne]
  rw [← hview]
  exact learnAll_tracks H chain.identity [chain]

theorem tracks_sawOne (next : UInt8) : ∃ fp,
    inceptionIdentity openHost (plainInception 1 next) = .ok fp ∧
      Tracks openHost (sawOne next) (constAddress 1) ⟨[fp], False⟩ := by
  obtain ⟨fp, hfp, hf⟩ := fingerprints_inceptionOnly next
  exact ⟨fp, hfp, tracks_learned (resolve_inceptionOnly next) hf⟩

/-- One registry saw the inception of key 1, the other its first rotation too: restoring one into
    the other answers as learning both chains. -/
theorem restored_as_learned_iff_branch :
    RestoredAsLearned (sawOne 2)
      (restore (sawOne 2) (snapshot (RotationRegistry.learnAll openHost {} [firstBranch])))
      (RotationRegistry.learnAll openHost {} ([inceptionOnly 2] ++ [firstBranch]))
      (constAddress 1) := by
  obtain ⟨fp, hfp, h⟩ := tracks_sawOne 2
  obtain ⟨_, fps, hsteps⟩ := stepsOf_resolve resolve_firstBranch
  obtain ⟨⟨first, hfirst, h0⟩, -⟩ := fingerprints_getElem? hsteps.fingerprints_ok
  have hbranch := tracks_learned resolve_firstBranch hsteps.fingerprints_ok
  have hsame : first = fp := Except.ok.inj (hfirst.symm.trans hfp)
  refine (restored_as_learned_iff openHost (idealHost_nfcLaws _) (idealHost_collisionFree _)
    [inceptionOnly 2] [firstBranch] (constAddress 1)).mpr ((sameRecord_iff h hbranch).mpr ?_)
  refine compatible_iff.mpr fun i a b ha hb => ?_
  cases i with
  | succ i => exact nomatch ha
  | zero =>
      cases ha
      exact hsame.symm.trans (Option.some.inj (h0.symm.trans hb))

/-- THE CONFLICT IS FORGOTTEN: between them the two registries saw both inceptions, the restored
    one reports no duplicity and resolves key 1's identity, and the fingerprint of the inception
    it learned is gone. -/
theorem restore_forgets_conflict :
    (RotationRegistry.learnAll openHost {} ([inceptionOnly 2] ++ [inceptionOnly 3])).isDuplicitous
        (constAddress 1) = true ∧
      (restore (sawOne 2) (snapshot (sawOne 3))).isDuplicitous (constAddress 1) = false ∧
      (∃ address, (restore (sawOne 2) (snapshot (sawOne 3))).resolve (constAddress 1)
        = .ok address) ∧
      ∃ fp fp', (sawOne 2).seen.lookup (constAddress 1, 0) = some fp ∧
        (restore (sawOne 2) (snapshot (sawOne 3))).seen.lookup (constAddress 1, 0) = some fp' ∧
        fp ≠ fp' := by
  obtain ⟨fp, hfp, h⟩ := tracks_sawOne 2
  obtain ⟨fp', hfp', h'⟩ := tracks_sawOne 3
  have hdup : (restore (sawOne 2) (snapshot (sawOne 3))).isDuplicitous (constAddress 1) = false := by
    rw [Bool.eq_false_iff, Ne, restore_duplicity, h.duplicity, h'.duplicity]
    exact fun hor => hor.elim id id
  refine ⟨isDuplicitous_conflicted, hdup, ?_, fp, fp', h.seen 0, ?_,
    inceptionIdentity_ne (by decide) hfp hfp'⟩
  · rw [RotationRegistry.resolve, hdup]
    cases (restore (sawOne 2) (snapshot (sawOne 3))).state (constAddress 1) with
    | none => exact ⟨_, rfl⟩
    | some st => exact ⟨_, rfl⟩
  · rw [restore_seen, h'.seen 0]
    rfl

end AgentRotationSnapshot
