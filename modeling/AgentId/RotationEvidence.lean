import AgentId.RotationRuns

/-!
# What duplicity evidence proves (`rotation.py`)

A registry keeps the record that made it refuse a chain.  That record is evidence against one key:
the history known before holds another record at the same sequence, and as all the records before
it are equal, one and the same key was in force for both.

* **`findConflict_first`** — a conflict is reported at the first sequence that differs.
* **`equivocates_of_conflict`** — the key in force there signed two different records.
* **`evidence_is_genuine`** — so it is with all the evidence, after any run.
-/

namespace AgentRotationEvidence

open AgentPy AgentBase58 AgentJson AgentCanonicalText AgentSigning AgentRotation AgentRotationText
  AgentPrefixLog AgentRotationRegistry AgentRotationGossip AgentRotationRuns

variable {H : Host}

/-! ## Signed records -/

/-- The address whose key signs the record. -/
def Evidence.signer : Evidence → PyStr
  | .inception i => i.address
  | .rotation r => r.previous

def Evidence.signature : Evidence → PyStr
  | .inception i => i.signature
  | .rotation r => r.signature

/-- The bytes under the signature. -/
def Evidence.message (H : Host) : Evidence → Py Bytes
  | .inception i => signingInput H contextInception i.payload
  | .rotation r => signingInput H contextKeyRotation r.payload

/-- The record of a chain at a sequence. -/
def recordAt (chain : RotationChain) : ℕ → Option Evidence
  | 0 => some (.inception chain.inception)
  | k + 1 => chain.rotations[k]?.map .rotation

/-- The key verifies the record's signature, over this message. -/
structure SignedBy (H : Host) (key : Bytes) (e : Evidence) (message : Bytes) : Prop where
  key_eq : signingKeyFromAddress (Evidence.signer e) = .ok key
  message_eq : Evidence.message H e = .ok message
  verifies : ∃ raw, decodeSignature (.str (Evidence.signature e)) = .ok raw ∧
    H.ed25519Verify key raw message = true

/-- One key verifies both records, over different messages. -/
def Equivocates (H : Host) (e e' : Evidence) : Prop :=
  ∃ key message message', SignedBy H key e message ∧ SignedBy H key e' message' ∧
    message ≠ message'

theorem signedBy_inception {i : Inception} (h : i.Verified H) :
    ∃ key message, SignedBy H key (.inception i) message := by
  obtain ⟨key, raw, message, hkey, hraw, hmessage, hverify⟩ := verifyByAddress_ok_iff.mp h
  exact ⟨key, message, hkey, hmessage, raw, hraw, hverify⟩

theorem signedBy_rotation {r : KeyRotation} (h : r.Verified H) :
    ∃ key message, SignedBy H key (.rotation r) message := by
  obtain ⟨key, raw, message, hkey, hraw, hmessage, hverify⟩ := verifyByAddress_ok_iff.mp h
  exact ⟨key, message, hkey, hmessage, raw, hraw, hverify⟩

/-- Every record of a chain that resolves is signed. -/
theorem signedBy_recordAt {chain : RotationChain} {st : RotationState}
    (h : chain.resolve H = .ok st) {k : ℕ} {e : Evidence} (he : recordAt chain k = some e) :
    ∃ key message, SignedBy H key e message := by
  cases k with
  | zero =>
      cases he
      exact signedBy_inception (resolve_ok_iff.mp h).1
  | succ k =>
      obtain ⟨r, hr, rfl⟩ := Option.map_eq_some_iff.mp he
      obtain ⟨hk, rfl⟩ := List.getElem?_eq_some_iff.mp hr
      exact signedBy_rotation (stepOk_stateAt h hk).1.verified

/-- The fingerprint of a record is the digest of the bytes it signs. -/
theorem fingerprint_recordAt {chain : RotationChain} {fps : List PyStr}
    (h : chain.fingerprints H = .ok fps) {k : ℕ} {e : Evidence} (he : recordAt chain k = some e) :
    ∃ message, Evidence.message H e = .ok message ∧
      fps[k]? = some (hexdigest (H.sha256 message)) := by
  obtain ⟨⟨fp, hfirst, hzero⟩, hrest⟩ := fingerprints_getElem? h
  cases k with
  | zero =>
      cases he
      obtain ⟨message, hmessage, rfl⟩ := inceptionIdentity_ok_iff.mp hfirst
      exact ⟨message, hmessage, hzero⟩
  | succ k =>
      obtain ⟨r, hr, rfl⟩ := Option.map_eq_some_iff.mp he
      obtain ⟨fp', hfp', hk⟩ := hrest k r hr
      obtain ⟨message, hmessage, rfl⟩ := rotationIdentity_ok_iff.mp hfp'
      exact ⟨message, hmessage, hk⟩

theorem recordAt_of_lt {chain : RotationChain} {st : RotationState} {fps : List PyStr}
    (h : chain.resolve H = .ok st) (hf : chain.fingerprints H = .ok fps) {k : ℕ} {fp : PyStr}
    (hk : fps[k]? = some fp) : k ≤ chain.rotations.length ∧ ∃ e, recordAt chain k = some e := by
  have hlt := (List.getElem?_eq_some_iff.mp hk).1
  rw [fingerprints_length h hf, resolve_sequence h] at hlt
  refine ⟨by omega, ?_⟩
  cases k with
  | zero => exact ⟨_, rfl⟩
  | succ k => exact ⟨_, by rw [recordAt, List.getElem?_eq_getElem (by omega), Option.map_some]⟩

/-! ## The first conflict -/

/-- **A CONFLICT IS REPORTED AT THE FIRST SEQUENCE THAT DIFFERS.** -/
theorem findConflict_first {seen : AList fun _ : PyStr × ℕ => PyStr} {identity : PyStr}
    {steps : List LearnStep} {conflict : LearnStep}
    (h : findConflict seen identity steps = some conflict) :
    ∃ before later, steps = before ++ conflict :: later ∧
      (∃ established, seen.lookup (identity, conflict.sequence) = some established ∧
        established ≠ conflict.fingerprint) ∧
      ∀ s ∈ before, ∀ established, seen.lookup (identity, s.sequence) = some established →
        established = s.fingerprint := by
  induction steps with
  | nil => cases h
  | cons s steps ih =>
      -- a step that contradicts nothing is passed over
      have hpass : findConflict seen identity steps = some conflict →
          (∀ established, seen.lookup (identity, s.sequence) = some established →
            established = s.fingerprint) →
          ∃ before later, s :: steps = before ++ conflict :: later ∧
            (∃ established, seen.lookup (identity, conflict.sequence) = some established ∧
              established ≠ conflict.fingerprint) ∧
            ∀ s' ∈ before, ∀ established,
              seen.lookup (identity, s'.sequence) = some established →
                established = s'.fingerprint := by
        intro hrest hs
        obtain ⟨before, later, hsplit, hconflict, hbefore⟩ := ih hrest
        refine ⟨s :: before, later, by rw [hsplit, List.cons_append], hconflict, ?_⟩
        exact List.forall_mem_cons.mpr ⟨hs, hbefore⟩
      rw [findConflict] at h
      cases hseen : seen.lookup (identity, s.sequence) with
      | none =>
          rw [hseen] at h
          exact hpass h fun established he => by rw [hseen] at he; cases he
      | some established =>
          simp only [hseen] at h
          by_cases hne : established ≠ s.fingerprint
          · rw [if_pos hne] at h
            cases h
            exact ⟨[], steps, rfl, ⟨established, hseen, hne⟩, fun _ hs => absurd hs List.not_mem_nil⟩
          · rw [if_neg hne] at h
            refine hpass h fun established' he => ?_
            rw [hseen, Option.some_inj] at he
            exact he ▸ not_not.mp hne

/-- The step at a position is the record of the chain there. -/
theorem recordAt_of_stepsOf {chain : RotationChain} {steps : List LearnStep} {fps : List PyStr}
    (h : StepsOf H chain steps fps) {k : ℕ} {s : LearnStep} (hs : steps[k]? = some s) :
    recordAt chain k = some s.record := by
  have hlt := (List.getElem?_eq_some_iff.mp hs).1
  rw [h.length_eq] at hlt
  obtain ⟨first, -, hok⟩ := bind_ok_iff.mp h.ok
  obtain ⟨rest, hrest, hok⟩ := bind_ok_iff.mp hok
  cases hok
  cases k with
  | zero =>
      cases hs
      rfl
  | succ k =>
      rw [List.getElem?_cons_succ] at hs
      have hk : chain.rotations[k]? = some (chain.rotations[k]) := List.getElem?_eq_getElem (by omega)
      obtain ⟨s', hstep, hs'⟩ := getElem?_of_mapM_ok hrest hk
      obtain ⟨fp, -, hfp⟩ := bind_ok_iff.mp hstep
      rw [hs, Option.some_inj] at hs'
      cases hfp
      rw [recordAt, hk, Option.map_some, hs']

/-- Where the histories agree before `k`, one address signs both records at `k`. -/
theorem signer_recordAt (N : NfcLaws H.nfc) (C : CollisionFree H) {c d : RotationChain}
    {st st' : RotationState} (hid : c.identity = d.identity) (hc : c.resolve H = .ok st)
    (hd : d.resolve H = .ok st') {fps fps' : List PyStr} (hf : c.fingerprints H = .ok fps)
    (hf' : d.fingerprints H = .ok fps') {k : ℕ} (hbefore : ∀ j < k, fps[j]? = fps'[j]?)
    {e e' : Evidence} (he : recordAt c k = some e) (he' : recordAt d k = some e') :
    Evidence.signer e = Evidence.signer e' := by
  cases k with
  | zero =>
      cases he
      cases he'
      exact hid
  | succ k =>
      obtain ⟨r, hr, rfl⟩ := Option.map_eq_some_iff.mp he
      obtain ⟨r', hr', rfl⟩ := Option.map_eq_some_iff.mp he'
      obtain ⟨hk, rfl⟩ := List.getElem?_eq_some_iff.mp hr
      obtain ⟨hk', rfl⟩ := List.getElem?_eq_some_iff.mp hr'
      -- equal records before put one key in force at `k`
      calc (c.rotations[k]).previous
        _ = (c.stateAt k).currentAddress := (stepOk_stateAt hc hk).1.previous
        _ = (d.stateAt k).currentAddress := (stateAt_of_fingerprint N C hid hc hd hf hf' hk.le hk'.le
              (hbefore k k.lt_succ_self)).1
        _ = (d.rotations[k]).previous := (stepOk_stateAt hd hk').1.previous.symm

/-- **THE KEY IN FORCE SIGNED TWICE**: the record that conflicts, and another of the history known
    before, at the same sequence. -/
theorem equivocates_of_conflict (N : NfcLaws H.nfc) (C : CollisionFree H) {c d : RotationChain}
    {st st' : RotationState} (hid : c.identity = d.identity) (hc : c.resolve H = .ok st)
    (hd : d.resolve H = .ok st') {steps : List LearnStep} {fps log : List PyStr}
    (hsteps : StepsOf H c steps fps) (hlog : d.fingerprints H = .ok log)
    {seen : AList fun _ : PyStr × ℕ => PyStr}
    (hseen : ∀ i, seen.lookup (c.identity, i) = log[i]?) {conflict : LearnStep}
    (h : findConflict seen c.identity steps = some conflict) :
    ∃ k e, recordAt c k = some conflict.record ∧ recordAt d k = some e ∧
      Equivocates H conflict.record e := by
  obtain ⟨before, later, hsplit, ⟨established, hestablished, hne⟩, hbefore⟩ := findConflict_first h
  have hat : steps[before.length]? = some conflict := by
    rw [hsplit, List.getElem?_append_right le_rfl, Nat.sub_self]
    rfl
  obtain ⟨hsequence, hfp⟩ := hsteps.getElem?_sequence hat
  have hc_record := recordAt_of_stepsOf hsteps hat
  rw [hseen, hsequence] at hestablished
  obtain ⟨-, e, he⟩ := recordAt_of_lt hd hlog hestablished
  refine ⟨before.length, e, hc_record, he, ?_⟩
  -- the log is longer than `before`, so it has an entry for each of its steps: the same one
  have hagree : ∀ j < before.length, fps[j]? = log[j]? := by
    intro j hj
    have hlt : j < log.length := hj.trans (List.getElem?_eq_some_iff.mp hestablished).1
    have hstep : steps[j]? = some before[j] := by
      rw [hsplit, List.getElem?_append_left hj, List.getElem?_eq_getElem hj]
    obtain ⟨hj_sequence, hj_fp⟩ := hsteps.getElem?_sequence hstep
    have hlookup : seen.lookup (c.identity, before[j].sequence) = some log[j] := by
      rw [hseen, hj_sequence, List.getElem?_eq_getElem hlt]
    rw [hj_fp, List.getElem?_eq_getElem hlt, hbefore _ (List.getElem_mem hj) _ hlookup]
  have hsigner := signer_recordAt N C hid hc hd hsteps.fingerprints_ok hlog hagree hc_record he
  obtain ⟨key, message, hkey⟩ := signedBy_recordAt hc hc_record
  obtain ⟨key', message', hkey'⟩ := signedBy_recordAt hd he
  have hkeys : key = key' := by
    have := hkey.key_eq
    rw [hsigner, hkey'.key_eq, Except.ok.injEq] at this
    exact this.symm
  subst hkeys
  refine ⟨key, message, message', hkey, hkey', ?_⟩
  rintro rfl
  -- one message has one digest
  obtain ⟨m, hm, hm_fp⟩ := fingerprint_recordAt hsteps.fingerprints_ok hc_record
  obtain ⟨m', hm', hm_fp'⟩ := fingerprint_recordAt hlog he
  rw [hkey.message_eq, Except.ok.injEq] at hm
  rw [hkey'.message_eq, Except.ok.injEq] at hm'
  subst hm
  subst hm'
  rw [hfp, Option.some_inj] at hm_fp
  rw [hestablished, Option.some_inj] at hm_fp'
  exact hne (hm_fp'.trans hm_fp.symm)

/-! ## Every run -/

/-- The record is held by a chain that was learned, and another such chain holds another record at
    the same sequence, signed by the same key. -/
def Proven (H : Host) (x : PyStr) (chains : List RotationChain) (e : Evidence) : Prop :=
  ∃ c ∈ chains, ∃ d ∈ chains, c.identity = x ∧ d.identity = x ∧
    ∃ k e', recordAt c k = some e ∧ recordAt d k = some e' ∧ Equivocates H e e'

theorem Proven.mono {x : PyStr} {chains chains' : List RotationChain} {e : Evidence}
    (h : Proven H x chains e) (hsub : chains ⊆ chains') : Proven H x chains' e := by
  obtain ⟨c, hc, d, hd, hrest⟩ := h
  exact ⟨c, hsub hc, d, hsub hd, hrest⟩

/-- What is kept as evidence against `x`, once each chain was learned. -/
structure Convicts (H : Host) (x : PyStr) (chains : List RotationChain)
    (reg : RotationRegistry) : Prop where
  nodup : (RotationRegistry.duplicityEvidence reg x).Nodup
  duplicitous : reg.isDuplicitous x = true ↔ RotationRegistry.duplicityEvidence reg x ≠ []
  proven : ∀ e ∈ RotationRegistry.duplicityEvidence reg x, Proven H x chains e

theorem convicts_empty (x : PyStr) : Convicts H x [] {} where
  nodup := List.nodup_nil
  duplicitous := by
    constructor
    · intro h
      cases h
    · intro h
      exact absurd rfl h
  proven _ he := absurd he List.not_mem_nil

theorem Convicts.mono {x : PyStr} {chains chains' : List RotationChain}
    {reg reg' : RotationRegistry} (h : Convicts H x chains reg) (hsub : chains ⊆ chains')
    (hdup : reg'.duplicity.lookup x = reg.duplicity.lookup x) : Convicts H x chains' reg' where
  nodup := by
    rw [RotationRegistry.duplicityEvidence, hdup]
    exact h.nodup
  duplicitous := by
    rw [RotationRegistry.isDuplicitous, RotationRegistry.duplicityEvidence, hdup]
    exact h.duplicitous
  proven e he := by
    rw [RotationRegistry.duplicityEvidence, hdup] at he
    exact (h.proven e he).mono hsub

theorem evidence_noteConflict (reg : RotationRegistry) (record : Evidence) (x y : PyStr) :
    RotationRegistry.duplicityEvidence (reg.noteConflict x record) y =
      if y = x then
        if record ∈ RotationRegistry.duplicityEvidence reg x then
          RotationRegistry.duplicityEvidence reg x
        else RotationRegistry.duplicityEvidence reg x ++ [record]
      else RotationRegistry.duplicityEvidence reg y := by
  rw [RotationRegistry.duplicityEvidence, RotationRegistry.noteConflict]
  by_cases hy : y = x
  · rw [if_pos hy, hy, AList.lookup_insert]
    rfl
  · rw [if_neg hy, AList.lookup_insert_ne hy]
    rfl

theorem Convicts.noteConflict {x : PyStr} {chains : List RotationChain} {reg : RotationRegistry}
    (h : Convicts H x chains reg) {record : Evidence} (hrecord : Proven H x chains record) :
    Convicts H x chains (reg.noteConflict x record) := by
  have hself := evidence_noteConflict reg record x x
  rw [if_pos rfl] at hself
  by_cases hmem : record ∈ RotationRegistry.duplicityEvidence reg x
  · rw [if_pos hmem] at hself
    refine ⟨hself ▸ h.nodup, ?_, hself ▸ h.proven⟩
    rw [isDuplicitous_noteConflict, hself]
    exact ⟨fun _ => List.ne_nil_of_mem hmem, fun _ => Or.inl rfl⟩
  · rw [if_neg hmem] at hself
    refine ⟨?_, ?_, ?_⟩
    · rw [hself, List.nodup_append]
      refine ⟨h.nodup, List.nodup_singleton _, ?_⟩
      rintro a ha b hb rfl
      exact hmem (List.mem_singleton.mp hb ▸ ha)
    · rw [isDuplicitous_noteConflict, hself]
      exact ⟨fun _ => List.append_ne_nil_of_right_ne_nil _ (List.cons_ne_nil _ _),
        fun _ => Or.inl rfl⟩
    · intro e he
      rw [hself] at he
      rcases List.mem_append.mp he with he | he
      · exact h.proven e he
      · exact List.mem_singleton.mp he ▸ hrecord

/-- The history known of `x` is that of a chain learned. -/
theorem exists_known (x : PyStr) {chains : List RotationChain}
    (h : (View.learnAll (chains.filterMap (history H x))).log ≠ []) :
    ∃ d ∈ chains, d.identity = x ∧ (∃ st, d.resolve H = .ok st) ∧
      d.fingerprints H = .ok (View.learnAll (chains.filterMap (history H x))).log := by
  rcases (View.learned_learnAll (chains.filterMap (history H x))).log_mem with hnil | hmem
  · exact absurd hnil h
  · obtain ⟨d, hd, hlog⟩ := List.mem_filterMap.mp hmem
    exact ⟨d, hd, history_eq_some_iff.mp hlog⟩

/-- **ALL EVIDENCE IS GENUINE.**  Whatever chains a registry is shown, in whatever order: an
    identity is duplicitous exactly when there is evidence against it, no record is kept twice, and
    with each record kept goes another, at the same sequence of a history the registry was shown,
    that the same key signed as well. -/
theorem evidence_is_genuine (H : Host) (N : NfcLaws H.nfc) (C : CollisionFree H)
    (chains : List RotationChain) (x : PyStr) :
    Convicts H x chains (RotationRegistry.learnAll H {} chains) := by
  induction chains using List.reverseRecOn with
  | nil => exact convicts_empty x
  | append_singleton chains chain ih =>
      have hsub : chains ⊆ chains ++ [chain] := List.subset_append_left _ _
      have hT := learnAll_tracks H chain.identity chains
      rw [RotationRegistry.learnAll, List.foldl_append, List.foldl_cons, List.foldl_nil]
      change Convicts H x (chains ++ [chain])
        ((RotationRegistry.learnAll H {} chains).learn H chain).2
      generalize RotationRegistry.learnAll H {} chains = reg at ih hT
      rcases learn_cases H reg chain with ⟨e, -, hlearn⟩ |
        ⟨st, steps, fps, conflict, e, hresolve, hsteps, hconflict, -, hlearn⟩ |
        ⟨st, steps, fps, -, -, -, hlearn⟩
      · rw [hlearn]
        exact ih.mono hsub rfl
      · rw [hlearn]
        by_cases hx : chain.identity = x
        · subst hx
          refine (ih.mono hsub rfl).noteConflict ?_
          -- a record that conflicts contradicts the history known before
          have hknown : (View.learnAll (chains.filterMap (history H chain.identity))).log ≠ [] := by
            intro hnil
            obtain ⟨_, _, -, ⟨established, hestablished, -⟩, -⟩ := findConflict_first hconflict
            rw [hT.seen, hnil] at hestablished
            cases hestablished
          obtain ⟨d, hd, hdx, ⟨st', hst'⟩, hlog⟩ := exists_known chain.identity hknown
          obtain ⟨k, e', hk, hk', hequivocates⟩ := equivocates_of_conflict N C hdx.symm hresolve
            hst' hsteps hlog hT.seen hconflict
          exact ⟨chain, List.mem_append_right _ (List.mem_singleton_self _), d, hsub hd, rfl, hdx,
            k, e', hk, hk', hequivocates⟩
        · refine ih.mono hsub ?_
          rw [RotationRegistry.noteConflict]
          exact AList.lookup_insert_ne fun he => hx he.symm
      · rw [hlearn]
        exact ih.mono hsub (by rw [(adopt_seen reg st steps).2])

/-- The registry that saw two inceptions of key 1 has evidence that it signed twice. -/
theorem evidence_is_genuine_inceptions :
    ∃ e e', e ∈ RotationRegistry.duplicityEvidence conflicted (constAddress 1) ∧
      Equivocates openHost e e' := by
  have h := evidence_is_genuine openHost (idealHost_nfcLaws _) (idealHost_collisionFree _)
    [inceptionOnly 2, inceptionOnly 3] (constAddress 1)
  obtain ⟨e, he⟩ := List.exists_mem_of_ne_nil _ (h.duplicitous.mp isDuplicitous_conflicted)
  obtain ⟨c, -, d, -, -, -, k, e', -, -, hequivocates⟩ := h.proven e he
  exact ⟨e, e', he, hequivocates⟩

end AgentRotationEvidence
