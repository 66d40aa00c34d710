import AgentId.HonestHistory

/-!
# Honest identities against thieves

Some keys of an honest history are stolen now.  As long as no two neighbours of the line are, and
the pre-committed key is not, a chain that stands on the line stays on it: at a stolen address it
stands under the honest commitment, and at any other an unstolen key signs the next step.

* **`onLine_step`** — one accepted rotation stays on the line.
* **`uptodate_not_diverted`** — with past and current keys stolen, a registry that has caught up
  is not diverted.
* **`current_key_theft_iff`** — with the current key stolen, a verifier with no prior knowledge
  is safe exactly when that key neither opened the history nor took over from itself;
  **`inception_hijacked`** is the theft at inception.
-/

namespace AgentKeyTheft

open AgentPy AgentBase58 AgentJson AgentCanonicalText AgentSigning AgentSerde AgentRotation
  AgentRotationText AgentPrefixLog AgentRotationRegistry AgentRotationGossip AgentHonestHistory

variable {H : Host} {signed : Bytes → Bytes → Prop}

/-! ## Some keys stolen -/

/-- From place `n` on, no two neighbours of the line are both stolen, and the pre-committed next
    key is not. -/
structure NoPairStolen (H : Host) (signed : Bytes → Bytes → Prop) (h : HonestHistory H) (n : ℕ) :
    Prop where
  pair : ∀ k, n ≤ k → ∀ a b, h.line[k]? = some a → h.line[k + 1]? = some b →
    SignsOnly H signed h a ∨ SignsOnly H signed h b
  next : SignsOnly H signed h h.nextAddress

/-- Where a chain can stand at place `k`: at the honest address, with the honest commitment or
    under an unstolen key. -/
def OnLine (H : Host) (signed : Bytes → Bytes → Prop) (h : HonestHistory H) (st : RotationState)
    (k : ℕ) : Prop :=
  h.line[k]? = some st.currentAddress ∧
    (SignsOnly H signed h st.currentAddress ∨
      (k ≤ h.length ∧ st.nextCommitment = (h.chain.stateAt k).nextCommitment))

/-- **ONE ROTATION STAYS ON THE LINE.** -/
theorem onLine_step (N : NfcLaws H.nfc) (C : CollisionFree H) (U : Unforgeable H signed)
    (h : HonestHistory H) {n : ℕ} (hpair : NoPairStolen H signed h n) {st : RotationState}
    {r : KeyRotation} (hstep : StepOk H st r) (hid : st.identity = h.identity) {k : ℕ}
    (hn : n ≤ k) (hseq : st.sequence = k) (hon : OnLine H signed h st k) :
    OnLine H signed h (st.advance r) (k + 1) := by
  obtain ⟨hline, hhold⟩ := hon
  have honest : SignsOnly H signed h st.currentAddress → OnLine H signed h (st.advance r) (k + 1) := by
    intro honly
    obtain ⟨hlt, hadvance, -⟩ := honest_step N U h hstep hid honly
    rw [hseq] at hlt hadvance
    rw [hadvance]
    exact ⟨h.line_getElem? hlt, Or.inr ⟨hlt, rfl⟩⟩
  rcases hhold with honly | ⟨hk, hcommitment⟩
  · exact honest honly
  · have hnext : h.line[k + 1]? = some r.nextAddress := committed_step C h hstep hk hcommitment
    rcases hpair.pair k hn _ _ hline hnext with honly | honly
    · exact honest honly
    · exact ⟨hnext, Or.inl honly⟩

/-- **A WHOLE CHAIN STAYS ON THE LINE** once it stands on it at `n`. -/
theorem onLine_stateAt (N : NfcLaws H.nfc) (C : CollisionFree H) (U : Unforgeable H signed)
    (h : HonestHistory H) {n : ℕ} (hpair : NoPairStolen H signed h n) {c : RotationChain}
    {st : RotationState} (hc : c.resolve H = .ok st) (hid : c.identity = h.identity)
    (hbase : OnLine H signed h (c.stateAt n) n) {k : ℕ} (hn : n ≤ k)
    (hk : k ≤ c.rotations.length) : OnLine H signed h (c.stateAt k) k := by
  induction k, hn using Nat.le_induction with
  | base => exact hbase
  | succ k hnk ih =>
      obtain ⟨hstep, hnext⟩ := stepOk_stateAt hc hk
      rw [hnext]
      exact onLine_step N C U h hpair hstep ((stateAt_identity c k).trans hid) hnk
        (stateAt_sequence hc (by omega)) (ih (by omega))

/-! ### A registry that is up to date -/

/-- Every key after place `n` is unstolen, the pre-committed one included. -/
def UnstolenAfter (H : Host) (signed : Bytes → Bytes → Prop) (h : HonestHistory H) (n : ℕ) : Prop :=
  ∀ k, n < k → ∀ a, h.line[k]? = some a → SignsOnly H signed h a

theorem UnstolenAfter.noPairStolen {h : HonestHistory H} {n : ℕ} (hn : n ≤ h.length)
    (hu : UnstolenAfter H signed h n) : NoPairStolen H signed h n :=
  ⟨fun k hk _ b _ hb => Or.inr (hu (k + 1) (by omega) b hb),
    hu (h.length + 1) (by omega) _ h.line_next⟩

theorem learnAll_append (reg : RotationRegistry) (before after : List RotationChain) :
    reg.learnAll H (before ++ after) = (reg.learnAll H before).learnAll H after :=
  List.foldl_append

/-- The log never loses what it holds. -/
theorem log_prefix_foldl {x : PyStr} (v : View PyStr) (chains : List RotationChain) :
    v.log <+: (chains.foldl (learnHistory H x) v).log := by
  induction chains generalizing v with
  | nil => exact List.prefix_rfl
  | cons c chains ih =>
      refine List.IsPrefix.trans ?_ (ih (learnHistory H x v c))
      rw [learnHistory]
      cases history H x c with
      | none => exact List.prefix_rfl
      | some fps => exact View.log_prefix_learn v fps

/-- What a registry accepts, its log contains. -/
theorem prefix_log_of_learn_ok {reg : RotationRegistry} {c : RotationChain} {v : View PyStr}
    {st : RotationState} {fps : List PyStr} (ht : Tracks H reg c.identity v)
    (hlearn : (reg.learn H c).1 = .ok st) (hf : c.fingerprints H = .ok fps) :
    fps <+: (learnHistory H c.identity v c).log := by
  rcases learn_cases H reg c with ⟨e, -, heq⟩ | ⟨_, _, _, _, e, -, -, -, -, heq⟩ |
    ⟨st', steps, fps', hresolve, hsteps, hconflict, -⟩
  · rw [heq] at hlearn
    exact nomatch hlearn
  · rw [heq] at hlearn
    exact nomatch hlearn
  · rw [hsteps.fingerprints_ok] at hf
    cases hf
    have hcompat := (findConflict_eq_none_iff_compatible hsteps ht.seen).mp hconflict
    rw [learnHistory_some
      (history_eq_some_iff.mpr ⟨rfl, ⟨st', hresolve⟩, hsteps.fingerprints_ok⟩)]
    exact View.prefix_learn_of_compatible hcompat

/-- A registry whose log contains the honest chain through `n` is compromised, or stands on the
    honest line at `n` or beyond. -/
theorem resolve_of_caught_up (N : NfcLaws H.nfc) (C : CollisionFree H) (U : Unforgeable H signed)
    (h : HonestHistory H) {n k : ℕ} (hn : n ≤ h.length) (hk : n ≤ k)
    (hu : UnstolenAfter H signed h n) {reg : RotationRegistry} {v : View PyStr}
    (ht : Tracks H reg h.identity v) {fps : List PyStr}
    (hf : (h.chain.take k).fingerprints H = .ok fps) (hlog : fps <+: v.log) :
    (∃ e, reg.resolve h.identity = .error e ∧ e.cls = .rotationError) ∨
      ∃ j, n ≤ j ∧ ∃ a, h.line[j]? = some a ∧ reg.resolve h.identity = .ok a := by
  cases hdup : reg.isDuplicitous h.identity with
  | true => exact Or.inl (resolve_of_duplicitous hdup)
  | false =>
      have hresolve := resolve_take h.resolves k
      have hfps := fingerprints_length hresolve hf
      rw [resolve_sequence hresolve] at hfps
      have hlen : (h.chain.take k).rotations.length = min k h.length := List.length_take
      have hle := hlog.length_le
      refine Or.inr ?_
      rw [RotationRegistry.resolve, hdup]
      simp only [Bool.false_eq_true, if_false]
      cases hst : reg.state h.identity with
      | none =>
          rw [ht.unknown hst, List.length_nil] at hle
          omega
      | some st =>
          obtain ⟨c, hcx, hc, hcf⟩ := ht.known st hst
          have hclen := fingerprints_length hc hcf
          rw [resolve_sequence hc] at hclen
          have hnc : n ≤ c.rotations.length := by omega
          -- at place `n` the chain in the log agrees with the honest one
          have hplace : v.log[n]? = fps[n]? := by
            obtain ⟨t, ht⟩ := hlog
            rw [← ht, List.getElem?_append_left (by omega)]
          have hid : c.identity = (h.chain.take k).identity := hcx
          obtain ⟨haddr, hcommit⟩ := stateAt_of_fingerprint N C hid hc hresolve hcf hf hnc
            (by omega) hplace
          have hcut : (h.chain.take k).stateAt n = h.chain.stateAt n := by
            rw [RotationChain.stateAt, RotationChain.take, List.take_take, min_eq_left hk]
            rfl
          rw [hcut] at haddr hcommit
          have hbase : OnLine H signed h (c.stateAt n) n :=
            ⟨by rw [haddr, h.line_getElem? hn], Or.inr ⟨hn, hcommit (h.isHex_commitment hn)⟩⟩
          have hon := onLine_stateAt N C U h (hu.noPairStolen hn) hc hcx hbase hnc le_rfl
          rw [← resolve_eq_stateAt hc] at hon
          exact ⟨_, hnc, _, hon.1, rfl⟩

/-- **UP TO DATE, NOT DIVERTED**: once a registry has accepted the honest chain through place
    `n`, stolen keys of places up to `n` cannot lead it off the honest line. -/
theorem uptodate_not_diverted (H : Host) (signed : Bytes → Bytes → Prop) (N : NfcLaws H.nfc)
    (C : CollisionFree H) (U : Unforgeable H signed) (h : HonestHistory H) (n : ℕ)
    (hn : n ≤ h.length) (hu : UnstolenAfter H signed h n) (before : List RotationChain) (k : ℕ)
    (hk : n ≤ k) (st : RotationState)
    (haccepted : ((RotationRegistry.learnAll H {} before).learn H (h.chain.take k)).1 = .ok st)
    (after : List RotationChain) :
    (∃ e, (RotationRegistry.learnAll H {} (before ++ h.chain.take k :: after)).resolve h.identity
        = .error e ∧ e.cls = .rotationError) ∨
      ∃ j, n ≤ j ∧ ∃ a, h.line[j]? = some a ∧
        (RotationRegistry.learnAll H {} (before ++ h.chain.take k :: after)).resolve h.identity
          = .ok a := by
  obtain ⟨_, fps, hsteps⟩ := stepsOf_resolve (resolve_take h.resolves k)
  have hbefore := learnAll_tracks_from (tracks_empty (H := H) h.identity) before
  have hstart := @prefix_log_of_learn_ok H _ (h.chain.take k) _ st fps hbefore haccepted
    hsteps.fingerprints_ok
  have ht := learnAll_tracks_from (learn_tracks hbefore (h.chain.take k)) after
  rw [learnAll_append]
  exact resolve_of_caught_up N C U h hn hk hu ht hsteps.fingerprints_ok
    (hstart.trans (log_prefix_foldl _ after))

/-! ### A thief holding the opening key -/

/-- Keys 1 and 3 are the thief's; nobody else has signed anything. -/
def thiefFree (key : Bytes) : Bool := key == constKey 1 || key == constKey 3

theorem stolen_inception (next : UInt8) :
    (plainInception 1 next).Verified (ledgerHost thiefFree []) :=
  plainInception_verified fun _ _ => ledgerSigns_of_free (by decide)

/-- The thief opens the identity anew, and hands it over to its own key. -/
def forgedChain : RotationChain := ⟨plainInception 1 3, [plainRotation 1 0 1 3 4]⟩

theorem resolve_forgedChain : forgedChain.resolve (ledgerHost thiefFree [])
    = .ok ⟨constAddress 1, constAddress 3, plainCommitment 4, 1⟩ :=
  plainRotation_resolve (stolen_inception 3)
    (plainRotation_verified fun _ _ => ledgerSigns_of_free (by decide))

/-- The pre-committed key 2 is not the thief's. -/
theorem signsOnly_two : SignsOnly (ledgerHost thiefFree []) (Holders thiefFree [])
    (opening (stolen_inception 2)) (constAddress 2) :=
  signsOnly_of_ledger (by decide) fun _ hmem => absurd hmem List.not_mem_nil

theorem unstolenAfter_opening : UnstolenAfter (ledgerHost thiefFree []) (Holders thiefFree [])
    (opening (stolen_inception 2)) 0 := by
  intro k hk a ha
  have hle := (opening (stolen_inception 2)).line_eq_some_lt ha
  have hone : k = 1 := by
    have : (opening (stolen_inception 2)).length = 0 := rfl
    omega
  subst hone
  cases ha
  exact signsOnly_two

theorem notMem_line_opening : constAddress 3 ∉ (opening (stolen_inception 2)).line := by
  intro h
  rcases List.mem_cons.mp h with h | h
  · exact absurd (constAddress_inj h) (by decide)
  · exact absurd (constAddress_inj (List.mem_singleton.mp h)) (by decide)

/-- A registry learns a chain that resolves, when it knows nothing yet. -/
theorem learn_empty_ok {H : Host} {c : RotationChain} {st : RotationState}
    (h : c.resolve H = .ok st) : ∃ st, (RotationRegistry.learn H {} c).1 = .ok st := by
  rcases learn_cases H {} c with ⟨e, hresolve, -⟩ | ⟨_, steps, _, _, _, -, -, hconflict, -, -⟩ |
    ⟨_, _, _, -, -, -, hlearn⟩
  · rw [h] at hresolve
    exact nomatch hresolve
  · have hnone : findConflict ({} : RotationRegistry).seen c.identity steps = none :=
      findConflict_eq_none_iff.mpr fun _ _ _ hlookup => nomatch hlookup
    exact absurd (hnone.symm.trans hconflict) (Option.some_ne_none _).symm
  · rw [hlearn]
    exact adopt_ok _ _ _

/-- Having learnt the opening, a registry is not led to key 3 by the forged chain. -/
theorem uptodate_not_diverted_opening :
    (RotationRegistry.learnAll (ledgerHost thiefFree []) {}
      [⟨plainInception 1 2, []⟩, forgedChain]).resolve (constAddress 1) ≠ .ok (constAddress 3) := by
  obtain ⟨st, hst⟩ := learn_empty_ok (plainInception_resolve (stolen_inception 2))
  rcases uptodate_not_diverted (ledgerHost thiefFree []) (Holders thiefFree [])
      (idealHost_nfcLaws _) (idealHost_collisionFree _) (unforgeable_holders _ _)
      (opening (stolen_inception 2)) 0 (Nat.zero_le _) unstolenAfter_opening [] 0 le_rfl st hst
      [forgedChain] with ⟨e, he, -⟩ | ⟨j, -, a, ha, hresolve⟩
  · intro h
    exact nomatch h.symm.trans he
  · intro h
    cases h.symm.trans hresolve
    exact notMem_line_opening (List.mem_of_getElem? ha)

/-! ### The current key stolen, and no prior knowledge -/

/-- The thief signs anything under the key of `Aₙ` and owns a key off the line; every other key
    of the line, the pre-committed one included, signs honestly. -/
structure CurrentKeyTheft (H : Host) (signed : Bytes → Bytes → Prop) (h : HonestHistory H)
    (own : Bytes) : Prop where
  signs : ∀ key, signingKeyFromAddress h.state.currentAddress = .ok key →
    ∀ message, ∃ raw, H.ed25519Verify key raw message = true
  incepts : h.identity ≠ h.state.currentAddress → InceptsOnce H signed h
  others : ∀ a ∈ h.line, a ≠ h.state.currentAddress → SignsOnly H signed h a
  next_ne : h.nextAddress ≠ h.state.currentAddress
  own_length : own.length = 32
  own_notMem : addressPrefix ++ base58Encode own ∉ h.line

/-- Every chain of the identity that resolves stands on the honest line. -/
def NeverHijacked (H : Host) (h : HonestHistory H) : Prop :=
  ∀ c : RotationChain, c.identity = h.identity → ∀ st, c.resolve H = .ok st →
    st.currentAddress ∈ h.line

/-- The current key neither opened the history nor took over from itself. -/
def FreshKey (h : HonestHistory H) : Prop :=
  h.identity ≠ h.state.currentAddress ∧
    ∀ k < h.length, h.line[k]? = some h.state.currentAddress →
      h.line[k + 1]? ≠ some h.state.currentAddress

theorem noPairStolen_of_freshKey {h : HonestHistory H} {own : Bytes}
    (ht : CurrentKeyTheft H signed h own) (hfresh : FreshKey h) : NoPairStolen H signed h 0 := by
  have hnext : SignsOnly H signed h h.nextAddress :=
    ht.others _ (List.mem_of_getElem? h.line_next) ht.next_ne
  refine ⟨fun k _ a b ha hb => ?_, hnext⟩
  by_cases hcur : a = h.state.currentAddress
  · refine Or.inr (ht.others b (List.mem_of_getElem? hb) fun hbc => ?_)
    have hk := h.line_eq_some_lt hb
    subst hcur hbc
    rcases Nat.lt_or_eq_of_le (show k ≤ h.length by omega) with hlt | rfl
    · exact hfresh.2 k hlt ha hb
    · rw [h.line_next, Option.some_inj] at hb
      exact ht.next_ne hb
  · exact Or.inl (ht.others a (List.mem_of_getElem? ha) hcur)

/-- A holder who can sign anything can sign an ASCII payload. -/
theorem exists_signature (N : NfcLaws H.nfc) {address context : PyStr} {key : Bytes}
    (hkey : signingKeyFromAddress address = .ok key)
    (hsigns : ∀ message, ∃ raw, H.ed25519Verify key raw message = true)
    (hcontext : IsContext context) {payload : Json} (hascii : AsciiJson payload) :
    ∃ signature, verifyByAddress H address context payload (.str signature) = .ok () := by
  obtain ⟨message, hmessage⟩ := signingInput_ascii N hcontext hascii
  obtain ⟨raw, hraw⟩ := hsigns message
  exact ⟨b64encode raw, verifyByAddress_ok_iff.mpr
    ⟨key, raw, message, hkey, decodeSignature_b64encode raw, hmessage, hraw⟩⟩

/-- The thief's rotation, in any state its key is in force: to any address that meets the
    standing commitment, committing to the key of its own. -/
theorem forge_rotation (N : NfcLaws H.nfc) {h : HonestHistory H} {own : Bytes}
    (ht : CurrentKeyTheft H signed h own) {st : RotationState} (hid : IsAscii st.identity)
    (hcur : st.currentAddress = h.state.currentAddress) {next : PyStr}
    (hnext : commitmentForAddress H next = .ok st.nextCommitment) :
    ∃ r, StepOk H st r ∧ r.nextAddress = next ∧
      r.nextCommitment = hexdigest (H.sha256 own) := by
  obtain ⟨key, hkey⟩ := h.exists_currentKey
  have hascii : AsciiJson (KeyRotation.payload ⟨st.identity, st.sequence + 1, st.currentAddress,
      next, hexdigest (H.sha256 own), .zero, [], Nat.succ_pos _⟩) :=
    KeyRotation.asciiJson_payload hid (isPlain_of_commitment hnext).isAscii (isAscii_hexdigest _)
      (by rw [hcur]; exact isAscii_of_signingKey hkey)
  rw [← hcur] at hkey
  obtain ⟨signature, hsig⟩ := exists_signature N hkey (ht.signs key (hcur ▸ hkey))
    (show IsContext contextKeyRotation by decide) hascii
  exact ⟨⟨st.identity, st.sequence + 1, st.currentAddress, next, hexdigest (H.sha256 own),
    .zero, signature, Nat.succ_pos _⟩, ⟨rfl, rfl, rfl, hnext, hsig⟩, rfl, rfl⟩

/-- One more accepted rotation moves a chain on. -/
theorem resolve_concat {c : RotationChain} {st : RotationState} {r : KeyRotation}
    (hc : c.resolve H = .ok st) (hstep : StepOk H st r) :
    (RotationChain.mk c.inception (c.rotations ++ [r])).resolve H = .ok (st.advance r) := by
  obtain ⟨hverified, hacc, rfl⟩ := resolve_ok_iff.mp hc
  refine resolve_ok_iff.mpr ⟨hverified, accepts_append.mpr ⟨hacc, hstep, trivial⟩, ?_⟩
  show _ = after c.genesis (c.rotations ++ [r])
  rw [after_append]
  rfl

/-- Once the current key stands under the thief's own commitment, the thief takes over. -/
theorem hijacked_of_commitment (N : NfcLaws H.nfc) {h : HonestHistory H} {own : Bytes}
    (ht : CurrentKeyTheft H signed h own) {c : RotationChain} {st : RotationState}
    (hc : c.resolve H = .ok st) (hid : c.identity = h.identity)
    (hcur : st.currentAddress = h.state.currentAddress)
    (hcommitment : st.nextCommitment = hexdigest (H.sha256 own)) : ¬ NeverHijacked H h := by
  intro hnever
  have hown : commitmentForAddress H (addressPrefix ++ base58Encode own) = .ok st.nextCommitment :=
    commitmentForAddress_ok_iff.mpr
      ⟨own, signingKeyFromAddress_ok_iff.mpr ⟨ht.own_length, rfl⟩, hcommitment⟩
  have hascii : IsAscii st.identity := by
    rw [resolve_identity hc, hid]
    exact h.isAscii_identity
  -- the thief signs the rotation to its own key, which meets the commitment
  obtain ⟨r, hstep, hnext, -⟩ := forge_rotation N ht hascii hcur hown
  have hmem := hnever ⟨c.inception, c.rotations ++ [r]⟩ hid _ (resolve_concat hc hstep)
  rw [show (st.advance r).currentAddress = r.nextAddress from rfl, hnext] at hmem
  exact ht.own_notMem hmem

/-- A stolen inception key opens the history anew. -/
theorem hijacked_at_inception (N : NfcLaws H.nfc) {h : HonestHistory H} {own : Bytes}
    (ht : CurrentKeyTheft H signed h own) (hopened : h.identity = h.state.currentAddress) :
    ¬ NeverHijacked H h := by
  obtain ⟨key, hkey⟩ := h.exists_currentKey
  have hascii : AsciiJson (Inception.payload
      ⟨h.identity, hexdigest (H.sha256 own), .zero, []⟩) :=
    Inception.asciiJson_payload h.isAscii_identity (isAscii_hexdigest _)
  obtain ⟨signature, hsig⟩ := exists_signature N (hopened ▸ hkey) (ht.signs key hkey)
    (show IsContext contextInception by decide) hascii
  have hresolve : (RotationChain.mk ⟨h.identity, hexdigest (H.sha256 own), .zero,
      signature⟩ []).resolve H = .ok ⟨h.identity, h.identity, hexdigest (H.sha256 own), 0⟩ :=
    resolve_ok_iff.mpr ⟨hsig, trivial, rfl⟩
  exact hijacked_of_commitment N ht hresolve rfl hopened rfl

/-- A stolen key that took over from itself replaces its own rotation. -/
theorem hijacked_at_rotation (N : NfcLaws H.nfc) {h : HonestHistory H} {own : Bytes}
    (ht : CurrentKeyTheft H signed h own) {k : ℕ} (hk : k < h.length)
    (hthis : h.line[k]? = some h.state.currentAddress)
    (hnext : h.line[k + 1]? = some h.state.currentAddress) : ¬ NeverHijacked H h := by
  obtain ⟨a, ha, hmet⟩ := h.line_commitment hk.le
  rw [hnext, Option.some_inj] at ha
  subst ha
  rw [h.line_getElem? hk.le, Option.some_inj] at hthis
  have hascii : IsAscii (h.chain.stateAt k).identity := by
    rw [stateAt_identity]
    exact h.isAscii_identity
  obtain ⟨r, hstep, haddress, hcommitment⟩ := forge_rotation N ht hascii hthis hmet
  exact hijacked_of_commitment N ht (resolve_concat (resolve_take h.resolves k) hstep) rfl haddress
    hcommitment

/-- **WHEN THE STOLEN CURRENT KEY IS NOT ENOUGH**, for a verifier that knows nothing yet: exactly
    when that key neither opened the history nor took over from itself. -/
theorem current_key_theft_iff (H : Host) (signed : Bytes → Bytes → Prop) (N : NfcLaws H.nfc)
    (C : CollisionFree H) (U : Unforgeable H signed) (h : HonestHistory H) (own : Bytes)
    (ht : CurrentKeyTheft H signed h own) : NeverHijacked H h ↔ FreshKey h := by
  constructor
  · intro hnever
    refine ⟨fun hopened => hijacked_at_inception N ht hopened hnever, fun k hk hthis hnext => ?_⟩
    exact hijacked_at_rotation N ht hk hthis hnext hnever
  · intro hfresh c hid st hc
    obtain ⟨hgenesis, -⟩ := honest_genesis N U h (ht.incepts hfresh.1) hc hid
    -- the inception key is not stolen, so every chain starts at the honest genesis
    have hbase : OnLine H signed h (c.stateAt 0) 0 := by
      rw [hgenesis]
      exact ⟨h.line_getElem? (Nat.zero_le _), Or.inr ⟨Nat.zero_le _, rfl⟩⟩
    have hon := onLine_stateAt N C U h (noPairStolen_of_freshKey ht hfresh) hc hid hbase
      (Nat.zero_le _) le_rfl
    rw [← resolve_eq_stateAt hc] at hon
    exact List.mem_of_getElem? hon.1

/-! #### Opened anew, and after one handover -/

theorem currentKeyTheft_opening : CurrentKeyTheft (ledgerHost thiefFree []) (Holders thiefFree [])
    (opening (stolen_inception 2)) (constKey 3) where
  signs key hkey message := by
    have hone : key = constKey 1 :=
      Except.ok.inj (hkey.symm.trans (signingKey_constAddress 1))
    rw [hone]
    exact exists_verify_of_free (by decide) message
  incepts hne := absurd rfl hne
  others a ha hne := by
    rcases List.mem_cons.mp ha with rfl | ha
    · exact absurd rfl hne
    · rw [List.mem_singleton.mp ha]
      exact signsOnly_two
  next_ne h := absurd (constAddress_inj h) (by decide)
  own_length := List.length_replicate ..
  own_notMem := notMem_line_opening

/-- THE THEFT AT INCEPTION: no rotation yet, the inception key stolen, and the forged chain
    resolves to the thief's own key. -/
theorem inception_hijacked :
    Unforgeable (ledgerHost thiefFree []) (Holders thiefFree []) ∧
      CollisionFree (ledgerHost thiefFree []) ∧
      CurrentKeyTheft (ledgerHost thiefFree []) (Holders thiefFree [])
        (opening (stolen_inception 2)) (constKey 3) ∧
      forgedChain.identity = (opening (stolen_inception 2)).identity ∧
      (∃ st, forgedChain.resolve (ledgerHost thiefFree []) = .ok st ∧
        st.currentAddress ∉ (opening (stolen_inception 2)).line) :=
  ⟨unforgeable_holders _ _, idealHost_collisionFree _, currentKeyTheft_opening, rfl, _,
    resolve_forgedChain, notMem_line_opening⟩

/-- Keys 2 and 4 are the thief's; key 1 has opened the identity and handed over to key 2. -/
def laterFree (key : Bytes) : Bool := key == constKey 2 || key == constKey 4

theorem currentKeyTheft_handover : CurrentKeyTheft (ledgerHost laterFree handoverLedger)
    (Holders laterFree handoverLedger) (handover handover_inception handover_rotation)
    (constKey 4) where
  signs key hkey message := by
    have htwo : key = constKey 2 :=
      Except.ok.inj (hkey.symm.trans (signingKey_constAddress 2))
    rw [htwo]
    exact exists_verify_of_free (by decide) message
  incepts _ := inceptsOnce_handover (by decide)
  others a ha hne := by
    rcases List.mem_cons.mp ha with rfl | ha
    · exact signsOnly_handover (by decide)
    · rcases List.mem_cons.mp ha with rfl | ha
      · exact absurd rfl hne
      · rw [List.mem_singleton.mp ha]
        exact signsOnly_handover (by decide)
  next_ne h := absurd (constAddress_inj h) (by decide)
  own_length := List.length_replicate ..
  own_notMem h := by
    rcases List.mem_cons.mp h with h | h
    · exact absurd (constAddress_inj h) (by decide)
    · rcases List.mem_cons.mp h with h | h
      · exact absurd (constAddress_inj h) (by decide)
      · exact absurd (constAddress_inj (List.mem_singleton.mp h)) (by decide)

/-- After one handover the stolen key 2 leads nobody off the line. -/
theorem current_key_theft_iff_handover : NeverHijacked (ledgerHost laterFree handoverLedger)
    (handover handover_inception handover_rotation) := by
  refine (current_key_theft_iff (ledgerHost laterFree handoverLedger)
    (Holders laterFree handoverLedger) (idealHost_nfcLaws _) (idealHost_collisionFree _)
    (unforgeable_holders _ _) (handover handover_inception handover_rotation) (constKey 4)
    currentKeyTheft_handover).mpr ⟨fun h => ?_, fun k hk hthis => ?_⟩
  · exact absurd (constAddress_inj h) (by decide)
  · have hone : k < 1 := hk
    obtain rfl := Nat.lt_one_iff.mp hone
    exact absurd (constAddress_inj (Option.some.inj hthis)) (by decide)

end AgentKeyTheft
