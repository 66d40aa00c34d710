import AgentId.RotationGossip

/-!
# A rotating identity (`rotation.py`)

A `RotatingIdentity` holds the key pair in force, the pre-committed next one, and the chain.  Each
rotation promotes the next key pair, signs with the one it retires, and replays the whole chain
before it is kept.  What ties the parts together is `Standing`: the chain resolves to the address
of the key pair held, with the commitment to the next one.

* **`create_standing`**, **`rotate_standing`** — it holds at birth, and each rotation keeps it.
* **`rotations_standing`** — it holds after any number of rotations, none of which raises.
* **`rotating_identity_guarantees`** — the same with what a registry makes of the chains.
-/

namespace AgentRotatingIdentity

open AgentPy AgentBase58 AgentJson AgentCanonicalText AgentSigning AgentSerde AgentRotation
  AgentRotationRegistry AgentRotationGossip

/-- A key pair, of which only the Ed25519 half is used here: the raw public key and `sign`.
    Ed25519 verifies what it signed with the same key. -/
structure KeyPair (H : Host) where
  signing : Bytes
  sign : Bytes → Bytes
  signing_length : signing.length = 32
  verifies : ∀ message, H.ed25519Verify signing (sign message) message = true

variable {H : Host}

/-- `Inception.create`, at the time `now`. -/
def Inception.create (keys : KeyPair H) (nextCommitment : PyStr) (now : Datetime) :
    Py Inception := do
  let address ← addressFromSigningKey keys.signing
  let unsigned : Inception := ⟨address, nextCommitment, normalizeTimestamp now, []⟩
  let signature ← signPayload H keys.sign contextInception unsigned.payload
  .ok { unsigned with signature := signature }

/-- `KeyRotation.create`, at the time `now`. -/
def KeyRotation.create (currentKeys : KeyPair H) (identity : PyStr) (sequence : ℕ)
    (nextAddress nextCommitment : PyStr) (now : Datetime) : Py KeyRotation := do
  let previous ← addressFromSigningKey currentKeys.signing
  if hpos : 1 ≤ sequence then do
    let unsigned : KeyRotation := ⟨identity, sequence, previous, nextAddress, nextCommitment,
      normalizeTimestamp now, [], hpos⟩
    let signature ← signPayload H currentKeys.sign contextKeyRotation unsigned.payload
    .ok { unsigned with signature := signature }
  else raise .rotationError ["rotation sequence starts at 1"]

/-- `RotationChain.extend` -/
def RotationChain.extend (H : Host) (chain : RotationChain) (rotation : KeyRotation) :
    Py RotationChain := do
  let extended : RotationChain := ⟨chain.inception, chain.rotations ++ [rotation]⟩
  let _ ← extended.resolve H
  .ok extended

structure RotatingIdentity (H : Host) where
  identity : PyStr
  keys : KeyPair H
  nextKeys : KeyPair H
  chain : RotationChain

namespace RotatingIdentity

/-- `RotatingIdentity.create`, with both key pairs given. -/
def create (keys nextKeys : KeyPair H) (now : Datetime) : Py (RotatingIdentity H) := do
  let commitment ← keyCommitment H nextKeys.signing
  let inception ← Inception.create keys commitment now
  let chain : RotationChain := ⟨inception, []⟩
  .ok ⟨chain.identity, keys, nextKeys, chain⟩

/-- `address` -/
def address (self : RotatingIdentity H) : Py PyStr := addressFromSigningKey self.keys.signing

/-- `rotate`, with the following key pair given. -/
def rotate (self : RotatingIdentity H) (followingKeys : KeyPair H) (now : Datetime) :
    Py (RotatingIdentity H) := do
  let nextAddress ← addressFromSigningKey self.nextKeys.signing
  let state ← self.chain.resolve H
  let nextCommitment ← keyCommitment H followingKeys.signing
  let rotation ← KeyRotation.create self.keys self.identity (state.sequence + 1) nextAddress
    nextCommitment now
  let chain ← RotationChain.extend H self.chain rotation
  .ok { self with keys := self.nextKeys, nextKeys := followingKeys, chain := chain }

/-- The identity as it stands now, and after each rotation. -/
def rotations : RotatingIdentity H → List (KeyPair H × Datetime) → Py (List (RotatingIdentity H))
  | self, [] => .ok [self]
  | self, (followingKeys, now) :: rest => do
      let rotated ← self.rotate followingKeys now
      let later ← rotated.rotations rest
      .ok (self :: later)

end RotatingIdentity

/-! ## What a key pair signs -/

/-- The address of a key pair. -/
def KeyPair.address (keys : KeyPair H) : PyStr := addressPrefix ++ base58Encode keys.signing

/-- The commitment to a key pair. -/
def KeyPair.commitment (keys : KeyPair H) : PyStr := hexdigest (H.sha256 keys.signing)

theorem KeyPair.signingKey_address (keys : KeyPair H) :
    signingKeyFromAddress keys.address = .ok keys.signing :=
  signingKeyFromAddress_ok_iff.mpr ⟨keys.signing_length, rfl⟩

theorem KeyPair.addressFromSigningKey_eq (keys : KeyPair H) :
    addressFromSigningKey keys.signing = .ok keys.address :=
  addressFromSigningKey_ok_iff.mpr keys.signingKey_address

theorem KeyPair.keyCommitment_eq (keys : KeyPair H) :
    keyCommitment H keys.signing = .ok keys.commitment :=
  keyCommitment_ok_iff.mpr ⟨keys.signing_length, rfl⟩

theorem KeyPair.commitmentForAddress_eq (keys : KeyPair H) :
    commitmentForAddress H keys.address = .ok keys.commitment :=
  commitmentForAddress_ok_iff.mpr ⟨_, keys.signingKey_address, rfl⟩

theorem KeyPair.isAscii_address (keys : KeyPair H) : IsAscii keys.address :=
  isAscii_of_signingKey keys.signingKey_address

/-- An ASCII payload can be signed, and the signature verifies under the signer's address. -/
theorem KeyPair.signPayload_verifies (N : NfcLaws H.nfc) (keys : KeyPair H) {context : PyStr}
    (hcontext : IsContext context) {payload : Json} (h : AsciiJson payload) :
    ∃ signature, signPayload H keys.sign context payload = .ok signature ∧
      verifyByAddress H keys.address context payload (.str signature) = .ok () := by
  obtain ⟨message, hmessage⟩ := signingInput_ascii N hcontext h
  refine ⟨b64encode (keys.sign message), bind_ok_iff.mpr ⟨message, hmessage, rfl⟩, ?_⟩
  exact verifyByAddress_ok_iff.mpr ⟨_, _, message, keys.signingKey_address,
    decodeSignature_b64encode _, hmessage, keys.verifies message⟩

/-! ## One step -/

/-- The identity stands after `n` rotations: its chain resolves to the address of the key pair it
    holds, with the commitment to the next one. -/
structure Standing (n : ℕ) (who : RotatingIdentity H) : Prop where
  identity : who.chain.identity = who.identity
  resolves : who.chain.resolve H
    = .ok ⟨who.identity, who.keys.address, who.nextKeys.commitment, n⟩

theorem Standing.length_rotations {n : ℕ} {who : RotatingIdentity H} (h : Standing n who) :
    who.chain.rotations.length = n :=
  (resolve_sequence h.resolves).symm

theorem Inception.create_ok (N : NfcLaws H.nfc) (keys : KeyPair H) {commitment : PyStr}
    (hcommitment : IsAscii commitment) (now : Datetime) :
    ∃ i, Inception.create keys commitment now = .ok i ∧ i.address = keys.address ∧
      i.nextCommitment = commitment ∧ i.Verified H := by
  obtain ⟨signature, hsign, hverify⟩ := keys.signPayload_verifies N
    (show IsContext contextInception by decide)
    (@Inception.asciiJson_payload ⟨keys.address, commitment, normalizeTimestamp now, []⟩
      keys.isAscii_address hcommitment)
  refine ⟨⟨keys.address, commitment, normalizeTimestamp now, signature⟩, ?_, rfl, rfl, hverify⟩
  exact bind_ok_iff.mpr ⟨_, keys.addressFromSigningKey_eq, bind_ok_iff.mpr ⟨_, hsign, rfl⟩⟩

theorem KeyRotation.create_ok (N : NfcLaws H.nfc) (currentKeys : KeyPair H)
    {identity nextAddress nextCommitment : PyStr} (hid : IsAscii identity)
    (hnext : IsAscii nextAddress) (hcommitment : IsAscii nextCommitment) (n : ℕ) (now : Datetime) :
    ∃ r, KeyRotation.create currentKeys identity (n + 1) nextAddress nextCommitment now = .ok r ∧
      r.identity = identity ∧ r.sequence = n + 1 ∧ r.previous = currentKeys.address ∧
      r.nextAddress = nextAddress ∧ r.nextCommitment = nextCommitment ∧ r.Verified H := by
  obtain ⟨signature, hsign, hverify⟩ := currentKeys.signPayload_verifies N
    (show IsContext contextKeyRotation by decide)
    (@KeyRotation.asciiJson_payload ⟨identity, n + 1, currentKeys.address, nextAddress,
      nextCommitment, normalizeTimestamp now, [], Nat.le_add_left 1 n⟩ hid hnext hcommitment
      currentKeys.isAscii_address)
  refine ⟨⟨identity, n + 1, currentKeys.address, nextAddress, nextCommitment,
    normalizeTimestamp now, signature, Nat.le_add_left 1 n⟩, ?_, rfl, rfl, rfl, rfl, rfl, hverify⟩
  refine bind_ok_iff.mpr ⟨_, currentKeys.addressFromSigningKey_eq, ?_⟩
  rw [dif_pos (Nat.le_add_left 1 n)]
  exact bind_ok_iff.mpr ⟨_, hsign, rfl⟩

/-- **AT BIRTH** an identity stands. -/
theorem create_standing (N : NfcLaws H.nfc) (keys nextKeys : KeyPair H) (now : Datetime) :
    ∃ who, RotatingIdentity.create keys nextKeys now = .ok who ∧ Standing 0 who ∧
      who.identity = keys.address ∧ who.keys = keys ∧ who.nextKeys = nextKeys := by
  obtain ⟨i, hcreate, haddress, hcommitment, hverified⟩ :=
    Inception.create_ok N keys (isAscii_hexdigest (H.sha256 nextKeys.signing)) now
  refine ⟨⟨i.address, keys, nextKeys, ⟨i, []⟩⟩,
    bind_ok_iff.mpr ⟨_, nextKeys.keyCommitment_eq, bind_ok_iff.mpr ⟨i, hcreate, rfl⟩⟩,
    ⟨rfl, resolve_ok_iff.mpr ⟨hverified, trivial, ?_⟩⟩, haddress, rfl, rfl⟩
  show RotationState.mk i.address keys.address nextKeys.commitment 0
    = ⟨i.address, i.address, i.nextCommitment, 0⟩
  rw [haddress, hcommitment]
  rfl

/-- **EACH ROTATION** returns, and the identity stands one rotation on. -/
theorem rotate_standing (N : NfcLaws H.nfc) {n : ℕ} {who : RotatingIdentity H}
    (h : Standing n who) (followingKeys : KeyPair H) (now : Datetime) :
    ∃ rotated r, who.rotate followingKeys now = .ok rotated ∧ Standing (n + 1) rotated ∧
      rotated.identity = who.identity ∧ rotated.keys = who.nextKeys ∧
      rotated.nextKeys = followingKeys ∧
      rotated.chain = ⟨who.chain.inception, who.chain.rotations ++ [r]⟩ := by
  obtain ⟨hinc, hacc, hstate⟩ := resolve_ok_iff.mp h.resolves
  have hid : IsAscii who.identity := by
    obtain ⟨key, _, _, hkey, -, -, -⟩ := verifyByAddress_ok_iff.mp hinc
    rw [← h.identity]
    exact isAscii_of_signingKey hkey
  obtain ⟨r, hcreate, hrid, hrseq, hrprev, hrnext, hrcommitment, hrverified⟩ :=
    KeyRotation.create_ok N who.keys hid who.nextKeys.isAscii_address
      (isAscii_hexdigest (H.sha256 followingKeys.signing)) n now
  -- the new rotation meets the state the chain stands in
  have hstep : StepOk H (after who.chain.genesis who.chain.rotations) r := by
    rw [← hstate]
    exact ⟨hrid, hrseq, hrprev, by rw [hrnext]; exact who.nextKeys.commitmentForAddress_eq,
      hrverified⟩
  have hafter : after who.chain.genesis (who.chain.rotations ++ [r])
      = ⟨who.identity, who.nextKeys.address, followingKeys.commitment, n + 1⟩ := by
    rw [after_append, ← hstate]
    show RotationState.mk who.identity r.nextAddress r.nextCommitment r.sequence = _
    rw [hrnext, hrcommitment, hrseq]
    rfl
  have hextended : (RotationChain.mk who.chain.inception (who.chain.rotations ++ [r])).resolve H
      = .ok ⟨who.identity, who.nextKeys.address, followingKeys.commitment, n + 1⟩ :=
    resolve_ok_iff.mpr ⟨hinc, accepts_append.mpr ⟨hacc, hstep, trivial⟩, hafter.symm⟩
  refine ⟨⟨who.identity, who.nextKeys, followingKeys, ⟨who.chain.inception,
    who.chain.rotations ++ [r]⟩⟩, r, ?_, ⟨h.identity, hextended⟩, rfl, rfl, rfl, rfl⟩
  refine bind_ok_iff.mpr ⟨_, who.nextKeys.addressFromSigningKey_eq, ?_⟩
  refine bind_ok_iff.mpr ⟨_, h.resolves, ?_⟩
  refine bind_ok_iff.mpr ⟨_, followingKeys.keyCommitment_eq, ?_⟩
  refine bind_ok_iff.mpr ⟨r, hcreate, ?_⟩
  exact bind_ok_iff.mpr ⟨_, bind_ok_iff.mpr ⟨_, hextended, rfl⟩, rfl⟩

/-! ## Any number of steps -/

/-- One stage of the rotations of `who`, `i` steps on: it stands, holds the `i`th of the key pairs
    handed over in turn, and its chain is the whole one cut at its length. -/
structure Stage (who : RotatingIdentity H) (pairs : List (KeyPair H)) (whole : RotationChain)
    (n i : ℕ) (stage : RotatingIdentity H) : Prop where
  standing : Standing (n + i) stage
  identity : stage.identity = who.identity
  keys : pairs[i]? = some stage.keys
  nextKeys : pairs[i + 1]? = some stage.nextKeys
  chain : stage.chain = whole.take (n + i)

/-- The key pairs in force in turn, with the last one held back. -/
def handedOver (keys nextKeys : KeyPair H) (following : List (KeyPair H × Datetime)) :
    List (KeyPair H) :=
  keys :: nextKeys :: following.map Prod.fst

theorem take_length_rotations {chain : RotationChain} {n : ℕ} (h : chain.rotations.length = n) :
    chain.take n = chain := by
  rw [RotationChain.take, ← h, List.take_length]

/-- **ANY NUMBER OF ROTATIONS** returns, and the identity stands after each. -/
theorem rotations_standing (N : NfcLaws H.nfc) {n : ℕ} {who : RotatingIdentity H}
    (h : Standing n who) (following : List (KeyPair H × Datetime)) :
    ∃ stages whole, who.rotations following = .ok stages ∧
      stages.length = following.length + 1 ∧ (∃ st, whole.resolve H = .ok st) ∧
      whole.rotations.length = n + following.length ∧ who.chain = whole.take n ∧
      ∀ i stage, stages[i]? = some stage →
        Stage who (handedOver who.keys who.nextKeys following) whole n i stage := by
  induction following generalizing n who with
  | nil =>
      have hcut := (take_length_rotations h.length_rotations).symm
      refine ⟨[who], who.chain, rfl, rfl, ⟨_, h.resolves⟩, h.length_rotations, hcut, ?_⟩
      intro i stage hstage
      cases i with
      | zero =>
          cases hstage
          exact ⟨h, rfl, rfl, rfl, hcut⟩
      | succ i => cases hstage
  | cons head rest ih =>
      obtain ⟨followingKeys, now⟩ := head
      obtain ⟨rotated, r, hrotate, hrotated, hid, hkeys, hnext, hchain⟩ :=
        rotate_standing N h followingKeys now
      obtain ⟨stages, whole, hstages, hlength, hresolves, hwhole, hcut, hall⟩ := ih hrotated
      -- the chain before is the rotated one without its last rotation
      have hbefore : who.chain = whole.take n := by
        have htake : who.chain = rotated.chain.take n := by
          rw [hchain, RotationChain.take, List.take_left' h.length_rotations]
        rw [htake, hcut, RotationChain.take, RotationChain.take, RotationChain.take,
          List.take_take, min_eq_left (Nat.le_succ n)]
      refine ⟨who :: stages, whole, ?_, by rw [List.length_cons, hlength]; rfl, hresolves, ?_,
        hbefore, ?_⟩
      · exact bind_ok_iff.mpr ⟨rotated, hrotate, bind_ok_iff.mpr ⟨stages, hstages, rfl⟩⟩
      · rw [hwhole, List.length_cons]
        omega
      · intro i stage hstage
        cases i with
        | zero =>
            cases hstage
            exact ⟨h, rfl, rfl, rfl, hbefore⟩
        | succ i =>
            obtain ⟨hstanding, hstageid, hstagekeys, hstagenext, hstagechain⟩ := hall i stage hstage
            rw [hkeys, hnext] at hstagekeys hstagenext
            refine ⟨?_, hstageid.trans hid, hstagekeys, hstagenext, ?_⟩
            · rwa [show n + (i + 1) = n + 1 + i by omega]
            · rwa [show n + (i + 1) = n + 1 + i by omega]

/-! ## A registry that learns some of the stages -/

/-- What a registry knows of one chain of which it learned the cuts at `lengths`: the state at the
    longest cut, only fingerprints of the chain, and no duplicity. -/
structure KnowsCuts (whole : RotationChain) (fps : List PyStr) (lengths : List ℕ)
    (reg : RotationRegistry) : Prop where
  within : ∀ k ∈ lengths, k ≤ whole.rotations.length
  state : (lengths = [] ∧ reg.state whole.identity = none) ∨
    ∃ longest ∈ lengths, (∀ k ∈ lengths, k ≤ longest) ∧
      reg.state whole.identity = some (whole.stateAt longest)
  seen : ∀ (i : ℕ) (fp : PyStr), reg.seen.lookup (whole.identity, i) = some fp → fps[i]? = some fp
  unforked : reg.isDuplicitous whole.identity = false

/-- The fingerprints of a cut are the first of the whole. -/
theorem fingerprints_take {whole : RotationChain} {fps : List PyStr}
    (h : whole.fingerprints H = .ok fps) (k : ℕ) :
    (whole.take k).fingerprints H = .ok (fps.take (k + 1)) := by
  obtain ⟨first, hfirst, h⟩ := bind_ok_iff.mp h
  obtain ⟨rest, hrest, h⟩ := bind_ok_iff.mp h
  cases h
  have hcut : (whole.take k).rotations.mapM (rotationIdentity H) = .ok (rest.take k) :=
    mapM_ok_iff.mpr (List.forall₂_take k (mapM_ok_iff.mp hrest))
  exact bind_ok_iff.mpr ⟨first, hfirst, bind_ok_iff.mpr ⟨_, hcut, rfl⟩⟩

variable {whole : RotationChain} {fps : List PyStr}

/-- A step of a cut has the fingerprint the whole chain has there. -/
theorem fingerprint_of_cut (hfps : whole.fingerprints H = .ok fps) {k : ℕ}
    {steps : List LearnStep} {cutFps : List PyStr} (hsteps : StepsOf H (whole.take k) steps cutFps)
    {i : ℕ} {s : LearnStep} (hs : steps[i]? = some s) :
    s.sequence = i ∧ fps[i]? = some s.fingerprint := by
  obtain ⟨hseq, hfp⟩ := hsteps.getElem?_sequence hs
  have hsame := hsteps.fingerprints_ok
  rw [fingerprints_take hfps k] at hsame
  cases hsame
  rw [List.getElem?_take] at hfp
  split_ifs at hfp
  exact ⟨hseq, hfp⟩

/-- The longest of some cuts and one more. -/
theorem longest_append {lengths : List ℕ} {longest : ℕ} (hmem : longest ∈ lengths)
    (hmax : ∀ j ∈ lengths, j ≤ longest) (k : ℕ) :
    max longest k ∈ lengths ++ [k] ∧ ∀ j ∈ lengths ++ [k], j ≤ max longest k := by
  constructor
  · rcases max_choice longest k with h | h <;> rw [h]
    · exact List.mem_append_left _ hmem
    · exact List.mem_append_right _ (List.mem_singleton_self k)
  · refine List.forall_mem_append.mpr ⟨fun j hj => ?_, List.forall_mem_singleton.mpr ?_⟩
    · exact (hmax j hj).trans (le_max_left _ _)
    · exact le_max_right _ _

/-- **LEARNING ONE MORE CUT** of the same chain. -/
theorem KnowsCuts.learn {lengths : List ℕ} {reg : RotationRegistry}
    (hreg : KnowsCuts whole fps lengths reg) {st : RotationState}
    (hresolve : whole.resolve H = .ok st) (hfps : whole.fingerprints H = .ok fps) {k : ℕ}
    (hk : k ≤ whole.rotations.length) :
    KnowsCuts whole fps (lengths ++ [k]) (reg.learn H (whole.take k)).2 := by
  have hcut := resolve_take hresolve k
  rcases learn_cases H reg (whole.take k) with ⟨e, he, -⟩ |
    ⟨_, steps, cutFps, conflict, _, -, hsteps, hconflict, -, -⟩ |
    ⟨st', steps, cutFps, hst', hsteps, -, hlearn⟩
  · rw [hcut] at he
    cases he
  · -- no step of the cut contradicts the record
    have hnone : findConflict reg.seen (whole.take k).identity steps = none := by
      refine findConflict_eq_none_iff.mpr fun s hs established hlookup => ?_
      obtain ⟨i, hi⟩ := List.getElem?_of_mem hs
      obtain ⟨hseq, hfp⟩ := fingerprint_of_cut hfps hsteps hi
      rw [hseq] at hlookup
      exact Option.some.inj ((hreg.seen i established hlookup).symm.trans hfp)
    rw [hnone] at hconflict
    cases hconflict
  · rw [hcut] at hst'
    cases hst'
    have hid : (whole.stateAt k).identity = whole.identity :=
      (resolve_identity hcut).trans rfl
    rw [hlearn]
    refine ⟨List.forall_mem_append.mpr ⟨hreg.within, List.forall_mem_singleton.mpr hk⟩, Or.inr ?_,
      fun i fp hlookup => ?_, ?_⟩
    · rw [adopt_state hid]
      rcases hreg.state with ⟨rfl, hnone⟩ | ⟨longest, hmem, hmax, hstate⟩
      · rw [hnone]
        exact ⟨k, List.mem_singleton_self k, fun j hj => (List.mem_singleton.mp hj).le, rfl⟩
      · rw [hstate]
        obtain ⟨hmem', hmax'⟩ := longest_append hmem hmax k
        refine ⟨max longest k, hmem', hmax', ?_⟩
        show (if (whole.stateAt longest).sequence < (whole.stateAt k).sequence
          then some (whole.stateAt k) else some (whole.stateAt longest)) = _
        rw [stateAt_sequence hresolve (hreg.within longest hmem), stateAt_sequence hresolve hk]
        split_ifs with hlt
        · rw [max_eq_right hlt.le]
        · rw [max_eq_left (not_lt.mp hlt)]
    · rw [(adopt_seen reg _ steps).1, hid, lookup_recordSteps hsteps.map_sequence] at hlookup
      rcases Option.or_eq_some_iff.mp hlookup with hnew | ⟨-, hold⟩
      · rw [List.getElem?_map, Option.map_eq_some_iff] at hnew
        obtain ⟨s, hs, rfl⟩ := hnew
        exact (fingerprint_of_cut hfps hsteps hs).2
      · exact hreg.seen i fp hold
    · rw [RotationRegistry.isDuplicitous, (adopt_seen reg _ steps).2]
      exact hreg.unforked

/-- Cuts of one chain, learned in any order. -/
theorem knowsCuts_learnAll {st : RotationState} (hresolve : whole.resolve H = .ok st)
    (hfps : whole.fingerprints H = .ok fps) {lengths : List ℕ}
    (h : ∀ k ∈ lengths, k ≤ whole.rotations.length) :
    KnowsCuts whole fps lengths (RotationRegistry.learnAll H {} (lengths.map whole.take)) := by
  induction lengths using List.reverseRecOn with
  | nil =>
      refine ⟨h, Or.inl ⟨rfl, rfl⟩, ?_, rfl⟩
      intro i fp hlookup
      cases hlookup
  | append_singleton lengths k ih =>
      have hknown := (ih fun j hj => h j (List.mem_append_left _ hj)).learn hresolve hfps
        (h k (List.mem_append_right _ (List.mem_singleton_self k)))
      rw [RotationRegistry.learnAll, List.map_append, List.foldl_append]
      exact hknown

/-- A stage that stands, with the whole chain cut at its length. -/
structure CutOf (whole : RotationChain) (stage : RotatingIdentity H) : Prop where
  standing : Standing stage.chain.rotations.length stage
  chain : stage.chain = whole.take stage.chain.rotations.length
  length_le : stage.chain.rotations.length ≤ whole.rotations.length

theorem Stage.cutOf {who stage : RotatingIdentity H} {pairs : List (KeyPair H)} {n i : ℕ}
    (h : Stage who pairs whole n i stage) (hle : n + i ≤ whole.rotations.length) :
    CutOf whole stage := by
  have hlength := h.standing.length_rotations
  constructor
  · rw [hlength]
    exact h.standing
  · rw [hlength]
    exact h.chain
  · rwa [hlength]

variable {learned : List (RotatingIdentity H)}

/-- A registry that learned some stages knows the cuts at their lengths. -/
theorem knowsCuts_stages {st : RotationState} (hresolve : whole.resolve H = .ok st)
    (hfps : whole.fingerprints H = .ok fps) (hlearned : ∀ stage ∈ learned, CutOf whole stage) :
    KnowsCuts whole fps (learned.map fun stage => stage.chain.rotations.length)
      (RotationRegistry.learnAll H {} (learned.map RotatingIdentity.chain)) := by
  have hchains : learned.map RotatingIdentity.chain
      = (learned.map fun stage => stage.chain.rotations.length).map whole.take := by
    rw [List.map_map]
    exact List.map_congr_left fun stage hmem => (hlearned stage hmem).chain
  rw [hchains]
  exact knowsCuts_learnAll hresolve hfps
    (List.forall_mem_map.mpr fun stage hmem => (hlearned stage hmem).length_le)

/-- It resolves the identity to the current address of the longest chain learned. -/
theorem KnowsCuts.resolve_longest {reg : RotationRegistry}
    (h : KnowsCuts whole fps (learned.map fun stage => stage.chain.rotations.length) reg)
    {st : RotationState} (hresolve : whole.resolve H = .ok st) {longest : RotatingIdentity H}
    (hcut : CutOf whole longest) (hmem : longest ∈ learned)
    (hmax : ∀ stage ∈ learned, stage.chain.rotations.length ≤ longest.chain.rotations.length) :
    reg.resolve whole.identity = longest.address := by
  rcases h.state with ⟨hnil, -⟩ | ⟨m, hm, hbound, hstate⟩
  · rw [List.map_eq_nil_iff.mp hnil] at hmem
    cases hmem
  · have hlen : m = longest.chain.rotations.length := by
      obtain ⟨other, hother, rfl⟩ := List.mem_map.mp hm
      exact le_antisymm (hmax other hother) (hbound _ (List.mem_map.mpr ⟨longest, hmem, rfl⟩))
    have hcurrent : (whole.stateAt m).currentAddress = longest.keys.address := by
      have hcutResolve := resolve_take hresolve m
      rw [hlen, ← hcut.chain, hcut.standing.resolves] at hcutResolve
      rw [hlen]
      exact congrArg RotationState.currentAddress (Except.ok.inj hcutResolve).symm
    rw [RotationRegistry.resolve, if_neg (by rw [h.unforked]; exact Bool.false_ne_true), hstate]
    show Except.ok (whole.stateAt m).currentAddress = _
    rw [hcurrent]
    exact longest.keys.addressFromSigningKey_eq.symm

/-! ## The guarantees -/

/-- The identity after `n` rotations: the initial key's address names it, it holds the key pairs
    handed over in turn, and its chain resolves to what they say. -/
structure RotatedTo (keys nextKeys : KeyPair H) (following : List (KeyPair H × Datetime)) (n : ℕ)
    (who : RotatingIdentity H) : Prop where
  identity : addressFromSigningKey keys.signing = .ok who.identity
  inForce : (handedOver keys nextKeys following)[n]? = some who.keys
  heldBack : (handedOver keys nextKeys following)[n + 1]? = some who.nextKeys
  resolves : ∃ current commitment, who.address = .ok current ∧
    keyCommitment H who.nextKeys.signing = .ok commitment ∧
    who.chain.resolve H = .ok ⟨who.identity, current, commitment, n⟩

/-- **ROTATION WORKS FOR ANY NUMBER OF STEPS**, for any key pairs, repeats included: nothing raises,
    the identity is what it should be after each step, and a registry that learns the chains of
    any stages, in any order, is not duplicitous and resolves the identity to the current address
    of the longest chain learned. -/
theorem rotating_identity_guarantees (H : Host) (N : NfcLaws H.nfc) (keys nextKeys : KeyPair H)
    (now : Datetime) (following : List (KeyPair H × Datetime)) :
    ∃ born stages, RotatingIdentity.create keys nextKeys now = .ok born ∧
      born.rotations following = .ok stages ∧ stages.length = following.length + 1 ∧
      (∀ n stage, stages[n]? = some stage → RotatedTo keys nextKeys following n stage) ∧
      ∀ learned : List (RotatingIdentity H), learned ≠ [] → (∀ stage ∈ learned, stage ∈ stages) →
        (RotationRegistry.learnAll H {} (learned.map RotatingIdentity.chain)).isDuplicitous
          born.identity = false ∧
        ∀ longest ∈ learned, (∀ stage ∈ learned,
            stage.chain.rotations.length ≤ longest.chain.rotations.length) →
          (RotationRegistry.learnAll H {} (learned.map RotatingIdentity.chain)).resolve
            born.identity = longest.address := by
  obtain ⟨born, hborn, hstanding, hid, hkeys, hnext⟩ := create_standing N keys nextKeys now
  obtain ⟨stages, whole, hstages, hlength, ⟨st, hresolve⟩, hwhole, hcut, hall⟩ :=
    rotations_standing N hstanding following
  rw [hkeys, hnext] at hall
  have hname : whole.identity = born.identity := by
    rw [← hstanding.identity, hcut]
    rfl
  obtain ⟨steps, fps, hsteps⟩ := stepsOf_resolve hresolve
  refine ⟨born, stages, hborn, hstages, hlength, fun n stage hn => ?_,
    fun learned _ hlearned => ?_⟩
  · obtain ⟨hstage, hstageid, hstagekeys, hstagenext, -⟩ := hall n stage hn
    rw [Nat.zero_add] at hstage
    refine ⟨?_, hstagekeys, hstagenext, _, _, stage.keys.addressFromSigningKey_eq,
      stage.nextKeys.keyCommitment_eq, hstage.resolves⟩
    rw [hstageid, hid]
    exact keys.addressFromSigningKey_eq
  · have hcuts : ∀ stage ∈ learned, CutOf whole stage := by
      intro stage hmem
      obtain ⟨n, hn⟩ := List.getElem?_of_mem (hlearned stage hmem)
      have hlt := (List.getElem?_eq_some_iff.mp hn).1
      exact (hall n stage hn).cutOf (by omega)
    have hknows := knowsCuts_stages hresolve hsteps.fingerprints_ok hcuts
    rw [← hname]
    exact ⟨hknows.unforked, fun longest hmem hmax =>
      hknows.resolve_longest hresolve (hcuts longest hmem) hmem hmax⟩

/-- A sample key pair of the ideal service. -/
def plainPair (b : UInt8) : KeyPair openHost where
  signing := constKey b
  sign _ := List.replicate 64 0
  signing_length := rfl
  verifies _ := rfl

/-- Four key pairs, the second used again. -/
theorem rotating_identity_guarantees_again :
    ∃ born stages, RotatingIdentity.create (plainPair 1) (plainPair 2) (⟨0, by decide, by decide⟩ :
        Datetime) = .ok born ∧
      born.rotations [(plainPair 2, ⟨1, by decide, by decide⟩),
        (plainPair 3, ⟨2, by decide, by decide⟩)] = .ok stages ∧ stages.length = 3 := by
  obtain ⟨born, stages, hborn, hstages, hlength, -, -⟩ := rotating_identity_guarantees openHost
    (idealHost_nfcLaws _) (plainPair 1) (plainPair 2) ⟨0, by decide, by decide⟩
    [(plainPair 2, ⟨1, by decide, by decide⟩), (plainPair 3, ⟨2, by decide, by decide⟩)]
  exact ⟨born, stages, hborn, hstages, hlength⟩

end AgentRotatingIdentity
