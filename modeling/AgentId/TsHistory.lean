import AgentId.Authority
import AgentId.RotationWire
import AgentId.TsBase58
import AgentId.TsProof
import AgentId.TsRotation

/-!
# Key histories between the packages (`rotation.ts`)

How `rotation.ts` makes, reads and writes the records of a key history, and an identity whose keys
are rotated now by one package, now by the other, with the history handed over as JSON.

* **`histories_travel`** — a history of Python is read in TypeScript, written back as it was, and
  resolved alike.
* **`rotation_made_alike`** — at one time both packages sign the same record of a rotation.
* **`rotations_across_packages`** — after any number of rotations, each by either package, the
  identity stands in both, and either of them can rotate its keys again.
-/

namespace AgentTsHistory

open AgentLockstep AgentPy AgentBase58 AgentJson AgentCanonicalText AgentNormalization AgentSigning
  AgentSerde AgentSignedText AgentIsoText AgentRotation AgentRotationText AgentRotationWire
  AgentRotatingIdentity AgentTsCanonical AgentTsSigning AgentTsDelegation AgentTsBase58 AgentTsDate
  AgentTsDigest AgentTsCards AgentTsWire AgentTsAlike AgentTsVerdict AgentTsProof AgentTsRotation

/-! ## Records read and written -/

/-- `data as Record<string, unknown>`, of which only fields are read. -/
def propertiesOf : Option JsonValue → Js (List (PyStr × JsonValue))
  | some (.object record) => .ok record
  | some .null => throwNew .typeError ["cannot read properties of null"]
  | none => throwNew .typeError ["cannot read properties of undefined"]
  -- no other value has a property of a field's name
  | some _ => .ok []

/-- The constructor of `Inception`. -/
def TsInception.construct (address nextCommitment : Option JsonValue) (createdAt : DateField)
    (signature : Option JsonValue) : Ts TsInception := do
  let address ← ofJs (requireString (py "address") address)
  let nextCommitment ← ofJs (requireString (py "next_commitment") nextCommitment)
  let createdAt ← ofJs (parseDateField (py "created_at") createdAt)
  .ok ⟨address, nextCommitment, createdAt, coalesce signature (.string [])⟩

def TsInception.toJSON (i : TsInception) : List (PyStr × JsonValue) :=
  [(py "address", .string i.address), (py "next_commitment", .string i.nextCommitment),
    (py "created_at", .string i.createdAt.toISOString), (py "signature", i.signature)]

def TsInception.fromJSON (data : Option JsonValue) : Ts TsInception := do
  let record ← ofJs (propertiesOf data)
  TsInception.construct (record.lookup (py "address")) (record.lookup (py "next_commitment"))
    (.value (record.lookup (py "created_at"))) (record.lookup (py "signature"))

/-- `Number.isInteger`, checked of `sequence`. -/
def requireInteger : Option JsonValue → Js ℤ
  | some (.number (.integer n)) => .ok n
  | some (.number .negZero) => .ok 0
  | _ => throwNew .typeError ["sequence must be an integer"]

/-- The constructor of `KeyRotation`. -/
def TsKeyRotation.construct (identity sequence previous nextAddress nextCommitment : Option JsonValue)
    (rotatedAt : DateField) (signature : Option JsonValue) : Ts TsKeyRotation := do
  let identity ← ofJs (requireString (py "identity") identity)
  let sequence ← ofJs (requireInteger sequence)
  if hpos : 1 ≤ sequence.toNat then do
    let previous ← ofJs (requireString (py "previous") previous)
    let nextAddress ← ofJs (requireString (py "next_address") nextAddress)
    let nextCommitment ← ofJs (requireString (py "next_commitment") nextCommitment)
    let rotatedAt ← ofJs (parseDateField (py "rotated_at") rotatedAt)
    .ok ⟨identity, sequence.toNat, previous, nextAddress, nextCommitment, rotatedAt,
      coalesce signature (.string []), hpos⟩
  else throwAs .rotationError ["rotation sequence starts at 1"]

/-- `{ ...this.payload(), signature: this.signature }` -/
def TsKeyRotation.toJSON (r : TsKeyRotation) : List (PyStr × JsonValue) :=
  setProperty (spreadObject r.payload) (py "signature") r.signature

def TsKeyRotation.fromJSON (data : JsonValue) : Ts TsKeyRotation := do
  let record ← ofJs (propertiesOf (some data))
  TsKeyRotation.construct (record.lookup (py "identity")) (record.lookup (py "sequence"))
    (record.lookup (py "previous")) (record.lookup (py "next_address"))
    (record.lookup (py "next_commitment")) (.value (record.lookup (py "rotated_at")))
    (record.lookup (py "signature"))

def TsRotationChain.toJSON (chain : TsRotationChain) : List (PyStr × JsonValue) :=
  [(py "inception", .object (TsInception.toJSON chain.inception.value)),
    (py "rotations", .array (chain.rotations.map fun r => .object (TsKeyRotation.toJSON r.value)))]

/-- `fromJSON`, of objects with references from `n` on. -/
def TsRotationChain.fromJSON (n : ℕ) (data : Option JsonValue) : Ts TsRotationChain := do
  let record ← ofJs (propertiesOf data)
  let inception ← TsInception.fromJSON (record.lookup (py "inception"))
  let items ← ofJs (spreadArray (coalesce (record.lookup (py "rotations")) (.array [])))
  let rotations ← items.mapM TsKeyRotation.fromJSON
  .ok ⟨⟨n, inception⟩, rotations.zipIdx.map fun p => ⟨n + 1 + p.2, p.1⟩⟩

/-! ## Records made -/

variable {H : Host}

/-- `addressFromSigningKey` of `address.ts` -/
def tsAddressFromSigningKey (signingPublic : Bytes) : Js PyStr := do
  throwIf (signingPublic.length ≠ 32) .addressError ["signing public key must be 32 raw bytes"]
  .ok (addressPrefix ++ jsBase58Encode signingPublic)

/-- `Inception.create`, at the time `now`. -/
def TsInception.create (keys : KeyPair H) (nextCommitment : PyStr) (now : JsDate) :
    Ts TsInception := do
  let address ← ofJs (tsAddressFromSigningKey keys.signing)
  let unsigned ← TsInception.construct (some (.string address)) (some (.string nextCommitment))
    (.date (some now)) none
  let signature ← ofJs (tsSignPayload H.nfc keys.sign contextInception unsigned.payload)
  .ok { unsigned with signature := .string signature }

/-- `KeyRotation.create`, at the time `now`. -/
def TsKeyRotation.create (currentKeys : KeyPair H) (identity : PyStr) (sequence : JsNumber)
    (nextAddress nextCommitment : PyStr) (now : JsDate) : Ts TsKeyRotation := do
  let previous ← ofJs (tsAddressFromSigningKey currentKeys.signing)
  let unsigned ← TsKeyRotation.construct (some (.string identity)) (some (.number sequence))
    (some (.string previous)) (some (.string nextAddress)) (some (.string nextCommitment))
    (.date (some now)) none
  let signature ← ofJs (tsSignPayload H.nfc currentKeys.sign contextKeyRotation unsigned.payload)
  .ok { unsigned with signature := .string signature }

/-! ## A history travels -/

theorem yearHundred_le {t : Timestamp} (h : FourDigitYear t) : yearHundred ≤ t.ms :=
  le_trans (by decide) h

theorem inception_fromJSON {i : Inception} (hyear : FourDigitYear i.createdAt) :
    TsInception.fromJSON (some (.object (ofJsonMembers (Inception.modelDump i))))
      = .ok (Inception.ts i) := by
  have hread := parseDateField_canonical (yearHundred_le hyear) (py "created_at")
  refine bind_ok_iff.mpr ⟨_, rfl, bind_ok_iff.mpr ⟨_, rfl, bind_ok_iff.mpr ⟨_, rfl, ?_⟩⟩⟩
  exact bind_ok_iff.mpr ⟨_, ofJs_ok_iff.mpr hread, rfl⟩

theorem rotation_fromJSON {r : KeyRotation} (hyear : FourDigitYear r.rotatedAt) :
    TsKeyRotation.fromJSON (.object (ofJsonMembers (KeyRotation.modelDump r)))
      = .ok (KeyRotation.ts r) := by
  have hread := parseDateField_canonical (yearHundred_le hyear) (py "rotated_at")
  refine bind_ok_iff.mpr ⟨_, rfl, bind_ok_iff.mpr ⟨_, rfl, bind_ok_iff.mpr ⟨_, rfl, ?_⟩⟩⟩
  refine (dif_pos r.sequence_pos).trans ?_
  refine bind_ok_iff.mpr ⟨_, rfl, bind_ok_iff.mpr ⟨_, rfl, bind_ok_iff.mpr ⟨_, rfl, ?_⟩⟩⟩
  exact bind_ok_iff.mpr ⟨_, ofJs_ok_iff.mpr hread, rfl⟩

/-- **A HISTORY READ IN TYPESCRIPT** is the same history. -/
theorem history_fromJSON {chain : RotationChain} (hyears : HistoryYears chain) (n : ℕ) :
    TsRotationChain.fromJSON n (some (.object (ofJsonMembers (RotationChain.modelDump chain))))
      = .ok (RotationChain.objects n chain) := by
  have hrotations : (ofJsonItems (chain.rotations.map fun r => .obj (KeyRotation.modelDump r))).mapM
      TsKeyRotation.fromJSON = .ok (chain.rotations.map KeyRotation.ts) := by
    rw [ofJsonItems_eq_map, List.map_map]
    exact mapM_map_ok fun r hr => rotation_fromJSON (hyears.2 r hr)
  refine bind_ok_iff.mpr ⟨_, rfl, bind_ok_iff.mpr ⟨_, inception_fromJSON hyears.1, ?_⟩⟩
  refine bind_ok_iff.mpr ⟨_, rfl, bind_ok_iff.mpr ⟨_, hrotations, ?_⟩⟩
  rw [RotationChain.objects, List.zipIdx_map, List.map_map]
  rfl

/-- **A HISTORY WRITTEN IN TYPESCRIPT** is what Python writes of it. -/
theorem history_toJSON {chain : RotationChain} {chain' : TsRotationChain}
    (S : SameHistory chain chain') :
    TsRotationChain.toJSON chain' = ofJsonMembers (RotationChain.modelDump chain) := by
  have hinception : TsInception.toJSON chain'.inception.value
      = ofJsonMembers (Inception.modelDump chain.inception) := by
    rw [S.inception, TsInception.toJSON, Inception.ts, toISOString_toDate]
    rfl
  have hrotation : ∀ r, TsKeyRotation.toJSON (KeyRotation.ts r)
      = ofJsonMembers (KeyRotation.modelDump r) := by
    intro r
    rw [TsKeyRotation.toJSON, TsKeyRotation.payload, KeyRotation.ts, toISOString_toDate]
    rfl
  have hrotations : (chain'.rotations.map fun r => JsonValue.object (TsKeyRotation.toJSON r.value))
      = ofJsonItems (chain.rotations.map fun r => .obj (KeyRotation.modelDump r)) := by
    rw [ofJsonItems_eq_map, List.map_map]
    have hvalues := congrArg (List.map fun r => JsonValue.object (TsKeyRotation.toJSON r)) S.rotations
    rw [List.map_map, List.map_map] at hvalues
    refine hvalues.trans (List.map_congr_left fun r _ => ?_)
    exact congrArg JsonValue.object (hrotation r)
  rw [TsRotationChain.toJSON, hinception, hrotations]
  rfl

/-- Python reads what is written of it. -/
theorem modelValidate_written (R : IsoReads H) {chain : RotationChain}
    (hyears : HistoryYears chain) :
    RotationChain.modelValidate H
      (.obj (asJsonMembers (ofJsonMembers (RotationChain.modelDump chain)))) = .ok chain := by
  have hback : asJsonMembers (ofJsonMembers (RotationChain.modelDump chain))
      = RotationChain.modelDump chain := Json.obj.inj (asJson_ofJson (.obj (RotationChain.modelDump chain)))
  rw [hback]
  exact RotationChain.modelValidate_modelDump R hyears

theorem history_modelValidate (R : IsoReads H) {chain : RotationChain} {chain' : TsRotationChain}
    (S : SameHistory chain chain') (hyears : HistoryYears chain) :
    RotationChain.modelValidate H (.obj (asJsonMembers (TsRotationChain.toJSON chain')))
      = .ok chain := by
  rw [history_toJSON S]
  exact modelValidate_written R hyears

/-- What is asked of a history to travel: commitments written alike, years of four digits, and no
    sequence that a number cannot hold. -/
structure Travels (nfc : PyStr → PyStr) (chain : RotationChain) : Prop where
  alike : HistoryAlike nfc chain
  years : HistoryYears chain
  sequences : ∀ r ∈ chain.rotations, r.sequence ≤ maxSafeInteger

/-- **HISTORIES TRAVEL.**  What Python writes of a history TypeScript reads, resolves to the same
    state or refuses with an error of the same class, and writes as it was; and Python reads that as
    the same history. -/
theorem histories_travel (H : Host) (N : NfcText H.nfc) (R : IsoReads H) (chain : RotationChain)
    (T : Travels H.nfc chain) (n : ℕ) :
    ∃ chain', TsRotationChain.fromJSON n
        (some (.object (ofJsonMembers (RotationChain.modelDump chain)))) = .ok chain' ∧
      Agree SameClass Eq (chain.resolve H) (chain'.resolve H) ∧
      TsRotationChain.toJSON chain' = ofJsonMembers (RotationChain.modelDump chain) ∧
      RotationChain.modelValidate H (.obj (asJsonMembers (TsRotationChain.toJSON chain')))
        = .ok chain := by
  have S := sameHistory_objects n chain
  exact ⟨RotationChain.objects n chain, history_fromJSON T.years n,
    agree_resolve H N chain T.alike _ S, history_toJSON S, history_modelValidate R S T.years⟩

/-! ## One record, whichever package makes it -/

theorem tsAddressFromSigningKey_eq (keys : KeyPair H) :
    tsAddressFromSigningKey keys.signing = .ok keys.address := by
  refine bind_ok_iff.mpr ⟨(), (throwIf_ok_iff ..).mpr (not_not.mpr keys.signing_length), ?_⟩
  rw [jsBase58Encode_eq]
  rfl

theorem spelledAlike_address (keys : KeyPair H) : SpelledAlike H.nfc keys.address :=
  isPlain_of_certified keys.signingKey_address

theorem spelledAlike_commitment (keys : KeyPair H) : SpelledAlike H.nfc keys.commitment :=
  spelledAlike_of_plain (isHex_hexdigest _).isPlain

/-- **ONE INCEPTION**, made at one time. -/
theorem inception_made_alike (N : NfcText H.nfc) (keys nextKeys : KeyPair H) (time : Timestamp) :
    ∃ i : Inception, i.createdAt = time ∧ i.nextCommitment = nextKeys.commitment ∧
      (∀ now, normalizeTimestamp now = time →
        Inception.create keys nextKeys.commitment now = .ok i) ∧
      TsInception.create keys nextKeys.commitment (toDate time) = .ok (Inception.ts i) := by
  have A := @alike_inception H ⟨keys.address, nextKeys.commitment, time, []⟩
    (spelledAlike_address keys) (spelledAlike_commitment nextKeys)
  obtain ⟨signature, hpy, hts⟩ :=
    exists_signature N keys (show IsContext contextInception by decide) A
  refine ⟨⟨keys.address, nextKeys.commitment, time, signature⟩, rfl, rfl, ?_, ?_⟩
  · rintro now rfl
    exact bind_ok_iff.mpr ⟨_, keys.addressFromSigningKey_eq, bind_ok_iff.mpr ⟨_, hpy, rfl⟩⟩
  · refine bind_ok_iff.mpr ⟨_, ofJs_ok_iff.mpr (tsAddressFromSigningKey_eq keys), ?_⟩
    exact bind_ok_iff.mpr ⟨_, rfl, bind_ok_iff.mpr ⟨_, ofJs_ok_iff.mpr hts, rfl⟩⟩

/-- **ONE ROTATION**, made at one time. -/
theorem rotation_made_alike (N : NfcText H.nfc) (keys nextKeys followingKeys : KeyPair H)
    {identity : PyStr} (hid : SpelledAlike H.nfc identity) {n : ℕ} (hn : n < maxSafeInteger)
    (time : Timestamp) :
    ∃ r : KeyRotation, r.rotatedAt = time ∧ r.sequence = n + 1 ∧
      r.nextCommitment = followingKeys.commitment ∧
      (∀ now, normalizeTimestamp now = time → KeyRotation.create keys identity (n + 1)
        nextKeys.address followingKeys.commitment now = .ok r) ∧
      TsKeyRotation.create keys identity (.integer (n + 1 : ℕ)) nextKeys.address
        followingKeys.commitment (toDate time) = .ok (KeyRotation.ts r) := by
  have A := @alike_rotation H ⟨identity, n + 1, keys.address, nextKeys.address,
      followingKeys.commitment, time, [], Nat.succ_pos n⟩
    ⟨hid, spelledAlike_address nextKeys, spelledAlike_commitment followingKeys,
      spelledAlike_address keys, hn⟩
  obtain ⟨signature, hpy, hts⟩ :=
    exists_signature N keys (show IsContext contextKeyRotation by decide) A
  refine ⟨⟨identity, n + 1, keys.address, nextKeys.address, followingKeys.commitment, time,
    signature, Nat.succ_pos n⟩, rfl, rfl, rfl, ?_, ?_⟩
  · rintro now rfl
    refine bind_ok_iff.mpr ⟨_, keys.addressFromSigningKey_eq, ?_⟩
    exact (dif_pos (Nat.succ_pos n)).trans (bind_ok_iff.mpr ⟨_, hpy, rfl⟩)
  · refine bind_ok_iff.mpr ⟨_, ofJs_ok_iff.mpr (tsAddressFromSigningKey_eq keys), ?_⟩
    exact bind_ok_iff.mpr ⟨_, rfl, bind_ok_iff.mpr ⟨_, ofJs_ok_iff.mpr hts, rfl⟩⟩

/-! ## Keys rotated now here, now there -/

/-- Keys rotated in TypeScript, as the tests of the package do it: the history is read, extended by
    a rotation signed at the time `now`, and written. -/
def rotateInTs (keys nextKeys followingKeys : KeyPair H) (history : List (PyStr × JsonValue))
    (n ref : ℕ) (now : JsDate) : Ts (List (PyStr × JsonValue)) := do
  let chain ← TsRotationChain.fromJSON n (some (.object history))
  let state ← chain.resolve H
  let nextAddress ← ofJs (tsAddressFromSigningKey nextKeys.signing)
  let nextCommitment ← tsKeyCommitment H followingKeys.signing
  let rotation ← TsKeyRotation.create keys chain.identity (.integer (state.sequence + 1 : ℕ))
    nextAddress nextCommitment now
  let extended ← chain.extend H ⟨ref, rotation⟩
  .ok (TsRotationChain.toJSON extended)

/-- An identity after `n` rotations.  Either package may have made it, and either may have made each
    of the rotations; the history goes from one to the other as JSON. -/
inductive Rotated (H : Host) : ℕ → RotatingIdentity H → Prop where
  | create {keys nextKeys : KeyPair H} {now : Datetime} {who : RotatingIdentity H} :
      FourDigitYear (normalizeTimestamp now) →
      RotatingIdentity.create keys nextKeys now = .ok who → Rotated H 0 who
  | tsCreate {keys nextKeys : KeyPair H} {time : Timestamp} {commitment : PyStr} {i : TsInception}
      {ref : ℕ} {chain : RotationChain} : FourDigitYear time →
      tsKeyCommitment H nextKeys.signing = .ok commitment →
      TsInception.create keys commitment (toDate time) = .ok i →
      RotationChain.modelValidate H (.obj (asJsonMembers (TsRotationChain.toJSON ⟨⟨ref, i⟩, []⟩)))
        = .ok chain → Rotated H 0 ⟨chain.identity, keys, nextKeys, chain⟩
  | rotate {n : ℕ} {who rotated : RotatingIdentity H} {followingKeys : KeyPair H} {now : Datetime} :
      Rotated H n who → FourDigitYear (normalizeTimestamp now) →
      who.rotate followingKeys now = .ok rotated → Rotated H (n + 1) rotated
  | tsRotate {n first ref : ℕ} {who : RotatingIdentity H} {followingKeys : KeyPair H}
      {time : Timestamp} {history : List (PyStr × JsonValue)} {chain : RotationChain} :
      Rotated H n who → FourDigitYear time →
      rotateInTs who.keys who.nextKeys followingKeys
        (ofJsonMembers (RotationChain.modelDump who.chain)) first ref (toDate time) = .ok history →
      RotationChain.modelValidate H (.obj (asJsonMembers history)) = .ok chain →
      Rotated H (n + 1) ⟨who.identity, who.nextKeys, followingKeys, chain⟩

/-- The identity stands, and its history travels. -/
structure Held (n : ℕ) (who : RotatingIdentity H) : Prop where
  standing : Standing n who
  travels : Travels H.nfc who.chain

variable {n : ℕ} {who : RotatingIdentity H}

/-- The identity that stands is rotated once the record is made. -/
theorem rotate_of_create (h : Standing n who) {followingKeys : KeyPair H} {now : Datetime}
    {r : KeyRotation} (hr : KeyRotation.create who.keys who.identity (n + 1) who.nextKeys.address
      followingKeys.commitment now = .ok r) :
    who.rotate followingKeys now = (do
      let chain ← RotationChain.extend H who.chain r
      .ok { who with keys := who.nextKeys, nextKeys := followingKeys, chain := chain }) := by
  rw [RotatingIdentity.rotate, who.nextKeys.addressFromSigningKey_eq, h.resolves,
    followingKeys.keyCommitment_eq]
  show (KeyRotation.create who.keys who.identity (n + 1) who.nextKeys.address
    followingKeys.commitment now >>= _) = _
  rw [hr]
  rfl

/-- A record more, made in time, and the history still travels. -/
theorem Travels.snoc {chain : RotationChain} (T : Travels H.nfc chain) {r : KeyRotation}
    (hcommitment : SpelledAlike H.nfc r.nextCommitment) (hyear : FourDigitYear r.rotatedAt)
    (hsequence : r.sequence ≤ maxSafeInteger) (hlength : chain.rotations.length < maxSafeInteger) :
    Travels H.nfc ⟨chain.inception, chain.rotations ++ [r]⟩ where
  alike :=
    { inception := T.alike.inception
      rotations := List.forall_mem_append.mpr
        ⟨T.alike.rotations, List.forall_mem_singleton.mpr hcommitment⟩
      length_le := by
        rw [List.length_append]
        exact hlength }
  years := ⟨T.years.1, List.forall_mem_append.mpr ⟨T.years.2, List.forall_mem_singleton.mpr hyear⟩⟩
  sequences := List.forall_mem_append.mpr ⟨T.sequences, List.forall_mem_singleton.mpr hsequence⟩

theorem exists_clock (time : Timestamp) : ∃ now, normalizeTimestamp now = time := by
  have hlt := time.ms_lt
  refine ⟨⟨time.us, ?_, ?_⟩, normalizeTimestamp_us time _ _⟩
  · rw [Timestamp.us]
    omega
  · rw [Timestamp.us, maxMicros]
    omega

/-- **EITHER PACKAGE ROTATES THE KEYS**, at one time to the same effect. -/
theorem Held.rotates (N : NfcText H.nfc) (h : Held n who) (hn : n < maxSafeInteger)
    (followingKeys : KeyPair H) {time : Timestamp} (hyear : FourDigitYear time) :
    ∃ chain, Held (n + 1) ⟨who.identity, who.nextKeys, followingKeys, chain⟩ ∧
      (∀ now, normalizeTimestamp now = time →
        who.rotate followingKeys now = .ok ⟨who.identity, who.nextKeys, followingKeys, chain⟩) ∧
      ∀ first ref, rotateInTs who.keys who.nextKeys followingKeys
        (ofJsonMembers (RotationChain.modelDump who.chain)) first ref (toDate time)
          = .ok (ofJsonMembers (RotationChain.modelDump chain)) := by
  have hid : SpelledAlike H.nfc who.identity := by
    obtain ⟨hinception, -⟩ := resolve_ok_iff.mp h.standing.resolves
    obtain ⟨key, _, _, hkey, -⟩ := verifyByAddress_ok_iff.mp hinception
    rw [← h.standing.identity]
    exact isPlain_of_certified hkey
  obtain ⟨r, htime, hsequence, hcommitment, hpy, hts⟩ :=
    rotation_made_alike N who.keys who.nextKeys followingKeys hid hn time
  -- what Python makes of it at some such time
  obtain ⟨clock, hclock⟩ := exists_clock time
  obtain ⟨rotated, _, hrotate, hstanding, hid', hkeys, hnext, -⟩ :=
    rotate_standing N.toNfcLaws h.standing followingKeys clock
  rw [rotate_of_create h.standing (hpy clock hclock)] at hrotate
  obtain ⟨chain, hextend, hrotated⟩ := bind_ok_iff.mp hrotate
  cases hrotated
  obtain ⟨st, hst, hchain⟩ := bind_ok_iff.mp hextend
  cases hchain
  have T : Travels H.nfc ⟨who.chain.inception, who.chain.rotations ++ [r]⟩ := by
    refine h.travels.snoc ?_ (htime ▸ hyear) (hsequence ▸ hn) ?_
    · exact hcommitment ▸ spelledAlike_commitment followingKeys
    · rwa [h.standing.length_rotations]
  refine ⟨_, ⟨hstanding, T⟩, fun now hnow => ?_, fun first ref => ?_⟩
  · rw [rotate_of_create h.standing (hpy now hnow)]
    exact bind_ok_iff.mpr ⟨_, bind_ok_iff.mpr ⟨st, hst, rfl⟩, rfl⟩
  · have S := sameHistory_objects first who.chain
    have hresolve := (agree_resolve H N who.chain h.travels.alike _ S).ok_iff.mp h.standing.resolves
    have S' : SameHistory ⟨who.chain.inception, who.chain.rotations ++ [r]⟩
        ⟨(RotationChain.objects first who.chain).inception,
          (RotationChain.objects first who.chain).rotations ++ [⟨ref, KeyRotation.ts r⟩]⟩ :=
      ⟨S.inception, by rw [List.map_append, S.rotations, List.map_append]; rfl⟩
    have hresolve' := (agree_resolve H N _ T.alike _ S').ok_iff.mp hst
    have hkey := (agree_keyCommitment followingKeys.signing).ok_iff.mp followingKeys.keyCommitment_eq
    have hchainid : (RotationChain.objects first who.chain).identity = who.identity :=
      h.standing.identity
    refine bind_ok_iff.mpr ⟨_, history_fromJSON h.travels.years first, ?_⟩
    refine bind_ok_iff.mpr ⟨_, hresolve, ?_⟩
    refine bind_ok_iff.mpr ⟨_, ofJs_ok_iff.mpr (tsAddressFromSigningKey_eq who.nextKeys), ?_⟩
    refine bind_ok_iff.mpr ⟨_, hkey, bind_ok_iff.mpr ⟨KeyRotation.ts r, ?_, ?_⟩⟩
    · rw [hchainid]
      exact hts
    · refine bind_ok_iff.mpr ⟨_, bind_ok_iff.mpr ⟨_, hresolve', rfl⟩, ?_⟩
      exact congrArg Except.ok (history_toJSON S')

/-- **EITHER PACKAGE MAKES THE IDENTITY**, at one time the same. -/
theorem exists_held (N : NfcText H.nfc) (keys nextKeys : KeyPair H) {time : Timestamp}
    (hyear : FourDigitYear time) :
    ∃ i : Inception, Held 0 ⟨i.address, keys, nextKeys, ⟨i, []⟩⟩ ∧
      (∀ now, normalizeTimestamp now = time →
        RotatingIdentity.create keys nextKeys now = .ok ⟨i.address, keys, nextKeys, ⟨i, []⟩⟩) ∧
      TsInception.create keys nextKeys.commitment (toDate time) = .ok (Inception.ts i) := by
  obtain ⟨i, htime, hcommitment, hpy, hts⟩ := inception_made_alike N keys nextKeys time
  have hcreate : ∀ now, normalizeTimestamp now = time →
      RotatingIdentity.create keys nextKeys now = .ok ⟨i.address, keys, nextKeys, ⟨i, []⟩⟩ :=
    fun now hnow => bind_ok_iff.mpr
      ⟨_, nextKeys.keyCommitment_eq, bind_ok_iff.mpr ⟨i, hpy now hnow, rfl⟩⟩
  obtain ⟨clock, hclock⟩ := exists_clock time
  obtain ⟨who, hwho, hstanding, -⟩ := create_standing N.toNfcLaws keys nextKeys clock
  rw [hcreate clock hclock] at hwho
  cases hwho
  refine ⟨i, ⟨hstanding, ⟨⟨?_, ?_, Nat.zero_le _⟩, ⟨htime ▸ hyear, ?_⟩, ?_⟩⟩, hcreate, hts⟩
  · exact hcommitment ▸ spelledAlike_commitment nextKeys
  all_goals exact fun r hr => absurd hr List.not_mem_nil

/-- Every rotation keeps the identity. -/
theorem held_of_rotated (N : NfcText H.nfc) (R : IsoReads H) (h : Rotated H n who)
    (hn : n ≤ maxSafeInteger) : Held n who := by
  induction h with
  | @create keys nextKeys now who hyear hcreate =>
      obtain ⟨i, hheld, hpy, -⟩ := exists_held N keys nextKeys hyear
      rw [hpy now rfl] at hcreate
      cases hcreate
      exact hheld
  | @tsCreate keys nextKeys time commitment i' ref chain hyear hcommitment hcreate hread =>
      obtain ⟨i, hheld, -, hts⟩ := exists_held N keys nextKeys hyear
      rw [(agree_keyCommitment nextKeys.signing).ok_iff.mp nextKeys.keyCommitment_eq] at hcommitment
      cases hcommitment
      rw [hts] at hcreate
      cases hcreate
      have S : SameHistory ⟨i, []⟩ ⟨⟨ref, Inception.ts i⟩, []⟩ := ⟨rfl, rfl⟩
      rw [history_modelValidate R S hheld.travels.years] at hread
      cases hread
      exact hheld
  | @rotate n who rotated followingKeys now _ hyear hrotate ih =>
      obtain ⟨chain, hheld, hpy, -⟩ := (ih (by omega)).rotates N hn followingKeys hyear
      rw [hpy now rfl] at hrotate
      cases hrotate
      exact hheld
  | @tsRotate n first ref who followingKeys time history chain' _ hyear hrotate hread ih =>
      obtain ⟨chain, hheld, -, hts⟩ := (ih (by omega)).rotates N hn followingKeys hyear
      rw [hts first ref] at hrotate
      cases hrotate
      rw [modelValidate_written R hheld.travels.years] at hread
      cases hread
      exact hheld

/-- In both packages the identity stands under the keys it holds, and either package can rotate them
    again: at one time to one history, which the other reads. -/
structure StandsInBoth (n : ℕ) (who : RotatingIdentity H) : Prop where
  identity : who.chain.identity = who.identity
  python : who.chain.resolve H
    = .ok ⟨who.identity, who.keys.address, who.nextKeys.commitment, n⟩
  typescript : ∀ first, ∃ chain, TsRotationChain.fromJSON first
      (some (.object (ofJsonMembers (RotationChain.modelDump who.chain)))) = .ok chain ∧
    chain.resolve H = .ok ⟨who.identity, who.keys.address, who.nextKeys.commitment, n⟩
  rotates : n < maxSafeInteger → ∀ (followingKeys : KeyPair H) time, FourDigitYear time →
    ∃ chain, (∀ now, normalizeTimestamp now = time →
        who.rotate followingKeys now = .ok ⟨who.identity, who.nextKeys, followingKeys, chain⟩) ∧
      ∀ first ref, ∃ history, rotateInTs who.keys who.nextKeys followingKeys
        (ofJsonMembers (RotationChain.modelDump who.chain)) first ref (toDate time) = .ok history ∧
        RotationChain.modelValidate H (.obj (asJsonMembers history)) = .ok chain

/-- **ROTATIONS ACROSS THE PACKAGES.**  After any number of rotations, each made in either package,
    with keys and at times of any choice, the identity stands in both, and either can go on. -/
theorem rotations_across_packages (H : Host) (N : NfcText H.nfc) (R : IsoReads H) (n : ℕ)
    (hn : n ≤ maxSafeInteger) (who : RotatingIdentity H) (h : Rotated H n who) :
    StandsInBoth n who := by
  have hheld := held_of_rotated N R h hn
  refine ⟨hheld.standing.identity, hheld.standing.resolves, fun first => ?_, ?_⟩
  · have S := sameHistory_objects first who.chain
    exact ⟨_, history_fromJSON hheld.travels.years first,
      (agree_resolve H N who.chain hheld.travels.alike _ S).ok_iff.mp hheld.standing.resolves⟩
  · intro hlt followingKeys time hyear
    obtain ⟨chain, hnext, hpy, hts⟩ := hheld.rotates N hlt followingKeys hyear
    exact ⟨chain, hpy, fun first ref =>
      ⟨_, hts first ref, modelValidate_written R hnext.travels.years⟩⟩

/-! ## An identity of both packages -/

open AgentAuthority AgentOwnerRecall

theorem moment2026_year : FourDigitYear moment2026 := by
  rw [FourDigitYear]
  decide

/-- Key 1 is announced by Python, and rotated to key 2 by TypeScript. -/
theorem exists_turned : ∃ who : RotatingIdentity openHost, Rotated openHost 1 who ∧ Held 1 who := by
  obtain ⟨clock, hclock⟩ := exists_clock moment2026
  obtain ⟨i, hheld, hcreate, -⟩ :=
    exists_held sampleNfc_text (hourPair 1) (hourPair 2) moment2026_year
  obtain ⟨chain, hnext, -, hts⟩ :=
    hheld.rotates sampleNfc_text (by decide) (hourPair 3) moment2026_year
  exact ⟨_, .tsRotate (.create (hclock ▸ moment2026_year) (hcreate clock hclock)) moment2026_year
    (hts 0 0) (modelValidate_written openHost_isoReads hnext.travels.years), hnext⟩

/-- Its history travels. -/
theorem histories_travel_turned : ∃ who : RotatingIdentity openHost, Rotated openHost 1 who ∧
    ∃ chain', TsRotationChain.fromJSON 0
        (some (.object (ofJsonMembers (RotationChain.modelDump who.chain)))) = .ok chain' ∧
      RotationChain.modelValidate openHost (.obj (asJsonMembers (TsRotationChain.toJSON chain')))
        = .ok who.chain := by
  obtain ⟨who, hrotated, hheld⟩ := exists_turned
  obtain ⟨chain', hread, -, -, hback⟩ := histories_travel openHost sampleNfc_text openHost_isoReads
    who.chain hheld.travels 0
  exact ⟨who, hrotated, chain', hread, hback⟩

/-- It stands in both packages. -/
theorem rotations_across_packages_turned :
    ∃ who : RotatingIdentity openHost, Rotated openHost 1 who ∧ StandsInBoth 1 who := by
  obtain ⟨who, hrotated, -⟩ := exists_turned
  exact ⟨who, hrotated, rotations_across_packages openHost sampleNfc_text openHost_isoReads 1
    (by decide) who hrotated⟩

end AgentTsHistory
