import AgentId.CardCopy

/-!
# The `did:amp` method (`did.py`)

A `did:amp` identifier spells the same key as an address, after another prefix and before an
optional path, query or fragment.  Reading one decodes base58 outside any `try`, unlike reading an
address: an identifier with a character outside the alphabet raises a plain `ValueError`.

A document is a wire object.  The verification method comes from the identifier; a card adds the
agreement key, the operator and the services.

* **`signingKeyFromDid_ok_iff`** — which identifiers are accepted, and for which key.
* **`dids_correspond_iff`** — addresses and identifiers correspond, and when every failure is an
  `AddressError`.
* **`resolve_refines`** — what a card adds to a document, and what it leaves alone.
-/

namespace AgentDid

open AgentRaises AgentPy AgentBase58 AgentJson AgentCanonicalText AgentSigning AgentSerde
  AgentDelegation AgentCards

/-- `DID_PREFIX` -/
def didPrefix : PyStr := py "did:amp:"

/-- `_ED25519_MULTICODEC` -/
def ed25519Multicodec : Bytes := [0xED, 0x01]

/-- `_X25519_MULTICODEC` -/
def x25519Multicodec : Bytes := [0xEC, 0x01]

/-- `_DID_CONTEXT` -/
def didContext : List PyStr :=
  [py "https://www.w3.org/ns/did/v1", py "https://w3id.org/security/suites/ed25519-2020/v1",
    py "https://w3id.org/security/suites/x25519-2020/v1"]

/-- `_multibase_b58` -/
def multibaseB58 (multicodec raw : Bytes) : PyStr := py "z" ++ base58Encode (multicodec ++ raw)

/-- `_decode_multibase_b58` -/
def decodeMultibaseB58 (value : PyStr) (multicodec : Bytes) : Py Bytes := do
  raiseIf (¬ py "z" <+: value) .addressError
    ["unsupported multibase prefix in ", .repr value, " (expected base58btc 'z')"]
  let decoded ← base58Decode (value.drop 1)
  raiseIf (¬ multicodec <+: decoded) .addressError
    ["multicodec prefix does not match the expected key type"]
  .ok (decoded.drop multicodec.length)

/-! ## Addresses and identifiers -/

def addressToDid (address : PyStr) : Py PyStr := do
  let _ ← signingKeyFromAddress address
  .ok (didPrefix ++ address.drop addressPrefix.length)

/-- `text.split(sep)[0]` -/
def firstPiece (sep : CodePoint) (text : PyStr) : PyStr := text.takeWhile (· ≠ sep)

/-- The method-specific id: what stands before any path, query or fragment. -/
def methodId (did : PyStr) : PyStr :=
  firstPiece (codePoint '#') (firstPiece (codePoint '?')
    (firstPiece (codePoint '/') (did.drop didPrefix.length)))

/-- `_did_suffix` -/
def didSuffix (did : PyStr) : Py PyStr := do
  raiseIf (¬ didPrefix <+: did) .addressError ["not a did:amp identifier: ", .repr did]
  -- no `try` here: a character outside the alphabet goes through as a `ValueError`
  let key ← base58Decode (methodId did)
  raiseIf (key.length ≠ 32) .addressError
    ["did:amp id does not decode to a 32-byte key: ", .repr did]
  .ok (methodId did)

def didToAddress (did : PyStr) : Py PyStr := do
  let suffix ← didSuffix did
  .ok (addressPrefix ++ suffix)

def signingKeyFromDid (did : PyStr) : Py Bytes := do
  let suffix ← didSuffix did
  base58Decode suffix

/-! ## Documents -/

/-- `_KIND_TO_SERVICE.get(name, "AMPEndpoint")` -/
def kindToService (name : PyStr) : PyStr :=
  if name = py "relay" then py "AMPRelay"
  else if name = py "http" then py "AMPInbox"
  else py "AMPEndpoint"

/-- The entry of one key. -/
def keyEntry (id type controller published : PyStr) : Json :=
  .obj [(py "id", .str id), (py "type", .str type), (py "controller", .str controller),
    (py "publicKeyMultibase", .str published)]

/-- The part of a document that the identifier alone yields, for the address it stands for. -/
def verificationPart (did address : PyStr) (signKey : Bytes) : Members :=
  [(py "@context", strs didContext), (py "id", .str did), (py "alsoKnownAs", strs [address]),
    (py "verificationMethod", .arr [keyEntry (did ++ py "#key-1") (py "Ed25519VerificationKey2020")
      did (multibaseB58 ed25519Multicodec signKey)]),
    (py "authentication", strs [did ++ py "#key-1"]),
    (py "assertionMethod", strs [did ++ py "#key-1"])]

/-- The truth value of a wire value. -/
def truthy : Json → Bool
  | .null => false
  | .bool b => b
  | .int n => n ≠ 0
  | .float bits => bits ≠ 0 && bits ≠ 0x8000000000000000
  | .str s => s ≠ []
  | .arr items => !items.isEmpty
  | .obj members => !members.isEmpty

/-- `address_to_did` of a field that is not type-checked. -/
def operatorDid : Json → Py PyStr
  | .str operator => addressToDid operator
  | v => raise .attributeError ["'", typeName v, "' object has no attribute 'startswith'"]

/-- The `controller` of a document. -/
def controllerPart (operator : Json) : Py Members :=
  if truthy operator then do
    let controller ← operatorDid operator
    .ok [(py "controller", .str controller)]
  else .ok []

/-- One transport endpoint as a service. -/
def serviceEntry (did : PyStr) (endpoint : PyStr × Json) : Json :=
  .obj [(py "id", .str (did ++ py "#" ++ endpoint.1)),
    (py "type", .str (kindToService endpoint.1)), (py "serviceEndpoint", endpoint.2)]

/-- The order of `sorted(card.endpoints.items())`: no two endpoints have one name. -/
def endpointLe (a b : PyStr × Json) : Prop := a.1 ≤ b.1

instance endpointLeDecidable : DecidableRel endpointLe := fun a b =>
  inferInstanceAs (Decidable (a.1 ≤ b.1))

/-- The `service` of a document: left out when there is none. -/
def servicePart (did : PyStr) (endpoints : Members) : Members :=
  if endpoints = [] then []
  else [(py "service", .arr ((endpoints.insertionSort endpointLe).map (serviceEntry did)))]

/-- `did_document` -/
def didDocument (card : AgentCard) : Py Members := do
  let did ← addressToDid card.address
  let signKey ← base58Decode card.signingKey
  let agreeKey ← base58Decode card.agreementKey
  let controller ← controllerPart card.operator
  .ok (verificationPart did card.address signKey
    ++ [(py "keyAgreement", .arr [keyEntry (did ++ py "#key-agreement")
      (py "X25519KeyAgreementKey2020") did (multibaseB58 x25519Multicodec agreeKey)])]
    ++ controller ++ servicePart did card.endpoints)

/-- `resolve` -/
def resolve (H : Host) (did : PyStr) (card : Option AgentCard) : Py Members := do
  let signingKey ← signingKeyFromDid did
  match card with
  | some card => do
      card.verify H []
      let address ← didToAddress did
      raiseIf (card.address ≠ address) .addressError
        ["card address does not match the DID being resolved"]
      didDocument card
  | none => do
      let address ← didToAddress did
      .ok (verificationPart (didPrefix ++ base58Encode signingKey) address signingKey)

/-! ## Reading an identifier -/

/-- The characters that end a method-specific id. -/
def EndsId (c : CodePoint) : Prop := c = codePoint '/' ∨ c = codePoint '?' ∨ c = codePoint '#'

instance endsIdDecidable (c : CodePoint) : Decidable (EndsId c) :=
  inferInstanceAs (Decidable (_ ∨ _))

/-- Splitting three times is cutting at the first character that ends the id. -/
theorem methodId_eq (did : PyStr) :
    methodId did = (did.drop didPrefix.length).takeWhile (fun c => ¬ EndsId c) := by
  simp only [methodId, firstPiece, List.takeWhile_takeWhile]
  congr 1
  funext c
  rw [decide_eq_decide]
  simp only [decide_eq_true_eq, EndsId, not_or]
  constructor
  · rintro ⟨hhash, hquery, hslash⟩
    exact ⟨hslash, hquery, hhash⟩
  · rintro ⟨hslash, hquery, hhash⟩
    exact ⟨hhash, hquery, hslash⟩

/-- What follows the id does not change it. -/
theorem takeWhile_append_stop {α : Type} {p : α → Bool} (s : List α) {c : α} (t : List α)
    (hc : p c = false) : (s ++ c :: t).takeWhile p = s.takeWhile p := by
  induction s with
  | nil => exact List.takeWhile_cons_of_neg (by rw [hc]; exact Bool.false_ne_true)
  | cons d s ih =>
      rw [List.cons_append]
      cases hd : p d with
      | true => rw [List.takeWhile_cons_of_pos hd, List.takeWhile_cons_of_pos hd, ih]
      | false =>
          have hneg : ¬ p d = true := by rw [hd]; exact Bool.false_ne_true
          rw [List.takeWhile_cons_of_neg hneg, List.takeWhile_cons_of_neg hneg]

theorem takeWhile_of_forall {α : Type} {p : α → Bool} {s : List α} (h : ∀ a ∈ s, p a = true) :
    s.takeWhile p = s := by
  induction s with
  | nil => rfl
  | cons a s ih =>
      rw [List.takeWhile_cons_of_pos (h a List.mem_cons_self),
        ih fun b hb => h b (List.mem_cons_of_mem a hb)]

/-- A character of the alphabet does not end an id. -/
theorem not_endsId_digitChar : ∀ d < 58, ¬ EndsId (digitChar d) := by decide

theorem not_endsId_base58Encode (data : Bytes) : ∀ c ∈ base58Encode data, ¬ EndsId c := by
  obtain ⟨ds, hds, htext, -⟩ := base58Decode_ok_iff.mp (base58Decode_base58Encode data)
  intro c hc
  rw [htext] at hc
  obtain ⟨d, hd, rfl⟩ := List.mem_map.mp hc
  exact not_endsId_digitChar d (hds d hd)

/-- The id of a key's identifier is the key's spelling, whatever follows it. -/
theorem methodId_of_key (key : Bytes) : methodId (didPrefix ++ base58Encode key) = base58Encode key := by
  rw [methodId_eq, List.drop_left]
  exact takeWhile_of_forall fun c hc => decide_eq_true (not_endsId_base58Encode key c hc)

theorem not_endsId_didPrefix {c : CodePoint} (hc : c ∈ didPrefix) : ¬ EndsId c := by
  have hall : didPrefix.all (fun c => ¬ EndsId c) = true := by decide
  exact of_decide_eq_true (List.all_eq_true.mp hall c hc)

/-- A path, query or fragment never completes the prefix. -/
theorem didPrefix_prefix_append {did t : PyStr} {c : CodePoint} (hc : EndsId c) :
    didPrefix <+: did ++ c :: t ↔ didPrefix <+: did := by
  constructor
  · intro h
    rcases List.prefix_or_prefix_of_prefix h (List.prefix_append did (c :: t)) with hle | hge
    · exact hle
    · -- the identifier would be a proper part of the prefix, which has no such character
      obtain ⟨rest, hrest⟩ := hge
      rw [← hrest] at h
      have hrest' : rest <+: c :: t := (List.prefix_append_right_inj did).mp h
      cases rest with
      | nil =>
          rw [List.append_nil] at hrest
          rw [hrest]
      | cons d rest =>
          obtain ⟨u, hu⟩ := hrest'
          cases hu
          have hmem : c ∈ didPrefix := by
            rw [← hrest]
            exact List.mem_append_right _ List.mem_cons_self
          exact absurd hc (not_endsId_didPrefix hmem)
  · exact fun h => h.trans (List.prefix_append did _)

theorem methodId_append {did t : PyStr} {c : CodePoint} (hc : EndsId c) (h : didPrefix <+: did) :
    methodId (did ++ c :: t) = methodId did := by
  rw [methodId_eq, methodId_eq, List.drop_append_of_le_length h.length_le]
  exact takeWhile_append_stop _ t (decide_eq_false (not_not.mpr hc))

/-- **WHICH IDENTIFIERS ARE ACCEPTED**, and for which key. -/
theorem signingKeyFromDid_ok_iff {did : PyStr} {key : Bytes} :
    signingKeyFromDid did = .ok key ↔
      didPrefix <+: did ∧ methodId did = base58Encode key ∧ key.length = 32 := by
  rw [signingKeyFromDid, bind_ok_iff]
  constructor
  · rintro ⟨suffix, hsuffix, hkey⟩
    obtain ⟨hstart, hsuffix⟩ := seq_ok_iff.mp hsuffix
    obtain ⟨decoded, hdecoded, hsuffix⟩ := bind_ok_iff.mp hsuffix
    obtain ⟨hlen, hsuffix⟩ := seq_ok_iff.mp hsuffix
    cases hsuffix
    rw [hdecoded] at hkey
    cases hkey
    exact ⟨not_not.mp ((raiseIf_ok_iff ..).mp hstart), (base58Encode_base58Decode hdecoded).symm,
      not_not.mp ((raiseIf_ok_iff ..).mp hlen)⟩
  · rintro ⟨hstart, hid, hlen⟩
    have hdecoded : base58Decode (methodId did) = .ok key := by
      rw [hid]
      exact base58Decode_base58Encode key
    refine ⟨methodId did, seq_ok_iff.mpr ⟨(raiseIf_ok_iff ..).mpr (not_not.mpr hstart), ?_⟩,
      hdecoded⟩
    exact bind_ok_iff.mpr ⟨key, hdecoded,
      seq_ok_iff.mpr ⟨(raiseIf_ok_iff ..).mpr (not_not.mpr hlen), rfl⟩⟩

/-- An identifier is for the address of its key. -/
theorem didToAddress_ok_iff {did address : PyStr} :
    didToAddress did = .ok address ↔
      ∃ key, signingKeyFromDid did = .ok key ∧ address = addressPrefix ++ base58Encode key := by
  rw [didToAddress, bind_ok_iff]
  constructor
  · rintro ⟨suffix, hsuffix, h⟩
    cases h
    obtain ⟨hstart, hrest⟩ := seq_ok_iff.mp hsuffix
    obtain ⟨key, hkey, hrest⟩ := bind_ok_iff.mp hrest
    obtain ⟨-, hrest⟩ := seq_ok_iff.mp hrest
    cases hrest
    exact ⟨key, bind_ok_iff.mpr ⟨_, hsuffix, hkey⟩, by rw [base58Encode_base58Decode hkey]⟩
  · rintro ⟨key, hkey, rfl⟩
    obtain ⟨suffix, hsuffix, hdecoded⟩ := bind_ok_iff.mp hkey
    exact ⟨suffix, hsuffix, by rw [base58Encode_base58Decode hdecoded]⟩

theorem addressToDid_ok_iff {address did : PyStr} :
    addressToDid address = .ok did ↔
      ∃ key, signingKeyFromAddress address = .ok key ∧ did = didPrefix ++ base58Encode key := by
  rw [addressToDid, bind_ok_iff]
  constructor
  · rintro ⟨key, hkey, h⟩
    cases h
    refine ⟨key, hkey, ?_⟩
    rw [(signingKeyFromAddress_ok_iff.mp hkey).2, List.drop_left]
  · rintro ⟨key, hkey, rfl⟩
    refine ⟨key, hkey, ?_⟩
    rw [(signingKeyFromAddress_ok_iff.mp hkey).2, List.drop_left]

/-! ## What reading an identifier raises -/

/-- Reading an identifier raises an `AddressError`, or what decoding its id raises. -/
theorem didSuffix_error {did : PyStr} :
    Raises (fun e => e.cls = .addressError ∨
      (didPrefix <+: did ∧ base58Decode (methodId did) = .error e)) (didSuffix did) := by
  rw [didSuffix]
  refine Raises.bind (raises_raiseIf (Or.inl rfl)) fun _ hstart => ?_
  rw [raiseIf_ok_iff, not_not] at hstart
  refine Raises.bind (fun e h => Or.inr ⟨hstart, h⟩) fun _ _ => ?_
  exact Raises.bind (raises_raiseIf (Or.inl rfl)) fun _ _ => raises_ok _

theorem didSuffix_of_not_base58 {did : PyStr} {e : PyError} (hstart : didPrefix <+: did)
    (h : base58Decode (methodId did) = .error e) : didSuffix did = .error e :=
  bind_error_iff.mpr (Or.inr ⟨(), (raiseIf_ok_iff ..).mpr (not_not.mpr hstart),
    bind_error_iff.mpr (Or.inl h)⟩)

theorem signingKeyFromDid_error {did : PyStr} :
    Raises (fun e => didSuffix did = .error e) (signingKeyFromDid did) := by
  rw [signingKeyFromDid]
  refine Raises.bind (fun e h => h) fun suffix hsuffix => ?_
  obtain ⟨-, hrest⟩ := seq_ok_iff.mp hsuffix
  obtain ⟨key, hkey, hrest⟩ := bind_ok_iff.mp hrest
  obtain ⟨-, hrest⟩ := seq_ok_iff.mp hrest
  cases hrest
  exact raises_of_ok hkey

theorem didToAddress_error {did : PyStr} :
    Raises (fun e => didSuffix did = .error e) (didToAddress did) :=
  Raises.bind (fun _ h => h) fun _ _ => raises_ok _

/-- **ADDRESSES GO THROUGH IDENTIFIERS** and come back, with their keys. -/
theorem address_roundTrip {address : PyStr} {key : Bytes}
    (h : signingKeyFromAddress address = .ok key) :
    ∃ did, addressToDid address = .ok did ∧ didToAddress did = .ok address ∧
      signingKeyFromDid did = .ok key := by
  obtain ⟨hlen, rfl⟩ := signingKeyFromAddress_ok_iff.mp h
  have hkey : signingKeyFromDid (didPrefix ++ base58Encode key) = .ok key :=
    signingKeyFromDid_ok_iff.mpr ⟨List.prefix_append _ _, methodId_of_key key, hlen⟩
  exact ⟨_, addressToDid_ok_iff.mpr ⟨key, h, rfl⟩, didToAddress_ok_iff.mpr ⟨key, hkey, rfl⟩, hkey⟩

/-- A path, query or fragment does not change the key. -/
theorem signingKeyFromDid_append {did t : PyStr} {c : CodePoint} (hc : EndsId c) {key : Bytes} :
    signingKeyFromDid (did ++ c :: t) = .ok key ↔ signingKeyFromDid did = .ok key := by
  rw [signingKeyFromDid_ok_iff, signingKeyFromDid_ok_iff, didPrefix_prefix_append hc]
  constructor
  · rintro ⟨hstart, hid, hlen⟩
    rw [methodId_append hc hstart] at hid
    exact ⟨hstart, hid, hlen⟩
  · rintro ⟨hstart, hid, hlen⟩
    rw [← methodId_append hc hstart (t := t)] at hid
    exact ⟨hstart, hid, hlen⟩

/-- The correspondence, as it concerns one identifier: every address comes back from its own, what
    follows the id changes nothing, equal keys have equal addresses, and every failure is an
    `AddressError`. -/
structure Corresponds (did : PyStr) : Prop where
  roundTrip : ∀ address key, signingKeyFromAddress address = .ok key →
    ∃ d, addressToDid address = .ok d ∧ didToAddress d = .ok address ∧
      signingKeyFromDid d = .ok key
  suffix : ∀ c t, EndsId c → ∀ address,
    didToAddress (did ++ c :: t) = .ok address ↔ didToAddress did = .ok address
  unique : ∀ other key address, signingKeyFromDid did = .ok key →
    signingKeyFromDid other = .ok key → didToAddress did = .ok address →
      didToAddress other = .ok address
  failure : ∀ e, didToAddress did = .error e ∨ signingKeyFromDid did = .error e →
    e.cls = .addressError

/-- **WHEN A MALFORMED IDENTIFIER IS AN `AddressError`**: exactly when its id has only characters of
    the base58 alphabet.  The rest of the correspondence holds of every identifier. -/
theorem dids_correspond_iff (did : PyStr) :
    Corresponds did ↔ (didPrefix <+: did → ∀ c ∈ methodId did, c ∈ alphabet) := by
  constructor
  · intro h hstart
    rw [← base58Decode_ok_iff_alphabet]
    obtain hok | ⟨e, he⟩ := ok_or_error (base58Decode (methodId did))
    · exact hok
    · have hraise := didSuffix_of_not_base58 hstart he
      have hcls := h.failure e (Or.inl (bind_error_iff.mpr (Or.inl hraise)))
      rw [base58Decode_error he] at hcls
      cases hcls
  · intro h
    refine ⟨fun address key => address_roundTrip, fun c t hc address => ?_,
      fun other key address hkey hother haddress => ?_, fun e he => ?_⟩
    · rw [didToAddress_ok_iff, didToAddress_ok_iff]
      simp only [signingKeyFromDid_append hc]
    · obtain ⟨key', hkey', rfl⟩ := didToAddress_ok_iff.mp haddress
      rw [hkey] at hkey'
      cases hkey'
      exact didToAddress_ok_iff.mpr ⟨key, hother, rfl⟩
    · have hsuffix : didSuffix did = .error e :=
        he.elim (fun h => didToAddress_error h) fun h => signingKeyFromDid_error h
      obtain hcls | ⟨hstart, hdecode⟩ := didSuffix_error hsuffix
      · exact hcls
      · obtain ⟨key, hkey⟩ := base58Decode_ok_iff_alphabet.mpr (h hstart)
        rw [hkey] at hdecode
        cases hdecode

/-- A zero is no base58 digit: reading `did:amp:0` raises a plain `ValueError`. -/
theorem malformed_did_escapes :
    ¬ Corresponds (py "did:amp:0") ∧
      ∃ e, signingKeyFromDid (py "did:amp:0") = .error e ∧ e.cls = .valueError := by
  have hraise : signingKeyFromDid (py "did:amp:0")
      = .error ⟨.valueError, ["substring not found"]⟩ := by decide
  refine ⟨fun h => ?_, _, hraise, rfl⟩
  have hcls := h.failure _ (Or.inr hraise)
  cases hcls

/-! ## Documents -/

/-- **A PUBLISHED KEY IS READ BACK.** -/
theorem decodeMultibaseB58_multibaseB58 (multicodec raw : Bytes) :
    decodeMultibaseB58 (multibaseB58 multicodec raw) multicodec = .ok raw := by
  refine seq_ok_iff.mpr ⟨(raiseIf_ok_iff ..).mpr (not_not.mpr (List.prefix_append _ _)), ?_⟩
  refine bind_ok_iff.mpr ⟨multicodec ++ raw, base58Decode_base58Encode _, ?_⟩
  refine seq_ok_iff.mpr ⟨(raiseIf_ok_iff ..).mpr (not_not.mpr (List.prefix_append _ _)), ?_⟩
  rw [List.drop_left]

/-- The members that both kinds of document have. -/
def sharedMembers : List PyStr :=
  [py "@context", py "id", py "alsoKnownAs", py "verificationMethod", py "authentication",
    py "assertionMethod"]

theorem map_fst_verificationPart (did address : PyStr) (signKey : Bytes) :
    (verificationPart did address signKey).map Prod.fst = sharedMembers := rfl

/-- The key a document publishes for verification. -/
def PublishesKey (document : Members) (key : Bytes) : Prop :=
  ∃ entry published, document.lookup (py "verificationMethod") = some (.arr [.obj entry]) ∧
    entry.lookup (py "publicKeyMultibase") = some (.str published) ∧
    decodeMultibaseB58 published ed25519Multicodec = .ok key

theorem publishesKey_verificationPart (did address : PyStr) (signKey : Bytes) (rest : Members) :
    PublishesKey (verificationPart did address signKey ++ rest) signKey :=
  ⟨_, _, rfl, rfl, decodeMultibaseB58_multibaseB58 _ _⟩

/-- What a card adds stands behind the part that the identifier yields. -/
theorem lookup_verificationPart_append {did address : PyStr} {signKey : Bytes} {rest : Members}
    {k : PyStr} (hk : k ∈ sharedMembers) :
    (verificationPart did address signKey ++ rest).lookup k
      = (verificationPart did address signKey).lookup k := by
  rw [List.lookup_append]
  have hmem : k ∈ (verificationPart did address signKey).map Prod.fst := by
    rw [map_fst_verificationPart]
    exact hk
  obtain ⟨v, hv⟩ := Option.ne_none_iff_exists'.mp
    (fun hnone => AgentDict.lookup_eq_none.mp hnone hmem)
  rw [hv]
  rfl

/-- What resolving without a card returns. -/
theorem resolve_none_ok_iff {H : Host} {did : PyStr} {document : Members} :
    resolve H did none = .ok document ↔ ∃ key, signingKeyFromDid did = .ok key ∧
      document = verificationPart (didPrefix ++ base58Encode key)
        (addressPrefix ++ base58Encode key) key := by
  rw [resolve, bind_ok_iff]
  constructor
  · rintro ⟨key, hkey, h⟩
    obtain ⟨address, haddress, h⟩ := bind_ok_iff.mp h
    cases h
    obtain ⟨key', hkey', rfl⟩ := didToAddress_ok_iff.mp haddress
    rw [hkey] at hkey'
    cases hkey'
    exact ⟨key, hkey, rfl⟩
  · rintro ⟨key, hkey, rfl⟩
    exact ⟨key, hkey, bind_ok_iff.mpr ⟨_, didToAddress_ok_iff.mpr ⟨key, hkey, rfl⟩, rfl⟩⟩

/-- A document built of a verified card begins with the part its address yields. -/
theorem didDocument_ok {card : AgentCard} {key : Bytes} {document : Members}
    (hkeys : card.checkKeys = .ok key) (h : didDocument card = .ok document) :
    ∃ rest, document = verificationPart (didPrefix ++ base58Encode key) card.address key ++ rest := by
  obtain ⟨haddress, hsigning, -⟩ := AgentCard.checkKeys_ok_iff.mp hkeys
  obtain ⟨did, hdid, h⟩ := bind_ok_iff.mp h
  obtain ⟨signKey, hsignKey, h⟩ := bind_ok_iff.mp h
  obtain ⟨agreeKey, -, h⟩ := bind_ok_iff.mp h
  obtain ⟨controller, -, h⟩ := bind_ok_iff.mp h
  cases h
  obtain ⟨key', hkey', rfl⟩ := addressToDid_ok_iff.mp hdid
  rw [haddress] at hkey'
  cases hkey'
  rw [hsigning] at hsignKey
  cases hsignKey
  exact ⟨_, by rw [List.append_assoc, List.append_assoc]⟩

/-- **A CARD REFINES THE DOCUMENT**: where resolving with a card returns, resolving without one
    does, and the two documents have the same shared members, whatever path, query or fragment the
    identifier carries.  The key they publish is the one the card's address certifies. -/
theorem resolve_refines (H : Host) (did : PyStr) (card : AgentCard) (document : Members)
    (h : resolve H did (some card) = .ok document) :
    ∃ minimal, resolve H did none = .ok minimal ∧
      (∀ k ∈ sharedMembers, minimal.lookup k = document.lookup k) ∧
      ∃ key, signingKeyFromAddress card.address = .ok key ∧ PublishesKey document key ∧
        PublishesKey minimal key := by
  obtain ⟨key, hkey, h⟩ := bind_ok_iff.mp h
  obtain ⟨hverify, h⟩ := seq_ok_iff.mp h
  obtain ⟨address, haddress, h⟩ := bind_ok_iff.mp h
  obtain ⟨hsame, hdocument⟩ := seq_ok_iff.mp h
  rw [raiseIf_ok_iff, not_not] at hsame
  -- the card declares the key of its address, and that is the key of the identifier
  obtain ⟨cardKey, _, _, hkeys, -, -, -, -⟩ := AgentCard.verify_ok_iff.mp hverify
  obtain ⟨hcard, -, -⟩ := AgentCard.checkKeys_ok_iff.mp hkeys
  obtain ⟨key', hkey', rfl⟩ := didToAddress_ok_iff.mp haddress
  rw [hkey] at hkey'
  cases hkey'
  have hown : signingKeyFromAddress card.address = .ok key := by
    rw [hsame]
    exact signingKeyFromAddress_ok_iff.mpr ⟨(signingKeyFromDid_ok_iff.mp hkey).2.2, rfl⟩
  rw [hown] at hcard
  cases hcard
  obtain ⟨rest, rfl⟩ := didDocument_ok hkeys hdocument
  refine ⟨_, resolve_none_ok_iff.mpr ⟨key, hkey, rfl⟩, fun k hk => ?_, key, hown,
    publishesKey_verificationPart _ _ key rest, ?_⟩
  · rw [lookup_verificationPart_append hk, hsame]
  · have hpublishes := publishesKey_verificationPart (didPrefix ++ base58Encode key)
      (addressPrefix ++ base58Encode key) key []
    rwa [List.append_nil] at hpublishes

/-! ## The document of a sample card -/

/-- The card of key 1, operated by key 2, signed in the ideal service. -/
def operatedCard : AgentCard :=
  { AgentCardCopy.plainCard with
    operator := .str (constAddress 2)
    endpoints := [(py "http", .str (py "https://worker.example"))]
    signature := .str idealSignature }

/-- The identifier of key 1, with a fragment. -/
def sampleDid : PyStr := didPrefix ++ base58Encode (constKey 1) ++ py "#key-1"

theorem asciiJson_operatedCard : AsciiJson operatedCard.payload := by
  refine .obj_cons (by decide) (.str (by decide)) ?_
  refine .obj_cons (by decide) (.str (isAscii_constAddress 1)) ?_
  refine .obj_cons (by decide) (.str (by decide)) ?_
  refine .obj_cons (by decide) (.str (by decide)) ?_
  refine .obj_cons (by decide) (.str (isAscii_constAddress 2)) ?_
  refine .obj_cons (by decide) (.str (isAscii_of_base58Decode (base58Decode_base58Encode _))) ?_
  refine .obj_cons (by decide) (.str (isAscii_of_base58Decode (base58Decode_base58Encode _))) ?_
  refine .obj_cons (by decide) .null ?_
  refine .obj_cons (by decide) (.arr fun v hv => absurd hv List.not_mem_nil) ?_
  refine .obj_cons (by decide) (.obj_cons (by decide) (.str (by decide)) .obj_nil) ?_
  exact .obj_cons (by decide) (.str isAscii_nil) .obj_nil

theorem operatedCard_verify : operatedCard.verify (idealHost fun _ _ => true) [] = .ok () := by
  obtain ⟨message, hmessage⟩ := signingInput_ascii (idealHost_nfcLaws fun _ _ => true)
    (show IsContext contextAgentCard by decide) asciiJson_operatedCard
  exact AgentCard.verify_ok_iff.mpr ⟨constKey 1, _, message,
    AgentCard.checkKeys_ok_iff.mpr ⟨signingKey_constAddress 1, base58Decode_base58Encode _, _,
      base58Decode_base58Encode _⟩, decodeSignature_b64encode _, hmessage,
    fun name hname => absurd hname List.not_mem_nil, rfl⟩

theorem controllerPart_operatedCard : controllerPart operatedCard.operator
    = .ok [(py "controller", .str (didPrefix ++ base58Encode (constKey 2)))] := by
  rw [controllerPart, if_pos (show truthy operatedCard.operator = true from rfl)]
  exact bind_ok_iff.mpr ⟨_, addressToDid_ok_iff.mpr ⟨_, signingKey_constAddress 2, rfl⟩, rfl⟩

theorem didDocument_operatedCard : ∃ document, didDocument operatedCard = .ok document := by
  rw [← raises_false_iff, didDocument]
  refine (raises_of_ok (addressToDid_ok_iff.mpr ⟨_, signingKey_constAddress 1, rfl⟩)).bind
    fun _ _ => ?_
  refine (raises_of_ok (base58Decode_base58Encode _)).bind fun _ _ => ?_
  refine (raises_of_ok (base58Decode_base58Encode _)).bind fun _ _ => ?_
  exact (raises_of_ok controllerPart_operatedCard).bind fun _ _ => raises_ok _

theorem resolve_operatedCard :
    ∃ document, resolve (idealHost fun _ _ => true) sampleDid (some operatedCard) = .ok document := by
  have hkey : signingKeyFromDid sampleDid = .ok (constKey 1) :=
    (signingKeyFromDid_append (show EndsId (codePoint '#') by decide)).mpr
      (signingKeyFromDid_ok_iff.mpr ⟨List.prefix_append _ _, methodId_of_key _, rfl⟩)
  obtain ⟨document, hdocument⟩ := didDocument_operatedCard
  refine ⟨document, bind_ok_iff.mpr ⟨_, hkey, seq_ok_iff.mpr ⟨operatedCard_verify, ?_⟩⟩⟩
  refine bind_ok_iff.mpr ⟨_, didToAddress_ok_iff.mpr ⟨_, hkey, rfl⟩, ?_⟩
  exact seq_ok_iff.mpr ⟨(raiseIf_ok_iff ..).mpr (not_not.mpr rfl), hdocument⟩

/-- With its operator and its endpoint, the card of key 1 agrees with key 1's own document. -/
theorem resolve_refines_operatedCard :
    ∃ document minimal, resolve (idealHost fun _ _ => true) sampleDid (some operatedCard)
        = .ok document ∧
      resolve (idealHost fun _ _ => true) sampleDid none = .ok minimal ∧
      ∀ k ∈ sharedMembers, minimal.lookup k = document.lookup k := by
  obtain ⟨document, h⟩ := resolve_operatedCard
  obtain ⟨minimal, hminimal, hshared, -⟩ :=
    resolve_refines (idealHost fun _ _ => true) sampleDid operatedCard document h
  exact ⟨document, minimal, h, hminimal, hshared⟩

end AgentDid
