import AgentId.Delegation
import AgentId.Dict

/-!
# Agent cards (`card.py`)

An `AgentCard` is read from a wire object: the required fields are checked to be strings, the
others are taken as they come, and every unknown field is kept and signed.  The constructor checks
that no extension shadows a field and that every critical name is an extension.

* **`AgentCard.modelValidate_ok_iff`** — which wire objects are cards.
* **`AgentCard.verify_ok_iff`** — when a card verifies.
-/

namespace AgentCards

open AgentPy AgentDict AgentBase58 AgentJson AgentSigning AgentSerde AgentDelegation

/-- `DEFAULT_PROTOCOL_VERSION` -/
def defaultProtocolVersion : PyStr := py "0.2"

inductive ParticipantKind where
  | agent
  | human
  | service
  deriving DecidableEq

def ParticipantKind.value : ParticipantKind → PyStr
  | .agent => py "agent"
  | .human => py "human"
  | .service => py "service"

/-- `ParticipantKind(value)`: the member with this value. -/
def participantKind : Json → Py ParticipantKind
  | .str s =>
      if s = py "agent" then .ok .agent
      else if s = py "human" then .ok .human
      else if s = py "service" then .ok .service
      else raise .valueError [.repr s, " is not a valid ParticipantKind"]
  | v => raise .valueError [typeName v, " is not a valid ParticipantKind"]

theorem participantKind_ok_iff {v : Json} {kind : ParticipantKind} :
    participantKind v = .ok kind ↔ v = .str kind.value := by
  constructor
  · intro h
    cases v with
    | str s =>
        rw [participantKind] at h
        split_ifs at h with hagent hhuman hservice
        · cases h
          exact congrArg Json.str hagent
        · cases h
          exact congrArg Json.str hhuman
        · cases h
          exact congrArg Json.str hservice
        · cases h
    | _ => cases h
  · rintro rfl
    cases kind <;> decide

/-- The fields of the dataclass. -/
def cardFields : List PyStr :=
  [py "amp", py "address", py "name", py "kind", py "operator", py "signing_key",
    py "agreement_key", py "agreement_prekey", py "payload_types", py "endpoints",
    py "policy_summary", py "signature", py "critical", py "extra"]

/-- `_REQUIRED_FIELDS` -/
def requiredCardFields : List PyStr :=
  [py "address", py "name", py "signing_key", py "agreement_key"]

/-- The signed description of an agent.  Fields the constructor does not check hold any value. -/
structure AgentCard where
  amp : Json
  address : PyStr
  name : PyStr
  kind : ParticipantKind
  operator : Json
  signingKey : PyStr
  agreementKey : PyStr
  agreementPrekey : Json
  payloadTypes : List Json
  endpoints : Members
  policySummary : Json
  signature : Json
  critical : List PyStr
  extra : Members
  extra_shadows_nothing : ∀ k ∈ extra.map Prod.fst, k ∉ cardFields
  critical_present : ∀ name ∈ critical, name ∈ extra.map Prod.fst

/-- `AgentCard._payload` -/
def AgentCard.payload (c : AgentCard) : Json :=
  .obj ([(py "amp", c.amp), (py "address", .str c.address), (py "name", .str c.name),
      (py "kind", .str c.kind.value), (py "operator", c.operator),
      (py "signing_key", .str c.signingKey), (py "agreement_key", .str c.agreementKey),
      (py "agreement_prekey", c.agreementPrekey), (py "payload_types", .arr c.payloadTypes),
      (py "endpoints", .obj c.endpoints), (py "policy_summary", c.policySummary)]
    ++ (if c.critical = [] then [] else [(py "critical", strs (sortedStrs c.critical))])
    ++ c.extra)

/-- `AgentCard.model_dump`: the extensions stand among the fields. -/
def AgentCard.modelDump (c : AgentCard) : Members :=
  [(py "amp", c.amp), (py "address", .str c.address), (py "name", .str c.name),
    (py "kind", .str c.kind.value), (py "operator", c.operator),
    (py "signing_key", .str c.signingKey), (py "agreement_key", .str c.agreementKey),
    (py "agreement_prekey", c.agreementPrekey), (py "payload_types", .arr c.payloadTypes),
    (py "endpoints", .obj c.endpoints), (py "policy_summary", c.policySummary),
    (py "signature", c.signature)]
  ++ (if c.critical = [] then [] else [(py "critical", strs (sortedStrs c.critical))])
  ++ c.extra

/-- The part of `AgentCard.verify` before the signature: the key the address certifies is the one
    the card declares, and both declared keys are base58. -/
def AgentCard.checkKeys (c : AgentCard) : Py Bytes := do
  let addressKey ← signingKeyFromAddress c.address
  let declaredKey ← base58Decode c.signingKey
  raiseIf (addressKey ≠ declaredKey) .signatureError
    ["card signing_key does not match its address"]
  let _ ← base58Decode c.agreementKey
  .ok declaredKey

def AgentCard.verify (H : Host) (c : AgentCard) (understoodExtensions : List PyStr) : Py Unit := do
  let signing ← c.checkKeys
  verifyPayload H signing contextAgentCard c.payload c.signature
  let unrecognized := c.critical.filter (· ∉ understoodExtensions)
  raiseIf (unrecognized ≠ []) .signatureError
    ["card marks extension fields critical that this verifier does not understand: ",
      .names (sortedStrs unrecognized.dedup)]

/-! ## Reading the wire form -/

/-- `AgentCard.__post_init__`, with `ParticipantKind(...)` as `readKind`: it is the one step whose
    outcome can depend on how deep the interpreter can recurse. -/
def AgentCard.postInitWith (readKind : Json → Py ParticipantKind)
    (amp address name kind operator signingKey agreementKey agreementPrekey payloadTypes endpoints
      policySummary signature critical : Json) (extra : Members) : Py AgentCard := do
  let address ← requireStr (py "address") address
  let name ← requireStr (py "name") name
  let signingKey ← requireStr (py "signing_key") signingKey
  let agreementKey ← requireStr (py "agreement_key") agreementKey
  let endpoints ← requireMapping (py "endpoints") endpoints
  let names := extra.map Prod.fst
  (if hshadow : ∀ k ∈ names, k ∉ cardFields then do
    let kind ← readKind kind
    let payloadTypes ← iterate payloadTypes
    let items ← iterate critical
    let critical ← items.mapM (requireStr (py "critical entry"))
    (if hdangling : ∀ name ∈ critical, name ∈ names then
      .ok ⟨amp, address, name, kind, operator, signingKey, agreementKey, agreementPrekey,
        payloadTypes, endpoints, policySummary, signature, critical, extra, hshadow, hdangling⟩
    else raise .valueError
      ["critical names extension fields not present on the card: ",
        .names (sortedStrs (critical.filter (· ∉ names)).dedup)])
  else raise .valueError
    ["extra must not shadow known card fields: ", .names (sortedStrs (names.filter (· ∈ cardFields)))])

/-- The default of `payload_types`. -/
def defaultPayloadTypes : Json := .arr [.str (py "text/plain"), .str (py "application/json")]

/-- `cls(**kwargs, extra=extra)`, with the fields the wire object has. -/
def AgentCard.fromFieldsWith (readKind : Json → Py ParticipantKind) (members : Members) :
    Py AgentCard := do
  let address ← getField members (py "address")
  let name ← getField members (py "name")
  let signingKey ← getField members (py "signing_key")
  let agreementKey ← getField members (py "agreement_key")
  AgentCard.postInitWith readKind
    (getFieldOr members (py "amp") (.str defaultProtocolVersion)) address name
    (getFieldOr members (py "kind") (.str ParticipantKind.agent.value))
    (getFieldOr members (py "operator") .null) signingKey agreementKey
    (getFieldOr members (py "agreement_prekey") .null)
    (getFieldOr members (py "payload_types") defaultPayloadTypes)
    (getFieldOr members (py "endpoints") (.obj []))
    (getFieldOr members (py "policy_summary") (.str []))
    (getFieldOr members (py "signature") (.str []))
    (getFieldOr members (py "critical") (.arr []))
    (members.filter (·.1 ∉ cardFields))

/-- `except (TypeError, ValueError) as exc: raise CardError(...) from exc` -/
def asCardError {α : Type} : Py α → Py α
  | .ok a => .ok a
  | .error e =>
      if e.cls = .typeError ∨ e.cls = .valueError then
        raise .cardError ("invalid agent card: " :: e.message)
      else .error e

def AgentCard.modelValidateWith (readKind : Json → Py ParticipantKind) : Json → Py AgentCard
  | .obj members => do
      let missing := requiredCardFields.filter (· ∉ members.map Prod.fst)
      raiseIf (missing ≠ []) .cardError
        ["invalid agent card: missing ", .str ((py ", ").intercalate missing)]
      asCardError (AgentCard.fromFieldsWith readKind members)
  | data => raise .cardError
      ["invalid agent card: expected a mapping, got ", typeName data]

def AgentCard.modelValidate : Json → Py AgentCard := AgentCard.modelValidateWith participantKind

/-! ## What a card was read from -/

/-- The card holds what the wire object says, with the defaults of what it leaves out. -/
structure ReadFrom (members : Members) (c : AgentCard) : Prop where
  amp : c.amp = getFieldOr members (py "amp") (.str defaultProtocolVersion)
  address : members.lookup (py "address") = some (.str c.address)
  name : members.lookup (py "name") = some (.str c.name)
  kind : participantKind (getFieldOr members (py "kind") (.str ParticipantKind.agent.value))
    = .ok c.kind
  operator : c.operator = getFieldOr members (py "operator") .null
  signingKey : members.lookup (py "signing_key") = some (.str c.signingKey)
  agreementKey : members.lookup (py "agreement_key") = some (.str c.agreementKey)
  agreementPrekey : c.agreementPrekey = getFieldOr members (py "agreement_prekey") .null
  payloadTypes : iterate (getFieldOr members (py "payload_types") defaultPayloadTypes)
    = .ok c.payloadTypes
  endpoints : getFieldOr members (py "endpoints") (.obj []) = .obj c.endpoints
  policySummary : c.policySummary = getFieldOr members (py "policy_summary") (.str [])
  signature : c.signature = getFieldOr members (py "signature") (.str [])
  critical : iterate (getFieldOr members (py "critical") (.arr [])) = .ok (c.critical.map .str)
  extra : c.extra = members.filter (·.1 ∉ cardFields)

theorem asCardError_ok_iff {α : Type} {x : Py α} {a : α} : asCardError x = .ok a ↔ x = .ok a := by
  cases x with
  | ok b => exact Iff.rfl
  | error e =>
      refine iff_of_false (fun h => ?_) fun h => by cases h
      rw [asCardError] at h
      split_ifs at h
      cases h

theorem extensions_shadow_nothing (members : Members) :
    ∀ k ∈ (members.filter (·.1 ∉ cardFields)).map Prod.fst, k ∉ cardFields := by
  intro k hk
  obtain ⟨m, hm, rfl⟩ := List.mem_map.mp hk
  exact of_decide_eq_true (List.mem_filter.mp hm).2

/-- What the constructor accepts, of the members no field is named after. -/
theorem AgentCard.postInitWith_ok_iff {readKind : Json → Py ParticipantKind}
    {amp address name kind operator signingKey agreementKey agreementPrekey payloadTypes endpoints
      policySummary signature critical : Json} {members : Members} {c : AgentCard} :
    AgentCard.postInitWith readKind amp address name kind operator signingKey agreementKey agreementPrekey
        payloadTypes endpoints policySummary signature critical
        (members.filter (·.1 ∉ cardFields)) = .ok c ↔
      (address = .str c.address ∧ name = .str c.name ∧ signingKey = .str c.signingKey ∧
        agreementKey = .str c.agreementKey ∧ endpoints = .obj c.endpoints) ∧
      (readKind kind = .ok c.kind ∧ iterate payloadTypes = .ok c.payloadTypes ∧
        iterate critical = .ok (c.critical.map .str)) ∧
      c.amp = amp ∧ c.operator = operator ∧ c.agreementPrekey = agreementPrekey ∧
        c.policySummary = policySummary ∧ c.signature = signature ∧
        c.extra = members.filter (·.1 ∉ cardFields) := by
  rw [AgentCard.postInitWith]
  constructor
  · intro h
    obtain ⟨_, haddress, h⟩ := bind_ok_iff.mp h
    obtain ⟨_, hname, h⟩ := bind_ok_iff.mp h
    obtain ⟨_, hsigning, h⟩ := bind_ok_iff.mp h
    obtain ⟨_, hagreement, h⟩ := bind_ok_iff.mp h
    obtain ⟨_, hendpoints, h⟩ := bind_ok_iff.mp h
    simp only at h
    rw [dif_pos (extensions_shadow_nothing members)] at h
    obtain ⟨_, hkind, h⟩ := bind_ok_iff.mp h
    obtain ⟨_, hpayload, h⟩ := bind_ok_iff.mp h
    obtain ⟨items, hitems, h⟩ := bind_ok_iff.mp h
    obtain ⟨names, hnames, h⟩ := bind_ok_iff.mp h
    rw [mapM_requireStr_ok_iff.mp hnames] at hitems
    split_ifs at h
    · cases h
      exact ⟨⟨requireStr_ok_iff.mp haddress, requireStr_ok_iff.mp hname,
        requireStr_ok_iff.mp hsigning, requireStr_ok_iff.mp hagreement,
        requireMapping_ok_iff.mp hendpoints⟩, ⟨hkind, hpayload, hitems⟩, rfl, rfl, rfl, rfl, rfl, rfl⟩
    · cases h
  · obtain ⟨amp, address, name, kind, operator, signingKey, agreementKey, agreementPrekey,
      payloadTypes, endpoints, policySummary, signature, critical, extra, hshadow, hdangling⟩ := c
    rintro ⟨⟨rfl, rfl, rfl, rfl, rfl⟩, ⟨hkind, hpayload, hcritical⟩, rfl, rfl, rfl, rfl, rfl, rfl⟩
    refine bind_ok_iff.mpr ⟨_, rfl, bind_ok_iff.mpr ⟨_, rfl, bind_ok_iff.mpr ⟨_, rfl, ?_⟩⟩⟩
    refine bind_ok_iff.mpr ⟨_, rfl, bind_ok_iff.mpr ⟨_, rfl, ?_⟩⟩
    simp only
    rw [dif_pos hshadow]
    refine bind_ok_iff.mpr ⟨kind, hkind, bind_ok_iff.mpr ⟨payloadTypes, hpayload, ?_⟩⟩
    refine bind_ok_iff.mpr ⟨_, hcritical, bind_ok_iff.mpr ⟨critical, ?_, ?_⟩⟩
    · exact mapM_requireStr_ok_iff.mpr rfl
    · exact dif_pos hdangling

/-- What is read of the members, where the kinds that are read are the kinds there are. -/
theorem AgentCard.modelValidateWith_ok_iff {readKind : Json → Py ParticipantKind}
    (hread : ∀ {v kind}, readKind v = .ok kind ↔ participantKind v = .ok kind) {members : Members}
    {c : AgentCard} :
    AgentCard.modelValidateWith readKind (.obj members) = .ok c ↔ ReadFrom members c := by
  rw [AgentCard.modelValidateWith, bind_ok_iff]
  simp only [raiseIf_ok_iff, not_not, asCardError_ok_iff]
  constructor
  · rintro ⟨_, -, h⟩
    obtain ⟨_, haddress, h⟩ := bind_ok_iff.mp h
    obtain ⟨_, hname, h⟩ := bind_ok_iff.mp h
    obtain ⟨_, hsigning, h⟩ := bind_ok_iff.mp h
    obtain ⟨_, hagreement, h⟩ := bind_ok_iff.mp h
    obtain ⟨⟨rfl, rfl, rfl, rfl, hendpoints⟩, ⟨hkind, hpayload, hcritical⟩, hamp, hoperator, hprekey,
      hsummary, hsignature, hextra⟩ := AgentCard.postInitWith_ok_iff.mp h
    exact ⟨hamp, getField_ok_iff.mp haddress, getField_ok_iff.mp hname, hread.mp hkind, hoperator,
      getField_ok_iff.mp hsigning, getField_ok_iff.mp hagreement, hprekey, hpayload, hendpoints,
      hsummary, hsignature, hcritical, hextra⟩
  · intro R
    have hall : ∀ k ∈ requiredCardFields, k ∈ members.map Prod.fst := by
      simp only [requiredCardFields, List.forall_mem_cons, List.not_mem_nil, false_imp_iff,
        implies_true, and_true]
      exact ⟨mem_keys_iff.mpr ⟨_, R.address⟩, mem_keys_iff.mpr ⟨_, R.name⟩,
        mem_keys_iff.mpr ⟨_, R.signingKey⟩, mem_keys_iff.mpr ⟨_, R.agreementKey⟩⟩
    refine ⟨(), List.filter_eq_nil_iff.mpr fun k hk => by simpa using hall k hk, ?_⟩
    refine bind_ok_iff.mpr ⟨_, getField_ok_iff.mpr R.address, ?_⟩
    refine bind_ok_iff.mpr ⟨_, getField_ok_iff.mpr R.name, ?_⟩
    refine bind_ok_iff.mpr ⟨_, getField_ok_iff.mpr R.signingKey, ?_⟩
    refine bind_ok_iff.mpr ⟨_, getField_ok_iff.mpr R.agreementKey, AgentCard.postInitWith_ok_iff.mpr ?_⟩
    exact ⟨⟨rfl, rfl, rfl, rfl, R.endpoints⟩, ⟨hread.mpr R.kind, R.payloadTypes, R.critical⟩, R.amp,
      R.operator, R.agreementPrekey, R.policySummary, R.signature, R.extra⟩

/-- **WHICH WIRE OBJECTS ARE CARDS**, and of which card. -/
theorem AgentCard.modelValidate_ok_iff {members : Members} {c : AgentCard} :
    AgentCard.modelValidate (.obj members) = .ok c ↔ ReadFrom members c :=
  AgentCard.modelValidateWith_ok_iff Iff.rfl

/-- What the keys of a card must be. -/
theorem AgentCard.checkKeys_ok_iff {c : AgentCard} {key : Bytes} :
    c.checkKeys = .ok key ↔ signingKeyFromAddress c.address = .ok key ∧
      base58Decode c.signingKey = .ok key ∧ ∃ agreement, base58Decode c.agreementKey = .ok agreement := by
  simp only [checkKeys, bind_ok_iff, raiseIf_ok_iff, not_not, Except.ok.injEq]
  constructor
  · rintro ⟨_, haddress, _, hsigning, _, rfl, agreement, hagreement, rfl⟩
    exact ⟨haddress, hsigning, agreement, hagreement⟩
  · rintro ⟨haddress, hsigning, agreement, hagreement⟩
    exact ⟨key, haddress, key, hsigning, (), rfl, agreement, hagreement, rfl⟩

/-- **WHEN A CARD VERIFIES**: its keys agree, its signature covers its payload, and every critical
    name is understood. -/
theorem AgentCard.verify_ok_iff {H : Host} {c : AgentCard} {understood : List PyStr} :
    c.verify H understood = .ok () ↔
      ∃ key raw message, c.checkKeys = .ok key ∧ decodeSignature c.signature = .ok raw ∧
        signingInput H contextAgentCard c.payload = .ok message ∧
        (∀ name ∈ c.critical, name ∈ understood) ∧ H.ed25519Verify key raw message = true := by
  have hcritical : c.critical.filter (· ∉ understood) = [] ↔ ∀ name ∈ c.critical, name ∈ understood := by
    simp [List.filter_eq_nil_iff]
  rw [AgentCard.verify, bind_ok_iff]
  constructor
  · rintro ⟨key, hkey, h⟩
    obtain ⟨_, hverify, h⟩ := bind_ok_iff.mp h
    obtain ⟨raw, message, hraw, hmessage, hverify⟩ := verifyPayload_ok_iff.mp hverify
    have hall := not_not.mp ((raiseIf_ok_iff _ _ _ _).mp h)
    exact ⟨key, raw, message, hkey, hraw, hmessage, hcritical.mp hall, hverify⟩
  · rintro ⟨key, raw, message, hkey, hraw, hmessage, hall, hverify⟩
    refine ⟨key, hkey, bind_ok_iff.mpr ⟨(), ?_, ?_⟩⟩
    · exact verifyPayload_ok_iff.mpr ⟨raw, message, hraw, hmessage, hverify⟩
    · exact (raiseIf_ok_iff _ _ _ _).mpr (not_not.mpr (hcritical.mpr hall))

end AgentCards
