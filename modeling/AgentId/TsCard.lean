import AgentId.Card
import AgentId.TsDelegation

/-!
# Agent cards in TypeScript (`card.ts`, `critical.ts`)

`AgentCard.fromJSON` takes a default for a member that is `null` as for one that is absent, keeps
the critical names as they are listed, and builds the extensions property by property.

* **`fromJSON_ok_iff`** — which wire objects are cards.
* **`TsAgentCard.verify_ok_iff`** — when a card verifies.
* **`TsReadFrom.payload_eq`** — what is signed, of the wire object a card was read from.
-/

namespace AgentTsCards

open AgentPy AgentBase58 AgentJson AgentSigning AgentTsCanonical AgentTsSigning AgentUtf16
  AgentTsDelegation AgentCards

/-! ## Values of unknown type -/

/-- `value ?? dflt`, where `none` is `undefined`. -/
def coalesce (value : Option JsonValue) (dflt : JsonValue) : JsonValue :=
  match value with
  | none => dflt
  | some .null => dflt
  | some v => v

/-- A value that is not `null` stays. -/
theorem coalesce_some {v dflt : JsonValue} (h : v ≠ .null) : coalesce (some v) dflt = v := by
  cases v with
  | null => exact absurd rfl h
  | _ => rfl

/-- With a default that is not `null` there is no `null` left. -/
theorem coalesce_ne_null (value : Option JsonValue) {dflt : JsonValue} (h : dflt ≠ .null) :
    coalesce value dflt ≠ .null := by
  cases value with
  | none => exact h
  | some v =>
      by_cases hv : v = .null
      · rw [hv]
        exact h
      · rw [coalesce_some hv]
        exact hv

/-- A value that is there is never replaced by `null`. -/
theorem coalesce_to_null (v : JsonValue) : coalesce (some v) .null = v := by
  cases v <;> rfl

/-- A default that was taken once is there to stay. -/
theorem coalesce_coalesce (value : Option JsonValue) (dflt : JsonValue) :
    coalesce (some (coalesce value dflt)) dflt = coalesce value dflt := by
  cases value with
  | none => cases dflt <;> rfl
  | some v =>
      cases v with
      | null => cases dflt <;> rfl
      | _ => rfl

/-- `typeof value` -/
def typeOf : Option JsonValue → String
  | none => "undefined"
  | some .null => "object"
  | some (.boolean _) => "boolean"
  | some (.number _) => "number"
  | some (.bigint _) => "bigint"
  | some (.string _) => "string"
  | some (.array _) => "object"
  | some (.object _) => "object"

/-- `requireString` of `serde.ts` -/
def requireString (name : PyStr) : Option JsonValue → Js PyStr
  | some (.string s) => .ok s
  | value => throwNew .typeError [.str name, " must be a string, got ", typeOf value]

/-- `[...value]` -/
def spreadArray : JsonValue → Js (List JsonValue)
  | .array items => .ok items
  | .string s => .ok (s.map fun c => .string [c])
  | _ => throwNew .typeError ["value is not iterable"]

/-- One code unit as a string of its own. -/
def unitString (unit : ℕ) : PyStr := [Fin.ofNat 0x110000 unit]

/-- `{ ...value }`: the own enumerable properties, which of a string are its code units. -/
def spreadObject : JsonValue → List (PyStr × JsonValue)
  | .object members => members
  | .array items => items.zipIdx.map fun m => (natText m.2, m.1)
  | .string s => (utf16 s).zipIdx.map fun m => (natText m.2, .string (unitString m.1))
  | _ => []

/-! ## `critical.ts` -/

/-- One entry of a wire `critical` value. -/
def criticalEntry : JsonValue → Js PyStr
  | .string s => .ok s
  | _ => throwNew .typeError ["critical must be a list of field names"]

def parseCritical : Option JsonValue → Js (Option (List PyStr))
  | none => .ok none
  | some .null => .ok none
  | some (.array items) => do
      let names ← items.mapM criticalEntry
      .ok (some names)
  | some _ => throwNew .typeError ["critical must be a list of field names"]

/-- `enforceCritical`; no list at all is `undefined`. -/
def enforceCritical (critical : Option (List PyStr)) (known understood : List PyStr) : Js Unit :=
  let unrecognized :=
    (critical.getD []).filter (· ∉ known ++ understood ++ [py "critical"])
  throwIf (unrecognized ≠ []) .signatureError
    ["artifact marks fields critical that this implementation does not ", "understand: ",
      .str (joined unrecognized)]

/-! ## `card.ts` -/

/-- `KNOWN_FIELDS` -/
def tsCardKnownFields : List PyStr :=
  [py "amp", py "address", py "name", py "kind", py "operator", py "signing_key",
    py "agreement_key", py "agreement_prekey", py "payload_types", py "endpoints",
    py "policy_summary", py "critical", py "signature"]

/-- A card as the TypeScript constructor builds it. -/
structure TsAgentCard where
  amp : JsonValue
  address : PyStr
  name : PyStr
  kind : ParticipantKind
  operator : JsonValue
  signingKey : PyStr
  agreementKey : PyStr
  agreementPrekey : JsonValue
  payloadTypes : List JsonValue
  endpoints : List (PyStr × JsonValue)
  policySummary : JsonValue
  critical : Option (List PyStr)
  signature : JsonValue
  extra : List (PyStr × JsonValue)
  extra_shadows_nothing : ∀ k ∈ extra.map Prod.fst, k ∉ tsCardKnownFields

/-- `KINDS.has(kind)`, and the kind. -/
def tsParticipantKind : JsonValue → Js ParticipantKind
  | .string s =>
      if s = py "agent" then .ok .agent
      else if s = py "human" then .ok .human
      else if s = py "service" then .ok .service
      else throwNew .error ["unknown participant kind: ", .str s]
  | v => throwNew .error ["unknown participant kind: ", typeOf (some v)]

/-- The default of `payload_types`. -/
def tsDefaultPayloadTypes : JsonValue :=
  .array [.string (py "text/plain"), .string (py "application/json")]

/-- The constructor; a field that was not given is `none`. -/
def TsAgentCard.construct (amp address name kind operator signingKey agreementKey agreementPrekey
    payloadTypes endpoints policySummary : Option JsonValue) (critical : Option (List PyStr))
    (signature : Option JsonValue) (extra : List (PyStr × JsonValue)) : Js TsAgentCard := do
  let address ← requireString (py "address") address
  let name ← requireString (py "name") name
  let kind ← tsParticipantKind (coalesce kind (.string ParticipantKind.agent.value))
  let signingKey ← requireString (py "signing_key") signingKey
  let agreementKey ← requireString (py "agreement_key") agreementKey
  let payloadTypes ← spreadArray (coalesce payloadTypes tsDefaultPayloadTypes)
  let names := extra.map Prod.fst
  (if hshadow : ∀ k ∈ names, k ∉ tsCardKnownFields then
    .ok ⟨coalesce amp (.string defaultProtocolVersion), address, name, kind,
      coalesce operator .null, signingKey, agreementKey, coalesce agreementPrekey .null,
      payloadTypes, spreadObject (coalesce endpoints (.object [])),
      coalesce policySummary (.string []), critical, coalesce signature (.string []), extra, hshadow⟩
  else throwNew .error
    ["extra must not shadow known card fields: ",
      .str (joined (names.filter (· ∈ tsCardKnownFields)))])

/-- The loop of `fromJSON` that collects the extensions. -/
def extensionsOf (record : List (PyStr × JsonValue)) : List (PyStr × JsonValue) :=
  record.foldl (fun extra m =>
    if m.1 ∉ tsCardKnownFields ∧ m.1 ≠ py "extra" then setProperty extra m.1 m.2 else extra) []

def TsAgentCard.fromJSON : JsonValue → Js TsAgentCard
  | .object record => do
      let critical ← parseCritical (record.lookup (py "critical"))
      TsAgentCard.construct (record.lookup (py "amp")) (record.lookup (py "address"))
        (record.lookup (py "name")) (record.lookup (py "kind"))
        (some (coalesce (record.lookup (py "operator")) .null))
        (record.lookup (py "signing_key")) (record.lookup (py "agreement_key"))
        (some (coalesce (record.lookup (py "agreement_prekey")) .null))
        (record.lookup (py "payload_types")) (record.lookup (py "endpoints"))
        (record.lookup (py "policy_summary")) critical
        (some (coalesce (record.lookup (py "signature")) (.string [])))
        (extensionsOf record)
  | _ => throwNew .typeError ["card must be a plain object"]

/-- `if (this.critical) data["critical"] = [...this.critical]` -/
def tsCriticalMember : Option (List PyStr) → List (PyStr × JsonValue)
  | none => []
  | some names => [(py "critical", .array (names.map .string))]

def TsAgentCard.toJSON (t : TsAgentCard) : List (PyStr × JsonValue) :=
  objectAssign
    ([(py "amp", t.amp), (py "address", .string t.address), (py "name", .string t.name),
        (py "kind", .string t.kind.value), (py "operator", t.operator),
        (py "signing_key", .string t.signingKey), (py "agreement_key", .string t.agreementKey),
        (py "agreement_prekey", t.agreementPrekey), (py "payload_types", .array t.payloadTypes),
        (py "endpoints", .object t.endpoints), (py "policy_summary", t.policySummary),
        (py "signature", t.signature)]
      ++ tsCriticalMember t.critical)
    t.extra

/-- `payload()`: `delete data["signature"]`. -/
def TsAgentCard.payload (t : TsAgentCard) : List (PyStr × JsonValue) :=
  t.toJSON.filter (·.1 ≠ py "signature")

/-- The part of `verify` before the signature. -/
def TsAgentCard.checkKeys (t : TsAgentCard) : Js Bytes := do
  let addressKey ← tsSigningKeyFromAddress t.address
  let declaredKey ← tsBase58Decode t.signingKey
  throwIf (addressKey ≠ declaredKey) .signatureError
    ["card signing_key does not match its address"]
  .ok declaredKey

def TsAgentCard.verify (H : Host) (t : TsAgentCard) (understoodExtensions : List PyStr) :
    Js Unit := do
  enforceCritical t.critical tsCardKnownFields understoodExtensions
  let declaredKey ← t.checkKeys
  tsVerifyPayload H declaredKey contextAgentCard (.object t.payload) t.signature

/-! ## What is read -/

/-- A string passes as it is. -/
theorem requireString_ok_iff {name : PyStr} {value : Option JsonValue} {s : PyStr} :
    requireString name value = .ok s ↔ value = some (.string s) := by
  cases value with
  | none => exact iff_of_false (fun h => nomatch h) fun h => nomatch h
  | some v => cases v <;> simp [requireString, throwNew]

/-- A kind is one of the three names. -/
theorem tsParticipantKind_ok_iff {v : JsonValue} {kind : ParticipantKind} :
    tsParticipantKind v = .ok kind ↔ v = .string kind.value := by
  constructor
  · intro h
    cases v with
    | string s =>
        rw [tsParticipantKind] at h
        split_ifs at h with hagent hhuman hservice
        · cases h
          exact congrArg JsonValue.string hagent
        · cases h
          exact congrArg JsonValue.string hhuman
        · cases h
          exact congrArg JsonValue.string hservice
        · cases h
    | _ => cases h
  · rintro rfl
    rw [tsParticipantKind]
    cases kind <;> decide

/-- The entries are read when each of them is a string. -/
theorem mapM_criticalEntry_ok_iff {items : List JsonValue} {names : List PyStr} :
    items.mapM criticalEntry = .ok names ↔ items = names.map .string := by
  refine mapM_ok_iff_eq_map fun v s => ?_
  cases v <;> simp [criticalEntry, throwNew]

/-- Critical names are absent, `null`, or an array of strings. -/
theorem parseCritical_ok_iff {value : Option JsonValue} {critical : Option (List PyStr)} :
    parseCritical value = .ok critical ↔
      ((value = none ∨ value = some .null) ∧ critical = none) ∨
        ∃ names, value = some (.array (names.map .string)) ∧ critical = some names := by
  cases value with
  | none => simp [parseCritical, eq_comm]
  | some v =>
      cases v with
      | null => simp [parseCritical, eq_comm]
      | array items =>
          rw [parseCritical, bind_ok_iff]
          simp only [mapM_criticalEntry_ok_iff, Except.ok.injEq]
          constructor
          · rintro ⟨names, rfl, rfl⟩
            exact Or.inr ⟨names, rfl, rfl⟩
          · rintro (⟨h | h, -⟩ | ⟨names, h, rfl⟩)
            · cases h
            · cases h
            · exact ⟨names, JsonValue.array.inj (Option.some.inj h), rfl⟩
      | _ => simp [parseCritical, throwNew]

/-- Each critical name is a known field or understood. -/
theorem enforceCritical_ok_iff {critical : Option (List PyStr)} {understood : List PyStr} :
    enforceCritical critical tsCardKnownFields understood = .ok () ↔
      ∀ name ∈ critical.getD [], name ∈ tsCardKnownFields ∨ name ∈ understood := by
  have hknown : py "critical" ∈ tsCardKnownFields := by decide
  rw [enforceCritical, throwIf_ok_iff, not_not, List.filter_eq_nil_iff]
  refine forall₂_congr fun name _ => ?_
  rw [decide_eq_true_iff, not_not, List.mem_append, List.mem_append, List.mem_singleton]
  constructor
  · rintro (h | rfl)
    · exact h
    · exact Or.inl hknown
  · exact Or.inl

/-- The card holds what the wire object says, with the defaults of what it leaves out. -/
structure TsReadFrom (record : List (PyStr × JsonValue)) (t : TsAgentCard) : Prop where
  amp : t.amp = coalesce (record.lookup (py "amp")) (.string defaultProtocolVersion)
  address : record.lookup (py "address") = some (.string t.address)
  name : record.lookup (py "name") = some (.string t.name)
  kind : coalesce (record.lookup (py "kind")) (.string ParticipantKind.agent.value)
    = .string t.kind.value
  operator : t.operator = coalesce (record.lookup (py "operator")) .null
  signingKey : record.lookup (py "signing_key") = some (.string t.signingKey)
  agreementKey : record.lookup (py "agreement_key") = some (.string t.agreementKey)
  agreementPrekey : t.agreementPrekey = coalesce (record.lookup (py "agreement_prekey")) .null
  payloadTypes : spreadArray (coalesce (record.lookup (py "payload_types")) tsDefaultPayloadTypes)
    = .ok t.payloadTypes
  endpoints : t.endpoints = spreadObject (coalesce (record.lookup (py "endpoints")) (.object []))
  policySummary : t.policySummary = coalesce (record.lookup (py "policy_summary")) (.string [])
  critical : parseCritical (record.lookup (py "critical")) = .ok t.critical
  signature : t.signature = coalesce (record.lookup (py "signature")) (.string [])
  extra : t.extra = extensionsOf record

/-- The extensions of a card are the members no field is named after. -/
theorem extensionsOf_eq {record : List (PyStr × JsonValue)} (hnodup : (record.map Prod.fst).Nodup) :
    extensionsOf record =
      record.filter fun m => m.1 ∉ tsCardKnownFields ∧ m.1 ≠ py "extra" ∧ m.1 ≠ protoName :=
  collectExtra_eq tsCardKnownFields hnodup

/-- What is kept as an extension has the name of no known field. -/
theorem extensionsOf_shadow_nothing {record : List (PyStr × JsonValue)}
    (hnodup : (record.map Prod.fst).Nodup) :
    ∀ k ∈ (extensionsOf record).map Prod.fst, k ∉ tsCardKnownFields := by
  rw [extensionsOf_eq hnodup]
  intro k hk
  obtain ⟨m, hm, rfl⟩ := List.mem_map.mp hk
  exact (of_decide_eq_true (List.mem_filter.mp hm).2).1

/-- **WHICH WIRE OBJECTS ARE CARDS**, and of which card. -/
theorem fromJSON_ok_iff {record : List (PyStr × JsonValue)} {t : TsAgentCard}
    (hnodup : (record.map Prod.fst).Nodup) :
    TsAgentCard.fromJSON (.object record) = .ok t ↔ TsReadFrom record t := by
  rw [TsAgentCard.fromJSON, bind_ok_iff]
  constructor
  · rintro ⟨critical, hcritical, h⟩
    obtain ⟨_, haddress, h⟩ := bind_ok_iff.mp h
    obtain ⟨_, hname, h⟩ := bind_ok_iff.mp h
    obtain ⟨_, hkind, h⟩ := bind_ok_iff.mp h
    obtain ⟨_, hsigning, h⟩ := bind_ok_iff.mp h
    obtain ⟨_, hagreement, h⟩ := bind_ok_iff.mp h
    obtain ⟨_, hpayload, h⟩ := bind_ok_iff.mp h
    simp only at h
    rw [dif_pos (extensionsOf_shadow_nothing hnodup)] at h
    cases h
    exact ⟨rfl, requireString_ok_iff.mp haddress, requireString_ok_iff.mp hname,
      tsParticipantKind_ok_iff.mp hkind, coalesce_coalesce _ _, requireString_ok_iff.mp hsigning,
      requireString_ok_iff.mp hagreement, coalesce_coalesce _ _, hpayload, rfl, rfl, hcritical,
      coalesce_coalesce _ _, rfl⟩
  · obtain ⟨amp, address, name, kind, operator, signingKey, agreementKey, agreementPrekey,
      payloadTypes, endpoints, policySummary, critical, signature, extra, hshadow⟩ := t
    rintro ⟨rfl, haddress, hname, hkind, rfl, hsigning, hagreement, rfl, hpayload, rfl, rfl,
      hcritical, rfl, rfl⟩
    refine ⟨critical, hcritical, bind_ok_iff.mpr ⟨_, requireString_ok_iff.mpr haddress, ?_⟩⟩
    refine bind_ok_iff.mpr ⟨_, requireString_ok_iff.mpr hname, ?_⟩
    refine bind_ok_iff.mpr ⟨_, tsParticipantKind_ok_iff.mpr hkind, ?_⟩
    refine bind_ok_iff.mpr ⟨_, requireString_ok_iff.mpr hsigning, ?_⟩
    refine bind_ok_iff.mpr ⟨_, requireString_ok_iff.mpr hagreement, ?_⟩
    refine bind_ok_iff.mpr ⟨_, hpayload, ?_⟩
    simp only [coalesce_coalesce]
    exact dif_pos hshadow

/-- The signing key is that of the address; the agreement key is not looked at. -/
theorem TsAgentCard.checkKeys_ok_iff {t : TsAgentCard} {key : Bytes} :
    t.checkKeys = .ok key ↔
      signingKeyFromAddress t.address = .ok key ∧ base58Decode t.signingKey = .ok key := by
  simp only [TsAgentCard.checkKeys, bind_ok_iff, throwIf_ok_iff, not_not, Except.ok.injEq,
    tsSigningKeyFromAddress_ok_iff, tsBase58Decode_ok_iff]
  constructor
  · rintro ⟨_, haddress, _, hsigning, _, rfl, rfl⟩
    exact ⟨haddress, hsigning⟩
  · rintro ⟨haddress, hsigning⟩
    exact ⟨key, haddress, key, hsigning, (), rfl, rfl⟩

/-- **WHEN A CARD VERIFIES**: every critical name is known or understood, its keys agree, and its
    signature covers its payload. -/
theorem TsAgentCard.verify_ok_iff {H : Host} {t : TsAgentCard} {understood : List PyStr} :
    t.verify H understood = .ok () ↔
      ∃ key raw message, t.checkKeys = .ok key ∧ tsDecodeSignature t.signature = .ok raw ∧
        tsSigningInput H.nfc contextAgentCard (.object t.payload) = .ok message ∧
        (∀ name ∈ t.critical.getD [], name ∈ tsCardKnownFields ∨ name ∈ understood) ∧
        H.ed25519Verify key raw message = true := by
  rw [TsAgentCard.verify, seq_ok_iff, enforceCritical_ok_iff]
  constructor
  · rintro ⟨hall, h⟩
    obtain ⟨key, hkey, h⟩ := bind_ok_iff.mp h
    obtain ⟨raw, message, hraw, hmessage, hverify⟩ := tsVerifyPayload_ok_iff.mp h
    exact ⟨key, raw, message, hkey, hraw, hmessage, hall, hverify⟩
  · rintro ⟨key, raw, message, hkey, hraw, hmessage, hall, hverify⟩
    refine ⟨hall, bind_ok_iff.mpr ⟨key, hkey, ?_⟩⟩
    exact tsVerifyPayload_ok_iff.mpr ⟨raw, message, hraw, hmessage, hverify⟩

/-- **WHAT IS SIGNED** of a wire object: the fields of the card, and the members no field is named
    after but `extra` and `__proto__`. -/
theorem TsReadFrom.payload_eq {record : List (PyStr × JsonValue)} {t : TsAgentCard}
    (hnodup : (record.map Prod.fst).Nodup) (R : TsReadFrom record t) :
    t.payload =
      [(py "amp", t.amp), (py "address", .string t.address), (py "name", .string t.name),
        (py "kind", .string t.kind.value), (py "operator", t.operator),
        (py "signing_key", .string t.signingKey), (py "agreement_key", .string t.agreementKey),
        (py "agreement_prekey", t.agreementPrekey), (py "payload_types", .array t.payloadTypes),
        (py "endpoints", .object t.endpoints), (py "policy_summary", t.policySummary)]
      ++ tsCriticalMember t.critical
      ++ record.filter fun m => m.1 ∉ tsCardKnownFields ∧ m.1 ≠ py "extra" ∧ m.1 ≠ protoName := by
  have hextra : (t.extra.map Prod.fst).Nodup := by
    rw [R.extra, extensionsOf_eq hnodup]
    exact hnodup.sublist (List.filter_sublist.map Prod.fst)
  have hsignature : py "signature" ∈ tsCardKnownFields := by decide
  have hkept : (t.extra.filter (·.1 ≠ protoName)).filter (·.1 ≠ py "signature") = t.extra := by
    rw [List.filter_filter, List.filter_eq_self, R.extra, extensionsOf_eq hnodup]
    intro m hm
    obtain ⟨hknown, -, hproto⟩ := of_decide_eq_true (List.mem_filter.mp hm).2
    rw [Bool.and_eq_true, decide_eq_true_iff, decide_eq_true_iff]
    exact ⟨fun h => hknown (h ▸ hsignature), hproto⟩
  have hcritical : py "critical" ∈ tsCardKnownFields := by decide
  have htwelve : ∀ k ∈ [py "amp", py "address", py "name", py "kind", py "operator",
      py "signing_key", py "agreement_key", py "agreement_prekey", py "payload_types",
      py "endpoints", py "policy_summary", py "signature"], k ∈ tsCardKnownFields := by decide
  rw [TsAgentCard.payload, TsAgentCard.toJSON, objectAssign_eq hextra, List.filter_append, hkept,
    ← extensionsOf_eq hnodup, ← R.extra, List.filter_append]
  · cases t.critical with
    | none => rfl
    | some names => rfl
  · intro k hk hmem
    refine t.extra_shadows_nothing k hk ?_
    rw [List.map_append] at hmem
    rcases List.mem_append.mp hmem with h | h
    · exact htwelve k h
    · cases hcrit : t.critical with
      | none =>
          rw [hcrit] at h
          exact absurd h List.not_mem_nil
      | some names =>
          rw [hcrit] at h
          rw [List.mem_singleton.mp h]
          exact hcritical

end AgentTsCards
