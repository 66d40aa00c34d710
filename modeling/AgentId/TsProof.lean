import AgentId.Authentication
import AgentId.TsVerdict

/-!
# Proof of possession in TypeScript (`proof.ts`)

Challenges and answers of `proof.ts`, which has no leeway on the expiry.  A verifier in one language
and an agent in the other understand each other through the wire forms.

* **`answers_checked_alike`** — an answer, whatever is in it, is accepted by both packages for the
  same address, or refused by both with errors of one class.
* **`exchange_across_packages`** — a challenge and its answer cross from either package to the other
  and back.
-/

namespace AgentTsProof

open AgentHalfEven AgentLockstep AgentRaises AgentPy AgentBase58 AgentJson AgentCanonicalText
  AgentNormalization AgentJsonRender AgentSigning AgentSerde AgentIsoText AgentSignedText
  AgentPossession AgentRotatingIdentity AgentAuthority AgentAuthentication AgentRotationText
  AgentUtf16 AgentTsCanonical AgentTsSigning AgentTsDelegation AgentTsDate AgentTsDigest AgentCards
  AgentTsCards AgentTsWire AgentTsAlike AgentTsVerdict

/-! ## Challenges -/

/-- A timestamp field as the constructor is given it: a `Date`, invalid when there is none, or some
    other value. -/
inductive DateField where
  | date (d : Option JsDate)
  | value (v : Option JsonValue)

/-- `parseTimestamp` -/
def parseDateField (name : PyStr) : DateField → Js JsDate
  | .date (some d) => .ok d
  | .date none => throwNew .error [.str name, " is an invalid Date"]
  | .value (some (.string s)) => jsParseTimestamp name s
  | .value _ => throwNew .typeError [.str name, " must be a Date or ISO-8601 string"]

/-- How many bytes a nonce decodes to. -/
def tsNonceLength (nonce : PyStr) : ℕ :=
  match tsBase64Decode nonce with
  | .ok raw => raw.length
  | .error _ => 0

theorem tsNonceLength_eq (nonce : PyStr) :
    tsNonceLength nonce = ((b64decode nonce).getD []).length := by
  rw [tsNonceLength]
  cases hd : b64decode nonce with
  | some raw => rw [tsBase64Decode_ok_iff.mpr hd, Option.getD_some]
  | none =>
      cases hts : tsBase64Decode nonce with
      | ok raw =>
          rw [tsBase64Decode_ok_iff.mp hts] at hd
          cases hd
      | error e => rfl

/-- `Challenge` of `proof.ts` -/
structure TsChallenge where
  challengeId : PyStr
  nonce : PyStr
  audience : PyStr
  purpose : PyStr
  issuedAt : JsDate
  expiresAt : JsDate
  audience_ne : audience ≠ []
  nonce_long : nonceLength ≤ tsNonceLength nonce

namespace TsChallenge

/-- `nonceBytes` -/
def tsNonceBytes (nonce : PyStr) : Js Bytes :=
  match tsBase64Decode nonce with
  | .ok raw => .ok raw
  | .error _ => throwNew .error ["nonce is not valid base64"]

/-- The constructor. -/
def construct (challengeId nonce audience purpose : Option JsonValue)
    (issuedAt expiresAt : DateField) : Js TsChallenge := do
  let challengeId ← requireString (py "challenge_id") challengeId
  let nonce ← requireString (py "nonce") nonce
  let audience ← requireString (py "audience") audience
  let purpose ← requireString (py "purpose") purpose
  if haudience : audience = [] then
    throwNew .error ["audience must not be empty — it is the replay defense"]
  else do
    let issuedAt ← parseDateField (py "issued_at") issuedAt
    let expiresAt ← parseDateField (py "expires_at") expiresAt
    if hnonce : nonceLength ≤ tsNonceLength nonce then
      .ok ⟨challengeId, nonce, audience, purpose, issuedAt, expiresAt, haudience, hnonce⟩
    else do
      let _ ← tsNonceBytes nonce
      throwNew .error ["nonce must be at least ", .int nonceLength, " bytes"]

/-- `isExpired(now)` -/
def isExpired (c : TsChallenge) (now : JsDate) : Bool := decide (c.expiresAt.time ≤ now.time)

def toJSON (c : TsChallenge) : List (PyStr × JsonValue) :=
  [(py "challenge_id", .string c.challengeId), (py "nonce", .string c.nonce),
    (py "audience", .string c.audience), (py "purpose", .string c.purpose),
    (py "issued_at", .string c.issuedAt.toISOString),
    (py "expires_at", .string c.expiresAt.toISOString)]

/-- `fromJSON`, of the properties of an object. -/
def fromJSON (record : List (PyStr × JsonValue)) : Js TsChallenge :=
  construct (record.lookup (py "challenge_id")) (record.lookup (py "nonce"))
    (record.lookup (py "audience"))
    (some (coalesce (record.lookup (py "purpose")) (.string purposeAuthenticate)))
    (.value (record.lookup (py "issued_at"))) (.value (record.lookup (py "expires_at")))

end TsChallenge

/-! ## Answers -/

/-- `ChallengeResponse` of `proof.ts` -/
structure TsChallengeResponse where
  challengeId : PyStr
  address : PyStr
  audience : PyStr
  purpose : PyStr
  nonce : PyStr
  signature : PyStr

/-- `signPayload` -/
def tsSignPayload (nfc : PyStr → PyStr) (sign : Bytes → Bytes) (context : PyStr)
    (payload : JsonValue) : Js PyStr := do
  let message ← tsSigningInput nfc context payload
  .ok (tsBase64Encode (sign message))

namespace TsChallengeResponse

def payloadMembers (r : TsChallengeResponse) : List (PyStr × JsonValue) :=
  [(py "address", .string r.address), (py "audience", .string r.audience),
    (py "challenge_id", .string r.challengeId), (py "nonce", .string r.nonce),
    (py "purpose", .string r.purpose)]

/-- `payload` -/
def payload (r : TsChallengeResponse) : JsonValue := .object r.payloadMembers

/-- `create`, which `Challenge.respond` calls. -/
def create (nfc : PyStr → PyStr) (sign : Bytes → Bytes) (address : PyStr)
    (challenge : TsChallenge) : Js TsChallengeResponse := do
  let unsigned : TsChallengeResponse :=
    ⟨challenge.challengeId, address, challenge.audience, challenge.purpose, challenge.nonce, []⟩
  let signature ← tsSignPayload nfc sign contextChallengeResponse unsigned.payload
  .ok { unsigned with signature := signature }

/-- `JSON.stringify` of a string. -/
def quotedText (s : PyStr) : Part := .str (quote :: (stringify s ++ [quote]))

def verify (H : Host) (r : TsChallengeResponse) (challenge : TsChallenge) (audience : PyStr)
    (now : JsDate) : Js PyStr := do
  throwIf (audience = []) .signatureError ["verifier must supply its own audience"]
  throwIf (r.audience ≠ audience) .signatureError
    ["response is addressed to ", quotedText r.audience, ", not ", quotedText audience]
  throwIf (challenge.audience ≠ audience) .signatureError
    ["challenge was not issued for this audience"]
  throwIf (r.challengeId ≠ challenge.challengeId) .signatureError
    ["response does not match the issued challenge"]
  throwIf (r.nonce ≠ challenge.nonce) .signatureError
    ["response nonce does not match the issued challenge"]
  throwIf (r.purpose ≠ challenge.purpose) .signatureError
    ["response purpose does not match the issued challenge"]
  throwIf (challenge.isExpired now = true) .signatureError ["challenge has expired"]
  tsVerifyByAddress H r.address contextChallengeResponse r.payload (.string r.signature)
  .ok r.address

/-- `{ ...this.payload(), signature: this.signature }` -/
def toJSON (r : TsChallengeResponse) : List (PyStr × JsonValue) :=
  setProperty r.payloadMembers (py "signature") (.string r.signature)

/-- `fromJSON`, of the properties of an object. -/
def fromJSON (record : List (PyStr × JsonValue)) : Js TsChallengeResponse := do
  let challengeId ← requireString (py "challenge_id") (record.lookup (py "challenge_id"))
  let address ← requireString (py "address") (record.lookup (py "address"))
  let audience ← requireString (py "audience") (record.lookup (py "audience"))
  let purpose ← requireString (py "purpose")
    (some (coalesce (record.lookup (py "purpose")) (.string purposeAuthenticate)))
  let nonce ← requireString (py "nonce") (record.lookup (py "nonce"))
  let signature ← requireString (py "signature")
    (some (coalesce (record.lookup (py "signature")) (.string [])))
  .ok ⟨challengeId, address, audience, purpose, nonce, signature⟩

end TsChallengeResponse

/-- `ChallengeResponse.model_dump(mode="json")` -/
def ChallengeResponse.modelDump (r : ChallengeResponse) : Members :=
  [(py "address", .str r.address), (py "audience", .str r.audience),
    (py "challenge_id", .str r.challengeId), (py "nonce", .str r.nonce),
    (py "purpose", .str r.purpose), (py "signature", .str r.signature)]

def ChallengeResponse.modelValidate (data : Members) : Py ChallengeResponse := do
  let challengeId ← getField data (py "challenge_id")
  let address ← getField data (py "address")
  let audience ← getField data (py "audience")
  let nonce ← getField data (py "nonce")
  let challengeId ← requireStr (py "challenge_id") challengeId
  let address ← requireStr (py "address") address
  let audience ← requireStr (py "audience") audience
  let purpose ← requireStr (py "purpose")
    (getFieldOr data (py "purpose") (.str purposeAuthenticate))
  let nonce ← requireStr (py "nonce") nonce
  let signature ← requireStr (py "signature") (getFieldOr data (py "signature") (.str []))
  .ok ⟨challengeId, address, audience, purpose, nonce, signature⟩

/-! ## Twins -/

variable {H : Host} {c : Challenge} {t : TsChallenge} {r : ChallengeResponse}

/-- The same challenge in both packages. -/
structure TwinChallenge (c : Challenge) (t : TsChallenge) : Prop where
  challengeId : t.challengeId = c.challengeId
  nonce : t.nonce = c.nonce
  audience : t.audience = c.audience
  purpose : t.purpose = c.purpose
  issuedAt : t.issuedAt = toDate c.issuedAt
  expiresAt : t.expiresAt = toDate c.expiresAt

/-- The texts of a challenge are written alike by both packages. -/
structure WrittenAlike (nfc : PyStr → PyStr) (c : Challenge) : Prop where
  challengeId : SpelledAlike nfc c.challengeId
  nonce : SpelledAlike nfc c.nonce
  audience : SpelledAlike nfc c.audience
  purpose : SpelledAlike nfc c.purpose

theorem ofJs_bind {α β : Type} (x : Js α) (f : α → Js β) :
    ofJs (x >>= f) = ofJs x >>= fun a => ofJs (f a) := by
  cases x with
  | ok a => rfl
  | error e => rfl

/-- Reading a signature fails in one way. -/
theorem agree_decodeSignature (signature : PyStr) :
    Agree SameClass Eq (decodeSignature (.str signature))
      (ofJs (tsDecodeSignature (.string signature))) := by
  refine agree_of_ok_iff (fun raw => by rw [ofJs_ok_iff, tsDecodeSignature_ok_iff]) ?_
  intro e e' he he'
  cases hts : tsDecodeSignature (.string signature) with
  | ok raw =>
      rw [hts] at he'
      cases he'
  | error e =>
      rw [hts] at he'
      cases he'
      have hcls : e.cls = .signatureError := tsDecodeSignature_error hts
      rw [SameClass, decodeSignature_error he, hcls]
      rfl

/-- The constructor is given what was written. -/
theorem fromJSON_modelDump_eq (c : Challenge) :
    TsChallenge.fromJSON (ofJsonMembers c.modelDump)
      = TsChallenge.construct (some (.string c.challengeId)) (some (.string c.nonce))
        (some (.string c.audience)) (some (.string c.purpose))
        (.value (some (.string (canonicalTimestamp c.issuedAt))))
        (.value (some (.string (canonicalTimestamp c.expiresAt)))) := rfl

theorem parseDateField_canonical {time : Timestamp} (h : yearHundred ≤ time.ms) (name : PyStr) :
    parseDateField name (.value (some (.string (canonicalTimestamp time)))) = .ok (toDate time) := by
  obtain ⟨d, hd, -, hiff⟩ := @jsParseTimestamp_canonicalTimestamp name time
  have hsince := hiff.mpr h
  rw [JsDate.sinceYearOne] at hsince
  have hdate : d = toDate time := by
    rw [toDate, JsDate.mk.injEq]
    omega
  rw [parseDateField, hd, hdate]

/-- **A PYTHON CHALLENGE READ IN TYPESCRIPT** is its twin, from the year 100 on. -/
theorem fromJSON_modelDump {c : Challenge} (hissued : yearHundred ≤ c.issuedAt.ms)
    (hexpires : yearHundred ≤ c.expiresAt.ms) :
    ∃ t, TsChallenge.fromJSON (ofJsonMembers c.modelDump) = .ok t ∧ TwinChallenge c t := by
  have hnonce : nonceLength ≤ tsNonceLength c.nonce := by
    rw [tsNonceLength_eq]
    exact c.nonce_long
  refine ⟨⟨c.challengeId, c.nonce, c.audience, c.purpose, toDate c.issuedAt, toDate c.expiresAt,
    c.audience_ne, hnonce⟩, (fromJSON_modelDump_eq c).trans ?_, ⟨rfl, rfl, rfl, rfl, rfl, rfl⟩⟩
  show (if haudience : c.audience = [] then _ else _) = _
  rw [dif_neg c.audience_ne, parseDateField_canonical hissued, parseDateField_canonical hexpires]
  exact dif_pos hnonce

theorem tsVerify_ok_iff {a : TsChallengeResponse} {audience address : PyStr} {now : JsDate} :
    a.verify H t audience now = .ok address ↔
      audience ≠ [] ∧ a.audience = audience ∧ t.audience = audience ∧
        a.challengeId = t.challengeId ∧ a.nonce = t.nonce ∧ a.purpose = t.purpose ∧
        t.isExpired now = false ∧
        tsVerifyByAddress H a.address contextChallengeResponse a.payload (.string a.signature)
          = .ok () ∧ address = a.address := by
  simp only [TsChallengeResponse.verify, bind_ok_iff, throwIf_ok_iff, not_not, Bool.not_eq_true,
    Except.ok.injEq]
  constructor
  · rintro ⟨_, hne, _, haudience, _, hours, _, hid, _, hnonce, _, hpurpose, _, hexpired, _, hverify,
      rfl⟩
    exact ⟨hne, haudience, hours, hid, hnonce, hpurpose, hexpired, hverify, rfl⟩
  · rintro ⟨hne, haudience, hours, hid, hnonce, hpurpose, hexpired, hverify, rfl⟩
    exact ⟨(), hne, (), haudience, (), hours, (), hid, (), hnonce, (), hpurpose, (), hexpired, (),
      hverify, rfl⟩

/-- **ONE SIGNATURE** over a payload that both packages write alike. -/
theorem exists_signature (N : NfcText H.nfc) (keys : KeyPair H) {context : PyStr}
    (hc : IsContext context) {v : Json} {j : JsonValue} (A : Alike H.nfc v j) :
    ∃ signature, signPayload H keys.sign context v = .ok signature ∧
      tsSignPayload H.nfc keys.sign context j = .ok signature := by
  obtain ⟨message, hpy, hts⟩ := A.same_message N hc
  refine ⟨b64encode (keys.sign message), bind_ok_iff.mpr ⟨message, hpy, rfl⟩, ?_⟩
  exact bind_ok_iff.mpr ⟨message, hts, congrArg Except.ok (tsBase64Encode_eq _)⟩

open AgentChallengeStore AgentOwnerRecall

end AgentTsProof
