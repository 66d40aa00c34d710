import AgentId.SignedText

/-!
# Proof of possession (`proof.py`)

A verifier issues a `Challenge` that names its audience; the agent signs an answer; the verifier
compares every field of the answer with the challenge and checks the signature.  The fields are
compared as they are spelled, the signature covers their normal form.

* **`ChallengeResponse.verify_ok_iff`** — what a verifier checks.
* **`bound_to_audience_iff`** — an answer given to one audience passes at no other, in any
  rewriting and for any challenge, exactly when the two are not canonically equivalent.
* **`respelled_audience_accepted`** — an answer given to one audience that passes at another.
-/

namespace AgentPossession

open AgentPy AgentBase58 AgentJson AgentCanonicalText AgentNormalization AgentJsonRender
  AgentSigning AgentSerde AgentIsoText AgentSignedText

/-! ## Challenges -/

/-- `NONCE_BYTES` -/
def nonceLength : ℕ := 32

/-- `DEFAULT_TTL_SECONDS` -/
def defaultTtlSeconds : ℚ := 120

/-- `PURPOSE_AUTHENTICATE` -/
def purposeAuthenticate : PyStr := py "authenticate"

/-- The nonce decodes, to enough bytes. -/
def NonceLong (nonce : PyStr) : Prop := nonceLength ≤ ((b64decode nonce).getD []).length

instance nonceLongDecidable (nonce : PyStr) : Decidable (NonceLong nonce) :=
  inferInstanceAs (Decidable (_ ≤ _))

/-- A verifier-issued, audience-scoped challenge. -/
@[ext] structure Challenge where
  challengeId : PyStr
  nonce : PyStr
  audience : PyStr
  purpose : PyStr
  issuedAt : Timestamp
  expiresAt : Timestamp
  audience_ne : audience ≠ []
  nonce_long : NonceLong nonce

/-- `Challenge.nonce_bytes` -/
def nonceBytes (nonce : PyStr) : Py Bytes :=
  match b64decode nonce with
  | none => raise .valueError ["nonce is not valid base64"]
  | some raw => .ok raw

/-- `Challenge.__post_init__` on fields of their annotated types. -/
def Challenge.postInit (challengeId nonce audience purpose : PyStr)
    (issuedAt expiresAt : Timestamp) : Py Challenge :=
  if haudience : audience = [] then
    raise .valueError ["audience must not be empty — it is the replay defense"]
  else if hnonce : NonceLong nonce then
    .ok ⟨challengeId, nonce, audience, purpose, issuedAt, expiresAt, haudience, hnonce⟩
  else do
    let _ ← nonceBytes nonce
    raise .valueError ["nonce must be at least ", .int nonceLength, " bytes"]

/-- What is made of fields that pass is the challenge with these fields. -/
theorem Challenge.postInit_ok_iff {challengeId nonce audience purpose : PyStr}
    {issuedAt expiresAt : Timestamp} {c : Challenge} :
    Challenge.postInit challengeId nonce audience purpose issuedAt expiresAt = .ok c ↔
      c.challengeId = challengeId ∧ c.nonce = nonce ∧ c.audience = audience ∧
        c.purpose = purpose ∧ c.issuedAt = issuedAt ∧ c.expiresAt = expiresAt := by
  constructor
  · intro h
    simp only [Challenge.postInit] at h
    by_cases haudience : audience = []
    · rw [dif_pos haudience] at h
      cases h
    rw [dif_neg haudience] at h
    by_cases hnonce : NonceLong nonce
    · rw [dif_pos hnonce] at h
      cases h
      exact ⟨rfl, rfl, rfl, rfl, rfl, rfl⟩
    · rw [dif_neg hnonce] at h
      obtain ⟨_, -, h⟩ := bind_ok_iff.mp h
      cases h
  · rintro ⟨rfl, rfl, rfl, rfl, rfl, rfl⟩
    rw [Challenge.postInit, dif_neg c.audience_ne, dif_pos c.nonce_long]

/-- `Challenge.issue`, with what `uuid4`, `token_bytes` and the clock return. -/
def Challenge.issue (uuid : PyStr) (token : Bytes) (now : Datetime) (audience purpose : PyStr)
    (ttlSeconds : ℚ) : Py Challenge := do
  let expiresAt ← now.add (timedelta ttlSeconds)
  Challenge.postInit uuid (b64encode token) audience purpose (normalizeTimestamp now)
    (normalizeTimestamp expiresAt)

/-- A challenge is issued under the id and for the audience it was asked for. -/
theorem Challenge.issue_ok {uuid audience purpose : PyStr} {token : Bytes} {now : Datetime}
    {ttlSeconds : ℚ} {c : Challenge}
    (h : Challenge.issue uuid token now audience purpose ttlSeconds = .ok c) :
    c.challengeId = uuid ∧ c.nonce = b64encode token ∧ c.audience = audience ∧
      c.purpose = purpose := by
  obtain ⟨expiresAt, -, h⟩ := bind_ok_iff.mp h
  obtain ⟨hid, hnonce, haudience, hpurpose, -, -⟩ := Challenge.postInit_ok_iff.mp h
  exact ⟨hid, hnonce, haudience, hpurpose⟩

def Challenge.isExpired (c : Challenge) (now : Datetime) (leewaySeconds : ℚ) : Py Bool := do
  let moment ← now.sub (timedelta (max 0 leewaySeconds))
  .ok (decide (c.expiresAt.us ≤ moment.us))

/-- Without leeway a challenge is over from its expiry on. -/
theorem Challenge.isExpired_zero (c : Challenge) (now : Datetime) :
    c.isExpired now 0 = .ok (decide (c.expiresAt.us ≤ now.us)) := by
  refine bind_ok_iff.mpr ⟨now, ?_, rfl⟩
  rw [max_self, timedelta_zero, Datetime.sub, sub_zero, Datetime.ofMicros,
    dif_pos ⟨now.us_nonneg, now.us_lt⟩]

/-- `Challenge.model_dump(mode="json")` -/
def Challenge.modelDump (c : Challenge) : Members :=
  [(py "challenge_id", .str c.challengeId), (py "nonce", .str c.nonce),
    (py "audience", .str c.audience), (py "purpose", .str c.purpose),
    (py "issued_at", .str (canonicalTimestamp c.issuedAt)),
    (py "expires_at", .str (canonicalTimestamp c.expiresAt))]

def Challenge.modelValidate (H : Host) (data : Members) : Py Challenge := do
  let challengeId ← getField data (py "challenge_id")
  let nonce ← getField data (py "nonce")
  let audience ← getField data (py "audience")
  let issuedAt ← getField data (py "issued_at")
  let issuedAt ← parseDatetime H (py "issued_at") issuedAt
  let expiresAt ← getField data (py "expires_at")
  let expiresAt ← parseDatetime H (py "expires_at") expiresAt
  let challengeId ← requireStr (py "challenge_id") challengeId
  let nonce ← requireStr (py "nonce") nonce
  let audience ← requireStr (py "audience") audience
  let purpose ← requireStr (py "purpose")
    (getFieldOr data (py "purpose") (.str purposeAuthenticate))
  Challenge.postInit challengeId nonce audience purpose issuedAt expiresAt

/-- A challenge that was dumped validates to itself, where its timestamps are read back. -/
theorem Challenge.modelValidate_modelDump {H : Host} {c : Challenge}
    (hissued : H.fromisoformat (canonicalTimestamp c.issuedAt) = .aware c.issuedAt.us)
    (hexpires : H.fromisoformat (canonicalTimestamp c.expiresAt) = .aware c.expiresAt.us) :
    Challenge.modelValidate H c.modelDump = .ok c := by
  refine bind_ok_iff.mpr ⟨_, rfl, bind_ok_iff.mpr ⟨_, rfl, bind_ok_iff.mpr ⟨_, rfl, ?_⟩⟩⟩
  refine bind_ok_iff.mpr ⟨_, rfl, bind_ok_iff.mpr ⟨_, parseDatetime_aware hissued _, ?_⟩⟩
  refine bind_ok_iff.mpr ⟨_, rfl, bind_ok_iff.mpr ⟨_, parseDatetime_aware hexpires _, ?_⟩⟩
  refine bind_ok_iff.mpr ⟨_, rfl, bind_ok_iff.mpr ⟨_, rfl, bind_ok_iff.mpr ⟨_, rfl, ?_⟩⟩⟩
  refine bind_ok_iff.mpr ⟨c.purpose, rfl, ?_⟩
  exact Challenge.postInit_ok_iff.mpr ⟨rfl, rfl, rfl, rfl, rfl, rfl⟩

/-- A dump with a timestamp that is not read back does not validate. -/
theorem Challenge.modelValidate_invalid {H : Host} {c : Challenge} (c' : Challenge)
    (h : H.fromisoformat (canonicalTimestamp c.issuedAt) = .invalid ∨
      H.fromisoformat (canonicalTimestamp c.expiresAt) = .invalid) :
    Challenge.modelValidate H c.modelDump ≠ .ok c' := by
  intro hok
  obtain ⟨_, -, hok⟩ := bind_ok_iff.mp hok
  obtain ⟨_, -, hok⟩ := bind_ok_iff.mp hok
  obtain ⟨_, -, hok⟩ := bind_ok_iff.mp hok
  obtain ⟨_, hfield, hok⟩ := bind_ok_iff.mp hok
  cases hfield
  obtain ⟨_, hissued, hok⟩ := bind_ok_iff.mp hok
  obtain ⟨_, hfield, hok⟩ := bind_ok_iff.mp hok
  cases hfield
  obtain ⟨_, hexpires, -⟩ := bind_ok_iff.mp hok
  rw [parseDatetime] at hissued hexpires
  rcases h with h | h
  · rw [h] at hissued
    cases hissued
  · rw [h] at hexpires
    cases hexpires

/-! ## Answers -/

/-- An agent's signed answer. -/
structure ChallengeResponse where
  challengeId : PyStr
  address : PyStr
  audience : PyStr
  purpose : PyStr
  nonce : PyStr
  signature : PyStr

/-- `ChallengeResponse._payload` -/
def ChallengeResponse.payload (r : ChallengeResponse) : Json :=
  .obj [(py "address", .str r.address), (py "audience", .str r.audience),
    (py "challenge_id", .str r.challengeId), (py "nonce", .str r.nonce),
    (py "purpose", .str r.purpose)]

/-- `ChallengeResponse.create` -/
def ChallengeResponse.create (H : Host) (sign : Bytes → Bytes) (address : PyStr)
    (challenge : Challenge) : Py ChallengeResponse := do
  let unsigned : ChallengeResponse :=
    ⟨challenge.challengeId, address, challenge.audience, challenge.purpose, challenge.nonce, []⟩
  let signature ← signPayload H sign contextChallengeResponse unsigned.payload
  .ok { unsigned with signature := signature }

def ChallengeResponse.verify (H : Host) (r : ChallengeResponse) (challenge : Challenge)
    (audience : PyStr) (now : Datetime) (leewaySeconds : ℚ) : Py PyStr := do
  raiseIf (audience = []) .signatureError ["verifier must supply its own audience"]
  raiseIf (r.audience ≠ audience) .signatureError
    ["response is addressed to ", .repr r.audience, ", not ", .repr audience]
  raiseIf (challenge.audience ≠ audience) .signatureError
    ["challenge was not issued for this audience"]
  raiseIf (r.challengeId ≠ challenge.challengeId) .signatureError
    ["response does not match the issued challenge"]
  raiseIf (r.nonce ≠ challenge.nonce) .signatureError
    ["response nonce does not match the issued challenge"]
  raiseIf (r.purpose ≠ challenge.purpose) .signatureError
    ["response purpose does not match the issued challenge"]
  let expired ← challenge.isExpired now leewaySeconds
  raiseIf (expired = true) .signatureError ["challenge has expired"]
  verifyByAddress H r.address contextChallengeResponse r.payload (.str r.signature)
  .ok r.address

/-! ## What a verifier establishes -/

variable {H : Host} {r r' : ChallengeResponse} {c C : Challenge} {X Y address a : PyStr}
  {now : Datetime} {leeway : ℚ} {raw message : Bytes}

/-- The answer repeats what the challenge says. -/
structure Answers (r : ChallengeResponse) (c : Challenge) : Prop where
  audience : r.audience = c.audience
  challengeId : r.challengeId = c.challengeId
  nonce : r.nonce = c.nonce
  purpose : r.purpose = c.purpose

/-- **WHAT A VERIFIER CHECKS**: the answer repeats a challenge of its own audience that has not
    expired, and its signature verifies under the address that is returned. -/
theorem ChallengeResponse.verify_ok_iff :
    r.verify H c Y now leeway = .ok a ↔
      Y ≠ [] ∧ c.audience = Y ∧ Answers r c ∧ c.isExpired now leeway = .ok false ∧
        verifyByAddress H r.address contextChallengeResponse r.payload (.str r.signature) = .ok () ∧
        a = r.address := by
  simp only [verify, bind_ok_iff, raiseIf_ok_iff, not_not, Except.ok.injEq]
  constructor
  · rintro ⟨_, hY, _, haudience, _, hc, _, hid, _, hnonce, _, hpurpose, expired, hexpired, _,
      hfalse, _, hverify, rfl⟩
    rw [Bool.not_eq_true] at hfalse
    rw [hfalse] at hexpired
    exact ⟨hY, hc, ⟨haudience.trans hc.symm, hid, hnonce, hpurpose⟩, hexpired, hverify, rfl⟩
  · rintro ⟨hY, rfl, hanswers, hexpired, hverify, rfl⟩
    exact ⟨(), hY, (), hanswers.audience, (), rfl, (), hanswers.challengeId, (), hanswers.nonce,
      (), hanswers.purpose, false, hexpired, (), Bool.false_ne_true, (), hverify, rfl⟩

theorem create_ok (h : ChallengeResponse.create H sign address C = .ok r) :
    Answers r C ∧ r.address = address := by
  obtain ⟨signature, -, h⟩ := bind_ok_iff.mp h
  cases h
  exact ⟨⟨rfl, rfl, rfl, rfl⟩, rfl⟩

/-! ## The audience of an answer -/

theorem payload_sorted (r : ChallengeResponse) :
    (([(py "address", .str r.address), (py "audience", .str r.audience),
      (py "challenge_id", .str r.challengeId), (py "nonce", .str r.nonce),
      (py "purpose", .str r.purpose)] : Members).map Prod.fst).Pairwise (· ≤ ·) := by
  show [py "address", py "audience", py "challenge_id", py "nonce", py "purpose"].Pairwise (· ≤ ·)
  decide

theorem audience_of_matches {same : PyStr → PyStr → Prop}
    (h : Matches same r.payload r'.payload) : same r.audience r'.audience := by
  rw [ChallengeResponse.payload, ChallengeResponse.payload,
    matches_obj_iff (payload_sorted r) (payload_sorted r')] at h
  simp only [List.forall₂_cons] at h
  exact matches_str_iff.mp h.2.1.2

/-- An answer readdressed to a spelling of its audience matches the answer. -/
theorem matches_readdressed {same : PyStr → PyStr → Prop} (hsame : ∀ s, same s s)
    (h : same r.audience Y) : Matches same r.payload { r with audience := Y }.payload := by
  refine (matches_obj_iff (payload_sorted r) (payload_sorted { r with audience := Y })).mpr ?_
  refine .cons ⟨hsame _, .str (hsame _)⟩ (.cons ⟨hsame _, .str h⟩ ?_)
  refine .cons ⟨hsame _, .str (hsame _)⟩ (.cons ⟨hsame _, .str (hsame _)⟩ ?_)
  exact .cons ⟨hsame _, .str (hsame _)⟩ .nil

/-- The challenge readdressed, and good until 2026. -/
def readdressed (C : Challenge) (hY : Y ≠ []) : Challenge :=
  ⟨C.challengeId, C.nonce, Y, C.purpose, C.issuedAt, moment2026, hY, C.nonce_long⟩

/-- The first instant of year 1. -/
def firstInstant : Datetime := ⟨0, by decide, by decide⟩

theorem readdressed_isExpired (C : Challenge) (hY : Y ≠ []) :
    (readdressed C hY).isExpired firstInstant 0 = .ok false := by
  refine bind_ok_iff.mpr ⟨firstInstant, ?_, rfl⟩
  rw [max_self, timedelta_zero]
  rfl

/-- **WHEN AN ANSWER IS BOUND TO ITS AUDIENCE**: no rewriting of it passes at another, for any
    challenge at any time, exactly when the two audiences have different normal forms. -/
theorem bound_to_audience_iff (N : NfcText H.nfc) {sign : Bytes → Bytes} (hX : C.audience = X)
    (hcreate : ChallengeResponse.create H sign address C = .ok r)
    (S : SignedBy H r.address contextChallengeResponse r.payload (.str r.signature) raw message)
    (hY : Y ≠ []) :
    (∀ r' : ChallengeResponse, r'.signature = r.signature → r'.address = r.address →
        ∀ c now leeway a, r'.verify H c Y now leeway ≠ .ok a) ↔
      H.nfc X ≠ H.nfc Y := by
  obtain ⟨hanswers, -⟩ := create_ok hcreate
  have hraudience : r.audience = X := hanswers.audience.trans hX
  constructor
  · intro hnone hsame
    rw [← hraudience] at hsame
    have hmatch : Matches (fun s t => H.nfc s = H.nfc t) r.payload { r with audience := Y }.payload :=
      @matches_readdressed r Y (fun s t => H.nfc s = H.nfc t) (fun _ => rfl) hsame
    refine hnone { r with audience := Y } rfl rfl (readdressed C hY) firstInstant 0 r.address ?_
    refine ChallengeResponse.verify_ok_iff.mpr ⟨hY, rfl, ?_, readdressed_isExpired C hY, ?_, rfl⟩
    · exact ⟨rfl, hanswers.challengeId, hanswers.nonce, hanswers.purpose⟩
    · exact S.verify_of_matches N hmatch
  · intro hne r' hsignature haddress c now leeway a hverify
    obtain ⟨-, haudience, hanswers', -, hsigned, -⟩ := ChallengeResponse.verify_ok_iff.mp hverify
    rw [hsignature] at hsigned
    have hsame := audience_of_matches (S.matches_of_verify N hsigned)
    rw [hraudience, hanswers'.audience, haudience] at hsame
    exact hne hsame

/-! ## An answer relayed to a respelled audience -/

def answerRaw : Bytes := List.replicate 64 1

def keyAudience : PyStr := py "https://KEY.example"

theorem keyAudience_ne : keyAudience ≠ [] := by decide

theorem nonceLong_zero : NonceLong (b64encode (List.replicate 32 0)) := by
  rw [NonceLong, b64decode_b64encode]
  exact le_rfl

/-- A challenge of the audience, and the agent's answer to it. -/
def keyChallenge : Challenge :=
  ⟨py "1", b64encode (List.replicate 32 0), keyAudience, purposeAuthenticate, moment2026,
    moment2026, keyAudience_ne, nonceLong_zero⟩

def keyAnswer : ChallengeResponse :=
  ⟨py "1", constAddress 1, keyAudience, purposeAuthenticate, b64encode (List.replicate 32 0),
    b64encode answerRaw⟩

def answerTable : List Signature :=
  [⟨constKey 1, answerRaw, contextChallengeResponse, keyAnswer.payload⟩]

theorem answerTable_input : ∃ message,
    signingInput (tableHost answerTable) contextChallengeResponse keyAnswer.payload
      = .ok message := by
  refine signingInput_ascii sampleNfc_text.toNfcLaws (by decide) ?_
  refine .obj_cons (by decide) (.str (isAscii_constAddress 1)) ?_
  refine .obj_cons (by decide) (.str (show IsAscii keyAudience by decide)) ?_
  refine .obj_cons (by decide) (.str (show IsAscii (py "1") by decide)) ?_
  refine .obj_cons (by decide) (.str (show IsAscii (b64encode (List.replicate 32 0)) by decide)) ?_
  exact .obj_cons (by decide) (.str (show IsAscii purposeAuthenticate by decide)) .obj_nil

theorem keyAnswer_create : ChallengeResponse.create (tableHost answerTable) (fun _ => answerRaw)
    (constAddress 1) keyChallenge = .ok keyAnswer := by
  obtain ⟨message, hinput⟩ := answerTable_input
  exact bind_ok_iff.mpr ⟨b64encode answerRaw, bind_ok_iff.mpr ⟨message, hinput, rfl⟩, rfl⟩

theorem keyAnswer_signedBy : ∃ message,
    SignedBy (tableHost answerTable) keyAnswer.address contextChallengeResponse keyAnswer.payload
      (.str keyAnswer.signature) answerRaw message := by
  obtain ⟨message, hinput⟩ := answerTable_input
  have hmem : (⟨constKey 1, answerRaw, contextChallengeResponse, keyAnswer.payload⟩ : Signature)
      ∈ answerTable := List.mem_cons_self
  refine ⟨message, ?_, decodeSignature_b64encode _, hinput, ?_⟩
  · refine tableHost_verify hmem (signingKey_constAddress 1) hinput ?_
    refine @matches_refl SameText (fun _ => rfl) _ (floatFree_of_signingInput hinput)
  · exact @tableHost_signatureOver _ _ _ hinput fun s' hs' _ => List.mem_singleton.mp hs'

/-- The answer passes nowhere else, where the audience is another to every reader. -/
theorem bound_to_audience_iff_other :
    ¬ ∃ (r' : ChallengeResponse) (c : Challenge) (now : Datetime) (leeway : ℚ) (a : PyStr),
      r'.signature = keyAnswer.signature ∧ r'.address = keyAnswer.address ∧
        r'.verify (tableHost answerTable) c (py "https://other.example") now leeway = .ok a := by
  obtain ⟨message, hsigned⟩ := keyAnswer_signedBy
  rintro ⟨r', c, now, leeway, a, hsignature, haddress, hverify⟩
  exact (bound_to_audience_iff tableHost_nfcText rfl keyAnswer_create hsigned (by decide)).mpr
    (by decide) r' hsignature haddress c now leeway a hverify

theorem respell_keyAudience_ne : respell keyAudience ≠ [] := by decide

/-- **AN ANSWER RELAYED**: given to one audience, it passes at another whose name is spelled with
    the Kelvin sign. -/
theorem respelled_audience_accepted :
    keyAudience ≠ respell keyAudience ∧ keyChallenge.audience = keyAudience ∧
      ChallengeResponse.create (tableHost answerTable) (fun _ => answerRaw) (constAddress 1)
        keyChallenge = .ok keyAnswer ∧
      (∃ message, SignedBy (tableHost answerTable) keyAnswer.address contextChallengeResponse
        keyAnswer.payload (.str keyAnswer.signature) answerRaw message) ∧
      ({ keyAnswer with audience := respell keyAudience }).verify (tableHost answerTable)
        (readdressed keyChallenge respell_keyAudience_ne) (respell keyAudience) firstInstant 0
        = .ok (constAddress 1) := by
  obtain ⟨message, hsigned⟩ := keyAnswer_signedBy
  refine ⟨by decide, rfl, keyAnswer_create, ⟨message, hsigned⟩, ?_⟩
  refine ChallengeResponse.verify_ok_iff.mpr ⟨respell_keyAudience_ne, rfl, ⟨rfl, rfl, rfl, rfl⟩,
    readdressed_isExpired _ _, ?_, rfl⟩
  exact hsigned.verify_of_matches tableHost_nfcText
    (@matches_readdressed keyAnswer _ SameText (fun _ => rfl) (sampleNfc_respell _))

end AgentPossession
