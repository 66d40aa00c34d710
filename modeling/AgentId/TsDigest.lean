import AgentId.TsDate
import AgentId.TsDelegation

/-!
# What a digest names (`delegation.ts`)

`digest` hashes the signing input and the decoded signature one after the other, with nothing
between them and without a check on the length of the signature.  The payload is a JSON object, and
an object tells by itself where it ends.

* **`JsDelegation`** — a grant with dates of any year; **`payload_dated`** — among them the grants
  with the dates of a `Timestamp`.
* **`digest_names_one_grant`** — a digest names one payload and one signature.
-/

namespace AgentTsDigest

open AgentPy AgentJson AgentSigning AgentSerde AgentUtf16 AgentTsCanonical AgentTsSigning
  AgentTsDelegation AgentTsDate

/-! ## Grants with dates of any year -/

/-- A grant as the TypeScript constructor builds it. -/
structure JsDelegation where
  issuer : PyStr
  subject : PyStr
  scopes : List PyStr
  issuedAt : JsDate
  expiresAt : JsDate
  critical : Option (List PyStr)
  signature : PyStr
  extra : List (PyStr × JsonValue)
  extra_shadows_nothing : ∀ k ∈ extra.map Prod.fst, k ∉ tsDelegationKnownFields
  critical_present : ∀ name ∈ critical.getD [], isIn name extra

/-- `if (this.critical) data["critical"] = [...this.critical]` -/
def criticalMember : Option (List PyStr) → List (PyStr × JsonValue)
  | none => []
  | some names => [(py "critical", .array (names.map .string))]

/-- `payload()` -/
def JsDelegation.payload (t : JsDelegation) : List (PyStr × JsonValue) :=
  objectAssign
    ([(py "issuer", .string t.issuer), (py "subject", .string t.subject),
        (py "scopes", .array ((sortByUnits t.scopes).map .string)),
        (py "issued_at", .string t.issuedAt.toISOString),
        (py "expires_at", .string t.expiresAt.toISOString)]
      ++ criticalMember t.critical)
    t.extra

/-- `digest()` -/
def JsDelegation.digest (H : Host) (t : JsDelegation) : Js PyStr := do
  let signed ← tsSigningInput H.nfc contextDelegation (.object t.payload)
  let raw ← tsDecodeSignature (.string t.signature)
  .ok (hexdigest (H.sha256 (signed ++ raw)))

theorem jsDate_in_range (t : Timestamp) :
    -8640000000000000 ≤ (t.ms : Int) - unixEpoch ∧ (t.ms : Int) - unixEpoch ≤ 8640000000000000 := by
  have ht := t.ms_lt
  simp only [unixEpoch]
  omega

/-- The `Date` of a timestamp. -/
def toDate (t : Timestamp) : JsDate := ⟨t.ms - unixEpoch, jsDate_in_range t⟩

theorem toISOString_toDate (t : Timestamp) : (toDate t).toISOString = canonicalTimestamp t :=
  toISOString_of_lt (Int.sub_add_cancel _ _) t.ms_lt

/-- The grant with the dates of its timestamps. -/
def dated (t : TsDelegation) : JsDelegation :=
  ⟨t.issuer, t.subject, t.scopes, toDate t.issuedAt, toDate t.expiresAt, t.critical, t.signature,
    t.extra, t.extra_shadows_nothing, t.critical_present⟩

theorem payload_dated (t : TsDelegation) : (dated t).payload = t.payload := by
  simp only [JsDelegation.payload, dated, toISOString_toDate, TsDelegation.payload,
    tsCanonicalTimestamp]
  cases t.critical with
  | none => rfl
  | some names => rfl

/-! ## One digest, one grant -/

variable {H : Host}

/-- The grants have one canonical payload and one signature, byte for byte. -/
def SameBytes (H : Host) (t t' : JsDelegation) : Prop :=
  ∃ body raw, tsCanonicalJson H.nfc (.object t.payload) = .ok body ∧
    tsCanonicalJson H.nfc (.object t'.payload) = .ok body ∧
    tsDecodeSignature (.string t.signature) = .ok raw ∧
    tsDecodeSignature (.string t'.signature) = .ok raw

/-- What is hashed. -/
theorem digest_ok_iff {t : JsDelegation} {digest : PyStr} :
    t.digest H = .ok digest ↔ ∃ tag text raw, tsDomainTag contextDelegation = .ok tag ∧
      canonicalize H.nfc (.object t.payload) = .ok text ∧
      tsDecodeSignature (.string t.signature) = .ok raw ∧
      hexdigest (H.sha256 (twoBytes tag.length ++ tag ++ textEncode text ++ raw)) = digest := by
  rw [JsDelegation.digest, bind_ok_iff]
  constructor
  · rintro ⟨signed, hsigned, h⟩
    obtain ⟨raw, hraw, h⟩ := bind_ok_iff.mp h
    obtain ⟨tag, text, htag, htext, rfl⟩ := tsSigningInput_ok_iff.mp hsigned
    exact ⟨tag, text, raw, htag, htext, hraw, Except.ok.inj h⟩
  · rintro ⟨tag, text, raw, htag, htext, hraw, hdigest⟩
    exact ⟨_, tsSigningInput_ok_iff.mpr ⟨tag, text, htag, htext, rfl⟩,
      bind_ok_iff.mpr ⟨raw, hraw, congrArg Except.ok hdigest⟩⟩

/-- **EQUAL DIGESTS** are of one payload and one signature, of whatever length. -/
theorem sameBytes_of_digest (C : CollisionFree H) {t t' : JsDelegation} {digest : PyStr}
    (h : t.digest H = .ok digest) (h' : t'.digest H = .ok digest) : SameBytes H t t' := by
  obtain ⟨tag, text, raw, htag, htext, hraw, hdigest⟩ := digest_ok_iff.mp h
  obtain ⟨tag', text', raw', htag', htext', hraw', hdigest'⟩ := digest_ok_iff.mp h'
  cases htag.symm.trans htag'
  have hbytes := C (hexdigest_inj (hdigest.trans hdigest'.symm))
  rw [List.append_assoc _ (textEncode text), List.append_assoc _ (textEncode text')] at hbytes
  obtain ⟨htexts, hraws⟩ := canonicalize_object_append htext htext'
    (List.append_cancel_left hbytes)
  rw [← htexts] at htext'
  rw [← hraws] at hraw'
  exact ⟨textEncode text, raw, bind_ok_iff.mpr ⟨text, htext, rfl⟩,
    bind_ok_iff.mpr ⟨text, htext', rfl⟩, hraw, hraw'⟩

/-! ## Revocations -/

/-- A recall of one grant. -/
structure JsRevocation where
  issuer : PyStr
  delegationDigest : PyStr
  revokedAt : JsDate
  signature : PyStr

/-- `isRevoked` of a registry with these digests. -/
def isRevoked (H : Host) (digests : List PyStr) (t : JsDelegation) : Js Bool :=
  match t.digest H with
  | .ok digest => .ok (digests.contains digest)
  | .error e => if e.cls = .signatureError then .ok false else .error e

/-- A grant counts as revoked when a revocation on file is of its digest. -/
theorem isRevoked_true_iff {digests : List PyStr} {t : JsDelegation} :
    isRevoked H digests t = .ok true ↔ ∃ digest ∈ digests, t.digest H = .ok digest := by
  rw [isRevoked]
  cases t.digest H with
  | ok digest =>
      simp only [Except.ok.injEq, List.contains_iff_mem]
      constructor
      · exact fun h => ⟨digest, h, rfl⟩
      · rintro ⟨_, h, rfl⟩
        exact h
  | error e =>
      refine iff_of_false (fun h => ?_) ?_
      · simp only at h
        split_ifs at h
        cases h
      · rintro ⟨_, _, h⟩
        cases h

/-- **A DIGEST NAMES ONE GRANT**: one payload and one signature; and a grant that counts as
    revoked has the payload and the signature of each grant its revocation is of. -/
theorem digest_names_one_grant (H : Host) (C : CollisionFree H) :
    (∀ (t t' : JsDelegation) (digest : PyStr), t.digest H = .ok digest →
      t'.digest H = .ok digest → SameBytes H t t') ∧
    ∀ (revocations : List JsRevocation) (t' : JsDelegation),
      isRevoked H (revocations.map JsRevocation.delegationDigest) t' = .ok true →
      ∃ r ∈ revocations, ∀ t : JsDelegation, t.digest H = .ok r.delegationDigest →
        SameBytes H t t' := by
  refine ⟨fun t t' digest h h' => sameBytes_of_digest C h h', fun revocations t' hrevoked => ?_⟩
  obtain ⟨digest, hmem, hdigest⟩ := isRevoked_true_iff.mp hrevoked
  obtain ⟨r, hr, rfl⟩ := List.mem_map.mp hmem
  exact ⟨r, hr, fun t ht => sameBytes_of_digest C ht hdigest⟩

/-- A grant to read, with this signature. -/
def readGrant (signature : PyStr) : JsDelegation where
  issuer := py "issuer"
  subject := py "subject"
  scopes := [py "read"]
  issuedAt := toDate AgentIsoText.moment2026
  expiresAt := toDate AgentIsoText.moment2026
  critical := none
  signature := signature
  extra := []
  extra_shadows_nothing _ h := absurd h List.not_mem_nil
  critical_present _ h := absurd h List.not_mem_nil

theorem accepted_readGrant (signature : PyStr) : Accepted (.object (readGrant signature).payload) := by
  refine .object ?_
  show ∀ m ∈ [(py "issuer", JsonValue.string (py "issuer")),
    (py "subject", .string (py "subject")), (py "scopes", .array [.string (py "read")]),
    (py "issued_at", .string (toDate AgentIsoText.moment2026).toISOString),
    (py "expires_at", .string (toDate AgentIsoText.moment2026).toISOString)], Accepted m.2
  simp only [List.forall_mem_cons, List.not_mem_nil, false_imp_iff, implies_true, and_true]
  refine ⟨.string _, .string _, .array fun v hv => ?_, .string _, .string _⟩
  rw [List.mem_singleton.mp hv]
  exact .string _

theorem exists_digest_readGrant {signature : PyStr} {raw : Bytes}
    (h : tsDecodeSignature (.string signature) = .ok raw) :
    ∃ digest, (readGrant signature).digest AgentSignedText.mutedHost = .ok digest := by
  obtain ⟨signed, hsigned⟩ := tsSigningInput_of_accepted AgentSignedText.mutedHost.nfc
    (show IsContext contextDelegation by decide) (accepted_readGrant signature)
  exact ⟨_, bind_ok_iff.mpr ⟨signed, hsigned, bind_ok_iff.mpr ⟨raw, h, rfl⟩⟩⟩

/-- Recalling the grant with the one signature leaves the grant with the other alone. -/
theorem digest_names_one_grant_read : ∃ r : JsRevocation,
    (readGrant []).digest AgentSignedText.mutedHost = .ok r.delegationDigest ∧
      isRevoked AgentSignedText.mutedHost [r.delegationDigest] (readGrant (py "AAAA")) = .ok false := by
  have hnone : tsDecodeSignature (.string []) = .ok [] := by decide
  have hthree : tsDecodeSignature (.string (py "AAAA")) = .ok [0, 0, 0] := by decide
  obtain ⟨digest, hdigest⟩ := exists_digest_readGrant hnone
  obtain ⟨digest', hdigest'⟩ := exists_digest_readGrant hthree
  refine ⟨⟨py "issuer", digest, toDate AgentIsoText.moment2026, []⟩, hdigest, ?_⟩
  have hne : digest' ≠ digest := by
    rintro rfl
    obtain ⟨_, _, -, -, hraw, hraw'⟩ := (digest_names_one_grant AgentSignedText.mutedHost
      Function.injective_id).1 _ _ _ hdigest hdigest'
    rw [show (readGrant []).signature = [] from rfl, hnone] at hraw
    rw [show (readGrant (py "AAAA")).signature = py "AAAA" from rfl, hthree] at hraw'
    cases hraw
    cases hraw'
  rw [isRevoked, hdigest']
  refine congrArg Except.ok (Bool.eq_false_iff.mpr fun h => ?_)
  exact hne (List.mem_singleton.mp (List.contains_iff_mem.mp h))

end AgentTsDigest
