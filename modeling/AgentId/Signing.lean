import AgentId.Base58
import AgentId.CanonicalText

/-!
# Domain-separated signing input (`signing.py`, `keys.py`)

Everything the package takes from outside is one record, `Host`: the NFC tables, SHA-256,
Ed25519 verification and the ISO-8601 reader.  Over it this file models the signing input, the
strict base64 reader and `verify_by_address`.

* **`signingInput_context`** — equal signing bytes have equal contexts.
* **`decodeSignature_b64encode`** — the canonical spelling of a signature is accepted.
* **`Unforgeable`** — the assumption on Ed25519: what verifies under a key, its holder signed.
-/

namespace AgentSigning

open AgentRaises AgentPy AgentBase58 AgentJson AgentCanonicalText

/-- What `datetime.fromisoformat` makes of a text: nothing, a naive datetime, or an instant in
    microseconds since year 1. -/
inductive IsoDatetime where
  | invalid
  | naive
  | aware (us : Int)

/-- The functions the package imports. -/
structure Host where
  /-- `unicodedata.normalize("NFC", ·)` -/
  nfc : PyStr → PyStr
  /-- `hashlib.sha256(·).digest()` -/
  sha256 : Bytes → Bytes
  /-- `Ed25519PublicKey.from_public_bytes(key).verify(signature, message)` returns -/
  ed25519Verify : Bytes → Bytes → Bytes → Bool
  /-- `datetime.fromisoformat` -/
  fromisoformat : PyStr → IsoDatetime

/-! ## Base64 -/

def b64Alphabet : PyStr := py "ABCDEFGHIJKLMNOPQRSTUVWXYZabcdefghijklmnopqrstuvwxyz0123456789+/"

def b64Char (n : ℕ) : CodePoint := b64Alphabet.getD n 0

def b64Pad : CodePoint := codePoint '='

/-- `base64.b64encode(raw).decode()` -/
def b64encode : Bytes → PyStr
  | [] => []
  | [a] => [b64Char (a.toNat / 4), b64Char (a.toNat % 4 * 16), b64Pad, b64Pad]
  | [a, b] =>
      [b64Char (a.toNat / 4), b64Char (a.toNat % 4 * 16 + b.toNat / 16),
        b64Char (b.toNat % 16 * 4), b64Pad]
  | a :: b :: c :: rest =>
      b64Char (a.toNat / 4) :: b64Char (a.toNat % 4 * 16 + b.toNat / 16)
        :: b64Char (b.toNat % 16 * 4 + c.toNat / 64) :: b64Char (c.toNat % 64) :: b64encode rest

def sextet? (c : CodePoint) : Option ℕ := b64Alphabet.idxOf? c

/-- `base64.b64decode(text, validate=True)`: whole groups over the alphabet, padding only at the
    end, bits left over under the padding ignored. -/
def b64decode : PyStr → Option Bytes
  | [] => some []
  | w :: x :: y :: z :: rest =>
      match sextet? w, sextet? x with
      | some w, some x =>
          if y = b64Pad ∧ z = b64Pad ∧ rest = [] then some [.ofNat (w * 4 + x / 16)]
          else
            match sextet? y with
            | none => none
            | some y =>
                if z = b64Pad ∧ rest = [] then
                  some [.ofNat (w * 4 + x / 16), .ofNat (x % 16 * 16 + y / 4)]
                else
                  match sextet? z, b64decode rest with
                  | some z, some rest =>
                      some (.ofNat (w * 4 + x / 16) :: .ofNat (x % 16 * 16 + y / 4)
                        :: .ofNat (y % 4 * 64 + z) :: rest)
                  | _, _ => none
      | _, _ => none
  | _ => none

/-- `decode_signature`: only the canonical base64 spelling of some bytes is accepted.  The
    signature field of a revocation is not type-checked, so the argument is any wire value. -/
def decodeSignature : Json → Py Bytes
  | .str signature =>
      match b64decode signature with
      | none => raise .signatureError ["signature is not valid base64"]
      | some raw => do
          raiseIf (b64encode raw ≠ signature) .signatureError
            ["signature is not canonically base64-encoded"]
          .ok raw
  | _ => raise .signatureError ["signature is not valid base64"]

/-- The alphabet is read back, sextet by sextet. -/
theorem sextet?_b64Char : ∀ n < 64, sextet? (b64Char n) = some n := by decide +kernel

/-- Padding is no character of the alphabet. -/
theorem b64Char_ne_pad : ∀ n < 64, b64Char n ≠ b64Pad := by decide +kernel

/-- **BASE64 READS BACK WHAT IT WROTE.** -/
theorem b64decode_b64encode (raw : Bytes) : b64decode (b64encode raw) = some raw := by
  have hpad : sextet? b64Pad = none := by decide
  -- three bytes a group, as the encoder writes them; one or two are left for the last
  induction raw using b64encode.induct with
  | case1 => rfl
  | case2 a =>
      have ha := a.toNat_lt
      rw [b64encode, b64decode, sextet?_b64Char _ (by omega), sextet?_b64Char _ (by omega)]
      simp only [and_self, if_true]
      rw [show a.toNat / 4 * 4 + a.toNat % 4 * 16 / 16 = a.toNat by omega, UInt8.ofNat_toNat]
  | case3 a b =>
      have ha := a.toNat_lt
      have hb := b.toNat_lt
      rw [b64encode, b64decode, sextet?_b64Char _ (by omega), sextet?_b64Char _ (by omega)]
      simp only [b64Char_ne_pad (b.toNat % 16 * 4) (by omega), false_and, if_false,
        sextet?_b64Char (b.toNat % 16 * 4) (by omega), and_self, if_true]
      rw [show a.toNat / 4 * 4 + (a.toNat % 4 * 16 + b.toNat / 16) / 16 = a.toNat by omega,
        show (a.toNat % 4 * 16 + b.toNat / 16) % 16 * 16 + b.toNat % 16 * 4 / 4 = b.toNat by omega,
        UInt8.ofNat_toNat, UInt8.ofNat_toNat]
  | case4 a b c rest ih =>
      have ha := a.toNat_lt
      have hb := b.toNat_lt
      have hc := c.toNat_lt
      rw [b64encode, b64decode, sextet?_b64Char _ (by omega), sextet?_b64Char _ (by omega)]
      simp only [b64Char_ne_pad (b.toNat % 16 * 4 + c.toNat / 64) (by omega), false_and, if_false,
        sextet?_b64Char (b.toNat % 16 * 4 + c.toNat / 64) (by omega),
        b64Char_ne_pad (c.toNat % 64) (by omega), sextet?_b64Char (c.toNat % 64) (by omega), ih]
      rw [show a.toNat / 4 * 4 + (a.toNat % 4 * 16 + b.toNat / 16) / 16 = a.toNat by omega,
        show (a.toNat % 4 * 16 + b.toNat / 16) % 16 * 16
          + (b.toNat % 16 * 4 + c.toNat / 64) / 4 = b.toNat by omega,
        show (b.toNat % 16 * 4 + c.toNat / 64) % 4 * 64 + c.toNat % 64 = c.toNat by omega,
        UInt8.ofNat_toNat, UInt8.ofNat_toNat, UInt8.ofNat_toNat]

theorem isAscii_b64Char (n : ℕ) : (b64Char n).val < 128 := by
  have hall : ∀ n < 64, (b64Char n).val < 128 := by decide +kernel
  rcases Nat.lt_or_ge n 64 with h | h
  · exact hall n h
  -- past the alphabet stands the default
  · rw [b64Char, List.getD_eq_getElem?_getD,
      List.getElem?_eq_none (show b64Alphabet.length ≤ n from h)]
    decide

/-- What `b64encode` writes is ASCII. -/
theorem isAscii_b64encode (raw : Bytes) : IsAscii (b64encode raw) := by
  have hpad : b64Pad.val < 128 := by decide
  induction raw using b64encode.induct with
  | case1 => exact isAscii_nil
  | case2 a => simp only [b64encode, isAscii_cons, isAscii_b64Char, hpad, isAscii_nil, and_self]
  | case3 a b => simp only [b64encode, isAscii_cons, isAscii_b64Char, hpad, isAscii_nil, and_self]
  | case4 a b c rest ih => simp only [b64encode, isAscii_cons, isAscii_b64Char, ih, and_self]

/-- The canonical spelling of some bytes is accepted. -/
theorem decodeSignature_b64encode (raw : Bytes) :
    decodeSignature (.str (b64encode raw)) = .ok raw := by
  rw [decodeSignature, b64decode_b64encode]
  exact bind_ok_iff.mpr ⟨(), (raiseIf_ok_iff _ _ _ _).mpr (not_not.mpr rfl), rfl⟩

/-- **A SIGNATURE IS SPELLED IN ONE WAY.** -/
theorem decodeSignature_str_ok_iff {signature : PyStr} {raw : Bytes} :
    decodeSignature (.str signature) = .ok raw ↔ signature = b64encode raw := by
  constructor
  · intro h
    rw [decodeSignature] at h
    cases hdecode : b64decode signature with
    | none =>
        rw [hdecode] at h
        cases h
    | some raw' =>
        simp only [hdecode, bind_ok_iff, raiseIf_ok_iff, Except.ok.injEq] at h
        obtain ⟨_, hsame, rfl⟩ := h
        exact (not_not.mp hsame).symm
  · rintro rfl
    exact decodeSignature_b64encode raw

/-- Whatever the wire value, `decode_signature` fails with a `SignatureError` or not at all. -/
theorem decodeSignature_error {v : Json} :
    Raises (fun e => e.cls = .signatureError) (decodeSignature v) := by
  cases v with
  | str signature =>
      rw [decodeSignature]
      cases b64decode signature with
      | none => exact raises_error_iff.mpr rfl
      | some raw => exact Raises.bind (raises_raiseIf rfl) fun _ _ => raises_ok raw
  | null | bool | int | float | arr | obj => exact raises_error_iff.mpr rfl

/-! ## The signing input -/

/-- `DOMAIN` -/
def domain : PyStr := py "fg-agent-id/v1"

/-- `CONTEXT_AGENT_CARD` -/
def contextAgentCard : PyStr := py "agent-card"

/-- `CONTEXT_DELEGATION` -/
def contextDelegation : PyStr := py "delegation"

/-- `CONTEXT_REVOCATION` -/
def contextRevocation : PyStr := py "revocation"

/-- `CONTEXT_KEY_REVOCATION` -/
def contextKeyRevocation : PyStr := py "key-revocation"

/-- `CONTEXT_KEY_ROTATION` -/
def contextKeyRotation : PyStr := py "key-rotation"

/-- `CONTEXT_INCEPTION` -/
def contextInception : PyStr := py "inception"

/-- `CONTEXT_CHALLENGE_RESPONSE` -/
def contextChallengeResponse : PyStr := py "challenge-response"

/-- `_MAX_TAG_BYTES` -/
def maxTagBytes : ℕ := 0xFFFF

def domainTag (context : PyStr) : Py Bytes := do
  raiseIf (context = []) .valueError ["signing context must be a non-empty string"]
  let tag ← utf8Encode (domain ++ py "/" ++ context)
  raiseIf (maxTagBytes < tag.length) .valueError ["signing context tag is too long"]
  .ok tag

/-- `n.to_bytes(2, "big")` -/
def twoBytes (n : ℕ) : Bytes := [.ofNat (n / 256), .ofNat (n % 256)]

def signingInput (H : Host) (context : PyStr) (payload : Json) : Py Bytes := do
  let tag ← domainTag context
  let body ← canonicalJson H.nfc payload
  .ok (twoBytes tag.length ++ tag ++ body)

/-- `sign_payload`, with the key pair's `sign` as a function of the bytes. -/
def signPayload (H : Host) (sign : Bytes → Bytes) (context : PyStr) (payload : Json) :
    Py PyStr := do
  let message ← signingInput H context payload
  .ok (b64encode (sign message))

/-- `PublicKeys.verify` -/
def verifyKey (H : Host) (signing signature message : Bytes) : Py Unit :=
  raiseIf (H.ed25519Verify signing signature message = false) .signatureError
    ["Ed25519 signature verification failed"]

/-- `verify_payload`, of the signing half of a `PublicKeys`. -/
def verifyPayload (H : Host) (signing : Bytes) (context : PyStr) (payload signature : Json) :
    Py Unit := do
  let raw ← decodeSignature signature
  let message ← signingInput H context payload
  verifyKey H signing raw message

def verifyByAddress (H : Host) (address context : PyStr) (payload signature : Json) : Py Unit := do
  let signing ← signingKeyFromAddress address
  let raw ← decodeSignature signature
  let message ← signingInput H context payload
  verifyKey H signing raw message

/-- What `verify_payload` accepts under a key. -/
theorem verifyPayload_ok_iff {H : Host} {key : Bytes} {context : PyStr} {payload signature : Json} :
    verifyPayload H key context payload signature = .ok () ↔
      ∃ raw message, decodeSignature signature = .ok raw ∧
        signingInput H context payload = .ok message ∧
        H.ed25519Verify key raw message = true := by
  simp only [verifyPayload, bind_ok_iff, verifyKey, raiseIf_ok_iff, Bool.not_eq_false]
  constructor
  · rintro ⟨raw, hraw, message, hmessage, h⟩
    exact ⟨raw, message, hraw, hmessage, h⟩
  · rintro ⟨raw, message, hraw, hmessage, h⟩
    exact ⟨raw, hraw, message, hmessage, h⟩

/-- What `verify_by_address` accepts: the address certifies a key, the signature is canonical
    base64, the payload has a canonical form, and Ed25519 agrees. -/
theorem verifyByAddress_ok_iff {H : Host} {address context : PyStr} {payload signature : Json} :
    verifyByAddress H address context payload signature = .ok () ↔
      ∃ key raw message, signingKeyFromAddress address = .ok key ∧
        decodeSignature signature = .ok raw ∧ signingInput H context payload = .ok message ∧
        H.ed25519Verify key raw message = true := by
  simp only [verifyByAddress, bind_ok_iff, verifyKey, raiseIf_ok_iff, Bool.not_eq_false]
  constructor
  · rintro ⟨key, hkey, raw, hraw, message, hmessage, hverify⟩
    exact ⟨key, raw, message, hkey, hraw, hmessage, hverify⟩
  · rintro ⟨key, raw, message, hkey, hraw, hmessage, hverify⟩
    exact ⟨key, hkey, raw, hraw, message, hmessage, hverify⟩

/-- The signing input reads nothing of the host but its normalisation. -/
theorem signingInput_congr {H H' : Host} (h : H.nfc = H'.nfc) (context : PyStr) (payload : Json) :
    signingInput H context payload = signingInput H' context payload := by
  rw [signingInput, signingInput, h]

/-- Verification reads nothing but normalisation and Ed25519. -/
theorem verifyByAddress_congr {H H' : Host} (hnfc : H.nfc = H'.nfc)
    (hverify : H.ed25519Verify = H'.ed25519Verify) (address context : PyStr)
    (payload signature : Json) :
    verifyByAddress H address context payload signature
      = verifyByAddress H' address context payload signature := by
  simp only [verifyByAddress, signingInput_congr hnfc, verifyKey, hverify]

/-- The two bytes of a length give it back, up to the longest tag. -/
theorem twoBytes_inj {m n : ℕ} (hm : m ≤ maxTagBytes) (hn : n ≤ maxTagBytes)
    (h : twoBytes m = twoBytes n) : m = n := by
  simp only [maxTagBytes] at hm hn
  obtain ⟨h1, h2⟩ := List.cons.inj h
  have hq : m / 256 = n / 256 := by
    have := congrArg UInt8.toNat h1
    rwa [toNat_ofNat_of_lt (by omega), toNat_ofNat_of_lt (by omega)] at this
  have hr : m % 256 = n % 256 := by
    have := congrArg UInt8.toNat (List.cons.inj h2).1
    rwa [toNat_ofNat_of_lt (by omega), toNat_ofNat_of_lt (by omega)] at this
  omega

/-- The signing input is the length of the tag, the tag, and the canonical payload. -/
theorem signingInput_ok_iff {H : Host} {context : PyStr} {payload : Json} {message : Bytes} :
    signingInput H context payload = .ok message ↔
      ∃ tag body, domainTag context = .ok tag ∧ canonicalJson H.nfc payload = .ok body ∧
        message = twoBytes tag.length ++ tag ++ body := by
  rw [signingInput, bind_ok_iff]
  constructor
  · rintro ⟨tag, htag, h⟩
    obtain ⟨body, hbody, h⟩ := bind_ok_iff.mp h
    exact ⟨tag, body, htag, hbody, (Except.ok.inj h).symm⟩
  · rintro ⟨tag, body, htag, hbody, rfl⟩
    exact ⟨tag, htag, bind_ok_iff.mpr ⟨body, hbody, rfl⟩⟩

/-- A tag is the UTF-8 of domain and context, and its length fits in two bytes. -/
theorem domainTag_ok {context : PyStr} {tag : Bytes} (h : domainTag context = .ok tag) :
    utf8Encode (domain ++ py "/" ++ context) = .ok tag ∧ tag.length ≤ maxTagBytes := by
  obtain ⟨_, -, h⟩ := bind_ok_iff.mp h
  obtain ⟨tag', htag, h⟩ := bind_ok_iff.mp h
  obtain ⟨_, hlen, h⟩ := bind_ok_iff.mp h
  cases h
  exact ⟨htag, not_lt.mp ((raiseIf_ok_iff _ _ _ _).mp hlen)⟩

/-- The length prefix separates tag and payload: equal signing bytes split the same way. -/
theorem signingInput_split {H : Host} {c c' : PyStr} {p p' : Json} {message : Bytes}
    (h : signingInput H c p = .ok message) (h' : signingInput H c' p' = .ok message) :
    c = c' ∧ ∃ body, canonicalJson H.nfc p = .ok body ∧ canonicalJson H.nfc p' = .ok body := by
  obtain ⟨tag, body, htag, hbody, rfl⟩ := signingInput_ok_iff.mp h
  obtain ⟨tag', body', htag', hbody', heq⟩ := signingInput_ok_iff.mp h'
  obtain ⟨hutf, hlen⟩ := domainTag_ok htag
  obtain ⟨hutf', hlen'⟩ := domainTag_ok htag'
  rw [List.append_assoc, List.append_assoc] at heq
  obtain ⟨hpre, hrest⟩ := List.append_inj heq rfl
  -- tags of one length end at the same byte
  obtain ⟨htags, hbodies⟩ := List.append_inj hrest (twoBytes_inj hlen hlen' hpre)
  subst htags hbodies
  exact ⟨List.append_cancel_left (utf8Encode_inj hutf hutf'), body, hbody, hbody'⟩

/-- **DOMAIN SEPARATION**: bytes signed for one kind of artifact are never another's. -/
theorem signingInput_context {H : Host} {c c' : PyStr} {p p' : Json} {message : Bytes}
    (h : signingInput H c p = .ok message) (h' : signingInput H c' p' = .ok message) : c = c' :=
  (signingInput_split h h').1

/-- Equal signing bytes have equal normalised payload text. -/
theorem nfc_dumps_of_signingInput {H : Host} {c c' : PyStr} {p p' : Json} {message : Bytes}
    (h : signingInput H c p = .ok message) (h' : signingInput H c' p' = .ok message) :
    H.nfc (dumps p) = H.nfc (dumps p') := by
  obtain ⟨-, body, hp, hp'⟩ := signingInput_split h h'
  exact nfc_dumps_of_canonicalJson hp hp'

/-- A context that always has a tag: ASCII, and short. -/
def IsContext (context : PyStr) : Prop :=
  IsAscii context ∧ context ≠ [] ∧ context.length ≤ 100

instance (context : PyStr) : Decidable (IsContext context) := by
  unfold IsContext
  infer_instance

/-- A short ASCII context has a tag. -/
theorem domainTag_of_isContext {context : PyStr} (h : IsContext context) :
    ∃ tag, domainTag context = .ok tag := by
  obtain ⟨hascii, hne, hlen⟩ := h
  have htext : IsAscii (domain ++ py "/" ++ context) :=
    isAscii_append.mpr ⟨by decide, hascii⟩
  obtain ⟨tag, htag, htaglen⟩ := utf8Encode_ascii htext
  refine ⟨tag, bind_ok_iff.mpr ⟨(), (raiseIf_ok_iff _ _ _ _).mpr hne, ?_⟩⟩
  refine bind_ok_iff.mpr ⟨tag, htag, bind_ok_iff.mpr ⟨(), (raiseIf_ok_iff _ _ _ _).mpr ?_, rfl⟩⟩
  have hdomain : (domain ++ py "/").length = 15 := by decide
  rw [htaglen, List.length_append, hdomain]
  simp only [maxTagBytes]
  omega

/-- An ASCII payload always has a signing input. -/
theorem signingInput_ascii {H : Host} (N : NfcLaws H.nfc) {context : PyStr} {payload : Json}
    (hc : IsContext context) (h : AsciiJson payload) :
    ∃ message, signingInput H context payload = .ok message := by
  obtain ⟨tag, htag⟩ := domainTag_of_isContext hc
  obtain ⟨body, hbody⟩ := h.canonicalJson_ok N
  exact ⟨_, signingInput_ok_iff.mpr ⟨tag, body, htag, hbody, rfl⟩⟩

/-! ## Digests -/

/-- `bytes.hex()` of a digest. -/
def hexdigest (digest : Bytes) : PyStr :=
  digest.flatMap fun b => [hexDigit (b.toNat / 16), hexDigit (b.toNat % 16)]

/-- The digits of `hex` are `0-9` and `a-f`. -/
theorem isHexDigit_hexDigit : ∀ n < 16,
    (0x30 ≤ (hexDigit n).val ∧ (hexDigit n).val ≤ 0x39) ∨
      (0x61 ≤ (hexDigit n).val ∧ (hexDigit n).val ≤ 0x66) := by decide

theorem hexDigit_inj : ∀ m < 16, ∀ n < 16, hexDigit m = hexDigit n → m = n := by decide

/-- A digest is spelled in lower-case hexadecimal. -/
theorem isHex_hexdigest (digest : Bytes) : IsHex (hexdigest digest) := by
  intro c hc
  obtain ⟨b, -, hb⟩ := List.mem_flatMap.mp hc
  have hlt := b.toNat_lt
  rcases List.mem_cons.mp hb with rfl | hb
  · exact isHexDigit_hexDigit _ (by omega)
  · rw [List.mem_singleton.mp hb]
    exact isHexDigit_hexDigit _ (by omega)

/-- **A DIGEST IS READ BACK** from its spelling. -/
theorem hexdigest_inj {a b : Bytes} (h : hexdigest a = hexdigest b) : a = b := by
  induction a generalizing b with
  | nil =>
      cases b with
      | nil => rfl
      | cons y b => exact nomatch h
  | cons x a ih =>
      cases b with
      | nil => exact nomatch h
      | cons y b =>
          have hx := x.toNat_lt
          have hy := y.toNat_lt
          obtain ⟨hhigh, h⟩ := List.cons.inj h
          obtain ⟨hlow, h⟩ := List.cons.inj h
          have hq := hexDigit_inj _ (by omega) _ (by omega) hhigh
          have hr := hexDigit_inj _ (by omega) _ (by omega) hlow
          rw [ih h, UInt8.toNat_inj.mp (show x.toNat = y.toNat by omega)]

/-! ## Assumptions on the primitives -/

/-- SHA-256 has no collisions. -/
def CollisionFree (H : Host) : Prop := Function.Injective H.sha256

/-- A signature verifies only over bytes the holder of the key signed. -/
def Unforgeable (H : Host) (signed : Bytes → Bytes → Prop) : Prop :=
  ∀ key raw message, H.ed25519Verify key raw message = true → signed key message

/-- The holder of the key an address certifies signed this payload in this context. -/
def HolderSigned (H : Host) (signed : Bytes → Bytes → Prop) (address context : PyStr)
    (payload : Json) : Prop :=
  ∃ key message, signingKeyFromAddress address = .ok key ∧
    signingInput H context payload = .ok message ∧ signed key message

/-- **WHAT VERIFIES WAS SIGNED** by the holder of the key, when Ed25519 is unforgeable. -/
theorem holderSigned_of_verify {H : Host} {signed : Bytes → Bytes → Prop}
    (U : Unforgeable H signed) {address context : PyStr} {payload signature : Json}
    (h : verifyByAddress H address context payload signature = .ok ()) :
    HolderSigned H signed address context payload := by
  obtain ⟨key, raw, message, hkey, -, hmessage, hverify⟩ := verifyByAddress_ok_iff.mp h
  exact ⟨key, message, hkey, hmessage, U key raw message hverify⟩

/-! ## The assumptions hold together

    An ideal signature service: a 64-byte signature verifies exactly when the holder of the key
    signed the message.  It meets every assumption above. -/

/-- The host of an ideal service whose holders signed what `signs` says. -/
def idealHost (signs : Bytes → Bytes → Bool) : Host where
  nfc := id
  sha256 := id
  ed25519Verify key raw message := raw.length == 64 && signs key message
  fromisoformat _ := .invalid

/-- The identity meets the laws of normalisation. -/
theorem idealHost_nfcLaws (signs : Bytes → Bytes → Bool) : NfcLaws (idealHost signs).nfc where
  ascii _ _ := rfl
  quote_boundary _ _ := rfl
  quote_free _ h := h
  hex _ _ := rfl

theorem idealHost_collisionFree (signs : Bytes → Bytes → Bool) : CollisionFree (idealHost signs) :=
  Function.injective_id

/-- The ideal service verifies nothing that was not signed. -/
theorem idealHost_unforgeable (signs : Bytes → Bytes → Bool) :
    Unforgeable (idealHost signs) fun key message => signs key message = true := by
  intro key raw message h
  exact (Bool.and_eq_true _ _ ▸ h).2

/-- The text of a signature of the ideal service. -/
def idealSignature : PyStr := b64encode (List.replicate 64 0)

/-- What a holder signed verifies under its address. -/
theorem verifyByAddress_idealHost {signs : Bytes → Bytes → Bool} {address context : PyStr}
    {key : Bytes} {payload : Json} (hkey : signingKeyFromAddress address = .ok key)
    (hc : IsContext context) (hp : AsciiJson payload)
    (hs : ∀ message, signingInput (idealHost signs) context payload = .ok message →
      signs key message = true) :
    verifyByAddress (idealHost signs) address context payload (.str idealSignature) = .ok () := by
  obtain ⟨message, hmessage⟩ := signingInput_ascii (idealHost_nfcLaws signs) hc hp
  refine verifyByAddress_ok_iff.mpr
    ⟨key, _, message, hkey, decodeSignature_b64encode _, hmessage, ?_⟩
  show ((List.replicate 64 (0 : UInt8)).length == 64 && signs key message) = true
  rw [hs message hmessage, List.length_replicate]
  rfl

/-- What the holders of keys have signed: the key, the context and the payload. -/
abbrev Ledger := List (Bytes × PyStr × Json)

/-- The entry of a ledger accounts for a signature of `key` on `message`.  The ideal service
    reads nothing but the payload, so any ideal host serves to compute its signing input. -/
def accounts (key message : Bytes) (entry : Bytes × PyStr × Json) : Bool :=
  entry.1 = key ∧ signingInput (idealHost fun _ _ => false) entry.2.1 entry.2.2 = .ok message

/-- A `free` key signs anything; every other key has signed what the ledger says. -/
def ledgerSigns (free : Bytes → Bool) (ledger : Ledger) (key message : Bytes) : Bool :=
  free key || ledger.any (accounts key message)

def ledgerHost (free : Bytes → Bool) (ledger : Ledger) : Host := idealHost (ledgerSigns free ledger)

/-- A free key signs anything. -/
theorem ledgerSigns_of_free {free : Bytes → Bool} {ledger : Ledger} {key message : Bytes}
    (h : free key = true) : ledgerSigns free ledger key message = true := by
  rw [ledgerSigns, h, Bool.true_or]

/-- What is on the ledger was signed. -/
theorem ledgerSigns_of_mem {free : Bytes → Bool} {ledger : Ledger} {key message : Bytes}
    {context : PyStr} {payload : Json} (h : (key, context, payload) ∈ ledger)
    (hm : signingInput (ledgerHost free ledger) context payload = .ok message) :
    ledgerSigns free ledger key message = true := by
  rw [ledgerSigns, Bool.or_eq_true, List.any_eq_true]
  exact Or.inr ⟨_, h, decide_eq_true ⟨rfl, hm⟩⟩

/-- What a holder signed under a key that is not free is on the ledger. -/
theorem ledger_of_holderSigned {free : Bytes → Bool} {ledger : Ledger} {address context : PyStr}
    {payload : Json} {key : Bytes} (hkey : signingKeyFromAddress address = .ok key)
    (hfree : free key = false)
    (h : HolderSigned (ledgerHost free ledger)
      (fun key message => ledgerSigns free ledger key message = true) address context payload) :
    ∃ payload' message, (key, context, payload') ∈ ledger ∧
      signingInput (ledgerHost free ledger) context payload = .ok message ∧
      signingInput (ledgerHost free ledger) context payload' = .ok message := by
  obtain ⟨key', message, hkey', hmessage, hsigned⟩ := h
  rw [hkey] at hkey'
  cases hkey'
  rw [ledgerSigns, hfree, Bool.false_or, List.any_eq_true] at hsigned
  obtain ⟨⟨k, c, payload'⟩, hmem, hacc⟩ := hsigned
  obtain ⟨hk, hm⟩ := of_decide_eq_true hacc
  -- the message says which context it was signed in
  have hm' : signingInput (ledgerHost free ledger) c payload' = .ok message := hm
  have hc : context = c := signingInput_context hmessage hm'
  subst hc
  have hk' : k = key := hk
  subst hk'
  exact ⟨payload', message, hmem, hmessage, hm'⟩

/-- A key of 32 equal bytes, and its address. -/
def constKey (b : UInt8) : Bytes := List.replicate 32 b

def constAddress (b : UInt8) : PyStr := addressPrefix ++ base58Encode (constKey b)

/-- The sample address certifies the sample key. -/
theorem signingKey_constAddress (b : UInt8) :
    signingKeyFromAddress (constAddress b) = .ok (constKey b) :=
  signingKeyFromAddress_ok_iff.mpr ⟨List.length_replicate .., rfl⟩

/-- Sample keys with one address are one key. -/
theorem constAddress_inj {a b : UInt8} (h : constAddress a = constAddress b) : a = b := by
  have hkeys : constKey a = constKey b := by
    have := signingKey_constAddress a
    rw [h, signingKey_constAddress b] at this
    exact (Except.ok.inj this).symm
  exact (List.cons.inj hkeys).1

theorem isAscii_constAddress (b : UInt8) : IsAscii (constAddress b) :=
  isAscii_of_signingKey (signingKey_constAddress b)

theorem isAscii_idealSignature : IsAscii idealSignature := by decide +kernel

end AgentSigning
