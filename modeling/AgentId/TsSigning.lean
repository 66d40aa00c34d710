import AgentId.TsCanonical

/-!
# Bytes, addresses and signatures in TypeScript (`bytes.ts`, `base58.ts`, `address.ts`, `signing.ts`)

The codecs of the TypeScript package are written by hand: a pattern and a bit buffer for base64, a
loop over big integers for base58.  Each accepts what its Python counterpart accepts and yields the
same bytes.

* **`tsBase64Decode_ok_iff`** — the bit buffer reads what `b64decode` reads.
* **`tsDecodeSignature_ok_iff`**, **`tsSigningKeyFromAddress_ok_iff`** — signatures and addresses
  are read alike in both languages.
* **`tsVerifyPayload_ok_iff`** — what a signature check establishes.
-/

namespace AgentTsSigning

open AgentPy AgentBase58 AgentJson AgentCanonicalText AgentNormalization AgentJsonRender AgentSigning
  AgentTsCanonical

/-- `if (bad) throw ...` -/
def throwIf (bad : Prop) [Decidable bad] (cls : JsErrorClass) (message : List Part) : Js Unit :=
  if bad then throwNew cls message else .ok ()

@[simp] theorem throwIf_ok_iff (bad : Prop) [Decidable bad] (cls : JsErrorClass)
    (message : List Part) (u : Unit) : throwIf bad cls message = .ok u ↔ ¬ bad := by
  simp only [throwIf, throwNew]
  by_cases h : bad <;> simp [h]

/-! ## One signing input for both packages -/

/-- A context has one tag in both languages. -/
theorem tsDomainTag_of_isContext {context : PyStr} (h : IsContext context) :
    ∃ tag, domainTag context = .ok tag ∧ tsDomainTag context = .ok tag := by
  obtain ⟨tag, htag⟩ := domainTag_of_isContext h
  refine ⟨tag, htag, ?_⟩
  obtain ⟨_, hne, htag⟩ := bind_ok_iff.mp htag
  obtain ⟨tag', hencode, htag⟩ := bind_ok_iff.mp htag
  obtain ⟨_, hlen, htag⟩ := bind_ok_iff.mp htag
  cases htag
  have hscalar : ∀ c ∈ domain ++ py "/" ++ context, IsScalar c := fun c hc =>
    isScalar_ascii (isAscii_append.mpr ⟨(by decide : IsAscii (domain ++ py "/")), h.1⟩ c hc)
  rw [utf8Encode_scalar hscalar] at hencode
  cases hencode
  rw [tsDomainTag, if_neg ((raiseIf_ok_iff _ _ _ _).mp hne)]
  exact if_neg ((raiseIf_ok_iff _ _ _ _).mp hlen)

/-- **WHEN THE SIGNING INPUTS ARE THE SAME**: of a value TypeScript accepts whose strings are
    scalar, exactly when the escapes stand. -/
theorem same_signingInput_iff {H : Host} (N : NfcText H.nfc) {context : PyStr}
    (hc : IsContext context) {j : JsonValue} (hj : Accepted j)
    (hscalar : AllStrings (fun s => ∀ c ∈ s, IsScalar c) (asJson j)) :
    ∃ m m', signingInput H context (asJson j) = .ok m ∧ tsSigningInput H.nfc context j = .ok m' ∧
      (m = m' ↔ AllStrings (EscapesStand H.nfc) (asJson j)) := by
  obtain ⟨tag, htag, htag'⟩ := tsDomainTag_of_isContext hc
  obtain ⟨b, b', hb, hb', hiff⟩ := same_bytes_of_accepted N hj hscalar
  refine ⟨_, _, bind_ok_iff.mpr ⟨tag, htag, bind_ok_iff.mpr ⟨b, hb, rfl⟩⟩,
    bind_ok_iff.mpr ⟨tag, htag', bind_ok_iff.mpr ⟨b', hb', rfl⟩⟩, ?_⟩
  rw [← hiff]
  exact ⟨List.append_cancel_left, fun h => by rw [h]⟩

/-- What has a signing input is accepted. -/
theorem accepted_of_tsSigningInput {nfc : PyStr → PyStr} {context : PyStr} {j : JsonValue}
    {message : Bytes} (h : tsSigningInput nfc context j = .ok message) : Accepted j := by
  obtain ⟨_, text, -, htext, -⟩ := tsSigningInput_ok_iff.mp h
  exact (canonicalize_ok_iff.mp htext).1

/-- A value TypeScript accepts always has a signing input. -/
theorem tsSigningInput_of_accepted (nfc : PyStr → PyStr) {context : PyStr} (hc : IsContext context)
    {j : JsonValue} (hj : Accepted j) : ∃ message, tsSigningInput nfc context j = .ok message := by
  obtain ⟨tag, -, htag⟩ := tsDomainTag_of_isContext hc
  exact ⟨_, tsSigningInput_ok_iff.mpr ⟨tag, _, htag, canonicalize_ok_iff.mpr ⟨hj, rfl⟩, rfl⟩⟩

/-! ## base64 -/

/-- `base64Encode` -/
def tsBase64Encode : Bytes → PyStr
  | [] => []
  | [a] => [b64Char (a.toNat >>> 2), b64Char ((a.toNat % 4) <<< 4 ||| 0), b64Pad, b64Pad]
  | [a, b] =>
      [b64Char (a.toNat >>> 2), b64Char ((a.toNat % 4) <<< 4 ||| b.toNat >>> 4),
        b64Char ((b.toNat % 16) <<< 2 ||| 0), b64Pad]
  | a :: b :: c :: rest =>
      b64Char (a.toNat >>> 2) :: b64Char ((a.toNat % 4) <<< 4 ||| b.toNat >>> 4)
        :: b64Char ((b.toNat % 16) <<< 2 ||| c.toNat >>> 6) :: b64Char (c.toNat % 64)
        :: tsBase64Encode rest

/-- Both packages write the same base64. -/
theorem tsBase64Encode_eq (raw : Bytes) : tsBase64Encode raw = b64encode raw := by
  have hor : ∀ {m i n : ℕ}, n < 2 ^ i → m <<< i ||| n = m * 2 ^ i + n := by
    intro m i n h
    rw [← Nat.shiftLeft_add_eq_or_of_lt h, Nat.shiftLeft_eq]
  induction raw using tsBase64Encode.induct with
  | case1 => rfl
  | case2 a =>
      rw [tsBase64Encode, b64encode, hor (by decide), Nat.shiftRight_eq_div_pow]
      rfl
  | case3 a b =>
      have hb := b.toNat_lt
      rw [tsBase64Encode, b64encode, hor (by rw [Nat.shiftRight_eq_div_pow]; omega),
        hor (by decide), Nat.shiftRight_eq_div_pow, Nat.shiftRight_eq_div_pow]
      rfl
  | case4 a b c rest ih =>
      have hb := b.toNat_lt
      have hc := c.toNat_lt
      rw [tsBase64Encode, b64encode, ih, hor (by rw [Nat.shiftRight_eq_div_pow]; omega),
        hor (by rw [Nat.shiftRight_eq_div_pow]; omega), Nat.shiftRight_eq_div_pow,
        Nat.shiftRight_eq_div_pow, Nat.shiftRight_eq_div_pow]
      rfl

/-- `[A-Za-z0-9+/]` -/
def isB64 (c : CodePoint) : Bool := (sextet? c).isSome

/-- The pattern of `base64Decode`: groups of four, and at the end one that may be padded. -/
def isBase64Text : PyStr → Bool
  | [] => true
  | w :: x :: y :: z :: rest =>
      if isB64 w ∧ isB64 x ∧ isB64 y ∧ isB64 z then isBase64Text rest
      else isB64 w ∧ isB64 x ∧ (y = b64Pad ∨ isB64 y) ∧ z = b64Pad ∧ rest = []
  | _ => false

/-- `text.replace(/=+$/, "")` -/
def dropPadding (text : PyStr) : PyStr := (text.reverse.dropWhile (· = b64Pad)).reverse

/-- `acc`, `bits` and what has been written of `out`. -/
structure BitBuffer where
  acc : ℕ := 0
  bits : ℕ := 0
  out : Bytes := []

/-- One turn of the loop of `base64Decode`, on 32-bit integers. -/
def BitBuffer.push (s : BitBuffer) (ch : CodePoint) : BitBuffer :=
  let acc := (s.acc * 64 + (sextet? ch).getD 0) % 2 ^ 32
  let bits := s.bits + 6
  if 8 ≤ bits then ⟨acc, bits - 8, s.out ++ [.ofNat (acc / 2 ^ (bits - 8) % 256)]⟩
  else ⟨acc, bits, s.out⟩

def tsBase64Decode (text : PyStr) : Js Bytes := do
  throwIf (isBase64Text text = false) .error ["not valid base64"]
  .ok ((dropPadding text).foldl BitBuffer.push {}).out

theorem sextet?_lt {c : CodePoint} {n : ℕ} (h : sextet? c = some n) : n < 64 := by
  obtain ⟨hlt, -⟩ := List.findIdx?_eq_some_iff_getElem.mp h
  exact hlt

/-- The alphabet of the pattern is that of the decoder. -/
theorem isB64_iff {c : CodePoint} : isB64 c = true ↔ ∃ n, sextet? c = some n ∧ n < 64 := by
  rw [isB64, Option.isSome_iff_exists]
  exact exists_congr fun n => ⟨fun h => ⟨h, sextet?_lt h⟩, fun h => h.1⟩

/-- What is no padding is kept. -/
theorem dropPadding_cons {c : CodePoint} (hc : c ≠ b64Pad) (text : PyStr) :
    dropPadding (c :: text) = c :: dropPadding text := by
  rw [dropPadding, dropPadding, List.reverse_cons, List.dropWhile_append]
  have hlast : [c].dropWhile (fun x => decide (x = b64Pad)) = [c] := by simp [hc]
  by_cases hempty : (text.reverse.dropWhile fun x => decide (x = b64Pad)).isEmpty = true
  · rw [if_pos hempty, hlast, List.isEmpty_iff.mp hempty]
    rfl
  · rw [if_neg hempty, List.reverse_append]
    rfl

/-- A character with six bits is no padding. -/
theorem ne_pad {c : CodePoint} {n : ℕ} (h : sextet? c = some n) : c ≠ b64Pad := by
  rintro rfl
  have hnone : sextet? b64Pad = none := by decide
  rw [hnone] at h
  cases h

/-- Two characters at the start of a group write one byte. -/
theorem push_two {w x : CodePoint} {m n : ℕ} (hw : sextet? w = some m) (hx : sextet? x = some n)
    (acc : ℕ) (out : Bytes) : ∃ acc', acc' % 16 = n % 16 ∧
      (BitBuffer.push ⟨acc, 0, out⟩ w).push x = ⟨acc', 4, out ++ [.ofNat (m * 4 + n / 16)]⟩ := by
  have hm := sextet?_lt hw
  have hn := sextet?_lt hx
  refine ⟨((acc * 64 + m) % 2 ^ 32 * 64 + n) % 2 ^ 32, by omega, ?_⟩
  have hbyte : ((acc * 64 + m) % 2 ^ 32 * 64 + n) % 2 ^ 32 / 2 ^ 4 % 256 = m * 4 + n / 16 := by
    omega
  simp only [BitBuffer.push, hw, hx, Option.getD_some, Nat.reduceAdd, Nat.reduceLeDiff,
    if_false, if_true, Nat.reduceSub, hbyte]

/-- A third character writes the second byte, a fourth the last. -/
theorem push_third {y : CodePoint} {n k acc : ℕ} (hy : sextet? y = some k)
    (hacc : acc % 16 = n % 16) (out : Bytes) : ∃ acc', acc' % 4 = k % 4 ∧
      BitBuffer.push ⟨acc, 4, out⟩ y = ⟨acc', 2, out ++ [.ofNat (n % 16 * 16 + k / 4)]⟩ := by
  have hk := sextet?_lt hy
  refine ⟨(acc * 64 + k) % 2 ^ 32, by omega, ?_⟩
  have hbyte : (acc * 64 + k) % 2 ^ 32 / 2 ^ 2 % 256 = n % 16 * 16 + k / 4 := by omega
  simp only [BitBuffer.push, hy, Option.getD_some, Nat.reduceAdd, Nat.reduceLeDiff, if_true,
    Nat.reduceSub, hbyte]

/-- The fourth character of a group completes its third byte. -/
theorem push_fourth {z : CodePoint} {k l acc : ℕ} (hz : sextet? z = some l)
    (hacc : acc % 4 = k % 4) (out : Bytes) : ∃ acc',
      BitBuffer.push ⟨acc, 2, out⟩ z = ⟨acc', 0, out ++ [.ofNat (k % 4 * 64 + l)]⟩ := by
  have hl := sextet?_lt hz
  refine ⟨(acc * 64 + l) % 2 ^ 32, ?_⟩
  have hbyte : (acc * 64 + l) % 2 ^ 32 / 2 ^ 0 % 256 = k % 4 * 64 + l := by omega
  simp only [BitBuffer.push, hz, Option.getD_some, Nat.reduceAdd, Nat.le_refl, if_true,
    Nat.sub_self, hbyte]

/-- A group that is neither four sextets nor a padded end is refused. -/
theorem b64decode_of_not_group {w x y z : CodePoint} {rest : PyStr}
    (hall : ¬ (isB64 w = true ∧ isB64 x = true ∧ isB64 y = true ∧ isB64 z = true))
    (hnot : ¬ (isB64 w = true ∧ isB64 x = true ∧ (y = b64Pad ∨ isB64 y = true) ∧ z = b64Pad ∧
      rest = [])) : b64decode (w :: x :: y :: z :: rest) = none := by
  rw [b64decode]
  cases hw : sextet? w with
  | none => rfl
  | some m =>
      cases hx : sextet? x with
      | none => rfl
      | some n =>
          have hwb : isB64 w = true := isB64_iff.mpr ⟨m, hw, sextet?_lt hw⟩
          have hxb : isB64 x = true := isB64_iff.mpr ⟨n, hx, sextet?_lt hx⟩
          simp only
          rw [if_neg fun h => hnot ⟨hwb, hxb, Or.inl h.1, h.2⟩]
          cases hy : sextet? y with
          | none => rfl
          | some k =>
              have hyb : isB64 y = true := isB64_iff.mpr ⟨k, hy, sextet?_lt hy⟩
              simp only
              rw [if_neg fun h => hnot ⟨hwb, hxb, Or.inr hyb, h⟩]
              cases hz : sextet? z with
              | none => rfl
              | some l => exact absurd ⟨hwb, hxb, hyb, isB64_iff.mpr ⟨l, hz, sextet?_lt hz⟩⟩ hall

/-- **THE BIT BUFFER READS THE GROUPS**, from any state at the start of a group. -/
theorem base64_groups (text : PyStr) :
    (isBase64Text text = true → ∃ raw, b64decode text = some raw ∧ ∀ acc out,
        ((dropPadding text).foldl BitBuffer.push ⟨acc, 0, out⟩).out = out ++ raw) ∧
      (isBase64Text text = false → b64decode text = none) := by
  induction text using isBase64Text.induct with
  | case1 => exact ⟨fun _ => ⟨[], rfl, fun _ out => (List.append_nil out).symm⟩, fun h => nomatch h⟩
  | case2 w x y z rest hall ih =>
      obtain ⟨m, hw, -⟩ := isB64_iff.mp hall.1
      obtain ⟨n, hx, -⟩ := isB64_iff.mp hall.2.1
      obtain ⟨k, hy, -⟩ := isB64_iff.mp hall.2.2.1
      obtain ⟨l, hz, -⟩ := isB64_iff.mp hall.2.2.2
      rw [isBase64Text, if_pos hall, b64decode, hw, hx]
      simp only [ne_pad hy, ne_pad hz, false_and, if_false, hy, hz]
      rw [dropPadding_cons (ne_pad hw), dropPadding_cons (ne_pad hx), dropPadding_cons (ne_pad hy),
        dropPadding_cons (ne_pad hz)]
      refine ⟨fun htext => ?_, fun htext => ?_⟩
      · obtain ⟨raw, hraw, hfold⟩ := ih.1 htext
        rw [hraw]
        refine ⟨_, rfl, fun acc out => ?_⟩
        obtain ⟨acc2, hacc2, htwo⟩ := push_two hw hx acc out
        obtain ⟨acc3, hacc3, hthird⟩ := push_third hy hacc2 (out ++ [.ofNat (m * 4 + n / 16)])
        obtain ⟨acc4, hfourth⟩ := push_fourth hz hacc3
          (out ++ [.ofNat (m * 4 + n / 16)] ++ [.ofNat (n % 16 * 16 + k / 4)])
        rw [List.foldl_cons, List.foldl_cons, htwo, List.foldl_cons, hthird, List.foldl_cons,
          hfourth, hfold, List.append_assoc, List.append_assoc, List.append_assoc]
        rfl
      · rw [ih.2 htext]
  | case3 w x y z rest hall =>
      rw [isBase64Text, if_neg hall, decide_eq_true_iff, decide_eq_false_iff_not]
      refine ⟨?_, fun hnot => ?_⟩
      · rintro ⟨hw, hx, hy, rfl, rfl⟩
        obtain ⟨m, hw, -⟩ := isB64_iff.mp hw
        obtain ⟨n, hx, -⟩ := isB64_iff.mp hx
        rw [dropPadding_cons (ne_pad hw), dropPadding_cons (ne_pad hx)]
        rcases hy with rfl | hy
        · refine ⟨[.ofNat (m * 4 + n / 16)], by simp [b64decode, hw, hx], fun acc out => ?_⟩
          obtain ⟨acc2, -, htwo⟩ := push_two hw hx acc out
          rw [show dropPadding [b64Pad, b64Pad] = [] by decide, List.foldl_cons, List.foldl_cons,
            htwo]
          rfl
        · obtain ⟨k, hy, -⟩ := isB64_iff.mp hy
          refine ⟨[.ofNat (m * 4 + n / 16), .ofNat (n % 16 * 16 + k / 4)],
            by simp [b64decode, hw, hx, hy, ne_pad hy], fun acc out => ?_⟩
          obtain ⟨acc2, hacc2, htwo⟩ := push_two hw hx acc out
          obtain ⟨acc3, -, hthird⟩ := push_third hy hacc2 (out ++ [.ofNat (m * 4 + n / 16)])
          rw [dropPadding_cons (ne_pad hy), show dropPadding [b64Pad] = [] by decide,
            List.foldl_cons, List.foldl_cons, htwo, List.foldl_cons, hthird]
          exact List.append_assoc _ _ _
      · exact b64decode_of_not_group hall hnot
  | case4 text hnil hgroup =>
      rw [isBase64Text, b64decode]
      · exact ⟨fun h => absurd h Bool.false_ne_true, fun _ => rfl⟩
      · exact hnil
      · exact hgroup
      · exact hnil
      · exact hgroup

/-- **BASE64 IS READ ALIKE.** -/
theorem tsBase64Decode_ok_iff {text : PyStr} {raw : Bytes} :
    tsBase64Decode text = .ok raw ↔ b64decode text = some raw := by
  rw [tsBase64Decode, bind_ok_iff]
  obtain ⟨hread, hrefuse⟩ := base64_groups text
  cases htext : isBase64Text text with
  | false =>
      rw [hrefuse htext]
      constructor
      · rintro ⟨_, hok, -⟩
        exact absurd rfl ((throwIf_ok_iff _ _ _ _).mp hok)
      · intro h
        cases h
  | true =>
      obtain ⟨raw', hraw', hfold⟩ := hread htext
      rw [hraw']
      have hout := hfold 0 []
      rw [List.nil_append] at hout
      rw [show ({} : BitBuffer) = ⟨0, 0, []⟩ from rfl, hout]
      constructor
      · rintro ⟨_, -, h⟩
        cases h
        rfl
      · intro h
        cases h
        exact ⟨(), (throwIf_ok_iff _ _ _ _).mpr Bool.noConfusion, rfl⟩

/-! ## Addresses -/

/-- The first loop of `base58Decode`. -/
def tsDecodeLoop : ℕ → PyStr → Js ℕ
  | num, [] => .ok num
  | num, char :: text =>
      match alphabet.idxOf? char with
      | none => throwNew .error ["invalid base58 character: ", .str [char]]
      | some index => tsDecodeLoop (num * 58 + index) text

def tsBase58Decode (text : PyStr) : Js Bytes := do
  let num ← tsDecodeLoop 0 text
  .ok (List.replicate (text.takeWhile (· = codePoint '1')).length 0 ++ intToBytes num)

/-- Both base58 loops read the same number. -/
theorem tsDecodeLoop_ok_iff {num n : ℕ} {text : PyStr} :
    tsDecodeLoop num text = .ok n ↔ decodeLoop num text = .ok n := by
  induction text generalizing num with
  | nil =>
      rw [tsDecodeLoop, decodeLoop, Except.ok.injEq, Except.ok.injEq]
  | cons c text ih =>
      rw [tsDecodeLoop, decodeLoop, charIndex]
      cases alphabet.idxOf? c with
      | none => exact raised_iff_raised
      | some i => exact ih

/-- **BASE58 IS READ ALIKE.** -/
theorem tsBase58Decode_ok_iff {text : PyStr} {data : Bytes} :
    tsBase58Decode text = .ok data ↔ base58Decode text = .ok data := by
  rw [tsBase58Decode, base58Decode, bind_ok_iff, bind_ok_iff]
  simp only [tsDecodeLoop_ok_iff, Except.ok.injEq]

/-- `signingKeyFromAddress` of `address.ts` -/
def tsSigningKeyFromAddress (address : PyStr) : Js Bytes := do
  throwIf (¬ addressPrefix <+: address) .addressError ["not an AMP address: ", .repr address]
  match tsBase58Decode (address.drop addressPrefix.length) with
  | .error _ => throwNew .addressError ["invalid base58 in address: ", .repr address]
  | .ok key => do
      throwIf (key.length ≠ 32) .addressError
        ["address does not decode to a 32-byte key: ", .repr address]
      .ok key

/-- So both take the same addresses for the same keys. -/
theorem tsSigningKeyFromAddress_ok_iff {address : PyStr} {key : Bytes} :
    tsSigningKeyFromAddress address = .ok key ↔ signingKeyFromAddress address = .ok key := by
  rw [tsSigningKeyFromAddress, signingKeyFromAddress, bind_ok_iff, bind_ok_iff]
  refine exists_congr fun _ => and_congr ?_ ?_
  · rw [throwIf_ok_iff, raiseIf_ok_iff]
  · cases hd : base58Decode (address.drop addressPrefix.length) with
    | ok data =>
        rw [tsBase58Decode_ok_iff.mpr hd]
        simp only [bind_ok_iff, throwIf_ok_iff, raiseIf_ok_iff, Except.ok.injEq]
    | error e =>
        cases hts : tsBase58Decode (address.drop addressPrefix.length) with
        | ok data =>
            rw [tsBase58Decode_ok_iff.mp hts] at hd
            cases hd
        | error e' => exact raised_iff_raised

/-! ## Signatures -/

/-- `decodeSignature` of a wire value; one that is not a string fails inside the `try`. -/
def tsDecodeSignature : JsonValue → Js Bytes
  | .string signature =>
      match tsBase64Decode signature with
      | .error _ => throwNew .signatureError ["signature is not valid base64"]
      | .ok raw => do
          throwIf (tsBase64Encode raw ≠ signature) .signatureError
            ["signature is not canonically base64-encoded"]
          .ok raw
  | _ => throwNew .signatureError ["signature is not valid base64"]

/-- **SIGNATURES ARE READ ALIKE.** -/
theorem tsDecodeSignature_ok_iff {signature : PyStr} {raw : Bytes} :
    tsDecodeSignature (.string signature) = .ok raw ↔
      decodeSignature (.str signature) = .ok raw := by
  rw [tsDecodeSignature, decodeSignature]
  cases hd : b64decode signature with
  | some data =>
      rw [tsBase64Decode_ok_iff.mpr hd]
      simp only [bind_ok_iff, throwIf_ok_iff, raiseIf_ok_iff, Except.ok.injEq, tsBase64Encode_eq]
  | none =>
      cases hts : tsBase64Decode signature with
      | ok data =>
          rw [tsBase64Decode_ok_iff.mp hts] at hd
          cases hd
      | error e => exact raised_iff_raised

/-- `verifyPayload`, with the `ed25519Verify` of `keys.ts` taken from the host. -/
def tsVerifyPayload (H : Host) (signingPublic : Bytes) (context : PyStr)
    (payload signature : JsonValue) : Js Unit := do
  let raw ← tsDecodeSignature signature
  let message ← tsSigningInput H.nfc context payload
  throwIf (H.ed25519Verify signingPublic raw message = false) .signatureError
    ["Ed25519 signature verification failed"]

/-- What `verifyPayload` accepts under a key. -/
theorem tsVerifyPayload_ok_iff {H : Host} {key : Bytes} {context : PyStr}
    {payload signature : JsonValue} :
    tsVerifyPayload H key context payload signature = .ok () ↔
      ∃ raw message, tsDecodeSignature signature = .ok raw ∧
        tsSigningInput H.nfc context payload = .ok message ∧
        H.ed25519Verify key raw message = true := by
  simp only [tsVerifyPayload, bind_ok_iff, throwIf_ok_iff, Bool.not_eq_false]
  constructor
  · rintro ⟨raw, hraw, message, hmessage, h⟩
    exact ⟨raw, message, hraw, hmessage, h⟩
  · rintro ⟨raw, message, hraw, hmessage, h⟩
    exact ⟨raw, hraw, message, hmessage, h⟩

end AgentTsSigning
