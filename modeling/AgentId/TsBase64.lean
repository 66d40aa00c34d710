import AgentId.TsSigning
import AgentId.Utf16
import AgentId.TokenLanguage
import AgentId.BitRegroup

/-!
# The base64 codec of TypeScript (`bytes.ts`, `signing.ts`)

`base64Encode` counts through a typed array in steps of three; `base64Decode` shifts characters
into a 32-bit accumulator that is never cleared, and writes into an array sized beforehand.

* **`mem_base64Pattern_iff`** — the pattern of `base64Decode`, as a language.
* **`jsBase64Encode_eq`**, **`jsBase64Decode_eq`** — the loops compute what the readers of groups
  compute.
* **`jsBase64Decode_eq_unbounded`** — the bits the accumulator drops reach no byte.
-/

namespace AgentTsBase64

open AgentPy AgentSigning AgentUtf16 AgentTsCanonical AgentTsSigning AgentTokenLanguage AgentRegroup

open scoped Computability

/-! ## `base64Encode` -/

/-- One turn of the loop: three bytes from `i` on, four characters. -/
def encodeGroup (bytes : Bytes) (i : ℕ) : PyStr :=
  let a := (bytes.getD i 0).toNat
  let b := if i + 1 < bytes.length then (bytes.getD (i + 1) 0).toNat else 0
  let c := if i + 2 < bytes.length then (bytes.getD (i + 2) 0).toNat else 0
  [b64Char (a >>> 2), b64Char ((a &&& 3) <<< 4 ||| b >>> 4),
    if i + 1 < bytes.length then b64Char ((b &&& 15) <<< 2 ||| c >>> 6) else b64Pad,
    if i + 2 < bytes.length then b64Char (c &&& 63) else b64Pad]

/-- The loop, from `i` on. -/
def encodeFrom (bytes : Bytes) (i : ℕ) (out : PyStr) : PyStr :=
  if i < bytes.length then encodeFrom bytes (i + 3) (out ++ encodeGroup bytes i) else out
termination_by bytes.length - i

def jsBase64Encode (bytes : Bytes) : PyStr := encodeFrom bytes 0 []

/-- A turn looks at what is left alone. -/
theorem encodeGroup_drop (bytes : Bytes) (i : ℕ) :
    encodeGroup (bytes.drop i) 0 = encodeGroup bytes i := by
  have hlt : ∀ j, 0 + j < (bytes.drop i).length ↔ i + j < bytes.length := by
    intro j
    rw [List.length_drop]
    omega
  have hget : ∀ j, (bytes.drop i).getD (0 + j) 0 = bytes.getD (i + j) 0 := by
    intro j
    rw [List.getD_eq_getElem?_getD, List.getElem?_drop, Nat.zero_add, List.getD_eq_getElem?_getD]
  have hfirst := hget 0
  simp only [encodeGroup, hlt, hget]
  rw [Nat.add_zero, Nat.add_zero] at hfirst
  rw [hfirst]

/-- The masks of the loop are remainders. -/
theorem masks (n : ℕ) : n &&& 3 = n % 4 ∧ n &&& 15 = n % 16 ∧ n &&& 63 = n % 64 :=
  ⟨Nat.and_two_pow_sub_one_eq_mod n 2, Nat.and_two_pow_sub_one_eq_mod n 4,
    Nat.and_two_pow_sub_one_eq_mod n 6⟩

/-- The spelling of some bytes is that of the first three and that of the rest. -/
theorem tsBase64Encode_group {bytes : Bytes} (h : bytes ≠ []) :
    tsBase64Encode bytes = encodeGroup bytes 0 ++ tsBase64Encode (bytes.drop 3) := by
  match bytes, h with
  | [a], _ => simp [tsBase64Encode, encodeGroup, masks]
  | [a, b], _ => simp [tsBase64Encode, encodeGroup, masks]
  | a :: b :: c :: rest, _ =>
      simp [tsBase64Encode, encodeGroup, masks]

theorem encodeFrom_eq (bytes : Bytes) (i : ℕ) (out : PyStr) :
    encodeFrom bytes i out = out ++ tsBase64Encode (bytes.drop i) := by
  induction i, out using encodeFrom.induct bytes with
  | case1 i out hi ih =>
      have hne : bytes.drop i ≠ [] := List.ne_nil_of_length_pos (by rw [List.length_drop]; omega)
      rw [encodeFrom, if_pos hi, ih, tsBase64Encode_group hne, encodeGroup_drop, List.drop_drop,
        List.append_assoc]
  | case2 i out hi =>
      rw [encodeFrom, if_neg hi, List.drop_eq_nil_of_le (not_lt.mp hi), tsBase64Encode,
        List.append_nil]

/-- **THE ENCODER'S LOOP** writes the groups one after another. -/
theorem jsBase64Encode_eq (bytes : Bytes) : jsBase64Encode bytes = b64encode bytes := by
  rw [jsBase64Encode, encodeFrom_eq, List.nil_append, List.drop_zero, tsBase64Encode_eq]

/-! ## The pattern of `base64Decode` -/

/-- `[A-Za-z0-9+/]{4}` -/
def quad : Language CodePoint := oneOf isB64 * oneOf isB64 * oneOf isB64 * oneOf isB64

/-- `[A-Za-z0-9+/]{2}==` or `[A-Za-z0-9+/]{3}=` -/
def paddedQuad : Language CodePoint :=
  oneOf isB64 * oneOf isB64 * {[b64Pad, b64Pad]} +
    oneOf isB64 * oneOf isB64 * oneOf isB64 * {[b64Pad]}

/-- What `^(?:[A-Za-z0-9+/]{4})*(?:[A-Za-z0-9+/]{2}==|[A-Za-z0-9+/]{3}=)?$` matches. -/
def base64Pattern : Language CodePoint := quad∗ * (1 + paddedQuad)

/-- Nothing, a padded group, or a whole one and the same again. -/
theorem base64Pattern_unfold : base64Pattern = 1 + paddedQuad + quad * base64Pattern := by
  rw [base64Pattern]
  nth_rewrite 1 [← Language.one_add_self_mul_kstar_eq_kstar]
  rw [add_mul, one_mul, mul_assoc]

theorem cons_mem_quad_mul {w x y z : CodePoint} {rest : PyStr} {L : Language CodePoint} :
    w :: x :: y :: z :: rest ∈ quad * L ↔
      (isB64 w = true ∧ isB64 x = true ∧ isB64 y = true ∧ isB64 z = true) ∧ rest ∈ L := by
  simp only [quad, mul_assoc, cons_mem_oneOf_mul, and_assoc]

theorem cons_mem_paddedQuad {w x y z : CodePoint} {rest : PyStr} :
    w :: x :: y :: z :: rest ∈ paddedQuad ↔
      isB64 w = true ∧ isB64 x = true ∧ (y = b64Pad ∨ isB64 y = true) ∧ z = b64Pad ∧ rest = [] := by
  simp only [paddedQuad, mul_assoc, Language.mem_add, cons_mem_oneOf_mul, mem_word, List.cons.injEq]
  tauto

theorem exists_group {text : PyStr} (h : 4 ≤ text.length) :
    ∃ w x y z rest, text = w :: x :: y :: z :: rest := by
  match text, h with
  | w :: x :: y :: z :: rest, _ => exact ⟨w, x, y, z, rest, rfl⟩

/-- No word of the pattern ends inside its first group. -/
theorem eq_nil_of_base64Pattern {text : PyStr} (h : text ∈ base64Pattern)
    (hshort : text.length < 4) : text = [] := by
  rw [base64Pattern_unfold] at h
  simp only [quad, paddedQuad, mul_assoc, Language.mem_add, Language.mem_one] at h
  match text, hshort with
  | [], _ => rfl
  | [_], _ => simp [cons_mem_oneOf_mul, nil_not_mem_oneOf_mul] at h
  | [_, _], _ => simp [cons_mem_oneOf_mul, nil_not_mem_oneOf_mul, mem_word] at h
  | [_, _, _], _ => simp [cons_mem_oneOf_mul, nil_not_mem_oneOf_mul, mem_word] at h

theorem ne_pad_of_isB64 {c : CodePoint} (h : isB64 c = true) : c ≠ b64Pad := by
  obtain ⟨d, hd, -⟩ := isB64_iff.mp h
  exact ne_pad hd

/-- **THE PATTERN** is what the reader of groups tests. -/
theorem mem_base64Pattern_iff {text : PyStr} :
    text ∈ base64Pattern ↔ isBase64Text text = true := by
  have hcons : ∀ {w : CodePoint} {v : PyStr}, w :: v ∉ (1 : Language CodePoint) := by
    intro w v h
    cases h
  induction text using isBase64Text.induct with
  | case1 =>
      rw [base64Pattern_unfold]
      exact iff_of_true (Or.inl (Or.inl rfl)) rfl
  | case2 w x y z rest hall ih =>
      -- the last character of a whole group is no padding
      have hz := ne_pad_of_isB64 hall.2.2.2
      rw [isBase64Text, if_pos hall, base64Pattern_unfold, Language.mem_add, Language.mem_add,
        cons_mem_quad_mul, cons_mem_paddedQuad]
      constructor
      · rintro ((h | h) | h)
        · exact absurd h hcons
        · exact absurd h.2.2.2.1 hz
        · exact ih.mp h.2
      · exact fun h => Or.inr ⟨hall, ih.mpr h⟩
  | case3 w x y z rest hall =>
      rw [isBase64Text, if_neg hall, decide_eq_true_iff, base64Pattern_unfold, Language.mem_add,
        Language.mem_add, cons_mem_quad_mul, cons_mem_paddedQuad]
      constructor
      · rintro ((h | h) | h)
        · exact absurd h hcons
        · exact h
        · exact absurd h.1 hall
      · exact fun h => Or.inl (Or.inr h)
  | case4 text hnil hgroup =>
      have hshort : text.length < 4 := by
        by_contra hlong
        obtain ⟨w, x, y, z, rest, rfl⟩ := exists_group (not_lt.mp hlong)
        exact hgroup w x y z rest rfl
      rw [isBase64Text]
      · exact iff_of_false (fun h => hnil (eq_nil_of_base64Pattern h hshort)) Bool.false_ne_true
      · exact hnil
      · exact hgroup

/-! ## `base64Decode` -/

/-- `B64.indexOf(ch)` -/
def indexOf (ch : CodePoint) : ℤ :=
  match sextet? ch with
  | some n => n
  | none => -1

/-- `bits`, the 32-bit `acc`, `idx` and the typed array `out`. -/
structure DecodeState where
  bits : ℕ
  acc : BitVec 32
  idx : ℕ
  out : Bytes

/-- One turn of the loop.  A typed array ignores what is written behind its end. -/
def DecodeState.push (s : DecodeState) (ch : CodePoint) : DecodeState :=
  let acc := s.acc <<< 6 ||| BitVec.ofInt 32 (indexOf ch)
  let bits := s.bits + 6
  if 8 ≤ bits then
    { bits := bits - 8, acc, idx := s.idx + 1,
      out := s.out.set s.idx (.ofNat (acc.sshiftRight (bits - 8) &&& 0xff).toNat) }
  else { s with bits, acc }

def jsBase64Decode (text : PyStr) : Js Bytes := do
  throwIf (isBase64Text text = false) .error ["not valid base64"]
  let clean := dropPadding text
  let out := List.replicate ((utf16 clean).length * 3 / 4) 0
  .ok (clean.foldl DecodeState.push { bits := 0, acc := 0, idx := 0, out }).out

/-- The same loop on integers without a width. -/
def jsBase64DecodeUnbounded (text : PyStr) : Js Bytes := do
  throwIf (isBase64Text text = false) .error ["not valid base64"]
  .ok ((feed 6 8 id ((dropPadding text).map fun ch => (indexOf ch).toNat)).out.map .ofNat)

/-- The loop has written what the buffer has, as far as the array of `n` bytes goes. -/
structure Stores (n : ℕ) (s : DecodeState) (t : Buffer) : Prop where
  acc : s.acc.toNat = t.acc
  bits : s.bits = t.bits
  idx : s.idx = t.out.length
  out : s.out = (t.out.map UInt8.ofNat ++ List.replicate n 0).take n

theorem acc_push (acc : BitVec 32) {d : ℕ} (hd : d < 64) :
    (acc <<< 6 ||| BitVec.ofInt 32 d).toNat = (acc.toNat * 2 ^ 6 + d) % 2 ^ 32 := by
  have hdigit : (BitVec.ofInt 32 (d : ℤ)).toNat = d := by
    rw [BitVec.ofInt_natCast, BitVec.toNat_ofNat]
    omega
  have hshift : (acc <<< 6).toNat = (acc.toNat % 2 ^ 26) <<< 6 := by
    rw [BitVec.toNat_shiftLeft, Nat.shiftLeft_eq, Nat.shiftLeft_eq]
    omega
  rw [BitVec.toNat_or, hdigit, hshift, ← Nat.shiftLeft_add_eq_or_of_lt (by omega),
    Nat.shiftLeft_eq]
  omega

/-- The sign that `>>` shifts in stays above the byte. -/
theorem byte_push (acc : BitVec 32) {k : ℕ} (hk : k < 8) :
    (acc.sshiftRight k &&& 0xff).toNat = acc.toNat / 2 ^ k % 2 ^ 8 := by
  have hsign : acc.sshiftRight k &&& 0xff = acc >>> k &&& 0xff := by
    ext i hi
    have hmask : (0xff : BitVec 32)[i] = decide (i < 8) := Nat.testBit_two_pow_sub_one 8 i
    rw [BitVec.getElem_and, BitVec.getElem_and, hmask, BitVec.getElem_sshiftRight,
      BitVec.getElem_ushiftRight]
    by_cases hlow : i < 8
    · rw [dif_pos (by omega), BitVec.getLsbD_eq_getElem]
    · rw [decide_eq_false hlow, Bool.and_false, Bool.and_false]
  rw [hsign, BitVec.toNat_and, BitVec.toNat_ushiftRight, Nat.shiftRight_eq_div_pow]
  exact Nat.and_two_pow_sub_one_eq_mod _ 8

/-- A byte written at the end of what has been written, or behind the end of the array. -/
theorem set_take (written : Bytes) (n : ℕ) (b : UInt8) :
    ((written ++ List.replicate n 0).take n).set written.length b =
      (written ++ [b] ++ List.replicate n 0).take n := by
  refine List.ext_getElem? fun i => ?_
  rw [List.getElem?_set, List.getElem?_take, List.getElem?_take]
  grind

theorem indexOf_of_isB64 {ch : CodePoint} (h : isB64 ch = true) :
    ∃ d : ℕ, indexOf ch = d ∧ d < 64 := by
  obtain ⟨d, hd, hlt⟩ := isB64_iff.mp h
  exact ⟨d, by rw [indexOf, hd], hlt⟩

/-- **ONE CHARACTER** of the alphabet, in the loop and in the buffer of 32 bits. -/
theorem Stores.push {n : ℕ} {s : DecodeState} {t : Buffer} (h : Stores n s t)
    (hbits : t.bits < 8) {ch : CodePoint} (hch : isB64 ch = true) :
    Stores n (s.push ch) (AgentRegroup.push 6 8 (· % 2 ^ 32) t (indexOf ch).toNat) := by
  obtain ⟨d, hd, hlt⟩ := indexOf_of_isB64 hch
  have hacc := acc_push s.acc hlt
  rw [h.acc] at hacc
  rw [DecodeState.push, AgentRegroup.push, hd, Int.toNat_natCast, h.bits]
  by_cases hfull : 8 ≤ t.bits + 6
  · have hbyte := byte_push (s.acc <<< 6 ||| BitVec.ofInt 32 d)
      (show t.bits + 6 - 8 < 8 by omega)
    rw [hacc] at hbyte
    rw [if_pos hfull, if_pos hfull]
    refine ⟨hacc, rfl, ?_, ?_⟩
    · rw [List.length_append, ← h.idx]
      rfl
    · show s.out.set s.idx _ = _
      rw [hbyte, h.out, h.idx, ← List.length_map UInt8.ofNat, set_take, List.map_append]
      rfl
  · rw [if_neg hfull, if_neg hfull]
    exact ⟨hacc, rfl, h.idx, h.out⟩

theorem Stores.foldl {n : ℕ} {s : DecodeState} {t : Buffer} (h : Stores n s t) (hbits : t.bits < 8)
    {clean : PyStr} (hclean : ∀ ch ∈ clean, isB64 ch = true) :
    Stores n (clean.foldl DecodeState.push s)
      ((clean.map fun ch => (indexOf ch).toNat).foldl (AgentRegroup.push 6 8 (· % 2 ^ 32)) t) := by
  induction clean generalizing s t with
  | nil => exact h
  | cons ch clean ih =>
      rw [List.forall_mem_cons] at hclean
      exact ih (h.push hbits hclean.1) (bits_push_lt (by decide) hbits _) hclean.2

theorem dropPadding_cons_isB64 {c : CodePoint} (hc : isB64 c = true) (text : PyStr) :
    dropPadding (c :: text) = c :: dropPadding text :=
  dropPadding_cons (ne_pad_of_isB64 hc) text

/-- What is left of an accepted text without its padding. -/
theorem isB64_of_dropPadding {text : PyStr} (h : isBase64Text text = true) :
    ∀ ch ∈ dropPadding text, isB64 ch = true := by
  induction text using isBase64Text.induct with
  | case1 => exact fun ch hch => absurd hch List.not_mem_nil
  | case2 w x y z rest hall ih =>
      rw [isBase64Text, if_pos hall] at h
      obtain ⟨hw, hx, hy, hz⟩ := hall
      simp only [dropPadding_cons_isB64 hw, dropPadding_cons_isB64 hx, dropPadding_cons_isB64 hy,
        dropPadding_cons_isB64 hz, List.forall_mem_cons]
      exact ⟨hw, hx, hy, hz, ih h⟩
  | case3 w x y z rest hall =>
      rw [isBase64Text, if_neg hall, decide_eq_true_iff] at h
      obtain ⟨hw, hx, hy, rfl, rfl⟩ := h
      rw [dropPadding_cons_isB64 hw, dropPadding_cons_isB64 hx]
      rcases hy with rfl | hy
      · rw [show dropPadding [b64Pad, b64Pad] = [] by decide]
        simp [hw, hx]
      · rw [dropPadding_cons_isB64 hy, show dropPadding [b64Pad] = [] by decide]
        simp [hw, hx, hy]
  | case4 text hnil hgroup =>
      rw [isBase64Text] at h
      · exact absurd h Bool.false_ne_true
      · exact hnil
      · exact hgroup

theorem lt_of_isB64 {ch : CodePoint} (h : isB64 ch = true) : ch.val < 0x10000 := by
  obtain ⟨d, hd, -⟩ := isB64_iff.mp h
  obtain ⟨hlt, heq, -⟩ := List.findIdx?_eq_some_iff_getElem.mp hd
  have hascii := isAscii_b64Char d
  rw [b64Char, List.getD_eq_getElem?_getD, List.getElem?_eq_getElem hlt, Option.getD_some,
    beq_iff_eq.mp heq] at hascii
  exact hascii.trans (by decide)

/-- **THE DECODER'S LOOP** fills the array exactly, with what a buffer of 32 bits writes. -/
theorem loop_out {clean : PyStr} (hclean : ∀ ch ∈ clean, isB64 ch = true) :
    (clean.foldl DecodeState.push
      ⟨0, 0, 0, List.replicate ((utf16 clean).length * 3 / 4) 0⟩).out =
      (feed 6 8 (· % 2 ^ 32) (clean.map fun ch => (indexOf ch).toNat)).out.map UInt8.ofNat := by
  have hunits := length_utf16_of_lt fun ch hch => lt_of_isB64 (hclean ch hch)
  have hwritten : (feed 6 8 (· % 2 ^ 32) (clean.map fun ch => (indexOf ch).toNat)).out.length =
      6 * clean.length / 8 := by
    rw [length_out_feed (by decide) (by decide), List.length_map]
  have hstart : Stores ((utf16 clean).length * 3 / 4)
      ⟨0, 0, 0, List.replicate ((utf16 clean).length * 3 / 4) 0⟩ ⟨0, 0, []⟩ :=
    ⟨rfl, rfl, rfl, by simp⟩
  have hend := (hstart.foldl (by decide) hclean).out
  rw [hend]
  exact List.take_left' (by rw [List.length_map]; show (feed _ _ _ _).out.length = _; omega)

/-- The bit buffer of the reader of groups is the same buffer, with bytes for digits. -/
theorem foldl_push_out {clean : PyStr} (hclean : ∀ ch ∈ clean, isB64 ch = true) (t : Buffer) :
    (clean.foldl BitBuffer.push ⟨t.acc, t.bits, t.out.map .ofNat⟩).out =
      ((clean.map fun ch => (indexOf ch).toNat).foldl
        (AgentRegroup.push 6 8 (· % 2 ^ 32)) t).out.map UInt8.ofNat := by
  induction clean generalizing t with
  | nil => rfl
  | cons ch clean ih =>
      rw [List.forall_mem_cons] at hclean
      obtain ⟨d, hd, -⟩ := isB64_iff.mp hclean.1
      have hindex : (indexOf ch).toNat = d := by rw [indexOf, hd, Int.toNat_natCast]
      rw [List.foldl_cons, List.map_cons, List.foldl_cons, ← ih hclean.2, BitBuffer.push,
        AgentRegroup.push, hd, hindex, Option.getD_some]
      split_ifs with hfull
      · rw [List.map_append]
        rfl
      · rfl

theorem jsBase64Decode_eq (text : PyStr) : jsBase64Decode text = tsBase64Decode text := by
  rw [jsBase64Decode, tsBase64Decode]
  cases htext : isBase64Text text with
  | false => rfl
  | true =>
      have hclean := isB64_of_dropPadding htext
      exact congrArg Except.ok ((loop_out hclean).trans (foldl_push_out hclean ⟨0, 0, []⟩).symm)

/-- **THE WRAP-AROUND REACHES NO BYTE**: 13 bits at most are read or waiting. -/
theorem jsBase64Decode_eq_unbounded (text : PyStr) :
    jsBase64Decode text = jsBase64DecodeUnbounded text := by
  rw [jsBase64Decode, jsBase64DecodeUnbounded]
  cases htext : isBase64Text text with
  | false => rfl
  | true =>
      have hfeed := out_feed_eq (a := 6) (b := 8) (by decide) (by decide) (by decide)
        (keeps_mod 32) (keeps_id 32) ((dropPadding text).map fun ch => (indexOf ch).toNat)
      refine congrArg Except.ok ((loop_out (isB64_of_dropPadding htext)).trans ?_)
      rw [hfeed]

/-! ## `decodeSignature` -/

def jsDecodeSignature (signature : PyStr) : Js Bytes :=
  match jsBase64Decode signature with
  | .error _ => throwNew .signatureError ["signature is not valid base64"]
  | .ok raw => do
      throwIf (jsBase64Encode raw ≠ signature) .signatureError
        ["signature is not canonically base64-encoded"]
      .ok raw

/-- It is the reader that the artifacts go through. -/
theorem jsDecodeSignature_eq (signature : PyStr) :
    jsDecodeSignature signature = tsDecodeSignature (.string signature) := by
  rw [jsDecodeSignature, tsDecodeSignature, jsBase64Decode_eq]
  cases tsBase64Decode signature with
  | error e => rfl
  | ok raw => simp only [jsBase64Encode_eq, tsBase64Encode_eq]

theorem jsBase64Decode_jsBase64Encode (raw : Bytes) :
    jsBase64Decode (jsBase64Encode raw) = .ok raw := by
  rw [jsBase64Decode_eq, jsBase64Encode_eq]
  exact tsBase64Decode_ok_iff.mpr (b64decode_b64encode raw)

/-- **A SIGNATURE HAS ONE SPELLING.** -/
theorem jsDecodeSignature_ok_iff {signature : PyStr} {raw : Bytes} :
    jsDecodeSignature signature = .ok raw ↔ signature = jsBase64Encode raw := by
  rw [jsDecodeSignature_eq, tsDecodeSignature_ok_iff, decodeSignature_str_ok_iff, jsBase64Encode_eq]

/-- **THE CODEC IS EXACT**: what is encoded is read back, a signature is accepted in the spelling
of the encoder alone, and no byte depends on the width of the accumulator. -/
theorem base64_codec_exact :
    (∀ raw, jsBase64Decode (jsBase64Encode raw) = .ok raw) ∧
      (∀ signature raw, jsDecodeSignature signature = .ok raw ↔ signature = jsBase64Encode raw) ∧
      ∀ text, jsBase64Decode text = jsBase64DecodeUnbounded text :=
  ⟨jsBase64Decode_jsBase64Encode, fun _ _ => jsDecodeSignature_ok_iff, jsBase64Decode_eq_unbounded⟩

end AgentTsBase64
