import Mathlib.Data.Nat.Size
import AgentId.Py
import AgentId.Positional

/-!
# Base-58 text and agent addresses (`keys.py`, `address.py`)

`base58Encode` and `base58Decode` are the two loops of `keys.py`.  Both are one base change
between 256 and 58 that keeps leading zeros, so each undoes the other
(**`base58Decode_base58Encode`**, **`base58Encode_base58Decode`**), and an address and its key
determine one another (**`signingKeyFromAddress_inj`**).  `intToBytes` gives as many bytes as the
source asks of `to_bytes` (**`length_intToBytes`**).
-/

namespace AgentBase58

open AgentRaises AgentPy AgentPositional

/-- `_ALPHABET` -/
def alphabet : PyStr := py "123456789ABCDEFGHJKLMNPQRSTUVWXYZabcdefghijkmnopqrstuvwxyz"

/-- `_ALPHABET[rem]` -/
def digitChar (d : ℕ) : CodePoint := alphabet.getD d 0

/-- `_ALPHABET.index(char)` -/
def charIndex (c : CodePoint) : Py ℕ :=
  match alphabet.idxOf? c with
  | some i => .ok i
  | none => raise .valueError ["substring not found"]

/-- `int.from_bytes(data, "big")` -/
def intFromBytes (data : Bytes) : ℕ := data.foldl (fun n byte => n * 256 + byte.toNat) 0

/-- `num.to_bytes((num.bit_length() + 7) // 8, "big")`, the shortest big-endian form. -/
def intToBytes (num : ℕ) : Bytes := (Nat.digits 256 num).reverse.map UInt8.ofNat

/-- The `while num > 0` loop of `base58_encode`. -/
def encodeLoop (num : ℕ) (encoded : PyStr) : PyStr :=
  if 0 < num then encodeLoop (num / 58) (digitChar (num % 58) :: encoded) else encoded
termination_by num
decreasing_by exact Nat.div_lt_self ‹_› (by decide)

def base58Encode (data : Bytes) : PyStr :=
  List.replicate (data.takeWhile (· = 0)).length (codePoint '1') ++ encodeLoop (intFromBytes data) []

/-- The `for char in text` loop of `base58_decode`. -/
def decodeLoop : ℕ → PyStr → Py ℕ
  | num, [] => .ok num
  | num, char :: text => do
      let i ← charIndex char
      decodeLoop (num * 58 + i) text

def base58Decode (text : PyStr) : Py Bytes := do
  let num ← decodeLoop 0 text
  .ok (List.replicate (text.takeWhile (· = codePoint '1')).length 0 ++ intToBytes num)

/-! ## The alphabet numbers its characters -/

/-- The alphabet is read back, digit by digit. -/
theorem charIndex_digitChar : ∀ d < 58, charIndex (digitChar d) = .ok d := by decide

/-- What has an index is the digit of that index. -/
theorem digitChar_of_charIndex {c : CodePoint} {i : ℕ} (h : charIndex c = .ok i) :
    i < 58 ∧ digitChar i = c := by
  simp only [charIndex] at h
  cases hi : alphabet.idxOf? c with
  | none => rw [hi] at h; exact nomatch h
  | some j =>
      rw [hi] at h
      cases h
      obtain ⟨hlt, hget, -⟩ := List.findIdx?_eq_some_iff_getElem.mp hi
      refine ⟨hlt, ?_⟩
      rw [digitChar, List.getD_eq_getElem?_getD, List.getElem?_eq_getElem hlt]
      exact eq_of_beq hget

theorem digitChar_zero : digitChar 0 = codePoint '1' := by decide

/-- Only the digit 0 is written `1`. -/
theorem digitChar_eq_one_iff : ∀ d < 58, digitChar d = codePoint '1' ↔ d = 0 := by decide

theorem isAscii_digitChar : ∀ d < 58, (digitChar d).val < 128 := by decide

/-! ## Both loops change the base -/

/-- The loop writes the digits to base 58, the least first. -/
theorem encodeLoop_eq (num : ℕ) (encoded : PyStr) :
    encodeLoop num encoded = (Nat.digits 58 num).reverse.map digitChar ++ encoded :=
  loop_eq_digits (by decide) (fun n done => by rw [encodeLoop]) num encoded

/-- As many bytes as asked for, `(num.bit_length() + 7) // 8`. -/
theorem length_intToBytes (num : ℕ) : (intToBytes num).length = (num.size + 7) / 8 := by
  rw [intToBytes, List.length_map, List.length_reverse]
  refine eq_of_forall_ge_iff fun k => ?_
  rw [Nat.digits_length_le_iff (by decide), show (256 : ℕ) = 2 ^ 8 from rfl, ← Nat.pow_mul,
    ← Nat.size_le]
  omega

/-- The leading run that has a property is as long as that of the images that have one like it. -/
theorem length_takeWhile_map {α β : Type} (f : α → β) (p : α → Bool) (q : β → Bool)
    {l : List α} (h : ∀ a ∈ l, q (f a) = p a) :
    ((l.map f).takeWhile q).length = (l.takeWhile p).length := by
  induction l with
  | nil => rfl
  | cons a l ih =>
      have hl := ih (fun b hb => h b (List.mem_cons_of_mem _ hb))
      rw [List.map_cons, List.takeWhile_cons, List.takeWhile_cons, h a List.mem_cons_self]
      cases p a with
      | true => exact congrArg (· + 1) hl
      | false => rfl

/-- `int.from_bytes` is the value to base 256. -/
theorem intFromBytes_eq_value (data : Bytes) :
    intFromBytes data = value 256 (data.map UInt8.toNat) := by
  simp only [intFromBytes, value]
  rw [List.foldl_map]

/-- Encoding is conversion from base 256 to base 58. -/
theorem base58Encode_eq (data : Bytes) :
    base58Encode data = (convert 256 58 (data.map UInt8.toNat)).map digitChar := by
  have hlead : (data.takeWhile (· = 0)).length = leading (data.map UInt8.toNat) := by
    simp only [leading]
    refine (length_takeWhile_map _ _ _ ?_).symm
    intro b _
    exact decide_eq_decide.mpr (by rw [← UInt8.toNat_inj]; rfl)
  rw [base58Encode, encodeLoop_eq, hlead, intFromBytes_eq_value, convert, expand,
    List.map_append, List.map_replicate, digitChar_zero, List.append_nil]

/-- The loop reads digits of the alphabet, and returns the number they make. -/
theorem decodeLoop_ok_iff {num n : ℕ} {text : PyStr} :
    decodeLoop num text = .ok n ↔ ∃ ds : List ℕ, (∀ d ∈ ds, d < 58) ∧
      text = ds.map digitChar ∧ n = ds.foldl (fun n d => n * 58 + d) num := by
  induction text generalizing num with
  | nil =>
      constructor
      · intro h
        cases h
        exact ⟨[], by simp, rfl, rfl⟩
      · rintro ⟨ds, -, htext, rfl⟩
        rw [List.map_eq_nil_iff.mp htext.symm]
        rfl
  | cons c text ih =>
      rw [decodeLoop, bind_ok_iff]
      constructor
      · rintro ⟨i, hi, hrest⟩
        obtain ⟨hlt, rfl⟩ := digitChar_of_charIndex hi
        obtain ⟨ds, hds, rfl, hn⟩ := ih.mp hrest
        exact ⟨i :: ds, by simpa using ⟨hlt, hds⟩, rfl, hn⟩
      · rintro ⟨ds, hds, htext, hn⟩
        cases ds with
        | nil => exact nomatch htext
        | cons d ds =>
            cases htext
            refine ⟨d, charIndex_digitChar d (hds d List.mem_cons_self), ih.mpr ?_⟩
            exact ⟨ds, fun e he => hds e (List.mem_cons_of_mem _ he), rfl, hn⟩

/-- `base58_decode` reads exactly the texts over the alphabet, and changes their base. -/
theorem base58Decode_ok_iff {text : PyStr} {data : Bytes} :
    base58Decode text = .ok data ↔ ∃ ds : List ℕ, (∀ d ∈ ds, d < 58) ∧
      text = ds.map digitChar ∧ data = (convert 58 256 ds).map UInt8.ofNat := by
  have hpad : ∀ ds : List ℕ, (∀ d ∈ ds, d < 58) →
      ((ds.map digitChar).takeWhile (· = codePoint '1')).length = leading ds := by
    intro ds hds
    refine length_takeWhile_map _ _ _ ?_
    intro d hd
    exact decide_eq_decide.mpr (digitChar_eq_one_iff d (hds d hd))
  rw [base58Decode, bind_ok_iff]
  constructor
  · rintro ⟨num, hnum, hdata⟩
    obtain ⟨ds, hds, rfl, rfl⟩ := decodeLoop_ok_iff.mp hnum
    cases hdata
    refine ⟨ds, hds, rfl, ?_⟩
    rw [hpad ds hds, convert, expand, List.map_append, List.map_replicate, intToBytes]
    rfl
  · rintro ⟨ds, hds, rfl, rfl⟩
    refine ⟨_, decodeLoop_ok_iff.mpr ⟨ds, hds, rfl, rfl⟩, ?_⟩
    rw [hpad ds hds, convert, expand, List.map_append, List.map_replicate, intToBytes]
    rfl

/-! ## The bijection -/

theorem map_ofNat_toNat (data : Bytes) : (data.map UInt8.toNat).map UInt8.ofNat = data := by
  rw [List.map_map]
  exact List.map_id'' (fun b => UInt8.ofNat_toNat) data

theorem map_toNat_ofNat {ds : List ℕ} (h : ∀ d ∈ ds, d < 256) :
    (ds.map UInt8.ofNat).map UInt8.toNat = ds := by
  rw [List.map_map]
  conv_rhs => rw [← List.map_id ds]
  refine List.map_congr_left ?_
  intro d hd
  exact toNat_ofNat_of_lt (h d hd)

/-- Bytes are digits to base 256. -/
theorem toNat_lt_256 {data : Bytes} : ∀ d ∈ data.map UInt8.toNat, d < 256 := by
  intro d hd
  obtain ⟨b, -, rfl⟩ := List.mem_map.mp hd
  exact b.toNat_lt

/-- **DECODING UNDOES ENCODING.** -/
theorem base58Decode_base58Encode (data : Bytes) : base58Decode (base58Encode data) = .ok data := by
  rw [base58Encode_eq]
  refine base58Decode_ok_iff.mpr ⟨_, ?_, rfl, ?_⟩
  · intro d hd
    exact lt_of_mem_expand (by decide) hd
  · rw [convert_convert (by decide) toNat_lt_256, map_ofNat_toNat]

/-- **ENCODING UNDOES DECODING**: each byte string has one spelling. -/
theorem base58Encode_base58Decode {text : PyStr} {data : Bytes}
    (h : base58Decode text = .ok data) : base58Encode data = text := by
  obtain ⟨ds, hds, rfl, rfl⟩ := base58Decode_ok_iff.mp h
  have hbytes : ∀ d ∈ convert 58 256 ds, d < 256 := fun d hd => lt_of_mem_expand (by decide) hd
  rw [base58Encode_eq, map_toNat_ofNat hbytes, convert_convert (by decide) hds]

/-- What decodes is ASCII. -/
theorem isAscii_of_base58Decode {text : PyStr} {data : Bytes}
    (h : base58Decode text = .ok data) : IsAscii text := by
  obtain ⟨ds, hds, rfl, -⟩ := base58Decode_ok_iff.mp h
  intro c hc
  obtain ⟨d, hd, rfl⟩ := List.mem_map.mp hc
  exact isAscii_digitChar d (hds d hd)

/-! ## Addresses -/

/-- `ADDRESS_PREFIX` -/
def addressPrefix : PyStr := py "amp:key:"

def addressFromSigningKey (signingPublic : Bytes) : Py PyStr := do
  raiseIf (signingPublic.length ≠ 32) .addressError ["signing public key must be 32 raw bytes"]
  .ok (addressPrefix ++ base58Encode signingPublic)

def signingKeyFromAddress (address : PyStr) : Py Bytes := do
  raiseIf (¬ addressPrefix <+: address) .addressError ["not an AMP address: ", .repr address]
  match base58Decode (address.drop addressPrefix.length) with
  | .error _ => raise .addressError ["invalid base58 in address: ", .repr address]
  | .ok key => do
      raiseIf (key.length ≠ 32) .addressError
        ["address does not decode to a 32-byte key: ", .repr address]
      .ok key

/-- What `signing_key_from_address` accepts: the address of a 32-byte key, and only that. -/
theorem signingKeyFromAddress_ok_iff {address : PyStr} {key : Bytes} :
    signingKeyFromAddress address = .ok key ↔
      key.length = 32 ∧ address = addressPrefix ++ base58Encode key := by
  rw [signingKeyFromAddress, bind_ok_iff]
  constructor
  · rintro ⟨_, hpre, hmatch⟩
    obtain ⟨rest, rfl⟩ := not_not.mp ((raiseIf_ok_iff _ _ _ _).mp hpre)
    rw [List.drop_left] at hmatch
    cases hd : base58Decode rest with
    | error e => rw [hd] at hmatch; exact nomatch hmatch
    | ok k =>
        rw [hd] at hmatch
        obtain ⟨_, hlen, hk⟩ := bind_ok_iff.mp hmatch
        cases hk
        exact ⟨not_not.mp ((raiseIf_ok_iff _ _ _ _).mp hlen),
          by rw [base58Encode_base58Decode hd]⟩
  · rintro ⟨hlen, rfl⟩
    refine ⟨(), (raiseIf_ok_iff _ _ _ _).mpr (not_not.mpr (List.prefix_append _ _)), ?_⟩
    rw [List.drop_left, base58Decode_base58Encode]
    exact bind_ok_iff.mpr ⟨(), (raiseIf_ok_iff _ _ _ _).mpr (not_not.mpr hlen), rfl⟩

/-- So is an address that certifies a key. -/
theorem isAscii_of_signingKey {address : PyStr} {key : Bytes}
    (h : signingKeyFromAddress address = .ok key) : IsAscii address := by
  rw [(signingKeyFromAddress_ok_iff.mp h).2, isAscii_append]
  exact ⟨by decide, isAscii_of_base58Decode (base58Decode_base58Encode key)⟩

/-- **ONE ADDRESS PER KEY.** -/
theorem signingKeyFromAddress_inj {a b : PyStr} {key : Bytes}
    (ha : signingKeyFromAddress a = .ok key) (hb : signingKeyFromAddress b = .ok key) : a = b := by
  rw [(signingKeyFromAddress_ok_iff.mp ha).2, (signingKeyFromAddress_ok_iff.mp hb).2]

/-- **AN ADDRESS AND ITS KEY** determine each other. -/
theorem addressFromSigningKey_ok_iff {key : Bytes} {address : PyStr} :
    addressFromSigningKey key = .ok address ↔ signingKeyFromAddress address = .ok key := by
  rw [signingKeyFromAddress_ok_iff, addressFromSigningKey, bind_ok_iff]
  constructor
  · rintro ⟨_, hlen, h⟩
    cases h
    exact ⟨not_not.mp ((raiseIf_ok_iff _ _ _ _).mp hlen), rfl⟩
  · rintro ⟨hlen, rfl⟩
    exact ⟨(), (raiseIf_ok_iff _ _ _ _).mpr (not_not.mpr hlen), rfl⟩

/-! ## What is raised -/

/-- The characters of the alphabet have an index, and no others. -/
theorem charIndex_ok_iff_mem {c : CodePoint} : (∃ i, charIndex c = .ok i) ↔ c ∈ alphabet := by
  rw [charIndex]
  cases hc : alphabet.idxOf? c with
  | none =>
      refine iff_of_false ?_ (List.idxOf?_eq_none_iff.mp hc)
      rintro ⟨_, h⟩
      cases h
  | some i =>
      refine iff_of_true ⟨i, rfl⟩ ?_
      by_contra hno
      rw [List.idxOf?_eq_none_iff.mpr hno] at hc
      cases hc

/-- Text over the alphabet decodes, and no other text. -/
theorem base58Decode_ok_iff_alphabet {text : PyStr} :
    (∃ data, base58Decode text = .ok data) ↔ ∀ c ∈ text, c ∈ alphabet := by
  constructor
  · rintro ⟨data, h⟩ c hc
    obtain ⟨ds, hds, rfl, -⟩ := base58Decode_ok_iff.mp h
    obtain ⟨d, hd, rfl⟩ := List.mem_map.mp hc
    exact charIndex_ok_iff_mem.mp ⟨d, charIndex_digitChar d (hds d hd)⟩
  · intro h
    have hdigits : ∃ ds : List ℕ, (∀ d ∈ ds, d < 58) ∧ text = ds.map digitChar := by
      induction text with
      | nil => exact ⟨[], fun d hd => absurd hd List.not_mem_nil, rfl⟩
      | cons c text ih =>
          obtain ⟨ds, hds, rfl⟩ := ih fun d hd => h d (List.mem_cons_of_mem c hd)
          obtain ⟨i, hi⟩ := charIndex_ok_iff_mem.mpr (h c List.mem_cons_self)
          obtain ⟨hlt, hchar⟩ := digitChar_of_charIndex hi
          exact ⟨i :: ds, List.forall_mem_cons.mpr ⟨hlt, hds⟩, by rw [List.map_cons, hchar]⟩
    obtain ⟨ds, hds, rfl⟩ := hdigits
    exact ⟨_, base58Decode_ok_iff.mpr ⟨ds, hds, rfl, rfl⟩⟩

/-- The others raise a `ValueError`. -/
theorem charIndex_error {c : CodePoint} : Raises (fun e => e.cls = .valueError) (charIndex c) := by
  rw [charIndex]
  cases alphabet.idxOf? c with
  | some i => exact raises_ok i
  | none => exact raises_error_iff.mpr rfl

/-- **NOT BASE58**: a character outside the alphabet is a plain `ValueError`. -/
theorem base58Decode_error {text : PyStr} :
    Raises (fun e => e.cls = .valueError) (base58Decode text) := by
  have hloop : ∀ (num : ℕ) (s : PyStr), Raises (fun e => e.cls = .valueError) (decodeLoop num s) := by
    intro num s
    induction s generalizing num with
    | nil => exact raises_ok num
    | cons c s ih => exact charIndex_error.bind fun _ _ => ih _
  exact (hloop 0 text).bind fun _ _ => raises_ok _

/-- Whatever is no address raises an `AddressError`. -/
theorem signingKeyFromAddress_error {address : PyStr} :
    Raises (fun e => e.cls = .addressError) (signingKeyFromAddress address) := by
  rw [signingKeyFromAddress]
  refine Raises.bind (raises_raiseIf rfl) fun _ _ => ?_
  cases base58Decode (address.drop addressPrefix.length) with
  | error e => exact raises_error_iff.mpr rfl
  | ok key => exact Raises.bind (raises_raiseIf rfl) fun _ _ => raises_ok key

end AgentBase58
