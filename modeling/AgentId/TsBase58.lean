import AgentId.TsSigning

/-!
# Base-58 text in both languages (`base58.ts`, `keys.py`, `address.py`)

The loops of `base58.ts`: big integers are read and written digit by digit, zeros at the front are
counted apart.

* **`jsBase58Encode_eq`**, **`jsBase58Decode_ok_iff`** — they compute what the loops of `keys.py` do.
* **`base58_bijection`** — byte strings and texts over the alphabet, keys and addresses, each way
  round.
-/

namespace AgentTsBase58

open AgentPy AgentPositional AgentBase58 AgentTsCanonical AgentTsSigning

/-- `while (num > 0n)` of `base58Encode` -/
def jsEncodeLoop (num : ℕ) (encoded : PyStr) : PyStr :=
  if 0 < num then jsEncodeLoop (num / 58) (digitChar (num % 58) :: encoded) else encoded
termination_by num
decreasing_by exact Nat.div_lt_self ‹_› (by decide)

/-- `while (num > 0n)` of `base58Decode` -/
def unshiftLoop (num : ℕ) (bytes : List ℕ) : List ℕ :=
  if 0 < num then unshiftLoop (num / 256) (num % 256 :: bytes) else bytes
termination_by num
decreasing_by exact Nat.div_lt_self ‹_› (by decide)

/-- `if (...) pad++; else break;` -/
def padLoop {α : Type} (hit : α → Bool) : ℕ → List α → ℕ
  | pad, [] => pad
  | pad, x :: xs => if hit x then padLoop hit (pad + 1) xs else pad

def jsBase58Encode (data : Bytes) : PyStr :=
  let num := data.foldl (fun num byte => num * 256 + byte.toNat) 0
  let encoded := jsEncodeLoop num []
  let pad := padLoop (· = 0) 0 data
  List.replicate pad (codePoint '1') ++ encoded

def jsBase58Decode (text : PyStr) : Js Bytes := do
  let num ← tsDecodeLoop 0 text
  let bytes := unshiftLoop num []
  let pad := padLoop (· = codePoint '1') 0 text
  .ok ((List.replicate pad 0 ++ bytes).map .ofNat)

/-! ## The loops -/

theorem padLoop_eq {α : Type} (hit : α → Bool) (pad : ℕ) (xs : List α) :
    padLoop hit pad xs = pad + (xs.takeWhile hit).length := by
  induction xs generalizing pad with
  | nil => rfl
  | cons x xs ih =>
      rw [padLoop]
      cases hx : hit x with
      | true =>
          rw [if_pos rfl, ih, List.takeWhile_cons_of_pos hx, List.length_cons]
          omega
      | false => rw [if_neg Bool.false_ne_true, List.takeWhile_cons_of_neg (by simp [hx])]; rfl

theorem jsEncodeLoop_eq (num : ℕ) (encoded : PyStr) :
    jsEncodeLoop num encoded = (Nat.digits 58 num).reverse.map digitChar ++ encoded :=
  loop_eq_digits (by decide) (fun n done => by rw [jsEncodeLoop]) num encoded

theorem unshiftLoop_eq (num : ℕ) (bytes : List ℕ) :
    unshiftLoop num bytes = (Nat.digits 256 num).reverse ++ bytes := by
  have h : unshiftLoop num bytes = (Nat.digits 256 num).reverse.map id ++ bytes :=
    loop_eq_digits (by decide) (fun n done => by rw [unshiftLoop]; rfl) num bytes
  rwa [List.map_id] at h

/-! ## One function in two languages -/

/-- **TEXT IS WRITTEN ALIKE.** -/
theorem jsBase58Encode_eq (data : Bytes) : jsBase58Encode data = base58Encode data := by
  rw [jsBase58Encode, base58Encode, jsEncodeLoop_eq, encodeLoop_eq, padLoop_eq, Nat.zero_add]
  rfl

theorem jsBase58Decode_eq (text : PyStr) : jsBase58Decode text = tsBase58Decode text := by
  rw [jsBase58Decode, tsBase58Decode]
  refine congrArg (tsDecodeLoop 0 text >>= ·) (funext fun num => congrArg Except.ok ?_)
  rw [unshiftLoop_eq, padLoop_eq, Nat.zero_add, List.append_nil, List.map_append,
    List.map_replicate]
  rfl

/-- **TEXT IS READ ALIKE**, and refused alike. -/
theorem jsBase58Decode_ok_iff {text : PyStr} {data : Bytes} :
    jsBase58Decode text = .ok data ↔ base58Decode text = .ok data := by
  rw [jsBase58Decode_eq, tsBase58Decode_ok_iff]

/-! ## The bijection -/

/-- Text over the alphabet is the spelling of its bytes. -/
theorem base58_of_alphabet {text : PyStr} (h : ∀ c ∈ text, c ∈ alphabet) :
    ∃ data, base58Decode text = .ok data ∧ base58Encode data = text := by
  obtain ⟨data, hdata⟩ := base58Decode_ok_iff_alphabet.mpr h
  exact ⟨data, hdata, base58Encode_base58Decode hdata⟩

theorem base58Decode_of_not_alphabet {text : PyStr} (h : ∃ c ∈ text, c ∉ alphabet) :
    ∃ e, base58Decode text = .error e := by
  cases hdecode : base58Decode text with
  | error e => exact ⟨e, rfl⟩
  | ok data =>
      obtain ⟨c, hc, hno⟩ := h
      exact absurd (base58Decode_ok_iff_alphabet.mp ⟨data, hdecode⟩ c hc) hno

/-- A key of 32 bytes has an address, and the reader accepts no other for it. -/
theorem existsUnique_address {key : Bytes} (hkey : key.length = 32) :
    ∃! address, signingKeyFromAddress address = .ok key := by
  refine ⟨addressPrefix ++ base58Encode key, signingKeyFromAddress_ok_iff.mpr ⟨hkey, rfl⟩, ?_⟩
  intro address h
  exact (signingKeyFromAddress_ok_iff.mp h).2

/-- **BASE58 IS A BIJECTION** between byte strings and texts over the alphabet, the same one in
both languages, and with it keys and addresses determine each other. -/
theorem base58_bijection :
    (∀ data, base58Decode (base58Encode data) = .ok data) ∧
      (∀ text, (∀ c ∈ text, c ∈ alphabet) →
        ∃ data, base58Decode text = .ok data ∧ base58Encode data = text) ∧
      (∀ text, (∃ c ∈ text, c ∉ alphabet) → ∃ e, base58Decode text = .error e) ∧
      (∀ data, jsBase58Encode data = base58Encode data) ∧
      (∀ text data, jsBase58Decode text = .ok data ↔ base58Decode text = .ok data) ∧
      (∀ key address, addressFromSigningKey key = .ok address ↔
        signingKeyFromAddress address = .ok key) ∧
      ∀ key, key.length = 32 → ∃! address, signingKeyFromAddress address = .ok key := by
  refine ⟨base58Decode_base58Encode, ?_, ?_, jsBase58Encode_eq, ?_, ?_, ?_⟩
  · intro text h
    exact base58_of_alphabet h
  · intro text h
    exact base58Decode_of_not_alphabet h
  · intro text data
    exact jsBase58Decode_ok_iff
  · intro key address
    exact addressFromSigningKey_ok_iff
  · intro key hkey
    exact existsUnique_address hkey

end AgentTsBase58
