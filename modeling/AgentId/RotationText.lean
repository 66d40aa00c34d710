import AgentId.Rotation

/-!
# What the bytes of a rotation record say

Signing bytes are normalised text, so records with equal bytes need not be equal.  The fields a
verifier acts on still are: an address that certifies a key is plain text, a commitment that was
met is hexadecimal, and both are read back out of the bytes.

* **`nextAddress_of_bytes`** — two accepted rotations of one identity with equal bytes hand over
  to the same address.
* **`rotation_of_bytes`** — a rotation with the bytes of one whose commitment is hexadecimal has
  its commitment and its sequence too.
* **`inception_of_bytes`** — the same for an inception.
-/

namespace AgentRotationText

open AgentPy AgentBase58 AgentJson AgentCanonicalText AgentSigning AgentSerde AgentRotation

variable {H : Host}

/-! ## Addresses are plain text -/

/-- A base58 digit needs no escape. -/
theorem isPlain_digitChar : ∀ d < 58, (digitChar d).val < 128 ∧ 0x20 ≤ (digitChar d).val ∧
    digitChar d ≠ quote ∧ digitChar d ≠ backslash := by decide

/-- Base58 text needs no escape. -/
theorem isPlain_base58Encode (data : Bytes) : IsPlain (base58Encode data) := by
  obtain ⟨ds, hds, htext, -⟩ := base58Decode_ok_iff.mp (base58Decode_base58Encode data)
  rw [htext]
  intro c hc
  obtain ⟨d, hd, rfl⟩ := List.mem_map.mp hc
  exact isPlain_digitChar d (hds d hd)

/-- Nor does an address that certifies a key. -/
theorem isPlain_of_signingKey {address : PyStr} {key : Bytes}
    (h : signingKeyFromAddress address = .ok key) : IsPlain address := by
  rw [(signingKeyFromAddress_ok_iff.mp h).2, isPlain_append]
  exact ⟨by decide, isPlain_base58Encode key⟩

/-- Nor one that has a commitment. -/
theorem isPlain_of_commitment {address commitment : PyStr}
    (h : commitmentForAddress H address = .ok commitment) : IsPlain address := by
  obtain ⟨key, hkey, -⟩ := commitmentForAddress_ok_iff.mp h
  exact isPlain_of_signingKey hkey

/-- A commitment that an address meets is hexadecimal. -/
theorem isHex_of_commitment {address commitment : PyStr}
    (h : commitmentForAddress H address = .ok commitment) : IsHex commitment := by
  obtain ⟨key, -, rfl⟩ := commitmentForAddress_ok_iff.mp h
  exact isHex_hexdigest _

/-- Nor that of the key which signed a rotation. -/
theorem isPlain_previous {r : KeyRotation} (h : r.Verified H) : IsPlain r.previous := by
  obtain ⟨key, _, _, hkey, -⟩ := verifyByAddress_ok_iff.mp h
  exact isPlain_of_signingKey hkey

/-! ## The texts -/

/-- The text of a rotation's payload, member by member. -/
theorem dumps_rotation (r : KeyRotation) :
    dumps r.payload = py "\x7b" ++ (quoted (py "identity") ++ (py ":" ++ (quoted r.identity
      ++ (py "," ++ (quoted (py "next_address") ++ (py ":" ++ (quoted r.nextAddress
      ++ (py "," ++ (quoted (py "next_commitment") ++ (py ":" ++ (quoted r.nextCommitment
      ++ (py "," ++ (quoted (py "previous") ++ (py ":" ++ (quoted r.previous
      ++ (py "," ++ (quoted (py "rotated_at") ++ (py ":" ++ (quoted (canonicalTimestamp r.rotatedAt)
      ++ (py "," ++ (quoted (py "sequence") ++ (py ":" ++ (natText r.sequence
      ++ py "\x7d"))))))))))))))))))))))) := by
  have hint : intText (r.sequence : Int) = natText r.sequence := by
    rw [intText, if_neg (by omega), Int.natAbs_natCast]
  rw [KeyRotation.payload, dumps_obj_of_sorted (by simp only [List.map_cons, List.map_nil]; decide)]
  simp only [List.map_cons, List.map_nil, memberText, dumps, hint, List.intercalate_cons_cons,
    List.intercalate_singleton, List.append_assoc]

/-- The text of an inception's. -/
theorem dumps_inception (i : Inception) :
    dumps i.payload = py "\x7b" ++ (quoted (py "address") ++ (py ":" ++ (quoted i.address
      ++ (py "," ++ (quoted (py "created_at") ++ (py ":" ++ (quoted (canonicalTimestamp i.createdAt)
      ++ (py "," ++ (quoted (py "next_commitment") ++ (py ":" ++ (quoted i.nextCommitment
      ++ py "\x7d"))))))))))) := by
  rw [Inception.payload, dumps_obj_of_sorted (by simp only [List.map_cons, List.map_nil]; decide)]
  simp only [List.map_cons, List.map_nil, memberText, dumps, List.intercalate_cons_cons,
    List.intercalate_singleton, List.append_assoc]

/-! ## Reading them -/

/-- Equal signing bytes, in one context. -/
def SameBytes (H : Host) (context : PyStr) (p q : Json) : Prop :=
  ∃ message, signingInput H context p = .ok message ∧ signingInput H context q = .ok message

/-- **THE SUCCESSOR IS IN THE BYTES.** -/
theorem nextAddress_of_bytes (N : NfcLaws H.nfc) {r s : KeyRotation}
    (hbytes : SameBytes H contextKeyRotation r.payload s.payload) (hid : r.identity = s.identity)
    (hr : IsPlain r.nextAddress) (hs : IsPlain s.nextAddress) : r.nextAddress = s.nextAddress := by
  obtain ⟨message, hrm, hsm⟩ := hbytes
  have h := nfc_dumps_of_signingInput hrm hsm
  rw [dumps_rotation, dumps_rotation, hid] at h
  exact (nfc_plain_member N hr hs (nfc_skip_member N h)).1

/-- **A ROTATION IS IN ITS BYTES**, once its commitment is known to be hexadecimal. -/
theorem rotation_of_bytes (N : NfcLaws H.nfc) {r s : KeyRotation}
    (hbytes : SameBytes H contextKeyRotation r.payload s.payload) (hid : r.identity = s.identity)
    (hr : IsPlain r.nextAddress) (hs : IsPlain s.nextAddress) (hhex : IsHex s.nextCommitment)
    (hrp : IsPlain r.previous) (hsp : IsPlain s.previous) :
    r.nextAddress = s.nextAddress ∧ r.nextCommitment = s.nextCommitment ∧
      r.sequence = s.sequence := by
  obtain ⟨message, hrm, hsm⟩ := hbytes
  have h := nfc_dumps_of_signingInput hrm hsm
  rw [dumps_rotation, dumps_rotation, hid] at h
  obtain ⟨haddress, h⟩ := nfc_plain_member N hr hs (nfc_skip_member N h)
  obtain ⟨hcommitment, h⟩ := nfc_hex_member N hhex h
  obtain ⟨-, h⟩ := nfc_plain_member N hrp hsp h
  obtain ⟨-, h⟩ := nfc_plain_member N (isPlain_canonicalTimestamp _) (isPlain_canonicalTimestamp _) h
  have hascii : ∀ n, IsAscii (py "," ++ (quoted (py "sequence") ++ (py ":" ++ (natText n
      ++ py "\x7d")))) := by
    intro n
    simp only [isAscii_append]
    exact ⟨by decide, by decide, by decide, isAscii_natText n, by decide⟩
  rw [N.ascii _ (hascii _), N.ascii _ (hascii _)] at h
  have htext := List.append_cancel_left (List.append_cancel_left (List.append_cancel_left h))
  exact ⟨haddress, hcommitment, natText_inj (List.append_cancel_right htext)⟩

/-- **AN INCEPTION IS IN ITS BYTES**, once its commitment is known to be hexadecimal. -/
theorem inception_of_bytes (N : NfcLaws H.nfc) {i j : Inception}
    (hbytes : SameBytes H contextInception i.payload j.payload) (haddr : i.address = j.address)
    (hhex : IsHex j.nextCommitment) : i.nextCommitment = j.nextCommitment := by
  obtain ⟨message, him, hjm⟩ := hbytes
  have h := nfc_dumps_of_signingInput him hjm
  rw [dumps_inception, dumps_inception, haddr] at h
  obtain ⟨-, h⟩ := nfc_plain_member N (isPlain_canonicalTimestamp _) (isPlain_canonicalTimestamp _)
    (nfc_skip_member N h)
  exact (nfc_hex_member N hhex h).1

end AgentRotationText
