import AgentId.CanonicalEquivalence
import AgentId.IsoText

/-!
# What a signature covers

A signature is over bytes, and the bytes are a normalised image of the payload.  This file says
which payloads share the bytes of a signature, and gives a host in which some holders of keys
have signed some payloads and nothing else verifies.

* **`signingInput_ok_iff_matches`** — the payloads with the same signing bytes are those that
  match: same shape, and strings that are canonically equivalent.
* **`tableHost_signatureOver`** — in the host of a table, a signature verifies only over the bytes
  it was made for.
-/

namespace AgentSignedText

open AgentPy AgentBase58 AgentJson AgentCanonicalText AgentNormalization AgentJsonRender
  AgentCanonicalEquivalence AgentSigning AgentIsoText

/-! ## Payloads with the same bytes -/

variable {H : Host} {context : PyStr} {payload payload' : Json} {message : Bytes}

theorem floatFree_of_signingInput (h : signingInput H context payload = .ok message) :
    FloatFree payload := by
  obtain ⟨_, _, -, hbody, -⟩ := signingInput_ok_iff.mp h
  obtain ⟨_, hreject, -⟩ := bind_ok_iff.mp hbody
  exact rejectFloats_ok_iff.mp hreject

/-- **EQUAL SIGNING BYTES** are of payloads that match. -/
theorem matches_of_signingInput (N : NfcText H.nfc) {context' : PyStr}
    (h : signingInput H context payload = .ok message)
    (h' : signingInput H context' payload' = .ok message) :
    Matches (fun s t => H.nfc s = H.nfc t) payload payload' :=
  (nfc_dumps_eq_iff N (floatFree_of_signingInput h) (floatFree_of_signingInput h')).mp
    (nfc_dumps_of_signingInput h h')

theorem Matches.floatFree {same : PyStr → PyStr → Prop} {v w : Json} (h : Matches same v w) :
    FloatFree v ∧ FloatFree w := by
  induction h with
  | null => exact ⟨.null, .null⟩
  | bool b => exact ⟨.bool b, .bool b⟩
  | int n => exact ⟨.int n, .int n⟩
  | str _ => exact ⟨.str _, .str _⟩
  | arr hlen _ ih => exact floatFree_arr_of_zip hlen ih
  | obj hlen _ _ ih =>
      exact floatFree_obj_of_zip (fun _ => mem_sortKeys.mpr) (fun _ => mem_sortKeys.mpr) hlen ih

/-- **THE PAYLOADS OF A SIGNATURE**: exactly those that match the one that was signed. -/
theorem signingInput_ok_iff_matches (N : NfcText H.nfc)
    (h : signingInput H context payload = .ok message) :
    signingInput H context payload' = .ok message ↔
      Matches (fun s t => H.nfc s = H.nfc t) payload payload' := by
  refine ⟨matches_of_signingInput N h, fun hmatch => ?_⟩
  obtain ⟨hfree, hfree'⟩ := Matches.floatFree hmatch
  have hbody := canonicalJson_congr hfree hfree' ((nfc_dumps_eq_iff N hfree hfree').mpr hmatch)
  rw [signingInput, hbody] at h
  exact h

/-! ## Members that stand in order -/

theorem sortKeys_of_sorted {members : Members} (h : (members.map Prod.fst).Pairwise (· ≤ ·)) :
    sortKeys members = members :=
  List.Pairwise.insertionSort_eq (List.pairwise_map.mp h)

/-- Objects whose members stand in order match member by member. -/
theorem matches_obj_iff {same : PyStr → PyStr → Prop} {members members' : Members}
    (h : (members.map Prod.fst).Pairwise (· ≤ ·)) (h' : (members'.map Prod.fst).Pairwise (· ≤ ·)) :
    Matches same (.obj members) (.obj members') ↔
      List.Forall₂ (fun m m' => same m.1 m'.1 ∧ Matches same m.2 m'.2) members members' := by
  rw [List.forall₂_iff_zip]
  constructor
  · intro hmatch
    cases hmatch with
    | obj hlen hkeys hvalues =>
        rw [sortKeys_of_sorted h, sortKeys_of_sorted h'] at hlen hkeys hvalues
        exact ⟨hlen, fun hp => ⟨hkeys _ hp, hvalues _ hp⟩⟩
  · rintro ⟨hlen, hzip⟩
    refine .obj ?_ ?_ ?_
    · rwa [sortKeys_of_sorted h, sortKeys_of_sorted h']
    · rw [sortKeys_of_sorted h, sortKeys_of_sorted h']
      exact fun p hp => (hzip hp).1
    · rw [sortKeys_of_sorted h, sortKeys_of_sorted h']
      exact fun p hp => (hzip hp).2

theorem forall₂_orderedInsert {R : PyStr × Json → PyStr × Json → Prop}
    (hkey : ∀ m m', R m m' → m.1 = m'.1) {members members' : Members}
    (h : List.Forall₂ R members members') {m m' : PyStr × Json} (hm : R m m') :
    List.Forall₂ R (members.orderedInsert (fun a b => a.1 ≤ b.1) m)
      (members'.orderedInsert (fun a b => a.1 ≤ b.1) m') := by
  induction h with
  | nil => exact .cons hm .nil
  | @cons x x' members members' hx hrest ih =>
      by_cases hle : m.1 ≤ x.1
      · have hle' : m'.1 ≤ x'.1 := by rwa [← hkey m m' hm, ← hkey x x' hx]
        rw [List.orderedInsert_cons, if_pos hle, List.orderedInsert_cons, if_pos hle']
        exact .cons hm (.cons hx hrest)
      · have hle' : ¬ m'.1 ≤ x'.1 := by rwa [← hkey m m' hm, ← hkey x x' hx]
        rw [List.orderedInsert_cons, if_neg hle, List.orderedInsert_cons, if_neg hle']
        exact .cons hx ih

/-- Objects with the same keys match when the values under each key do. -/
theorem matches_obj_of_forall₂ {same : PyStr → PyStr → Prop} (hsame : ∀ s, same s s)
    {members members' : Members}
    (h : List.Forall₂ (fun m m' => m.1 = m'.1 ∧ Matches same m.2 m'.2) members members') :
    Matches same (.obj members) (.obj members') := by
  have hsorted : List.Forall₂ (fun m m' => m.1 = m'.1 ∧ Matches same m.2 m'.2)
      (sortKeys members) (sortKeys members') := by
    induction h with
    | nil => exact .nil
    | cons hm _ ih => exact forall₂_orderedInsert (fun _ _ h => h.1) ih hm
  obtain ⟨hlen, hzip⟩ := List.forall₂_iff_zip.mp hsorted
  refine .obj hlen (fun p hp => ?_) fun p hp => (hzip hp).2
  rw [(hzip hp).1]
  exact hsame _

theorem matches_str_iff {same : PyStr → PyStr → Prop} {s t : PyStr} :
    Matches same (.str s) (.str t) ↔ same s t := by
  constructor
  · intro h
    cases h with
    | str hst => exact hst
  · exact .str

theorem matches_refl {same : PyStr → PyStr → Prop} (hsame : ∀ s, same s s) {v : Json}
    (hv : FloatFree v) : Matches same v v := by
  refine (matches_self_iff hv).mpr ?_
  induction hv with
  | null => exact .null
  | bool b => exact .bool b
  | int n => exact .int n
  | str s => exact .str (hsame s)
  | arr _ ih => exact .arr ih
  | obj _ ih => exact .obj (fun m _ => hsame m.1) ih

/-! ## What was signed -/

/-- The signature verifies over these bytes and no others, under any key. -/
def SignatureOver (H : Host) (raw message : Bytes) : Prop :=
  ∀ key message', H.ed25519Verify key raw message' = true → message' = message

/-- The holder of the key an address certifies signed this payload, and `signature` is the text
    of what it signed. -/
structure SignedBy (H : Host) (address context : PyStr) (payload signature : Json)
    (raw message : Bytes) : Prop where
  verifies : verifyByAddress H address context payload signature = .ok ()
  decoded : decodeSignature signature = .ok raw
  input : signingInput H context payload = .ok message
  only : SignatureOver H raw message

/-- **WHAT ELSE A SIGNATURE PASSES FOR**: a payload that matches the signed one. -/
theorem SignedBy.matches_of_verify {address address' : PyStr} {signature : Json}
    {raw : Bytes} (S : SignedBy H address context payload signature raw message)
    (N : NfcText H.nfc) {context' : PyStr}
    (h : verifyByAddress H address' context' payload' signature = .ok ()) :
    Matches (fun s t => H.nfc s = H.nfc t) payload payload' := by
  obtain ⟨key, raw', message', -, hraw, hmessage, hverify⟩ := verifyByAddress_ok_iff.mp h
  rw [S.decoded] at hraw
  cases hraw
  rw [S.only key message' hverify] at hmessage
  exact matches_of_signingInput N S.input hmessage

/-- A payload that matches the signed one passes under the same address. -/
theorem SignedBy.verify_of_matches {address : PyStr} {signature : Json} {raw : Bytes}
    (S : SignedBy H address context payload signature raw message) (N : NfcText H.nfc)
    (h : Matches (fun s t => H.nfc s = H.nfc t) payload payload') :
    verifyByAddress H address context payload' signature = .ok () := by
  obtain ⟨key, raw', message', hkey, hraw, hmessage, hverify⟩ :=
    verifyByAddress_ok_iff.mp S.verifies
  exact verifyByAddress_ok_iff.mpr
    ⟨key, raw', message', hkey, hraw, (signingInput_ok_iff_matches N hmessage).mpr h, hverify⟩

/-- What a payload holds, one that matches it holds too. -/
theorem member_of_matches {same : PyStr → PyStr → Prop} {members members' : Members}
    (h : Matches same (.obj members) (.obj members')) {m : PyStr × Json} (hm : m ∈ members) :
    ∃ m' ∈ members', same m.1 m'.1 ∧ Matches same m.2 m'.2 := by
  cases h with
  | obj hlen hkeys hvalues =>
      obtain ⟨i, hi, rfl⟩ := List.mem_iff_getElem.mp
        ((List.perm_insertionSort (fun a b => a.1 ≤ b.1) members).mem_iff.mpr hm)
      have hi' : i < (sortKeys members').length := hlen ▸ hi
      have hzip : ((sortKeys members)[i], (sortKeys members')[i]) ∈
          (sortKeys members).zip (sortKeys members') :=
        List.mem_iff_getElem.mpr ⟨i, by rw [List.length_zip]; omega, List.getElem_zip⟩
      exact ⟨_, (List.perm_insertionSort (fun a b => a.1 ≤ b.1) members').mem_iff.mp
        (List.getElem_mem hi'), hkeys _ hzip, hvalues _ hzip⟩

/-- The ideal service normalises nothing, which meets every law. -/
theorem idealHost_nfcText (signs : Bytes → Bytes → Bool) : NfcText (idealHost signs).nfc where
  toNfcLaws := idealHost_nfcLaws signs
  before_ascii _ _ _ _ := rfl
  inert _ _ _ := rfl
  inert_free _ _ _ h := h
  congr _ _ _ _ ha hb := congrArg₂ (· ++ ·) ha hb
  ascii_cons _ _ _ _ _ _ h := ⟨(List.cons.inj h).1, (List.cons.inj h).2⟩
  scalar _ h := h

/-! ## A host in which a few things were signed -/

/-- One use of a key: the bytes of the signature, and the context and payload it was made for. -/
structure Signature where
  key : Bytes
  raw : Bytes
  context : PyStr
  payload : Json

/-- One text to a reader who normalises. -/
abbrev SameText (s t : PyStr) : Prop := sampleNfc s = sampleNfc t

/-- A host that verifies nothing. -/
def mutedHost : Host where
  nfc := sampleNfc
  sha256 := id
  ed25519Verify _ _ _ := false
  fromisoformat := readIso

/-- A signature on the table verifies over the bytes of its own payload. -/
def Signature.covers (s : Signature) (key raw message : Bytes) : Bool :=
  s.key = key ∧ s.raw = raw ∧ signingInput mutedHost s.context s.payload = .ok message

/-- The host in which the signatures on the table were made, and no others. -/
def tableHost (table : List Signature) : Host where
  nfc := sampleNfc
  sha256 := id
  ed25519Verify key raw message := table.any fun s => s.covers key raw message
  fromisoformat := readIso

variable {table : List Signature}

theorem tableHost_nfcText : NfcText (tableHost table).nfc := sampleNfc_text

theorem tableHost_isoReads : IsoReads (tableHost table) := by
  intro t _
  have hreader : (tableHost table).fromisoformat = readIso := rfl
  rw [hreader]
  exact readIso_reads t

theorem signingInput_tableHost (context : PyStr) (payload : Json) :
    signingInput (tableHost table) context payload = signingInput mutedHost context payload :=
  signingInput_congr (show (tableHost table).nfc = mutedHost.nfc from rfl) context payload

/-- **ONE MESSAGE FOR EACH SIGNATURE**, when the table has it once. -/
theorem tableHost_signatureOver {s : Signature} {message : Bytes}
    (hinput : signingInput (tableHost table) s.context s.payload = .ok message)
    (honce : ∀ s' ∈ table, s'.raw = s.raw → s' = s) :
    SignatureOver (tableHost table) s.raw message := by
  intro key message' h
  obtain ⟨s', hs', hcovers⟩ := List.any_eq_true.mp h
  obtain ⟨-, hraw, hinput'⟩ := of_decide_eq_true hcovers
  obtain rfl := honce s' hs' hraw
  rw [signingInput_tableHost, hinput'] at hinput
  exact Except.ok.inj hinput

/-- A signature on the table verifies, over its payload and over every one that matches it. -/
theorem tableHost_verify {s : Signature} (hs : s ∈ table) {address : PyStr} {payload : Json}
    {message : Bytes} (hkey : signingKeyFromAddress address = .ok s.key)
    (hinput : signingInput (tableHost table) s.context s.payload = .ok message)
    (h : Matches SameText s.payload payload) :
    verifyByAddress (tableHost table) address s.context payload (.str (b64encode s.raw))
      = .ok () := by
  refine verifyByAddress_ok_iff.mpr ⟨s.key, s.raw, message, hkey, decodeSignature_b64encode s.raw,
    (signingInput_ok_iff_matches tableHost_nfcText hinput).mpr h, ?_⟩
  refine List.any_eq_true.mpr ⟨s, hs, decide_eq_true ⟨rfl, rfl, ?_⟩⟩
  rw [← @signingInput_tableHost table]
  exact hinput

end AgentSignedText
