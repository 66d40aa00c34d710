import AgentId.SignedText
import AgentId.WireForm

/-!
# Owner recall (`delegation.py`, `owner.py`)

An owner recalls an agent's key by a record that carries the delegation chain as proof.  The chain
stands inside the signed payload, so the record can be signed only if the whole chain has canonical
bytes; it has, because every link was signed by itself.

* **`hasBytes_modelDump`** — the wire form of a link that verifies has canonical bytes.
* **`owner_recall_never_blocked`** — whatever chain ever verified, its root can recall the agent's
  key, and the record is admitted at any time, before and after it was carried.
-/

namespace AgentOwnerRecall

open AgentPy AgentBase58 AgentJson AgentCanonicalText AgentNormalization AgentJsonRender AgentSigning
  AgentSerde AgentIsoText AgentSignedText AgentDelegation AgentChainVerdict AgentRevocation
  AgentWireForm

variable {H : Host}

/-! ## The bytes of a chain -/

/-- What has canonical bytes can be signed in any of the package's contexts. -/
theorem exists_signingInput_iff {context : PyStr} (hc : IsContext context) {payload : Json} :
    (∃ message, signingInput H context payload = .ok message) ↔ HasBytes H.nfc payload := by
  obtain ⟨tag, htag⟩ := domainTag_of_isContext hc
  constructor
  · rintro ⟨message, h⟩
    obtain ⟨_, body, -, hbody, -⟩ := signingInput_ok_iff.mp h
    exact ⟨body, hbody⟩
  · rintro ⟨body, hbody⟩
    exact ⟨_, signingInput_ok_iff.mpr ⟨tag, body, htag, hbody, rfl⟩⟩

/-- A signature that decodes is plain text. -/
theorem isAscii_of_decodeSignature {signature : PyStr} {raw : Bytes}
    (h : decodeSignature (.str signature) = .ok raw) : IsAscii signature := by
  simp only [decodeSignature] at h
  cases hdecode : b64decode signature with
  | none =>
      rw [hdecode] at h
      cases h
  | some decoded =>
      simp only [hdecode] at h
      obtain ⟨_, hcanonical, -⟩ := bind_ok_iff.mp h
      have htext : b64encode decoded = signature := not_not.mp ((raiseIf_ok_iff _ _ _ _).mp hcanonical)
      exact htext ▸ isAscii_b64encode decoded

/-- A text value of ASCII has canonical bytes. -/
theorem hasBytes_ascii (N : NfcText H.nfc) {s : PyStr} (hs : IsAscii s) :
    HasBytes H.nfc (.str s) :=
  (AsciiJson.str hs).canonicalJson_ok N.toNfcLaws

/-- A link that verifies has canonical bytes, and its issuer and signature are plain text. -/
theorem bytes_of_signed {link : Delegation} (h : link.Signed H) :
    HasBytes H.nfc link.payload ∧ IsAscii link.issuer ∧ IsAscii link.signature := by
  obtain ⟨key, raw, message, hkey, hraw, hmessage, -⟩ := verifyByAddress_ok_iff.mp h
  have hcontext : IsContext contextDelegation := by decide
  exact ⟨(exists_signingInput_iff hcontext).mp ⟨message, hmessage⟩,
    isAscii_of_signingKey hkey, isAscii_of_decodeSignature hraw⟩

/-- So its wire form has canonical bytes. -/
theorem hasBytes_modelDump (N : NfcText H.nfc) {link : Delegation} (h : link.Signed H) :
    HasBytes H.nfc link.modelDump := by
  obtain ⟨hbytes, -, hsignature⟩ := bytes_of_signed h
  refine (hasBytes_obj_iff N).mpr fun m hm => ?_
  rcases List.mem_append.mp hm with hm | hm
  · exact (hasBytes_obj_iff N).mp hbytes m hm
  · rw [List.mem_singleton.mp hm]
    exact ⟨encodes_ascii N (show IsAscii (py "signature") by decide), hasBytes_ascii N hsignature⟩

/-- The subject stands in the payload, whatever else does. -/
theorem hasBytes_subject (N : NfcText H.nfc) {link : Delegation} (h : link.Signed H) :
    HasBytes H.nfc (.str link.subject) := by
  obtain ⟨hbytes, -, -⟩ := bytes_of_signed h
  exact ((hasBytes_obj_iff N).mp hbytes (py "subject", .str link.subject)
    (List.mem_cons_of_mem _ List.mem_cons_self)).2

theorem hasBytes_chain (N : NfcText H.nfc) {chain : DelegationChain}
    (h : ∀ link ∈ chain.links, link.Signed H) : HasBytes H.nfc chain.modelDump := by
  refine (hasBytes_obj_iff N).mpr fun m hm => ?_
  rw [List.mem_singleton.mp hm]
  refine ⟨encodes_ascii N (show IsAscii (py "links") by decide), hasBytes_arr N ?_⟩
  exact List.forall_mem_map.mpr fun link hlink => hasBytes_modelDump N (h link hlink)

/-- **THE PAYLOAD OF AN OWNER RECALL** has canonical bytes when its parts have. -/
theorem hasBytes_recall (N : NfcText H.nfc) {k : KeyRevocation}
    (haddress : HasBytes H.nfc (.str k.address)) (hissuer : HasBytes H.nfc (.str k.issuer))
    (hchain : HasBytes H.nfc (dumpChain k.chain)) : HasBytes H.nfc k.payload := by
  have hname : ∀ name ∈ [py "address", py "chain", py "issuer", py "revoked_at"],
      Encodes H.nfc name := by
    intro name hmem
    have hall : ∀ name ∈ [py "address", py "chain", py "issuer", py "revoked_at"], IsAscii name := by
      decide
    exact encodes_ascii N (hall name hmem)
  have htime : HasBytes H.nfc (.str (canonicalTimestamp k.revokedAt)) :=
    (asciiJson_timestamp _).canonicalJson_ok N.toNfcLaws
  refine (hasBytes_obj_iff N).mpr fun m hm => ⟨hname m.1 ?_, ?_⟩
  · exact List.mem_map_of_mem (f := Prod.fst) hm
  · simp only [List.mem_cons, List.not_mem_nil, or_false] at hm
    rcases hm with rfl | rfl | rfl | rfl
    · exact haddress
    · exact hchain
    · exact hissuer
    · exact htime

/-! ## The recall -/

/-- A record is created when its payload has canonical bytes, and its signature verifies. -/
theorem create_ok (N : NfcText H.nfc) {sign : Bytes → Bytes} (clock : Datetime)
    {issuer address : PyStr} {chain : Option DelegationChain} {key : Bytes}
    (hkey : signingKeyFromAddress issuer = .ok key)
    (hsign : ∀ message, H.ed25519Verify key (sign message) message = true)
    (haddress : HasBytes H.nfc (.str address)) (hchain : HasBytes H.nfc (dumpChain chain)) :
    ∃ k, KeyRevocation.create H sign clock issuer address chain = .ok k ∧
      k.address = address ∧ k.issuer = issuer ∧ k.chain = chain ∧
      k.revokedAt = normalizeTimestamp clock ∧
      verifyByAddress H k.issuer contextKeyRevocation k.payload k.signature = .ok () := by
  have hbytes := hasBytes_recall N (k := ⟨address, issuer, normalizeTimestamp clock, chain, .str []⟩)
    haddress (hasBytes_ascii N (isAscii_of_signingKey hkey)) hchain
  obtain ⟨message, hmessage⟩ :=
    (exists_signingInput_iff (show IsContext contextKeyRevocation by decide)).mpr hbytes
  refine ⟨⟨address, issuer, normalizeTimestamp clock, chain, .str (b64encode (sign message))⟩, ?_,
    rfl, rfl, rfl, rfl, ?_⟩
  · refine bind_ok_iff.mpr ⟨b64encode (sign message), ?_, rfl⟩
    exact bind_ok_iff.mpr ⟨message, hmessage, rfl⟩
  · -- the signature stands outside the payload, so the payload is the one that was signed
    exact verifyByAddress_ok_iff.mpr ⟨key, sign message, message, hkey, decodeSignature_b64encode _,
      hmessage, hsign message⟩

/-- A record that verifies is admitted, and its address is revoked. -/
theorem revokeKey_of_verify {k : KeyRevocation} {now : Datetime} (h : k.verify H now = .ok ())
    (reg : RevocationRegistry) :
    (reg.revokeKey H now k).1 = .ok () ∧
      (reg.revokeKey H now k).2.isKeyRevoked k.address = true := by
  simp only [RevocationRegistry.revokeKey, h]
  exact ⟨trivial, decide_eq_true (Finset.mem_insert_self _ _)⟩

/-- **OWNER RECALL IS NEVER BLOCKED.**  Let a chain verify for an agent, at any time and with any
    extensions understood.  The recall that the key of its root issuer signs with the chain as
    proof is created; it verifies at every time, it is read back from the wire as a record that
    does, and both are admitted by every registry and revoke the agent. -/
theorem owner_recall_never_blocked (H : Host) (N : NfcText H.nfc) (R : IsoReads H)
    (chain : DelegationChain) (hyears : ChainYears chain) (agent : PyStr) (time : Datetime)
    (revoked revokedKeys : Finset PyStr) (opts : VerifyOptions) (scopes : Finset PyStr)
    (hverify : chain.verify H agent time revoked revokedKeys opts = .ok scopes)
    (root : PyStr) (hroot : chain.rootIssuer = some root) (key : Bytes)
    (hkey : addressFromSigningKey key = .ok root) (sign : Bytes → Bytes)
    (hsign : ∀ message, H.ed25519Verify key (sign message) message = true) (clock : Datetime)
    (hclock : FourDigitYear (normalizeTimestamp clock)) :
    ∃ k carried, KeyRevocation.create H sign clock root agent (some chain) = .ok k ∧
      KeyRevocation.modelValidate H k.modelDump = .ok carried ∧
      ∀ now, k.verify H now = .ok () ∧ carried.verify H now = .ok () ∧
        ∀ reg : RevocationRegistry, (reg.revokeKey H now k).1 = .ok () ∧
          (reg.revokeKey H now k).2.isKeyRevoked agent = true ∧
          (reg.revokeKey H now carried).1 = .ok () ∧
          (reg.revokeKey H now carried).2.isKeyRevoked agent = true := by
  have hne : chain.links ≠ [] := by
    intro hnil
    rw [DelegationChain.rootIssuer, hnil] at hroot
    cases hroot
  obtain ⟨hpasses, hlinked, hterminates, -⟩ := (DelegationChain.verify_ok_iff hne).mp hverify
  have hsigned : ∀ link ∈ chain.links, link.Signed H := fun link hlink =>
    (Delegation.verify_ok_iff.mp (hpasses link hlink).verifies).2.1
  -- the agent is the last subject, so it stands in a payload that was signed
  have hagent : HasBytes H.nfc (.str agent) := by
    have hlast := List.getLast?_eq_some_getLast hne
    rw [← hterminates _ hlast]
    exact hasBytes_subject N (hsigned _ (List.getLast_mem hne))
  obtain ⟨k, hcreate, haddress, hissuer, hchain, hrevokedAt, hsignature⟩ :=
    create_ok N clock (addressFromSigningKey_ok_iff.mp hkey) hsign hagent
      (show HasBytes H.nfc (dumpChain (some chain)) from hasBytes_chain N hsigned)
  have hentitled : ∀ now, k.verify H now = .ok () := fun now => by
    refine KeyRevocation.verify_ok_iff.mpr ⟨hsignature, Or.inr ⟨chain, hchain, ?_⟩⟩
    exact ⟨hissuer ▸ hroot, hsigned, hlinked, haddress ▸ hterminates⟩
  have hrecall : RecallYears k := by
    refine ⟨hrevokedAt ▸ hclock, fun c hc => ?_⟩
    rw [hchain] at hc
    cases hc
    exact hyears
  refine ⟨k, rewireRecall k, hcreate, KeyRevocation.modelValidate_modelDump R hrecall, fun now => ?_⟩
  have hcarried : (rewireRecall k).verify H now = .ok () := rewireRecall_verify.mpr (hentitled now)
  refine ⟨hentitled now, hcarried, fun reg => ?_⟩
  obtain ⟨hadmitted, hrevoked⟩ := revokeKey_of_verify (hentitled now) reg
  obtain ⟨hadmitted', hrevoked'⟩ := revokeKey_of_verify hcarried reg
  exact ⟨hadmitted, haddress ▸ hrevoked, hadmitted', haddress ▸ hrevoked'⟩

/-! ## A grant of an hour -/

/-- A service in which signatures of 64 bytes verify. -/
def openHost : Host := { mutedHost with ed25519Verify := fun _ raw _ => raw.length == 64 }

theorem openHost_isoReads : IsoReads openHost := by
  intro t _
  rw [show openHost.fromisoformat = readIso from rfl]
  exact readIso_reads t

def anHourLater : Timestamp := ⟨63902912401007, by decide⟩

/-- The grant of key 2 to key 1, for an hour of 2026. -/
def hourGrant : Delegation :=
  { plainGrant 2 1 with issuedAt := moment2026, expiresAt := anHourLater }

def midHour : Datetime := ⟨63902908802000000, by decide, by decide⟩

theorem windowChecked_midHour (understood : List PyStr) :
    WindowChecked midHour { understoodExtensions := understood } := by
  intro _
  rw [timedelta_zero]
  exact ⟨le_rfl, ⟨midHour, by decide⟩, midHour, by decide⟩

theorem hourGrant_inWindow : hourGrant.InWindow midHour (timedelta 0) := by
  rw [timedelta_zero]
  exact (by decide : (63902908802000000 : Int) - 0 < 63902912401007 * 1000 ∧
    (63902908801007 : Int) * 1000 ≤ 63902908802000000 + 0)

theorem hourGrant_verify : hourGrant.verify openHost midHour {} = .ok () := by
  obtain ⟨message, hmessage⟩ : ∃ message,
      signingInput openHost contextDelegation hourGrant.payload = .ok message :=
    signingInput_ascii sampleNfc_text.toNfcLaws (by decide)
      (asciiJson_grantMembers 2 1 isAscii_plainScopes .obj_nil)
  refine Delegation.verify_ok_iff.mpr ⟨(Delegation.checkWindow_ok_iff (windowChecked_midHour [])).mpr
    fun _ => hourGrant_inWindow, ?_, fun name hname => absurd hname List.not_mem_nil⟩
  exact verifyByAddress_ok_iff.mpr ⟨_, _, message, signingKey_constAddress 2,
    decodeSignature_b64encode _, hmessage, rfl⟩

theorem hourChain_verify : (DelegationChain.mk [hourGrant]).verify openHost (constAddress 1) midHour
    ∅ ∅ {} = .ok {py "read"} := by
  refine (DelegationChain.verify_ok_iff (List.cons_ne_nil _ _)).mpr
    ⟨fun link hlink => ?_, List.isChain_singleton _, fun last hlast => ?_, fun s => ?_⟩
  · rw [List.mem_singleton.mp hlink]
    exact ⟨hourGrant_verify, fun _ _ => Finset.notMem_empty _, Finset.notMem_empty _,
      Finset.notMem_empty _⟩
  · cases hlast
    rfl
  · exact ⟨fun hs link hlink => List.mem_singleton.mp hlink ▸ hs, fun h => h _ List.mem_cons_self⟩

/-- Key 2 recalls key 1 within the hour; the record is honoured at any other time too. -/
theorem owner_recall_never_blocked_hour :
    ∃ k carried, KeyRevocation.create openHost (fun _ => List.replicate 64 0) midHour
        (constAddress 2) (constAddress 1) (some ⟨[hourGrant]⟩) = .ok k ∧
      KeyRevocation.modelValidate openHost k.modelDump = .ok carried ∧
      ∀ now, k.verify openHost now = .ok () ∧ carried.verify openHost now = .ok () ∧
        ∀ reg : RevocationRegistry, (reg.revokeKey openHost now k).1 = .ok () ∧
          (reg.revokeKey openHost now k).2.isKeyRevoked (constAddress 1) = true ∧
          (reg.revokeKey openHost now carried).1 = .ok () ∧
          (reg.revokeKey openHost now carried).2.isKeyRevoked (constAddress 1) = true :=
  owner_recall_never_blocked openHost sampleNfc_text openHost_isoReads ⟨[hourGrant]⟩
    (fun link hlink => List.mem_singleton.mp hlink ▸
      ⟨show yearThousand ≤ moment2026.ms by decide, show yearThousand ≤ anHourLater.ms by decide⟩)
    (constAddress 1) midHour ∅ ∅ {} {py "read"} hourChain_verify (constAddress 2) rfl (constKey 2)
    (addressFromSigningKey_ok_iff.mpr (signingKey_constAddress 2)) (fun _ => List.replicate 64 0)
    (fun _ => rfl) midHour (show yearThousand ≤ (normalizeTimestamp midHour).ms by decide)

end AgentOwnerRecall
