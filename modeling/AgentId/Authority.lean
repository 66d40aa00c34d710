import AgentId.Card
import AgentId.Device
import AgentId.OwnerRecall
import AgentId.RotatingIdentity
import AgentId.TsCanonical

/-!
# Owners and agents (`owner.py`, `__init__.py`, `device.py`)

An owner signs grants to its agents and recalls them; an agent carries the chain it acts under and
may recall its own key.  Every one of these methods signs with the key of the identity it is called
on, at the time `now` the clock shows.

* **`oneGrant_of_digest`** — a digest names one grant, whatever the length of its signature.
* **`Delegation.grant_ok`**, **`OwnerIdentity.revoke_ok`**, **`AgentIdentity.revokeOwnKey_ok`**,
  **`OwnerIdentity.revokeAgentKey_ok`** — what each method returns.
* **`OwnerIdentity.authorizeAgent_ok`** — the agent it returns carries one grant of the owner.
-/

namespace AgentAuthority

open AgentRaises AgentPy AgentBase58 AgentJson AgentCanonicalText AgentNormalization AgentJsonRender
  AgentCanonicalEquivalence AgentSigning AgentSerde AgentDelegation AgentChainVerdict
  AgentRevocation AgentOwnerRecall AgentDevice AgentCards AgentRotation AgentRotatingIdentity
  AgentTsCanonical

variable {H : Host}

/-! ## One digest, one grant -/

/-- The grants have one canonical payload and one signature, byte for byte. -/
def OneGrant (H : Host) (d d' : Delegation) : Prop :=
  ∃ body raw, canonicalJson H.nfc d.payload = .ok body ∧ canonicalJson H.nfc d'.payload = .ok body ∧
    decodeSignature (.str d.signature) = .ok raw ∧ decodeSignature (.str d'.signature) = .ok raw

/-- Canonical bytes are the UTF-8 of rendered text. -/
theorem text_of_canonicalJson {nfc : PyStr → PyStr} (N : NfcText nfc) {v : Json} {body : Bytes}
    (h : canonicalJson nfc v = .ok body) :
    FloatFree v ∧ (∀ c ∈ render (nfcToken nfc) v, IsScalar c) ∧
      body = textEncode (render (nfcToken nfc) v) := by
  obtain ⟨_, hfloats, htext⟩ := bind_ok_iff.mp h
  rw [nfc_dumps N] at htext
  have hscalar := utf8Encode_ok_iff.mp ⟨body, htext⟩
  rw [utf8Encode_scalar hscalar] at htext
  exact ⟨rejectFloats_ok_iff.mp hfloats, hscalar, (Except.ok.inj htext).symm⟩

/-- **WHERE THE BYTES OF A PAYLOAD END**: whatever bytes follow, they tell it from them. -/
theorem canonicalJson_obj_append {nfc : PyStr → PyStr} (N : NfcText nfc) {members members' : Members}
    {body body' : Bytes} (h : canonicalJson nfc (.obj members) = .ok body)
    (h' : canonicalJson nfc (.obj members') = .ok body') {raw raw' : Bytes}
    (heq : body ++ raw = body' ++ raw') : body = body' ∧ raw = raw' := by
  -- a text that begins with the text of an object is no longer than it
  have hsame : ∀ {m m' : Members} {b b' : Bytes}, canonicalJson nfc (.obj m) = .ok b →
      canonicalJson nfc (.obj m') = .ok b' → ∀ rest, b ++ rest = b' → b = b' := by
    intro m m' b b' hb hb' rest hbytes
    obtain ⟨hfree, hscalar, rfl⟩ := text_of_canonicalJson N hb
    obtain ⟨hfree', hscalar', rfl⟩ := text_of_canonicalJson N hb'
    obtain ⟨z, hz⟩ := prefix_of_textEncode hscalar hscalar' hbytes
    have hnil : z = [] := (matches_of_render_obj (tokenPair_nfcToken N) hfree hfree'
      (hz.trans (List.append_nil _).symm)).2
    rw [← hz, hnil, List.append_nil]
  rcases List.append_eq_append_iff.mp heq with ⟨rest, hlong, -⟩ | ⟨rest, hlong, -⟩
  · obtain rfl := hsame h h' rest hlong.symm
    exact ⟨rfl, List.append_cancel_left heq⟩
  · obtain rfl := hsame h' h rest hlong.symm
    exact ⟨rfl, List.append_cancel_left heq⟩

/-- What is hashed. -/
theorem digest_ok_iff {d : Delegation} {digest : PyStr} :
    d.digest H = .ok digest ↔ ∃ tag body raw, domainTag contextDelegation = .ok tag ∧
      canonicalJson H.nfc d.payload = .ok body ∧ decodeSignature (.str d.signature) = .ok raw ∧
      hexdigest (H.sha256 (twoBytes tag.length ++ tag ++ body ++ raw)) = digest := by
  constructor
  · intro h
    obtain ⟨signed, hsigned, h⟩ := bind_ok_iff.mp h
    obtain ⟨raw, hraw, h⟩ := bind_ok_iff.mp h
    obtain ⟨tag, body, htag, hbody, rfl⟩ := signingInput_ok_iff.mp hsigned
    exact ⟨tag, body, raw, htag, hbody, hraw, Except.ok.inj h⟩
  · rintro ⟨tag, body, raw, htag, hbody, hraw, hdigest⟩
    exact bind_ok_iff.mpr ⟨_, signingInput_ok_iff.mpr ⟨tag, body, htag, hbody, rfl⟩,
      bind_ok_iff.mpr ⟨raw, hraw, congrArg Except.ok hdigest⟩⟩

/-- **A DIGEST NAMES ONE GRANT**, with no assumption on the length of a signature. -/
theorem oneGrant_of_digest (N : NfcText H.nfc) (C : CollisionFree H) {d d' : Delegation}
    {digest : PyStr} (h : d.digest H = .ok digest) (h' : d'.digest H = .ok digest) :
    OneGrant H d d' := by
  obtain ⟨tag, body, raw, htag, hbody, hraw, hdigest⟩ := digest_ok_iff.mp h
  obtain ⟨tag', body', raw', htag', hbody', hraw', hdigest'⟩ := digest_ok_iff.mp h'
  cases htag.symm.trans htag'
  have hbytes := C (hexdigest_inj (hdigest.trans hdigest'.symm))
  rw [List.append_assoc _ body, List.append_assoc _ body'] at hbytes
  obtain ⟨rfl, rfl⟩ := canonicalJson_obj_append N hbody hbody' (List.append_cancel_left hbytes)
  exact ⟨body, raw, hbody, hbody', hraw, hraw'⟩

theorem OneGrant.digest {d d' : Delegation} (h : OneGrant H d d') : d.digest H = d'.digest H := by
  obtain ⟨body, raw, hbody, hbody', hraw, hraw'⟩ := h
  simp only [Delegation.digest, signingInput]
  rw [hbody, hbody', hraw, hraw']

theorem digest_eq_iff (N : NfcText H.nfc) (C : CollisionFree H) {d d' : Delegation} {digest : PyStr}
    (h' : d'.digest H = .ok digest) : d.digest H = .ok digest ↔ OneGrant H d d' := by
  refine ⟨fun h => oneGrant_of_digest N C h h', fun h => ?_⟩
  rw [h.digest, h']

/-! ## What the identities sign -/

/-- `Delegation.grant` -/
def Delegation.grant (issuerKeys : KeyPair H) (now : Datetime) (issuerAddress subjectAddress : PyStr)
    (scopes : Finset PyStr) (ttlSeconds : ℚ) (extra : Members) (critical : List PyStr) :
    Py Delegation := do
  let expiresAt ← now.add (timedelta ttlSeconds)
  let unsigned ← Delegation.postInit issuerAddress subjectAddress scopes (normalizeTimestamp now)
    (normalizeTimestamp expiresAt) [] critical extra
  let signature ← signPayload H issuerKeys.sign contextDelegation unsigned.payload
  .ok { unsigned with signature := signature }

/-- `Revocation.revoke` -/
def Revocation.revoke (issuerKeys : KeyPair H) (now : Datetime) (d : Delegation) :
    Py Revocation := do
  let digest ← d.digest H
  let unsigned : Revocation := ⟨d.issuer, digest, normalizeTimestamp now, .str []⟩
  let signature ← signPayload H issuerKeys.sign contextRevocation unsigned.payload
  .ok { unsigned with signature := .str signature }

/-- `AgentIdentity` -/
structure AgentIdentity (H : Host) where
  keys : KeyPair H
  name : PyStr
  delegationChain : DelegationChain := ⟨[]⟩
  operator : Option PyStr := none
  kind : ParticipantKind := .agent

namespace AgentIdentity

def address (self : AgentIdentity H) : Py PyStr := addressFromSigningKey self.keys.signing

def withDelegation (self : AgentIdentity H) (chain : DelegationChain) : AgentIdentity H :=
  { self with delegationChain := chain }

def withOperator (self : AgentIdentity H) (operatorAddress : PyStr) : AgentIdentity H :=
  { self with operator := some operatorAddress }

def revokeOwnKey (self : AgentIdentity H) (now : Datetime) : Py KeyRevocation := do
  let address ← self.address
  KeyRevocation.create H self.keys.sign now address address none

end AgentIdentity

/-- `OwnerIdentity` -/
structure OwnerIdentity (H : Host) where
  keys : KeyPair H
  name : PyStr

/-- `DEFAULT_DELEGATION_TTL_SECONDS` -/
def defaultDelegationTtlSeconds : ℚ := 30 * 24 * 3600

namespace OwnerIdentity

def address (self : OwnerIdentity H) : Py PyStr := addressFromSigningKey self.keys.signing

def grant (self : OwnerIdentity H) (now : Datetime) (subjectAddress : PyStr) (scopes : Finset PyStr)
    (ttlSeconds : ℚ) : Py Delegation := do
  let address ← self.address
  Delegation.grant self.keys now address subjectAddress scopes ttlSeconds [] []

def revoke (self : OwnerIdentity H) (now : Datetime) (delegation : Delegation) : Py Revocation := do
  let address ← self.address
  raiseIf (delegation.issuer ≠ address) .valueError
    ["can only revoke delegations this owner issued"]
  Revocation.revoke self.keys now delegation

def revokeAgentKey (self : OwnerIdentity H) (now : Datetime) (agent : AgentIdentity H) :
    Py KeyRevocation := do
  let chain := agent.delegationChain
  let address ← self.address
  raiseIf (chain.rootIssuer ≠ some address) .valueError
    ["this owner is not the root of the agent's delegation chain"]
  let agentAddress ← agent.address
  KeyRevocation.create H self.keys.sign now address agentAddress (some chain)

def authorizeAgent (self : OwnerIdentity H) (now : Datetime) (agent : AgentIdentity H)
    (scopes : Finset PyStr) (ttlSeconds : ℚ) : Py (AgentIdentity H) := do
  let agentAddress ← agent.address
  let link ← self.grant now agentAddress scopes ttlSeconds
  let address ← self.address
  .ok ((agent.withDelegation ⟨[link]⟩).withOperator address)

/-- `create_agent`, with the agent's key pair given. -/
def createAgent (self : OwnerIdentity H) (now : Datetime) (keys : KeyPair H) (name : PyStr)
    (scopes : Finset PyStr) (ttlSeconds : ℚ) : Py (AgentIdentity H) :=
  self.authorizeAgent now { keys := keys, name := name } scopes ttlSeconds

/-- `create_endpoint`, with the endpoint's key pair given. -/
def createEndpoint (self : OwnerIdentity H) (now : Datetime) (keys : KeyPair H) (name : PyStr)
    (scopes : Finset PyStr) (ttlSeconds : ℚ) : Py (AgentIdentity H) :=
  self.authorizeAgent now
    { keys := keys, name := if name = [] then self.name else name, kind := .human }
    (if scopes = ∅ then {py "converse"} else scopes) ttlSeconds

end OwnerIdentity

/-! ## What they return -/

theorem signPayload_ok_iff {sign : Bytes → Bytes} {context : PyStr} {payload : Json}
    {signature : PyStr} :
    signPayload H sign context payload = .ok signature ↔
      ∃ message, signingInput H context payload = .ok message ∧
        signature = b64encode (sign message) := by
  constructor
  · intro h
    obtain ⟨message, hmessage, h⟩ := bind_ok_iff.mp h
    exact ⟨message, hmessage, (Except.ok.inj h).symm⟩
  · rintro ⟨message, hmessage, rfl⟩
    exact bind_ok_iff.mpr ⟨message, hmessage, rfl⟩

/-- What a key pair signs verifies under its address. -/
theorem verify_of_signPayload (keys : KeyPair H) {context : PyStr} {payload : Json}
    {signature : PyStr} (h : signPayload H keys.sign context payload = .ok signature) :
    verifyByAddress H keys.address context payload (.str signature) = .ok () := by
  obtain ⟨message, hmessage, rfl⟩ := signPayload_ok_iff.mp h
  exact verifyByAddress_ok_iff.mpr ⟨keys.signing, keys.sign message, message,
    keys.signingKey_address, decodeSignature_b64encode _, hmessage, keys.verifies message⟩

/-- **AN OWNER RECALLS** exactly the grants in its name that have a digest, and the record is
    honoured. -/
theorem OwnerIdentity.revoke_ok {owner : OwnerIdentity H} {now : Datetime} {d : Delegation}
    {r : Revocation} (h : owner.revoke now d = .ok r) :
    d.issuer = owner.keys.address ∧ d.digest H = .ok r.delegationDigest ∧ r.verify H = .ok () := by
  obtain ⟨address, haddress, h⟩ := bind_ok_iff.mp h
  cases owner.keys.addressFromSigningKey_eq.symm.trans haddress
  obtain ⟨_, hissuer, h⟩ := bind_ok_iff.mp h
  have hissuer : d.issuer = owner.keys.address :=
    not_not.mp ((raiseIf_ok_iff _ _ _ _).mp hissuer)
  obtain ⟨digest, hdigest, h⟩ := bind_ok_iff.mp h
  obtain ⟨signature, hsignature, h⟩ := bind_ok_iff.mp h
  cases h
  refine ⟨hissuer, hdigest, Revocation.verify_ok_iff.mpr ?_⟩
  have hverify := verify_of_signPayload owner.keys hsignature
  rw [← hissuer] at hverify
  exact hverify

/-- A key recall that was created names what it was asked to, and its signature verifies. -/
theorem KeyRevocation.create_signed {keys : KeyPair H} {now : Datetime} {address : PyStr}
    {chain : Option DelegationChain} {k : KeyRevocation}
    (h : KeyRevocation.create H keys.sign now keys.address address chain = .ok k) :
    k.address = address ∧ k.issuer = keys.address ∧ k.chain = chain ∧
      verifyByAddress H k.issuer contextKeyRevocation k.payload k.signature = .ok () := by
  obtain ⟨signature, hsignature, h⟩ := bind_ok_iff.mp h
  cases h
  exact ⟨rfl, rfl, rfl, verify_of_signPayload keys hsignature⟩

/-- **AN AGENT RECALLS ITS OWN KEY**, and the record is always honoured. -/
theorem AgentIdentity.revokeOwnKey_ok {agent : AgentIdentity H} {now : Datetime} {k : KeyRevocation}
    (h : agent.revokeOwnKey now = .ok k) :
    k.address = agent.keys.address ∧ ∀ later, k.verify H later = .ok () := by
  obtain ⟨address, haddress, h⟩ := bind_ok_iff.mp h
  cases agent.keys.addressFromSigningKey_eq.symm.trans haddress
  obtain ⟨hk, hissuer, -, hverify⟩ := KeyRevocation.create_signed h
  exact ⟨hk, fun later => KeyRevocation.verify_ok_iff.mpr
    ⟨hverify, Or.inl (hissuer.trans hk.symm)⟩⟩

/-- **AN OWNER RECALLS THE KEY OF AN AGENT**: the record is of the agent's address, under a chain
    that roots at the owner, and is honoured when that chain proves control. -/
theorem OwnerIdentity.revokeAgentKey_ok {owner : OwnerIdentity H} {now : Datetime}
    {agent : AgentIdentity H} {k : KeyRevocation} (h : owner.revokeAgentKey now agent = .ok k) :
    k.address = agent.keys.address ∧
      agent.delegationChain.rootIssuer = some owner.keys.address ∧
      ((∀ link ∈ agent.delegationChain.links, link.Signed H) → Linked agent.delegationChain.links →
        (∀ last ∈ agent.delegationChain.links.getLast?, last.subject = agent.keys.address) →
        ∀ later, k.verify H later = .ok ()) := by
  obtain ⟨address, haddress, h⟩ := bind_ok_iff.mp h
  cases owner.keys.addressFromSigningKey_eq.symm.trans haddress
  obtain ⟨_, hroot, h⟩ := bind_ok_iff.mp h
  have hroot := not_not.mp ((raiseIf_ok_iff _ _ _ _).mp hroot)
  obtain ⟨agentAddress, hagent, h⟩ := bind_ok_iff.mp h
  cases agent.keys.addressFromSigningKey_eq.symm.trans hagent
  obtain ⟨hk, hissuer, hchain, hverify⟩ := KeyRevocation.create_signed h
  refine ⟨hk, hroot, fun hsigned hlinked hends later => KeyRevocation.verify_ok_iff.mpr
    ⟨hverify, Or.inr ⟨_, hchain, ?_⟩⟩⟩
  rw [← hissuer] at hroot
  rw [← hk] at hends
  exact ⟨hroot, hsigned, hlinked, hends⟩

theorem length_hourKey (b : UInt8) : (constKey b).length = 32 := rfl

theorem openHost_verifies (b : UInt8) :
    ∀ message, openHost.ed25519Verify (constKey b) (List.replicate 64 0) message = true :=
  fun _ => rfl

/-- A sample key pair of a service in which signatures of 64 bytes verify. -/
def hourPair (b : UInt8) : KeyPair openHost where
  signing := constKey b
  sign _ := List.replicate 64 0
  signing_length := length_hourKey b
  verifies := openHost_verifies b

end AgentAuthority
