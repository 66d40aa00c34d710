import AgentId.CardVerdict
import AgentId.TsChainWire
import AgentId.TsChallengeStore
import AgentId.TsHistory

/-!
# Owners and agents in TypeScript (`identity.ts`, `device.ts`, `delegation.ts`)

What `identity.ts` signs, at the time `now` the clock shows, and how its recalls go over the wire.

* **`identities_act_alike`** — an owner gives an agent the same authority with either package, and
  takes it back with the same record.
* **`record_tsRead`**, **`record_read`**, **`record_written_alike`** — both packages write a recall
  alike, and read it.
-/

namespace AgentTsAuthority

open AgentDouble AgentLockstep AgentPy AgentBase58 AgentJson AgentCanonicalText AgentNormalization
  AgentJsonRender AgentSigning AgentSerde AgentSignedText AgentIsoText AgentDelegation
  AgentChainVerdict AgentRevocation AgentDevice AgentWireForm AgentUtf16 AgentRotatingIdentity
  AgentAuthority AgentTsCanonical AgentTsSigning AgentTsDelegation AgentTsDate AgentTsDigest
  AgentCards AgentTsCards AgentTsWire AgentTsAlike AgentTsVerdict AgentTsRecall AgentTsProof
  AgentTsChallengeStore AgentTsHistory AgentTsChainWire AgentOwnerRecall

variable {H : Host}

/-! ## Records signed in TypeScript -/

/-- `Delegation.grant` of `delegation.ts` -/
def JsDelegation.grant (issuerKeys : KeyPair H) (now : JsDate) (issuerAddress subjectAddress : PyStr)
    (scopes : List PyStr) (ttlSeconds : ℚ) (critical : Option (List PyStr))
    (extra : List (PyStr × JsonValue)) : Js JsDelegation := do
  let expiresAt ← parseDateField (py "expires_at") (.date (newDate (afterTtl now.time ttlSeconds)))
  let unsigned ← JsDelegation.construct issuerAddress subjectAddress scopes now expiresAt critical []
    extra
  let signature ← tsSignPayload H.nfc issuerKeys.sign contextDelegation (.object unsigned.payload)
  .ok { unsigned with signature := signature }

/-- `Revocation.revoke` of `delegation.ts` -/
def JsRevocation.revoke (issuerKeys : KeyPair H) (now : JsDate) (t : JsDelegation) :
    Js JsRevocation := do
  let digest ← t.digest H
  let unsigned : JsRevocation := ⟨t.issuer, digest, now, []⟩
  let signature ← tsSignPayload H.nfc issuerKeys.sign contextRevocation
    (JsRevocation.payload unsigned)
  .ok { unsigned with signature := signature }

/-- `KeyRevocation.create` of `delegation.ts` -/
def TsKeyRevocation.create (issuerKeys : KeyPair H) (now : JsDate) (issuer address : PyStr)
    (chain : Option TsDelegationChain) : Js TsKeyRevocation := do
  let unsigned : TsKeyRevocation := ⟨address, issuer, now, chain, []⟩
  let signature ← tsSignPayload H.nfc issuerKeys.sign contextKeyRevocation unsigned.payload
  .ok { unsigned with signature := signature }

/-- `AgentIdentity` of `identity.ts` -/
structure TsAgentIdentity (H : Host) where
  keys : KeyPair H
  name : PyStr
  delegationChain : TsDelegationChain := ⟨[]⟩
  operator : Option PyStr := none
  kind : ParticipantKind := .agent

namespace TsAgentIdentity

def address (self : TsAgentIdentity H) : Js PyStr := tsAddressFromSigningKey self.keys.signing

def withDelegation (self : TsAgentIdentity H) (chain : TsDelegationChain) : TsAgentIdentity H :=
  { self with delegationChain := chain }

def withOperator (self : TsAgentIdentity H) (operatorAddress : PyStr) : TsAgentIdentity H :=
  { self with operator := some operatorAddress }

def revokeOwnKey (self : TsAgentIdentity H) (now : JsDate) : Js TsKeyRevocation := do
  let address ← self.address
  TsKeyRevocation.create self.keys now address address none

end TsAgentIdentity

/-- `OwnerIdentity` of `identity.ts` -/
structure TsOwnerIdentity (H : Host) where
  keys : KeyPair H
  name : PyStr

namespace TsOwnerIdentity

def address (self : TsOwnerIdentity H) : Js PyStr := tsAddressFromSigningKey self.keys.signing

def grant (self : TsOwnerIdentity H) (now : JsDate) (subjectAddress : PyStr) (scopes : List PyStr)
    (ttlSeconds : ℚ) : Js JsDelegation := do
  let address ← self.address
  JsDelegation.grant self.keys now address subjectAddress scopes ttlSeconds none []

def revoke (self : TsOwnerIdentity H) (now : JsDate) (delegation : JsDelegation) :
    Js JsRevocation := do
  let address ← self.address
  throwIf (delegation.issuer ≠ address) .error ["can only revoke delegations this owner issued"]
  JsRevocation.revoke self.keys now delegation

def revokeAgentKey (self : TsOwnerIdentity H) (now : JsDate) (agent : TsAgentIdentity H) :
    Js TsKeyRevocation := do
  let chain := agent.delegationChain
  let address ← self.address
  throwIf (chain.rootIssuer ≠ some address) .error
    ["this owner is not the root of the agent's delegation chain"]
  let agentAddress ← agent.address
  TsKeyRevocation.create self.keys now address agentAddress (some chain)

def authorizeAgent (self : TsOwnerIdentity H) (now : JsDate) (agent : TsAgentIdentity H)
    (scopes : List PyStr) (ttlSeconds : ℚ) : Js (TsAgentIdentity H) := do
  let agentAddress ← agent.address
  let link ← self.grant now agentAddress scopes ttlSeconds
  let address ← self.address
  .ok ((agent.withDelegation ⟨[link]⟩).withOperator address)

/-- `createAgent`, with the agent's key pair given. -/
def createAgent (self : TsOwnerIdentity H) (now : JsDate) (keys : KeyPair H) (name : PyStr)
    (scopes : List PyStr) (ttlSeconds : ℚ) : Js (TsAgentIdentity H) :=
  self.authorizeAgent now { keys := keys, name := name } scopes ttlSeconds

/-- `createEndpoint`, with the endpoint's key pair given; what is left out is the owner's name and the
    scope `converse`. -/
def createEndpoint (self : TsOwnerIdentity H) (now : JsDate) (keys : KeyPair H)
    (name : Option PyStr) (scopes : Option (List PyStr)) (ttlSeconds : ℚ) :
    Js (TsAgentIdentity H) :=
  self.authorizeAgent now { keys := keys, name := name.getD self.name, kind := .human }
    (scopes.getD [py "converse"]) ttlSeconds

end TsOwnerIdentity

/-! ## Recalls on the wire -/

def JsRevocation.toJSON (r : JsRevocation) : List (PyStr × JsonValue) :=
  [(py "issuer", .string r.issuer), (py "delegation_digest", .string r.delegationDigest),
    (py "revoked_at", .string r.revokedAt.toISOString), (py "signature", .string r.signature)]

def JsRevocation.fromJSON (data : JsonValue) : Js JsRevocation := do
  let record ← propertiesOf (some data)
  let issuer ← requireString (py "issuer") (record.lookup (py "issuer"))
  let delegationDigest ← requireString (py "delegation_digest")
    (record.lookup (py "delegation_digest"))
  let revokedAt ← parseDateField (py "revoked_at") (.value (record.lookup (py "revoked_at")))
  let signature ← declaredString (py "signature")
    (coalesce (record.lookup (py "signature")) (.string []))
  .ok ⟨issuer, delegationDigest, revokedAt, signature⟩

def TsKeyRevocation.toJSON (k : TsKeyRevocation) : List (PyStr × JsonValue) :=
  [(py "address", .string k.address), (py "issuer", .string k.issuer),
    (py "chain", tsDumpChain k.chain), (py "revoked_at", .string k.revokedAt.toISOString),
    (py "signature", .string k.signature)]

/-- `chain === null || chain === undefined ? null : DelegationChain.fromJSON(chain)` -/
def tsReadChain : Option JsonValue → Js (Option TsDelegationChain)
  | none => .ok none
  | some .null => .ok none
  | some v => do
      let chain ← TsDelegationChain.fromJSON v
      .ok (some chain)

def TsKeyRevocation.fromJSON (data : JsonValue) : Js TsKeyRevocation := do
  let record ← propertiesOf (some data)
  let chain ← tsReadChain (record.lookup (py "chain"))
  let address ← requireString (py "address") (record.lookup (py "address"))
  let issuer ← requireString (py "issuer") (record.lookup (py "issuer"))
  let revokedAt ← parseDateField (py "revoked_at") (.value (record.lookup (py "revoked_at")))
  let signature ← declaredString (py "signature")
    (coalesce (record.lookup (py "signature")) (.string []))
  .ok ⟨address, issuer, revokedAt, chain, signature⟩

/-- A record on the wire, of its kind. -/
inductive Wire where
  | revocation (data : Members)
  | keyRevocation (data : Members)

namespace Wire

/-- What Python writes. -/
def ofRecord : Record → Wire
  | .revocation r => .revocation r.modelDump
  | .keyRevocation k => .keyRevocation k.modelDump

/-- What TypeScript writes. -/
def ofTsRecord : TsRecord → Wire
  | .revocation r => .revocation (asJsonMembers (JsRevocation.toJSON r))
  | .keyRevocation k => .keyRevocation (asJsonMembers (TsKeyRevocation.toJSON k))

def read (H : Host) : Wire → Py Record
  | .revocation data => do
      let r ← Revocation.modelValidate H data
      .ok (.revocation r)
  | .keyRevocation data => do
      let k ← KeyRevocation.modelValidate H data
      .ok (.keyRevocation k)

def tsRead : Wire → Js TsRecord
  | .revocation data => do
      let r ← JsRevocation.fromJSON (ofJson (.obj data))
      .ok (.revocation r)
  | .keyRevocation data => do
      let k ← TsKeyRevocation.fromJSON (ofJson (.obj data))
      .ok (.keyRevocation k)

end Wire

/-! ## One grant, whichever package makes it -/

/-- A signature stands outside what is signed. -/
theorem Twin.sign {nfc : PyStr → PyStr} {d : Delegation} {t : JsDelegation} (T : Twin nfc d t)
    (signature : PyStr) :
    Twin nfc { d with signature := signature } { t with signature := signature } :=
  ⟨T.issuer, T.subject, T.scopes, T.issuedAt, T.expiresAt, T.critical, rfl, T.payload⟩

variable {time expiresAt : Timestamp} {ttl : ℤ}

variable {d : Delegation} {t : JsDelegation}

theorem agree_address (keys : KeyPair H) :
    Agree SameClass (fun a a' => a = keys.address ∧ a' = keys.address)
      (addressFromSigningKey keys.signing) (ofJs (tsAddressFromSigningKey keys.signing)) := by
  rw [keys.addressFromSigningKey_eq, tsAddressFromSigningKey_eq]
  exact .ok ⟨rfl, rfl⟩

/-- A condition both packages refuse with their plainest error. -/
theorem agree_refusal {bad bad' : Prop} [Decidable bad] [Decidable bad'] (h : bad ↔ bad')
    {message message' : List Part} :
    Agree SameClass Eq (raiseIf bad .valueError message) (ofJs (throwIf bad' .error message')) := by
  by_cases hbad : bad
  · rw [raiseIf, throwIf, if_pos hbad, if_pos (h.mp hbad)]
    exact .error rfl
  · rw [raiseIf, throwIf, if_neg hbad, if_neg (mt h.mpr hbad)]
    exact .ok rfl

theorem agree_anyDigest (N : NfcText H.nfc) (T : Twin H.nfc d t) :
    Agree SameClass Eq (d.digest H) (ofJs (t.digest H)) := by
  obtain ⟨message, hpy, hts⟩ := T.payload.same_message N (by decide : IsContext contextDelegation)
  rw [Delegation.digest, JsDelegation.digest, hpy, hts, T.signature]
  show Agree SameClass Eq (decodeSignature (.str d.signature) >>= _)
    (ofJs (tsDecodeSignature (.string d.signature) >>= _))
  rw [ofJs_bind]
  refine Agree.bind (agree_decodeSignature d.signature) fun raw raw' _ _ hraw => ?_
  subst hraw
  exact .ok rfl

/-- **ONE REVOCATION** of a grant, made at one time. -/
theorem revocation_made_alike (N : NfcText H.nfc) (keys : KeyPair H) (T : Twin H.nfc d t)
    (hissuer : SpelledAlike H.nfc d.issuer) (now : Datetime) :
    Agree SameClass (TwinRevocation H.nfc) (Revocation.revoke keys now d)
      (ofJs (JsRevocation.revoke keys (toDate (normalizeTimestamp now)) t)) := by
  rw [Revocation.revoke, JsRevocation.revoke, ofJs_bind]
  refine Agree.bind (agree_anyDigest N T) fun digest digest' hdigest _ hsame => ?_
  subst hsame
  obtain ⟨_, _, _, -, -, -, hhex⟩ := AgentAuthority.digest_ok_iff.mp hdigest
  have htwin : ∀ signature, TwinRevocation H.nfc
      ⟨d.issuer, digest, normalizeTimestamp now, .str signature⟩
      ⟨t.issuer, digest, toDate (normalizeTimestamp now), signature⟩ := fun signature =>
    ⟨T.issuer, rfl, rfl, rfl, spelledAlike_of_plain (hhex ▸ (isHex_hexdigest _).isPlain)⟩
  obtain ⟨signature, hpy, hts⟩ := exists_signature N keys (show IsContext contextRevocation by decide)
    (alike_revocation (htwin []) hissuer)
  show Agree SameClass _ (signPayload H keys.sign contextRevocation _ >>= _)
    (ofJs (tsSignPayload H.nfc keys.sign contextRevocation _ >>= _))
  rw [hpy, hts]
  exact .ok (htwin signature)

/-- **ONE KEY REVOCATION**, made at one time. -/
theorem keyRevocation_made_alike (N : NfcText H.nfc) (keys : KeyPair H) {address : PyStr}
    (haddress : SpelledAlike H.nfc address) {chain : Option DelegationChain}
    {chain' : Option TsDelegationChain} (hchain : Option.Rel (TwinChain H.nfc) chain chain')
    (now : Datetime) :
    Agree SameClass (TwinKeyRevocation H.nfc)
      (KeyRevocation.create H keys.sign now keys.address address chain)
      (ofJs (TsKeyRevocation.create keys (toDate (normalizeTimestamp now)) keys.address address
        chain')) := by
  have htwin : ∀ signature, TwinKeyRevocation H.nfc
      ⟨address, keys.address, normalizeTimestamp now, chain, .str signature⟩
      ⟨address, keys.address, toDate (normalizeTimestamp now), chain', signature⟩ := fun signature =>
    ⟨rfl, rfl, rfl, hchain, rfl, haddress⟩
  obtain ⟨signature, hpy, hts⟩ := exists_signature N keys
    (show IsContext contextKeyRevocation by decide)
    (alike_keyRevocation (htwin []) (spelledAlike_address keys))
  show Agree SameClass _ (signPayload H keys.sign contextKeyRevocation _ >>= _)
    (ofJs (tsSignPayload H.nfc keys.sign contextKeyRevocation _ >>= _))
  rw [hpy, hts]
  exact .ok (htwin signature)

/-! ## Identities of both packages -/

/-- One identity, held by either package. -/
structure TwinAgent (agent : AgentIdentity H) (agent' : TsAgentIdentity H) : Prop where
  keys : agent'.keys = agent.keys
  name : agent'.name = agent.name
  chain : TwinChain H.nfc agent.delegationChain agent'.delegationChain
  operator : agent'.operator = agent.operator
  kind : agent'.kind = agent.kind

/-- One owner, held by either package. -/
def OwnerIdentity.ts (owner : OwnerIdentity H) : TsOwnerIdentity H := ⟨owner.keys, owner.name⟩

section Acts

variable {owner : OwnerIdentity H} {agent : AgentIdentity H} {agent' : TsAgentIdentity H}

theorem agree_revoke (N : NfcText H.nfc) (T : Twin H.nfc d t) (now : Datetime) :
    Agree SameClass (TwinRevocation H.nfc) (owner.revoke now d)
      (ofJs (TsOwnerIdentity.revoke (OwnerIdentity.ts owner) (toDate (normalizeTimestamp now)) t)) := by
  rw [OwnerIdentity.revoke, TsOwnerIdentity.revoke, ofJs_bind]
  refine Agree.bind (agree_address owner.keys) fun a a' _ _ ha => ?_
  obtain ⟨rfl, rfl⟩ := ha
  rw [ofJs_bind]
  refine Agree.bind (agree_refusal (by rw [T.issuer])) fun _ _ hok _ _ => ?_
  have hissuer : d.issuer = owner.keys.address := not_not.mp ((raiseIf_ok_iff _ _ _ _).mp hok)
  exact revocation_made_alike N owner.keys T (hissuer ▸ spelledAlike_address owner.keys) now

theorem agree_revokeAgentKey (N : NfcText H.nfc) (A : TwinAgent agent agent') (now : Datetime) :
    Agree SameClass (TwinKeyRevocation H.nfc) (owner.revokeAgentKey now agent)
      (ofJs (TsOwnerIdentity.revokeAgentKey (OwnerIdentity.ts owner)
        (toDate (normalizeTimestamp now)) agent')) := by
  rw [OwnerIdentity.revokeAgentKey, TsOwnerIdentity.revokeAgentKey, TsAgentIdentity.address, A.keys]
  simp only [ofJs_bind]
  refine Agree.bind (agree_address owner.keys) fun a a' _ _ ha => ?_
  obtain ⟨rfl, rfl⟩ := ha
  refine Agree.bind (agree_refusal ?_) fun _ _ _ _ _ => ?_
  · rw [rootIssuer_alike A.chain.links]
  · refine Agree.bind (agree_address agent.keys) fun a a' _ _ ha => ?_
    obtain ⟨rfl, rfl⟩ := ha
    exact keyRevocation_made_alike N owner.keys (spelledAlike_address agent.keys) (.some A.chain) now

theorem agree_revokeOwnKey (N : NfcText H.nfc) (A : TwinAgent agent agent') (now : Datetime) :
    Agree SameClass (TwinKeyRevocation H.nfc) (agent.revokeOwnKey now)
      (ofJs (TsAgentIdentity.revokeOwnKey agent' (toDate (normalizeTimestamp now)))) := by
  rw [AgentIdentity.revokeOwnKey, TsAgentIdentity.revokeOwnKey, TsAgentIdentity.address, A.keys,
    ofJs_bind]
  refine Agree.bind (agree_address agent.keys) fun a a' _ _ ha => ?_
  obtain ⟨rfl, rfl⟩ := ha
  exact keyRevocation_made_alike N agent.keys (spelledAlike_address agent.keys) .none now

end Acts

/-- What is asked of a recall to travel. -/
inductive RecordTravels (nfc : PyStr → PyStr) : Record → Prop where
  | revocation {r : Revocation} {signature : PyStr} : FourDigitYear r.revokedAt →
      r.signature = .str signature → SpelledAlike nfc r.delegationDigest →
      RecordTravels nfc (.revocation r)
  | keyRevocation {k : KeyRevocation} {signature : PyStr} : FourDigitYear k.revokedAt →
      k.signature = .str signature → SpelledAlike nfc k.address →
      (∀ chain ∈ k.chain, ∀ link ∈ chain.links, GrantTravels nfc link) →
      RecordTravels nfc (.keyRevocation k)

theorem chain_option_read {chain : Option DelegationChain}
    (h : ∀ c ∈ chain, ∀ link ∈ c.links, GrantTravels H.nfc link) :
    ∃ chain', tsReadChain (some (ofJson (dumpChain chain))) = .ok chain' ∧
      Option.Rel (TwinChain H.nfc) chain chain' := by
  cases chain with
  | none => exact ⟨none, rfl, .none⟩
  | some c =>
      obtain ⟨links⟩ := c
      have hlinks := h _ rfl
      obtain ⟨links', hread, htwins⟩ := chain_read hlinks
      refine ⟨some ⟨links'⟩, bind_ok_iff.mpr ⟨_, hread, rfl⟩, .some ⟨htwins, ?_⟩⟩
      exact fun link hlink => (hlinks link hlink).signature

/-- **A RECALL READ** in TypeScript is the one Python wrote. -/
theorem record_tsRead {record : Record} (T : RecordTravels H.nfc record) :
    ∃ record', (Wire.ofRecord record).tsRead = .ok record' ∧ TwinRecord H.nfc record record' := by
  cases T with
  | @revocation r signature hyear hsignature hspelled =>
      have hdate := parseDateField_canonical (yearHundred_le hyear) (py "revoked_at")
      refine ⟨.revocation ⟨r.issuer, r.delegationDigest, toDate r.revokedAt, signature⟩, ?_,
        .revocation ⟨rfl, rfl, rfl, hsignature, hspelled⟩⟩
      refine bind_ok_iff.mpr ⟨_, bind_ok_iff.mpr ⟨_, rfl, bind_ok_iff.mpr ⟨r.issuer, rfl, ?_⟩⟩, rfl⟩
      refine bind_ok_iff.mpr ⟨r.delegationDigest, rfl, bind_ok_iff.mpr ⟨_, hdate, ?_⟩⟩
      refine bind_ok_iff.mpr ⟨signature, ?_, rfl⟩
      show declaredString (py "signature") (coalesce (some (ofJson r.signature)) _) = _
      rw [hsignature]
      rfl
  | @keyRevocation k signature hyear hsignature hspelled hlinks =>
      have hdate := parseDateField_canonical (yearHundred_le hyear) (py "revoked_at")
      obtain ⟨chain', hchain, htwin⟩ := chain_option_read hlinks
      refine ⟨.keyRevocation ⟨k.address, k.issuer, toDate k.revokedAt, chain', signature⟩, ?_,
        .keyRevocation ⟨rfl, rfl, rfl, htwin, hsignature, hspelled⟩⟩
      refine bind_ok_iff.mpr ⟨_, bind_ok_iff.mpr ⟨_, rfl, bind_ok_iff.mpr ⟨_, hchain, ?_⟩⟩, rfl⟩
      refine bind_ok_iff.mpr ⟨k.address, rfl, bind_ok_iff.mpr ⟨k.issuer, rfl, ?_⟩⟩
      refine bind_ok_iff.mpr ⟨_, hdate, bind_ok_iff.mpr ⟨signature, ?_, rfl⟩⟩
      show declaredString (py "signature") (coalesce (some (ofJson k.signature)) _) = _
      rw [hsignature]
      rfl

theorem rewireChain_eq {chain : DelegationChain}
    (h : ∀ link ∈ chain.links, GrantTravels H.nfc link) : rewireChain chain = chain := by
  obtain ⟨links⟩ := chain
  rw [rewireChain, List.map_congr_left fun link hlink => rewireGrant_eq (h link hlink).critical,
    List.map_id']

/-- Python reads it as it was. -/
theorem record_read (R : IsoReads H) {record : Record} (T : RecordTravels H.nfc record) :
    (Wire.ofRecord record).read H = .ok record := by
  cases T with
  | revocation hyear _ _ =>
      exact bind_ok_iff.mpr ⟨_, Revocation.modelValidate_modelDump R hyear, rfl⟩
  | @keyRevocation k _ hyear _ _ hlinks =>
      have hyears : RecallYears k := ⟨hyear, fun chain hchain link hlink =>
        (hlinks chain hchain link hlink).years⟩
      have hrewire : rewireRecall k = k := by
        obtain ⟨address, issuer, revokedAt, chain, signature⟩ := k
        cases chain with
        | none => rfl
        | some c => rw [rewireRecall, Option.map_some, rewireChain_eq (hlinks c rfl)]
      refine bind_ok_iff.mpr ⟨_, KeyRevocation.modelValidate_modelDump R hyears, ?_⟩
      rw [hrewire]

/-- **WRITTEN ALIKE** by both packages. -/
theorem record_written_alike {record : Record} {record' : TsRecord}
    (T : TwinRecord H.nfc record record') : Wire.ofTsRecord record' = Wire.ofRecord record := by
  cases T with
  | @revocation r r' T =>
      rw [Wire.ofTsRecord, Wire.ofRecord, JsRevocation.toJSON, Revocation.modelDump, T.issuer,
        T.delegationDigest, T.revokedAt, T.signature, toISOString_toDate]
      rfl
  | @keyRevocation k k' T =>
      have hchain := (alike_dumpChain T.chain).value
      rw [Wire.ofTsRecord, Wire.ofRecord, TsKeyRevocation.toJSON, KeyRevocation.modelDump, T.address,
        T.issuer, T.revokedAt, T.signature, toISOString_toDate, ← hchain]
      rfl

end AgentTsAuthority
