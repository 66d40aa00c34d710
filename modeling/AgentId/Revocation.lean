import AgentId.ChainVerdict

/-!
# Revocations and the registry (`delegation.py`)

A `Revocation` recalls one grant by its digest, a `KeyRevocation` recalls an identity's key.
`RevocationRegistry` verifies before it admits and keeps bare strings.  Each method returns its
outcome together with the registry it leaves, so a call that raises still has a state after it.

* **`KeyRevocation.verify_ok_iff`** — when a key revocation is honoured: self-signed, or carried
  by a verified chain from the signer down to the revoked address.
-/

namespace AgentRevocation

open AgentPy AgentJson AgentCanonicalText AgentSigning AgentSerde AgentDelegation AgentChainVerdict

/-! ## The records -/

/-- A signed early recall of a grant.  The constructor checks every field but the signature. -/
structure Revocation where
  issuer : PyStr
  delegationDigest : PyStr
  revokedAt : Timestamp
  signature : Json

/-- `Revocation._payload` -/
def Revocation.payload (r : Revocation) : Json :=
  .obj [(py "issuer", .str r.issuer), (py "delegation_digest", .str r.delegationDigest),
    (py "revoked_at", .str (canonicalTimestamp r.revokedAt))]

def Revocation.verify (H : Host) (r : Revocation) : Py Unit :=
  exceptRaise (verifyByAddress H r.issuer contextRevocation r.payload r.signature)
    .delegationError ["invalid revocation signature from ", r.issuer]

/-- `Revocation.model_dump(mode="json")` -/
def Revocation.modelDump (r : Revocation) : Members :=
  [(py "issuer", .str r.issuer), (py "delegation_digest", .str r.delegationDigest),
    (py "revoked_at", .str (canonicalTimestamp r.revokedAt)), (py "signature", r.signature)]

def Revocation.modelValidate (H : Host) (data : Members) : Py Revocation := do
  let issuer ← getField data (py "issuer")
  let delegationDigest ← getField data (py "delegation_digest")
  let revokedAt ← getField data (py "revoked_at")
  let revokedAt ← parseDatetime H (py "revoked_at") revokedAt
  let issuer ← requireStr (py "issuer") issuer
  let delegationDigest ← requireStr (py "delegation_digest") delegationDigest
  .ok ⟨issuer, delegationDigest, revokedAt, getFieldOr data (py "signature") (.str [])⟩

/-- A signed recall of an identity key, with the proof chain of an owner recall. -/
structure KeyRevocation where
  address : PyStr
  issuer : PyStr
  revokedAt : Timestamp
  chain : Option DelegationChain
  signature : Json

/-- `None if chain is None else chain.model_dump(mode="json")` -/
def dumpChain : Option DelegationChain → Json
  | none => .null
  | some chain => chain.modelDump

/-- `KeyRevocation._payload` -/
def KeyRevocation.payload (k : KeyRevocation) : Json :=
  .obj [(py "address", .str k.address), (py "chain", dumpChain k.chain),
    (py "issuer", .str k.issuer), (py "revoked_at", .str (canonicalTimestamp k.revokedAt))]

/-- `KeyRevocation.create`, with the key pair's `sign` as a function of the bytes. -/
def KeyRevocation.create (H : Host) (sign : Bytes → Bytes) (now : Datetime) (issuer address : PyStr)
    (chain : Option DelegationChain) : Py KeyRevocation := do
  let unsigned : KeyRevocation := ⟨address, issuer, normalizeTimestamp now, chain, .str []⟩
  let signature ← signPayload H sign contextKeyRevocation unsigned.payload
  .ok { unsigned with signature := .str signature }

/-- The part of `KeyRevocation.verify` after the signature: the issuer is the address itself, or
    roots a chain to it.  Expiry is not applied, and every critical name counts as understood. -/
def KeyRevocation.checkEntitled (H : Host) (k : KeyRevocation) (now : Datetime) : Py Unit :=
  if k.issuer = k.address then .ok ()
  else
    match k.chain with
    | none => raise .delegationError ["owner key-revocation must include a proof chain"]
    | some chain => do
        let _ ← chain.verify H k.address now ∅ ∅
          { checkValidityWindow := false
            understoodExtensions := chain.links.flatMap Delegation.critical }
        -- an empty chain has verified above: this check is what refuses it
        raiseIf (chain.rootIssuer ≠ some k.issuer) .delegationError
          ["key-revocation chain does not root at the issuer"]

def KeyRevocation.verify (H : Host) (k : KeyRevocation) (now : Datetime) : Py Unit := do
  exceptRaise (verifyByAddress H k.issuer contextKeyRevocation k.payload k.signature)
    .delegationError ["invalid key-revocation signature from ", k.issuer]
  k.checkEntitled H now

/-- `KeyRevocation.model_dump(mode="json")` -/
def KeyRevocation.modelDump (k : KeyRevocation) : Members :=
  [(py "address", .str k.address), (py "issuer", .str k.issuer), (py "chain", dumpChain k.chain),
    (py "revoked_at", .str (canonicalTimestamp k.revokedAt)), (py "signature", k.signature)]

/-- `None if chain is None else DelegationChain.model_validate(chain)` -/
def validateChain (H : Host) : Json → Py (Option DelegationChain)
  | .null => .ok none
  | chain => do
      let chain ← DelegationChain.modelValidate H chain
      .ok (some chain)

def KeyRevocation.modelValidate (H : Host) (data : Members) : Py KeyRevocation := do
  let address ← getField data (py "address")
  let issuer ← getField data (py "issuer")
  let chain ← validateChain H (getFieldOr data (py "chain") .null)
  let revokedAt ← getField data (py "revoked_at")
  let revokedAt ← parseDatetime H (py "revoked_at") revokedAt
  let address ← requireStr (py "address") address
  let issuer ← requireStr (py "issuer") issuer
  .ok ⟨address, issuer, revokedAt, chain, getFieldOr data (py "signature") (.str [])⟩

/-- The two kinds of record a feed carries. -/
inductive Record where
  | revocation (r : Revocation)
  | keyRevocation (k : KeyRevocation)

def Record.verify (H : Host) (now : Datetime) : Record → Py Unit
  | .revocation r => r.verify H
  | .keyRevocation k => k.verify H now

/-! ## The registry -/

/-- The sets a node keeps, and when it last completed a sync. -/
structure RevocationRegistry where
  digests : Finset PyStr := ∅
  revokedKeys : Finset PyStr := ∅
  syncedAt : Option Datetime := none

namespace RevocationRegistry

def add (H : Host) (reg : RevocationRegistry) (r : Revocation) : Py Unit × RevocationRegistry :=
  match r.verify H with
  | .ok _ => (.ok (), { reg with digests := insert r.delegationDigest reg.digests })
  | .error e => (.error e, reg)

def revokeKey (H : Host) (now : Datetime) (reg : RevocationRegistry) (k : KeyRevocation) :
    Py Unit × RevocationRegistry :=
  match k.verify H now with
  | .ok _ => (.ok (), { reg with revokedKeys := insert k.address reg.revokedKeys })
  | .error e => (.error e, reg)

/-- `mark_synced(when)`: the clock is read when no time is given. -/
def markSynced (now : Datetime) (when_ : Option Datetime) (reg : RevocationRegistry) :
    RevocationRegistry :=
  { reg with syncedAt := some (when_.getD now) }

/-- `is_revoked`: a signature that cannot be decoded answers `False`. -/
def isRevoked (H : Host) (reg : RevocationRegistry) (d : Delegation) : Py Bool :=
  match d.digest H with
  | .ok digest => .ok (decide (digest ∈ reg.digests))
  -- `except SignatureError`: any other exception of `digest` goes through
  | .error e => if e.cls = .signatureError then .ok false else .error e

def isKeyRevoked (reg : RevocationRegistry) (address : PyStr) : Bool :=
  decide (address ∈ reg.revokedKeys)

/-- The method a record goes to: `add` or `revoke_key`. -/
def enter (H : Host) (now : Datetime) (reg : RevocationRegistry) :
    Record → Py Unit × RevocationRegistry
  | .revocation r => reg.add H r
  | .keyRevocation k => reg.revokeKey H now k

end RevocationRegistry

/-! ## What the registry knows -/

/-- A recalled grant, by its digest, or a recalled identity key. -/
inductive Recall where
  | grant (digest : PyStr)
  | key (address : PyStr)

def Record.recall : Record → Recall
  | .revocation r => .grant r.delegationDigest
  | .keyRevocation k => .key k.address

def RevocationRegistry.Holds (reg : RevocationRegistry) : Recall → Prop
  | .grant digest => digest ∈ reg.digests
  | .key address => address ∈ reg.revokedKeys

/-- An empty registry holds no recall. -/
theorem RevocationRegistry.not_holds_empty (x : Recall) : ¬ RevocationRegistry.Holds {} x := by
  cases x with
  | grant digest => exact Finset.notMem_empty digest
  | key address => exact Finset.notMem_empty address

/-- A sync recalls nothing. -/
theorem holds_markSynced {now : Datetime} {when_ : Option Datetime} {reg : RevocationRegistry}
    {x : Recall} : (reg.markSynced now when_).Holds x ↔ reg.Holds x := by
  cases x <;> rfl

/-- The registry that knows one more recall. -/
def RevocationRegistry.withRecall (reg : RevocationRegistry) : Recall → RevocationRegistry
  | .grant digest => { reg with digests := insert digest reg.digests }
  | .key address => { reg with revokedKeys := insert address reg.revokedKeys }

/-- A recall is added to those held before. -/
theorem holds_withRecall {reg : RevocationRegistry} {x y : Recall} :
    (reg.withRecall y).Holds x ↔ reg.Holds x ∨ x = y := by
  cases y with
  | grant digest =>
      cases x with
      | grant digest' =>
          show digest' ∈ insert digest reg.digests ↔ _
          rw [Finset.mem_insert, or_comm, Recall.grant.injEq]
          rfl
      | key address => simp [RevocationRegistry.withRecall, RevocationRegistry.Holds]
  | key address =>
      cases x with
      | grant digest => simp [RevocationRegistry.withRecall, RevocationRegistry.Holds]
      | key address' =>
          show address' ∈ insert address reg.revokedKeys ↔ _
          rw [Finset.mem_insert, or_comm, Recall.key.injEq]
          rfl

/-- **WHAT THE TWO METHODS DO**: a record that verifies is added, and another is refused with the
    exception of its verification. -/
theorem RevocationRegistry.enter_cases (H : Host) (now : Datetime) (reg : RevocationRegistry)
    (record : Record) :
    (record.verify H now = .ok () ∧
      reg.enter H now record = (.ok (), reg.withRecall record.recall)) ∨
    ∃ e, record.verify H now = .error e ∧ reg.enter H now record = (.error e, reg) := by
  cases record with
  | revocation r =>
      rw [enter, add, Record.verify]
      cases r.verify H with
      | ok _ => exact Or.inl ⟨rfl, rfl⟩
      | error e => exact Or.inr ⟨e, rfl, rfl⟩
  | keyRevocation k =>
      rw [enter, revokeKey, Record.verify]
      cases k.verify H now with
      | ok _ => exact Or.inl ⟨rfl, rfl⟩
      | error e => exact Or.inr ⟨e, rfl, rfl⟩

/-- **ADMISSION** adds what the record recalls, and nothing else. -/
theorem RevocationRegistry.enter_ok {H : Host} {now : Datetime} {reg reg' : RevocationRegistry}
    {record : Record} (h : reg.enter H now record = (.ok (), reg')) :
    record.verify H now = .ok () ∧ ∀ x, reg'.Holds x ↔ reg.Holds x ∨ x = record.recall := by
  rcases reg.enter_cases H now record with ⟨hverify, hentered⟩ | ⟨e, -, hrefused⟩
  · obtain ⟨-, rfl⟩ := Prod.mk.inj (hentered.symm.trans h)
    exact ⟨hverify, fun x => holds_withRecall⟩
  · cases (Prod.mk.inj (hrefused.symm.trans h)).1

/-! ## What verification establishes -/

variable {H : Host} {now : Datetime}

/-- A revocation verifies under the address it names as its issuer. -/
theorem Revocation.verify_ok_iff {r : Revocation} :
    r.verify H = .ok () ↔
      verifyByAddress H r.issuer contextRevocation r.payload r.signature = .ok () :=
  exceptRaise_ok_iff

/-- The proof an owner recall carries: a verified chain from the signer to the revoked key. -/
structure ProvesControl (H : Host) (k : KeyRevocation) (chain : DelegationChain) : Prop where
  rooted : chain.rootIssuer = some k.issuer
  signed : ∀ link ∈ chain.links, link.Signed H
  linked : Linked chain.links
  terminates : ∀ last ∈ chain.links.getLast?, last.subject = k.address

/-- With the window skipped and every critical name understood, a link passes exactly when its
    signature verifies. -/
theorem linkPasses_of_recall {chain : DelegationChain} {link : Delegation}
    (hlink : link ∈ chain.links) :
    LinkPasses H now { checkValidityWindow := false
                       understoodExtensions := chain.links.flatMap Delegation.critical } ∅ ∅ link ↔
      link.Signed H := by
  constructor
  · intro h
    exact (Delegation.verify_ok_iff.mp h.verifies).2.1
  · intro h
    refine ⟨Delegation.verify_ok_iff.mpr ⟨rfl, h, ?_⟩, fun _ _ => Finset.notMem_empty _,
      Finset.notMem_empty _, Finset.notMem_empty _⟩
    intro name hname
    exact List.mem_flatMap.mpr ⟨link, hlink, hname⟩

/-- **WHEN A KEY REVOCATION IS HONOURED**: its signature verifies, and the signer is the revoked
    address or proves control of it by the chain it supplies. -/
theorem KeyRevocation.verify_ok_iff {k : KeyRevocation} :
    k.verify H now = .ok () ↔
      verifyByAddress H k.issuer contextKeyRevocation k.payload k.signature = .ok () ∧
        (k.issuer = k.address ∨ ∃ chain, k.chain = some chain ∧ ProvesControl H k chain) := by
  rw [KeyRevocation.verify, seq_ok_iff, exceptRaise_ok_iff]
  refine and_congr_right fun _ => ?_
  simp only [KeyRevocation.checkEntitled]
  by_cases hself : k.issuer = k.address
  · simp [hself]
  rw [if_neg hself]
  cases hchain : k.chain with
  | none => simp [hself, raise]
  | some chain =>
      by_cases hne : chain.links = []
      · -- an empty chain verifies, but it has no root
        have hroot : chain.rootIssuer ≠ some k.issuer := by
          rw [DelegationChain.rootIssuer, hne]
          exact (Option.some_ne_none k.issuer).symm
        simp only [bind_ok_iff, raiseIf_ok_iff, not_not]
        constructor
        · rintro ⟨_, -, h⟩
          exact absurd h hroot
        · rintro (h | ⟨c, hc, h⟩)
          · exact absurd h hself
          · cases hc
            exact absurd h.rooted hroot
      · simp only [bind_ok_iff, raiseIf_ok_iff, not_not, DelegationChain.verify_ok_iff hne]
        constructor
        · rintro ⟨scopes, ⟨hpass, hlinked, hterm, -⟩, hroot⟩
          have hsigned : ∀ link ∈ chain.links, link.Signed H := fun link hlink =>
            (linkPasses_of_recall hlink).mp (hpass link hlink)
          exact Or.inr ⟨chain, rfl, hroot, hsigned, hlinked, hterm⟩
        · rintro (h | ⟨c, hc, h⟩)
          · exact absurd h hself
          · cases hc
            obtain ⟨all, hall⟩ := exists_narrowAll hne
            refine ⟨all, ⟨fun link hlink => (linkPasses_of_recall hlink).mpr (h.signed link hlink),
              h.linked, h.terminates, ?_⟩, h.rooted⟩
            intro s
            rw [mem_narrowAll hall]
            simp

/-! ## ASCII records have signing bytes -/

/-- The payload of a revocation is ASCII when its strings are. -/
theorem Revocation.asciiJson_payload {r : Revocation} (hissuer : IsAscii r.issuer)
    (hdigest : IsAscii r.delegationDigest) : AsciiJson r.payload := by
  refine .obj_cons (by decide) (.str hissuer) ?_
  refine .obj_cons (by decide) (.str hdigest) ?_
  exact .obj_cons (by decide) (asciiJson_timestamp _) .obj_nil

/-- So is that of a key recall, when its proof chain is. -/
theorem KeyRevocation.asciiJson_payload {k : KeyRevocation} (haddress : IsAscii k.address)
    (hissuer : IsAscii k.issuer) (hchain : AsciiJson (dumpChain k.chain)) :
    AsciiJson k.payload := by
  refine .obj_cons (by decide) (.str haddress) ?_
  refine .obj_cons (by decide) hchain ?_
  refine .obj_cons (by decide) (.str hissuer) ?_
  exact .obj_cons (by decide) (asciiJson_timestamp _) .obj_nil

/-- A revocation of `digest` signed by key `issuer`. -/
def plainRevocation (issuer : UInt8) (digest : PyStr) : Revocation :=
  ⟨constAddress issuer, digest, .zero, .str idealSignature⟩

/-- A revocation its issuer signed verifies. -/
theorem plainRevocation_verify {signs : Bytes → Bytes → Bool} {issuer : UInt8} {digest : PyStr}
    (hdigest : IsAscii digest)
    (h : ∀ message, signingInput (idealHost signs) contextRevocation
        (plainRevocation issuer digest).payload = .ok message →
      signs (constKey issuer) message = true) :
    (plainRevocation issuer digest).verify (idealHost signs) = .ok () :=
  Revocation.verify_ok_iff.mpr <| verifyByAddress_idealHost (signingKey_constAddress issuer)
    (by decide) (Revocation.asciiJson_payload (isAscii_constAddress issuer) hdigest) h

end AgentRevocation
