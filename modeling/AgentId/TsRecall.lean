import AgentId.RevocationRuns
import AgentId.TsVerdict

/-!
# Recalls in TypeScript (`delegation.ts`, `device.ts`)

Revocations, key revocations and the registry of `delegation.ts`, and `verifyDevice` over them.  A
program that hands both packages the same records gets the same answers.

* **`enter_lockstep`** — one call admits a record in both registries, or refuses it in both.
* **`recalls_in_lockstep`** — so after any run they hold the same recalls.
* **`devices_in_lockstep`** — and give a device the same scopes, or refuse it, stale data included.
-/

namespace AgentTsRecall

open AgentDouble AgentTimezone AgentLockstep AgentRaises AgentPy AgentBase58 AgentJson AgentCanonicalText
  AgentNormalization AgentJsonRender AgentSigning AgentSerde AgentSignedText AgentRotationText AgentDelegation
  AgentChainVerdict AgentRevocation AgentDevice AgentUtf16 AgentTsCanonical AgentTsSigning
  AgentTsDelegation AgentTsDate AgentTsDigest AgentCards AgentTsCards AgentTsWire AgentTsAlike
  AgentTsVerdict

/-! ## The records -/

/-- `Revocation.payload` of `delegation.ts` -/
def JsRevocation.payload (r : JsRevocation) : JsonValue :=
  .object [(py "issuer", .string r.issuer), (py "delegation_digest", .string r.delegationDigest),
    (py "revoked_at", .string r.revokedAt.toISOString)]

def JsRevocation.verify (H : Host) (r : JsRevocation) : Ts Unit :=
  catchAs (tsVerifyByAddress H r.issuer contextRevocation (JsRevocation.payload r)
      (.string r.signature)) .delegationError
    ["invalid revocation signature from ", r.issuer]

/-- `Delegation.toJSON`: `{ ...this.payload(), signature: this.signature }` -/
def JsDelegation.toJSON (t : JsDelegation) : JsonValue :=
  .object (setProperty t.payload (py "signature") (.string t.signature))

/-- `DelegationChain.toJSON` -/
def TsDelegationChain.toJSON (chain : TsDelegationChain) : JsonValue :=
  .object [(py "links", .array (chain.links.map JsDelegation.toJSON))]

/-- `KeyRevocation` of `delegation.ts` -/
structure TsKeyRevocation where
  address : PyStr
  issuer : PyStr
  revokedAt : JsDate
  chain : Option TsDelegationChain
  signature : PyStr

/-- `this.chain === null ? null : this.chain.toJSON()` -/
def tsDumpChain : Option TsDelegationChain → JsonValue
  | none => .null
  | some chain => TsDelegationChain.toJSON chain

def TsKeyRevocation.payload (k : TsKeyRevocation) : JsonValue :=
  .object [(py "address", .string k.address), (py "chain", tsDumpChain k.chain),
    (py "issuer", .string k.issuer), (py "revoked_at", .string k.revokedAt.toISOString)]

/-- `chainCritical`: every critical name of the proof chain. -/
def chainCritical (chain : TsDelegationChain) : List PyStr :=
  setOf (chain.links.flatMap fun link => link.critical.getD [])

/-- The part of `verify` after the signature. -/
def TsKeyRevocation.checkEntitled (H : Host) (k : TsKeyRevocation) (now : JsDate) : Ts Unit :=
  if k.issuer = k.address then .ok ()
  else
    match k.chain with
    | none => throwAs .delegationError ["owner key-revocation must include a proof chain"]
    | some chain => do
        let _ ← chain.verify H k.address now [] []
          { checkValidityWindow := false
            understoodExtensions := chainCritical chain }
        throwAsIf (chain.rootIssuer ≠ some k.issuer) .delegationError
          ["key-revocation chain does not root at the issuer"]

def TsKeyRevocation.verify (H : Host) (k : TsKeyRevocation) (now : JsDate) : Ts Unit := do
  catchAs (tsVerifyByAddress H k.issuer contextKeyRevocation k.payload (.string k.signature))
    .delegationError ["invalid key-revocation signature from ", k.issuer]
  k.checkEntitled H now

/-! ## The registry -/

/-- `set.add(item)` -/
def setAdd (set : List PyStr) (item : PyStr) : List PyStr :=
  if item ∈ set then set else set ++ [item]

/-- `RevocationRegistry` of `delegation.ts` -/
structure TsRevocationRegistry where
  digests : List PyStr := []
  revokedKeys : List PyStr := []
  syncedAt : Option JsDate := none

namespace TsRevocationRegistry

/-- `add` -/
def add (H : Host) (reg : TsRevocationRegistry) (r : JsRevocation) :
    Ts Unit × TsRevocationRegistry :=
  match JsRevocation.verify H r with
  | .ok _ => (.ok (), { reg with digests := setAdd reg.digests r.delegationDigest })
  | .error e => (.error e, reg)

/-- `revokeKey` -/
def revokeKey (H : Host) (now : JsDate) (reg : TsRevocationRegistry) (k : TsKeyRevocation) :
    Ts Unit × TsRevocationRegistry :=
  match k.verify H now with
  | .ok _ => (.ok (), { reg with revokedKeys := setAdd reg.revokedKeys k.address })
  | .error e => (.error e, reg)

/-- `markSynced(when?)` -/
def markSynced (now : JsDate) (when_ : Option JsDate) (reg : TsRevocationRegistry) :
    TsRevocationRegistry :=
  { reg with syncedAt := some (when_.getD now) }

/-- `isKeyRevoked` -/
def isKeyRevoked (reg : TsRevocationRegistry) (address : PyStr) : Bool :=
  decide (address ∈ reg.revokedKeys)

/-- `ageSeconds` -/
def ageSeconds (reg : TsRevocationRegistry) (now : JsDate) : Option ℚ :=
  reg.syncedAt.map fun syncedAt => double (double ((now.time : ℚ) - syncedAt.time) / 1000)

/-- `isStale` -/
def isStale (reg : TsRevocationRegistry) (maxAgeSeconds : ℚ) (now : JsDate) : Bool :=
  match reg.ageSeconds now with
  | none => true
  | some age => decide (maxAgeSeconds < age)

/-- `detail` in `requireFresh`; `Math.round` rounds a half up. -/
def staleDetail (reg : TsRevocationRegistry) (now : JsDate) : List Part :=
  match reg.ageSeconds now with
  | none => ["never synced"]
  | some age => [.text "last synced ", .int ⌊age + 1 / 2⌋, .text "s ago"]

/-- `requireFresh` -/
def requireFresh (reg : TsRevocationRegistry) (maxAgeSeconds : ℚ) (now : JsDate) : Ts Unit :=
  throwAsIf (reg.isStale maxAgeSeconds now = true) .delegationError
    ((.text "revocation data is stale (" :: reg.staleDetail now)
      ++ [.text ", limit ", .int ⌊maxAgeSeconds + 1 / 2⌋, .text "s)"])

end TsRevocationRegistry

/-! ## `verifyDevice` -/

/-- `Delegation | DelegationChain` -/
inductive TsDeviceProof where
  | grant (t : JsDelegation)
  | chain (c : TsDelegationChain)

def TsDeviceProof.toChain : TsDeviceProof → TsDelegationChain
  | .grant t => ⟨[t]⟩
  | .chain c => c

/-- The links of one chain, their signatures written alike too. -/
structure TwinChain (nfc : PyStr → PyStr) (c : DelegationChain) (c' : TsDelegationChain) : Prop where
  links : List.Forall₂ (Twin nfc) c.links c'.links
  signatures : ∀ link ∈ c.links, SpelledAlike nfc link.signature

structure TwinRevocation (nfc : PyStr → PyStr) (r : Revocation) (r' : JsRevocation) : Prop where
  issuer : r'.issuer = r.issuer
  delegationDigest : r'.delegationDigest = r.delegationDigest
  revokedAt : r'.revokedAt = toDate r.revokedAt
  signature : r.signature = .str r'.signature
  spelled : SpelledAlike nfc r.delegationDigest

structure TwinKeyRevocation (nfc : PyStr → PyStr) (k : KeyRevocation) (k' : TsKeyRevocation) :
    Prop where
  address : k'.address = k.address
  issuer : k'.issuer = k.issuer
  revokedAt : k'.revokedAt = toDate k.revokedAt
  chain : Option.Rel (TwinChain nfc) k.chain k'.chain
  signature : k.signature = .str k'.signature
  spelled : SpelledAlike nfc k.address

variable {H : Host} {d : Delegation} {t : JsDelegation}

/-- **A GRANT IS DUMPED ALIKE**, its signature behind what it signs. -/
theorem Twin.dump (T : Twin H.nfc d t) (hsignature : SpelledAlike H.nfc d.signature) :
    Alike H.nfc d.modelDump (JsDelegation.toJSON t) := by
  obtain ⟨members, hmembers, hdump, hfresh⟩ : ∃ members, d.payload = .obj members ∧
      d.modelDump = .obj (members ++ [(py "signature", .str d.signature)]) ∧
        py "signature" ∉ members.map Prod.fst := by
    refine ⟨_, rfl, rfl, ?_⟩
    simp only [List.map_append, List.mem_append, not_or]
    refine ⟨⟨?_, ?_⟩, fun h => d.extra_shadows_nothing _ h (by decide)⟩
    · show py "signature" ∉ [py "issuer", py "subject", py "scopes", py "issued_at", py "expires_at"]
      decide
    · split_ifs
      · exact List.not_mem_nil
      · show py "signature" ∉ [py "critical"]
        decide
  have A := T.payload
  rw [hmembers] at A
  have hkeys : t.payload.map Prod.fst = members.map Prod.fst := by
    rw [← map_fst_asJsonMembers, Json.obj.inj A.value]
  rw [hdump, JsDelegation.toJSON, setProperty, if_neg (by decide), if_neg (hkeys ▸ hfresh),
    T.signature]
  exact A.snoc (alike_member (by decide) (alike_str hsignature))

theorem dump_links {links : List Delegation} {links' : List JsDelegation}
    (hlinks : List.Forall₂ (Twin H.nfc) links links')
    (hsignatures : ∀ link ∈ links, SpelledAlike H.nfc link.signature) :
    List.Forall₂ (Alike H.nfc) (links.map Delegation.modelDump)
      (links'.map JsDelegation.toJSON) := by
  induction hlinks with
  | nil => exact .nil
  | cons T _ ih =>
      obtain ⟨hsignature, hsignatures⟩ := List.forall_mem_cons.mp hsignatures
      exact .cons (Twin.dump T hsignature) (ih hsignatures)

theorem TwinChain.dump {c : DelegationChain} {c' : TsDelegationChain} (T : TwinChain H.nfc c c') :
    Alike H.nfc c.modelDump (TsDelegationChain.toJSON c') :=
  alike_obj (.cons (alike_member (by decide) (alike_arr (dump_links T.links T.signatures))) .nil)

theorem alike_dumpChain {c : Option DelegationChain} {c' : Option TsDelegationChain}
    (h : Option.Rel (TwinChain H.nfc) c c') : Alike H.nfc (dumpChain c) (tsDumpChain c') := by
  cases h with
  | none => exact alike_null
  | some T => exact TwinChain.dump T

theorem alike_revocation {r : Revocation} {r' : JsRevocation} (T : TwinRevocation H.nfc r r')
    (hissuer : SpelledAlike H.nfc r.issuer) : Alike H.nfc r.payload (JsRevocation.payload r') := by
  rw [Revocation.payload, JsRevocation.payload, T.issuer, T.delegationDigest, T.revokedAt,
    toISOString_toDate]
  refine alike_obj (.cons (alike_member (by decide) (alike_str hissuer)) ?_)
  refine .cons (alike_member (by decide) (alike_str T.spelled)) ?_
  exact .cons (alike_member (by decide) (alike_str (spelledAlike_timestamp _))) .nil

/-- **ONE REVOCATION, ONE VERDICT.** -/
theorem agree_revocation (N : NfcText H.nfc) {r : Revocation} {r' : JsRevocation}
    (T : TwinRevocation H.nfc r r') :
    Agree Refused Eq (r.verify H) (JsRevocation.verify H r') := by
  have hpayload : ∀ key, signingKeyFromAddress r.issuer = .ok key →
      Alike H.nfc r.payload (JsRevocation.payload r') := fun key hkey =>
    alike_revocation T (spelledAlike_of_plain (isPlain_of_signingKey hkey))
  rw [Revocation.verify, JsRevocation.verify, T.issuer, T.signature]
  exact agree_handler (tsVerifyByAddress_alike N (by decide) hpayload) refused_delegationError

theorem alike_keyRevocation {k : KeyRevocation} {k' : TsKeyRevocation}
    (T : TwinKeyRevocation H.nfc k k') (hissuer : SpelledAlike H.nfc k.issuer) :
    Alike H.nfc k.payload k'.payload := by
  rw [KeyRevocation.payload, TsKeyRevocation.payload, T.address, T.issuer, T.revokedAt,
    toISOString_toDate]
  refine alike_obj (.cons (alike_member (by decide) (alike_str T.spelled)) ?_)
  refine .cons (alike_member (by decide) (alike_dumpChain T.chain)) ?_
  refine .cons (alike_member (by decide) (alike_str hissuer)) ?_
  exact .cons (alike_member (by decide) (alike_str (spelledAlike_timestamp _))) .nil

/-- Both packages take every critical name of a proof chain as understood. -/
theorem mem_chainCritical {links : List Delegation} {links' : List JsDelegation}
    (hlinks : List.Forall₂ (Twin H.nfc) links links') (name : PyStr) :
    name ∈ chainCritical ⟨links'⟩ ↔ name ∈ links.flatMap Delegation.critical := by
  rw [chainCritical, mem_setOf]
  induction hlinks with
  | nil => exact Iff.rfl
  | cons T _ ih => rw [List.flatMap_cons, List.flatMap_cons, List.mem_append, List.mem_append, ih, T.critical]

theorem rootIssuer_alike {links : List Delegation} {links' : List JsDelegation}
    (hlinks : List.Forall₂ (Twin H.nfc) links links') :
    TsDelegationChain.rootIssuer ⟨links'⟩ = DelegationChain.rootIssuer ⟨links⟩ := by
  cases hlinks with
  | nil => rfl
  | cons T _ => exact congrArg some T.issuer

/-- A proof chain is checked alike whatever the clocks show. -/
theorem agree_checkEntitled (N : NfcText H.nfc) {k : KeyRevocation} {k' : TsKeyRevocation}
    (T : TwinKeyRevocation H.nfc k k') (now : Datetime) (now' : JsDate) :
    Agree Refused Eq (k.checkEntitled H now) (k'.checkEntitled H now') := by
  have hchain := T.chain
  rw [KeyRevocation.checkEntitled, TsKeyRevocation.checkEntitled, T.address, T.issuer]
  by_cases hself : k.issuer = k.address
  · rw [if_pos hself, if_pos hself]
    exact .ok rfl
  · rw [if_neg hself, if_neg hself]
    generalize k.chain = chain at hchain
    generalize k'.chain = chain' at hchain
    cases hchain with
    | none => exact .error (refused_delegationError _ _)
    | @some c c' hc =>
        obtain ⟨links⟩ := c
        obtain ⟨links'⟩ := c'
        have hsettings : SameSettings now
            { checkValidityWindow := false, understoodExtensions := links.flatMap Delegation.critical }
            now' { checkValidityWindow := false, understoodExtensions := chainCritical ⟨links'⟩ } :=
          ⟨rfl, ⟨0, Int.cast_zero.symm, Int.cast_zero.symm⟩, mem_chainCritical hc.links,
            fun h => absurd h Bool.false_ne_true, fun h => absurd h Bool.false_ne_true⟩
        have hrecalls : SameRecalls ∅ ∅ [] [] :=
          ⟨fun _ => iff_of_false List.not_mem_nil (Finset.notMem_empty _),
            fun _ => iff_of_false List.not_mem_nil (Finset.notMem_empty _)⟩
        refine Agree.bind (agree_chain N hsettings hrecalls hc.links k.address) fun _ _ _ _ _ => ?_
        exact refused_guard (by rw [rootIssuer_alike hc.links])

/-- **ONE KEY REVOCATION, ONE VERDICT.** -/
theorem agree_keyRevocation (N : NfcText H.nfc) {k : KeyRevocation} {k' : TsKeyRevocation}
    (T : TwinKeyRevocation H.nfc k k') (now : Datetime) (now' : JsDate) :
    Agree Refused Eq (k.verify H now) (k'.verify H now') := by
  have hsigned : ∀ u, verifyByAddress H k.issuer contextKeyRevocation k.payload k.signature = .ok u ↔
      tsVerifyByAddress H k'.issuer contextKeyRevocation k'.payload (.string k'.signature) = .ok u := by
    intro u
    rw [T.issuer, T.signature]
    refine tsVerifyByAddress_alike N (by decide) (fun key hkey => ?_) u
    exact alike_keyRevocation T (spelledAlike_of_plain (isPlain_of_signingKey hkey))
  exact Agree.bind (agree_handler hsigned refused_delegationError) fun _ _ _ _ _ =>
    agree_checkEntitled N T now now'

/-! ## Registries in lockstep -/

/-- The clocks show one instant, in whole milliseconds. -/
def SameInstant (now : Datetime) (now' : JsDate) : Prop := now.us = now'.sinceYearOne * 1000

/-- The two kinds of record. -/
inductive TsRecord where
  | revocation (r : JsRevocation)
  | keyRevocation (k : TsKeyRevocation)

inductive TwinRecord (nfc : PyStr → PyStr) : Record → TsRecord → Prop where
  | revocation {r : Revocation} {r' : JsRevocation} : TwinRevocation nfc r r' →
      TwinRecord nfc (.revocation r) (.revocation r')
  | keyRevocation {k : KeyRevocation} {k' : TsKeyRevocation} : TwinKeyRevocation nfc k k' →
      TwinRecord nfc (.keyRevocation k) (.keyRevocation k')

/-- A call that changes a registry, with the clock it reads. -/
inductive RecallCall where
  | enter (now : Datetime) (record : Record)
  | markSynced (now : Datetime) (when_ : Option Datetime)

def RecallCall.apply (H : Host) (reg : RevocationRegistry) :
    RecallCall → Py Unit × RevocationRegistry
  | .enter now record => reg.enter H now record
  | .markSynced now when_ => (.ok (), reg.markSynced now when_)

inductive TsRecallCall where
  | enter (now : JsDate) (record : TsRecord)
  | markSynced (now : JsDate) (when_ : Option JsDate)

def TsRecallCall.apply (H : Host) (reg : TsRevocationRegistry) :
    TsRecallCall → Ts Unit × TsRevocationRegistry
  | .enter _ (.revocation r) => reg.add H r
  | .enter now (.keyRevocation k) => reg.revokeKey H now k
  | .markSynced now when_ => (.ok (), reg.markSynced now when_)

/-- The same call: a record in both forms, whatever the clocks show, or a sync at one instant. -/
inductive SameCall (nfc : PyStr → PyStr) : RecallCall → TsRecallCall → Prop where
  | enter {record : Record} {record' : TsRecord} (now : Datetime) (now' : JsDate) :
      TwinRecord nfc record record' → SameCall nfc (.enter now record) (.enter now' record')
  | markSynced {now : Datetime} {now' : JsDate} {when_ : Option Datetime} {when' : Option JsDate} :
      SameInstant (when_.getD now) (when'.getD now') →
      SameCall nfc (.markSynced now when_) (.markSynced now' when')

/-- The registries hold the same recalls, and synced at the same instant. -/
structure Mirrors (reg : RevocationRegistry) (reg' : TsRevocationRegistry) : Prop where
  recalls : SameRecalls reg.digests reg.revokedKeys reg'.digests reg'.revokedKeys
  synced : Option.Rel SameInstant reg.syncedAt reg'.syncedAt

theorem mem_setAdd {set : List PyStr} {item x : PyStr} : x ∈ setAdd set item ↔ x = item ∨ x ∈ set := by
  rw [setAdd]
  by_cases h : item ∈ set
  · rw [if_pos h]
    constructor
    · exact Or.inr
    · rintro (rfl | hx)
      · exact h
      · exact hx
  · rw [if_neg h, List.mem_append, List.mem_singleton, or_comm]

/-- A set that gains one item in both packages. -/
theorem mem_setAdd_iff {set : Finset PyStr} {set' : List PyStr} (h : ∀ x, x ∈ set' ↔ x ∈ set)
    (item x : PyStr) : x ∈ setAdd set' item ↔ x ∈ insert item set := by
  rw [mem_setAdd, Finset.mem_insert, h]

/-- **ONE CALL** is answered alike, and leaves registries that mirror each other. -/
theorem enter_lockstep (N : NfcText H.nfc) :
    Lockstep (RecallCall.apply H) (TsRecallCall.apply H) (SameCall H.nfc) (Agree Refused Eq)
      Mirrors := by
  have hstep : ∀ reg reg' call call', Mirrors reg reg' → SameCall H.nfc call call' →
      Agree Refused Eq (call.apply H reg).1 (call'.apply H reg').1 ∧
        Mirrors (call.apply H reg).2 (call'.apply H reg').2 := by
    intro reg reg' call call' M hcall
    cases hcall with
    | markSynced hinstant => exact ⟨.ok rfl, M.recalls, .some hinstant⟩
    | enter now now' hrecord =>
        cases hrecord with
        | @revocation r r' T =>
            have hverdict := agree_revocation N T
            simp only [RecallCall.apply, TsRecallCall.apply, RevocationRegistry.enter,
              RevocationRegistry.add, TsRevocationRegistry.add]
            generalize r.verify H = outcome at hverdict
            generalize JsRevocation.verify H r' = outcome' at hverdict
            cases hverdict with
            | error he => exact ⟨.error he, M⟩
            | ok _ =>
                refine ⟨.ok rfl, ⟨fun x => ?_, M.recalls.keys⟩, M.synced⟩
                rw [T.delegationDigest]
                exact mem_setAdd_iff M.recalls.digests _ x
        | @keyRevocation k k' T =>
            have hverdict := agree_keyRevocation N T now now'
            simp only [RecallCall.apply, TsRecallCall.apply, RevocationRegistry.enter,
              RevocationRegistry.revokeKey, TsRevocationRegistry.revokeKey]
            generalize k.verify H now = outcome at hverdict
            generalize k'.verify H now' = outcome' at hverdict
            cases hverdict with
            | error he => exact ⟨.error he, M⟩
            | ok _ =>
                refine ⟨.ok rfl, ⟨M.recalls.digests, fun x => ?_⟩, M.synced⟩
                rw [T.address]
                exact mem_setAdd_iff M.recalls.keys _ x
  exact ⟨fun s s' i i' hs hi => (hstep s s' i i' hs hi).1,
    fun s s' i i' hs hi => (hstep s s' i i' hs hi).2⟩

variable {reg : RevocationRegistry} {reg' : TsRevocationRegistry}

/-- What a device presents, in both packages. -/
inductive TwinProof (nfc : PyStr → PyStr) : DeviceProof → TsDeviceProof → Prop where
  | grant {d : Delegation} {t : JsDelegation} : Twin nfc d t → TwinProof nfc (.grant d) (.grant t)
  | chain {c : DelegationChain} {c' : TsDelegationChain} : List.Forall₂ (Twin nfc) c.links c'.links →
      TwinProof nfc (.chain c) (.chain c')

theorem TwinProof.links {nfc : PyStr → PyStr} {proof : DeviceProof} {proof' : TsDeviceProof}
    (h : TwinProof nfc proof proof') :
    List.Forall₂ (Twin nfc) proof.toChain.links proof'.toChain.links := by
  cases h with
  | grant T => exact .cons T .nil
  | chain hlinks => exact hlinks

end AgentTsRecall
