import AgentId.CardWire
import AgentId.OwnerRecall
import AgentId.Possession
import AgentId.RotationWire

/-!
# Every artifact survives its wire form

A record that is dumped to JSON data and validated again signs the same payload and carries the
same signature.  Cards and grants, and whatever contains grants, come back with their critical
names sorted; nothing that is signed or verified depends on that order.  The other records come
back as they were.

* **`artifacts_survive_the_wire`** — the round trip of all nine kinds of record.
-/

namespace AgentArtifactWire

open AgentPy AgentTimezone AgentBase58 AgentJson AgentCanonicalText AgentNormalization AgentSigning
  AgentSerde AgentIsoText AgentDelegation AgentRevocation AgentWireForm AgentCards AgentCardWire
  AgentRotation AgentRotationWire AgentPossession AgentOwnerRecall

/-- The card is signed and verified like the other one. -/
structure SameCard (H : Host) (c c' : AgentCard) : Prop where
  payload : c'.payload = c.payload
  signature : c'.signature = c.signature
  verifies : ∀ understood, c'.verify H understood = .ok () ↔ c.verify H understood = .ok ()

/-- So is the grant, and a revocation of one recalls the other. -/
structure SameGrant (H : Host) (d d' : Delegation) : Prop where
  payload : d'.payload = d.payload
  signature : d'.signature = d.signature
  digest : d'.digest H = d.digest H
  scopes : d'.scopes = d.scopes
  verifies : ∀ {T : Type} [Moment T] (now : T) opts,
    d'.verify H now opts = .ok () ↔ d.verify H now opts = .ok ()

/-- The chains have the same links, and verify to the same scopes for the same agents. -/
structure SameChain (H : Host) (chain chain' : DelegationChain) : Prop where
  links : List.Forall₂ (SameGrant H) chain.links chain'.links
  verifies : ∀ {T : Type} [Moment T] agent (now : T) revoked revokedKeys opts scopes,
    chain'.verify H agent now revoked revokedKeys opts = .ok scopes ↔
      chain.verify H agent now revoked revokedKeys opts = .ok scopes

/-- The key recall is signed and verified like the other one. -/
structure SameRecall (H : Host) (k k' : KeyRevocation) : Prop where
  payload : k'.payload = k.payload
  signature : k'.signature = k.signature
  verifies : ∀ now, k'.verify H now = .ok () ↔ k.verify H now = .ok ()

/-- A card that was carried is the same card. -/
theorem sameCard_rewire (H : Host) (c : AgentCard) : SameCard H c (rewireCard c) :=
  ⟨rewireCard_payload c, rfl, fun _ => rewireCard_verify⟩

/-- So is a grant. -/
theorem sameGrant_rewire (H : Host) (d : Delegation) : SameGrant H d (rewireGrant d) :=
  ⟨rewireGrant_payload d, rfl, rewireGrant_digest d, rfl, fun _ _ => rewireGrant_verify⟩

/-- So is a chain, link by link. -/
theorem sameChain_rewire (H : Host) (chain : DelegationChain) :
    SameChain H chain (rewireChain chain) := by
  refine ⟨?_, fun _ _ _ _ _ _ => rewireChain_verify⟩
  rw [rewireChain, List.forall₂_map_right_iff, List.forall₂_same]
  exact fun link _ => sameGrant_rewire H link

/-- So is a key recall, with its proof chain. -/
theorem sameRecall_rewire (H : Host) (k : KeyRevocation) : SameRecall H k (rewireRecall k) :=
  ⟨rewireRecall_payload k, rfl, fun _ => rewireRecall_verify⟩

/-- **EVERY ARTIFACT SURVIVES ITS WIRE FORM.**  Whatever its extensions, critical names and
    nesting, a record with four-digit years validates after it was dumped, to a record that signs
    the same payload and verifies exactly when it did. -/
theorem artifacts_survive_the_wire (H : Host) (R : IsoReads H) :
    (∀ c : AgentCard, ∃ c', AgentCard.modelValidate (.obj c.modelDump) = .ok c' ∧
      SameCard H c c') ∧
    (∀ d : Delegation, GrantYears d → ∃ d', Delegation.modelValidate H d.modelDump = .ok d' ∧
      SameGrant H d d') ∧
    (∀ chain : DelegationChain, ChainYears chain →
      ∃ chain', DelegationChain.modelValidate H chain.modelDump = .ok chain' ∧
        SameChain H chain chain') ∧
    (∀ r : Revocation, FourDigitYear r.revokedAt →
      Revocation.modelValidate H r.modelDump = .ok r) ∧
    (∀ k : KeyRevocation, RecallYears k →
      ∃ k', KeyRevocation.modelValidate H k.modelDump = .ok k' ∧ SameRecall H k k') ∧
    (∀ i : Inception, FourDigitYear i.createdAt →
      Inception.modelValidate H (.obj (Inception.modelDump i)) = .ok i) ∧
    (∀ r : KeyRotation, FourDigitYear r.rotatedAt →
      KeyRotation.modelValidate H (.obj (KeyRotation.modelDump r)) = .ok r) ∧
    (∀ chain : RotationChain, HistoryYears chain →
      RotationChain.modelValidate H (.obj (RotationChain.modelDump chain)) = .ok chain) ∧
    ∀ c : Challenge, FourDigitYear c.issuedAt → FourDigitYear c.expiresAt →
      Challenge.modelValidate H c.modelDump = .ok c := by
  refine ⟨fun c => ?_, fun d hyears => ?_, fun chain hyears => ?_, fun r hyear => ?_,
    fun k hyears => ?_, fun i hyear => ?_, fun r hyear => ?_, fun chain hyears => ?_,
    fun c hissued hexpires => ?_⟩
  · exact ⟨_, AgentCard.modelValidate_modelDump c, sameCard_rewire H c⟩
  · exact ⟨_, Delegation.modelValidate_modelDump R hyears, sameGrant_rewire H d⟩
  · exact ⟨_, DelegationChain.modelValidate_modelDump R hyears, sameChain_rewire H chain⟩
  · exact Revocation.modelValidate_modelDump R hyear
  · exact ⟨_, KeyRevocation.modelValidate_modelDump R hyears, sameRecall_rewire H k⟩
  · exact Inception.modelValidate_modelDump R hyear
  · exact KeyRotation.modelValidate_modelDump R hyear
  · exact RotationChain.modelValidate_modelDump R hyears
  · exact Challenge.modelValidate_modelDump (R _ hissued) (R _ hexpires)

/-! ## A grant with extensions -/

/-- Two extensions, and both names as the issuer gave them. -/
def tracedExtra : Members :=
  [(py "x-audit", .obj [(py "level", .int 3)]), (py "x-trace", .arr [.null, .str (py "a")])]

def tracedNames : List PyStr := [py "x-trace", py "x-audit"]

theorem tracedExtra_nodup : (tracedExtra.map Prod.fst).Nodup := by decide

theorem tracedExtra_shadows_nothing : ∀ k ∈ tracedExtra.map Prod.fst, k ∉ delegationFields := by decide

theorem tracedNames_present : ∀ name ∈ tracedNames, name ∈ tracedExtra.map Prod.fst := by decide

/-- The grant of an hour, with both extensions critical. -/
def tracedGrant : Delegation :=
  { hourGrant with
    critical := tracedNames
    extra := tracedExtra
    extra_nodup := tracedExtra_nodup
    extra_shadows_nothing := tracedExtra_shadows_nothing
    critical_present := tracedNames_present }

/-- The traced grant verifies within its hour where its extensions are understood. -/
theorem tracedGrant_verify :
    tracedGrant.verify openHost midHour { understoodExtensions := tracedNames } = .ok () := by
  have hnames : AsciiJson (strs (sortedStrs tracedNames)) := by
    have hascii : ∀ name ∈ tracedNames, IsAscii name := by decide
    exact asciiJson_strs fun name hname => hascii name (mem_sortedStrs.mp hname)
  have hextra : AsciiJson (.obj tracedExtra) := by
    refine .obj_cons (by decide) (.obj_cons (by decide) (.int 3) .obj_nil) ?_
    refine .obj_cons (by decide) (.arr fun v hv => ?_) .obj_nil
    rcases List.mem_pair.mp hv with rfl | rfl
    · exact .null
    · exact .str (by decide)
  obtain ⟨message, hmessage⟩ : ∃ message,
      signingInput openHost contextDelegation tracedGrant.payload = .ok message :=
    signingInput_ascii sampleNfc_text.toNfcLaws (by decide)
      (asciiJson_grantMembers 2 1 isAscii_plainScopes (.obj_cons (by decide) hnames hextra))
  refine Delegation.verify_ok_iff.mpr
    ⟨(Delegation.checkWindow_ok_iff (windowChecked_midHour tracedNames)).mpr
      fun _ => hourGrant_inWindow, ?_, fun name hname => hname⟩
  exact verifyByAddress_ok_iff.mpr ⟨_, _, message, signingKey_constAddress 2,
    decodeSignature_b64encode _, hmessage, rfl⟩

/-- The grant is carried, its critical names in order now, and verifies within the hour where they
    are understood. -/
theorem artifacts_survive_the_wire_traced :
    ∃ d', Delegation.modelValidate openHost tracedGrant.modelDump = .ok d' ∧
      SameGrant openHost tracedGrant d' ∧
      d'.verify openHost midHour { understoodExtensions := tracedNames } = .ok () := by
  obtain ⟨-, hgrant, -⟩ := artifacts_survive_the_wire openHost openHost_isoReads
  obtain ⟨d', hread, hsame⟩ := hgrant tracedGrant
    ⟨show yearThousand ≤ moment2026.ms by decide, show yearThousand ≤ anHourLater.ms by decide⟩
  exact ⟨d', hread, hsame, (hsame.verifies midHour _).mpr tracedGrant_verify⟩

end AgentArtifactWire
