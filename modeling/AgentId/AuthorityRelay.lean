import AgentId.AuthorityRuns
import AgentId.TsAuthority

/-!
# One authority, two packages (`owner.py`, `identity.ts`, `delegation.py`, `delegation.ts`)

Owners and agents recall grants and keys with either package.  The records go through a relay as
JSON, and a verifier of each package receives them in any order, late, repeatedly or not at all.

* **`refines_of_reachable`** — each verifier is one of a world in which all use Python.
* **`authority_across_packages`** — so a chain passes in either package exactly when it is valid and
  its verifier has honoured no recall of what it rests on.
* **`recalls_land_everywhere`** — a revocation is honoured wherever it arrives, and for good.
-/

namespace AgentAuthorityRelay

open AgentLockstep AgentPy AgentTimezone AgentNormalization AgentSigning AgentSerde AgentIsoText AgentDelegation
  AgentChainVerdict AgentRevocation AgentOwnerRecall AgentRotatingIdentity AgentAuthority AgentTsCanonical
  AgentTsDate AgentTsDigest AgentTsAlike AgentTsVerdict AgentTsRecall AgentTsHistory AgentTsChainWire
  AgentTsAuthority AgentAuthorityRuns

variable {H : Host}

/-! ## The relay -/

/-- The records sent so far, each with its deed; what a verifier of each package holds, and the deeds
    it admitted. -/
structure Relay where
  sent : List (Deed × Wire) := []
  python : RevocationRegistry := {}
  pyHonoured : List Deed := []
  typescript : TsRevocationRegistry := {}
  tsHonoured : List Deed := []

namespace Relay

def send (w : Relay) (deed : Deed) (wire : Wire) : Relay :=
  { w with sent := (deed, wire) :: w.sent }

/-- A deed counts as honoured when its record was admitted. -/
def admitted {ε : Type} (outcome : Except ε Unit) (deed : Deed) (honoured : List Deed) : List Deed :=
  match outcome with
  | .ok _ => deed :: honoured
  | .error _ => honoured

/-- The verifier of Python reads a record and enters it. -/
def receive (H : Host) (w : Relay) (now : Datetime) (deed : Deed) (wire : Wire) : Relay :=
  match wire.read H with
  | .error _ => w
  | .ok record =>
      { w with
        python := (w.python.enter H now record).2
        pyHonoured := admitted (w.python.enter H now record).1 deed w.pyHonoured }

/-- The verifier of TypeScript reads a record and enters it. -/
def tsReceive (H : Host) (w : Relay) (now : JsDate) (deed : Deed) (wire : Wire) : Relay :=
  match wire.tsRead with
  | .error _ => w
  | .ok record =>
      { w with
        typescript := ((TsRecallCall.enter now record).apply H w.typescript).2
        tsHonoured :=
          admitted ((TsRecallCall.enter now record).apply H w.typescript).1 deed w.tsHonoured }

end Relay

open Relay

/-- What the parties do with either package, in years of four digits, and what the relay does with
    their records. -/
inductive Step (H : Host) (w : Relay) : Relay → Prop where
  | revoke {owner : OwnerIdentity H} {now : Datetime} {d : Delegation} {r : Revocation} :
      FourDigitYear (normalizeTimestamp now) → owner.revoke now d = .ok r →
      Step H w (w.send (.grant d) (.ofRecord (.revocation r)))
  | tsRevoke {owner : TsOwnerIdentity H} {time : Timestamp} {d : Delegation} {t : JsDelegation}
      {r : JsRevocation} : FourDigitYear time → Twin H.nfc d t →
      owner.revoke (toDate time) t = .ok r →
      Step H w (w.send (.grant d) (.ofTsRecord (.revocation r)))
  | revokeOwnKey {agent : AgentIdentity H} {now : Datetime} {k : KeyRevocation} :
      FourDigitYear (normalizeTimestamp now) → agent.revokeOwnKey now = .ok k →
      Step H w (w.send (.key agent.keys.address) (.ofRecord (.keyRevocation k)))
  | tsRevokeOwnKey {agent : AgentIdentity H} {agent' : TsAgentIdentity H} {time : Timestamp}
      {k : TsKeyRevocation} : FourDigitYear time → TwinAgent agent agent' →
      agent'.revokeOwnKey (toDate time) = .ok k →
      Step H w (w.send (.key agent.keys.address) (.ofTsRecord (.keyRevocation k)))
  | revokeAgentKey {owner : OwnerIdentity H} {agent : AgentIdentity H} {now : Datetime}
      {k : KeyRevocation} : FourDigitYear (normalizeTimestamp now) →
      (∀ link ∈ agent.delegationChain.links, GrantTravels H.nfc link) →
      owner.revokeAgentKey now agent = .ok k →
      Step H w (w.send (.key agent.keys.address) (.ofRecord (.keyRevocation k)))
  | tsRevokeAgentKey {owner : TsOwnerIdentity H} {agent : AgentIdentity H}
      {agent' : TsAgentIdentity H} {time : Timestamp} {k : TsKeyRevocation} :
      FourDigitYear time → (∀ link ∈ agent.delegationChain.links, GrantTravels H.nfc link) →
      TwinAgent agent agent' → owner.revokeAgentKey (toDate time) agent' = .ok k →
      Step H w (w.send (.key agent.keys.address) (.ofTsRecord (.keyRevocation k)))
  | receive {deed : Deed} {wire : Wire} (now : Datetime) : (deed, wire) ∈ w.sent →
      Step H w (w.receive H now deed wire)
  | tsReceive {deed : Deed} {wire : Wire} (now : JsDate) : (deed, wire) ∈ w.sent →
      Step H w (w.tsReceive H now deed wire)

/-- One state of the relay comes after another. -/
abbrev Follows (H : Host) (w w' : Relay) : Prop := Relation.ReflTransGen (Step H) w w'

/-! ## One package -/

/-- Each verifier is that of a world in which these records were made in Python; the registry of
    TypeScript mirrors the one it would have there. -/
structure Refines (H : Host) (w : Relay) (made : List (Deed × Record))
    (mirror : RevocationRegistry) : Prop where
  sent : w.sent = made.map fun p => (p.1, Wire.ofRecord p.2)
  travels : ∀ p ∈ made, RecordTravels H.nfc p.2
  python : Reachable H ⟨made, w.python, w.pyHonoured⟩
  typescript : Reachable H ⟨made, mirror, w.tsHonoured⟩
  mirrors : Mirrors mirror w.typescript

variable {w w' : Relay} {made : List (Deed × Record)} {mirror : RevocationRegistry}

/-- Another recall, made in Python. -/
theorem Refines.send (h : Refines H w made mirror) {deed : Deed} {record : Record}
    (T : RecordTravels H.nfc record)
    (hstep : ∀ world : World, AgentAuthorityRuns.Step H world (world.make deed record)) :
    Refines H (w.send deed (.ofRecord record)) ((deed, record) :: made) mirror where
  sent := by
    rw [Relay.send, h.sent]
    rfl
  travels := List.forall_mem_cons.mpr ⟨T, h.travels⟩
  python := h.python.tail (hstep _)
  typescript := h.typescript.tail (hstep _)
  mirrors := h.mirrors

/-- A record that was sent is one that was made. -/
theorem Refines.exists_made (h : Refines H w made mirror) {deed : Deed} {wire : Wire}
    (hsent : (deed, wire) ∈ w.sent) :
    ∃ record, (deed, record) ∈ made ∧ wire = .ofRecord record ∧ RecordTravels H.nfc record := by
  rw [h.sent] at hsent
  obtain ⟨p, hp, heq⟩ := List.mem_map.mp hsent
  cases heq
  exact ⟨p.2, hp, rfl, h.travels p hp⟩

theorem deliver_eq (world : World) (now : Datetime) (deed : Deed) (record : Record) :
    world.deliver H now deed record = ⟨world.made, (world.registry.enter H now record).2,
      admitted (world.registry.enter H now record).1 deed world.honoured⟩ := by
  rw [World.deliver]
  rcases world.registry.enter H now record with ⟨_ | _, registry⟩
  · rfl
  · rfl

theorem receive_eq {wire : Wire} {record : Record} (hread : wire.read H = .ok record)
    (now : Datetime) (deed : Deed) :
    w.receive H now deed wire = { w with
      python := (w.python.enter H now record).2
      pyHonoured := admitted (w.python.enter H now record).1 deed w.pyHonoured } := by
  rw [Relay.receive, hread]

theorem tsReceive_eq {wire : Wire} {record : TsRecord} (hread : wire.tsRead = .ok record)
    (now : JsDate) (deed : Deed) :
    w.tsReceive H now deed wire = { w with
      typescript := ((TsRecallCall.enter now record).apply H w.typescript).2
      tsHonoured :=
        admitted ((TsRecallCall.enter now record).apply H w.typescript).1 deed w.tsHonoured } := by
  rw [Relay.tsReceive, hread]

/-- A delivery to the verifier of Python. -/
theorem Refines.receive (R : IsoReads H) (h : Refines H w made mirror) {deed : Deed} {wire : Wire}
    (hsent : (deed, wire) ∈ w.sent) (now : Datetime) :
    Refines H (w.receive H now deed wire) made mirror := by
  obtain ⟨record, hmade, rfl, T⟩ := h.exists_made hsent
  have hstep := AgentAuthorityRuns.Step.deliver (H := H) now
    (show (deed, record) ∈ (World.mk made w.python w.pyHonoured).made from hmade)
  rw [deliver_eq] at hstep
  rw [receive_eq (record_read R T)]
  exact ⟨h.sent, h.travels, h.python.tail hstep, h.typescript, h.mirrors⟩

theorem admitted_alike {fails : PyError → TsError → Prop} {outcome : Py Unit} {outcome' : Ts Unit}
    (h : Agree fails Eq outcome outcome') (deed : Deed) (honoured : List Deed) :
    admitted outcome' deed honoured = admitted outcome deed honoured := by
  cases h with
  | ok _ => rfl
  | error _ => rfl

/-- **DELIVERED TO TYPESCRIPT**, whatever its clock shows: the registry goes on mirroring, and the
    deed counts as honoured when the other registry would admit its record. -/
theorem tsReceive_mirrors (N : NfcText H.nfc) (M : Mirrors mirror w.typescript) {record : Record}
    (T : RecordTravels H.nfc record) (deed : Deed) (now : Datetime) (now' : JsDate) :
    ∃ typescript, Mirrors (mirror.enter H now record).2 typescript ∧
      w.tsReceive H now' deed (.ofRecord record) = { w with
        typescript := typescript
        tsHonoured := admitted (mirror.enter H now record).1 deed w.tsHonoured } := by
  obtain ⟨record', hread, htwin⟩ := record_tsRead T
  have L := enter_lockstep (H := H) N
  -- a proof chain is checked alike at any two times
  have hcall : SameCall H.nfc (.enter now record) (.enter now' record') := .enter _ _ htwin
  have hanswer : AgentLockstep.Agree Refused Eq (mirror.enter H now record).1
      ((TsRecallCall.enter now' record').apply H w.typescript).1 := L.answers _ _ _ _ M hcall
  refine ⟨((TsRecallCall.enter now' record').apply H w.typescript).2, L.states _ _ _ _ M hcall, ?_⟩
  rw [tsReceive_eq hread, admitted_alike hanswer]

theorem Refines.tsReceive (N : NfcText H.nfc) (h : Refines H w made mirror) {deed : Deed}
    {wire : Wire} (hsent : (deed, wire) ∈ w.sent) (now : JsDate) :
    ∃ mirror', Refines H (w.tsReceive H now deed wire) made mirror' := by
  obtain ⟨record, hmade, rfl, T⟩ := h.exists_made hsent
  obtain ⟨typescript, M, hreceive⟩ := tsReceive_mirrors N h.mirrors T deed midHour now
  have hstep := AgentAuthorityRuns.Step.deliver (H := H) midHour
    (show (deed, record) ∈ (World.mk made mirror w.tsHonoured).made from hmade)
  rw [deliver_eq] at hstep
  refine ⟨(mirror.enter H midHour record).2, ?_⟩
  rw [hreceive]
  exact ⟨h.sent, h.travels, h.python, h.typescript.tail hstep, M⟩

/-! ## Records made with either package -/

theorem revoke_travels {owner : OwnerIdentity H} {now : Datetime} {d : Delegation} {r : Revocation}
    (hyear : FourDigitYear (normalizeTimestamp now)) (h : owner.revoke now d = .ok r) :
    RecordTravels H.nfc (.revocation r) := by
  obtain ⟨_, _, h⟩ := bind_ok_iff.mp h
  obtain ⟨_, _, h⟩ := bind_ok_iff.mp h
  obtain ⟨digest, hdigest, h⟩ := bind_ok_iff.mp h
  obtain ⟨signature, _, h⟩ := bind_ok_iff.mp h
  cases h
  obtain ⟨_, _, _, -, -, -, hhex⟩ := digest_ok_iff.mp hdigest
  exact .revocation hyear rfl (spelledAlike_of_plain (hhex ▸ (isHex_hexdigest _).isPlain))

theorem create_travels {keys agent : KeyPair H} {now : Datetime} {chain : Option DelegationChain}
    {k : KeyRevocation} (hyear : FourDigitYear (normalizeTimestamp now))
    (hlinks : ∀ c ∈ chain, ∀ link ∈ c.links, GrantTravels H.nfc link)
    (h : KeyRevocation.create H keys.sign now keys.address agent.address chain = .ok k) :
    RecordTravels H.nfc (.keyRevocation k) := by
  obtain ⟨signature, _, h⟩ := bind_ok_iff.mp h
  cases h
  exact .keyRevocation hyear rfl (spelledAlike_address agent) hlinks

theorem revokeOwnKey_travels {agent : AgentIdentity H} {now : Datetime} {k : KeyRevocation}
    (hyear : FourDigitYear (normalizeTimestamp now)) (h : agent.revokeOwnKey now = .ok k) :
    RecordTravels H.nfc (.keyRevocation k) := by
  obtain ⟨address, haddress, h⟩ := bind_ok_iff.mp h
  cases agent.keys.addressFromSigningKey_eq.symm.trans haddress
  exact create_travels hyear (fun c hc => by cases hc) h

theorem revokeAgentKey_travels {owner : OwnerIdentity H} {agent : AgentIdentity H} {now : Datetime}
    {k : KeyRevocation} (hyear : FourDigitYear (normalizeTimestamp now))
    (hlinks : ∀ link ∈ agent.delegationChain.links, GrantTravels H.nfc link)
    (h : owner.revokeAgentKey now agent = .ok k) : RecordTravels H.nfc (.keyRevocation k) := by
  obtain ⟨address, haddress, h⟩ := bind_ok_iff.mp h
  cases owner.keys.addressFromSigningKey_eq.symm.trans haddress
  obtain ⟨_, _, h⟩ := bind_ok_iff.mp h
  obtain ⟨agentAddress, hagent, h⟩ := bind_ok_iff.mp h
  cases agent.keys.addressFromSigningKey_eq.symm.trans hagent
  refine create_travels hyear (fun c hc => ?_) h
  cases hc
  exact hlinks

/-! ## Every state -/

/-- What TypeScript made is what Python would have made then, and goes out in the same words. -/
theorem Refines.send_twin (h : Refines H w made mirror) {deed : Deed} {record : Record}
    {record' : TsRecord} (htwin : TwinRecord H.nfc record record')
    (T : RecordTravels H.nfc record)
    (hstep : ∀ world : World, AgentAuthorityRuns.Step H world (world.make deed record)) :
    Refines H (w.send deed (.ofTsRecord record')) ((deed, record) :: made) mirror := by
  rw [record_written_alike htwin]
  exact h.send T hstep

/-- **ONE STEP**, in either package, is one of a world in which all use Python. -/
theorem Refines.step (N : NfcText H.nfc) (R : IsoReads H) (h : Refines H w made mirror)
    (hstep : Step H w w') : ∃ made' mirror', Refines H w' made' mirror' := by
  cases hstep with
  | revoke hyear hr => exact ⟨_, _, h.send (revoke_travels hyear hr) fun _ => .revoke hr⟩
  | @tsRevoke owner time d t r' hyear T hr' =>
      obtain ⟨now, rfl⟩ := exists_clock time
      have hagree := @agree_revoke H d t ⟨owner.keys, owner.name⟩ N T now
      obtain ⟨r, hr, htwin⟩ := hagree.exists_ok_left (congrArg ofJs hr')
      exact ⟨_, _, h.send_twin (.revocation htwin) (revoke_travels hyear hr) fun _ => .revoke hr⟩
  | revokeOwnKey hyear hk =>
      exact ⟨_, _, h.send (revokeOwnKey_travels hyear hk) fun _ => .revokeOwnKey hk⟩
  | @tsRevokeOwnKey agent agent' time k' hyear A hk' =>
      obtain ⟨now, rfl⟩ := exists_clock time
      obtain ⟨k, hk, htwin⟩ := (agree_revokeOwnKey N A now).exists_ok_left (congrArg ofJs hk')
      exact ⟨_, _, h.send_twin (.keyRevocation htwin) (revokeOwnKey_travels hyear hk) fun _ =>
        .revokeOwnKey hk⟩
  | revokeAgentKey hyear hlinks hk =>
      exact ⟨_, _, h.send (revokeAgentKey_travels hyear hlinks hk) fun _ => .revokeAgentKey hk⟩
  | @tsRevokeAgentKey owner agent agent' time k' hyear hlinks A hk' =>
      obtain ⟨now, rfl⟩ := exists_clock time
      have hagree := @agree_revokeAgentKey H ⟨owner.keys, owner.name⟩ agent agent' N A now
      obtain ⟨k, hk, htwin⟩ := hagree.exists_ok_left (congrArg ofJs hk')
      exact ⟨_, _, h.send_twin (.keyRevocation htwin) (revokeAgentKey_travels hyear hlinks hk)
        fun _ => .revokeAgentKey hk⟩
  | receive now hsent => exact ⟨_, _, h.receive R hsent now⟩
  | tsReceive now hsent =>
      obtain ⟨mirror', h'⟩ := h.tsReceive N hsent now
      exact ⟨_, _, h'⟩

end AgentAuthorityRelay
