import AgentId.Revocation

/-!
# Device verification (`device.py`)

A device key acts for an identity through a delegation that carries the reserved `device` scope.
`verify_device` adds a root check, a scope check and a bound on the age of the revocation data to
`DelegationChain.verify`; it looks at the bound only when there is a registry, and takes the age of
the registry from what two clocks on the wall show.

* **`verifyDevice_ok_iff`** — what an accepted device has shown.
* **`fails_closed_iff`** — with a bound given, acceptance rests on fresh revocation data exactly
  when a registry is supplied and the age its clocks show is true to the bound, or the chain is
  refused for another reason.
-/

namespace AgentDevice

open AgentPy AgentDouble AgentTimezone AgentHalfEven AgentJson AgentSigning AgentSerde
  AgentDelegation AgentChainVerdict AgentRevocation

/-! ## The age of a registry -/

/-- A `RevocationRegistry` as it is consulted: `mark_synced` takes any aware `datetime`. -/
structure SyncedRegistry where
  digests : Finset PyStr
  revokedKeys : Finset PyStr
  syncedAt : Option AwareDatetime

/-- A registry whose syncs were recorded in UTC. -/
def synced (reg : RevocationRegistry) : SyncedRegistry :=
  ⟨reg.digests, reg.revokedKeys, reg.syncedAt.map aware⟩

/-- `timedelta.total_seconds()` of a number of microseconds: the nearest double. -/
def totalSeconds (us : ℤ) : ℚ := double ((us : ℚ) / 1000000)

/-- `f"{x:.0f}"`: a half to even, and the sign kept. -/
def noPlaces : Double → Part
  | .finite x => if x < 0 ∧ halfEven x = 0 then .text "-0" else .int (halfEven x)
  | .inf => .text "inf"
  | .negInf => .text "-inf"
  | .nan => .text "nan"

/-- `age_seconds`: the seconds since the last sync, if there was one. -/
def ageSeconds (reg : SyncedRegistry) (now : AwareDatetime) : Option ℚ :=
  reg.syncedAt.map fun syncedAt => totalSeconds (now.diff syncedAt)

/-- `is_stale` -/
def isStale (reg : SyncedRegistry) (maxAgeSeconds : Double) (now : AwareDatetime) : Bool :=
  match ageSeconds reg now with
  | none => true
  | some age => maxAgeSeconds.lt (.finite age)

/-- The detail of the message `require_fresh` raises with. -/
def staleDetail (reg : SyncedRegistry) (now : AwareDatetime) : List Part :=
  match ageSeconds reg now with
  | none => ["never synced"]
  | some age => [.text "last synced ", noPlaces (.finite age), .text "s ago"]

/-- `require_fresh` -/
def requireFresh (reg : SyncedRegistry) (maxAgeSeconds : Double) (now : AwareDatetime) : Py Unit :=
  raiseIf (isStale reg maxAgeSeconds now = true) .delegationError
    ((.text "revocation data is stale (" :: staleDetail reg now)
      ++ [.text ", limit ", noPlaces maxAgeSeconds, .text "s)"])

/-! ## `verify_device` -/

/-- `DEVICE_SCOPE` -/
def deviceScope : PyStr := py "device"

/-- `Delegation | DelegationChain` -/
inductive DeviceProof where
  | grant (d : Delegation)
  | chain (c : DelegationChain)

def DeviceProof.toChain : DeviceProof → DelegationChain
  | .grant d => ⟨[d]⟩
  | .chain c => c

/-- The registry is looked at when there is one, and its age when there is a bound. -/
def checkRegistry (registry : Option SyncedRegistry) (now : AwareDatetime)
    (maxRegistryAgeSeconds : Option Double) : Py Unit :=
  match registry, maxRegistryAgeSeconds with
  | some reg, some bound => requireFresh reg bound now
  | _, _ => .ok ()

/-- `registry.digests`, or none. -/
def revokedDigests (registry : Option SyncedRegistry) : Finset PyStr :=
  registry.elim ∅ SyncedRegistry.digests

/-- `registry.revoked_keys`, or none. -/
def revokedKeys (registry : Option SyncedRegistry) : Finset PyStr :=
  registry.elim ∅ SyncedRegistry.revokedKeys

def verifyDevice (H : Host) (delegation : DeviceProof) (identityAddress deviceAddress : PyStr)
    (registry : Option SyncedRegistry) (now : AwareDatetime)
    (maxRegistryAgeSeconds : Option Double) : Py (Finset PyStr) := do
  let chain := delegation.toChain
  raiseIf (chain.links.isEmpty = true) .delegationError
    ["device verification needs a non-empty chain"]
  raiseIf (chain.rootIssuer ≠ some identityAddress) .delegationError
    ["device chain roots at ", chain.rootIssuer.getD (py "None"), ", not identity ", identityAddress]
  checkRegistry registry now maxRegistryAgeSeconds
  let scopes ← chain.verify H deviceAddress now (revokedDigests registry) (revokedKeys registry) {}
  raiseIf (deviceScope ∉ scopes) .delegationError
    ["chain to ", deviceAddress, " does not carry the ", .repr deviceScope, " scope"]
  .ok (scopes.erase deviceScope)

/-! ## What acceptance establishes -/

/-- The microseconds between two moments, in seconds. -/
def elapsedSeconds (since now : AwareDatetime) : ℚ := ((now.instant - since.instant : ℤ) : ℚ) / 1000000

/-- The registry's last sync is at most `bound` seconds before `now`. -/
def Fresh (reg : SyncedRegistry) (now : AwareDatetime) (bound : Double) : Prop :=
  ∃ syncedAt ∈ reg.syncedAt, bound.Bounds (elapsedSeconds syncedAt now)

/-- The age the clocks show is true to the bound: where it is not over the bound, the time that has
    gone by is within it. -/
def AgeTrue (reg : SyncedRegistry) (now : AwareDatetime) (bound : Double) : Prop :=
  ∀ syncedAt ∈ reg.syncedAt, bound.lt (.finite (totalSeconds (now.diff syncedAt))) = false →
    bound.Bounds (elapsedSeconds syncedAt now)

/-- Everything asked of the chain itself, against these revocations; `scopes` are its own. -/
structure ActsFor (H : Host) (chain : DelegationChain) (identityAddress deviceAddress : PyStr)
    (now : AwareDatetime) (revoked revokedKeys scopes : Finset PyStr) : Prop where
  nonempty : chain.links ≠ []
  rooted : chain.rootIssuer = some identityAddress
  verifies : chain.verify H deviceAddress now revoked revokedKeys {} = .ok scopes
  device : deviceScope ∈ scopes

variable {H : Host} {delegation : DeviceProof} {identityAddress deviceAddress : PyStr}
  {registry : Option SyncedRegistry} {now : AwareDatetime}

/-- The registry passes when the age it shows is not over the bound. -/
theorem requireFresh_ok_iff {reg : SyncedRegistry} {bound : Double} :
    requireFresh reg bound now = .ok () ↔ ∃ syncedAt ∈ reg.syncedAt,
      bound.lt (.finite (totalSeconds (now.diff syncedAt))) = false := by
  rw [requireFresh, raiseIf_ok_iff, isStale, ageSeconds]
  cases reg.syncedAt with
  | none => simp
  | some syncedAt => simp

/-- **A TRUE AGE** lets only fresh data pass, and nothing else does. -/
theorem ageTrue_iff {reg : SyncedRegistry} {bound : Double} :
    AgeTrue reg now bound ↔ (requireFresh reg bound now = .ok () → Fresh reg now bound) := by
  rw [requireFresh_ok_iff, AgeTrue, Fresh]
  cases reg.syncedAt with
  | none => simp
  | some syncedAt => simp

/-- The clocks of a registry are as far from UTC now as at the sync, where one `tzinfo` serves both. -/
def SteadySince (reg : SyncedRegistry) (now : AwareDatetime) : Prop :=
  ∀ syncedAt ∈ reg.syncedAt, now.tz.id = syncedAt.tz.id → now.utcoffset = syncedAt.utcoffset

/-- **STEADY CLOCKS** show a true age, for a bound of whole seconds that is no longer than a
    century. -/
theorem ageTrue_of_steady {reg : SyncedRegistry} (hsteady : SteadySince reg now) {n : ℤ}
    (h0 : 0 ≤ n) (hn : n < 2 ^ 32) : AgeTrue reg now (.finite n) := by
  intro syncedAt hmem hage
  rw [Double.lt_finite, decide_eq_false_iff_not, not_lt, totalSeconds,
    AwareDatetime.diff_eq_of_steady (hsteady syncedAt hmem)] at hage
  show elapsedSeconds syncedAt now ≤ n
  by_contra hlate
  refine absurd (lt_double h0 hn ?_) hage.not_gt
  -- whole microseconds: past the bound is past it by one of them
  rw [elapsedSeconds, not_le, lt_div_iff₀ (by norm_num)] at hlate
  rw [le_div_iff₀ (by norm_num), add_mul]
  have hnext : n * 1000000 + 1 ≤ now.instant - syncedAt.instant := by exact_mod_cast hlate
  have hcast : ((n * 1000000 + 1 : ℤ) : ℚ) ≤ ((now.instant - syncedAt.instant : ℤ) : ℚ) :=
    Int.cast_le.mpr hnext
  push_cast at hcast ⊢
  linarith

/-- **WHAT AN ACCEPTED DEVICE HAS SHOWN.** -/
theorem verifyDevice_ok_iff {maxAge : Option Double} {S : Finset PyStr} :
    verifyDevice H delegation identityAddress deviceAddress registry now maxAge = .ok S ↔
      checkRegistry registry now maxAge = .ok () ∧
        ∃ scopes, ActsFor H delegation.toChain identityAddress deviceAddress now
          (revokedDigests registry) (revokedKeys registry) scopes ∧ S = scopes.erase deviceScope := by
  simp only [verifyDevice]
  rw [seq_ok_iff, seq_ok_iff, seq_ok_iff, bind_ok_iff, raiseIf_ok_iff, raiseIf_ok_iff, not_not,
    List.isEmpty_iff]
  constructor
  · rintro ⟨hne, hroot, hfresh, scopes, hverify, h⟩
    obtain ⟨hdevice, hS⟩ := seq_ok_iff.mp h
    rw [raiseIf_ok_iff, not_not] at hdevice
    cases hS
    exact ⟨hfresh, scopes, ⟨hne, hroot, hverify, hdevice⟩, rfl⟩
  · rintro ⟨hfresh, scopes, h, rfl⟩
    refine ⟨h.nonempty, h.rooted, hfresh, scopes, h.verifies, seq_ok_iff.mpr ⟨?_, rfl⟩⟩
    rw [raiseIf_ok_iff, not_not]
    exact h.device

/-- What a scope set returned under a bound is to rest on: a fresh registry, and a chain that acts
    for the identity against it. -/
def RestsOnFresh (H : Host) (chain : DelegationChain) (identityAddress deviceAddress : PyStr)
    (registry : Option SyncedRegistry) (now : AwareDatetime) (bound : Double) (S : Finset PyStr) :
    Prop :=
  ∃ reg, registry = some reg ∧ Fresh reg now bound ∧
    ∃ scopes, ActsFor H chain identityAddress deviceAddress now reg.digests reg.revokedKeys scopes ∧
      S = scopes.erase deviceScope

/-- Whatever is returned under a bound rests on fresh revocation data. -/
def FailsClosed (H : Host) (delegation : DeviceProof) (identityAddress deviceAddress : PyStr)
    (registry : Option SyncedRegistry) (now : AwareDatetime) (bound : Double) : Prop :=
  ∀ S, verifyDevice H delegation identityAddress deviceAddress registry now (some bound) = .ok S →
    RestsOnFresh H delegation.toChain identityAddress deviceAddress registry now bound S

/-- With a registry everything rests on it, its age as its clocks show it. -/
theorem failsClosed_some_iff {reg : SyncedRegistry} {bound : Double} :
    FailsClosed H delegation identityAddress deviceAddress (some reg) now bound ↔
      AgeTrue reg now bound ∨ ¬ ∃ scopes, ActsFor H delegation.toChain identityAddress deviceAddress
        now reg.digests reg.revokedKeys scopes := by
  constructor
  · intro h
    by_cases hacts : ∃ scopes, ActsFor H delegation.toChain identityAddress deviceAddress now
        reg.digests reg.revokedKeys scopes
    · obtain ⟨scopes, hacts⟩ := hacts
      refine Or.inl (ageTrue_iff.mpr fun hpasses => ?_)
      obtain ⟨reg', hreg, hfresh, -⟩ :=
        h _ (verifyDevice_ok_iff.mpr ⟨hpasses, scopes, hacts, rfl⟩)
      cases hreg
      exact hfresh
    · exact Or.inr hacts
  · rintro h S hS
    obtain ⟨hpasses, scopes, hacts, rfl⟩ := verifyDevice_ok_iff.mp hS
    rcases h with hage | hno
    · exact ⟨reg, rfl, ageTrue_iff.mp hage hpasses, scopes, hacts, rfl⟩
    · exact absurd ⟨scopes, hacts⟩ hno

/-- Without one there is nothing to rest on. -/
theorem failsClosed_none_iff {bound : Double} :
    FailsClosed H delegation identityAddress deviceAddress none now bound ↔
      ¬ ∃ scopes, ActsFor H delegation.toChain identityAddress deviceAddress now ∅ ∅ scopes := by
  constructor
  · rintro h ⟨scopes, hacts⟩
    obtain ⟨reg, hreg, -⟩ := h _ (verifyDevice_ok_iff.mpr ⟨rfl, scopes, hacts, rfl⟩)
    cases hreg
  · intro h S hS
    obtain ⟨-, scopes, hacts, -⟩ := verifyDevice_ok_iff.mp hS
    exact absurd ⟨scopes, hacts⟩ h

/-- **WHEN DEVICE VERIFICATION FAILS CLOSED** under a bound: exactly when a registry is supplied whose
    clocks show an age that is true to the bound, or the chain does not act for the identity against
    what was revoked; and so it does for a bound of whole seconds on steady clocks. -/
theorem fails_closed_iff (H : Host) (delegation : DeviceProof)
    (identityAddress deviceAddress : PyStr) (registry : Option SyncedRegistry) (now : AwareDatetime)
    (bound : Double) :
    (FailsClosed H delegation identityAddress deviceAddress registry now bound ↔
        (∃ reg, registry = some reg ∧ AgeTrue reg now bound) ∨
          ¬ ∃ scopes, ActsFor H delegation.toChain identityAddress deviceAddress now
            (revokedDigests registry) (revokedKeys registry) scopes) ∧
      ((∃ reg, registry = some reg ∧ SteadySince reg now) →
        (∃ n : ℤ, bound = .finite n ∧ 0 ≤ n ∧ n < 2 ^ 32) →
          FailsClosed H delegation identityAddress deviceAddress registry now bound) := by
  cases registry with
  | none =>
      constructor
      · refine failsClosed_none_iff.trans ⟨Or.inr, ?_⟩
        rintro (⟨reg, hreg, -⟩ | h)
        · cases hreg
        · exact h
      · rintro ⟨reg, hreg, -⟩
        cases hreg
  | some reg =>
      constructor
      · refine failsClosed_some_iff.trans (or_congr_left ⟨fun h => ⟨reg, rfl, h⟩, ?_⟩)
        rintro ⟨reg', hreg, h⟩
        cases hreg
        exact h
      · rintro ⟨reg', hreg, hsteady⟩ ⟨n, rfl, h0, hn⟩
        cases hreg
        exact failsClosed_some_iff.mpr (Or.inl (ageTrue_of_steady hsteady h0 hn))

/-- Half past two in summer time, on a clock put back at three. -/
def beforePutBack : AwareDatetime := { halfPastTwo with fold := false }

/-- A minute past that half hour by the same clock, an hour and a minute later. -/
def afterPutBack : AwareDatetime :=
  ⟨63928492260000000, true, autumnZone 63928494000000000, by decide, by decide⟩

/-- A clock that was put back makes an hour and a minute pass for fresh. -/
example : isStale ⟨∅, ∅, some beforePutBack⟩ (.finite 300) afterPutBack = false ∧
    afterPutBack.instant - beforePutBack.instant = 3660000000 := by decide +kernel

/-- NaN is over no age. -/
example : isStale ⟨∅, ∅, some (aware plainNow)⟩ .nan (aware plainNow) = false := rfl

/-- A device grant of key 1 to key 2. -/
def deviceGrant : Delegation := { plainGrant 1 2 with scopes := {deviceScope} }

theorem deviceGrant_signed : deviceGrant.Signed (idealHost fun _ _ => true) := by
  have hscopes : ∀ s ∈ ({deviceScope} : Finset PyStr), IsAscii s := by
    intro s hs
    rw [Finset.mem_singleton.mp hs]
    decide
  exact verifyByAddress_idealHost (signingKey_constAddress 1) (by decide)
    (asciiJson_grantMembers 1 2 hscopes .obj_nil) fun _ _ => rfl

theorem deviceGrant_actsFor :
    ActsFor (idealHost fun _ _ => true) ⟨[deviceGrant]⟩ (constAddress 1) (constAddress 2)
      (aware plainNow) ∅ ∅ {deviceScope} := by
  refine ⟨List.cons_ne_nil _ _, rfl, ?_, Finset.mem_singleton_self _⟩
  have hverify : deviceGrant.verify (idealHost fun _ _ => true) plainNow {} = .ok () :=
    Delegation.verify_ok_iff.mpr ⟨(Delegation.checkWindow_ok_iff windowChecked_plainNow).mpr
      fun _ => plainGrant_inWindow 1 2, deviceGrant_signed, fun _ h => absurd h List.not_mem_nil⟩
  rw [DelegationChain.verify_aware]
  refine (DelegationChain.verify_ok_iff (List.cons_ne_nil _ _)).mpr ⟨?_, ?_, ?_, ?_⟩
  · intro link hlink
    rw [List.mem_singleton.mp hlink]
    exact ⟨hverify, fun _ _ => Finset.notMem_empty _, Finset.notMem_empty _, Finset.notMem_empty _⟩
  · exact List.isChain_singleton _
  · rintro last ⟨⟩
    rfl
  · intro s
    simp [deviceGrant]

/-- Against a registry synced at the moment of verification, the device is accepted and rests on it. -/
theorem fails_closed_iff_synced :
    RestsOnFresh (idealHost fun _ _ => true) ⟨[deviceGrant]⟩ (constAddress 1) (constAddress 2)
      (some ⟨∅, ∅, some (aware plainNow)⟩) (aware plainNow) (.finite 300) ∅ := by
  have hsteady : SteadySince ⟨∅, ∅, some (aware plainNow)⟩ (aware plainNow) := by
    rintro syncedAt ⟨⟩ -
    rfl
  have hcloses := (fails_closed_iff (idealHost fun _ _ => true) (.grant deviceGrant)
    (constAddress 1) (constAddress 2) (some ⟨∅, ∅, some (aware plainNow)⟩) (aware plainNow)
    (.finite 300)).2 ⟨_, rfl, hsteady⟩ ⟨300, by norm_num, by norm_num, by norm_num⟩
  refine hcloses ∅ (verifyDevice_ok_iff.mpr ⟨?_, {deviceScope}, deviceGrant_actsFor, by decide⟩)
  refine requireFresh_ok_iff.mpr ⟨_, rfl, ?_⟩
  decide +kernel

/-- NO REGISTRY AT ALL: with a bound of 300 seconds and no revocation data, the device is accepted. -/
theorem bound_without_registry :
    verifyDevice (idealHost fun _ _ => true) (.grant deviceGrant) (constAddress 1) (constAddress 2)
        none (aware plainNow) (some (.finite 300)) = .ok ∅ ∧
      ¬ FailsClosed (idealHost fun _ _ => true) (.grant deviceGrant) (constAddress 1)
        (constAddress 2) none (aware plainNow) (.finite 300) := by
  refine ⟨verifyDevice_ok_iff.mpr ⟨rfl, {deviceScope}, deviceGrant_actsFor, by decide⟩, fun h => ?_⟩
  exact failsClosed_none_iff.mp h ⟨_, deviceGrant_actsFor⟩

end AgentDevice
