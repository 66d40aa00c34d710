import Mathlib.Data.Finset.Sort
import AgentId.Serde
import AgentId.Timezone

/-!
# Delegations and chains (`delegation.py`)

A `Delegation` carries what its constructor checked: `extra` has distinct keys, shadows no
known field, and holds every name listed in `critical`.  `DelegationChain.verify` is the loop
of the source: the per-link checks in their order, the adjacency check, the running
intersection that starts undefined, and the terminal check.

* **`Delegation.verify_ok_iff`**, **`Delegation.verify_error`** — one link: when it passes, and
  that it can only raise `DelegationError`.
* **`Delegation.digest_of_signed`** — a link that verifies has a digest.
-/

namespace AgentDelegation

open AgentRaises AgentPy AgentTimezone AgentJson AgentCanonicalText AgentSigning AgentSerde

/-- The fields of the dataclass. -/
def delegationFields : List PyStr :=
  [py "issuer", py "subject", py "scopes", py "issued_at", py "expires_at", py "signature",
    py "critical", py "extra"]

/-- A single signed grant. -/
structure Delegation where
  issuer : PyStr
  subject : PyStr
  scopes : Finset PyStr
  issuedAt : Timestamp
  expiresAt : Timestamp
  signature : PyStr
  critical : List PyStr
  extra : Members
  extra_nodup : (extra.map Prod.fst).Nodup
  extra_shadows_nothing : ∀ k ∈ extra.map Prod.fst, k ∉ delegationFields
  critical_present : ∀ name ∈ critical, name ∈ extra.map Prod.fst

/-- `sorted(...)` of strings. -/
def sortedStrs (names : List PyStr) : List PyStr := names.insertionSort (· ≤ ·)

/-- `sorted(self.scopes)` -/
def sortedScopes (scopes : Finset PyStr) : List PyStr := scopes.sort

def strs (names : List PyStr) : Json := .arr (names.map .str)

/-- `Delegation._payload` -/
def Delegation.payload (d : Delegation) : Json :=
  .obj ([(py "issuer", .str d.issuer), (py "subject", .str d.subject),
      (py "scopes", strs (sortedScopes d.scopes)),
      (py "issued_at", .str (canonicalTimestamp d.issuedAt)),
      (py "expires_at", .str (canonicalTimestamp d.expiresAt))]
    ++ (if d.critical = [] then [] else [(py "critical", strs (sortedStrs d.critical))])
    ++ d.extra)

/-- `Delegation.digest`: it covers the decoded signature, never its text. -/
def Delegation.digest (H : Host) (d : Delegation) : Py PyStr := do
  let signed ← signingInput H contextDelegation d.payload
  let raw ← decodeSignature (.str d.signature)
  .ok (hexdigest (H.sha256 (signed ++ raw)))

/-- The keyword arguments of the two `verify` methods. -/
structure VerifyOptions where
  checkValidityWindow : Bool := true
  leewaySeconds : ℚ := 0
  understoodExtensions : List PyStr := []

section Verify

variable {T : Type} [Moment T]

/-- Both edges of the validity window, with the leeway in microseconds. -/
def Delegation.checkEdges (d : Delegation) (now : T) (leeway : Int) : Py Unit := do
  let early ← Moment.sub now leeway
  raiseIf (d.expiresAt.us ≤ Moment.us early) .delegationError
    ["delegation from ", d.issuer, " expired at ", .time d.expiresAt.us]
  let late ← Moment.add now leeway
  raiseIf (Moment.us late < d.issuedAt.us) .delegationError ["delegation issued in the future"]

/-- The `check_validity_window` block of `Delegation.verify`. -/
def Delegation.checkWindow (d : Delegation) (now : T) (opts : VerifyOptions) : Py Unit :=
  if opts.checkValidityWindow then d.checkEdges now (timedelta (max 0 opts.leewaySeconds))
  else .ok ()

/-- The critical names this verifier does not understand. -/
def Delegation.unrecognized (d : Delegation) (understood : List PyStr) : List PyStr :=
  d.critical.filter (· ∉ understood)

def Delegation.verify (H : Host) (d : Delegation) (now : T) (opts : VerifyOptions) :
    Py Unit := do
  d.checkWindow now opts
  exceptRaise (verifyByAddress H d.issuer contextDelegation d.payload (.str d.signature))
    .delegationError ["invalid delegation signature from ", d.issuer]
  raiseIf (d.unrecognized opts.understoodExtensions ≠ []) .delegationError
    ["delegation from ", d.issuer, " marks extension fields critical ",
      "that this verifier does not understand: ",
      .names (sortedStrs (d.unrecognized opts.understoodExtensions).dedup)]

/-- `Delegation.model_dump(mode="json")` -/
def Delegation.modelDump (d : Delegation) : Json :=
  match d.payload with
  | .obj members => .obj (members ++ [(py "signature", .str d.signature)])
  | other => other

/-- Ordered grants, root first. -/
structure DelegationChain where
  links : List Delegation

/-- The adjacency check of link `i`, which has a predecessor when `i > 0`. -/
def checkAdjacent (i : ℕ) (previous : Option Delegation) (link : Delegation) : Py Unit :=
  match previous with
  | none => .ok ()
  | some p => raiseIf (link.issuer ≠ p.subject) .delegationError
      ["broken chain: link ", .int i, " issued by ", link.issuer, ", expected ", p.subject]

/-- `link.scopes if effective is None else effective & link.scopes` -/
def narrow (effective : Option (Finset PyStr)) (scopes : Finset PyStr) : Finset PyStr :=
  match effective with
  | none => scopes
  | some e => e ∩ scopes

/-- The loop of `DelegationChain.verify`. -/
def verifyLinks (H : Host) (now : T) (opts : VerifyOptions)
    (revoked revokedKeys : Finset PyStr) :
    ℕ → Option Delegation → Option (Finset PyStr) → List Delegation → Py (Option (Finset PyStr))
  | _, _, effective, [] => .ok effective
  | i, previous, effective, link :: links => do
      link.verify H now opts
      let digest ← link.digest H
      raiseIf (digest ∈ revoked) .delegationError
        ["delegation from ", link.issuer, " to ", link.subject, " has been revoked"]
      raiseIf (link.issuer ∈ revokedKeys ∨ link.subject ∈ revokedKeys) .delegationError
        ["delegation touches revoked identity key (",
          if link.issuer ∈ revokedKeys then link.issuer else link.subject, ")"]
      checkAdjacent i previous link
      verifyLinks H now opts revoked revokedKeys (i + 1) (some link)
        (some (narrow effective link.scopes)) links

def DelegationChain.verify (H : Host) (chain : DelegationChain) (agentAddress : PyStr)
    (now : T) (revoked revokedKeys : Finset PyStr) (opts : VerifyOptions) :
    Py (Finset PyStr) :=
  match chain.links.getLast? with
  | none => .ok ∅
  | some last => do
      let effective ← verifyLinks H now opts revoked revokedKeys 0 none none chain.links
      raiseIf (last.subject ≠ agentAddress) .delegationError
        ["chain terminates at ", last.subject, ", not agent ", agentAddress]
      .ok (effective.getD ∅)

end Verify

/-- `DelegationChain.root_issuer` -/
def DelegationChain.rootIssuer (chain : DelegationChain) : Option PyStr :=
  chain.links.head?.map Delegation.issuer

/-- `DelegationChain.model_dump(mode="json")` -/
def DelegationChain.modelDump (chain : DelegationChain) : Json :=
  .obj [(py "links", .arr (chain.links.map Delegation.modelDump))]

/-! ## Reading the wire form -/

/-- The checks of `Delegation.__post_init__` on fields of their annotated types. -/
def Delegation.postInit (issuer subject : PyStr) (scopes : Finset PyStr)
    (issuedAt expiresAt : Timestamp) (signature : PyStr) (critical : List PyStr)
    (extra : Members) : Py Delegation :=
  let names := extra.map Prod.fst
  -- `extra` is a `dict`: no key stands in it twice
  if hdict : names.Nodup then
    if hshadow : ∀ k ∈ names, k ∉ delegationFields then
      if hdangling : ∀ name ∈ critical, name ∈ names then
        .ok ⟨issuer, subject, scopes, issuedAt, expiresAt, signature, critical, extra, hdict,
          hshadow, hdangling⟩
      else raise .valueError
        ["critical names extension fields not present on the delegation: ",
          .names (sortedStrs (critical.filter (· ∉ names)).dedup)]
    else raise .valueError
      ["extra must not shadow known delegation fields: ",
        .names (sortedStrs (names.filter (· ∈ delegationFields)))]
  else raise .valueError ["repeated key"]

/-- A grant is built of the fields it is given. -/
theorem Delegation.postInit_ok {issuer subject : PyStr} {scopes : Finset PyStr}
    {issuedAt expiresAt : Timestamp} {signature : PyStr} {critical : List PyStr} {extra : Members}
    {d : Delegation}
    (h : Delegation.postInit issuer subject scopes issuedAt expiresAt signature critical extra
      = .ok d) :
    ∃ hdict hshadow hdangling, d = ⟨issuer, subject, scopes, issuedAt, expiresAt, signature,
      critical, extra, hdict, hshadow, hdangling⟩ := by
  simp only [Delegation.postInit] at h
  split_ifs at h with hdict hshadow hdangling
  · exact ⟨hdict, hshadow, hdangling, (Except.ok.inj h).symm⟩
  · cases h
  · cases h
  · cases h

/-- `Delegation.model_validate` where the scopes are strings, as they are annotated.  The source puts
    any hashable ones into its `frozenset`; a grant that has such scopes is no `Delegation` here. -/
def Delegation.modelValidate (H : Host) (data : Json) : Py Delegation := do
  let members ← getItems data
  let extra := members.filter (·.1 ∉ delegationFields)
  let issuer ← getField members (py "issuer")
  let subject ← getField members (py "subject")
  let scopes ← getField members (py "scopes")
  let scopes ← requireStrs (py "scope") scopes
  let issuedAt ← getField members (py "issued_at")
  let issuedAt ← parseDatetime H (py "issued_at") issuedAt
  let expiresAt ← getField members (py "expires_at")
  let expiresAt ← parseDatetime H (py "expires_at") expiresAt
  let critical ← iterate (getFieldOr members (py "critical") (.arr []))
  let issuer ← requireStr (py "issuer") issuer
  let subject ← requireStr (py "subject") subject
  let signature ← requireStr (py "signature") (getFieldOr members (py "signature") (.str []))
  let critical ← critical.mapM (requireStr (py "critical entry"))
  Delegation.postInit issuer subject scopes.toFinset issuedAt expiresAt signature critical extra

def DelegationChain.modelValidate (H : Host) (data : Json) : Py DelegationChain := do
  let members ← requireMapping (py "chain") data
  let links ← getField members (py "links")
  let links ← iterate links
  let links ← links.mapM (Delegation.modelValidate H)
  .ok ⟨links⟩

/-! ## One link -/

/-- The validity window, at the two edges it is checked at. -/
def Delegation.InWindowBetween (d : Delegation) (early late : Int) : Prop :=
  early < d.expiresAt.us ∧ d.issuedAt.us ≤ late

/-- The validity window with its leeway, both edges. -/
def Delegation.InWindow (d : Delegation) (now : Datetime) (leeway : Int) : Prop :=
  now.us - leeway < d.expiresAt.us ∧ d.issuedAt.us ≤ now.us + leeway

section Moments

variable {T : Type} [Moment T]

/-- When the window is checked, the leeway is not negative and `now` plus or minus it stays
    within the representable years. -/
def WindowChecked (now : T) (opts : VerifyOptions) : Prop :=
  opts.checkValidityWindow = true → 0 ≤ opts.leewaySeconds ∧
    (∃ early, Moment.sub now (timedelta opts.leewaySeconds) = .ok early) ∧
    ∃ late, Moment.add now (timedelta opts.leewaySeconds) = .ok late

/-- The two edges are compared with the window as instants. -/
theorem Delegation.checkEdges_ok_iff {d : Delegation} {now early late : T} {leeway : Int}
    (hearly : Moment.sub now leeway = .ok early) (hlate : Moment.add now leeway = .ok late) :
    d.checkEdges now leeway = .ok () ↔ d.InWindowBetween (Moment.us early) (Moment.us late) := by
  rw [checkEdges, hearly, hlate]
  simp only [bind_ok_iff, Except.ok.injEq, raiseIf_ok_iff, exists_eq_left']
  constructor
  · rintro ⟨_, hexp, hiss⟩
    exact ⟨not_le.mp hexp, not_lt.mp hiss⟩
  · rintro ⟨hexp, hiss⟩
    exact ⟨(), not_le.mpr hexp, not_lt.mpr hiss⟩

/-- A window that can be looked at fails with a `DelegationError` only. -/
theorem Delegation.checkWindow_error {d : Delegation} {now : T} {opts : VerifyOptions}
    (hopts : WindowChecked now opts) :
    Raises (fun e => e.cls = .delegationError) (d.checkWindow now opts) := by
  simp only [checkWindow]
  cases hc : opts.checkValidityWindow with
  | false => exact raises_ok ()
  | true =>
      obtain ⟨hl, ⟨early, hearly⟩, late, hlate⟩ := hopts hc
      rw [if_pos rfl, max_eq_right hl, checkEdges]
      refine (raises_of_ok hearly).bind fun _ _ => ?_
      refine Raises.bind (raises_raiseIf rfl) fun _ _ => ?_
      refine (raises_of_ok hlate).bind fun _ _ => ?_
      exact raises_raiseIf rfl

end Moments

/-- In UTC the window is looked at around `now` itself. -/
theorem Delegation.checkWindow_ok_iff {d : Delegation} {now : Datetime} {opts : VerifyOptions}
    (hopts : WindowChecked now opts) :
    d.checkWindow now opts = .ok () ↔
      (opts.checkValidityWindow = true → d.InWindow now (timedelta opts.leewaySeconds)) := by
  rw [checkWindow]
  cases hc : opts.checkValidityWindow with
  | false => simp
  | true =>
      obtain ⟨hl, ⟨early, hearly⟩, late, hlate⟩ := hopts hc
      have hus : Moment.us early = now.us - timedelta opts.leewaySeconds :=
        Datetime.ofMicros_us hearly
      have hus' : Moment.us late = now.us + timedelta opts.leewaySeconds :=
        Datetime.ofMicros_us hlate
      rw [if_pos rfl, max_eq_right hl, checkEdges_ok_iff hearly hlate, hus, hus']
      exact ⟨fun h _ => h, fun h => h rfl⟩

/-- The signature of a grant verifies under the key of its issuer's address. -/
def Delegation.Signed (H : Host) (d : Delegation) : Prop :=
  verifyByAddress H d.issuer contextDelegation d.payload (.str d.signature) = .ok ()

/-- Nothing is unrecognised when every critical name is understood. -/
theorem Delegation.unrecognized_eq_nil_iff {d : Delegation} {understood : List PyStr} :
    d.unrecognized understood = [] ↔ ∀ name ∈ d.critical, name ∈ understood := by
  simp [unrecognized, List.filter_eq_nil_iff]

/-- **WHAT A LINK CHECKS**: window (when asked), signature, criticality. -/
theorem Delegation.verify_ok_iff {T : Type} [Moment T] {H : Host} {d : Delegation} {now : T}
    {opts : VerifyOptions} :
    d.verify H now opts = .ok () ↔
      d.checkWindow now opts = .ok () ∧ d.Signed H ∧
        ∀ name ∈ d.critical, name ∈ opts.understoodExtensions := by
  rw [← unrecognized_eq_nil_iff, Signed, verify]
  simp only [bind_ok_iff, exceptRaise_ok_iff, raiseIf_ok_iff, not_not]
  constructor
  · rintro ⟨_, hw, _, hs, hc⟩
    exact ⟨hw, hs, hc⟩
  · rintro ⟨hw, hs, hc⟩
    exact ⟨(), hw, (), hs, hc⟩

/-- A link that fails raises `DelegationError`. -/
theorem Delegation.verify_error {T : Type} [Moment T] {H : Host} {d : Delegation} {now : T}
    {opts : VerifyOptions} (hopts : WindowChecked now opts) :
    Raises (fun e => e.cls = .delegationError) (d.verify H now opts) := by
  rw [verify]
  refine (checkWindow_error hopts).bind fun _ _ => ?_
  refine Raises.bind (raises_exceptRaise rfl) fun _ _ => ?_
  exact raises_raiseIf rfl

/-- **A VERIFIED LINK HAS A DIGEST**: the bytes and the signature were both readable. -/
theorem Delegation.digest_of_signed {H : Host} {d : Delegation} (h : d.Signed H) :
    ∃ digest, d.digest H = .ok digest := by
  obtain ⟨_, raw, message, -, hraw, hmessage, -⟩ := verifyByAddress_ok_iff.mp h
  exact ⟨_, bind_ok_iff.mpr ⟨message, hmessage, bind_ok_iff.mpr ⟨raw, hraw, rfl⟩⟩⟩

/-- A digest is hexadecimal. -/
theorem Delegation.isHex_digest {H : Host} {d : Delegation} {digest : PyStr}
    (h : d.digest H = .ok digest) : IsHex digest := by
  obtain ⟨_, -, h⟩ := bind_ok_iff.mp h
  obtain ⟨_, -, h⟩ := bind_ok_iff.mp h
  cases h
  exact isHex_hexdigest _

/-! ## A clock in UTC -/

variable {H : Host} {opts : VerifyOptions}

/-- A clock on the wall that shows UTC gives the verdict of its instant: its edges, -/
theorem Delegation.checkEdges_aware (d : Delegation) (now : Datetime) (leeway : Int) :
    d.checkEdges (aware now) leeway = d.checkEdges now leeway := by
  have hsub : Moment.sub (aware now) leeway = aware <$> Moment.sub now leeway := aware_sub now leeway
  have hadd : Moment.add (aware now) leeway = aware <$> Moment.add now leeway := aware_add now leeway
  have hus : ∀ t : Datetime, Moment.us (aware t) = Moment.us t := aware_instant
  rw [checkEdges, checkEdges, hsub, hadd, map_eq_pure_bind, map_eq_pure_bind, bind_assoc]
  simp only [bind_assoc, pure_bind, hus]

/-- a link, -/
theorem Delegation.verify_aware (d : Delegation) (now : Datetime) :
    d.verify H (aware now) opts = d.verify H now opts := by
  rw [verify, verify, checkWindow, checkWindow, checkEdges_aware]

/-- In UTC the loop is the loop over instants. -/
theorem verifyLinks_aware (now : Datetime) {revoked revokedKeys : Finset PyStr} (i : ℕ)
    (previous : Option Delegation) (effective : Option (Finset PyStr)) (links : List Delegation) :
    verifyLinks H (aware now) opts revoked revokedKeys i previous effective links
      = verifyLinks H now opts revoked revokedKeys i previous effective links := by
  induction links generalizing i previous effective with
  | nil => rfl
  | cons link links ih => simp only [verifyLinks, Delegation.verify_aware, ih]

/-- and a chain. -/
theorem DelegationChain.verify_aware (chain : DelegationChain) (agent : PyStr) (now : Datetime)
    (revoked revokedKeys : Finset PyStr) :
    chain.verify H agent (aware now) revoked revokedKeys opts
      = chain.verify H agent now revoked revokedKeys opts := by
  rw [verify, verify]
  cases chain.links.getLast? with
  | none => rfl
  | some last => simp only [verifyLinks_aware]

/-! ## A grant of the ideal service -/

theorem nothing_shadows : ∀ k ∈ ([] : Members).map Prod.fst, k ∉ delegationFields :=
  fun _ hk => absurd hk List.not_mem_nil

theorem nothing_critical : ∀ name ∈ ([] : List PyStr), name ∈ ([] : Members).map Prod.fst :=
  fun _ hname => absurd hname List.not_mem_nil

/-- A grant without extensions, valid for the first hour of year 1. -/
def plainGrant (issuer subject : UInt8) : Delegation where
  issuer := constAddress issuer
  subject := constAddress subject
  scopes := {py "read"}
  issuedAt := .zero
  expiresAt := ⟨3600000, by decide⟩
  signature := idealSignature
  critical := []
  extra := []
  extra_nodup := List.nodup_nil
  extra_shadows_nothing := nothing_shadows
  critical_present := nothing_critical

/-- An array of ASCII strings is ASCII. -/
theorem asciiJson_strs {names : List PyStr} (h : ∀ name ∈ names, IsAscii name) :
    AsciiJson (strs names) := by
  refine .arr fun v hv => ?_
  obtain ⟨name, hname, rfl⟩ := List.mem_map.mp hv
  exact .str (h name hname)

/-- Every member of a grant like the plain one is ASCII, whatever follows them. -/
theorem asciiJson_grantMembers (issuer subject : UInt8) {scopes : Finset PyStr}
    (hscopes : ∀ s ∈ scopes, IsAscii s) {issuedAt expiresAt : Timestamp} {rest : Members}
    (hrest : AsciiJson (.obj rest)) :
    AsciiJson (.obj ((py "issuer", .str (constAddress issuer))
      :: (py "subject", .str (constAddress subject)) :: (py "scopes", strs (sortedScopes scopes))
      :: (py "issued_at", .str (canonicalTimestamp issuedAt))
      :: (py "expires_at", .str (canonicalTimestamp expiresAt)) :: rest)) := by
  have hsorted : AsciiJson (strs (sortedScopes scopes)) :=
    asciiJson_strs fun name hname => hscopes name ((Finset.mem_sort _).mp hname)
  refine .obj_cons (by decide) (.str (isAscii_constAddress issuer)) ?_
  refine .obj_cons (by decide) (.str (isAscii_constAddress subject)) ?_
  refine .obj_cons (by decide) hsorted ?_
  refine .obj_cons (by decide) (asciiJson_timestamp _) ?_
  exact .obj_cons (by decide) (asciiJson_timestamp _) hrest

theorem isAscii_plainScopes : ∀ s ∈ ({py "read"} : Finset PyStr), IsAscii s := by
  intro s hs
  rw [Finset.mem_singleton.mp hs]
  decide

/-- The sample grant is ASCII, signed and on the wire. -/
theorem asciiJson_plainGrant (issuer subject : UInt8) :
    AsciiJson (plainGrant issuer subject).payload ∧
      AsciiJson (plainGrant issuer subject).modelDump :=
  ⟨asciiJson_grantMembers issuer subject isAscii_plainScopes .obj_nil,
    asciiJson_grantMembers issuer subject isAscii_plainScopes
      (.obj_cons (by decide) (.str isAscii_idealSignature) .obj_nil)⟩

/-- A grant the issuer signed carries a signature that verifies. -/
theorem plainGrant_signed {signs : Bytes → Bytes → Bool} {issuer subject : UInt8}
    (h : ∀ message, signingInput (idealHost signs) contextDelegation
        (plainGrant issuer subject).payload = .ok message →
      signs (constKey issuer) message = true) :
    (plainGrant issuer subject).Signed (idealHost signs) :=
  verifyByAddress_idealHost (signingKey_constAddress issuer) (by decide)
    (asciiJson_plainGrant issuer subject).1 h

/-- A moment at which plain grants are valid. -/
def plainNow : Datetime := ⟨1000000, by decide, by decide⟩

/-- The sample moment is in the window of the sample grant. -/
theorem plainGrant_inWindow (issuer subject : UInt8) :
    (plainGrant issuer subject).InWindow plainNow (timedelta 0) := by
  rw [timedelta_zero]
  show (1000000 : Int) - 0 < 3600000 * 1000 ∧ (0 : Int) * 1000 ≤ 1000000 + 0
  omega

theorem windowChecked_plainNow : WindowChecked plainNow {} := by
  intro _
  rw [timedelta_zero]
  exact ⟨le_rfl, ⟨plainNow, by decide⟩, plainNow, by decide⟩

/-- The sample grant verifies at the sample moment, if it is signed. -/
theorem plainGrant_verify {H : Host} {issuer subject : UInt8}
    (h : (plainGrant issuer subject).Signed H) :
    (plainGrant issuer subject).verify H plainNow {} = .ok () :=
  Delegation.verify_ok_iff.mpr
    ⟨(Delegation.checkWindow_ok_iff windowChecked_plainNow).mpr fun _ =>
      plainGrant_inWindow issuer subject, h, fun _ hname => absurd hname List.not_mem_nil⟩

end AgentDelegation
