import AgentId.ChainVerdict
import AgentId.Device
import AgentId.TsAlike

/-!
# Grants and chains checked in TypeScript (`delegation.ts`)

`Delegation.verify` of `delegation.ts` looks at the critical names before the window, and for one it
does not understand throws `SignatureError` where Python raises `DelegationError`.  Its arithmetic is
that of doubles.  For a chain that both packages hold alike none of this changes the verdict.

* **`agree_verify`** — one grant is accepted by both packages, or by neither.
* **`agree_chain`** — a chain has the same effective scopes in both, or is refused by both.
-/

namespace AgentTsVerdict

open AgentHalfEven AgentDouble AgentLockstep AgentRaises AgentPy AgentBase58 AgentJson AgentCanonicalText
  AgentNormalization AgentJsonRender AgentSigning AgentSerde AgentSignedText AgentDelegation
  AgentChainVerdict AgentRotationText AgentUtf16 AgentTsCanonical AgentTsSigning AgentTsDelegation AgentTsDate
  AgentTsDigest AgentCards AgentTsCards AgentTsWire AgentTsAlike

/-! ## `Delegation.verify` -/

/-- The options of the two `verify` methods. -/
structure TsVerifyOptions where
  checkValidityWindow : Bool := true
  leewaySeconds : ℚ := 0
  understoodExtensions : List PyStr := []

/-- The window of `Delegation.verify`, tolerating clock skew on both edges. -/
def JsDelegation.checkWindow (t : JsDelegation) (now : JsDate) (opts : TsVerifyOptions) :
    Ts Unit :=
  if opts.checkValidityWindow then do
    let leewayMs := double (max 0 opts.leewaySeconds * 1000)
    throwAsIf ((t.expiresAt.time : ℚ) ≤ double (now.time - leewayMs)) .delegationError
      ["delegation from ", t.issuer, " expired at ", t.expiresAt.toISOString]
    throwAsIf (double (now.time + leewayMs) < (t.issuedAt.time : ℚ)) .delegationError
      ["delegation issued in the future"]
  else .ok ()

def JsDelegation.verify (H : Host) (t : JsDelegation) (now : JsDate) (opts : TsVerifyOptions) :
    Ts Unit := do
  ofJs (enforceCritical t.critical tsDelegationKnownFields opts.understoodExtensions)
  JsDelegation.checkWindow t now opts
  catchAs (tsVerifyByAddress H t.issuer contextDelegation (.object t.payload)
      (.string t.signature)) .delegationError
    ["invalid delegation signature from ", t.issuer]

/-! ## `DelegationChain.verify` -/

/-- `DelegationChain` of `delegation.ts` -/
structure TsDelegationChain where
  links : List JsDelegation

/-- The adjacency check of link `i`, made when `i > 0`. -/
def tsCheckAdjacent (i : ℕ) (previous : Option JsDelegation) (link : JsDelegation) : Ts Unit :=
  match previous with
  | none => .ok ()
  | some p => throwAsIf (link.issuer ≠ p.subject) .delegationError
      ["broken chain: link ", .int i, " issued by ", link.issuer, ", expected ", p.subject]

/-- `new Set(kept)` -/
def tsNarrow (effective : Option (List PyStr)) (scopes : List PyStr) : List PyStr :=
  match effective with
  | none => setOf scopes
  | some e => setOf (e.filter (· ∈ scopes))

/-- The loop of `verify`. -/
def tsVerifyLinks (H : Host) (now : JsDate) (opts : TsVerifyOptions)
    (revoked revokedKeys : List PyStr) :
    ℕ → Option JsDelegation → Option (List PyStr) → List JsDelegation → Ts (Option (List PyStr))
  | _, _, effective, [] => .ok effective
  | i, previous, effective, link :: links => do
      JsDelegation.verify H link now opts
      let digest ← ofJs (link.digest H)
      throwAsIf (digest ∈ revoked) .delegationError
        ["delegation from ", link.issuer, " to ", link.subject, " has been revoked"]
      throwAsIf (link.issuer ∈ revokedKeys ∨ link.subject ∈ revokedKeys) .delegationError
        ["delegation touches revoked identity key (",
          if link.issuer ∈ revokedKeys then link.issuer else link.subject, ")"]
      tsCheckAdjacent i previous link
      tsVerifyLinks H now opts revoked revokedKeys (i + 1) (some link)
        (some (tsNarrow effective link.scopes)) links

def TsDelegationChain.verify (H : Host) (chain : TsDelegationChain) (agentAddress : PyStr)
    (now : JsDate) (revoked revokedKeys : List PyStr) (opts : TsVerifyOptions) :
    Ts (List PyStr) :=
  match chain.links.getLast? with
  | none => .ok []
  | some last => do
      let effective ← tsVerifyLinks H now opts revoked revokedKeys 0 none none chain.links
      throwAsIf (last.subject ≠ agentAddress) .delegationError
        ["chain terminates at ", last.subject, ", not agent ", agentAddress]
      .ok (effective.getD [])

/-- `rootIssuer` -/
def TsDelegationChain.rootIssuer (chain : TsDelegationChain) : Option PyStr :=
  chain.links.head?.map JsDelegation.issuer

theorem raises_throwAsIf {p : TsError → Prop} {bad : Prop} [Decidable bad] {cls : TsErrorClass}
    {message : List Part} (h : p ⟨cls, message⟩) : Raises p (throwAsIf bad cls message) := by
  rw [throwAsIf]
  split_ifs
  · exact raises_error_iff.mpr h
  · exact raises_ok ()

/-! ## One grant in both packages -/

/-- The TypeScript grant holds the fields of the Python one, and signs the same text. -/
structure Twin (nfc : PyStr → PyStr) (d : Delegation) (t : JsDelegation) : Prop where
  issuer : t.issuer = d.issuer
  subject : t.subject = d.subject
  scopes : t.scopes.toFinset = d.scopes
  issuedAt : t.issuedAt = toDate d.issuedAt
  expiresAt : t.expiresAt = toDate d.expiresAt
  critical : t.critical.getD [] = d.critical
  signature : t.signature = d.signature
  payload : Alike nfc d.payload (.object t.payload)

theorem GrantStrings.imp {P Q : PyStr → Prop} (h : ∀ s, P s → Q s) {issuer subject : PyStr}
    {scopes : List PyStr} {extra : List (PyStr × JsonValue)}
    (G : GrantStrings P issuer subject scopes extra) : GrantStrings Q issuer subject scopes extra :=
  ⟨h _ G.issuer, h _ G.subject, fun s hs => h s (G.scopes s hs), G.extra.imp h⟩

/-- **CONSTRUCTORS GIVEN THE SAME FIELDS** build such grants, if both packages write the fields
    alike. -/
theorem twin_of_built {nfc : PyStr → PyStr} {issuer subject signature : PyStr}
    {scopes : List PyStr} {issuedAt expiresAt : Timestamp} {critical : Option (List PyStr)}
    {extra : List (PyStr × JsonValue)} {d : Delegation} {t : TsDelegation}
    (B : BuiltFrom issuer subject scopes issuedAt expiresAt critical signature extra d t)
    (hwritten : WrittenAlike scopes critical extra) (haccepted : ∀ m ∈ extra, Accepted m.2)
    (hspelled : GrantStrings (SpelledAlike nfc) issuer subject scopes extra) :
    Twin nfc d (dated t) := by
  obtain ⟨_, _, _, hd⟩ := Delegation.postInit_ok B.python
  obtain ⟨_, _, ht⟩ := TsDelegation.construct_ok B.typescript
  have hscalar := GrantStrings.imp (fun _ h => h.1) hspelled
  have hstands := GrantStrings.imp (fun _ h => h.2) hspelled
  obtain ⟨known, hpayload, hknown, -⟩ := B.ts_payload
  have haccepted' : Accepted (.object t.payload) := by
    rw [hpayload]
    refine .object (List.forall_mem_append.mpr ⟨hknown, fun m hm => ?_⟩)
    exact haccepted m (List.mem_filter.mp hm).1
  have hpayload_dated := payload_dated t
  refine ⟨?_, ?_, ?_, ?_, ?_, ?_, ?_, ?_⟩
  · rw [dated, ht, hd]
  · rw [dated, ht, hd]
  · rw [dated, ht, hd]
    ext s
    rw [List.mem_toFinset, List.mem_toFinset]
    exact mem_setOf
  · rw [dated, ht, hd]
  · rw [dated, ht, hd]
  · rw [dated, ht, hd]
  · rw [dated, ht, hd]
  · rw [hpayload_dated]
    exact ⟨(B.payload_eq hscalar.scopes hwritten).symm, haccepted',
      (B.allStrings_iff fun _ => isScalar_of_plain).mpr hscalar,
      (B.allStrings_iff fun _ => escapesStand_of_plain).mpr hstands⟩

/-! ## One moment, one set of options -/

/-- The clocks show one moment, which TypeScript reads to the millisecond. -/
def SameMoment (now : Datetime) (now' : JsDate) : Prop := now'.sinceYearOne = now.us / 1000

/-- The moment, less the leeway or more, is in the years Python's clock counts. -/
def EdgesInRange (now : Datetime) (leewaySeconds : ℚ) : Prop :=
  (∃ early, now.sub (timedelta (max 0 leewaySeconds)) = .ok early) ∧
    ∃ late, now.add (timedelta (max 0 leewaySeconds)) = .ok late

/-- The same options at the same moment, if it matters; the leeway is of whole seconds, which doubles
    add exactly. -/
structure SameSettings (now : Datetime) (opts : VerifyOptions) (now' : JsDate)
    (opts' : TsVerifyOptions) : Prop where
  checkValidityWindow : opts'.checkValidityWindow = opts.checkValidityWindow
  leeway : ∃ n : ℤ, opts.leewaySeconds = n ∧ opts'.leewaySeconds = n
  understood : ∀ name, name ∈ opts'.understoodExtensions ↔ name ∈ opts.understoodExtensions
  moment : opts.checkValidityWindow = true → SameMoment now now'
  inRange : opts.checkValidityWindow = true → EdgesInRange now opts.leewaySeconds

/-- Python raises `DelegationError`; TypeScript throws its own, or `SignatureError` for a critical
    name it does not understand. -/
def Refused (e : PyError) (e' : TsError) : Prop :=
  e.cls = .delegationError ∧ (e'.cls = .delegationError ∨ e'.cls = .codec .signatureError)

theorem refused_delegationError (message message' : List Part) :
    Refused ⟨.delegationError, message⟩ ⟨.delegationError, message'⟩ :=
  ⟨rfl, Or.inl rfl⟩

/-- Guards that refuse a grant or a chain. -/
theorem refused_guard {bad bad' : Prop} [Decidable bad] [Decidable bad'] (h : bad ↔ bad')
    {message message' : List Part} :
    Agree Refused Eq (raiseIf bad .delegationError message)
      (throwAsIf bad' .delegationError message') :=
  agree_guard h (refused_delegationError _ _)

variable {H : Host} {now : Datetime} {now' : JsDate} {opts : VerifyOptions}
  {opts' : TsVerifyOptions} {d : Delegation} {t : JsDelegation}

/-- Sums of a moment with a leeway that leads out of no year are exact. -/
theorem double_edges (time leeway : ℤ) (hpos : 0 ≤ leeway) (hlow : 0 ≤ time - leeway * 1000)
    (hhigh : time + leeway * 1000 < 3652059 * 86400000) :
    double ((leeway : ℚ) * 1000) = ((leeway * 1000 : ℤ) : ℚ) ∧
      double (((time - unixEpoch : ℤ) : ℚ) - ((leeway * 1000 : ℤ) : ℚ))
        = ((time - unixEpoch - leeway * 1000 : ℤ) : ℚ) ∧
      double (((time - unixEpoch : ℤ) : ℚ) + ((leeway * 1000 : ℤ) : ℚ))
        = ((time - unixEpoch + leeway * 1000 : ℤ) : ℚ) := by
  refine ⟨?_, ?_, ?_⟩
  · rw [← double_intCast (n := leeway * 1000) (by omega)]
    push_cast
    rfl
  · rw [← Int.cast_sub, double_intCast]
    simp only [unixEpoch]
    omega
  · rw [← Int.cast_add, double_intCast]
    simp only [unixEpoch]
    omega

/-- **BOTH EDGES OF THE WINDOW** are the same to the millisecond. -/
theorem checkWindow_alike (S : SameSettings now opts now' opts') (T : Twin H.nfc d t) :
    d.checkWindow now opts = .ok () ↔ JsDelegation.checkWindow t now' opts' = .ok () := by
  rw [Delegation.checkWindow, JsDelegation.checkWindow, S.checkValidityWindow]
  cases hcheck : opts.checkValidityWindow with
  | false => simp only [Bool.false_eq_true, if_false]
  | true =>
      obtain ⟨⟨early, hearly⟩, late, hlate⟩ := S.inRange hcheck
      obtain ⟨n, hn, hn'⟩ := S.leeway
      have hmax : max 0 opts.leewaySeconds = ((max 0 n : ℤ) : ℚ) := by rw [hn]; push_cast; rfl
      have hmax' : max 0 opts'.leewaySeconds = ((max 0 n : ℤ) : ℚ) := by rw [hn']; push_cast; rfl
      have hpos : 0 ≤ max 0 n := le_max_left 0 n
      rw [hmax, hmax', timedelta_intCast]
      rw [hmax, timedelta_intCast] at hearly hlate
      generalize max 0 n = leeway at *
      have hearly_us : early.us = now.us - leeway * 1000000 := Datetime.ofMicros_us hearly
      have hlate_us : late.us = now.us + leeway * 1000000 := Datetime.ofMicros_us hlate
      have hlow := early.us_nonneg
      have hhigh := late.us_lt
      simp only [maxMicros] at hhigh
      have htime : now'.time = now.us / 1000 - unixEpoch := by
        have := S.moment hcheck
        rw [SameMoment, JsDate.sinceYearOne] at this
        omega
      obtain ⟨hms, hsub, hadd⟩ := double_edges (now.us / 1000) leeway hpos (by omega) (by omega)
      rw [if_pos rfl, if_pos rfl, Delegation.checkEdges_ok_iff hearly hlate, htime, hms]
      show early.us < _ ∧ _ ≤ late.us ↔ _
      simp only [hsub, hadd, Int.cast_le, Int.cast_lt, bind_ok_iff, throwAsIf_ok_iff, T.issuedAt,
        T.expiresAt, hearly_us, hlate_us, toDate, Timestamp.us]
      constructor
      · rintro ⟨hexpired, hfuture⟩
        exact ⟨(), by omega, by omega⟩
      · rintro ⟨_, hexpired, hfuture⟩
        exact ⟨by omega, by omega⟩

/-! ## The verdict on a grant -/

/-- A critical name is one of an extension, so a field of the grant is none. -/
theorem enforceCritical_alike (S : SameSettings now opts now' opts') (T : Twin H.nfc d t) :
    enforceCritical t.critical tsDelegationKnownFields opts'.understoodExtensions = .ok () ↔
      ∀ name ∈ d.critical, name ∈ opts.understoodExtensions := by
  rw [enforceCritical, throwIf_ok_iff, not_not, List.filter_eq_nil_iff, T.critical]
  refine forall₂_congr fun name hname => ?_
  have hunknown : name ∉ tsDelegationKnownFields := by
    have hfresh := d.extra_shadows_nothing name (d.critical_present name hname)
    have hsub : ∀ k ∈ tsDelegationKnownFields, k ∈ delegationFields := by decide
    exact fun h => hfresh (hsub name h)
  have hcritical : name ≠ py "critical" := fun h => hunknown (h ▸ by decide)
  rw [decide_eq_true_iff, not_not, List.mem_append, List.mem_append, List.mem_singleton,
    S.understood]
  constructor
  · rintro ((h | h) | h)
    · exact absurd h hunknown
    · exact h
    · exact absurd h hcritical
  · exact fun h => Or.inl (Or.inr h)

theorem JsDelegation.verify_ok_iff :
    JsDelegation.verify H t now' opts' = .ok () ↔
      enforceCritical t.critical tsDelegationKnownFields opts'.understoodExtensions = .ok () ∧
        JsDelegation.checkWindow t now' opts' = .ok () ∧
        tsVerifyByAddress H t.issuer contextDelegation (.object t.payload) (.string t.signature)
          = .ok () := by
  rw [JsDelegation.verify, seq_ok_iff, seq_ok_iff, ofJs_ok_iff, catchAs_ok_iff]

/-- The two classes a grant is refused with. -/
theorem JsDelegation.verify_error :
    Raises (fun e => e.cls = .delegationError ∨ e.cls = .codec .signatureError)
      (JsDelegation.verify H t now' opts') := by
  rw [JsDelegation.verify]
  refine Raises.bind ?_ fun _ _ => Raises.bind ?_ fun _ _ => ?_
  · rw [enforceCritical, throwIf]
    split_ifs
    · exact raises_error_iff.mpr (Or.inr rfl)
    · exact raises_ok ()
  · rw [JsDelegation.checkWindow]
    split_ifs
    · exact Raises.bind (raises_throwAsIf (Or.inl rfl)) fun _ _ => raises_throwAsIf (Or.inl rfl)
    · exact raises_ok ()
  · cases tsVerifyByAddress H t.issuer contextDelegation (.object t.payload) (.string t.signature) with
    | ok u => exact raises_ok u
    | error e => exact raises_error_iff.mpr (Or.inl rfl)

/-- Without an overflow Python refuses with `DelegationError`. -/
theorem verify_error_of_range
    (hrange : opts.checkValidityWindow = true → EdgesInRange now opts.leewaySeconds) :
    Raises (fun e => e.cls = .delegationError) (d.verify H now opts) := by
  rw [Delegation.verify]
  refine Raises.bind ?_ fun _ _ => ?_
  · rw [Delegation.checkWindow]
    split_ifs with hcheck
    · obtain ⟨⟨early, hearly⟩, late, hlate⟩ := hrange hcheck
      rw [Delegation.checkEdges]
      refine (raises_of_ok hearly).bind fun _ _ => ?_
      refine Raises.bind (raises_raiseIf rfl) fun _ _ => ?_
      refine (raises_of_ok hlate).bind fun _ _ => ?_
      exact raises_raiseIf rfl
    · exact raises_ok ()
  · exact Raises.bind (raises_exceptRaise rfl) fun _ _ => raises_raiseIf rfl

/-- **ONE GRANT, ONE VERDICT**: accepted by both packages, or refused by both. -/
theorem agree_verify (N : NfcText H.nfc) (S : SameSettings now opts now' opts')
    (T : Twin H.nfc d t) :
    Agree Refused Eq (d.verify H now opts) (JsDelegation.verify H t now' opts') := by
  refine agree_of_ok_iff (fun _ => ?_) fun e e' he he' =>
    ⟨verify_error_of_range S.inRange he, JsDelegation.verify_error he'⟩
  rw [Delegation.verify_ok_iff, JsDelegation.verify_ok_iff, enforceCritical_alike S T,
    checkWindow_alike S T, Delegation.Signed, T.issuer, T.signature,
    tsVerifyByAddress_alike N (by decide) fun _ _ => T.payload]
  constructor
  · rintro ⟨hwindow, hsigned, hcritical⟩
    exact ⟨hcritical, hwindow, hsigned⟩
  · rintro ⟨hcritical, hwindow, hsigned⟩
    exact ⟨hwindow, hsigned, hcritical⟩

/-! ## The verdict on a chain -/

/-- Both packages name a grant by one digest. -/
theorem Twin.digest (N : NfcText H.nfc) (T : Twin H.nfc d t) (digest : PyStr) :
    d.digest H = .ok digest ↔ t.digest H = .ok digest := by
  obtain ⟨message, hpy, hts⟩ := T.payload.same_message N (by decide : IsContext contextDelegation)
  rw [Delegation.digest, JsDelegation.digest, hpy, hts, T.signature, bind_ok_iff, bind_ok_iff]
  simp only [bind_ok_iff, tsDecodeSignature_ok_iff, Except.ok.injEq]

/-- A grant that verified has a digest in both packages. -/
theorem agree_digest (N : NfcText H.nfc) (T : Twin H.nfc d t)
    (hverified : d.verify H now opts = .ok ()) :
    Agree Refused Eq (d.digest H) (ofJs (t.digest H)) := by
  obtain ⟨digest, hdigest⟩ := Delegation.digest_of_signed (Delegation.verify_ok_iff.mp hverified).2.1
  rw [hdigest, (T.digest N digest).mp hdigest]
  exact .ok rfl

/-- The running intersections hold the same scopes. -/
def SameScopes (effective : Option (Finset PyStr)) (effective' : Option (List PyStr)) : Prop :=
  effective'.map List.toFinset = effective

theorem sameScopes_narrow {effective : Option (Finset PyStr)} {effective' : Option (List PyStr)}
    (h : SameScopes effective effective') (T : Twin H.nfc d t) :
    SameScopes (some (narrow effective d.scopes)) (some (tsNarrow effective' t.scopes)) := by
  rw [SameScopes] at h
  subst h
  rw [SameScopes, Option.map_some, Option.some_inj, ← T.scopes]
  ext s
  cases effective' with
  | none =>
      rw [Option.map_none, narrow, tsNarrow, List.mem_toFinset, List.mem_toFinset, mem_setOf]
  | some e =>
      rw [Option.map_some, narrow, tsNarrow, List.mem_toFinset, mem_setOf, List.mem_filter,
        Finset.mem_inter, List.mem_toFinset, List.mem_toFinset, decide_eq_true_iff]

/-- What both packages are told of recalls. -/
structure SameRecalls (revoked revokedKeys : Finset PyStr) (revoked' revokedKeys' : List PyStr) :
    Prop where
  digests : ∀ x, x ∈ revoked' ↔ x ∈ revoked
  keys : ∀ x, x ∈ revokedKeys' ↔ x ∈ revokedKeys

variable {revoked revokedKeys : Finset PyStr} {revoked' revokedKeys' : List PyStr}

theorem agree_adjacent {i : ℕ} {previous : Option Delegation} {previous' : Option JsDelegation}
    (hprevious : Option.Rel (Twin H.nfc) previous previous') (T : Twin H.nfc d t) :
    Agree Refused Eq (checkAdjacent i previous d) (tsCheckAdjacent i previous' t) := by
  cases hprevious with
  | none => exact .ok rfl
  | some P =>
      rw [checkAdjacent, tsCheckAdjacent]
      exact refused_guard (by rw [T.issuer, P.subject])

/-- **THE LOOP**, link by link. -/
theorem agree_verifyLinks (N : NfcText H.nfc) (S : SameSettings now opts now' opts')
    (hrecalls : SameRecalls revoked revokedKeys revoked' revokedKeys')
    {links : List Delegation} {links' : List JsDelegation}
    (hlinks : List.Forall₂ (Twin H.nfc) links links') {i : ℕ} {previous : Option Delegation}
    {previous' : Option JsDelegation} (hprevious : Option.Rel (Twin H.nfc) previous previous')
    {effective : Option (Finset PyStr)} {effective' : Option (List PyStr)}
    (heffective : SameScopes effective effective') :
    Agree Refused SameScopes
      (verifyLinks H now opts revoked revokedKeys i previous effective links)
      (tsVerifyLinks H now' opts' revoked' revokedKeys' i previous' effective' links') := by
  induction hlinks generalizing i previous previous' effective effective' with
  | nil => exact .ok heffective
  | @cons d t links links' T _ ih =>
      refine Agree.bind (agree_verify N S T) fun _ _ hverified _ _ => ?_
      refine Agree.bind (agree_digest N T hverified) ?_
      rintro digest _ - - rfl
      refine Agree.bind (refused_guard (hrecalls.digests digest).symm) fun _ _ _ _ _ => ?_
      refine Agree.bind (refused_guard ?_) fun _ _ _ _ _ => ?_
      · rw [T.issuer, T.subject, hrecalls.keys, hrecalls.keys]
      refine Agree.bind (agree_adjacent hprevious T) fun _ _ _ _ _ => ?_
      exact ih (.some T) (sameScopes_narrow heffective T)

/-- **ONE CHAIN, ONE VERDICT**, of links that both packages hold alike. -/
theorem agree_chain (N : NfcText H.nfc) (S : SameSettings now opts now' opts')
    (hrecalls : SameRecalls revoked revokedKeys revoked' revokedKeys') {links : List Delegation}
    {links' : List JsDelegation} (hlinks : List.Forall₂ (Twin H.nfc) links links')
    (agentAddress : PyStr) :
    Agree Refused (fun scopes scopes' => scopes'.toFinset = scopes)
      (DelegationChain.verify H ⟨links⟩ agentAddress now revoked revokedKeys opts)
      (TsDelegationChain.verify H ⟨links'⟩ agentAddress now' revoked' revokedKeys' opts') := by
  have hlast := rel_getLast? hlinks
  rw [DelegationChain.verify, TsDelegationChain.verify]
  generalize links.getLast? = last at hlast
  generalize links'.getLast? = last' at hlast
  cases hlast with
  | none => exact .ok rfl
  | some T =>
      refine Agree.bind (agree_verifyLinks N S hrecalls hlinks .none rfl) ?_
      rintro effective effective' - - heffective
      refine Agree.bind (refused_guard (by rw [T.subject])) fun _ _ _ _ _ => ?_
      refine .ok ?_
      rw [SameScopes] at heffective
      subst heffective
      cases effective' with
      | none => rfl
      | some e => rfl

theorem spelledAlike_timestamp {nfc : PyStr → PyStr} (t : Timestamp) :
    SpelledAlike nfc (canonicalTimestamp t) :=
  spelledAlike_of_plain (isPlain_canonicalTimestamp t)

end AgentTsVerdict
