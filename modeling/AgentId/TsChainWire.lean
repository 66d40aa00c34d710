import AgentId.TsProof
import AgentId.TsRecall
import AgentId.WireForm

/-!
# Chains between the packages (`delegation.ts`)

How `delegation.ts` reads the grants and the chains that `delegation.py` writes.

* **`grant_read`** — a grant of Python is read in TypeScript, and both sign the same text.
* **`chains_travel`** — a chain is read, gets the verdict it gets in Python, and comes back.
-/

namespace AgentTsChainWire

open AgentDict AgentLockstep AgentPy AgentBase58 AgentJson AgentCanonicalText AgentNormalization
  AgentJsonRender AgentSigning AgentSerde AgentSignedText AgentIsoText AgentDelegation
  AgentWireForm AgentUtf16 AgentTsCanonical AgentTsSigning AgentTsTimestamp AgentTsDelegation AgentTsDate
  AgentTsDigest AgentCards AgentTsCards AgentTsWire AgentTsAlike AgentTsVerdict AgentTsRecall
  AgentTsProof

/-! ## Reading -/

/-- The constructor, on fields of their declared types. -/
def JsDelegation.construct (issuer subject : PyStr) (scopes : List PyStr)
    (issuedAt expiresAt : JsDate) (critical : Option (List PyStr)) (signature : PyStr)
    (extra : List (PyStr × JsonValue)) : Js JsDelegation :=
  let names := extra.map Prod.fst
  if hshadow : ∀ k ∈ names, k ∉ tsDelegationKnownFields then
    if hdangling : ∀ name ∈ critical.getD [], isIn name extra then
      .ok ⟨issuer, subject, setOf scopes, issuedAt, expiresAt, critical, signature, extra, hshadow,
        hdangling⟩
    else throwNew .error
      ["critical names extension fields not present on the delegation: ",
        .str (joined ((critical.getD []).filter fun name => ¬ isIn name extra))]
  else throwNew .error
    ["extra must not shadow known delegation fields: ",
      .str (joined (names.filter (· ∈ tsDelegationKnownFields)))]

def JsDelegation.fromJSON : JsonValue → Js JsDelegation
  | .object record => do
      let critical ← parseCritical (record.lookup (py "critical"))
      let issuer ← requireString (py "issuer") (record.lookup (py "issuer"))
      let subject ← requireString (py "subject") (record.lookup (py "subject"))
      let scopes ← scopeStrings (coalesce (record.lookup (py "scopes")) (.array []))
      let issuedAt ← parseDateField (py "issued_at") (.value (record.lookup (py "issued_at")))
      let expiresAt ← parseDateField (py "expires_at") (.value (record.lookup (py "expires_at")))
      let signature ← declaredString (py "signature")
        (coalesce (record.lookup (py "signature")) (.string []))
      JsDelegation.construct issuer subject scopes issuedAt expiresAt critical signature
        (collectExtra tsDelegationKnownFields record)
  | .null => throwNew .typeError ["cannot convert undefined or null to object"]
  -- the properties of any other value do not include an issuer
  | _ => throwNew .typeError [.str (py "issuer"), " must be a string, got undefined"]

/-- `DelegationChain.fromJSON` -/
def TsDelegationChain.fromJSON : JsonValue → Js TsDelegationChain
  | .null => throwNew .typeError ["cannot read properties of null"]
  | .object record => do
      let items ← spreadArray (coalesce (record.lookup (py "links")) (.array []))
      let links ← items.mapM JsDelegation.fromJSON
      .ok ⟨links⟩
  -- no other value has links
  | _ => .ok ⟨[]⟩

/-- A timestamp in the years of Python's calendar is read as its date. -/
theorem parseDateField_of_timestamp {name : PyStr} {v : Option JsonValue} {t : Timestamp}
    (h : tsParseTimestamp name v = .ok t) : parseDateField name (.value v) = .ok (toDate t) := by
  cases v with
  | none => cases h
  | some v =>
      cases v with
      | string s =>
          cases hm : offsetRe s with
          | none =>
              rw [tsParseTimestamp, hm] at h
              cases h
          | some m =>
              obtain ⟨d, hd, hsince⟩ := (tsParseTimestamp_ok_iff hm).mp h
              rw [JsDate.sinceYearOne] at hsince
              have hdate : d = toDate t := by
                rw [toDate, JsDate.mk.injEq]
                omega
              rw [parseDateField, hd, hdate]
      | _ => cases h

/-- And a grant whose dates are such is read with its dates. -/
theorem fromJSON_dated {v : JsonValue} {t : TsDelegation} (h : TsDelegation.fromJSON v = .ok t) :
    JsDelegation.fromJSON v = .ok (dated t) := by
  cases v with
  | object record =>
      obtain ⟨critical, hcritical, h⟩ := bind_ok_iff.mp h
      obtain ⟨issuer, hissuer, h⟩ := bind_ok_iff.mp h
      obtain ⟨subject, hsubject, h⟩ := bind_ok_iff.mp h
      obtain ⟨scopes, hscopes, h⟩ := bind_ok_iff.mp h
      obtain ⟨issuedAt, hissued, h⟩ := bind_ok_iff.mp h
      obtain ⟨expiresAt, hexpires, h⟩ := bind_ok_iff.mp h
      obtain ⟨signature, hsignature, h⟩ := bind_ok_iff.mp h
      obtain ⟨hshadow, hdangling, rfl⟩ := TsDelegation.construct_ok h
      refine bind_ok_iff.mpr ⟨critical, hcritical, bind_ok_iff.mpr ⟨issuer, hissuer, ?_⟩⟩
      refine bind_ok_iff.mpr ⟨subject, hsubject, bind_ok_iff.mpr ⟨scopes, hscopes, ?_⟩⟩
      refine bind_ok_iff.mpr ⟨_, parseDateField_of_timestamp hissued, ?_⟩
      refine bind_ok_iff.mpr ⟨_, parseDateField_of_timestamp hexpires, ?_⟩
      refine bind_ok_iff.mpr ⟨signature, hsignature, ?_⟩
      rw [JsDelegation.construct, dif_pos hshadow, dif_pos hdangling]
      rfl
  | _ => cases h

/-! ## Grants travel -/

variable {H : Host} {d : Delegation}

/-- What is asked of a grant to travel: timestamps in years of four digits, texts and extensions
    that both packages write alike, scopes and critical names in one order. -/
structure GrantTravels (nfc : PyStr → PyStr) (d : Delegation) : Prop where
  years : GrantYears d
  strings : GrantStrings (SpelledAlike nfc) d.issuer d.subject (sortedScopes d.scopes)
    (ofJsonMembers d.extra)
  signature : SpelledAlike nfc d.signature
  accepted : ∀ m ∈ ofJsonMembers d.extra, Accepted m.2
  scopes : ∀ a ∈ d.scopes, ∀ b ∈ d.scopes, a < b → ¬ Clash a b
  critical : d.critical.Pairwise (· ≤ ·)
  proto : protoName ∉ d.extra.map Prod.fst

/-- The critical names as TypeScript reads them. -/
def criticalOf (d : Delegation) : Option (List PyStr) :=
  if d.critical = [] then none else some d.critical

theorem getD_criticalOf (d : Delegation) : (criticalOf d).getD [] = d.critical := by
  rw [criticalOf]
  split_ifs with h
  · exact h.symm
  · rfl

theorem map_fst_ofJsonMembers (members : Members) :
    (ofJsonMembers members).map Prod.fst = members.map Prod.fst := by
  rw [ofJsonMembers_eq_map, List.map_map]
  rfl

theorem asJsonMembers_ofJsonMembers (members : Members) :
    asJsonMembers (ofJsonMembers members) = members :=
  Json.obj.inj (asJson_ofJson (.obj members))

/-- Both constructors take the fields of a grant. -/
theorem exists_built (d : Delegation) :
    ∃ t, BuiltFrom d.issuer d.subject (sortedScopes d.scopes) d.issuedAt d.expiresAt (criticalOf d)
      d.signature (ofJsonMembers d.extra) d t := by
  have hshadow : ∀ k ∈ (ofJsonMembers d.extra).map Prod.fst, k ∉ tsDelegationKnownFields := by
    intro k hk hknown
    rw [map_fst_ofJsonMembers] at hk
    have hsub : ∀ k ∈ tsDelegationKnownFields, k ∈ delegationFields := by decide
    exact d.extra_shadows_nothing k hk (hsub k hknown)
  have hdangling : ∀ name ∈ (criticalOf d).getD [], isIn name (ofJsonMembers d.extra) := by
    intro name hname
    rw [getD_criticalOf] at hname
    refine Or.inl ?_
    rw [map_fst_ofJsonMembers]
    exact d.critical_present name hname
  refine ⟨_, ?_, (dif_pos hshadow).trans (dif_pos hdangling)⟩
  rw [asJsonMembers_ofJsonMembers, getD_criticalOf, toFinset_sortedScopes]
  exact (dif_pos d.extra_nodup).trans
    ((dif_pos d.extra_shadows_nothing).trans (dif_pos d.critical_present))

theorem ofJson_strs (names : List PyStr) : ofJson (strs names) = .array (names.map .string) := by
  rw [strs, ofJson, ofJsonItems_eq_map, List.map_map]
  refine congrArg _ (List.map_congr_left fun s _ => ?_)
  rw [Function.comp_apply, ofJson]

theorem ofJsonMembers_append (a b : Members) :
    ofJsonMembers (a ++ b) = ofJsonMembers a ++ ofJsonMembers b := by
  rw [ofJsonMembers_eq_map, ofJsonMembers_eq_map, ofJsonMembers_eq_map, List.map_append]

/-- **A GRANT READ IN TYPESCRIPT** is what its constructor builds of the fields of the grant. -/
theorem fromJSON_modelDump (T : GrantTravels H.nfc d) {t : TsDelegation}
    (B : BuiltFrom d.issuer d.subject (sortedScopes d.scopes) d.issuedAt d.expiresAt (criticalOf d)
      d.signature (ofJsonMembers d.extra) d t) :
    TsDelegation.fromJSON (ofJson d.modelDump) = .ok t := by
  obtain ⟨hshadow, hdangling, ht⟩ := TsDelegation.construct_ok B.typescript
  have hextra : py "extra" ∉ d.extra.map Prod.fst := fun hmem =>
    absurd (show py "extra" ∈ delegationFields by decide) (d.extra_shadows_nothing _ hmem)
  have hscopes : sortByUnits t.scopes = sortedScopes d.scopes := by
    have hsort := (sortByUnits_setOf_eq_iff fun s hs => (T.strings.scopes s hs).1).mpr fun a ha b hb =>
      T.scopes a ((Finset.mem_sort _).mp ha) b ((Finset.mem_sort _).mp hb)
    rw [toFinset_sortedScopes] at hsort
    rw [ht]
    exact hsort
  have O : OwnNames tsDelegationKnownFields t.extra := by
    rw [ht]
    refine ⟨?_, hshadow, ?_⟩
    · rw [map_fst_ofJsonMembers]
      exact d.extra_nodup
    · rw [map_fst_ofJsonMembers]
      exact T.proto
  have hcritical : ofJsonMembers (AgentWireForm.criticalMember d) = tsCriticalMember t.critical := by
    rw [ht]
    show ofJsonMembers (AgentWireForm.criticalMember d) = tsCriticalMember (criticalOf d)
    rw [AgentWireForm.criticalMember, criticalOf]
    split_ifs with hnone
    · rfl
    · rw [sortedStrs_eq_iff.mpr T.critical, ofJsonMembers, ofJsonMembers, ofJson_strs]
      rfl
  have hrequired : ofJsonMembers (requiredMembers d)
      = [(py "issuer", .string t.issuer), (py "subject", .string t.subject),
        (py "scopes", .array ((sortedScopes d.scopes).map .string)),
        (py "issued_at", .string (tsCanonicalTimestamp t.issuedAt)),
        (py "expires_at", .string (tsCanonicalTimestamp t.expiresAt))] := by
    rw [ht, ← ofJson_strs]
    rfl
  have hdump : ofJson d.modelDump = .object (TsDelegation.toJSON t) := by
    rw [grantRecord_eq O, grantMembers, hscopes, modelDump_eq, ofJson, ← hcritical, ← hrequired,
      ofJsonMembers_append, ofJsonMembers_append, ofJsonMembers_append, ht]
    rfl
  have hfilter : t.extra.filter (·.1 ≠ py "extra") = ofJsonMembers d.extra := by
    rw [ht]
    refine filter_ne ?_
    rw [map_fst_ofJsonMembers]
    exact hextra
  have hyears : FourDigitYear t.issuedAt ∧ FourDigitYear t.expiresAt := by
    rw [ht]
    exact T.years
  rw [hdump, grant_fromJSON_toJSON O hyears.1 hyears.2, hscopes, hfilter]
  refine Eq.trans ?_ B.typescript
  rw [ht]

/-- **A GRANT READ**: both packages sign the same text of it. -/
theorem grant_read (T : GrantTravels H.nfc d) :
    ∃ t, JsDelegation.fromJSON (ofJson d.modelDump) = .ok t ∧ Twin H.nfc d t := by
  obtain ⟨t, B⟩ := exists_built d
  refine ⟨dated t, fromJSON_dated (fromJSON_modelDump T B), twin_of_built B ⟨?_, ?_, ?_⟩ ?_ ?_⟩
  · exact fun a ha b hb => T.scopes a ((Finset.mem_sort _).mp ha) b ((Finset.mem_sort _).mp hb)
  · rw [criticalOf]
    intro names hnames
    split_ifs at hnames with hnone
    · cases hnames
    · cases hnames
      exact ⟨hnone, T.critical⟩
  · rw [map_fst_ofJsonMembers]
    exact T.proto
  · exact T.accepted
  · exact T.strings

/-- **A CHAIN READ.** -/
theorem chain_read {links : List Delegation} (T : ∀ d ∈ links, GrantTravels H.nfc d) :
    ∃ links', TsDelegationChain.fromJSON (ofJson (DelegationChain.modelDump ⟨links⟩)) = .ok ⟨links'⟩ ∧
      List.Forall₂ (Twin H.nfc) links links' := by
  have hlinks : ∃ links', (links.map fun d => ofJson d.modelDump).mapM JsDelegation.fromJSON
      = .ok links' ∧ List.Forall₂ (Twin H.nfc) links links' := by
    induction links with
    | nil => exact ⟨[], rfl, .nil⟩
    | cons d links ih =>
        obtain ⟨Td, T⟩ := List.forall_mem_cons.mp T
        obtain ⟨t, ht, htwin⟩ := grant_read Td
        obtain ⟨links', hlinks, htwins⟩ := ih T
        refine ⟨t :: links', ?_, .cons htwin htwins⟩
        rw [List.map_cons, List.mapM_cons]
        exact bind_ok_iff.mpr ⟨t, ht, bind_ok_iff.mpr ⟨links', hlinks, rfl⟩⟩
  obtain ⟨links', hread, htwins⟩ := hlinks
  refine ⟨links', bind_ok_iff.mpr ⟨_, rfl, bind_ok_iff.mpr ⟨links', ?_, rfl⟩⟩, htwins⟩
  rw [ofJsonItems_eq_map, List.map_map]
  exact hread

theorem rewireGrant_eq (h : d.critical.Pairwise (· ≤ ·)) : rewireGrant d = d := by
  have hsorted := sortedStrs_eq_iff.mpr h
  obtain ⟨issuer, subject, scopes, issuedAt, expiresAt, signature, critical, extra, _, _, _⟩ := d
  simp only [rewireGrant, hsorted]

open AgentOwnerRecall

end AgentTsChainWire
