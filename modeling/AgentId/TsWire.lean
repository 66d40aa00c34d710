import AgentId.Dict
import AgentId.TsCard
import AgentId.TsTimestamp

/-!
# TypeScript records on the wire (`card.ts`, `delegation.ts`)

The constructors refuse an extension with the name of a field, but `extra` is none of their fields,
so an extension may be called `extra`.  `toJSON` writes it like any other; `fromJSON` passes over a
member of that name.

* **`card_survives_iff`**, **`grant_survives_iff`** — what comes back signs the same payload exactly
  when no extension is called `extra`.
-/

namespace AgentTsWire

open AgentPy AgentBase58 AgentJson AgentSigning AgentSerde AgentIsoText AgentUtf16 AgentTsCanonical
  AgentTsSigning AgentWireForm AgentTsDelegation AgentCards AgentTsCards AgentTsTimestamp AgentDict

/-! ## The methods of a grant -/

/-- `verifyByAddress` -/
def tsVerifyByAddress (H : Host) (address context : PyStr) (payload signature : JsonValue) :
    Js Unit := do
  let signing ← tsSigningKeyFromAddress address
  tsVerifyPayload H signing context payload signature

/-- `toJSON()`: `{ ...this.payload(), signature: this.signature }` -/
def TsDelegation.toJSON (t : TsDelegation) : List (PyStr × JsonValue) :=
  setProperty t.payload (py "signature") (.string t.signature)

/-- A value that is declared a string, which the source does not check: a grant of the model holds
    no other. -/
def declaredString (name : PyStr) : JsonValue → Js PyStr
  | .string s => .ok s
  | v => throwNew .typeError [.str name, " is declared a string, not ", typeOf (some v)]

/-- `new Set(record["scopes"] ?? [])` -/
def scopeStrings (value : JsonValue) : Js (List PyStr) := do
  let items ← spreadArray value
  items.mapM (declaredString (py "scope"))

def TsDelegation.fromJSON : JsonValue → Js TsDelegation
  | .object record => do
      let critical ← parseCritical (record.lookup (py "critical"))
      let issuer ← requireString (py "issuer") (record.lookup (py "issuer"))
      let subject ← requireString (py "subject") (record.lookup (py "subject"))
      let scopes ← scopeStrings (coalesce (record.lookup (py "scopes")) (.array []))
      let issuedAt ← tsParseTimestamp (py "issued_at") (record.lookup (py "issued_at"))
      let expiresAt ← tsParseTimestamp (py "expires_at") (record.lookup (py "expires_at"))
      let signature ← declaredString (py "signature")
        (coalesce (record.lookup (py "signature")) (.string []))
      TsDelegation.construct issuer subject scopes issuedAt expiresAt critical signature
        (collectExtra tsDelegationKnownFields record)
  | .null => throwNew .typeError ["cannot convert undefined or null to object"]
  -- the properties of any other value do not include an issuer
  | _ => throwNew .typeError [.str (py "issuer"), " must be a string, got undefined"]

/-! ## What is dumped -/

/-- Extensions under names of their own: none of them a field's, none of them `__proto__`. -/
structure OwnNames (known : List PyStr) (extra : List (PyStr × JsonValue)) : Prop where
  nodup : (extra.map Prod.fst).Nodup
  fresh : ∀ k ∈ extra.map Prod.fst, k ∉ known
  no_proto : protoName ∉ extra.map Prod.fst

/-- Such extensions are appended. -/
theorem OwnNames.objectAssign {known : List PyStr} {extra members : List (PyStr × JsonValue)}
    (O : OwnNames known extra) (h : ∀ k ∈ members.map Prod.fst, k ∈ known) :
    objectAssign members extra = members ++ extra := by
  rw [objectAssign_eq O.nodup fun k hk hmem => O.fresh k hk (h k hmem), filter_ne O.no_proto]

theorem OwnNames.filter {known : List PyStr} {extra : List (PyStr × JsonValue)}
    (O : OwnNames known extra) (p : PyStr × JsonValue → Bool) : OwnNames known (extra.filter p) :=
  have hsublist := List.filter_sublist.map Prod.fst
  ⟨O.nodup.sublist hsublist, fun k hk => O.fresh k (hsublist.subset hk),
    fun hmem => O.no_proto (hsublist.subset hmem)⟩

/-- And collected again, all but one of the name `extra`. -/
theorem OwnNames.collectExtra {known : List PyStr} {extra record : List (PyStr × JsonValue)}
    (O : OwnNames known extra) (hnodup : (record.map Prod.fst).Nodup)
    (hextra : record.filter (·.1 ∉ known) = extra) :
    collectExtra known record = extra.filter (·.1 ≠ py "extra") := by
  have hsplit : record.filter (fun m => m.1 ∉ known ∧ m.1 ≠ py "extra" ∧ m.1 ≠ protoName)
      = (record.filter (·.1 ∉ known)).filter fun m => m.1 ≠ py "extra" ∧ m.1 ≠ protoName := by
    rw [List.filter_filter]
    refine List.filter_congr fun m _ => ?_
    rw [Bool.eq_iff_iff, Bool.and_eq_true, decide_eq_true_iff, decide_eq_true_iff,
      decide_eq_true_iff]
    exact ⟨fun h => ⟨h.2, h.1⟩, fun h => ⟨h.2, h.1⟩⟩
  rw [collectExtra_eq known hnodup, hsplit, hextra]
  refine List.filter_congr fun m hm => ?_
  have hproto : m.1 ≠ protoName := fun heq => O.no_proto (heq ▸ List.mem_map_of_mem hm)
  rw [Bool.eq_iff_iff, decide_eq_true_iff, decide_eq_true_iff]
  exact ⟨fun hkept => hkept.1, fun hname => ⟨hname, hproto⟩⟩

/-- A record of known members around the extensions has each name once, and the extensions are
    the members of unknown name. -/
theorem OwnNames.record {known : List PyStr} {extra before behind : List (PyStr × JsonValue)}
    (O : OwnNames known extra) (hknown : ∀ k ∈ (before ++ behind).map Prod.fst, k ∈ known)
    (hnodup : ((before ++ behind).map Prod.fst).Nodup) :
    ((before ++ extra ++ behind).map Prod.fst).Nodup ∧
      (before ++ extra ++ behind).filter (·.1 ∉ known) = extra := by
  constructor
  · have hperm : (before ++ extra ++ behind).Perm (before ++ behind ++ extra) := by
      rw [List.append_assoc, List.append_assoc]
      exact List.Perm.append_left before List.perm_append_comm
    rw [(hperm.map Prod.fst).nodup_iff, List.map_append, List.nodup_append]
    refine ⟨hnodup, O.nodup, fun k hk k' hk' heq => ?_⟩
    exact O.fresh k' hk' (heq ▸ hknown k hk)
  · exact filter_record hknown O.fresh

theorem filter_shadows_nothing {known : List PyStr} {extra : List (PyStr × JsonValue)}
    (h : ∀ k ∈ extra.map Prod.fst, k ∉ known) :
    ∀ k ∈ (extra.filter (·.1 ≠ py "extra")).map Prod.fst, k ∉ known :=
  fun k hk => h k ((List.filter_sublist.map Prod.fst).subset hk)

/-! ## Grants -/

/-- The members a grant writes before its extensions. -/
def grantMembers (t : TsDelegation) : List (PyStr × JsonValue) :=
  [(py "issuer", .string t.issuer), (py "subject", .string t.subject),
    (py "scopes", .array ((sortByUnits t.scopes).map .string)),
    (py "issued_at", .string (tsCanonicalTimestamp t.issuedAt)),
    (py "expires_at", .string (tsCanonicalTimestamp t.expiresAt))]
  ++ tsCriticalMember t.critical

variable {t t' : TsDelegation}

/-- Their names: those of the five, and with critical names one more. -/
theorem map_fst_grantMembers (t : TsDelegation) :
    ((grantMembers t).map Prod.fst).Sublist (requiredFields ++ [py "critical"]) := by
  rw [grantMembers]
  cases t.critical with
  | none => exact List.sublist_append_left requiredFields [py "critical"]
  | some names => exact List.Sublist.refl _

/-- A name that is none of these is not found. -/
theorem lookup_grantMembers (t : TsDelegation) {k : PyStr}
    (hk : k ∉ requiredFields ++ [py "critical"]) : (grantMembers t).lookup k = none :=
  lookup_eq_none.mpr fun hmem => hk ((map_fst_grantMembers t).subset hmem)

/-- The names of a record but its extensions'. -/
theorem map_fst_signedMembers (t : TsDelegation) :
    ((grantMembers t ++ [(py "signature", JsonValue.string t.signature)]).map Prod.fst).Sublist
      (requiredFields ++ [py "critical"] ++ [py "signature"]) := by
  rw [List.map_append]
  exact (map_fst_grantMembers t).append (List.Sublist.refl _)

theorem grantMembers_known (t : TsDelegation) :
    ∀ k ∈ (grantMembers t ++ [(py "signature", JsonValue.string t.signature)]).map Prod.fst,
      k ∈ tsDelegationKnownFields := by
  have hall : ∀ k ∈ requiredFields ++ [py "critical"] ++ [py "signature"],
      k ∈ tsDelegationKnownFields := by decide
  exact fun k hk => hall k ((map_fst_signedMembers t).subset hk)

theorem grantMembers_nodup (t : TsDelegation) :
    ((grantMembers t ++ [(py "signature", JsonValue.string t.signature)]).map Prod.fst).Nodup :=
  List.Nodup.sublist (map_fst_signedMembers t)
    (show (requiredFields ++ [py "critical"] ++ [py "signature"]).Nodup by decide)

theorem grantPayload_eq (O : OwnNames tsDelegationKnownFields t.extra) :
    t.payload = grantMembers t ++ t.extra := by
  have hmembers : t.payload = objectAssign (grantMembers t) t.extra := by
    rw [TsDelegation.payload, grantMembers]
    cases t.critical with
    | none => rfl
    | some names => rfl
  rw [hmembers, O.objectAssign]
  intro k hk
  refine grantMembers_known t k ?_
  rw [List.map_append]
  exact List.mem_append_left _ hk

theorem grantRecord_eq (O : OwnNames tsDelegationKnownFields t.extra) :
    TsDelegation.toJSON t
      = grantMembers t ++ t.extra ++ [(py "signature", .string t.signature)] := by
  have hextra : py "signature" ∉ t.extra.map Prod.fst := fun hmem =>
    O.fresh _ hmem (by decide)
  have hmembers : py "signature" ∉ (grantMembers t).map Prod.fst :=
    lookup_eq_none.mp (lookup_grantMembers t (by decide))
  rw [TsDelegation.toJSON, grantPayload_eq O, setProperty, if_neg (by decide), if_neg]
  rw [List.map_append]
  exact List.not_mem_append hmembers hextra

/-- What `fromJSON` finds in a record of `toJSON`. -/
theorem lookup_grantRecord (O : OwnNames tsDelegationKnownFields t.extra) {k : PyStr}
    {v : JsonValue} (h : (grantMembers t).lookup k = some v) :
    (TsDelegation.toJSON t).lookup k = some v := by
  rw [grantRecord_eq O, List.lookup_append, List.lookup_append, h]
  rfl

theorem lookup_grantSignature (O : OwnNames tsDelegationKnownFields t.extra) :
    (TsDelegation.toJSON t).lookup (py "signature") = some (.string t.signature) := by
  have hextra : t.extra.lookup (py "signature") = none :=
    lookup_eq_none.mpr fun hmem => O.fresh _ hmem (by decide)
  rw [grantRecord_eq O, List.lookup_append, List.lookup_append, lookup_grantMembers t (by decide),
    hextra]
  rfl

/-- The critical names are read as they were written. -/
theorem parseCritical_tsCriticalMember (critical : Option (List PyStr)) :
    parseCritical ((tsCriticalMember critical).lookup (py "critical")) = .ok critical := by
  cases critical with
  | none => rfl
  | some names => exact parseCritical_ok_iff.mpr (Or.inr ⟨names, rfl, rfl⟩)

theorem parseCritical_grantRecord (O : OwnNames tsDelegationKnownFields t.extra) :
    parseCritical ((TsDelegation.toJSON t).lookup (py "critical")) = .ok t.critical := by
  have hextra : t.extra.lookup (py "critical") = none :=
    lookup_eq_none.mpr fun hmem => O.fresh _ hmem (by decide)
  have hmembers : (grantMembers t).lookup (py "critical")
      = (tsCriticalMember t.critical).lookup (py "critical") := rfl
  have hsignature : [(py "signature", JsonValue.string t.signature)].lookup (py "critical") = none :=
    rfl
  rw [grantRecord_eq O, List.lookup_append, List.lookup_append, hmembers, hextra, hsignature,
    Option.or_none, Option.or_none]
  exact parseCritical_tsCriticalMember t.critical

theorem scopeStrings_strings (names : List PyStr) :
    scopeStrings (.array (names.map .string)) = .ok names :=
  bind_ok_iff.mpr ⟨_, rfl, mapM_map_self fun _ _ => rfl⟩

/-- **WHAT A DUMPED GRANT IS READ AS**: the constructor is given its fields again, the scopes in
    order, and its extensions but one of the name `extra`. -/
theorem grant_fromJSON_toJSON (O : OwnNames tsDelegationKnownFields t.extra)
    (hissued : FourDigitYear t.issuedAt) (hexpires : FourDigitYear t.expiresAt) :
    TsDelegation.fromJSON (.object (TsDelegation.toJSON t))
      = TsDelegation.construct t.issuer t.subject (sortByUnits t.scopes) t.issuedAt t.expiresAt
          t.critical t.signature (t.extra.filter (·.1 ≠ py "extra")) := by
  have hrecord := O.record (grantMembers_known t) (grantMembers_nodup t)
  rw [← grantRecord_eq O] at hrecord
  have hissuer : (TsDelegation.toJSON t).lookup (py "issuer") = some (.string t.issuer) :=
    lookup_grantRecord O rfl
  have hsubject : (TsDelegation.toJSON t).lookup (py "subject") = some (.string t.subject) :=
    lookup_grantRecord O rfl
  have hscopes : (TsDelegation.toJSON t).lookup (py "scopes")
      = some (.array ((sortByUnits t.scopes).map .string)) := lookup_grantRecord O rfl
  have hissuedAt : (TsDelegation.toJSON t).lookup (py "issued_at")
      = some (.string (canonicalTimestamp t.issuedAt)) := lookup_grantRecord O rfl
  have hexpiresAt : (TsDelegation.toJSON t).lookup (py "expires_at")
      = some (.string (canonicalTimestamp t.expiresAt)) := lookup_grantRecord O rfl
  have hnames : scopeStrings (coalesce (some (.array ((sortByUnits t.scopes).map .string)))
      (.array [])) = .ok (sortByUnits t.scopes) := scopeStrings_strings _
  rw [TsDelegation.fromJSON, parseCritical_grantRecord O, hissuer, hsubject, hscopes, hissuedAt,
    hexpiresAt, lookup_grantSignature O, tsParseTimestamp_canonical hissued,
    tsParseTimestamp_canonical hexpires, O.collectExtra hrecord.1 hrecord.2, hnames]
  rfl

theorem setOf_eq_self {items : List PyStr} (h : items.Nodup) : setOf items = items := by
  have hfold : ∀ (items set : List PyStr), (set ++ items).Nodup →
      items.foldl (fun set s => if s ∈ set then set else set ++ [s]) set = set ++ items := by
    intro items
    induction items with
    | nil => exact fun set _ => (List.append_nil set).symm
    | cons s items ih =>
        intro set hnodup
        have hs : s ∉ set := fun hmem =>
          (List.nodup_append.mp hnodup).2.2 s hmem s List.mem_cons_self rfl
        rw [List.foldl_cons, if_neg hs, ih, List.append_assoc, List.singleton_append]
        rwa [List.append_assoc, List.singleton_append]
  exact hfold items [] h

/-- The order the scopes are held in is not signed. -/
theorem payload_resorted {t : TsDelegation} (h : t.scopes.Nodup) :
    TsDelegation.payload { t with scopes := setOf (sortByUnits t.scopes) } = t.payload := by
  have hset : setOf (sortByUnits t.scopes) = sortByUnits t.scopes :=
    setOf_eq_self ((perm_sortByUnits t.scopes).nodup_iff.mpr h)
  have hsorted : sortByUnits (sortByUnits t.scopes) = sortByUnits t.scopes :=
    List.Pairwise.insertionSort_eq (sortByUnits_pairwise t.scopes)
  rw [TsDelegation.payload, TsDelegation.payload, hset, hsorted]

/-- A member called `extra` is one of the extensions. -/
theorem lookup_grantPayload (O : OwnNames tsDelegationKnownFields t.extra) :
    t.payload.lookup (py "extra") = t.extra.lookup (py "extra") := by
  rw [grantPayload_eq O, List.lookup_append, lookup_grantMembers t (by decide)]
  rfl

/-- A grant survives: what comes back has a deeply equal payload, and its signature verifies if it
    did before. -/
def GrantSurvives (t : TsDelegation) : Prop :=
  ∃ t', TsDelegation.fromJSON (.object (TsDelegation.toJSON t)) = .ok t' ∧
    Same t'.payload t.payload ∧
    ∀ H, tsVerifyByAddress H t.issuer contextDelegation (.object t.payload) (.string t.signature)
        = .ok () →
      tsVerifyByAddress H t'.issuer contextDelegation (.object t'.payload) (.string t'.signature)
        = .ok ()

/-- **WHEN A GRANT SURVIVES**: exactly when no extension is called `extra`. -/
theorem grant_survives_iff {issuer subject signature : PyStr} {scopes : List PyStr}
    {issuedAt expiresAt : Timestamp} {critical : Option (List PyStr)}
    {extra : List (PyStr × JsonValue)}
    (h : TsDelegation.construct issuer subject scopes issuedAt expiresAt critical signature extra
      = .ok t) (hnodup : (extra.map Prod.fst).Nodup) (hproto : protoName ∉ extra.map Prod.fst)
    (hissued : FourDigitYear issuedAt) (hexpires : FourDigitYear expiresAt) :
    GrantSurvives t ↔ py "extra" ∉ extra.map Prod.fst := by
  obtain ⟨hshadow, hdangling, ht⟩ := TsDelegation.construct_ok h
  have hextra : t.extra = extra := by rw [ht]
  have hscopes : t.scopes.Nodup := by
    rw [ht]
    exact setOf_nodup scopes
  have O : OwnNames tsDelegationKnownFields t.extra := by
    rw [hextra]
    exact ⟨hnodup, hshadow, hproto⟩
  have hread := grant_fromJSON_toJSON O (by rw [ht]; exact hissued) (by rw [ht]; exact hexpires)
  rw [← hextra]
  constructor
  · -- what comes back has no member of the name, and what was sent has
    rintro ⟨t', ht', hsame, -⟩ hmem
    obtain ⟨_, _, hback⟩ := TsDelegation.construct_ok (hread.symm.trans ht')
    have hextra' : t'.extra = t.extra.filter (·.1 ≠ py "extra") := by rw [hback]
    have O' : OwnNames tsDelegationKnownFields t'.extra := hextra' ▸ O.filter _
    have hgone := hsame (py "extra")
    rw [lookup_grantPayload O, lookup_grantPayload O', hextra', lookup_filter_ne] at hgone
    exact lookup_eq_none.mp hgone.symm hmem
  · intro hmem
    have hpayload := payload_resorted hscopes
    rw [filter_ne hmem] at hread
    refine ⟨{ t with scopes := setOf (sortByUnits t.scopes) }, ?_, fun k => ?_, fun H hv => ?_⟩
    · exact hread.trans ((dif_pos t.extra_shadows_nothing).trans (dif_pos t.critical_present))
    · exact congrArg (List.lookup k) hpayload
    · exact hpayload.symm ▸ hv

/-! ## Cards -/

/-- The members a card writes before its extensions. -/
def tsCardMembers (c : TsAgentCard) : List (PyStr × JsonValue) :=
  [(py "amp", c.amp), (py "address", .string c.address), (py "name", .string c.name),
    (py "kind", .string c.kind.value), (py "operator", c.operator),
    (py "signing_key", .string c.signingKey), (py "agreement_key", .string c.agreementKey),
    (py "agreement_prekey", c.agreementPrekey), (py "payload_types", .array c.payloadTypes),
    (py "endpoints", .object c.endpoints), (py "policy_summary", c.policySummary),
    (py "signature", c.signature)]
  ++ tsCriticalMember c.critical

variable {c c' : TsAgentCard}

/-- The names of the first twelve. -/
def tsAlwaysFields : List PyStr :=
  [py "amp", py "address", py "name", py "kind", py "operator", py "signing_key",
    py "agreement_key", py "agreement_prekey", py "payload_types", py "endpoints",
    py "policy_summary", py "signature"]

theorem map_fst_tsCardMembers (c : TsAgentCard) :
    ((tsCardMembers c).map Prod.fst).Sublist (tsAlwaysFields ++ [py "critical"]) := by
  rw [tsCardMembers]
  cases c.critical with
  | none => exact List.sublist_append_left tsAlwaysFields [py "critical"]
  | some names => exact List.Sublist.refl _

theorem tsCardMembers_known (c : TsAgentCard) :
    ∀ k ∈ (tsCardMembers c).map Prod.fst, k ∈ tsCardKnownFields := by
  have hall : ∀ k ∈ tsAlwaysFields ++ [py "critical"], k ∈ tsCardKnownFields := by decide
  exact fun k hk => hall k ((map_fst_tsCardMembers c).subset hk)

theorem tsCardMembers_nodup (c : TsAgentCard) : ((tsCardMembers c).map Prod.fst).Nodup :=
  List.Nodup.sublist (map_fst_tsCardMembers c)
    (show (tsAlwaysFields ++ [py "critical"]).Nodup by decide)

theorem cardRecord_eq (O : OwnNames tsCardKnownFields c.extra) :
    c.toJSON = tsCardMembers c ++ c.extra :=
  O.objectAssign (tsCardMembers_known c)

theorem lookup_cardRecord (O : OwnNames tsCardKnownFields c.extra) {k : PyStr} {v : JsonValue}
    (h : (tsCardMembers c).lookup k = some v) : c.toJSON.lookup k = some v := by
  rw [cardRecord_eq O, List.lookup_append, h]
  rfl

theorem parseCritical_cardRecord (O : OwnNames tsCardKnownFields c.extra) :
    parseCritical (c.toJSON.lookup (py "critical")) = .ok c.critical := by
  have hextra : c.extra.lookup (py "critical") = none :=
    lookup_eq_none.mpr fun hmem => O.fresh _ hmem (by decide)
  have hmembers : (tsCardMembers c).lookup (py "critical")
      = (tsCriticalMember c.critical).lookup (py "critical") := rfl
  rw [cardRecord_eq O, List.lookup_append, hmembers, hextra, Option.or_none]
  exact parseCritical_tsCriticalMember c.critical

/-- Where the constructor has a default, a card does not hold `null`. -/
structure Defaulted (c : TsAgentCard) : Prop where
  amp : c.amp ≠ .null
  policySummary : c.policySummary ≠ .null
  signature : c.signature ≠ .null

/-- What the constructor makes of its arguments. -/
theorem TsAgentCard.construct_ok {amp address name kind operator signingKey agreementKey
    agreementPrekey payloadTypes endpoints policySummary : Option JsonValue}
    {critical : Option (List PyStr)} {signature : Option JsonValue}
    {extra : List (PyStr × JsonValue)}
    (h : TsAgentCard.construct amp address name kind operator signingKey agreementKey
      agreementPrekey payloadTypes endpoints policySummary critical signature extra = .ok c) :
    Defaulted c ∧ c.extra = extra := by
  obtain ⟨_, -, h⟩ := bind_ok_iff.mp h
  obtain ⟨_, -, h⟩ := bind_ok_iff.mp h
  obtain ⟨_, -, h⟩ := bind_ok_iff.mp h
  obtain ⟨_, -, h⟩ := bind_ok_iff.mp h
  obtain ⟨_, -, h⟩ := bind_ok_iff.mp h
  obtain ⟨_, -, h⟩ := bind_ok_iff.mp h
  simp only at h
  split_ifs at h
  · cases h
    exact ⟨⟨coalesce_ne_null _ (by simp), coalesce_ne_null _ (by simp),
      coalesce_ne_null _ (by simp)⟩, rfl⟩
  · cases h

/-- The card without an extension called `extra`. -/
def withoutExtra (c : TsAgentCard) : TsAgentCard :=
  { c with
    extra := c.extra.filter (·.1 ≠ py "extra")
    extra_shadows_nothing := filter_shadows_nothing c.extra_shadows_nothing }

theorem withoutExtra_eq (h : py "extra" ∉ c.extra.map Prod.fst) : withoutExtra c = c := by
  obtain ⟨amp, address, name, kind, operator, signingKey, agreementKey, agreementPrekey,
    payloadTypes, endpoints, policySummary, critical, signature, extra, hshadow⟩ := c
  simp only [withoutExtra, filter_ne h]

/-- **WHAT A DUMPED CARD IS READ AS**: the card, without an extension called `extra`. -/
theorem card_fromJSON_toJSON (O : OwnNames tsCardKnownFields c.extra) (D : Defaulted c) :
    TsAgentCard.fromJSON (.object c.toJSON) = .ok (withoutExtra c) := by
  have hrecord := @OwnNames.record _ _ (tsCardMembers c) [] O
    (by rw [List.append_nil]; exact tsCardMembers_known c)
    (by rw [List.append_nil]; exact tsCardMembers_nodup c)
  rw [List.append_nil, ← cardRecord_eq O] at hrecord
  refine (fromJSON_ok_iff hrecord.1).mpr ?_
  constructor
  case amp => rw [lookup_cardRecord O rfl]; exact (coalesce_some D.amp).symm
  case address => exact lookup_cardRecord O rfl
  case name => exact lookup_cardRecord O rfl
  case kind => rw [lookup_cardRecord O rfl]; rfl
  case operator => rw [lookup_cardRecord O rfl]; exact (coalesce_to_null _).symm
  case signingKey => exact lookup_cardRecord O rfl
  case agreementKey => exact lookup_cardRecord O rfl
  case agreementPrekey => rw [lookup_cardRecord O rfl]; exact (coalesce_to_null _).symm
  case payloadTypes => rw [lookup_cardRecord O rfl]; rfl
  case endpoints => rw [lookup_cardRecord O rfl]; rfl
  case policySummary => rw [lookup_cardRecord O rfl]; exact (coalesce_some D.policySummary).symm
  case critical => exact parseCritical_cardRecord O
  case signature => rw [lookup_cardRecord O rfl]; exact (coalesce_some D.signature).symm
  case extra => exact (O.collectExtra hrecord.1 hrecord.2).symm

/-- A member called `extra` is one of the extensions. -/
theorem lookup_cardPayload (O : OwnNames tsCardKnownFields c.extra) :
    c.payload.lookup (py "extra") = c.extra.lookup (py "extra") := by
  have hmembers : (tsCardMembers c).lookup (py "extra") = none := by
    refine lookup_eq_none.mpr fun hmem => ?_
    exact absurd ((map_fst_tsCardMembers c).subset hmem) (by decide)
  have hfilter := lookup_filter (d := c.toJSON) (k := py "extra")
    fun k => decide (k ≠ py "signature")
  rw [if_pos (by decide)] at hfilter
  rw [TsAgentCard.payload, hfilter, cardRecord_eq O, List.lookup_append, hmembers]
  rfl

/-- A card survives: what comes back has a deeply equal payload, and verifies if the card did. -/
def CardSurvives (c : TsAgentCard) : Prop :=
  ∃ c', TsAgentCard.fromJSON (.object c.toJSON) = .ok c' ∧ Same c'.payload c.payload ∧
    ∀ H understood, c.verify H understood = .ok () → c'.verify H understood = .ok ()

/-- **WHEN A CARD SURVIVES**: exactly when no extension is called `extra`. -/
theorem card_survives_iff {amp address name kind operator signingKey agreementKey agreementPrekey
    payloadTypes endpoints policySummary : Option JsonValue} {critical : Option (List PyStr)}
    {signature : Option JsonValue} {extra : List (PyStr × JsonValue)}
    (h : TsAgentCard.construct amp address name kind operator signingKey agreementKey
      agreementPrekey payloadTypes endpoints policySummary critical signature extra = .ok c)
    (hnodup : (extra.map Prod.fst).Nodup) (hproto : protoName ∉ extra.map Prod.fst) :
    CardSurvives c ↔ py "extra" ∉ extra.map Prod.fst := by
  obtain ⟨D, hextra⟩ := TsAgentCard.construct_ok h
  rw [← hextra] at hnodup hproto ⊢
  have O : OwnNames tsCardKnownFields c.extra := ⟨hnodup, c.extra_shadows_nothing, hproto⟩
  have hread := card_fromJSON_toJSON O D
  constructor
  · rintro ⟨c', hc', hsame, -⟩ hmem
    have hback : withoutExtra c = c' := Except.ok.inj (hread.symm.trans hc')
    have hextra' : c'.extra = c.extra.filter (·.1 ≠ py "extra") := by
      rw [← hback]
      rfl
    have O' : OwnNames tsCardKnownFields c'.extra := hextra' ▸ O.filter _
    have hgone := hsame (py "extra")
    rw [lookup_cardPayload O, lookup_cardPayload O', hextra', lookup_filter_ne] at hgone
    exact lookup_eq_none.mp hgone.symm hmem
  · intro hmem
    have hback := hread.trans (congrArg Except.ok (withoutExtra_eq hmem))
    exact ⟨c, hback, fun _ => rfl, fun _ _ hv => hv⟩

/-! ## Both kinds of record -/

/-- **WHEN A RECORD SURVIVES ITS WIRE FORM.**  Whatever the constructors of cards and grants are
    given, a record they build is read back with the same payload exactly when none of its
    extensions is called `extra`. -/
theorem survives_the_wire_iff {extra : List (PyStr × JsonValue)}
    (hnodup : (extra.map Prod.fst).Nodup) (hproto : protoName ∉ extra.map Prod.fst) :
    (∀ (amp address name kind operator signingKey agreementKey agreementPrekey payloadTypes
        endpoints policySummary : Option JsonValue) (critical : Option (List PyStr))
        (signature : Option JsonValue) (c : TsAgentCard),
      TsAgentCard.construct amp address name kind operator signingKey agreementKey agreementPrekey
          payloadTypes endpoints policySummary critical signature extra = .ok c →
        (CardSurvives c ↔ py "extra" ∉ extra.map Prod.fst)) ∧
    ∀ (issuer subject : PyStr) (scopes : List PyStr) (issuedAt expiresAt : Timestamp)
        (critical : Option (List PyStr)) (signature : PyStr) (t : TsDelegation),
      TsDelegation.construct issuer subject scopes issuedAt expiresAt critical signature extra
          = .ok t →
        FourDigitYear issuedAt → FourDigitYear expiresAt →
        (GrantSurvives t ↔ py "extra" ∉ extra.map Prod.fst) := by
  refine ⟨?_, ?_⟩
  · intro _ _ _ _ _ _ _ _ _ _ _ _ _ _ h
    exact card_survives_iff h hnodup hproto
  · intro _ _ _ _ _ _ _ _ h hissued hexpires
    exact grant_survives_iff h hnodup hproto hissued hexpires

/-- The card of key 1 with one extension. -/
def cardWith (name : PyStr) : Js TsAgentCard :=
  TsAgentCard.construct none (some (.string (constAddress 1))) (some (.string (py "worker"))) none
    none (some (.string (base58Encode (constKey 1)))) (some (.string (base58Encode (constKey 1))))
    none none none none none none [(name, .boolean true)]

/-- The grant of key 1 to key 2 with one extension, for an instant of 2026. -/
def grantWith (name : PyStr) : Js TsDelegation :=
  TsDelegation.construct (constAddress 1) (constAddress 2) [py "read"] moment2026 moment2026 none []
    [(name, .boolean true)]

theorem no_proto_note (name : PyStr) (h : protoName ≠ name) :
    protoName ∉ [(name, JsonValue.boolean true)].map Prod.fst :=
  fun hmem => h (List.mem_singleton.mp hmem)

/-- Under another name the extension is kept, by both. -/
theorem survives_the_wire_note : (∃ c, cardWith (py "note") = .ok c ∧ CardSurvives c) ∧
    ∃ t, grantWith (py "note") = .ok t ∧ GrantSurvives t := by
  have hyear : FourDigitYear moment2026 := show yearThousand ≤ moment2026.ms by decide
  have hproto := no_proto_note (py "note") (by decide)
  have hname : py "extra" ∉ [(py "note", JsonValue.boolean true)].map Prod.fst :=
    fun hmem => absurd (List.mem_singleton.mp hmem) (by decide)
  obtain ⟨c, hc⟩ : ∃ c, cardWith (py "note") = .ok c := ⟨_, rfl⟩
  obtain ⟨t, ht⟩ : ∃ t, grantWith (py "note") = .ok t := ⟨_, rfl⟩
  have hnodup : ([(py "note", JsonValue.boolean true)].map Prod.fst).Nodup :=
    List.nodup_singleton _
  have hboth := survives_the_wire_iff hnodup hproto
  have hcard := hboth.1 _ _ _ _ _ _ _ _ _ _ _ _ _ c hc
  have hgrant := hboth.2 _ _ _ _ _ _ _ t ht hyear hyear
  exact ⟨⟨c, hc, hcard.mpr hname⟩, t, ht, hgrant.mpr hname⟩

/-- **AN EXTENSION CALLED `extra` IS LOST.** -/
theorem extension_extra_lost : (∃ c, cardWith (py "extra") = .ok c ∧ ¬ CardSurvives c) ∧
    ∃ t, grantWith (py "extra") = .ok t ∧ ¬ GrantSurvives t := by
  have hyear : FourDigitYear moment2026 := show yearThousand ≤ moment2026.ms by decide
  have hproto := no_proto_note (py "extra") (by decide)
  have hname : py "extra" ∈ [(py "extra", JsonValue.boolean true)].map Prod.fst :=
    List.mem_cons_self
  obtain ⟨c, hc⟩ : ∃ c, cardWith (py "extra") = .ok c := ⟨_, rfl⟩
  obtain ⟨t, ht⟩ : ∃ t, grantWith (py "extra") = .ok t := ⟨_, rfl⟩
  have hcard := card_survives_iff hc (List.nodup_singleton _) hproto
  have hgrant := grant_survives_iff ht (List.nodup_singleton _) hproto hyear hyear
  exact ⟨⟨c, hc, fun hsurvives => hcard.mp hsurvives hname⟩, t, ht,
    fun hsurvives => hgrant.mp hsurvives hname⟩

end AgentTsWire
