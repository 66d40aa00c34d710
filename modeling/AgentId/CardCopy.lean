import AgentId.CardWire
import AgentId.Dict

/-!
# Copying a card with other extensions (`AgentCard.model_copy`)

A copy with `extra` set goes through the flattened form, in which fields and extensions share one
namespace.  The extensions are merged over the fields unchecked, so a key that is the name of a
field rewrites the field, where the constructor refuses such an extension.

* **`exists_setExtra_iff`** — which mappings are taken.
* **`set_extra_iff`** — when setting the extensions changes nothing else.
-/

namespace AgentCardCopy

open AgentPy AgentBase58 AgentJson AgentSigning AgentSerde AgentDelegation AgentWireForm AgentCards
  AgentCardWire AgentDict

/-- A `dict` with string keys: no key stands in it twice. -/
structure Mapping where
  items : Members
  nodup : (items.map Prod.fst).Nodup

/-- What `model_copy` keeps of the flattened card, with the new extensions over it. -/
def mergedExtra (c : AgentCard) (extra : Members) : Members :=
  update (c.modelDump.filter fun m => m.1 ∈ cardFields ∨ m.1 ∈ extra.map Prod.fst) extra

/-- `AgentCard.model_copy(update)` -/
def AgentCard.modelCopy (c : AgentCard) (changes : Members) : Py AgentCard := do
  let merged ← match changes.lookup (py "extra") with
    | none => .ok c.modelDump
    | some extra => do
        let extra ← requireMapping (py "extra") extra
        .ok (mergedExtra c extra)
  AgentCard.modelValidate (.obj (update merged (changes.filter (·.1 ≠ py "extra"))))

/-- `c.model_copy(update={"extra": e})` -/
def AgentCard.setExtra (c : AgentCard) (e : Mapping) : Py AgentCard :=
  AgentCard.modelCopy c [(py "extra", .obj e.items)]

/-! ## The merged form -/

variable {c c' : AgentCard} {e : Mapping}

theorem setExtra_ok_iff :
    AgentCard.setExtra c e = .ok c' ↔ ReadFrom (mergedExtra c e.items) c' :=
  AgentCard.modelValidate_ok_iff

/-- **UNDER A FIELD'S NAME** the mapping wins over the card; other names are the mapping's only. -/
theorem lookup_mergedExtra {k : PyStr} : (mergedExtra c e.items).lookup k
    = if k ∈ cardFields then (e.items.lookup k).or (c.modelDump.lookup k) else e.items.lookup k := by
  have hfilter := lookup_filter (d := c.modelDump) (k := k)
    fun k => decide (k ∈ cardFields ∨ k ∈ e.items.map Prod.fst)
  rw [mergedExtra, lookup_update e.nodup, hfilter]
  by_cases hk : k ∈ cardFields
  · rw [if_pos hk, if_pos (decide_eq_true (Or.inl hk))]
  · rw [if_neg hk]
    by_cases hmem : k ∈ e.items.map Prod.fst
    · obtain ⟨v, hv⟩ := mem_keys_iff.mp hmem
      rw [hv]
      rfl
    · have hneither : ¬ (k ∈ cardFields ∨ k ∈ e.items.map Prod.fst) := not_or.mpr ⟨hk, hmem⟩
      rw [if_neg (by rw [decide_eq_true_iff]; exact hneither)]
      exact Option.or_none

/-- A field every dump has is the mapping's, or else the card's. -/
theorem lookup_mergedField {k : PyStr} {v : Json} (hk : k ∈ cardFields)
    (h : (fieldMembers c).lookup k = some v) :
    (mergedExtra c e.items).lookup k = some (getFieldOr e.items k v) := by
  rw [lookup_mergedExtra, if_pos hk, lookup_cardDump c h, getFieldOr]
  cases e.items.lookup k with
  | none => rfl
  | some w => rfl

theorem getFieldOr_mergedField {k : PyStr} {v : Json} (dflt : Json) (hk : k ∈ cardFields)
    (h : (fieldMembers c).lookup k = some v) :
    getFieldOr (mergedExtra c e.items) k dflt = getFieldOr e.items k v := by
  rw [getFieldOr, lookup_mergedField hk h]
  rfl

/-- So are the critical names, which the dump sorts. -/
theorem getFieldOr_mergedCritical :
    getFieldOr (mergedExtra c e.items) (py "critical") (.arr [])
      = getFieldOr e.items (py "critical") (strs (sortedStrs c.critical)) := by
  rw [getFieldOr, lookup_mergedExtra, if_pos (show py "critical" ∈ cardFields by decide),
    lookup_critical, getFieldOr]
  cases e.items.lookup (py "critical") with
  | some w => rfl
  | none =>
      by_cases hc : c.critical = []
      · rw [if_pos hc, hc]
        rfl
      · rw [if_neg hc]
        rfl

/-- The extensions are what the mapping holds under other names than the fields'. -/
theorem same_filter_mergedExtra :
    Same ((mergedExtra c e.items).filter (·.1 ∉ cardFields))
      (e.items.filter (·.1 ∉ cardFields)) := by
  intro k
  have hmerged := lookup_filter (d := mergedExtra c e.items) (k := k)
    fun k => decide (k ∉ cardFields)
  have hitems := lookup_filter (d := e.items) (k := k) fun k => decide (k ∉ cardFields)
  rw [hmerged, hitems, lookup_mergedExtra]
  by_cases hk : k ∈ cardFields
  · rw [if_neg (by simpa using hk), if_neg (by simpa using hk)]
  · rw [if_neg hk]

/-! ## What a copy holds -/

/-- The copy has the mapping's value for each field the mapping names, and the card's for the
    others; its critical names are sorted, and its extensions are the rest of the mapping. -/
structure CopiedFrom (c : AgentCard) (e : Members) (c' : AgentCard) : Prop where
  amp : c'.amp = getFieldOr e (py "amp") c.amp
  address : getFieldOr e (py "address") (.str c.address) = .str c'.address
  name : getFieldOr e (py "name") (.str c.name) = .str c'.name
  kind : participantKind (getFieldOr e (py "kind") (.str c.kind.value)) = .ok c'.kind
  operator : c'.operator = getFieldOr e (py "operator") c.operator
  signingKey : getFieldOr e (py "signing_key") (.str c.signingKey) = .str c'.signingKey
  agreementKey : getFieldOr e (py "agreement_key") (.str c.agreementKey) = .str c'.agreementKey
  agreementPrekey : c'.agreementPrekey = getFieldOr e (py "agreement_prekey") c.agreementPrekey
  payloadTypes : iterate (getFieldOr e (py "payload_types") (.arr c.payloadTypes))
    = .ok c'.payloadTypes
  endpoints : getFieldOr e (py "endpoints") (.obj c.endpoints) = .obj c'.endpoints
  policySummary : c'.policySummary = getFieldOr e (py "policy_summary") c.policySummary
  signature : c'.signature = getFieldOr e (py "signature") c.signature
  critical : iterate (getFieldOr e (py "critical") (strs (sortedStrs c.critical)))
    = .ok (c'.critical.map .str)
  extra : Same c'.extra (e.filter (·.1 ∉ cardFields))

/-- **WHAT A COPY HOLDS.** -/
theorem copiedFrom_of_ok (h : AgentCard.setExtra c e = .ok c') : CopiedFrom c e.items c' := by
  have R := setExtra_ok_iff.mp h
  have hstr : ∀ {k : PyStr} {s s' : PyStr}, k ∈ cardFields → (fieldMembers c).lookup k = some (.str s) →
      (mergedExtra c e.items).lookup k = some (.str s') →
      getFieldOr e.items k (.str s) = .str s' := by
    intro k s s' hk hfield hlookup
    rw [lookup_mergedField hk hfield] at hlookup
    exact Option.some.inj hlookup
  constructor
  case amp => exact R.amp.trans (getFieldOr_mergedField _ (by decide) rfl)
  case address => exact hstr (by decide) rfl R.address
  case name => exact hstr (by decide) rfl R.name
  case kind =>
    have hkind := R.kind
    rwa [getFieldOr_mergedField _ (by decide)
      (show (fieldMembers c).lookup (py "kind") = some (.str c.kind.value) from rfl)] at hkind
  case operator => exact R.operator.trans (getFieldOr_mergedField _ (by decide) rfl)
  case signingKey => exact hstr (by decide) rfl R.signingKey
  case agreementKey => exact hstr (by decide) rfl R.agreementKey
  case agreementPrekey => exact R.agreementPrekey.trans (getFieldOr_mergedField _ (by decide) rfl)
  case payloadTypes =>
    have htypes := R.payloadTypes
    rwa [getFieldOr_mergedField _ (by decide) (show (fieldMembers c).lookup (py "payload_types")
      = some (.arr c.payloadTypes) from rfl)] at htypes
  case endpoints =>
    exact (getFieldOr_mergedField _ (by decide) rfl).symm.trans R.endpoints
  case policySummary => exact R.policySummary.trans (getFieldOr_mergedField _ (by decide) rfl)
  case signature => exact R.signature.trans (getFieldOr_mergedField _ (by decide) rfl)
  case critical =>
    have hcritical := R.critical
    rwa [getFieldOr_mergedCritical] at hcritical
  case extra =>
    rw [R.extra]
    exact same_filter_mergedExtra

/-! ## Which mappings are taken -/

/-- The checks of the constructor, on the mapping's value for each field it names; and every
    critical name is a key of the mapping that no field has. -/
structure Accepted (c : AgentCard) (e : Members) : Prop where
  address : ∃ s, getFieldOr e (py "address") (.str c.address) = .str s
  name : ∃ s, getFieldOr e (py "name") (.str c.name) = .str s
  kind : ∃ kind, participantKind (getFieldOr e (py "kind") (.str c.kind.value)) = .ok kind
  signingKey : ∃ s, getFieldOr e (py "signing_key") (.str c.signingKey) = .str s
  agreementKey : ∃ s, getFieldOr e (py "agreement_key") (.str c.agreementKey) = .str s
  payloadTypes : ∃ items,
    iterate (getFieldOr e (py "payload_types") (.arr c.payloadTypes)) = .ok items
  endpoints : ∃ members, getFieldOr e (py "endpoints") (.obj c.endpoints) = .obj members
  critical : ∃ names : List PyStr,
    iterate (getFieldOr e (py "critical") (strs c.critical)) = .ok (names.map .str) ∧
      ∀ name ∈ names, name ∈ e.map Prod.fst ∧ name ∉ cardFields

theorem iterate_strs_ok_iff {names names' : List PyStr} :
    iterate (strs names) = .ok (names'.map .str) ↔ names = names' := by
  constructor
  · intro h
    exact List.map_injective_iff.mpr (fun _ _ h => Json.str.inj h) (Except.ok.inj h)
  · rintro rfl
    rfl

/-- The order of the card's critical names does not matter for what is accepted. -/
theorem critical_accepted_iff {c : AgentCard} {e : Members} {P : PyStr → Prop} :
    (∃ names : List PyStr, iterate (getFieldOr e (py "critical") (strs c.critical))
        = .ok (names.map .str) ∧ ∀ name ∈ names, P name) ↔
      ∃ names : List PyStr, iterate (getFieldOr e (py "critical") (strs (sortedStrs c.critical)))
        = .ok (names.map .str) ∧ ∀ name ∈ names, P name := by
  simp only [getFieldOr]
  cases e.lookup (py "critical") with
  | some v => rfl
  | none =>
      simp only [Option.getD_none, iterate_strs_ok_iff, exists_eq_left', mem_sortedStrs]

theorem mem_keys_filter_fields {e : Members} {k : PyStr} :
    k ∈ (e.filter (·.1 ∉ cardFields)).map Prod.fst ↔ k ∈ e.map Prod.fst ∧ k ∉ cardFields := by
  constructor
  · intro hk
    obtain ⟨m, hm, rfl⟩ := List.mem_map.mp hk
    obtain ⟨hmem, hfield⟩ := List.mem_filter.mp hm
    exact ⟨List.mem_map_of_mem hmem, of_decide_eq_true hfield⟩
  · rintro ⟨hk, hfield⟩
    obtain ⟨m, hm, rfl⟩ := List.mem_map.mp hk
    exact List.mem_map_of_mem (List.mem_filter.mpr ⟨hm, decide_eq_true hfield⟩)

/-- **WHICH MAPPINGS ARE TAKEN.** -/
theorem exists_setExtra_iff : (∃ c', AgentCard.setExtra c e = .ok c') ↔ Accepted c e.items := by
  constructor
  · rintro ⟨c', h⟩
    have C := copiedFrom_of_ok h
    refine ⟨⟨_, C.address⟩, ⟨_, C.name⟩, ⟨_, C.kind⟩, ⟨_, C.signingKey⟩, ⟨_, C.agreementKey⟩,
      ⟨_, C.payloadTypes⟩, ⟨_, C.endpoints⟩, critical_accepted_iff.mpr ⟨_, C.critical, ?_⟩⟩
    intro name hname
    exact mem_keys_filter_fields.mp (C.extra.mem_keys.mp (c'.critical_present name hname))
  · rintro ⟨⟨address, haddress⟩, ⟨name, hname⟩, ⟨kind, hkind⟩, ⟨signingKey, hsigning⟩,
      ⟨agreementKey, hagreement⟩, ⟨payloadTypes, htypes⟩, ⟨endpoints, hendpoints⟩, hcritical⟩
    obtain ⟨critical, hcritical, hpresent⟩ := critical_accepted_iff.mp hcritical
    have hstr : ∀ {k : PyStr} {v w : Json}, k ∈ cardFields → (fieldMembers c).lookup k = some v →
        getFieldOr e.items k v = w → (mergedExtra c e.items).lookup k = some w := by
      intro k v w hk hfield hvalue
      rw [lookup_mergedField hk hfield, hvalue]
    refine ⟨⟨getFieldOr (mergedExtra c e.items) (py "amp") (.str defaultProtocolVersion), address,
      name, kind, getFieldOr (mergedExtra c e.items) (py "operator") .null, signingKey, agreementKey,
      getFieldOr (mergedExtra c e.items) (py "agreement_prekey") .null, payloadTypes, endpoints,
      getFieldOr (mergedExtra c e.items) (py "policy_summary") (.str []),
      getFieldOr (mergedExtra c e.items) (py "signature") (.str []), critical,
      (mergedExtra c e.items).filter (·.1 ∉ cardFields), extensions_shadow_nothing _, ?_⟩,
      setExtra_ok_iff.mpr ⟨rfl, ?_, ?_, ?_, rfl, ?_, ?_, rfl, ?_, ?_, rfl, rfl, ?_, rfl⟩⟩
    · intro name hname
      exact same_filter_mergedExtra.mem_keys.mpr (mem_keys_filter_fields.mpr (hpresent name hname))
    · exact hstr (by decide) rfl haddress
    · exact hstr (by decide) rfl hname
    · rw [getFieldOr_mergedField _ (by decide)
        (show (fieldMembers c).lookup (py "kind") = some (.str c.kind.value) from rfl)]
      exact hkind
    · exact hstr (by decide) rfl hsigning
    · exact hstr (by decide) rfl hagreement
    · rw [getFieldOr_mergedField _ (by decide) (show (fieldMembers c).lookup (py "payload_types")
        = some (.arr c.payloadTypes) from rfl)]
      exact htypes
    · rw [getFieldOr_mergedField _ (by decide) (show (fieldMembers c).lookup (py "endpoints")
        = some (.obj c.endpoints) from rfl)]
      exact hendpoints
    · rw [getFieldOr_mergedCritical]
      exact hcritical

/-! ## When nothing else changes -/

/-- The cards agree on every field but the extensions. -/
structure SameFields (c c' : AgentCard) : Prop where
  amp : c'.amp = c.amp
  address : c'.address = c.address
  name : c'.name = c.name
  kind : c'.kind = c.kind
  operator : c'.operator = c.operator
  signingKey : c'.signingKey = c.signingKey
  agreementKey : c'.agreementKey = c.agreementKey
  agreementPrekey : c'.agreementPrekey = c.agreementPrekey
  payloadTypes : c'.payloadTypes = c.payloadTypes
  endpoints : c'.endpoints = c.endpoints
  policySummary : c'.policySummary = c.policySummary
  signature : c'.signature = c.signature
  critical : c'.critical = c.critical

/-- No key of the mapping is the name of a field. -/
def NamesNoField (e : Members) : Prop := ∀ k ∈ e.map Prod.fst, k ∉ cardFields

/-- **THE COPY'S EXTENSIONS** are the mapping exactly when it names no field. -/
theorem same_extra_iff (h : AgentCard.setExtra c e = .ok c') :
    Same c'.extra e.items ↔ NamesNoField e.items := by
  have hextra := (copiedFrom_of_ok h).extra
  constructor
  · intro hsame k hk
    have hmem := hextra.mem_keys.mp (hsame.mem_keys.mpr hk)
    exact (mem_keys_filter_fields.mp hmem).2
  · intro hnames
    rwa [filter_fresh hnames] at hextra

theorem getFieldOr_of_namesNoField {e : Members} (h : NamesNoField e) {k : PyStr}
    (hk : k ∈ cardFields) (dflt : Json) : getFieldOr e k dflt = dflt := by
  rw [getFieldOr, lookup_eq_none.mpr fun hmem => h k hmem hk]
  rfl

/-- **THE OTHER FIELDS** of a copy, when the mapping names none: only the critical names move. -/
theorem fields_of_namesNoField (hnames : NamesNoField e.items)
    (h : AgentCard.setExtra c e = .ok c') :
    SameFields c c' ↔ c.critical.Pairwise (· ≤ ·) := by
  have C := copiedFrom_of_ok h
  have hfield : ∀ {k : PyStr} (dflt : Json), k ∈ cardFields →
      getFieldOr e.items k dflt = dflt := fun dflt hk => getFieldOr_of_namesNoField hnames hk dflt
  have hstr : ∀ {k s s' : PyStr}, k ∈ cardFields →
      getFieldOr e.items k (.str s) = .str s' → s' = s := by
    intro k s s' hk hvalue
    rw [hfield _ hk] at hvalue
    exact (Json.str.inj hvalue).symm
  have hcritical : c'.critical = sortedStrs c.critical := by
    have := C.critical
    rw [hfield _ (by decide)] at this
    exact (iterate_strs_ok_iff.mp this).symm
  constructor
  · intro hsame
    exact sortedStrs_eq_iff.mp (hcritical.symm.trans hsame.critical)
  · intro hsorted
    constructor
    case amp => rw [C.amp, hfield _ (by decide)]
    case address => exact hstr (by decide) C.address
    case name => exact hstr (by decide) C.name
    case kind =>
      have hkind := C.kind
      rw [hfield _ (by decide), participantKind_ok_iff.mpr rfl] at hkind
      exact (Except.ok.inj hkind).symm
    case operator => rw [C.operator, hfield _ (by decide)]
    case signingKey => exact hstr (by decide) C.signingKey
    case agreementKey => exact hstr (by decide) C.agreementKey
    case agreementPrekey => rw [C.agreementPrekey, hfield _ (by decide)]
    case payloadTypes =>
      have htypes := C.payloadTypes
      rw [hfield _ (by decide)] at htypes
      exact (Except.ok.inj htypes).symm
    case endpoints =>
      have hendpoints := C.endpoints
      rw [hfield _ (by decide)] at hendpoints
      exact (Json.obj.inj hendpoints).symm
    case policySummary => rw [C.policySummary, hfield _ (by decide)]
    case signature => rw [C.signature, hfield _ (by decide)]
    case critical => exact hcritical.trans (sortedStrs_eq_iff.mpr hsorted)

/-- **WHEN SETTING EXTENSIONS CHANGES NOTHING ELSE.**  Setting `e` on `c` raises, or returns a card
    with these extensions and the other fields of `c`, exactly when `e` is refused, or names no
    field while the critical names of `c` stand in order.  And of two mappings set in turn, the
    extensions are the second exactly when the second names no field. -/
theorem set_extra_iff (c : AgentCard) (e : Mapping) :
    ((∀ c', AgentCard.setExtra c e = .ok c' → Same c'.extra e.items ∧ SameFields c c') ↔
      (¬ Accepted c e.items ∨ NamesNoField e.items ∧ c.critical.Pairwise (· ≤ ·))) ∧
    ∀ e' c' c'', AgentCard.setExtra c e = .ok c' → AgentCard.setExtra c' e' = .ok c'' →
      (Same c''.extra e'.items ↔ NamesNoField e'.items) := by
  refine ⟨⟨fun hframe => ?_, fun hwhen c' h => ?_⟩, fun e' c' c'' _ h => same_extra_iff h⟩
  · rw [← exists_setExtra_iff, or_iff_not_imp_left, not_not]
    rintro ⟨c', h⟩
    obtain ⟨hsame, hfields⟩ := hframe c' h
    have hnames := (same_extra_iff h).mp hsame
    exact ⟨hnames, (fields_of_namesNoField hnames h).mp hfields⟩
  · rcases hwhen with hrefused | ⟨hnames, hsorted⟩
    · exact absurd (exists_setExtra_iff.mp ⟨c', h⟩) hrefused
    · exact ⟨(same_extra_iff h).mpr hnames, (fields_of_namesNoField hnames h).mpr hsorted⟩

/-! ## A field rewritten by an extension -/

theorem no_extension_shadows : ∀ k ∈ ([] : Members).map Prod.fst, k ∉ cardFields :=
  fun _ hk => absurd hk List.not_mem_nil

/-- The card of key 1. -/
def plainCard : AgentCard where
  amp := .str defaultProtocolVersion
  address := constAddress 1
  name := py "worker"
  kind := .agent
  operator := .null
  signingKey := base58Encode (constKey 1)
  agreementKey := base58Encode (constKey 1)
  agreementPrekey := .null
  payloadTypes := []
  endpoints := []
  policySummary := .str []
  signature := .str []
  critical := []
  extra := []
  extra_shadows_nothing := no_extension_shadows
  critical_present := nothing_critical

/-- The address of key 2, offered as an extension. -/
def shadowMapping : Mapping := ⟨[(py "address", .str (constAddress 2))], List.nodup_singleton _⟩

theorem accepted_shadowMapping : Accepted plainCard shadowMapping.items :=
  ⟨⟨_, rfl⟩, ⟨_, rfl⟩, ⟨.agent, participantKind_ok_iff.mpr rfl⟩, ⟨_, rfl⟩, ⟨_, rfl⟩, ⟨_, rfl⟩,
    ⟨_, rfl⟩, ⟨[], rfl, fun _ hname => absurd hname List.not_mem_nil⟩⟩

/-- **THE ADDRESS IS REWRITTEN**: the copy has the address of key 2 and no extension. -/
theorem shadow_promoted : ∃ c', AgentCard.setExtra plainCard shadowMapping = .ok c' ∧
    c'.address = constAddress 2 ∧ ¬ (Same c'.extra shadowMapping.items ∧ SameFields plainCard c') := by
  obtain ⟨c', h⟩ := exists_setExtra_iff.mpr accepted_shadowMapping
  have haddress : Json.str (constAddress 2) = .str c'.address := (copiedFrom_of_ok h).address
  refine ⟨c', h, (Json.str.inj haddress).symm, fun hsame => ?_⟩
  exact (same_extra_iff h).mp hsame.1 (py "address") List.mem_cons_self (by decide)

end AgentCardCopy
