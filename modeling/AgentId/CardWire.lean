import AgentId.Card
import AgentId.WireForm

/-!
# Cards on the wire

A card is dumped with its extensions among its fields, and read back by partitioning the names
again.  No extension has the name of a field, so the partition finds the same fields and the same
extensions; only the critical names come back in order.

* **`AgentCard.modelValidate_modelDump`** — a card comes back with its critical names sorted.
* **`rewireCard_payload`**, **`rewireCard_verify`** — which signs and verifies as before.
-/

namespace AgentCardWire

open AgentPy AgentDict AgentJson AgentSigning AgentSerde AgentDelegation AgentWireForm AgentCards

/-- The card with its critical names in order: what the wire form says of it. -/
def rewireCard (c : AgentCard) : AgentCard where
  amp := c.amp
  address := c.address
  name := c.name
  kind := c.kind
  operator := c.operator
  signingKey := c.signingKey
  agreementKey := c.agreementKey
  agreementPrekey := c.agreementPrekey
  payloadTypes := c.payloadTypes
  endpoints := c.endpoints
  policySummary := c.policySummary
  signature := c.signature
  critical := sortedStrs c.critical
  extra := c.extra
  extra_shadows_nothing := c.extra_shadows_nothing
  critical_present name hname := c.critical_present name (mem_sortedStrs.mp hname)

/-- **IT SIGNS THE SAME PAYLOAD.** -/
theorem rewireCard_payload (c : AgentCard) : (rewireCard c).payload = c.payload := by
  have hcritical : (rewireCard c).critical = sortedStrs c.critical := rfl
  rw [AgentCard.payload, AgentCard.payload, hcritical, sortedStrs_sortedStrs]
  by_cases hc : c.critical = []
  · rw [if_pos (sortedStrs_eq_nil_iff.mpr hc), if_pos hc]
    rfl
  · rw [if_neg (mt sortedStrs_eq_nil_iff.mp hc), if_neg hc]
    rfl

/-! ## The members of a dump -/

/-- The twelve members every card has. -/
def fieldMembers (c : AgentCard) : Members :=
  [(py "amp", c.amp), (py "address", .str c.address), (py "name", .str c.name),
    (py "kind", .str c.kind.value), (py "operator", c.operator),
    (py "signing_key", .str c.signingKey), (py "agreement_key", .str c.agreementKey),
    (py "agreement_prekey", c.agreementPrekey), (py "payload_types", .arr c.payloadTypes),
    (py "endpoints", .obj c.endpoints), (py "policy_summary", c.policySummary),
    (py "signature", c.signature)]

/-- The member a card with critical names has. -/
def cardCriticalMember (c : AgentCard) : Members :=
  if c.critical = [] then [] else [(py "critical", strs (sortedStrs c.critical))]

theorem cardDump_eq (c : AgentCard) :
    c.modelDump = fieldMembers c ++ cardCriticalMember c ++ c.extra := rfl

/-- The names of the twelve. -/
def alwaysFields : List PyStr :=
  [py "amp", py "address", py "name", py "kind", py "operator", py "signing_key",
    py "agreement_key", py "agreement_prekey", py "payload_types", py "endpoints",
    py "policy_summary", py "signature"]

theorem map_fst_fieldMembers (c : AgentCard) : (fieldMembers c).map Prod.fst = alwaysFields := rfl

theorem alwaysFields_subset : ∀ k ∈ alwaysFields, k ∈ cardFields := by decide

theorem map_fst_cardCriticalMember (c : AgentCard) :
    (cardCriticalMember c).map Prod.fst ⊆ [py "critical"] := by
  simp only [cardCriticalMember]
  by_cases hc : c.critical = []
  · rw [if_pos hc]
    exact List.nil_subset _
  · rw [if_neg hc]
    exact List.Subset.refl _

/-- No field is found among the extensions. -/
theorem lookup_cardExtra (c : AgentCard) {k : PyStr} (hk : k ∈ cardFields) :
    c.extra.lookup k = none :=
  lookup_eq_none.mpr fun hmem => c.extra_shadows_nothing k hmem hk

/-- A field that is always dumped is found first. -/
theorem lookup_cardDump (c : AgentCard) {k : PyStr} {v : Json}
    (h : (fieldMembers c).lookup k = some v) : c.modelDump.lookup k = some v := by
  rw [cardDump_eq, List.lookup_append, List.lookup_append, h]
  rfl

theorem getFieldOr_cardDump (c : AgentCard) {k : PyStr} {v : Json} (dflt : Json)
    (h : (fieldMembers c).lookup k = some v) : getFieldOr c.modelDump k dflt = v := by
  rw [getFieldOr, lookup_cardDump c h]
  rfl

/-- The critical names are dumped in order, or left out. -/
theorem lookup_critical (c : AgentCard) : c.modelDump.lookup (py "critical")
    = if c.critical = [] then none else some (strs (sortedStrs c.critical)) := by
  have hfields : (fieldMembers c).lookup (py "critical") = none :=
    lookup_eq_none.mpr (by rw [map_fst_fieldMembers]; decide)
  rw [cardDump_eq, List.lookup_append, List.lookup_append, hfields, lookup_cardExtra c (by decide),
    cardCriticalMember]
  by_cases hc : c.critical = []
  · rw [if_pos hc, if_pos hc]
    rfl
  · rw [if_neg hc, if_neg hc]
    rfl

theorem iterate_cardCritical (c : AgentCard) :
    iterate (getFieldOr c.modelDump (py "critical") (.arr []))
      = .ok ((sortedStrs c.critical).map .str) := by
  rw [getFieldOr, lookup_critical]
  by_cases hc : c.critical = []
  · rw [if_pos hc, hc]
    rfl
  · rw [if_neg hc]
    rfl

/-- Taking the fields away leaves the extensions. -/
theorem filter_cardDump (c : AgentCard) : c.modelDump.filter (·.1 ∉ cardFields) = c.extra := by
  have hknown : (fieldMembers c ++ cardCriticalMember c ++ []).map Prod.fst ⊆ cardFields := by
    rw [List.append_nil, List.map_append]
    refine List.append_subset.mpr ⟨alwaysFields_subset, fun k hk => ?_⟩
    rw [List.mem_singleton.mp (map_fst_cardCriticalMember c hk)]
    decide
  have hrecord := filter_record hknown c.extra_shadows_nothing
  rwa [List.append_nil] at hrecord

/-! ## The trip -/

/-- **A CARD COMES BACK** with its critical names sorted. -/
theorem AgentCard.modelValidate_modelDump (c : AgentCard) :
    AgentCard.modelValidate (.obj c.modelDump) = .ok (rewireCard c) := by
  refine AgentCard.modelValidate_ok_iff.mpr ?_
  constructor
  case amp => exact (getFieldOr_cardDump c _ rfl).symm
  case address => exact lookup_cardDump c rfl
  case name => exact lookup_cardDump c rfl
  case kind =>
    rw [getFieldOr_cardDump c _ (show (fieldMembers c).lookup (py "kind") = some (.str c.kind.value)
      from rfl)]
    exact participantKind_ok_iff.mpr rfl
  case operator => exact (getFieldOr_cardDump c _ rfl).symm
  case signingKey => exact lookup_cardDump c rfl
  case agreementKey => exact lookup_cardDump c rfl
  case agreementPrekey => exact (getFieldOr_cardDump c _ rfl).symm
  case payloadTypes =>
    rw [getFieldOr_cardDump c _ (show (fieldMembers c).lookup (py "payload_types")
      = some (.arr c.payloadTypes) from rfl)]
    rfl
  case endpoints => exact getFieldOr_cardDump c _ rfl
  case policySummary => exact (getFieldOr_cardDump c _ rfl).symm
  case signature => exact (getFieldOr_cardDump c _ rfl).symm
  case critical => exact iterate_cardCritical c
  case extra => exact (filter_cardDump c).symm

/-- **WHAT COMES BACK VERIFIES** exactly when what was sent did. -/
theorem rewireCard_verify {H : Host} {c : AgentCard} {understood : List PyStr} :
    (rewireCard c).verify H understood = .ok () ↔ c.verify H understood = .ok () := by
  have hcritical : (∀ name ∈ (rewireCard c).critical, name ∈ understood) ↔
      ∀ name ∈ c.critical, name ∈ understood :=
    forall_congr' fun name => imp_congr_left mem_sortedStrs
  rw [AgentCard.verify_ok_iff, AgentCard.verify_ok_iff, rewireCard_payload, hcritical]
  rfl

end AgentCardWire
