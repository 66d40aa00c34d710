import AgentId.Dict
import AgentId.IsoText
import AgentId.Revocation

/-!
# Records on the wire

A record is dumped, carried, and read again on the other side.  What comes back is the record
with its critical names in order, which signs the same payload, so a record that verifies before
the trip verifies after it.

* **`Delegation.modelValidate_modelDump`** — a grant comes back with its critical names sorted.
* **`KeyRevocation.modelValidate_modelDump`** — so does a key recall, proof chain included.
* **`rewireRecall_verify`** — what comes back verifies exactly when what was sent did.
-/

namespace AgentWireForm

open AgentPy AgentTimezone AgentDict AgentJson AgentSigning AgentSerde AgentIsoText AgentDelegation
  AgentChainVerdict AgentRevocation

/-! ## Sorted names -/

/-- Sorted names are in order. -/
theorem sortedStrs_pairwise (names : List PyStr) : (sortedStrs names).Pairwise (· ≤ ·) :=
  List.pairwise_insertionSort _ _

/-- Sorting keeps the names. -/
theorem mem_sortedStrs {names : List PyStr} {name : PyStr} :
    name ∈ sortedStrs names ↔ name ∈ names :=
  (List.perm_insertionSort _ _).mem_iff

/-- Sorting what is sorted changes nothing. -/
theorem sortedStrs_sortedStrs (names : List PyStr) :
    sortedStrs (sortedStrs names) = sortedStrs names :=
  List.Pairwise.insertionSort_eq (sortedStrs_pairwise names)

/-- Names in order, and only those, are sorted already. -/
theorem sortedStrs_eq_iff {names : List PyStr} :
    sortedStrs names = names ↔ names.Pairwise (· ≤ ·) :=
  ⟨fun h => h ▸ sortedStrs_pairwise names, List.Pairwise.insertionSort_eq⟩

theorem sortedStrs_eq_nil_iff {names : List PyStr} : sortedStrs names = [] ↔ names = [] := by
  rw [← List.length_eq_zero_iff, ← List.length_eq_zero_iff, sortedStrs, List.length_insertionSort]

/-- The scopes on the wire are the scopes of the grant. -/
theorem toFinset_sortedScopes (scopes : Finset PyStr) : (sortedScopes scopes).toFinset = scopes :=
  Finset.sort_toFinset _ _

/-- An array of strings is read back. -/
theorem mapM_requireStr_strs (name : PyStr) (names : List PyStr) :
    (names.map Json.str).mapM (requireStr name) = .ok names :=
  mapM_requireStr_ok_iff.mpr rfl

/-! ## Grants -/

/-- The grant with its critical names in order: what the wire form says of it. -/
def rewireGrant (d : Delegation) : Delegation where
  issuer := d.issuer
  subject := d.subject
  scopes := d.scopes
  issuedAt := d.issuedAt
  expiresAt := d.expiresAt
  signature := d.signature
  critical := sortedStrs d.critical
  extra := d.extra
  extra_nodup := d.extra_nodup
  extra_shadows_nothing := d.extra_shadows_nothing
  critical_present name hname := d.critical_present name (mem_sortedStrs.mp hname)

/-- **IT SIGNS THE SAME PAYLOAD.** -/
theorem rewireGrant_payload (d : Delegation) : (rewireGrant d).payload = d.payload := by
  rw [Delegation.payload, Delegation.payload]
  show Json.obj (_ ++ (if sortedStrs d.critical = [] then []
    else [(py "critical", strs (sortedStrs (sortedStrs d.critical)))]) ++ _) = _
  rw [sortedStrs_sortedStrs]
  simp only [sortedStrs_eq_nil_iff]
  rfl

/-- It is signed when the grant is. -/
theorem rewireGrant_signed {H : Host} {d : Delegation} :
    (rewireGrant d).Signed H ↔ d.Signed H := by
  rw [Delegation.Signed, Delegation.Signed, rewireGrant_payload]
  rfl

/-- The five members every grant has. -/
def requiredMembers (d : Delegation) : Members :=
  [(py "issuer", .str d.issuer), (py "subject", .str d.subject),
    (py "scopes", strs (sortedScopes d.scopes)),
    (py "issued_at", .str (canonicalTimestamp d.issuedAt)),
    (py "expires_at", .str (canonicalTimestamp d.expiresAt))]

/-- The member a grant with critical names has. -/
def criticalMember (d : Delegation) : Members :=
  if d.critical = [] then [] else [(py "critical", strs (sortedStrs d.critical))]

/-- The wire form: the five, the critical names if any, the extensions, the signature. -/
theorem modelDump_eq (d : Delegation) : d.modelDump = .obj
    (requiredMembers d ++ criticalMember d ++ d.extra ++ [(py "signature", Json.str d.signature)]) := rfl

/-- The names of the five. -/
def requiredFields : List PyStr :=
  [py "issuer", py "subject", py "scopes", py "issued_at", py "expires_at"]

theorem map_fst_requiredMembers (d : Delegation) :
    (requiredMembers d).map Prod.fst = requiredFields := rfl

/-- The five names are declared fields. -/
theorem requiredFields_subset : ∀ k ∈ requiredFields, k ∈ delegationFields := by decide

/-- A name is not found among members that do not have it. -/
theorem lookup_extra (d : Delegation) {k : PyStr} (hk : k ∈ delegationFields) :
    d.extra.lookup k = none :=
  lookup_eq_none.mpr fun hmem => d.extra_shadows_nothing k hmem hk

/-- The critical names stand under one name, or none. -/
theorem map_fst_criticalMember (d : Delegation) :
    (criticalMember d).map Prod.fst ⊆ [py "critical"] := by
  simp only [criticalMember]
  by_cases hc : d.critical = []
  · rw [if_pos hc]
    exact List.nil_subset _
  · rw [if_neg hc]
    exact List.Subset.refl _

/-- What is no declared field in the wire form is the extensions of the grant. -/
theorem filter_modelDump (d : Delegation) :
    (requiredMembers d ++ criticalMember d ++ d.extra
      ++ [(py "signature", Json.str d.signature)]).filter (·.1 ∉ delegationFields) = d.extra := by
  have hcritical : (criticalMember d).map Prod.fst ⊆ delegationFields := fun k hk => by
    rw [List.mem_singleton.mp (map_fst_criticalMember d hk)]
    decide
  have hsignature : [py "signature"] ⊆ delegationFields := by decide
  refine filter_record ?_ d.extra_shadows_nothing
  rw [List.map_append, List.map_append]
  exact List.append_subset.mpr
    ⟨List.append_subset.mpr ⟨requiredFields_subset, hcritical⟩, hsignature⟩

/-- The wire form shows the critical names, sorted, or no such member. -/
theorem iterate_critical (d : Delegation) :
    iterate (getFieldOr (requiredMembers d ++ criticalMember d ++ d.extra
      ++ [(py "signature", Json.str d.signature)]) (py "critical") (.arr []))
      = .ok ((sortedStrs d.critical).map .str) := by
  -- it is no required member, and no extension may have its name
  have hrequired : (requiredMembers d).lookup (py "critical") = none :=
    lookup_eq_none.mpr (by rw [map_fst_requiredMembers]; decide)
  rw [getFieldOr, List.lookup_append, List.lookup_append, List.lookup_append, hrequired,
    lookup_extra d (by decide), criticalMember]
  by_cases hc : d.critical = []
  · rw [if_pos hc, hc]
    rfl
  · rw [if_neg hc]
    rfl

/-- The instants of a grant have four-digit years. -/
def GrantYears (d : Delegation) : Prop :=
  FourDigitYear d.issuedAt ∧ FourDigitYear d.expiresAt

/-- The constructor accepts the sorted names where it accepted the names. -/
theorem postInit_rewireGrant (d : Delegation) :
    Delegation.postInit d.issuer d.subject d.scopes d.issuedAt d.expiresAt d.signature
      (sortedStrs d.critical) d.extra = .ok (rewireGrant d) := by
  simp only [Delegation.postInit]
  rw [dif_pos d.extra_nodup, dif_pos d.extra_shadows_nothing,
    dif_pos fun name hname => d.critical_present name (mem_sortedStrs.mp hname)]
  rfl

/-- **A GRANT COMES BACK** with its critical names sorted. -/
theorem Delegation.modelValidate_modelDump {H : Host} (R : IsoReads H) {d : Delegation}
    (hyears : GrantYears d) : Delegation.modelValidate H d.modelDump = .ok (rewireGrant d) := by
  have hsignature : getFieldOr (requiredMembers d ++ criticalMember d ++ d.extra
      ++ [(py "signature", Json.str d.signature)]) (py "signature") (.str []) = .str d.signature := by
    have hrequired : (requiredMembers d).lookup (py "signature") = none :=
      lookup_eq_none.mpr (by rw [map_fst_requiredMembers]; decide)
    have hcritical : (criticalMember d).lookup (py "signature") = none :=
      lookup_eq_none.mpr fun hmem => absurd (map_fst_criticalMember d hmem) (by decide)
    rw [getFieldOr, List.lookup_append, List.lookup_append, List.lookup_append, hrequired,
      hcritical, lookup_extra d (by decide)]
    rfl
  have hfield : ∀ {k : PyStr} {v : Json}, (requiredMembers d).lookup k = some v →
      getField (requiredMembers d ++ criticalMember d ++ d.extra
        ++ [(py "signature", Json.str d.signature)]) k = .ok v := by
    intro k v h
    rw [getField, List.lookup_append, List.lookup_append, List.lookup_append, h]
    rfl
  have hissuer : (requiredMembers d).lookup (py "issuer") = some (.str d.issuer) := rfl
  have hsubject : (requiredMembers d).lookup (py "subject") = some (.str d.subject) := rfl
  have hscopes : (requiredMembers d).lookup (py "scopes") = some (strs (sortedScopes d.scopes)) := rfl
  have hissued : (requiredMembers d).lookup (py "issued_at")
      = some (.str (canonicalTimestamp d.issuedAt)) := rfl
  have hexpires : (requiredMembers d).lookup (py "expires_at")
      = some (.str (canonicalTimestamp d.expiresAt)) := rfl
  have hnames : requireStrs (py "scope") (strs (sortedScopes d.scopes))
      = .ok (sortedScopes d.scopes) := mapM_requireStr_strs _ _
  have hcritical := mapM_requireStr_strs (py "critical entry") (sortedStrs d.critical)
  -- the members in the order the reader takes them
  rw [modelDump_eq, Delegation.modelValidate, getItems]
  refine bind_ok_iff.mpr ⟨_, rfl, ?_⟩
  refine bind_ok_iff.mpr ⟨_, hfield hissuer, bind_ok_iff.mpr ⟨_, hfield hsubject, ?_⟩⟩
  refine bind_ok_iff.mpr ⟨_, hfield hscopes, bind_ok_iff.mpr ⟨_, hnames, ?_⟩⟩
  refine bind_ok_iff.mpr ⟨_, hfield hissued,
    bind_ok_iff.mpr ⟨_, parseDatetime_canonical R hyears.1 _, ?_⟩⟩
  refine bind_ok_iff.mpr ⟨_, hfield hexpires,
    bind_ok_iff.mpr ⟨_, parseDatetime_canonical R hyears.2 _, ?_⟩⟩
  refine bind_ok_iff.mpr ⟨_, iterate_critical d, ?_⟩
  refine bind_ok_iff.mpr ⟨_, rfl, bind_ok_iff.mpr ⟨_, rfl, ?_⟩⟩
  rw [hsignature]
  refine bind_ok_iff.mpr ⟨_, rfl, bind_ok_iff.mpr ⟨_, hcritical, ?_⟩⟩
  rw [filter_modelDump, toFinset_sortedScopes]
  exact postInit_rewireGrant d

/-! ## Chains and recalls -/

def rewireChain (chain : DelegationChain) : DelegationChain := ⟨chain.links.map rewireGrant⟩

def ChainYears (chain : DelegationChain) : Prop := ∀ link ∈ chain.links, GrantYears link

/-- **A CHAIN COMES BACK**, link by link. -/
theorem DelegationChain.modelValidate_modelDump {H : Host} (R : IsoReads H)
    {chain : DelegationChain} (hyears : ChainYears chain) :
    DelegationChain.modelValidate H chain.modelDump = .ok (rewireChain chain) := by
  have hlinks : (chain.links.map Delegation.modelDump).mapM (Delegation.modelValidate H)
      = .ok (chain.links.map rewireGrant) :=
    mapM_map_ok fun link hlink => Delegation.modelValidate_modelDump R (hyears link hlink)
  refine bind_ok_iff.mpr ⟨_, rfl, bind_ok_iff.mpr ⟨_, rfl, bind_ok_iff.mpr ⟨_, rfl, ?_⟩⟩⟩
  exact bind_ok_iff.mpr ⟨_, hlinks, rfl⟩

/-- A chain and its wire form prove control of the same keys. -/
theorem rewireChain_modelDump (chain : DelegationChain) :
    (rewireChain chain).modelDump = chain.modelDump := by
  have hlink : ∀ d : Delegation, (rewireGrant d).modelDump = d.modelDump := by
    intro d
    rw [Delegation.modelDump, Delegation.modelDump, rewireGrant_payload]
    rfl
  rw [DelegationChain.modelDump, DelegationChain.modelDump, rewireChain, List.map_map]
  simp only [Function.comp_def, hlink]

/-- The recall with its proof chain in wire form. -/
def rewireRecall (k : KeyRevocation) : KeyRevocation := { k with chain := k.chain.map rewireChain }

def RecallYears (k : KeyRevocation) : Prop :=
  FourDigitYear k.revokedAt ∧ ∀ chain ∈ k.chain, ChainYears chain

/-- **A KEY RECALL COMES BACK**, its proof chain included. -/
theorem KeyRevocation.modelValidate_modelDump {H : Host} (R : IsoReads H) {k : KeyRevocation}
    (hyears : RecallYears k) :
    KeyRevocation.modelValidate H k.modelDump = .ok (rewireRecall k) := by
  obtain ⟨address, issuer, revokedAt, chain, signature⟩ := k
  have hchain : validateChain H (dumpChain chain) = .ok (chain.map rewireChain) := by
    cases chain with
    | none => rfl
    | some chain =>
        exact bind_ok_iff.mpr
          ⟨_, DelegationChain.modelValidate_modelDump R (hyears.2 chain rfl), rfl⟩
  refine bind_ok_iff.mpr ⟨_, rfl, bind_ok_iff.mpr ⟨_, rfl, bind_ok_iff.mpr ⟨_, hchain, ?_⟩⟩⟩
  refine bind_ok_iff.mpr ⟨_, rfl, bind_ok_iff.mpr ⟨_, parseDatetime_canonical R hyears.1 _, ?_⟩⟩
  exact bind_ok_iff.mpr ⟨_, rfl, bind_ok_iff.mpr ⟨_, rfl, rfl⟩⟩

/-- **A REVOCATION COMES BACK** as it was. -/
theorem Revocation.modelValidate_modelDump {H : Host} (R : IsoReads H) {r : Revocation}
    (hyear : FourDigitYear r.revokedAt) : Revocation.modelValidate H r.modelDump = .ok r := by
  refine bind_ok_iff.mpr ⟨_, rfl, bind_ok_iff.mpr ⟨_, rfl, bind_ok_iff.mpr ⟨_, rfl, ?_⟩⟩⟩
  refine bind_ok_iff.mpr ⟨_, parseDatetime_canonical R hyear _, ?_⟩
  exact bind_ok_iff.mpr ⟨_, rfl, bind_ok_iff.mpr ⟨_, rfl, rfl⟩⟩

/-! ## Verification after the trip -/

variable {T : Type} [Moment T] {H : Host} {now : T}

/-- The digest covers the payload and the signature, so it is the same. -/
theorem rewireGrant_digest (d : Delegation) : (rewireGrant d).digest H = d.digest H := by
  have hsignature : (rewireGrant d).signature = d.signature := rfl
  rw [Delegation.digest, Delegation.digest, rewireGrant_payload, hsignature]

/-- A grant verifies after the trip exactly when it did before. -/
theorem rewireGrant_verify {d : Delegation} {opts : VerifyOptions} :
    (rewireGrant d).verify H now opts = .ok () ↔ d.verify H now opts = .ok () := by
  have hcritical : (∀ name ∈ (rewireGrant d).critical, name ∈ opts.understoodExtensions) ↔
      ∀ name ∈ d.critical, name ∈ opts.understoodExtensions :=
    forall_congr' fun name => imp_congr_left mem_sortedStrs
  rw [Delegation.verify_ok_iff, Delegation.verify_ok_iff, rewireGrant_signed, hcritical]
  rfl

/-- As a link it passes when it did, whatever is revoked. -/
theorem linkPasses_rewireGrant {d : Delegation} {opts : VerifyOptions}
    {revoked revokedKeys : Finset PyStr} :
    LinkPasses H now opts revoked revokedKeys (rewireGrant d) ↔
      LinkPasses H now opts revoked revokedKeys d := by
  constructor
  · rintro ⟨hverify, hdigest, hissuer, hsubject⟩
    exact ⟨rewireGrant_verify.mp hverify, rewireGrant_digest d ▸ hdigest, hissuer, hsubject⟩
  · rintro ⟨hverify, hdigest, hissuer, hsubject⟩
    exact ⟨rewireGrant_verify.mpr hverify, (rewireGrant_digest d).symm ▸ hdigest, hissuer, hsubject⟩

/-- A recall signs the same payload: its proof chain dumps the same. -/
theorem rewireRecall_payload (k : KeyRevocation) : (rewireRecall k).payload = k.payload := by
  obtain ⟨address, issuer, revokedAt, chain, signature⟩ := k
  cases chain with
  | none => rfl
  | some chain =>
      show Json.obj [_, (py "chain", (rewireChain chain).modelDump), _, _] = _
      rw [rewireChain_modelDump]
      rfl

/-- The links of a chain still meet. -/
theorem linked_rewireGrant (links : List Delegation) :
    Linked (links.map rewireGrant) ↔ Linked links := by
  rw [Linked, Linked, List.isChain_map]
  rfl

theorem forall_getLast?_rewire {links : List Delegation} {agent : PyStr} :
    (∀ last ∈ (links.map rewireGrant).getLast?, last.subject = agent) ↔
      ∀ last ∈ links.getLast?, last.subject = agent := by
  rw [List.getLast?_map]
  constructor
  · intro h last hlast
    exact h (rewireGrant last) (Option.mem_map_of_mem rewireGrant hlast)
  · intro h last hlast
    obtain ⟨d, hd, rfl⟩ := Option.map_eq_some_iff.mp hlast
    exact h d hd

/-- **WHAT COMES BACK OF A CHAIN** verifies to the same scopes. -/
theorem rewireChain_verify {chain : DelegationChain} {agent : PyStr} {opts : VerifyOptions}
    {revoked revokedKeys scopes : Finset PyStr} :
    (rewireChain chain).verify H agent now revoked revokedKeys opts = .ok scopes ↔
      chain.verify H agent now revoked revokedKeys opts = .ok scopes := by
  by_cases hne : chain.links = []
  -- an empty chain is refused before and after
  · have hempty : rewireChain chain = chain := by
      obtain ⟨links⟩ := chain
      cases hne
      rfl
    rw [hempty]
  · have hne' : (rewireChain chain).links ≠ [] := mt List.map_eq_nil_iff.mp hne
    rw [DelegationChain.verify_ok_iff hne, DelegationChain.verify_ok_iff hne']
    refine and_congr ?_ (and_congr (linked_rewireGrant _) (and_congr forall_getLast?_rewire ?_))
    · rw [rewireChain, List.forall_mem_map]
      exact forall₂_congr fun _ _ => linkPasses_rewireGrant
    · rw [IsEffective, IsEffective, rewireChain]
      simp only [List.forall_mem_map]
      rfl

/-- The proof chain still proves control of the key. -/
theorem provesControl_rewire {k : KeyRevocation} {chain : DelegationChain} :
    ProvesControl H (rewireRecall k) (rewireChain chain) ↔ ProvesControl H k chain := by
  have hroot : (rewireChain chain).rootIssuer = chain.rootIssuer := by
    rw [DelegationChain.rootIssuer, DelegationChain.rootIssuer, rewireChain, List.head?_map,
      Option.map_map]
    rfl
  constructor
  · rintro ⟨hrooted, hsigned, hlinked, hterm⟩
    exact ⟨hroot.symm.trans hrooted, fun link hlink => rewireGrant_signed.mp
      (hsigned _ (List.mem_map_of_mem hlink)), (linked_rewireGrant _).mp hlinked,
      forall_getLast?_rewire.mp hterm⟩
  · rintro ⟨hrooted, hsigned, hlinked, hterm⟩
    refine ⟨hroot.trans hrooted, ?_, (linked_rewireGrant _).mpr hlinked,
      forall_getLast?_rewire.mpr hterm⟩
    intro link hlink
    obtain ⟨d, hd, rfl⟩ := List.mem_map.mp hlink
    exact rewireGrant_signed.mpr (hsigned d hd)

/-- **WHAT COMES BACK VERIFIES** exactly when what was sent did. -/
theorem rewireRecall_verify {now : Datetime} {k : KeyRevocation} :
    (rewireRecall k).verify H now = .ok () ↔ k.verify H now = .ok () := by
  rw [KeyRevocation.verify_ok_iff, KeyRevocation.verify_ok_iff, rewireRecall_payload]
  refine and_congr_right fun _ => or_congr_right ?_
  constructor
  · rintro ⟨chain, hchain, h⟩
    obtain ⟨c, hc, rfl⟩ := Option.map_eq_some_iff.mp hchain
    exact ⟨c, hc, provesControl_rewire.mp h⟩
  · rintro ⟨chain, hchain, h⟩
    exact ⟨rewireChain chain, Option.map_eq_some_iff.mpr ⟨chain, hchain, rfl⟩,
      provesControl_rewire.mpr h⟩

end AgentWireForm
