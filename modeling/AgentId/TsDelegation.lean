import AgentId.RotationText
import AgentId.SignedText
import AgentId.TsSigning
import AgentId.Utf16
import AgentId.WireForm

/-!
# Grants in TypeScript (`delegation.ts`)

The TypeScript package builds the payload of a grant with code of its own: scopes sorted by code
units, critical names as they were given, extensions assigned property by property.

* **`objectAssign_eq`** — assigning fresh properties appends them, `__proto__` apart.
* **`same_grant_iff`** — when both packages make the same payload of one grant, the same bytes
  and the same digest.
* **`unsorted_critical_differs`** — a grant whose critical names are not in order.
-/

namespace AgentTsDelegation

open AgentPy AgentDict AgentJson AgentCanonicalText AgentNormalization AgentJsonRender AgentSigning
  AgentTsCanonical AgentTsSigning AgentSerde AgentIsoText AgentSignedText AgentDelegation
  AgentWireForm AgentRotationText AgentUtf16

/-! ## JavaScript objects and sets -/

/-- The names every plain object answers to without having them (`Object.prototype`). -/
def objectPrototype : List PyStr :=
  [py "constructor", py "__defineGetter__", py "__defineSetter__", py "hasOwnProperty",
    py "__lookupGetter__", py "__lookupSetter__", py "isPrototypeOf", py "propertyIsEnumerable",
    py "toString", py "valueOf", py "__proto__", py "toLocaleString"]

/-- `name in object` -/
def isIn (name : PyStr) (object : List (PyStr × JsonValue)) : Prop :=
  name ∈ object.map Prod.fst ∨ name ∈ objectPrototype

instance isInDecidable (name : PyStr) (object : List (PyStr × JsonValue)) :
    Decidable (isIn name object) :=
  inferInstanceAs (Decidable (_ ∨ _))

def protoName : PyStr := py "__proto__"

/-- `object[name] = value`: an assignment to `__proto__` changes no property. -/
def setProperty (object : List (PyStr × JsonValue)) (name : PyStr) (value : JsonValue) :
    List (PyStr × JsonValue) :=
  if name = protoName then object
  else if name ∈ object.map Prod.fst then
    object.map fun m => if m.1 = name then (name, value) else m
  else object ++ [(name, value)]

/-- `Object.assign(target, source)` -/
def objectAssign (target source : List (PyStr × JsonValue)) : List (PyStr × JsonValue) :=
  source.foldl (fun object m => setProperty object m.1 m.2) target

/-- `[...new Set(items)]`, in the order of first insertion. -/
def setOf (items : List PyStr) : List PyStr :=
  items.foldl (fun set s => if s ∈ set then set else set ++ [s]) []

/-- **FRESH PROPERTIES ARE APPENDED**, all but `__proto__`. -/
theorem objectAssign_eq {target source : List (PyStr × JsonValue)}
    (hnodup : (source.map Prod.fst).Nodup)
    (hfresh : ∀ k ∈ source.map Prod.fst, k ∉ target.map Prod.fst) :
    objectAssign target source = target ++ source.filter (·.1 ≠ protoName) := by
  induction source generalizing target with
  | nil => exact (List.append_nil target).symm
  | cons m source ih =>
      obtain ⟨hm, hnodup⟩ := List.nodup_cons.mp hnodup
      obtain ⟨hmfresh, hfresh⟩ := List.forall_mem_cons.mp hfresh
      show objectAssign (setProperty target m.1 m.2) source = _
      by_cases hproto : m.1 = protoName
      · rw [setProperty, if_pos hproto, ih hnodup hfresh, List.filter_cons_of_neg (by simpa using hproto)]
      · rw [setProperty, if_neg hproto, if_neg hmfresh, ih hnodup, List.append_assoc,
          List.filter_cons_of_pos (by simpa using hproto)]
        · rfl
        · intro k hk hmem
          rw [List.map_append] at hmem
          rcases List.mem_append.mp hmem with h | h
          · exact hfresh k hk h
          · exact hm (List.mem_singleton.mp h ▸ hk)

/-- The loop of the two `fromJSON` methods that collects the extensions. -/
def collectExtra (known : List PyStr) (record : List (PyStr × JsonValue)) :
    List (PyStr × JsonValue) :=
  record.foldl (fun extra m =>
    if m.1 ∉ known ∧ m.1 ≠ py "extra" then setProperty extra m.1 m.2 else extra) []

/-- **COLLECTING THE EXTENSIONS** is assigning the members no field is named after. -/
theorem collectExtra_eq (known : List PyStr) {record : List (PyStr × JsonValue)}
    (hnodup : (record.map Prod.fst).Nodup) :
    collectExtra known record =
      record.filter fun m => m.1 ∉ known ∧ m.1 ≠ py "extra" ∧ m.1 ≠ protoName := by
  have hassign : collectExtra known record =
      objectAssign [] (record.filter fun m => m.1 ∉ known ∧ m.1 ≠ py "extra") := by
    rw [collectExtra, objectAssign, List.foldl_filter]
    simp only [decide_eq_true_iff]
  rw [hassign, objectAssign_eq, List.nil_append, List.filter_filter]
  · refine List.filter_congr fun m _ => ?_
    rw [Bool.eq_iff_iff]
    simp only [Bool.and_eq_true, decide_eq_true_iff]
    tauto
  · exact hnodup.sublist (List.filter_sublist.map Prod.fst)
  · exact fun _ _ => List.not_mem_nil

/-- Adding items one by one keeps each once, and no others. -/
theorem setOf_foldl (items set : List PyStr) (hset : set.Nodup) :
    (items.foldl (fun set s => if s ∈ set then set else set ++ [s]) set).Nodup ∧
      ∀ s, s ∈ items.foldl (fun set s => if s ∈ set then set else set ++ [s]) set ↔
        s ∈ set ∨ s ∈ items := by
  induction items generalizing set with
  | nil => exact ⟨hset, fun s => by simp⟩
  | cons x items ih =>
      rw [List.foldl_cons]
      by_cases hx : x ∈ set
      · rw [if_pos hx]
        obtain ⟨hnodup, hmem⟩ := ih set hset
        refine ⟨hnodup, fun s => ?_⟩
        rw [hmem, List.mem_cons]
        constructor
        · rintro (h | h)
          · exact Or.inl h
          · exact Or.inr (Or.inr h)
        · rintro (h | rfl | h)
          · exact Or.inl h
          · exact Or.inl hx
          · exact Or.inr h
      · rw [if_neg hx]
        have hset' : (set ++ [x]).Nodup :=
          List.nodup_append.mpr ⟨hset, List.nodup_singleton x, fun a ha b hb =>
            by rintro rfl; exact hx (List.mem_singleton.mp hb ▸ ha)⟩
        obtain ⟨hnodup, hmem⟩ := ih (set ++ [x]) hset'
        refine ⟨hnodup, fun s => ?_⟩
        rw [hmem, List.mem_append, List.mem_singleton, List.mem_cons, or_assoc]

theorem setOf_nodup (items : List PyStr) : (setOf items).Nodup :=
  (setOf_foldl items [] List.nodup_nil).1

/-- A `Set` has the items it was made from. -/
theorem mem_setOf {items : List PyStr} {s : PyStr} : s ∈ setOf items ↔ s ∈ items := by
  rw [setOf, (setOf_foldl items [] List.nodup_nil).2]
  simp

/-! ## `Delegation` -/

/-- `DELEGATION_KNOWN_FIELDS` -/
def tsDelegationKnownFields : List PyStr :=
  [py "issuer", py "subject", py "scopes", py "issued_at", py "expires_at", py "critical",
    py "signature"]

/-- A grant as the TypeScript constructor builds it; dates are milliseconds already. -/
structure TsDelegation where
  issuer : PyStr
  subject : PyStr
  scopes : List PyStr
  issuedAt : Timestamp
  expiresAt : Timestamp
  critical : Option (List PyStr)
  signature : PyStr
  extra : List (PyStr × JsonValue)
  extra_shadows_nothing : ∀ k ∈ extra.map Prod.fst, k ∉ tsDelegationKnownFields
  critical_present : ∀ name ∈ critical.getD [], isIn name extra

/-- `names.sort().join(", ")` -/
def joined (names : List PyStr) : PyStr := (py ", ").intercalate (sortByUnits names)

/-- The constructor, on fields of their declared types. -/
def TsDelegation.construct (issuer subject : PyStr) (scopes : List PyStr)
    (issuedAt expiresAt : Timestamp) (critical : Option (List PyStr)) (signature : PyStr)
    (extra : List (PyStr × JsonValue)) : Js TsDelegation :=
  let names := extra.map Prod.fst
  if hshadow : ∀ k ∈ names, k ∉ tsDelegationKnownFields then
    if hdangling : ∀ name ∈ critical.getD [], isIn name extra then
      .ok ⟨issuer, subject, setOf scopes, issuedAt, expiresAt, critical, signature, extra, hshadow,
        hdangling⟩
    else throwNew .error
      ["critical names extension fields not present on the delegation: ",
        .str (joined ((critical.getD []).filter fun name => ¬ isIn name extra))]
  else throwNew .error
    ["extra must not shadow known delegation fields: ",
      .str (joined (names.filter (· ∈ tsDelegationKnownFields)))]

/-- `canonicalTimestamp`: `toISOString` writes a four-digit year as `canonical_timestamp` does. -/
def tsCanonicalTimestamp (value : Timestamp) : PyStr := canonicalTimestamp value

/-- `payload()` -/
def TsDelegation.payload (t : TsDelegation) : List (PyStr × JsonValue) :=
  objectAssign
    ([(py "issuer", .string t.issuer), (py "subject", .string t.subject),
        (py "scopes", .array ((sortByUnits t.scopes).map .string)),
        (py "issued_at", .string (tsCanonicalTimestamp t.issuedAt)),
        (py "expires_at", .string (tsCanonicalTimestamp t.expiresAt))]
      ++ match t.critical with
        | none => []
        | some names => [(py "critical", .array (names.map .string))])
    t.extra

/-- `digest()` -/
def TsDelegation.digest (H : Host) (t : TsDelegation) : Js PyStr := do
  let signed ← tsSigningInput H.nfc contextDelegation (.object t.payload)
  let raw ← tsDecodeSignature (.string t.signature)
  .ok (hexdigest (H.sha256 (signed ++ raw)))

/-! ## The two payloads of one grant -/

variable {H : Host} {issuer subject signature : PyStr} {scopes : List PyStr}
  {issuedAt expiresAt : Timestamp} {critical : Option (List PyStr)}
  {extra : List (PyStr × JsonValue)} {d : Delegation} {t : TsDelegation}

/-- Both constructors were given these fields, and accepted them. -/
structure BuiltFrom (issuer subject : PyStr) (scopes : List PyStr) (issuedAt expiresAt : Timestamp)
    (critical : Option (List PyStr)) (signature : PyStr) (extra : List (PyStr × JsonValue))
    (d : Delegation) (t : TsDelegation) : Prop where
  python : Delegation.postInit issuer subject scopes.toFinset issuedAt expiresAt signature
    (critical.getD []) (asJsonMembers extra) = .ok d
  typescript : TsDelegation.construct issuer subject scopes issuedAt expiresAt critical signature
    extra = .ok t

/-- What the constructor keeps: the fields, with the scopes as a set. -/
theorem TsDelegation.construct_ok
    (h : TsDelegation.construct issuer subject scopes issuedAt expiresAt critical signature extra
      = .ok t) :
    ∃ hshadow hdangling, t = ⟨issuer, subject, setOf scopes, issuedAt, expiresAt, critical,
      signature, extra, hshadow, hdangling⟩ := by
  simp only [TsDelegation.construct] at h
  split_ifs at h with hshadow hdangling
  · exact ⟨hshadow, hdangling, (Except.ok.inj h).symm⟩
  · cases h
  · cases h

theorem map_fst_asJsonMembers (members : List (PyStr × JsonValue)) :
    (asJsonMembers members).map Prod.fst = members.map Prod.fst := by
  rw [asJsonMembers_eq_map, List.map_map]
  rfl

/-- The five members both packages write first, apart from the order of the scopes. -/
def fiveMembers (issuer subject : PyStr) (scopes : List PyStr) (issuedAt expiresAt : Timestamp) :
    Members :=
  [(py "issuer", .str issuer), (py "subject", .str subject), (py "scopes", strs scopes),
    (py "issued_at", .str (canonicalTimestamp issuedAt)),
    (py "expires_at", .str (canonicalTimestamp expiresAt))]

/-- What Python writes of the critical names: nothing of none, else in order. -/
def pyCritical (critical : Option (List PyStr)) : Members :=
  if critical.getD [] = [] then [] else [(py "critical", strs (sortedStrs (critical.getD [])))]

/-- What TypeScript writes of them: a list it was given, as it was given. -/
def tsCritical : Option (List PyStr) → Members
  | none => []
  | some names => [(py "critical", strs names)]

theorem asJson_strings (names : List PyStr) : asJson (.array (names.map .string)) = strs names := by
  rw [asJson, asJsonItems_eq_map, strs, List.map_map]
  refine congrArg _ (List.map_congr_left fun s _ => ?_)
  rw [Function.comp_apply, asJson]

/-- Members side by side are written side by side. -/
theorem asJsonMembers_append (a b : List (PyStr × JsonValue)) :
    asJsonMembers (a ++ b) = asJsonMembers a ++ asJsonMembers b := by
  rw [asJsonMembers_eq_map, asJsonMembers_eq_map, asJsonMembers_eq_map, List.map_append]

theorem asJsonMembers_filter (extra : List (PyStr × JsonValue)) :
    asJsonMembers (extra.filter (·.1 ≠ protoName))
      = (asJsonMembers extra).filter (·.1 ≠ protoName) := by
  rw [asJsonMembers_eq_map, asJsonMembers_eq_map, List.filter_map]
  rfl

/-- Extensions that Python accepts have distinct names. -/
theorem BuiltFrom.nodup
    (B : BuiltFrom issuer subject scopes issuedAt expiresAt critical signature extra d t) :
    (extra.map Prod.fst).Nodup := by
  obtain ⟨hdict, -, -, -⟩ := Delegation.postInit_ok B.python
  rwa [map_fst_asJsonMembers] at hdict

/-- **WHAT PYTHON SIGNS.** -/
theorem BuiltFrom.python_payload
    (B : BuiltFrom issuer subject scopes issuedAt expiresAt critical signature extra d t) :
    d.payload = .obj (fiveMembers issuer subject (sortedScopes scopes.toFinset) issuedAt expiresAt
      ++ pyCritical critical ++ asJsonMembers extra) := by
  obtain ⟨-, -, -, rfl⟩ := Delegation.postInit_ok B.python
  rfl

/-- **WHAT TYPESCRIPT SIGNS**: the members it knows, and the extensions but `__proto__`. -/
theorem BuiltFrom.ts_payload
    (B : BuiltFrom issuer subject scopes issuedAt expiresAt critical signature extra d t) :
    ∃ known, t.payload = known ++ extra.filter (·.1 ≠ protoName) ∧
      (∀ m ∈ known, Accepted m.2) ∧
      asJsonMembers known = fiveMembers issuer subject (sortByUnits (setOf scopes)) issuedAt expiresAt
        ++ tsCritical critical := by
  have hstrings : ∀ names : List PyStr, Accepted (.array (names.map .string)) := fun names =>
    .array (List.forall_mem_map.mpr fun s _ => .string s)
  have hnodup := B.nodup
  obtain ⟨hshadow, -, rfl⟩ := TsDelegation.construct_ok B.typescript
  rw [TsDelegation.payload, objectAssign_eq hnodup]
  · refine ⟨_, rfl, ?_, ?_⟩
    · rw [List.forall_mem_append]
      refine ⟨?_, ?_⟩
      · simp only [List.forall_mem_cons, List.not_mem_nil, false_imp_iff, implies_true, and_true]
        exact ⟨.string _, .string _, hstrings _, .string _, .string _⟩
      · cases critical with
        | none => exact fun m hm => absurd hm List.not_mem_nil
        | some names =>
            intro m hm
            rw [List.mem_singleton.mp hm]
            exact hstrings names
    · rw [asJsonMembers_append]
      cases critical with
      | none =>
          simp only [asJsonMembers, asJson_strings]
          simp only [asJson]
          rfl
      | some names =>
          simp only [asJsonMembers, asJson_strings]
          simp only [asJson]
          rfl
  · -- no extension has the name of a field
    intro k hk hmem
    refine hshadow k hk ?_
    cases critical with
    | none =>
        revert hmem
        show k ∈ requiredFields → _
        exact fun h => List.mem_append_left [py "critical", py "signature"] h
    | some names =>
        revert hmem
        show k ∈ requiredFields ++ [py "critical"] → _
        exact fun h => List.mem_append_left [py "signature"] h

/-- The payload TypeScript writes: five members, the critical names as given, the extensions but
    `__proto__`. -/
theorem BuiltFrom.asJson_payload
    (B : BuiltFrom issuer subject scopes issuedAt expiresAt critical signature extra d t) :
    asJson (.object t.payload)
      = .obj (fiveMembers issuer subject (sortByUnits (setOf scopes)) issuedAt expiresAt
        ++ tsCritical critical ++ (asJsonMembers extra).filter (·.1 ≠ protoName)) := by
  obtain ⟨known, hpayload, -, hknown⟩ := B.ts_payload
  rw [asJson, hpayload, asJsonMembers_append, asJsonMembers_filter, hknown]

/-! ## Member for member -/

/-- One object: the same value under every key. -/
def SameObject (v w : Json) : Prop :=
  ∃ members members', v = .obj members ∧ w = .obj members' ∧
    ∀ k, members.lookup k = members'.lookup k

/-- An array of strings has one list of them. -/
theorem strs_inj {a b : List PyStr} (h : strs a = strs b) : a = b :=
  List.map_injective_iff.mpr (fun _ _ h => Json.str.inj h) (Json.arr.inj h)

/-- **BOTH SORT THE SCOPES ALIKE** unless code units put two of them the other way round. -/
theorem sortByUnits_setOf_eq_iff (hscalar : ∀ s ∈ scopes, ∀ c ∈ s, IsScalar c) :
    sortByUnits (setOf scopes) = sortedScopes scopes.toFinset ↔
      ∀ a ∈ scopes, ∀ b ∈ scopes, a < b → ¬ Clash a b := by
  have hperm : (sortedScopes scopes.toFinset).Perm (setOf scopes) := by
    refine (List.perm_ext_iff_of_nodup (Finset.sort_nodup _ _) (setOf_nodup scopes)).mpr fun s => ?_
    rw [mem_setOf]
    exact (Finset.mem_sort _).trans List.mem_toFinset
  rw [sortByUnits_eq_iff (fun s hs => hscalar s (mem_setOf.mp hs)) hperm (Finset.pairwise_sort _ _)]
  simp only [mem_setOf]

/-- The critical names are written by both packages, or by neither, in one order. -/
def CriticalInOrder (critical : Option (List PyStr)) : Prop :=
  ∀ names ∈ critical, names ≠ [] ∧ names.Pairwise (· ≤ ·)

/-- The member under `critical` is the same exactly when the list is not empty and in order. -/
theorem lookup_critical_iff :
    (pyCritical critical).lookup (py "critical") = (tsCritical critical).lookup (py "critical") ↔
      CriticalInOrder critical := by
  have hlookup : ∀ v : Json, ([(py "critical", v)] : Members).lookup (py "critical") = some v :=
    fun v => List.lookup_cons_self
  cases critical with
  | none => exact iff_of_true rfl fun names h => nomatch h
  | some names =>
      rw [pyCritical, Option.getD_some, tsCritical, hlookup]
      by_cases hnil : names = []
      · rw [if_pos hnil, List.lookup_nil]
        exact iff_of_false (fun h => nomatch h) fun h => (h names rfl).1 hnil
      · rw [if_neg hnil, hlookup, Option.some.injEq]
        constructor
        · intro h names' hnames'
          cases hnames'
          exact ⟨hnil, sortedStrs_eq_iff.mp (strs_inj h)⟩
        · intro h
          rw [sortedStrs_eq_iff.mpr (h names rfl).2]

/-- The grant is written alike by both packages. -/
structure WrittenAlike (scopes : List PyStr) (critical : Option (List PyStr))
    (extra : List (PyStr × JsonValue)) : Prop where
  scopes : ∀ a ∈ scopes, ∀ b ∈ scopes, a < b → ¬ Clash a b
  critical : CriticalInOrder critical
  extra : protoName ∉ extra.map Prod.fst

/-- Then the payloads are one value. -/
theorem BuiltFrom.payload_eq
    (B : BuiltFrom issuer subject scopes issuedAt expiresAt critical signature extra d t)
    (hscalar : ∀ s ∈ scopes, ∀ c ∈ s, IsScalar c) (h : WrittenAlike scopes critical extra) :
    d.payload = asJson (.object t.payload) := by
  have hextra : (asJsonMembers extra).filter (·.1 ≠ protoName) = asJsonMembers extra := by
    refine filter_ne ?_
    rw [map_fst_asJsonMembers]
    exact h.extra
  have hcrit : pyCritical critical = tsCritical critical := by
    cases critical with
    | none => rfl
    | some names =>
        obtain ⟨hne, hsorted⟩ := h.critical names rfl
        rw [pyCritical, Option.getD_some, if_neg hne, sortedStrs_eq_iff.mpr hsorted]
        rfl
  rw [B.python_payload, B.asJson_payload, hextra, hcrit,
    (sortByUnits_setOf_eq_iff hscalar).mpr h.scopes]

/-- Other names are not among the five. -/
theorem lookup_fiveMembers {k : PyStr} (hk : k ∉ requiredFields) (scopes : List PyStr) :
    (fiveMembers issuer subject scopes issuedAt expiresAt).lookup k = none :=
  lookup_eq_none.mpr hk

/-- Nor under the critical names. -/
theorem lookup_critical_none {k : PyStr} (hk : k ≠ py "critical") :
    (pyCritical critical).lookup k = none ∧ (tsCritical critical).lookup k = none := by
  have hnone : ∀ v : Json, ([(py "critical", v)] : Members).lookup k = none := fun v =>
    lookup_eq_none.mpr fun hmem => hk (List.mem_singleton.mp hmem)
  refine ⟨?_, ?_⟩
  · simp only [pyCritical]
    split_ifs
    · rfl
    · exact hnone _
  · cases critical with
    | none => rfl
    | some names => exact hnone _

/-- **PAYLOADS THAT ARE THE SAME** member for member are written alike. -/
theorem BuiltFrom.writtenAlike
    (B : BuiltFrom issuer subject scopes issuedAt expiresAt critical signature extra d t)
    (hscalar : ∀ s ∈ scopes, ∀ c ∈ s, IsScalar c)
    (h : SameObject d.payload (asJson (.object t.payload))) :
    WrittenAlike scopes critical extra := by
  obtain ⟨members, members', hmembers, hmembers', hsame⟩ := h
  rw [B.python_payload] at hmembers
  rw [B.asJson_payload] at hmembers'
  obtain rfl := Json.obj.inj hmembers
  obtain rfl := Json.obj.inj hmembers'
  simp only [List.lookup_append] at hsame
  refine ⟨?_, ?_, fun hmem => ?_⟩
  · have hscopes := hsame (py "scopes")
    have hfive : ∀ names, (fiveMembers issuer subject names issuedAt expiresAt).lookup (py "scopes")
        = some (strs names) := fun _ => rfl
    rw [hfive, hfive] at hscopes
    exact (sortByUnits_setOf_eq_iff hscalar).mp (strs_inj (Option.some.inj hscopes)).symm
  · have hcritical := hsame (py "critical")
    obtain ⟨-, hshadow, -, -⟩ := Delegation.postInit_ok B.python
    have hnone : (asJsonMembers extra).lookup (py "critical") = none :=
      lookup_eq_none.mpr fun hmem => hshadow _ hmem (by decide)
    have hfilter : ((asJsonMembers extra).filter (·.1 ≠ protoName)).lookup (py "critical") = none :=
      lookup_eq_none.mpr fun hmem =>
        lookup_eq_none.mp hnone ((List.filter_sublist.map Prod.fst).subset hmem)
    rw [lookup_fiveMembers (by decide), lookup_fiveMembers (by decide), hnone, hfilter,
      Option.none_or, Option.none_or, Option.or_none, Option.or_none] at hcritical
    exact lookup_critical_iff.mp hcritical
  · have hproto := hsame protoName
    obtain ⟨hpy, hts⟩ := @lookup_critical_none critical protoName (by decide)
    rw [lookup_fiveMembers (by decide), lookup_fiveMembers (by decide), hpy, hts, lookup_filter_ne,
      Option.none_or, Option.none_or, Option.none_or, lookup_eq_none, map_fst_asJsonMembers] at hproto
    exact hproto hmem

/-! ## The same bytes and digest -/

/-- Both packages sign the same thing, and name it alike. -/
structure SameGrant (H : Host) (d : Delegation) (t : TsDelegation) : Prop where
  payload : SameObject d.payload (asJson (.object t.payload))
  bytes : ∃ message, signingInput H contextDelegation d.payload = .ok message ∧
    tsSigningInput H.nfc contextDelegation (.object t.payload) = .ok message
  digest : ∀ digest, d.digest H = .ok digest ↔ t.digest H = .ok digest

/-- What is asked of every string a grant is made of. -/
structure GrantStrings (P : PyStr → Prop) (issuer subject : PyStr) (scopes : List PyStr)
    (extra : List (PyStr × JsonValue)) : Prop where
  issuer : P issuer
  subject : P subject
  scopes : ∀ s ∈ scopes, P s
  extra : AllStrings P (.obj (asJsonMembers extra))

theorem allStrings_strs_iff {P : PyStr → Prop} {names : List PyStr} :
    AllStrings P (strs names) ↔ ∀ s ∈ names, P s := by
  constructor
  · intro h
    cases h with
    | arr hall =>
        intro s hs
        cases hall (.str s) (List.mem_map_of_mem hs) with
        | str h => exact h
  · exact fun h => .arr (List.forall_mem_map.mpr fun s hs => .str (h s hs))

/-- The strings of the payload are those of the fields, and plain ones. -/
theorem BuiltFrom.allStrings_iff
    (B : BuiltFrom issuer subject scopes issuedAt expiresAt critical signature extra d t)
    {P : PyStr → Prop} (hplain : ∀ s, IsPlain s → P s) :
    AllStrings P d.payload ↔ GrantStrings P issuer subject scopes extra := by
  have htime : ∀ t, P (canonicalTimestamp t) := fun t => hplain _ (isPlain_canonicalTimestamp t)
  have hscopes : (∀ s ∈ sortedScopes scopes.toFinset, P s) ↔ ∀ s ∈ scopes, P s := by
    refine forall_congr' fun s => imp_congr_left ?_
    exact (Finset.mem_sort _).trans List.mem_toFinset
  have hcritical : AllStrings P (.obj (asJsonMembers extra)) →
      ∀ m ∈ pyCritical critical, P m.1 ∧ AllStrings P m.2 := by
    obtain ⟨-, -, hdangling, -⟩ := Delegation.postInit_ok B.python
    intro hextra m hm
    simp only [pyCritical] at hm
    split_ifs at hm
    · exact absurd hm List.not_mem_nil
    · rw [List.mem_singleton.mp hm]
      refine ⟨hplain _ (show IsPlain (py "critical") by decide),
        allStrings_strs_iff.mpr fun name hname => ?_⟩
      obtain ⟨m', hm', rfl⟩ := List.mem_map.mp (hdangling name (mem_sortedStrs.mp hname))
      exact (allStrings_obj_iff.mp hextra m' hm').1
  rw [B.python_payload, allStrings_obj_iff]
  simp only [List.forall_mem_append, fiveMembers, List.forall_mem_cons, List.not_mem_nil,
    false_imp_iff, implies_true, and_true, allStrings_str_iff, allStrings_strs_iff, htime, hscopes]
  constructor
  · rintro ⟨⟨⟨⟨-, hissuer⟩, ⟨-, hsubject⟩, ⟨-, hscopes⟩, -⟩, -⟩, hextra⟩
    exact ⟨hissuer, hsubject, hscopes, allStrings_obj_iff.mpr hextra⟩
  · rintro ⟨hissuer, hsubject, hscopes, hextra⟩
    exact ⟨⟨⟨⟨hplain _ (by decide), hissuer⟩, ⟨hplain _ (by decide), hsubject⟩,
      ⟨hplain _ (by decide), hscopes⟩, hplain _ (by decide), hplain _ (by decide)⟩,
      hcritical hextra⟩, allStrings_obj_iff.mp hextra⟩

/-- One message, one digest. -/
theorem BuiltFrom.same_digest
    (B : BuiltFrom issuer subject scopes issuedAt expiresAt critical signature extra d t)
    {message : Bytes} (hpy : signingInput H contextDelegation d.payload = .ok message)
    (hts : tsSigningInput H.nfc contextDelegation (.object t.payload) = .ok message)
    (digest : PyStr) : d.digest H = .ok digest ↔ t.digest H = .ok digest := by
  have hsignature : d.signature = t.signature := by
    obtain ⟨_, _, _, hd⟩ := Delegation.postInit_ok B.python
    obtain ⟨_, _, ht⟩ := TsDelegation.construct_ok B.typescript
    rw [hd, ht]
  rw [Delegation.digest, TsDelegation.digest, hpy, hts, hsignature, bind_ok_iff, bind_ok_iff]
  simp only [bind_ok_iff, tsDecodeSignature_ok_iff, Except.ok.injEq]

/-- Plain text has no surrogate. -/
theorem isScalar_of_plain {s : PyStr} (h : IsPlain s) : ∀ c ∈ s, IsScalar c := fun c hc =>
  isScalar_ascii (h c hc).1

/-- And no escape that could compose. -/
theorem escapesStand_of_plain {nfc : PyStr → PyStr} {s : PyStr} (h : IsPlain s) :
    EscapesStand nfc s := by
  refine escapesStand_of_unescaped fun c hc hspecial => ?_
  obtain ⟨-, hge, hquote, hback⟩ := h c hc
  rcases hspecial with h | h | h
  · omega
  · exact hquote h
  · exact hback h

/-- **WHEN A GRANT IS THE SAME TO BOTH PACKAGES.** -/
theorem same_grant_iff (N : NfcText H.nfc)
    (B : BuiltFrom issuer subject scopes issuedAt expiresAt critical signature extra d t)
    (hscalar : GrantStrings (fun s => ∀ c ∈ s, IsScalar c) issuer subject scopes extra) :
    SameGrant H d t ↔
      WrittenAlike scopes critical extra ∧ (∀ m ∈ extra, Accepted m.2) ∧
        GrantStrings (EscapesStand H.nfc) issuer subject scopes extra := by
  have hstrings := (B.allStrings_iff fun _ => isScalar_of_plain).mpr hscalar
  obtain ⟨known, hpayload, hknown, -⟩ := B.ts_payload
  constructor
  · rintro ⟨hsame, ⟨message, hpy, hts⟩, -⟩
    have hwritten := B.writtenAlike hscalar.scopes hsame
    have heq := B.payload_eq hscalar.scopes hwritten
    have haccepted := accepted_of_tsSigningInput hts
    refine ⟨hwritten, ?_, ?_⟩
    · intro m hm
      cases haccepted with
      | object hall =>
          refine hall m ?_
          rw [hpayload]
          refine List.mem_append_right _ (List.mem_filter.mpr ⟨hm, decide_eq_true ?_⟩)
          exact fun hname => hwritten.extra (hname ▸ List.mem_map_of_mem hm)
    · rw [heq] at hstrings hpy
      obtain ⟨m, m', hm, hm', hiff⟩ :=
        same_signingInput_iff N (show IsContext contextDelegation by decide) haccepted hstrings
      rw [hpy] at hm
      rw [hts] at hm'
      cases hm
      cases hm'
      exact (B.allStrings_iff fun _ => escapesStand_of_plain).mp (heq ▸ hiff.mp rfl)
  · rintro ⟨hwritten, hextra, hstand⟩
    have heq := B.payload_eq hscalar.scopes hwritten
    have haccepted : Accepted (.object t.payload) := by
      rw [hpayload]
      refine .object (List.forall_mem_append.mpr ⟨hknown, fun m hm => ?_⟩)
      exact hextra m (List.mem_filter.mp hm).1
    have hstand' := (B.allStrings_iff fun _ => escapesStand_of_plain).mpr hstand
    rw [heq] at hstrings hstand'
    obtain ⟨m, m', hm, hm', hiff⟩ :=
      same_signingInput_iff N (show IsContext contextDelegation by decide) haccepted hstrings
    rw [← hiff.mpr hstand'] at hm'
    rw [← heq] at hm
    refine ⟨?_, ⟨m, hm, hm'⟩, B.same_digest hm hm'⟩
    rw [← heq, B.python_payload]
    exact ⟨_, _, rfl, rfl, fun _ => rfl⟩

/-! ## A grant with two critical extensions -/

def auditTrace : List (PyStr × JsonValue) :=
  [(py "audit", .boolean true), (py "trace", .boolean true)]

/-- Both packages build the grant, in whatever order its critical names are listed. -/
theorem auditTrace_built {names : List PyStr} (hnames : ∀ name ∈ names,
    name ∈ [py "audit", py "trace"]) : ∃ d t, BuiltFrom (constAddress 1) (constAddress 2)
      [py "read"] moment2026 moment2026 (some names) [] auditTrace d t := by
  have hkeys : (asJsonMembers auditTrace).map Prod.fst = [py "audit", py "trace"] :=
    map_fst_asJsonMembers _
  have hdict : ((asJsonMembers auditTrace).map Prod.fst).Nodup := by
    rw [hkeys]
    decide
  have hshadow : ∀ k ∈ (asJsonMembers auditTrace).map Prod.fst, k ∉ delegationFields := by
    rw [hkeys]
    decide
  have hdangling : ∀ name ∈ names, name ∈ (asJsonMembers auditTrace).map Prod.fst := by
    rw [hkeys]
    exact hnames
  have hshadow' : ∀ k ∈ auditTrace.map Prod.fst, k ∉ tsDelegationKnownFields := by
    show ∀ k ∈ [py "audit", py "trace"], k ∉ tsDelegationKnownFields
    decide
  have hdangling' : ∀ name ∈ (some names).getD [], isIn name auditTrace := fun name hname =>
    Or.inl (hnames name hname)
  have hpython : ∃ d, Delegation.postInit (constAddress 1) (constAddress 2) [py "read"].toFinset
      moment2026 moment2026 [] names (asJsonMembers auditTrace) = .ok d := by
    simp only [Delegation.postInit]
    rw [dif_pos hdict, dif_pos hshadow, dif_pos hdangling]
    exact ⟨_, rfl⟩
  have htypescript : ∃ t, TsDelegation.construct (constAddress 1) (constAddress 2) [py "read"]
      moment2026 moment2026 (some names) [] auditTrace = .ok t := by
    simp only [TsDelegation.construct]
    rw [dif_pos hshadow', dif_pos hdangling']
    exact ⟨_, rfl⟩
  obtain ⟨d, hd⟩ := hpython
  obtain ⟨t, ht⟩ := htypescript
  exact ⟨d, t, hd, ht⟩

theorem auditTrace_strings {P : PyStr → Prop} (hplain : ∀ s, IsPlain s → P s) :
    GrantStrings P (constAddress 1) (constAddress 2) [py "read"] auditTrace where
  issuer := hplain _ (isPlain_of_signingKey (signingKey_constAddress 1))
  subject := hplain _ (isPlain_of_signingKey (signingKey_constAddress 2))
  scopes s hs := hplain s (List.mem_singleton.mp hs ▸ (by decide : IsPlain (py "read")))
  extra := by
    refine .obj (fun m hm => hplain _ ?_) fun m hm => ?_
    · have : m.1 ∈ [py "audit", py "trace"] := List.mem_map_of_mem hm
      rcases List.mem_cons.mp this with h | h
      · rw [h]
        decide
      · rw [List.mem_singleton.mp h]
        decide
    · rcases List.mem_cons.mp hm with rfl | hm
      · exact .bool true
      · rw [List.mem_singleton.mp hm]
        exact .bool true

/-- With its critical names in order the grant is the same to both. -/
theorem same_grant_iff_audited : ∃ d t, BuiltFrom (constAddress 1) (constAddress 2) [py "read"]
    moment2026 moment2026 (some [py "audit", py "trace"]) [] auditTrace d t ∧
      SameGrant mutedHost d t := by
  obtain ⟨d, t, B⟩ := @auditTrace_built [py "audit", py "trace"] fun _ h => h
  refine ⟨d, t, B, (same_grant_iff sampleNfc_text B
    (auditTrace_strings fun _ => isScalar_of_plain)).mpr ⟨⟨?_, ?_, by decide⟩, ?_, ?_⟩⟩
  · intro a ha b hb hab
    rw [List.mem_singleton.mp ha, List.mem_singleton.mp hb] at hab
    exact absurd hab (lt_irrefl _)
  · intro names hnames
    cases hnames
    exact ⟨List.cons_ne_nil _ _, by decide⟩
  · intro m hm
    rcases List.mem_cons.mp hm with rfl | hm
    · exact .boolean true
    · rw [List.mem_singleton.mp hm]
      exact .boolean true
  · exact auditTrace_strings fun _ => escapesStand_of_plain

/-- **CRITICAL NAMES OUT OF ORDER**: Python signs them sorted, TypeScript as they were given. -/
theorem unsorted_critical_differs : ∃ d t, BuiltFrom (constAddress 1) (constAddress 2) [py "read"]
    moment2026 moment2026 (some [py "trace", py "audit"]) [] auditTrace d t ∧
      ¬ SameObject d.payload (asJson (.object t.payload)) := by
  obtain ⟨d, t, B⟩ := @auditTrace_built [py "trace", py "audit"] (by decide)
  refine ⟨d, t, B, fun hsame => ?_⟩
  have hscalar := (auditTrace_strings fun _ => isScalar_of_plain).scopes
  have hcritical := (B.writtenAlike hscalar hsame).critical
  exact absurd (hcritical _ rfl).2 (by decide)

end AgentTsDelegation
