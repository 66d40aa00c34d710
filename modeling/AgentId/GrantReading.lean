import AgentId.Recursion

/-!
# Grants as they are read (`delegation.py`)

`Delegation.model_validate` puts whatever `scopes` iterates over into a `frozenset`: strings, but
numbers and `None` too, where `1`, `1.0` and `True` are one element and the first of them stays.  The
payload sorts them, which fails with a `TypeError` where strings and numbers are mixed.  A
`WireDelegation` is a grant with such scopes; the other modules are about the grants whose scopes are
strings.

* **`modelValidate_reads`** — where the scopes are strings, it is the grant of the other modules that
  is read,
* **`isRevokedWithin_eq`** — and a registry answers of it as of that grant.
-/

namespace AgentGrantReading

open AgentRaises AgentPy AgentDouble AgentJson AgentSigning AgentSerde AgentDelegation
  AgentRevocation AgentRecursion

/-! ## Sets of wire values -/

/-- What a wire value counts as among numbers. -/
def number : Json → Option Double
  | .bool b => some (.finite (if b then 1 else 0))
  | .int n => some (.finite n)
  | .float bits => some (Double.ofBits bits)
  | _ => none

/-- `a == b` of what can be hashed; `json.loads` has one NaN object. -/
def sameValue : Json → Json → Bool
  | .str s, .str t => decide (s = t)
  | .null, .null => true
  | a, b => match number a, number b with
      | some x, some y => decide (x = y)
      | _, _ => false

/-- A list and a `dict` have no hash. -/
def isHashable : Json → Bool
  | .arr _ => false
  | .obj _ => false
  | _ => true

/-- The first of equal values stays. -/
def distinct : List Json → List Json
  | [] => []
  | v :: items => v :: (distinct items).filter fun w => !sameValue v w

/-- What is kept stands in the order it came. -/
theorem distinct_sublist (items : List Json) : (distinct items).Sublist items := by
  induction items with
  | nil => exact .slnil
  | cons v items ih => exact (List.filter_sublist.trans ih).cons_cons v

/-- No two that are kept are one element. -/
theorem pairwise_distinct (items : List Json) :
    (distinct items).Pairwise fun v w => sameValue v w = false := by
  induction items with
  | nil => exact .nil
  | cons v items ih =>
      refine .cons (fun w hw => ?_) (ih.sublist List.filter_sublist)
      simpa using (List.mem_filter.mp hw).2

/-- What is kept of hashable values is hashable. -/
theorem hashable_distinct {items : List Json} (h : ∀ v ∈ items, isHashable v = true) :
    ∀ v ∈ distinct items, isHashable v = true :=
  fun v hv => h v ((distinct_sublist items).subset hv)

/-- A `frozenset` of wire values, in the order they came in. -/
structure ScopeSet where
  items : List Json
  hashable : ∀ v ∈ items, isHashable v = true
  distinct : items.Pairwise fun v w => sameValue v w = false

/-- `frozenset(items)` -/
def frozenset (items : List Json) : Py ScopeSet :=
  if h : ∀ v ∈ items, isHashable v = true then
    .ok ⟨distinct items, hashable_distinct h, pairwise_distinct items⟩
  else raise .typeError ["unhashable type"]

/-- The values can be compared with one another: there are no two, or all are strings, or all are
    numbers. -/
def Sortable (items : List Json) : Prop :=
  items.length ≤ 1 ∨ (∀ v ∈ items, ∃ s, v = .str s) ∨ ∀ v ∈ items, (number v).isSome = true

/-- Whether a wire value is a string. -/
def isStr : Json → Bool
  | .str _ => true
  | _ => false

theorem isStr_iff {v : Json} : isStr v = true ↔ ∃ s, v = .str s := by
  cases v with
  | str s => exact ⟨fun _ => ⟨s, rfl⟩, fun _ => rfl⟩
  | null | bool | int | float | arr | obj =>
      exact ⟨fun h => absurd h Bool.false_ne_true, fun ⟨s, hs⟩ => by cases hs⟩

instance sortableDecidable (items : List Json) : Decidable (Sortable items) :=
  decidable_of_iff (items.length ≤ 1 ∨ (∀ v ∈ items, isStr v = true) ∨
      ∀ v ∈ items, (number v).isSome = true)
    (by simp only [Sortable, isStr_iff])

/-- `not b < a`, where the two can be compared. -/
def scopeLe : Json → Json → Bool
  | .str s, .str t => decide (s ≤ t)
  | a, b => match number a, number b with
      | some x, some y => !y.lt x
      | _, _ => true

/-- The values in order.  Of NaN, which is in no order with anything, it does not matter where it
    stands: a payload that holds it is refused. -/
def inOrder (items : List Json) : List Json := items.insertionSort fun a b => scopeLe a b = true

/-- `sorted(...)` of a set of wire values. -/
def sortedValues (items : List Json) : Py (List Json) :=
  if Sortable items then .ok (inOrder items)
  else raise .typeError ["'<' not supported between instances of its types"]

example : distinct [.int 1, .float 0x3FF0000000000000, .bool true, .int 0] = [.int 1, .int 0] := by
  have hone : Double.ofBits 0x3FF0000000000000 = .finite 1 := by decide +kernel
  simp [distinct, sameValue, number, hone]

/-! ## Grants -/

/-- A `Delegation` as it may come off the wire. -/
structure WireDelegation where
  issuer : PyStr
  subject : PyStr
  scopes : ScopeSet
  issuedAt : Timestamp
  expiresAt : Timestamp
  signature : PyStr
  critical : List PyStr
  extra : Members
  extra_nodup : (extra.map Prod.fst).Nodup
  extra_shadows_nothing : ∀ k ∈ extra.map Prod.fst, k ∉ delegationFields
  critical_present : ∀ name ∈ critical, name ∈ extra.map Prod.fst

/-- `Delegation.__post_init__`, with the scopes in a `frozenset` already. -/
def WireDelegation.postInit (issuer subject : PyStr) (scopes : ScopeSet)
    (issuedAt expiresAt : Timestamp) (signature : PyStr) (critical : List PyStr)
    (extra : Members) : Py WireDelegation :=
  let names := extra.map Prod.fst
  -- `extra` is a `dict`: no key stands in it twice
  if hdict : names.Nodup then
    if hshadow : ∀ k ∈ names, k ∉ delegationFields then
      if hdangling : ∀ name ∈ critical, name ∈ names then
        .ok ⟨issuer, subject, scopes, issuedAt, expiresAt, signature, critical, extra, hdict,
          hshadow, hdangling⟩
      else raise .valueError
        ["critical names extension fields not present on the delegation: ",
          .names (sortedStrs (critical.filter (· ∉ names)).dedup)]
    else raise .valueError
      ["extra must not shadow known delegation fields: ",
        .names (sortedStrs (names.filter (· ∈ delegationFields)))]
  else raise .valueError ["repeated key"]

/-- `Delegation.model_validate` -/
def WireDelegation.modelValidate (H : Host) (data : Json) : Py WireDelegation := do
  let members ← getItems data
  let extra := members.filter (·.1 ∉ delegationFields)
  let issuer ← getField members (py "issuer")
  let subject ← getField members (py "subject")
  let scopes ← getField members (py "scopes")
  let scopes ← iterate scopes
  let scopes ← frozenset scopes
  let issuedAt ← getField members (py "issued_at")
  let issuedAt ← parseDatetime H (py "issued_at") issuedAt
  let expiresAt ← getField members (py "expires_at")
  let expiresAt ← parseDatetime H (py "expires_at") expiresAt
  let critical ← iterate (getFieldOr members (py "critical") (.arr []))
  let issuer ← requireStr (py "issuer") issuer
  let subject ← requireStr (py "subject") subject
  let signature ← requireStr (py "signature") (getFieldOr members (py "signature") (.str []))
  let critical ← critical.mapM (requireStr (py "critical entry"))
  WireDelegation.postInit issuer subject scopes issuedAt expiresAt signature critical extra

/-- The payload with the scopes in this order. -/
def WireDelegation.payloadOf (w : WireDelegation) (scopes : List Json) : Json :=
  .obj ([(py "issuer", .str w.issuer), (py "subject", .str w.subject), (py "scopes", .arr scopes),
      (py "issued_at", .str (canonicalTimestamp w.issuedAt)),
      (py "expires_at", .str (canonicalTimestamp w.expiresAt))]
    ++ (if w.critical = [] then [] else [(py "critical", strs (sortedStrs w.critical))])
    ++ w.extra)

/-- `Delegation._payload` -/
def WireDelegation.payload (w : WireDelegation) : Py Json := do
  let scopes ← sortedValues w.scopes.items
  .ok (w.payloadOf scopes)

/-- `Delegation.digest`, in the room there is. -/
def WireDelegation.digest (H : Host) (room : Room) (w : WireDelegation) : Py PyStr := do
  let payload ← w.payload
  let signed ← signingInputWithin H room contextDelegation payload
  let raw ← decodeSignature (.str w.signature)
  .ok (hexdigest (H.sha256 (signed ++ raw)))

/-- `RevocationRegistry.is_revoked` -/
def isRevokedWithin (H : Host) (room : Room) (reg : RevocationRegistry) (w : WireDelegation) :
    Py Bool :=
  match w.digest H room with
  | .ok digest => .ok (decide (digest ∈ reg.digests))
  -- `except SignatureError`: any other exception of `digest` goes through
  | .error e => if e.cls = .signatureError then .ok false else .error e

/-- What `_payload` returns when the scopes can be sorted. -/
def WireDelegation.sortedPayload (w : WireDelegation) : Json := w.payloadOf (inOrder w.scopes.items)

/-- There is a payload exactly when the scopes can be sorted. -/
theorem WireDelegation.payload_ok_iff {w : WireDelegation} {payload : Json} :
    w.payload = .ok payload ↔ Sortable w.scopes.items ∧ payload = w.sortedPayload := by
  rw [WireDelegation.payload, sortedValues]
  by_cases h : Sortable w.scopes.items
  · rw [if_pos h]
    exact ⟨fun heq => ⟨h, (Except.ok.inj heq).symm⟩, fun heq => congrArg _ heq.2.symm⟩
  · rw [if_neg h]
    refine iff_of_false (fun heq => ?_) fun heq => h heq.1
    cases heq

/-- Otherwise there is a `TypeError`. -/
theorem WireDelegation.payload_error {w : WireDelegation} :
    Raises (fun e => e.cls = .typeError) w.payload := by
  rw [WireDelegation.payload, sortedValues]
  by_cases h : Sortable w.scopes.items
  · rw [if_pos h]
    exact raises_ok _
  · rw [if_neg h]
    exact raises_error_iff.mpr rfl

/-! ## Grants whose scopes are strings -/

/-- Of strings each is kept once. -/
theorem distinct_strs (names : List PyStr) : ∃ kept : List PyStr,
    distinct (names.map .str) = kept.map .str ∧ kept.Nodup ∧ kept.toFinset = names.toFinset := by
  induction names with
  | nil => exact ⟨[], rfl, .nil, rfl⟩
  | cons s names ih =>
      obtain ⟨kept, hkept, hnodup, hset⟩ := ih
      refine ⟨s :: kept.filter fun t => !decide (s = t), ?_, ?_, ?_⟩
      · rw [List.map_cons, distinct, hkept, List.filter_map]
        rfl
      · refine List.nodup_cons.mpr ⟨fun hs => ?_, hnodup.filter _⟩
        simpa using (List.mem_filter.mp hs).2
      · ext t
        have hmem : t ∈ kept ↔ t ∈ names := by
          rw [← List.mem_toFinset, hset, List.mem_toFinset]
        simp only [List.toFinset_cons, Finset.mem_insert, List.mem_toFinset, List.mem_filter, hmem]
        by_cases hts : t = s
        · simp [hts]
        · simp [hts, Ne.symm hts]

/-- Strings can be sorted. -/
theorem sortable_strs (names : List PyStr) : Sortable (names.map .str) := by
  refine Or.inr (Or.inl fun v hv => ?_)
  obtain ⟨s, -, rfl⟩ := List.mem_map.mp hv
  exact ⟨s, rfl⟩

/-- And are sorted as names are. -/
theorem inOrder_strs (names : List PyStr) : inOrder (names.map .str) = (sortedStrs names).map .str := by
  refine (List.map_insertionSort _ _ _ _ fun s _ t _ => ?_).symm
  exact (decide_eq_true_iff (p := s ≤ t)).symm

/-- The grant that was read has strings for scopes, and is this one. -/
structure Reads (w : WireDelegation) (d : Delegation) : Prop where
  issuer : w.issuer = d.issuer
  subject : w.subject = d.subject
  scopes : ∃ names : List PyStr, w.scopes.items = names.map .str ∧ names.Nodup ∧
    names.toFinset = d.scopes
  issuedAt : w.issuedAt = d.issuedAt
  expiresAt : w.expiresAt = d.expiresAt
  signature : w.signature = d.signature
  critical : w.critical = d.critical
  extra : w.extra = d.extra

/-- **ONE PAYLOAD**: it is sorted as that of the grant is. -/
theorem Reads.payload {w : WireDelegation} {d : Delegation} (h : Reads w d) :
    w.payload = .ok d.payload := by
  obtain ⟨names, hitems, hnodup, hset⟩ := h.scopes
  have hsorted : sortedStrs names = sortedScopes d.scopes := by
    rw [sortedScopes, ← hset, sortedStrs]
    refine ((List.toFinset_sort (r := (· ≤ ·)) ((List.perm_insertionSort _ _).nodup_iff.mpr hnodup)).mpr
      (List.pairwise_insertionSort _ _)).symm.trans ?_
    rw [List.toFinset_eq_of_perm _ _ (List.perm_insertionSort _ _)]
  refine WireDelegation.payload_ok_iff.mpr ⟨hitems ▸ sortable_strs names, ?_⟩
  rw [WireDelegation.sortedPayload, WireDelegation.payloadOf, Delegation.payload, hitems,
    inOrder_strs, hsorted, h.issuer, h.subject, h.issuedAt, h.expiresAt, h.critical, h.extra]
  rfl

/-- **A REGISTRY ANSWERS** of it as of the grant, in the room the payload needs. -/
theorem isRevokedWithin_eq {H : Host} {room : Room} {reg : RevocationRegistry} {w : WireDelegation}
    {d : Delegation} (h : Reads w d) (hfits : Fits room d.payload) :
    isRevokedWithin H room reg w = reg.isRevoked H d := by
  have hdigest : w.digest H room = d.digest H := by
    rw [WireDelegation.digest, h.payload, Delegation.digest, h.signature]
    show (signingInputWithin H room contextDelegation d.payload >>= _) = _
    rw [signingInputWithin_eq hfits]
  cases hd : d.digest H with
  | ok digest => simp only [isRevokedWithin, RevocationRegistry.isRevoked, hdigest, hd]
  | error e => simp only [isRevokedWithin, RevocationRegistry.isRevoked, hdigest, hd]

/-- Where the reader asks for strings and finds them, the set is one of strings. -/
theorem frozenset_strs {value : Json} {names : List PyStr} {name : PyStr}
    (h : requireStrs name value = .ok names) :
    ∃ items set, iterate value = .ok items ∧ frozenset items = .ok set ∧
      ∃ kept : List PyStr, set.items = kept.map .str ∧ kept.Nodup ∧
        kept.toFinset = names.toFinset := by
  obtain ⟨items, hitems, hnames⟩ := bind_ok_iff.mp h
  rw [mapM_requireStr_ok_iff] at hnames
  subst hnames
  obtain ⟨kept, hkept, hnodup, hset⟩ := distinct_strs names
  have hhashable : ∀ v ∈ names.map Json.str, isHashable v = true := by
    intro v hv
    obtain ⟨s, -, rfl⟩ := List.mem_map.mp hv
    rfl
  exact ⟨_, _, hitems, dif_pos hhashable, kept, hkept, hnodup, hset⟩

/-- **WHERE THE SCOPES ARE STRINGS** the grant of the other modules is read. -/
theorem modelValidate_reads {H : Host} {data : Json} {d : Delegation}
    (h : Delegation.modelValidate H data = .ok d) :
    ∃ w, WireDelegation.modelValidate H data = .ok w ∧ Reads w d := by
  obtain ⟨members, hmembers, h⟩ := bind_ok_iff.mp h
  obtain ⟨issuer, hissuer, h⟩ := bind_ok_iff.mp h
  obtain ⟨subject, hsubject, h⟩ := bind_ok_iff.mp h
  obtain ⟨scopes, hscopes, h⟩ := bind_ok_iff.mp h
  obtain ⟨names, hnames, h⟩ := bind_ok_iff.mp h
  obtain ⟨issuedAt, hissuedAt, h⟩ := bind_ok_iff.mp h
  obtain ⟨issued, hissued, h⟩ := bind_ok_iff.mp h
  obtain ⟨expiresAt, hexpiresAt, h⟩ := bind_ok_iff.mp h
  obtain ⟨expires, hexpires, h⟩ := bind_ok_iff.mp h
  obtain ⟨items, hitems, h⟩ := bind_ok_iff.mp h
  obtain ⟨issuerText, hissuerText, h⟩ := bind_ok_iff.mp h
  obtain ⟨subjectText, hsubjectText, h⟩ := bind_ok_iff.mp h
  obtain ⟨signature, hsignature, h⟩ := bind_ok_iff.mp h
  obtain ⟨critical, hcritical, h⟩ := bind_ok_iff.mp h
  obtain ⟨hdict, hshadow, hdangling, rfl⟩ := Delegation.postInit_ok h
  obtain ⟨scopeItems, set, hiterate, hset, hstrs⟩ := frozenset_strs hnames
  refine ⟨⟨issuerText, subjectText, set, issued, expires, signature, critical, _, hdict, hshadow,
    hdangling⟩, ?_, ⟨rfl, rfl, hstrs, rfl, rfl, rfl, rfl, rfl⟩⟩
  refine bind_ok_iff.mpr ⟨members, hmembers, bind_ok_iff.mpr ⟨issuer, hissuer, ?_⟩⟩
  refine bind_ok_iff.mpr ⟨subject, hsubject, bind_ok_iff.mpr ⟨scopes, hscopes, ?_⟩⟩
  refine bind_ok_iff.mpr ⟨scopeItems, hiterate, bind_ok_iff.mpr ⟨set, hset, ?_⟩⟩
  refine bind_ok_iff.mpr ⟨issuedAt, hissuedAt, bind_ok_iff.mpr ⟨issued, hissued, ?_⟩⟩
  refine bind_ok_iff.mpr ⟨expiresAt, hexpiresAt, bind_ok_iff.mpr ⟨expires, hexpires, ?_⟩⟩
  refine bind_ok_iff.mpr ⟨items, hitems, bind_ok_iff.mpr ⟨issuerText, hissuerText, ?_⟩⟩
  refine bind_ok_iff.mpr ⟨subjectText, hsubjectText, bind_ok_iff.mpr ⟨signature, hsignature, ?_⟩⟩
  refine bind_ok_iff.mpr ⟨critical, hcritical, ?_⟩
  exact (dif_pos hdict).trans ((dif_pos hshadow).trans (dif_pos hdangling))

end AgentGrantReading
