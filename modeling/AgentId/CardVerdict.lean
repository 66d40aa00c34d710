import AgentId.TsCard

/-!
# One verdict on every card

Both packages read a card from the same wire object and verify it.  What each asks of the object
before it looks at the signature is a list of conditions on single members; what the two then
verify the signature over are the same bytes only of cards written alike.

* **`pyReads_iff`**, **`tsReads_iff`** — the conditions on the members are what each package asks.
* **`same_message_iff`** — when both sign the same bytes for one wire object.
* **`same_verdict_iff`** — the wire objects on which both packages give one verdict, whatever
  Ed25519 says.
* **`dangling_critical_verdicts`** — a card on which they do not.
-/

namespace AgentCardVerdict

open AgentPy AgentDict AgentBase58 AgentJson AgentCanonicalText AgentNormalization AgentJsonRender
  AgentCanonicalEquivalence AgentSigning AgentTsCanonical AgentTsSigning AgentSerde AgentSignedText
  AgentDelegation AgentWireForm AgentRotationText AgentTsDelegation AgentCards AgentTsCards

/-- `AgentCard.model_validate(w).verify(U)` -/
def verifyCard (H : Host) (w : Json) (understood : List PyStr) : Py Unit := do
  let card ← AgentCard.modelValidate w
  card.verify H understood

/-- `AgentCard.fromJSON(w).verify(U)` -/
def tsVerifyCard (H : Host) (w : JsonValue) (understood : List PyStr) : Js Unit := do
  let card ← TsAgentCard.fromJSON w
  card.verify H understood

/-! ## What each package asks of the members -/

/-- The card declares the key its address certifies. -/
structure Declares (w : Members) (key : Bytes) : Prop where
  address : ∃ s, w.lookup (py "address") = some (.str s) ∧ signingKeyFromAddress s = .ok key
  name : ∃ s, w.lookup (py "name") = some (.str s)
  signingKey : ∃ s, w.lookup (py "signing_key") = some (.str s) ∧ base58Decode s = .ok key

/-- What Python asks of a card besides its signature.  A member it has a default for may be
    absent; `critical` lists, in any iterable, names of extensions that are there and understood. -/
structure PyReads (w : Members) (understood : List PyStr) : Prop where
  declares : ∃ key, Declares w key
  agreementKey : ∃ s raw, w.lookup (py "agreement_key") = some (.str s) ∧ base58Decode s = .ok raw
  kind : ∀ v, w.lookup (py "kind") = some v → ∃ kind : ParticipantKind, v = .str kind.value
  payloadTypes : ∀ v, w.lookup (py "payload_types") = some v → ∃ items, iterate v = .ok items
  endpoints : ∀ v, w.lookup (py "endpoints") = some v → ∃ members, v = .obj members
  critical : ∀ v, w.lookup (py "critical") = some v → ∃ names : List PyStr,
    iterate v = .ok (names.map .str) ∧
      ∀ name ∈ names, name ∈ w.map Prod.fst ∧ name ∉ cardFields ∧ name ∈ understood
  signature : ∀ v, w.lookup (py "signature") = some v → ∃ raw, decodeSignature v = .ok raw

/-- The members TypeScript signs as they are, or a default for. -/
def signedAsGiven : List PyStr :=
  [py "amp", py "operator", py "agreement_prekey", py "payload_types", py "policy_summary"]

/-- What TypeScript asks of a card besides its signature.  A member it has a default for may be
    absent or `null`; `critical` is an array of names that are fields or understood; the integers
    that are signed are safe. -/
structure TsReads (w : Members) (understood : List PyStr) : Prop where
  declares : ∃ key, Declares w key
  agreementKey : ∃ s, w.lookup (py "agreement_key") = some (.str s)
  kind : ∀ v, w.lookup (py "kind") = some v → v = .null ∨ ∃ kind : ParticipantKind, v = .str kind.value
  payloadTypes : ∀ v, w.lookup (py "payload_types") = some v →
    v = .null ∨ (∃ items, v = .arr items) ∨ ∃ s, v = .str s
  critical : ∀ v, w.lookup (py "critical") = some v → v = .null ∨ ∃ names : List PyStr,
    v = strs names ∧ ∀ name ∈ names, name ∈ tsCardKnownFields ∨ name ∈ understood
  signature : ∀ v, w.lookup (py "signature") = some v → v = .null ∨ ∃ raw, decodeSignature v = .ok raw
  fields : ∀ k ∈ signedAsGiven, ∀ v, w.lookup k = some v → Accepted (ofJson v)
  -- a number is spread into no property at all
  endpoints : ∀ v, w.lookup (py "endpoints") = some v → (∃ n, v = .int n) ∨ Accepted (ofJson v)
  extensions : ∀ m ∈ w, m.1 ∉ cardFields → m.1 ≠ protoName → Accepted (ofJson m.2)

/-- Written so that both packages sign the same: no `null` that only one of them replaces, critical
    names in order and not none of them, nothing under `__proto__`. -/
structure WrittenAlike (w : Members) : Prop where
  amp : w.lookup (py "amp") ≠ some .null
  policySummary : w.lookup (py "policy_summary") ≠ some .null
  critical : ∀ names : List PyStr, w.lookup (py "critical") = some (strs names) →
    names ≠ [] ∧ names.Pairwise (· ≤ ·)
  proto : protoName ∉ w.map Prod.fst

/-- Both packages read the card or neither does, and if they do they sign the same. -/
def ReadAlike (w : Members) (understood : List PyStr) : Prop :=
  (PyReads w understood ↔ TsReads w understood) ∧ (PyReads w understood → WrittenAlike w)

/-! ## Members of the parsed object -/

/-- A member is found in TypeScript where it is found in Python. -/
theorem lookup_ofJsonMembers (w : Members) (k : PyStr) :
    (ofJsonMembers w).lookup k = (w.lookup k).map ofJson := by
  rw [ofJsonMembers_eq_map]
  induction w with
  | nil => rfl
  | cons m w ih =>
      rw [List.map_cons, List.lookup_cons, List.lookup_cons, ih]
      cases k == m.1 <;> rfl

theorem map_fst_ofJsonMembers (w : Members) : (ofJsonMembers w).map Prod.fst = w.map Prod.fst := by
  rw [ofJsonMembers_eq_map, List.map_map]
  rfl

/-- A property of what a member holds, where an absent one holds the default. -/
theorem getFieldOr_iff {P : Json → Prop} {w : Members} {k : PyStr} {dflt : Json} (hd : P dflt) :
    P (getFieldOr w k dflt) ↔ ∀ v, w.lookup k = some v → P v := by
  rw [getFieldOr]
  cases w.lookup k with
  | none => exact iff_of_true hd fun v h => absurd h (Option.some_ne_none v).symm
  | some v => exact ⟨fun h v' hv => Option.some.inj hv ▸ h, fun h => h v rfl⟩

/-- The same where `null` stands for the default too. -/
theorem coalesce_iff {P : JsonValue → Prop} {w : Members} {k : PyStr} {dflt : JsonValue}
    (hd : P dflt) : P (coalesce ((ofJsonMembers w).lookup k) dflt) ↔
      ∀ v, w.lookup k = some v → v = .null ∨ P (ofJson v) := by
  rw [lookup_ofJsonMembers]
  cases w.lookup k with
  | none => exact iff_of_true hd fun v h => absurd h (Option.some_ne_none v).symm
  | some v =>
      by_cases hnull : v = .null
      · subst hnull
        refine iff_of_true ?_ fun v h => Or.inl (Option.some.inj h).symm
        rw [Option.map_some, ofJson]
        exact hd
      · have hvalue : coalesce (some (ofJson v)) dflt = ofJson v := by
          cases v with
          | null => exact absurd rfl hnull
          | _ =>
              rw [ofJson]
              rfl
        rw [Option.map_some, hvalue]
        constructor
        · exact fun h v' hv => Or.inr (Option.some.inj hv ▸ h)
        · exact fun h => (h v rfl).resolve_left hnull

/-- The names and values of an ASCII object are ASCII. -/
theorem asciiJson_member {w : Members} (h : AsciiJson (.obj w)) {m : PyStr × Json} (hm : m ∈ w) :
    IsAscii m.1 ∧ AsciiJson m.2 := by
  cases h with
  | obj hkeys hvalues => exact ⟨hkeys m hm, hvalues m hm⟩

/-! ## What Python asks -/

/-- The card is read, its keys and its critical names are right, and its signature is base64: only
    Ed25519 has still to be asked. -/
structure PyPrepared (w : Members) (understood : List PyStr) (c : AgentCard) (key raw : Bytes) :
    Prop where
  read : ReadFrom w c
  keys : c.checkKeys = .ok key
  signature : decodeSignature c.signature = .ok raw
  critical : ∀ name ∈ c.critical, name ∈ understood

/-- The signature of an unsigned card. -/
theorem decodeSignature_nil : decodeSignature (.str []) = .ok [] := decodeSignature_b64encode []

/-- An extension is a member that is no card field. -/
theorem mem_extensions_iff {w : Members} {name : PyStr} :
    name ∈ (w.filter (·.1 ∉ cardFields)).map Prod.fst ↔ name ∈ w.map Prod.fst ∧ name ∉ cardFields := by
  constructor
  · intro h
    obtain ⟨m, hm, rfl⟩ := List.mem_map.mp h
    obtain ⟨hm, hfield⟩ := List.mem_filter.mp hm
    exact ⟨List.mem_map_of_mem hm, of_decide_eq_true hfield⟩
  · rintro ⟨h, hfield⟩
    obtain ⟨m, hm, rfl⟩ := List.mem_map.mp h
    exact List.mem_map_of_mem (List.mem_filter.mpr ⟨hm, decide_eq_true hfield⟩)

/-- What Python has read and decoded meets its conditions. -/
theorem PyPrepared.reads {w : Members} {understood : List PyStr} {c : AgentCard} {key raw : Bytes}
    (P : PyPrepared w understood c key raw) : PyReads w understood := by
  obtain ⟨haddress, hsigning, agreement, hagreement⟩ := AgentCard.checkKeys_ok_iff.mp P.keys
  have R := P.read
  refine ⟨⟨key, ⟨_, R.address, haddress⟩, ⟨_, R.name⟩, _, R.signingKey, hsigning⟩,
    ⟨_, _, R.agreementKey, hagreement⟩, ?_, ?_, ?_, ?_, ?_⟩
  · exact (@getFieldOr_iff (fun v => ∃ kind : ParticipantKind, v = .str kind.value) _ _ _
      ⟨.agent, rfl⟩).mp ⟨c.kind, participantKind_ok_iff.mp R.kind⟩
  · exact (@getFieldOr_iff (fun v => ∃ items, iterate v = .ok items) _ _ _ ⟨_, rfl⟩).mp
      ⟨_, R.payloadTypes⟩
  · exact (@getFieldOr_iff (fun v => ∃ members, v = .obj members) _ _ _ ⟨_, rfl⟩).mp ⟨_, R.endpoints⟩
  · refine (@getFieldOr_iff (fun v => ∃ names : List PyStr, iterate v = .ok (names.map .str) ∧
      ∀ name ∈ names, name ∈ w.map Prod.fst ∧ name ∉ cardFields ∧ name ∈ understood) _ _ _
        ⟨[], rfl, fun _ h => absurd h List.not_mem_nil⟩).mp ⟨c.critical, R.critical, ?_⟩
    intro name hname
    have hpresent := c.critical_present name hname
    rw [R.extra, mem_extensions_iff] at hpresent
    exact ⟨hpresent.1, hpresent.2, P.critical name hname⟩
  · refine (@getFieldOr_iff (fun v => ∃ raw, decodeSignature v = .ok raw) _ _ _
      ⟨[], decodeSignature_nil⟩).mp ⟨raw, ?_⟩
    exact R.signature ▸ P.signature

/-- **WHAT MEETS PYTHON'S CONDITIONS** is read and decoded. -/
theorem PyReads.prepared {w : Members} {understood : List PyStr} (h : PyReads w understood) :
    ∃ c key raw, PyPrepared w understood c key raw := by
  obtain ⟨key, ⟨address, haddress, hkey⟩, ⟨name, hname⟩, signing, hsigning, hkey'⟩ := h.declares
  obtain ⟨agreement, rawAgreement, hagreement, hdecode⟩ := h.agreementKey
  obtain ⟨kind, hkind⟩ := (getFieldOr_iff ⟨.agent, rfl⟩).mpr h.kind
  obtain ⟨items, hitems⟩ := (@getFieldOr_iff (fun v => ∃ items, iterate v = .ok items) _ _
    defaultPayloadTypes ⟨_, rfl⟩).mpr h.payloadTypes
  obtain ⟨endpoints, hendpoints⟩ := (getFieldOr_iff ⟨[], rfl⟩).mpr h.endpoints
  obtain ⟨names, hnames, hall⟩ := (@getFieldOr_iff _ _ _ (.arr [])
    ⟨[], rfl, fun _ h => absurd h List.not_mem_nil⟩).mpr h.critical
  obtain ⟨raw, hraw⟩ := (@getFieldOr_iff (fun v => ∃ raw, decodeSignature v = .ok raw) _ _ (.str [])
    ⟨[], decodeSignature_nil⟩).mpr h.signature
  have hpresent : ∀ name ∈ names, name ∈ (w.filter (·.1 ∉ cardFields)).map Prod.fst :=
    fun name hname => mem_extensions_iff.mpr ⟨(hall name hname).1, (hall name hname).2.1⟩
  refine ⟨⟨getFieldOr w (py "amp") (.str defaultProtocolVersion), address, name, kind,
    getFieldOr w (py "operator") .null, signing, agreement,
    getFieldOr w (py "agreement_prekey") .null, items, endpoints,
    getFieldOr w (py "policy_summary") (.str []), getFieldOr w (py "signature") (.str []), names,
    w.filter (·.1 ∉ cardFields), extensions_shadow_nothing w, hpresent⟩, key, raw, ?_, ?_, hraw,
    fun name hname => ?_⟩
  · exact ⟨rfl, haddress, hname, participantKind_ok_iff.mpr hkind, rfl, hsigning, hagreement, rfl,
      hitems, hendpoints, rfl, rfl, hnames, rfl⟩
  · exact AgentCard.checkKeys_ok_iff.mpr ⟨hkey, hkey', rawAgreement, hdecode⟩
  · exact (hall name hname).2.2

/-- **WHAT PYTHON ASKS** of a wire object is a list of conditions on its members. -/
theorem pyReads_iff {w : Members} {understood : List PyStr} :
    PyReads w understood ↔ ∃ c key raw, PyPrepared w understood c key raw :=
  ⟨PyReads.prepared, fun ⟨_, _, _, h⟩ => h.reads⟩

/-! ## What TypeScript asks -/

/-- The same of a card in TypeScript, which must also accept every value it signs. -/
structure TsPrepared (w : Members) (understood : List PyStr) (t : TsAgentCard) (key raw : Bytes) :
    Prop where
  read : TsReadFrom (ofJsonMembers w) t
  keys : t.checkKeys = .ok key
  signature : tsDecodeSignature t.signature = .ok raw
  critical : ∀ name ∈ t.critical.getD [], name ∈ tsCardKnownFields ∨ name ∈ understood
  payload : Accepted (.object t.payload)

/-- An array is accepted when its items are. -/
theorem accepted_array_iff {items : List JsonValue} :
    Accepted (.array items) ↔ ∀ v ∈ items, Accepted v := by
  constructor
  · intro h
    cases h with
    | array hall => exact hall
  · exact .array

/-- An object is accepted when its values are. -/
theorem accepted_object_iff {members : List (PyStr × JsonValue)} :
    Accepted (.object members) ↔ ∀ m ∈ members, Accepted m.2 := by
  constructor
  · intro h
    cases h with
    | object hall => exact hall
  · exact .object

/-- Arrays and strings can be spread, and of JSON values nothing else. -/
theorem spreadArray_ofJson {v : Json} : (∃ items, spreadArray (ofJson v) = .ok items) ↔
    (∃ items, v = .arr items) ∨ ∃ s, v = .str s := by
  cases v with
  | arr items =>
      rw [ofJson]
      exact iff_of_true ⟨_, rfl⟩ (Or.inl ⟨items, rfl⟩)
  | str s =>
      rw [ofJson]
      exact iff_of_true ⟨_, rfl⟩ (Or.inr ⟨s, rfl⟩)
  | _ => simp [ofJson, spreadArray, throwNew]

/-- Spreading an array changes nothing about the values in it. -/
theorem accepted_spreadArray {v : JsonValue} {items : List JsonValue}
    (h : spreadArray v = .ok items) : (∀ i ∈ items, Accepted i) ↔ Accepted v := by
  cases v with
  | array items' =>
      cases h
      exact accepted_array_iff.symm
  | string s =>
      cases h
      exact iff_of_true (List.forall_mem_map.mpr fun c _ => .string _) (.string s)
  | _ => cases h

/-- Nor does spreading an object, except that a number has no properties. -/
theorem accepted_spreadObject {v : Json} (hv : FloatFree v) :
    (∀ m ∈ spreadObject (ofJson v), Accepted m.2) ↔ (∃ n, v = .int n) ∨ Accepted (ofJson v) := by
  have hnone : ∀ m ∈ ([] : List (PyStr × JsonValue)), Accepted m.2 :=
    fun m hm => absurd hm List.not_mem_nil
  cases hv with
  | null =>
      rw [ofJson]
      exact iff_of_true hnone (Or.inr .null)
  | bool b =>
      rw [ofJson]
      exact iff_of_true hnone (Or.inr (.boolean b))
  | int n =>
      rw [ofJson]
      exact iff_of_true hnone (Or.inl ⟨n, rfl⟩)
  | str s =>
      rw [ofJson]
      exact iff_of_true (List.forall_mem_map.mpr fun m _ => .string _) (Or.inr (.string s))
  | @arr items _ =>
      rw [ofJson, accepted_array_iff, spreadObject, List.forall_mem_map]
      constructor
      · intro h
        refine Or.inr fun i hi => ?_
        obtain ⟨k, hk, rfl⟩ := List.mem_iff_getElem.mp hi
        exact h (_, k) (List.mem_zipIdx_iff_getElem?.mpr (List.getElem?_eq_getElem hk))
      · rintro (⟨n, h⟩ | h)
        · cases h
        · exact fun m hm => h m.1 (List.fst_mem_of_mem_zipIdx hm)
  | @obj members _ =>
      rw [ofJson, accepted_object_iff]
      constructor
      · exact Or.inr
      · rintro (⟨n, h⟩ | h)
        · cases h
        · exact h

/-- Both packages decode a signature alike. -/
theorem tsDecodeSignature_ofJson {v : Json} {raw : Bytes} :
    tsDecodeSignature (ofJson v) = .ok raw ↔ decodeSignature v = .ok raw := by
  cases v with
  | str s =>
      rw [ofJson]
      exact tsDecodeSignature_ok_iff
  | _ => simp [ofJson, tsDecodeSignature, decodeSignature, throwNew, raise]

theorem ofJson_eq_string_iff {v : Json} {s : PyStr} : ofJson v = .string s ↔ v = .str s := by
  constructor
  · intro h
    rw [← asJson_ofJson v, h, asJson]
  · rintro rfl
    rw [ofJson]

/-- A member is a string in one package when it is in the other. -/
theorem lookup_string_iff {w : Members} {k s : PyStr} :
    (ofJsonMembers w).lookup k = some (.string s) ↔ w.lookup k = some (.str s) := by
  rw [lookup_ofJsonMembers, Option.map_eq_some_iff]
  constructor
  · rintro ⟨v, hv, hs⟩
    rw [hv, ofJson_eq_string_iff.mp hs]
  · intro h
    exact ⟨_, h, ofJson_eq_string_iff.mpr rfl⟩

theorem ofJson_eq_strings_iff {v : Json} {names : List PyStr} :
    ofJson v = .array (names.map .string) ↔ v = strs names := by
  constructor
  · intro h
    rw [← asJson_ofJson v, h, asJson_strings]
  · rintro rfl
    rw [strs, ofJson, ofJsonItems_eq_map, List.map_map]
    refine congrArg _ (List.map_congr_left fun s _ => ?_)
    rw [Function.comp_apply, ofJson]

/-- Reading the critical names, and what is asked of them. -/
theorem parseCritical_lookup_iff {w : Members} {Q : PyStr → Prop} :
    (∃ critical, parseCritical ((ofJsonMembers w).lookup (py "critical")) = .ok critical ∧
      ∀ name ∈ critical.getD [], Q name) ↔
    ∀ v, w.lookup (py "critical") = some v →
      v = .null ∨ ∃ names : List PyStr, v = strs names ∧ ∀ name ∈ names, Q name := by
  have hnone : ∀ name ∈ (none : Option (List PyStr)).getD [], Q name :=
    fun name h => absurd h List.not_mem_nil
  rw [lookup_ofJsonMembers]
  simp only [parseCritical_ok_iff]
  cases w.lookup (py "critical") with
  | none =>
      refine iff_of_true ⟨none, Or.inl ⟨Or.inl rfl, rfl⟩, hnone⟩ fun v h => ?_
      exact absurd h (Option.some_ne_none v).symm
  | some v =>
      rw [Option.map_some]
      constructor
      · rintro ⟨critical, ⟨hnull | hnull, -⟩ | ⟨names, hnames, rfl⟩, hall⟩ v' hv
        · cases hnull
        · refine Or.inl ?_
          rw [← Option.some.inj hv, ← asJson_ofJson v, Option.some.inj hnull, asJson]
        · refine Or.inr ⟨names, ?_, hall⟩
          rw [← Option.some.inj hv]
          exact ofJson_eq_strings_iff.mp (Option.some.inj hnames)
      · intro h
        rcases h v rfl with rfl | ⟨names, rfl, hall⟩
        · exact ⟨none, Or.inl ⟨Or.inr (by rw [ofJson]), rfl⟩, hnone⟩
        · exact ⟨some names, Or.inr ⟨names, congrArg some (ofJson_eq_strings_iff.mpr rfl), rfl⟩, hall⟩

/-- Which values TypeScript has to accept, of what it signs. -/
theorem accepted_payload_iff {record : List (PyStr × JsonValue)} {t : TsAgentCard}
    (hnodup : (record.map Prod.fst).Nodup) (R : TsReadFrom record t) :
    Accepted (.object t.payload) ↔
      (Accepted t.amp ∧ Accepted t.operator ∧ Accepted t.agreementPrekey ∧
        (∀ i ∈ t.payloadTypes, Accepted i) ∧ (∀ m ∈ t.endpoints, Accepted m.2) ∧
        Accepted t.policySummary) ∧
      ∀ m ∈ record, m.1 ∉ tsCardKnownFields ∧ m.1 ≠ py "extra" ∧ m.1 ≠ protoName → Accepted m.2 := by
  have hstring : ∀ s, Accepted (.string s) ↔ True := fun s => iff_of_true (.string s) trivial
  have hcritical : (∀ m ∈ tsCriticalMember t.critical, Accepted m.2) ↔ True := by
    refine iff_of_true (fun m hm => ?_) trivial
    cases hcrit : t.critical with
    | none =>
        rw [hcrit] at hm
        exact absurd hm List.not_mem_nil
    | some names =>
        rw [hcrit] at hm
        rw [List.mem_singleton.mp hm]
        exact .array (List.forall_mem_map.mpr fun s _ => .string s)
  rw [accepted_object_iff, R.payload_eq hnodup, List.forall_mem_append, List.forall_mem_append,
    hcritical, and_true]
  simp only [List.forall_mem_cons, List.not_mem_nil, false_imp_iff, implies_true, and_true, hstring,
    true_and, accepted_array_iff, accepted_object_iff, List.mem_filter, decide_eq_true_iff, and_imp]

/-- An extension to Python is one to TypeScript, where `__proto__` is none. -/
theorem not_cardField_iff {k : PyStr} :
    k ∉ cardFields ↔ k ∉ tsCardKnownFields ∧ k ≠ py "extra" := by
  have hsub : ∀ k ∈ cardFields, k ∈ tsCardKnownFields ∨ k = py "extra" := by decide
  have hknown : ∀ k ∈ tsCardKnownFields, k ∈ cardFields := by decide
  have hextra : py "extra" ∈ cardFields := by decide
  constructor
  · exact fun h => ⟨fun hk => h (hknown k hk), fun hk => h (hk ▸ hextra)⟩
  · rintro ⟨h, hne⟩ hk
    exact (hsub k hk).elim h hne

/-- A value taken as it is, `null` for the default: what has to be accepted is what stands there. -/
theorem accepted_coalesce_iff {w : Members} {k : PyStr} {dflt : JsonValue} (hd : Accepted dflt) :
    Accepted (coalesce ((ofJsonMembers w).lookup k) dflt) ↔
      ∀ v, w.lookup k = some v → Accepted (ofJson v) := by
  rw [coalesce_iff hd]
  refine forall₂_congr fun v _ => ?_
  constructor
  · rintro (rfl | h)
    · rw [ofJson]
      exact .null
    · exact h
  · exact Or.inr

/-- The endpoints can be signed unless they hold an unsafe integer; an integer in their place
    spreads to nothing. -/
theorem accepted_endpoints_iff {w : Members} (hfloat : ∀ m ∈ w, FloatFree m.2) {k : PyStr} :
    (∀ m ∈ spreadObject (coalesce ((ofJsonMembers w).lookup k) (.object [])), Accepted m.2) ↔
      ∀ v, w.lookup k = some v → (∃ n, v = .int n) ∨ Accepted (ofJson v) := by
  rw [@coalesce_iff (fun v => ∀ m ∈ spreadObject v, Accepted m.2) _ _ _
    fun m hm => absurd hm List.not_mem_nil]
  refine forall₂_congr fun v hv => ?_
  rw [accepted_spreadObject (hfloat _ (mem_of_lookup hv))]
  constructor
  · rintro (rfl | h)
    · rw [ofJson]
      exact Or.inr .null
    · exact h
  · exact Or.inr

theorem accepted_tsDefaultPayloadTypes : Accepted tsDefaultPayloadTypes := by
  rw [tsDefaultPayloadTypes, accepted_array_iff]
  simp only [List.forall_mem_cons, List.not_mem_nil, false_imp_iff, implies_true, and_true]
  exact ⟨.string _, .string _⟩

theorem tsDecodeSignature_nil : tsDecodeSignature (.string []) = .ok [] :=
  tsDecodeSignature_ok_iff.mpr decodeSignature_nil

/-- What TypeScript has read and decoded meets its conditions. -/
theorem TsPrepared.reads {w : Members} {understood : List PyStr} {t : TsAgentCard} {key raw : Bytes}
    (hnodup : (w.map Prod.fst).Nodup) (hfloat : ∀ m ∈ w, FloatFree m.2)
    (P : TsPrepared w understood t key raw) : TsReads w understood := by
  obtain ⟨haddress, hsigning⟩ := TsAgentCard.checkKeys_ok_iff.mp P.keys
  have R := P.read
  have hnodup' : ((ofJsonMembers w).map Prod.fst).Nodup := by
    rwa [map_fst_ofJsonMembers]
  obtain ⟨⟨hamp, hoperator, hprekey, hpayload, hendpoints, hsummary⟩, hextra⟩ :=
    (accepted_payload_iff hnodup' R).mp P.payload
  rw [R.amp, accepted_coalesce_iff (.string _)] at hamp
  rw [R.operator, accepted_coalesce_iff .null] at hoperator
  rw [R.agreementPrekey, accepted_coalesce_iff .null] at hprekey
  rw [R.policySummary, accepted_coalesce_iff (.string _)] at hsummary
  rw [accepted_spreadArray R.payloadTypes,
    accepted_coalesce_iff accepted_tsDefaultPayloadTypes] at hpayload
  refine ⟨⟨key, ⟨_, lookup_string_iff.mp R.address, haddress⟩, ⟨_, lookup_string_iff.mp R.name⟩, _,
    lookup_string_iff.mp R.signingKey, hsigning⟩, ⟨_, lookup_string_iff.mp R.agreementKey⟩,
    fun v hv => ?_, fun v hv => ?_, ?_, fun v hv => ?_, ?_, fun v hv => ?_, fun m hm hfield hproto => ?_⟩
  · refine ((@coalesce_iff (fun v => ∃ kind : ParticipantKind, v = .string kind.value) _ _ _
      ⟨.agent, rfl⟩).mp ⟨t.kind, R.kind⟩ v hv).imp_right ?_
    exact Exists.imp fun kind => ofJson_eq_string_iff.mp
  · refine ((@coalesce_iff (fun v => ∃ items, spreadArray v = .ok items) _ _ _ ⟨_, rfl⟩).mp
      ⟨_, R.payloadTypes⟩ v hv).imp_right ?_
    exact spreadArray_ofJson.mp
  · exact parseCritical_lookup_iff.mp ⟨t.critical, R.critical, P.critical⟩
  · refine ((@coalesce_iff (fun v => ∃ raw, tsDecodeSignature v = .ok raw) _ _ _
      ⟨[], tsDecodeSignature_nil⟩).mp ⟨raw, R.signature ▸ P.signature⟩ v hv).imp_right ?_
    exact Exists.imp fun raw => tsDecodeSignature_ofJson.mp
  · simp only [signedAsGiven, List.forall_mem_cons, List.not_mem_nil, false_imp_iff, implies_true,
      and_true]
    exact ⟨hamp, hoperator, hprekey, hpayload, hsummary⟩
  · rw [R.endpoints, accepted_endpoints_iff hfloat] at hendpoints
    exact hendpoints v hv
  · rw [not_cardField_iff] at hfield
    refine hextra (m.1, ofJson m.2) ?_ ⟨hfield.1, hfield.2, hproto⟩
    rw [ofJsonMembers_eq_map]
    exact List.mem_map_of_mem hm

/-- **WHAT MEETS TYPESCRIPT'S CONDITIONS** is read and decoded. -/
theorem TsReads.prepared {w : Members} {understood : List PyStr}
    (hnodup : (w.map Prod.fst).Nodup) (hfloat : ∀ m ∈ w, FloatFree m.2)
    (h : TsReads w understood) : ∃ t key raw, TsPrepared w understood t key raw := by
  have hnodup' : ((ofJsonMembers w).map Prod.fst).Nodup := by
    rwa [map_fst_ofJsonMembers]
  obtain ⟨key, ⟨address, haddress, hkey⟩, ⟨name, hname⟩, signing, hsigning, hkey'⟩ := h.declares
  obtain ⟨agreement, hagreement⟩ := h.agreementKey
  obtain ⟨kind, hkind⟩ := (@coalesce_iff (fun v => ∃ kind : ParticipantKind, v = .string kind.value)
    w _ (.string ParticipantKind.agent.value) ⟨.agent, rfl⟩).mpr fun v hv =>
      (h.kind v hv).imp_right (Exists.imp fun kind => ofJson_eq_string_iff.mpr)
  obtain ⟨items, hitems⟩ := (@coalesce_iff (fun v => ∃ items, spreadArray v = .ok items) w _
    tsDefaultPayloadTypes ⟨_, rfl⟩).mpr fun v hv =>
      (h.payloadTypes v hv).imp_right spreadArray_ofJson.mpr
  obtain ⟨critical, hcritical, hall⟩ := parseCritical_lookup_iff.mpr h.critical
  obtain ⟨raw, hraw⟩ := (@coalesce_iff (fun v => ∃ raw, tsDecodeSignature v = .ok raw) w _
    (.string []) ⟨[], tsDecodeSignature_nil⟩).mpr fun v hv =>
      (h.signature v hv).imp_right (Exists.imp fun raw => tsDecodeSignature_ofJson.mpr)
  have hfields := h.fields
  simp only [signedAsGiven, List.forall_mem_cons, List.not_mem_nil, false_imp_iff, implies_true,
    and_true] at hfields
  obtain ⟨hamp, hoperator, hprekey, hpayload, hsummary⟩ := hfields
  let t : TsAgentCard := ⟨coalesce ((ofJsonMembers w).lookup (py "amp")) (.string defaultProtocolVersion),
    address, name, kind, coalesce ((ofJsonMembers w).lookup (py "operator")) .null, signing, agreement,
    coalesce ((ofJsonMembers w).lookup (py "agreement_prekey")) .null, items,
    spreadObject (coalesce ((ofJsonMembers w).lookup (py "endpoints")) (.object [])),
    coalesce ((ofJsonMembers w).lookup (py "policy_summary")) (.string []), critical,
    coalesce ((ofJsonMembers w).lookup (py "signature")) (.string []),
    extensionsOf (ofJsonMembers w), extensionsOf_shadow_nothing hnodup'⟩
  have R : TsReadFrom (ofJsonMembers w) t :=
    ⟨rfl, lookup_string_iff.mpr haddress, lookup_string_iff.mpr hname, hkind, rfl,
      lookup_string_iff.mpr hsigning, lookup_string_iff.mpr hagreement, rfl, hitems, rfl, rfl,
      hcritical, rfl, rfl⟩
  refine ⟨t, key, raw, R, TsAgentCard.checkKeys_ok_iff.mpr ⟨hkey, hkey'⟩, hraw, hall, ?_⟩
  refine (accepted_payload_iff hnodup' R).mpr ⟨⟨?_, ?_, ?_, ?_, ?_, ?_⟩, ?_⟩
  · exact (accepted_coalesce_iff (.string _)).mpr hamp
  · exact (accepted_coalesce_iff .null).mpr hoperator
  · exact (accepted_coalesce_iff .null).mpr hprekey
  · rw [accepted_spreadArray hitems]
    exact (accepted_coalesce_iff accepted_tsDefaultPayloadTypes).mpr hpayload
  · exact (accepted_endpoints_iff hfloat).mpr h.endpoints
  · exact (accepted_coalesce_iff (.string _)).mpr hsummary
  · rintro _ hmem ⟨hknown, hne, hproto⟩
    rw [ofJsonMembers_eq_map] at hmem
    obtain ⟨m, hm, rfl⟩ := List.mem_map.mp hmem
    exact h.extensions m hm (not_cardField_iff.mpr ⟨hknown, hne⟩) hproto

/-- **WHAT TYPESCRIPT ASKS** of a wire object is a list of conditions on its members. -/
theorem tsReads_iff {w : Members} {understood : List PyStr} (hnodup : (w.map Prod.fst).Nodup)
    (hfloat : ∀ m ∈ w, FloatFree m.2) :
    TsReads w understood ↔ ∃ t key raw, TsPrepared w understood t key raw :=
  ⟨TsReads.prepared hnodup hfloat, fun ⟨_, _, _, h⟩ => h.reads hnodup hfloat⟩

/-! ## What each package signs -/

variable {w : Members} {c : AgentCard} {t : TsAgentCard}

/-- The members both packages write first, with what each has for `amp` and `policy_summary`. -/
def elevenMembers (c : AgentCard) (amp policySummary : Json) : Members :=
  [(py "amp", amp), (py "address", .str c.address), (py "name", .str c.name),
    (py "kind", .str c.kind.value), (py "operator", c.operator),
    (py "signing_key", .str c.signingKey), (py "agreement_key", .str c.agreementKey),
    (py "agreement_prekey", c.agreementPrekey), (py "payload_types", .arr c.payloadTypes),
    (py "endpoints", .obj c.endpoints), (py "policy_summary", policySummary)]

/-- The payload in Python: eleven members, the critical names, the extensions. -/
theorem py_payload (c : AgentCard) : c.payload =
    .obj (elevenMembers c c.amp c.policySummary ++ (pyCritical (some c.critical) ++ c.extra)) := by
  rw [← List.append_assoc]
  rfl

/-- A member both have a default for: the same to both, unless it is `null`. -/
theorem asJson_coalesce {k : PyStr} (hne : w.lookup k ≠ some .null) (dflt : JsonValue) :
    asJson (coalesce ((ofJsonMembers w).lookup k) dflt) = getFieldOr w k (asJson dflt) := by
  rw [lookup_ofJsonMembers, getFieldOr]
  cases hv : w.lookup k with
  | none => rfl
  | some v =>
      have hvalue : ofJson v ≠ .null := fun hnull => hne (by rw [hv, ← asJson_ofJson v, hnull, asJson])
      rw [Option.map_some, coalesce_some hvalue, asJson_ofJson]
      rfl

/-- A `null` is taken for its default. -/
theorem coalesce_null {k : PyStr} (h : w.lookup k = some .null) (dflt : JsonValue) :
    coalesce ((ofJsonMembers w).lookup k) dflt = dflt := by
  rw [lookup_ofJsonMembers, h, Option.map_some, ofJson]
  rfl

/-- A member whose default is `null` is the same to both. -/
theorem asJson_coalesce_to_null (k : PyStr) :
    asJson (coalesce ((ofJsonMembers w).lookup k) .null) = getFieldOr w k .null := by
  by_cases h : w.lookup k = some .null
  · rw [coalesce_null h, getFieldOr, h, asJson]
    rfl
  · rw [asJson_coalesce h, asJson]

/-- What Python iterates over TypeScript spreads. -/
theorem iterate_eq_spread {v : Json} {items : List Json} {items' : List JsonValue}
    (h : iterate v = .ok items) (h' : spreadArray (ofJson v) = .ok items') :
    items'.map asJson = items := by
  cases v with
  | arr values =>
      rw [ofJson, ofJsonItems_eq_map] at h'
      cases h
      cases h'
      rw [List.map_map]
      exact (List.map_congr_left fun v _ => asJson_ofJson v).trans (List.map_id _)
  | str s =>
      rw [ofJson] at h'
      cases h
      cases h'
      rw [List.map_map]
      refine List.map_congr_left fun c _ => ?_
      rw [Function.comp_apply, asJson]
  | obj members =>
      rw [ofJson] at h'
      cases h'
  | _ => cases h

/-- Both cards have the same payload types. -/
theorem payloadTypes_eq (R : ReadFrom w c) (R' : TsReadFrom (ofJsonMembers w) t) :
    t.payloadTypes.map asJson = c.payloadTypes := by
  have hpy := R.payloadTypes
  have hts := R'.payloadTypes
  rw [getFieldOr] at hpy
  rw [lookup_ofJsonMembers] at hts
  cases hv : w.lookup (py "payload_types") with
  | none =>
      rw [hv] at hpy hts
      refine @iterate_eq_spread defaultPayloadTypes _ _ hpy ?_
      simp only [defaultPayloadTypes, ofJson, ofJsonItems]
      exact hts
  | some v =>
      rw [hv] at hpy hts
      refine @iterate_eq_spread v _ _ hpy ?_
      cases v with
      | null => cases hpy
      | _ =>
          rw [Option.map_some, ofJson] at hts
          rw [ofJson]
          exact hts

/-- And the same endpoints. -/
theorem endpoints_eq (R : ReadFrom w c) (R' : TsReadFrom (ofJsonMembers w) t) :
    asJsonMembers t.endpoints = c.endpoints := by
  have hpy := R.endpoints
  rw [R'.endpoints, lookup_ofJsonMembers]
  rw [getFieldOr] at hpy
  cases hv : w.lookup (py "endpoints") with
  | none =>
      rw [hv] at hpy
      rw [← Json.obj.inj hpy]
      rfl
  | some v =>
      rw [hv] at hpy
      obtain rfl : v = .obj c.endpoints := hpy
      have hinv := asJson_ofJson (.obj c.endpoints)
      rw [ofJson, asJson] at hinv
      rw [Option.map_some, ofJson]
      exact Json.obj.inj hinv

/-- And the same kind. -/
theorem kind_eq (R : ReadFrom w c) (R' : TsReadFrom (ofJsonMembers w) t) : t.kind = c.kind := by
  have hinj : ∀ k k' : ParticipantKind, k.value = k'.value → k = k' := by
    intro k k' h
    cases k <;> cases k' <;> first | rfl | exact absurd h (by decide)
  have hpy := participantKind_ok_iff.mp R.kind
  have hne : w.lookup (py "kind") ≠ some .null := by
    intro h
    rw [getFieldOr, h] at hpy
    cases hpy
  have hts := congrArg asJson R'.kind
  rw [asJson_coalesce hne, asJson, asJson, hpy] at hts
  exact (hinj _ _ (Json.str.inj hts)).symm

/-- The critical names are listed alike, or not at all. -/
theorem critical_cases (R : ReadFrom w c) (R' : TsReadFrom (ofJsonMembers w) t) :
    (w.lookup (py "critical") = none ∧ c.critical = [] ∧ t.critical = none) ∨
      (w.lookup (py "critical") = some (strs c.critical) ∧ t.critical = some c.critical) := by
  have hpy := R.critical
  rw [getFieldOr] at hpy
  cases hv : w.lookup (py "critical") with
  | none =>
      rw [hv] at hpy
      have hts := R'.critical
      rw [lookup_ofJsonMembers, hv] at hts
      refine Or.inl ⟨rfl, ?_, (Except.ok.inj hts).symm⟩
      exact List.map_eq_nil_iff.mp (Except.ok.inj hpy).symm
  | some v =>
      rw [hv] at hpy
      have hts := R'.critical
      rw [lookup_ofJsonMembers, hv, Option.map_some, parseCritical_ok_iff] at hts
      rcases hts with ⟨hnull | hnull, -⟩ | ⟨names, hnames, hcritical⟩
      · cases hnull
      · rw [← asJson_ofJson v, Option.some.inj hnull, asJson] at hpy
        cases hpy
      · rw [ofJson_eq_strings_iff.mp (Option.some.inj hnames)] at hpy
        have heq : names = c.critical := strs_inj (congrArg Json.arr (Except.ok.inj hpy))
        rw [hcritical, ofJson_eq_strings_iff.mp (Option.some.inj hnames), heq]
        exact Or.inr ⟨rfl, rfl⟩

theorem asJsonMembers_tsCriticalMember (critical : Option (List PyStr)) :
    asJsonMembers (tsCriticalMember critical) = tsCritical critical := by
  cases critical with
  | none => rfl
  | some names =>
      rw [tsCriticalMember, asJsonMembers, asJson_strings]
      rfl

/-- **WHAT TYPESCRIPT SIGNS**, beside the card Python reads from the same object. -/
theorem ts_payload (hnodup : (w.map Prod.fst).Nodup) (R : ReadFrom w c)
    (R' : TsReadFrom (ofJsonMembers w) t) : asJson (.object t.payload) =
      .obj (elevenMembers c (asJson t.amp) (asJson t.policySummary) ++
        (tsCritical t.critical ++ c.extra.filter (·.1 ≠ protoName))) := by
  have hnodup' : ((ofJsonMembers w).map Prod.fst).Nodup := by
    rwa [map_fst_ofJsonMembers]
  have haddress := lookup_string_iff.mp R'.address
  have hname := lookup_string_iff.mp R'.name
  have hsigning := lookup_string_iff.mp R'.signingKey
  have hagreement := lookup_string_iff.mp R'.agreementKey
  rw [R.address] at haddress
  rw [R.name] at hname
  rw [R.signingKey] at hsigning
  rw [R.agreementKey] at hagreement
  have hextra : asJsonMembers ((ofJsonMembers w).filter fun m =>
      m.1 ∉ tsCardKnownFields ∧ m.1 ≠ py "extra" ∧ m.1 ≠ protoName)
        = c.extra.filter (·.1 ≠ protoName) := by
    rw [R.extra, ofJsonMembers_eq_map, List.filter_map, asJsonMembers_eq_map, List.map_map,
      List.filter_filter]
    refine ((List.map_congr_left fun m _ => ?_).trans (List.map_id _)).trans
      (List.filter_congr fun m _ => ?_)
    · exact Prod.ext rfl (asJson_ofJson m.2)
    · rw [Function.comp_apply, Bool.eq_iff_iff, Bool.and_eq_true, decide_eq_true_iff,
        decide_eq_true_iff, decide_eq_true_iff, not_cardField_iff]
      tauto
  rw [asJson, R'.payload_eq hnodup', asJsonMembers_append, asJsonMembers_append, hextra,
    asJsonMembers_tsCriticalMember, List.append_assoc]
  refine congrArg (fun members => Json.obj (members ++ _)) ?_
  simp only [asJsonMembers, asJson, asJsonItems_eq_map, elevenMembers]
  rw [payloadTypes_eq R R', endpoints_eq R R', kind_eq R R', R'.operator, R'.agreementPrekey,
    asJson_coalesce_to_null, asJson_coalesce_to_null, ← R.operator, ← R.agreementPrekey,
    Json.str.inj (Option.some.inj haddress), Json.str.inj (Option.some.inj hname),
    Json.str.inj (Option.some.inj hsigning), Json.str.inj (Option.some.inj hagreement)]

/-! ## Everything signed is ASCII -/

/-- Members that are ASCII stay so side by side. -/
theorem asciiJson_append {a b : Members} (ha : AsciiJson (.obj a)) (hb : AsciiJson (.obj b)) :
    AsciiJson (.obj (a ++ b)) := by
  cases ha with
  | obj hak hav =>
      cases hb with
      | obj hbk hbv =>
          exact .obj (List.forall_mem_append.mpr ⟨hak, hbk⟩) (List.forall_mem_append.mpr ⟨hav, hbv⟩)

/-- What is read from ASCII, or its default, is ASCII. -/
theorem asciiJson_getFieldOr (hw : AsciiJson (.obj w)) {k : PyStr} {dflt : Json}
    (hd : AsciiJson dflt) : AsciiJson (getFieldOr w k dflt) :=
  (getFieldOr_iff hd).mpr fun _ hv => (asciiJson_member hw (mem_of_lookup hv)).2

theorem asciiJson_iterate {v : Json} {items : List Json} (hv : AsciiJson v)
    (h : iterate v = .ok items) : ∀ i ∈ items, AsciiJson i := by
  cases hv with
  | arr hall =>
      cases h
      exact hall
  | str hs =>
      cases h
      exact List.forall_mem_map.mpr fun c hc => .str (isAscii_cons.mpr ⟨hs c hc, isAscii_nil⟩)
  | obj hkeys _ =>
      cases h
      exact List.forall_mem_map.mpr fun m hm => .str (hkeys m hm)
  | _ => cases h

/-- The eleven members are ASCII when the wire card is. -/
theorem asciiJson_eleven (hw : AsciiJson (.obj w)) (R : ReadFrom w c) {amp policySummary : Json}
    (hamp : AsciiJson amp) (hsummary : AsciiJson policySummary) :
    AsciiJson (.obj (elevenMembers c amp policySummary)) := by
  have hlookup : ∀ {k v}, w.lookup k = some v → AsciiJson v := fun hv =>
    (asciiJson_member hw (mem_of_lookup hv)).2
  have hkind : ∀ kind : ParticipantKind, IsAscii kind.value := by
    intro kind
    cases kind <;> decide
  have hdefault : AsciiJson defaultPayloadTypes := by
    refine .arr ?_
    simp only [List.forall_mem_cons, List.not_mem_nil, false_imp_iff, implies_true, and_true]
    exact ⟨.str (by decide), .str (by decide)⟩
  have hendpoints : AsciiJson (.obj c.endpoints) :=
    R.endpoints ▸ asciiJson_getFieldOr hw .obj_nil
  have htypes : ∀ i ∈ c.payloadTypes, AsciiJson i :=
    asciiJson_iterate (asciiJson_getFieldOr hw hdefault) R.payloadTypes
  have hoperator : AsciiJson c.operator := R.operator ▸ asciiJson_getFieldOr hw .null
  have hprekey : AsciiJson c.agreementPrekey := R.agreementPrekey ▸ asciiJson_getFieldOr hw .null
  refine .obj_cons (by decide) hamp (.obj_cons (by decide) (hlookup R.address) ?_)
  refine .obj_cons (by decide) (hlookup R.name) (.obj_cons (by decide) (.str (hkind _)) ?_)
  refine .obj_cons (by decide) hoperator (.obj_cons (by decide) (hlookup R.signingKey) ?_)
  refine .obj_cons (by decide) (hlookup R.agreementKey) (.obj_cons (by decide) hprekey ?_)
  refine .obj_cons (by decide) (.arr htypes) (.obj_cons (by decide) hendpoints ?_)
  exact .obj_cons (by decide) hsummary .obj_nil

/-- So are its extensions. -/
theorem asciiJson_extra (hw : AsciiJson (.obj w)) (R : ReadFrom w c) :
    AsciiJson (.obj c.extra) := by
  rw [R.extra]
  exact .obj (fun m hm => (asciiJson_member hw (List.mem_filter.mp hm).1).1)
    fun m hm => (asciiJson_member hw (List.mem_filter.mp hm).1).2

/-- So are its critical names. -/
theorem isAscii_critical (hw : AsciiJson (.obj w)) (R : ReadFrom w c) :
    ∀ name ∈ c.critical, IsAscii name := by
  intro name hname
  obtain ⟨m, hm, rfl⟩ := List.mem_map.mp (c.critical_present name hname)
  rw [R.extra] at hm
  exact (asciiJson_member hw (List.mem_filter.mp hm).1).1

/-- So is the payload of Python. -/
theorem asciiJson_py_payload (hw : AsciiJson (.obj w)) (R : ReadFrom w c) :
    AsciiJson c.payload := by
  have hamp : AsciiJson c.amp := R.amp ▸ asciiJson_getFieldOr hw (.str (by decide))
  have hsummary : AsciiJson c.policySummary :=
    R.policySummary ▸ asciiJson_getFieldOr hw (.str isAscii_nil)
  rw [py_payload]
  refine asciiJson_append (asciiJson_eleven hw R hamp hsummary)
    (asciiJson_append ?_ (asciiJson_extra hw R))
  simp only [pyCritical]
  split_ifs
  · exact .obj_nil
  · exact .obj_cons (by decide) (asciiJson_strs fun name hname =>
      isAscii_critical hw R name (mem_sortedStrs.mp hname)) .obj_nil

/-- So is that of TypeScript. -/
theorem asciiJson_ts_payload (hnodup : (w.map Prod.fst).Nodup) (hw : AsciiJson (.obj w))
    (R : ReadFrom w c) (R' : TsReadFrom (ofJsonMembers w) t) :
    AsciiJson (asJson (.object t.payload)) := by
  have hcoalesce : ∀ {k dflt}, AsciiJson (asJson dflt) →
      AsciiJson (asJson (coalesce ((ofJsonMembers w).lookup k) dflt)) := by
    intro k dflt hd
    refine (@coalesce_iff (fun v => AsciiJson (asJson v)) _ _ _ hd).mpr fun v hv => Or.inr ?_
    rw [asJson_ofJson]
    exact (asciiJson_member hw (mem_of_lookup hv)).2
  have hamp : AsciiJson (asJson t.amp) := by
    rw [R'.amp]
    refine hcoalesce ?_
    rw [asJson]
    exact .str (by decide)
  have hsummary : AsciiJson (asJson t.policySummary) := by
    rw [R'.policySummary]
    refine hcoalesce ?_
    rw [asJson]
    exact .str isAscii_nil
  rw [ts_payload hnodup R R']
  refine asciiJson_append (asciiJson_eleven hw R hamp hsummary) (asciiJson_append ?_ ?_)
  · rcases critical_cases R R' with ⟨-, -, h⟩ | ⟨-, h⟩
    · rw [h]
      exact .obj_nil
    · rw [h]
      exact .obj_cons (by decide) (asciiJson_strs (isAscii_critical hw R)) .obj_nil
  · cases asciiJson_extra hw R with
    | obj hkeys hvalues =>
        exact .obj (fun m hm => hkeys m (List.mem_filter.mp hm).1)
          fun m hm => hvalues m (List.mem_filter.mp hm).1

/-! ## The same bytes -/

variable {H : Host}

theorem allStrings_of_ascii {v : Json} (h : AsciiJson v) : AllStrings IsAscii v := by
  induction h with
  | null => exact .null
  | bool b => exact .bool b
  | int n => exact .int n
  | str hs => exact .str hs
  | arr _ ih => exact .arr ih
  | obj hkeys _ ih => exact .obj hkeys ih

/-- Before ASCII an escape stands: nothing composes with it. -/
theorem escapesStand_of_ascii (N : NfcText H.nfc) {s : PyStr} (hs : IsAscii s) :
    EscapesStand H.nfc s := by
  rw [← nfc_escape_eq_iff N, N.ascii s hs]
  exact N.ascii _ (isAscii_flatMap fun c hc => isAscii_escapeChar (hs c hc))

/-- Of an ASCII value TypeScript accepts both packages have one signing input. -/
theorem ascii_signingInput (N : NfcText H.nfc) {context : PyStr} (hc : IsContext context)
    {j : JsonValue} (hj : Accepted j) (hascii : AsciiJson (asJson j)) :
    ∃ message, signingInput H context (asJson j) = .ok message ∧
      tsSigningInput H.nfc context j = .ok message := by
  have hstrings := allStrings_of_ascii hascii
  obtain ⟨m, m', hm, hm', hiff⟩ := same_signingInput_iff N hc hj
    (hstrings.imp fun s hs c hcs => isScalar_ascii (hs c hcs))
  rw [← hiff.mpr (hstrings.imp fun s => escapesStand_of_ascii N)] at hm'
  exact ⟨m, hm, hm'⟩

/-- ASCII objects that match have the same keys, with values that match. -/
theorem exists_partner (N : NfcText H.nfc) {a b : Members}
    (h : Matches (fun s t => H.nfc s = H.nfc t) (.obj a) (.obj b))
    (ha : AsciiJson (.obj a)) (hb : AsciiJson (.obj b)) :
    (∀ m ∈ a, ∃ m' ∈ b, m'.1 = m.1 ∧ Matches (fun s t => H.nfc s = H.nfc t) m.2 m'.2) ∧
      ∀ m' ∈ b, ∃ m ∈ a, m.1 = m'.1 ∧ Matches (fun s t => H.nfc s = H.nfc t) m.2 m'.2 := by
  have hkey : ∀ m ∈ a, ∀ m' ∈ b, H.nfc m.1 = H.nfc m'.1 → m.1 = m'.1 := by
    intro m hm m' hm' heq
    rwa [N.ascii _ (asciiJson_member ha hm).1, N.ascii _ (asciiJson_member hb hm').1] at heq
  cases h with
  | obj hlen hkeys hvalues =>
      constructor
      · intro m hm
        obtain ⟨m', hp⟩ := exists_zip_left hlen (mem_sortKeys.mpr hm)
        have hm' := mem_sortKeys.mp (List.of_mem_zip hp).2
        exact ⟨m', hm', (hkey m hm m' hm' (hkeys _ hp)).symm, hvalues _ hp⟩
      · intro m' hm'
        obtain ⟨m, hp⟩ := exists_zip_right hlen (mem_sortKeys.mpr hm')
        have hm := mem_sortKeys.mp (List.of_mem_zip hp).1
        exact ⟨m, hm, hkey m hm m' hm' (hkeys _ hp), hvalues _ hp⟩

/-- Lists of ASCII names that match are the same. -/
theorem eq_of_matches_strs (N : NfcText H.nfc) {a b : List PyStr} (ha : ∀ s ∈ a, IsAscii s)
    (hb : ∀ s ∈ b, IsAscii s)
    (h : Matches (fun s t => H.nfc s = H.nfc t) (strs a) (strs b)) : a = b := by
  cases h with
  | arr hlen hzip =>
      rw [List.length_map, List.length_map] at hlen
      rw [← List.forall₂_eq_eq_eq, List.forall₂_iff_zip]
      refine ⟨hlen, fun {s t} hp => ?_⟩
      have hmem : (Json.str s, Json.str t) ∈ (a.map Json.str).zip (b.map Json.str) := by
        rw [List.zip_map]
        exact List.mem_map_of_mem hp
      have heq := matches_str_iff.mp (hzip _ hmem)
      rwa [N.ascii s (ha s (List.of_mem_zip hp).1), N.ascii t (hb t (List.of_mem_zip hp).2)] at heq

/-- The names of the eleven members. -/
def elevenFields : List PyStr :=
  [py "amp", py "address", py "name", py "kind", py "operator", py "signing_key",
    py "agreement_key", py "agreement_prekey", py "payload_types", py "endpoints",
    py "policy_summary"]

/-- What stands under one of the eleven names, whatever follows them. -/
theorem eleven_value {amp policySummary v : Json} {rest : Members} {k : PyStr}
    (hrest : ∀ m ∈ rest, m.1 ∉ elevenFields) (hv : (k, v) ∈ elevenMembers c amp policySummary)
    {m : PyStr × Json} (hm : m ∈ elevenMembers c amp policySummary ++ rest) (hk : m.1 = k) :
    m.2 = v := by
  have hnodup : ((elevenMembers c amp policySummary).map Prod.fst).Nodup := by
    show elevenFields.Nodup
    decide
  rcases List.mem_append.mp hm with hm | hm
  · rw [List.inj_on_of_nodup_map hnodup hm hv hk]
  · have hmem : k ∈ (elevenMembers c amp policySummary).map Prod.fst := List.mem_map_of_mem hv
    exact absurd (hk ▸ hmem) (hrest m hm)

theorem notMem_elevenFields {k : PyStr} (hk : k ∉ cardFields) : k ∉ elevenFields := by
  have hsub : ∀ k ∈ elevenFields, k ∈ cardFields := by decide
  exact fun h => hk (hsub k h)

/-- No extension has the name of a card field. -/
theorem extra_notField (R : ReadFrom w c) : ∀ m ∈ c.extra, m.1 ∉ cardFields := by
  intro m hm
  rw [R.extra] at hm
  exact of_decide_eq_true (List.mem_filter.mp hm).2

/-- TypeScript writes the critical names as they are, if there is a list of them. -/
theorem mem_tsCritical {critical : Option (List PyStr)} {m : PyStr × Json} :
    m ∈ tsCritical critical ↔ ∃ names, critical = some names ∧ m = (py "critical", strs names) := by
  cases critical with
  | none =>
      refine iff_of_false List.not_mem_nil ?_
      rintro ⟨names, h, -⟩
      cases h
  | some names =>
      rw [tsCritical, List.mem_singleton]
      constructor
      · exact fun h => ⟨names, rfl, h⟩
      · rintro ⟨_, hnames, h⟩
        rw [h, ← Option.some.inj hnames]

/-- Python writes them sorted, if there are any. -/
theorem mem_pyCritical {names : List PyStr} {m : PyStr × Json} :
    m ∈ pyCritical (some names) ↔ names ≠ [] ∧ m = (py "critical", strs (sortedStrs names)) := by
  rw [pyCritical, Option.getD_some]
  by_cases hnil : names = []
  · rw [if_pos hnil]
    exact iff_of_false List.not_mem_nil fun h => h.1 hnil
  · rw [if_neg hnil, List.mem_singleton]
    exact ⟨fun h => ⟨hnil, h⟩, fun h => h.2⟩

/-- Where the object has `null` under a name of which TypeScript has a default, TypeScript signs
    the default and Python the `null`. -/
theorem partner_of_null (R : ReadFrom w c) (k s : PyStr) {amp policySummary : Json}
    {critical : Option (List PyStr)}
    (hpy : (k, Json.null) ∈ elevenMembers c c.amp c.policySummary)
    (hts : (k, Json.str s) ∈ elevenMembers c amp policySummary)
    (hpartner : ∀ m ∈ elevenMembers c c.amp c.policySummary ++
        (pyCritical (some c.critical) ++ c.extra),
      ∃ m' ∈ elevenMembers c amp policySummary ++
        (tsCritical critical ++ c.extra.filter (·.1 ≠ protoName)),
      m'.1 = m.1 ∧ Matches (fun s t => H.nfc s = H.nfc t) m.2 m'.2) : False := by
  have hcritical : py "critical" ∉ elevenFields := by decide
  have hrest : ∀ m ∈ tsCritical critical ++ c.extra.filter (·.1 ≠ protoName), m.1 ∉ elevenFields := by
    intro m hm
    rcases List.mem_append.mp hm with hm | hm
    · obtain ⟨names, -, rfl⟩ := mem_tsCritical.mp hm
      exact hcritical
    · exact notMem_elevenFields (extra_notField R m (List.mem_filter.mp hm).1)
  obtain ⟨m', hm', hkey, hmatch⟩ := hpartner _ (List.mem_append_left _ hpy)
  rw [eleven_value hrest hts hm' hkey] at hmatch
  cases hmatch

/-- **CARDS WRITTEN ALIKE** have one payload. -/
theorem payload_eq (hnodup : (w.map Prod.fst).Nodup) (R : ReadFrom w c)
    (R' : TsReadFrom (ofJsonMembers w) t) (h : WrittenAlike w) :
    c.payload = asJson (.object t.payload) := by
  have hextra : c.extra.filter (·.1 ≠ protoName) = c.extra := by
    refine filter_ne fun hmem => h.proto ?_
    rw [R.extra] at hmem
    exact (List.filter_sublist.map Prod.fst).subset hmem
  have hcritical : pyCritical (some c.critical) = tsCritical t.critical := by
    rcases critical_cases R R' with ⟨-, hnil, hnone⟩ | ⟨hlookup, hsome⟩
    · rw [hnil, hnone]
      rfl
    · obtain ⟨hne, hsorted⟩ := h.critical _ hlookup
      rw [hsome, pyCritical, Option.getD_some, if_neg hne, sortedStrs_eq_iff.mpr hsorted]
      rfl
  rw [py_payload, ts_payload hnodup R R', R'.amp, R'.policySummary, asJson_coalesce h.amp,
    asJson_coalesce h.policySummary, asJson, asJson, ← R.amp, ← R.policySummary, hextra, hcritical]

/-- **PAYLOADS THAT MATCH** are of cards written alike. -/
theorem writtenAlike_of_matches (N : NfcText H.nfc) (hnodup : (w.map Prod.fst).Nodup)
    (hw : AsciiJson (.obj w)) (R : ReadFrom w c) (R' : TsReadFrom (ofJsonMembers w) t)
    (h : Matches (fun s t => H.nfc s = H.nfc t) c.payload (asJson (.object t.payload))) :
    WrittenAlike w := by
  have hpy := asciiJson_py_payload hw R
  have hts := asciiJson_ts_payload hnodup hw R R'
  rw [py_payload] at h hpy
  rw [ts_payload hnodup R R'] at h hts
  obtain ⟨hleft, hright⟩ := exists_partner N h hpy hts
  have hcriticalField : py "critical" ∈ cardFields := by decide
  have hcriticalEleven : py "critical" ∉ elevenFields := by decide
  have hprotoField : protoName ∉ cardFields := by decide
  have hprotoCritical : protoName ≠ py "critical" := by decide
  have hkeys : ∀ {amp policySummary : Json}, ∀ m ∈ elevenMembers c amp policySummary,
      m.1 ∈ elevenFields := fun m hm => List.mem_map_of_mem hm
  refine ⟨fun hnull => ?_, fun hnull => ?_, fun names hnames => ?_, fun hmem => ?_⟩
  · have hpyNull : c.amp = .null := by
      rw [R.amp, getFieldOr, hnull]
      rfl
    have htsText : asJson t.amp = .str defaultProtocolVersion := by
      rw [R'.amp, coalesce_null hnull, asJson]
    refine partner_of_null R (py "amp") defaultProtocolVersion ?_ ?_ hleft
    · exact hpyNull ▸ List.mem_cons_self
    · exact htsText ▸ List.mem_cons_self
  · have hpyNull : c.policySummary = .null := by
      rw [R.policySummary, getFieldOr, hnull]
      rfl
    have htsText : asJson t.policySummary = .str [] := by
      rw [R'.policySummary, coalesce_null hnull, asJson]
    have hlast : ∀ amp policySummary, (py "policy_summary", policySummary) ∈
        elevenMembers c amp policySummary := fun _ _ => List.mem_of_getElem? (i := 10) rfl
    refine partner_of_null R (py "policy_summary") [] ?_ ?_ hleft
    · exact hpyNull ▸ hlast _ _
    · exact htsText ▸ hlast _ _
  · have hboth : names = c.critical ∧ t.critical = some c.critical := by
      rcases critical_cases R R' with ⟨hnone, -⟩ | ⟨hlookup, hsome⟩
      · rw [hnone] at hnames
        cases hnames
      · rw [hlookup] at hnames
        exact ⟨(strs_inj (Option.some.inj hnames)).symm, hsome⟩
    obtain ⟨rfl, hsome⟩ := hboth
    -- what TypeScript writes under `critical` Python writes too, and sorted
    obtain ⟨m, hm, hkey, hmatch⟩ := hright (py "critical", strs c.critical)
      (List.mem_append_right _ (List.mem_append_left _ (mem_tsCritical.mpr ⟨_, hsome, rfl⟩)))
    replace hkey : m.1 = py "critical" := hkey
    rcases List.mem_append.mp hm with hm | hm
    · exact absurd (hkey ▸ hkeys m hm) hcriticalEleven
    rcases List.mem_append.mp hm with hm | hm
    · obtain ⟨hne, rfl⟩ := mem_pyCritical.mp hm
      refine ⟨hne, sortedStrs_eq_iff.mp (eq_of_matches_strs N ?_ ?_ hmatch)⟩
      · exact fun name hname => isAscii_critical hw R name (mem_sortedStrs.mp hname)
      · exact isAscii_critical hw R
    · exact absurd (hkey ▸ hcriticalField) (extra_notField R m hm)
  · obtain ⟨m, hm, hname⟩ := List.mem_map.mp hmem
    have hextra : m ∈ c.extra := by
      rw [R.extra]
      exact List.mem_filter.mpr ⟨hm, decide_eq_true (hname ▸ hprotoField)⟩
    obtain ⟨m', hm', hkey, -⟩ :=
      hleft m (List.mem_append_right _ (List.mem_append_right _ hextra))
    rw [hname] at hkey
    rcases List.mem_append.mp hm' with hm' | hm'
    · exact notMem_elevenFields hprotoField (hkey ▸ hkeys m' hm')
    rcases List.mem_append.mp hm' with hm' | hm'
    · obtain ⟨names, -, rfl⟩ := mem_tsCritical.mp hm'
      exact hprotoCritical hkey.symm
    · exact of_decide_eq_true (List.mem_filter.mp hm').2 hkey

/-- **WHEN BOTH PACKAGES SIGN THE SAME BYTES** for one wire object they both read. -/
theorem same_message_iff (N : NfcText H.nfc) (hnodup : (w.map Prod.fst).Nodup)
    (hw : AsciiJson (.obj w)) (R : ReadFrom w c) (R' : TsReadFrom (ofJsonMembers w) t)
    (hpayload : Accepted (.object t.payload)) :
    ∃ m m', signingInput H contextAgentCard c.payload = .ok m ∧
      tsSigningInput H.nfc contextAgentCard (.object t.payload) = .ok m' ∧
      (m = m' ↔ WrittenAlike w) := by
  have hcontext : IsContext contextAgentCard := by decide
  obtain ⟨m, hm⟩ := signingInput_ascii N.toNfcLaws hcontext (asciiJson_py_payload hw R)
  obtain ⟨m', hm', hts⟩ :=
    ascii_signingInput N hcontext hpayload (asciiJson_ts_payload hnodup hw R R')
  refine ⟨m, m', hm, hts, fun h => ?_, fun h => ?_⟩
  · subst h
    exact writtenAlike_of_matches N hnodup hw R R' (matches_of_signingInput N hm hm')
  · rw [payload_eq hnodup R R' h, hm'] at hm
    exact (Except.ok.inj hm).symm

/-! ## The verdicts -/

/-- **PYTHON'S VERDICT** on a card it has read is that of the signature. -/
theorem PyPrepared.verdict {understood : List PyStr} {key raw message : Bytes}
    (P : PyPrepared w understood c key raw)
    (hmessage : signingInput H contextAgentCard c.payload = .ok message) :
    verifyCard H (.obj w) understood = .ok () ↔ H.ed25519Verify key raw message = true := by
  have hread := AgentCard.modelValidate_ok_iff.mpr P.read
  rw [verifyCard, bind_ok_iff]
  constructor
  · rintro ⟨c', hc', h⟩
    rw [hread] at hc'
    cases hc'
    obtain ⟨key', raw', message', hkey, hraw, hm, -, hverify⟩ := AgentCard.verify_ok_iff.mp h
    rw [P.keys] at hkey
    rw [P.signature] at hraw
    rw [hmessage] at hm
    cases hkey
    cases hraw
    cases hm
    exact hverify
  · intro h
    exact ⟨c, hread, AgentCard.verify_ok_iff.mpr
      ⟨key, raw, message, P.keys, P.signature, hmessage, P.critical, h⟩⟩

/-- A card that Python verifies meets its conditions. -/
theorem pyReads_of_verdict {understood : List PyStr}
    (h : verifyCard H (.obj w) understood = .ok ()) : PyReads w understood := by
  obtain ⟨c, hc, h⟩ := bind_ok_iff.mp h
  obtain ⟨key, raw, message, hkey, hraw, -, hall, -⟩ := AgentCard.verify_ok_iff.mp h
  exact pyReads_iff.mpr ⟨c, key, raw, AgentCard.modelValidate_ok_iff.mp hc, hkey, hraw, hall⟩

/-- **TYPESCRIPT'S VERDICT** on a card it has read is that of the signature. -/
theorem TsPrepared.verdict {understood : List PyStr} {key raw message : Bytes}
    (hnodup : (w.map Prod.fst).Nodup) (P : TsPrepared w understood t key raw)
    (hmessage : tsSigningInput H.nfc contextAgentCard (.object t.payload) = .ok message) :
    tsVerifyCard H (ofJson (.obj w)) understood = .ok () ↔
      H.ed25519Verify key raw message = true := by
  have hnodup' : ((ofJsonMembers w).map Prod.fst).Nodup := by
    rwa [map_fst_ofJsonMembers]
  have hread := (fromJSON_ok_iff hnodup').mpr P.read
  rw [tsVerifyCard, ofJson, bind_ok_iff]
  constructor
  · rintro ⟨t', ht', h⟩
    rw [hread] at ht'
    cases ht'
    obtain ⟨key', raw', message', hkey, hraw, hm, -, hverify⟩ := TsAgentCard.verify_ok_iff.mp h
    rw [P.keys] at hkey
    rw [P.signature] at hraw
    rw [hmessage] at hm
    cases hkey
    cases hraw
    cases hm
    exact hverify
  · intro h
    exact ⟨t, hread, TsAgentCard.verify_ok_iff.mpr
      ⟨key, raw, message, P.keys, P.signature, hmessage, P.critical, h⟩⟩

/-- A card that TypeScript verifies meets its conditions. -/
theorem tsReads_of_verdict {understood : List PyStr} (hnodup : (w.map Prod.fst).Nodup)
    (hfloat : ∀ m ∈ w, FloatFree m.2)
    (h : tsVerifyCard H (ofJson (.obj w)) understood = .ok ()) : TsReads w understood := by
  have hnodup' : ((ofJsonMembers w).map Prod.fst).Nodup := by
    rwa [map_fst_ofJsonMembers]
  rw [tsVerifyCard, ofJson] at h
  obtain ⟨t, ht, h⟩ := bind_ok_iff.mp h
  obtain ⟨key, raw, message, hkey, hraw, hmessage, hall, -⟩ := TsAgentCard.verify_ok_iff.mp h
  exact (tsReads_iff hnodup hfloat).mpr ⟨t, key, raw, (fromJSON_ok_iff hnodup').mp ht, hkey, hraw,
    hall, accepted_of_tsSigningInput hmessage⟩

/-- Both packages verify under one key, with one signature. -/
theorem same_key_and_signature {understood : List PyStr} {key key' raw raw' : Bytes}
    (P : PyPrepared w understood c key raw) (Q : TsPrepared w understood t key' raw') :
    key = key' ∧ raw = raw' := by
  constructor
  · obtain ⟨hkey, -⟩ := AgentCard.checkKeys_ok_iff.mp P.keys
    obtain ⟨hkey', -⟩ := TsAgentCard.checkKeys_ok_iff.mp Q.keys
    have haddress := lookup_string_iff.mp Q.read.address
    rw [P.read.address] at haddress
    rw [Json.str.inj (Option.some.inj haddress), hkey'] at hkey
    exact (Except.ok.inj hkey).symm
  · have hpy := P.signature
    have hts := Q.signature
    rw [P.read.signature, getFieldOr] at hpy
    rw [Q.read.signature, lookup_ofJsonMembers] at hts
    cases hv : w.lookup (py "signature") with
    | none =>
        rw [hv] at hpy hts
        rw [show ((none : Option Json).getD (.str [])) = .str [] from rfl, decodeSignature_nil] at hpy
        rw [show coalesce (Option.map ofJson none) (.string []) = .string [] from rfl,
          tsDecodeSignature_nil] at hts
        rw [← Except.ok.inj hpy, ← Except.ok.inj hts]
    | some v =>
        rw [hv] at hpy hts
        cases v with
        | str s =>
            rw [Option.map_some, ofJson] at hts
            have hboth := tsDecodeSignature_ok_iff.mp hts
            rw [show decodeSignature (.str s) = .ok raw from hpy] at hboth
            exact Except.ok.inj hboth
        | _ => cases hpy

/-- **ON WHICH CARDS BOTH PACKAGES GIVE ONE VERDICT**, whatever Ed25519 says. -/
theorem same_verdict_iff (N : NfcText H.nfc) (hnodup : (w.map Prod.fst).Nodup)
    (hw : AsciiJson (.obj w)) (understood : List PyStr) :
    (∀ verify : Bytes → Bytes → Bytes → Bool,
      verifyCard { H with ed25519Verify := verify } (.obj w) understood = .ok () ↔
        tsVerifyCard { H with ed25519Verify := verify } (ofJson (.obj w)) understood = .ok ()) ↔
      ReadAlike w understood := by
  have hfloat : ∀ m ∈ w, FloatFree m.2 := fun m hm =>
    rejectFloats_ok_iff.mp (asciiJson_member hw hm).2.rejectFloats_ok
  by_cases hpy : PyReads w understood
  · obtain ⟨c, key, raw, P⟩ := hpy.prepared
    by_cases hts : TsReads w understood
    · obtain ⟨t, key', raw', Q⟩ := hts.prepared hnodup hfloat
      obtain ⟨rfl, rfl⟩ := same_key_and_signature P Q
      obtain ⟨m, m', hm, hm', hiff⟩ := same_message_iff N hnodup hw P.read Q.read Q.payload
      have hpyVerdict := fun verify => @PyPrepared.verdict _ _ { H with ed25519Verify := verify } _ _ _
        _ P hm
      have htsVerdict := fun verify => @TsPrepared.verdict _ _ { H with ed25519Verify := verify } _ _ _
        _ hnodup Q hm'
      constructor
      · intro h
        refine ⟨iff_of_true hpy hts, fun _ => hiff.mp ?_⟩
        -- a verifier that passes what Python signs, and nothing else
        have hverdict := (h fun _ _ message => message = m).mp
          ((hpyVerdict _).mpr (decide_eq_true rfl))
        exact (of_decide_eq_true ((htsVerdict _).mp hverdict)).symm
      · rintro ⟨-, halike⟩ verify
        rw [hpyVerdict, htsVerdict, hiff.mpr (halike hpy)]
    · refine iff_of_false (fun h => hts ?_) fun h => hts (h.1.mp hpy)
      obtain ⟨m, hm⟩ := signingInput_ascii N.toNfcLaws (show IsContext contextAgentCard by decide)
        (asciiJson_py_payload hw P.read)
      refine tsReads_of_verdict hnodup hfloat ((h fun _ _ _ => true).mp ?_)
      exact (@PyPrepared.verdict _ _ { H with ed25519Verify := fun _ _ _ => true } _ _ _ _ P hm).mpr rfl
  · by_cases hts : TsReads w understood
    · obtain ⟨t, key, raw, Q⟩ := hts.prepared hnodup hfloat
      refine iff_of_false (fun h => hpy ?_) fun h => hpy (h.1.mpr hts)
      obtain ⟨m, hm⟩ := tsSigningInput_of_accepted H.nfc (show IsContext contextAgentCard by decide)
        Q.payload
      refine pyReads_of_verdict ((h fun _ _ _ => true).mpr ?_)
      exact (@TsPrepared.verdict _ _ { H with ed25519Verify := fun _ _ _ => true } _ _ _ _ hnodup Q
        hm).mpr rfl
    · refine iff_of_true (fun verify => iff_of_false ?_ ?_) ⟨iff_of_false hpy hts, fun h => absurd h hpy⟩
      · exact fun h => hpy (pyReads_of_verdict h)
      · exact fun h => hts (tsReads_of_verdict hnodup hfloat h)

/-! ## Two cards without a signature -/

/-- The fields a card must have, and what else the object holds. -/
def unsignedCard (rest : Members) : Members :=
  [(py "address", .str (constAddress 1)), (py "name", .str (py "agent")),
    (py "signing_key", .str (base58Encode (constKey 1))),
    (py "agreement_key", .str (base58Encode (constKey 2)))] ++ rest

theorem lookup_unsignedCard {rest : Members} {k : PyStr}
    (hk : k ∉ [py "address", py "name", py "signing_key", py "agreement_key"]) :
    (unsignedCard rest).lookup k = rest.lookup k := by
  rw [unsignedCard, List.lookup_append, lookup_eq_none.mpr hk]
  rfl

theorem declares_unsignedCard (rest : Members) : Declares (unsignedCard rest) (constKey 1) where
  address := ⟨_, rfl, signingKey_constAddress 1⟩
  name := ⟨_, rfl⟩
  signingKey := ⟨_, rfl, base58Decode_base58Encode _⟩

theorem asciiJson_unsignedCard {rest : Members} (hrest : AsciiJson (.obj rest)) :
    AsciiJson (.obj (unsignedCard rest)) := by
  refine .obj_cons (by decide) (.str (isAscii_constAddress 1)) ?_
  refine .obj_cons (by decide) (.str (by decide)) ?_
  refine .obj_cons (by decide) (.str (isPlain_base58Encode _).isAscii) ?_
  exact .obj_cons (by decide) (.str (isPlain_base58Encode _).isAscii) hrest

/-- TypeScript reads the card whatever its critical names are, if they are understood. -/
theorem tsReads_unsignedCard {rest : Members} {understood : List PyStr}
    (hrest : ∀ m ∈ rest, m.1 = py "critical" ∧ ∃ names : List PyStr, m.2 = strs names ∧
      ∀ name ∈ names, name ∈ understood) : TsReads (unsignedCard rest) understood := by
  have hnone : ∀ k ∈ cardFields, k ≠ py "critical" →
      k ∉ [py "address", py "name", py "signing_key", py "agreement_key"] →
      ∀ v, (unsignedCard rest).lookup k ≠ some v := by
    intro k _ hk hfour v hv
    rw [lookup_unsignedCard hfour] at hv
    exact hk (hrest _ (mem_of_lookup hv)).1
  have hfields : ∀ m ∈ unsignedCard rest, m.1 ∈ cardFields := by
    have hfour : ∀ k ∈ [py "address", py "name", py "signing_key", py "agreement_key"],
        k ∈ cardFields := by decide
    have hcritical : py "critical" ∈ cardFields := by decide
    intro m hm
    rcases List.mem_append.mp hm with hm | hm
    · exact hfour m.1 (List.mem_map_of_mem hm)
    · rw [(hrest m hm).1]
      exact hcritical
  refine ⟨⟨_, declares_unsignedCard rest⟩, ⟨_, rfl⟩, fun v hv => ?_, fun v hv => ?_, fun v hv => ?_,
    fun v hv => ?_, fun k hk v hv => ?_, fun v hv => ?_, fun m hm hfield => ?_⟩
  · exact absurd hv (hnone _ (by decide) (by decide) (by decide) v)
  · exact absurd hv (hnone _ (by decide) (by decide) (by decide) v)
  · rw [lookup_unsignedCard (by decide)] at hv
    obtain ⟨-, names, hnames, hall⟩ := hrest _ (mem_of_lookup hv)
    exact Or.inr ⟨names, hnames, fun name hname => Or.inr (hall name hname)⟩
  · exact absurd hv (hnone _ (by decide) (by decide) (by decide) v)
  · have hgiven : ∀ k ∈ signedAsGiven, k ∈ cardFields ∧ k ≠ py "critical" ∧
        k ∉ [py "address", py "name", py "signing_key", py "agreement_key"] := by decide
    obtain ⟨hfield, hcritical, hfour⟩ := hgiven k hk
    exact absurd hv (hnone k hfield hcritical hfour v)
  · exact absurd hv (hnone _ (by decide) (by decide) (by decide) v)
  · exact absurd (hfields m hm) hfield

/-- The card of a service, with an endpoint and an extension it says is critical. -/
def relayCard : Members :=
  unsignedCard [(py "kind", .str (py "service")),
    (py "endpoints", .obj [(py "relay", .str (py "wss://relay.example"))]),
    (py "x-limits", .obj [(py "calls", .int 3)]), (py "critical", strs [py "x-limits"])]

/-- Its names, which are what the conditions on it are decided by. -/
theorem map_fst_relayCard : relayCard.map Prod.fst = [py "address", py "name", py "signing_key",
    py "agreement_key", py "kind", py "endpoints", py "x-limits", py "critical"] := rfl

theorem lookup_relayCard_none {k : PyStr} (hk : k ∉ [py "address", py "name", py "signing_key",
    py "agreement_key", py "kind", py "endpoints", py "x-limits", py "critical"]) :
    relayCard.lookup k = none :=
  lookup_eq_none.mpr (map_fst_relayCard ▸ hk)

theorem lookup_relayCard_kind : relayCard.lookup (py "kind") = some (.str (py "service")) :=
  lookup_unsignedCard (by decide)

theorem lookup_relayCard_endpoints : relayCard.lookup (py "endpoints") =
    some (.obj [(py "relay", .str (py "wss://relay.example"))]) :=
  lookup_unsignedCard (by decide)

theorem lookup_relayCard_critical : relayCard.lookup (py "critical") = some (strs [py "x-limits"]) :=
  lookup_unsignedCard (by decide)

theorem asciiJson_relayCard : AsciiJson (.obj relayCard) := by
  refine asciiJson_unsignedCard (.obj_cons (by decide) (.str (by decide)) ?_)
  refine .obj_cons (by decide) (.obj_cons (by decide) (.str (by decide)) .obj_nil) ?_
  refine .obj_cons (by decide) (.obj_cons (by decide) (.int 3) .obj_nil) ?_
  refine .obj_cons (by decide) (asciiJson_strs fun s hs => ?_) .obj_nil
  rw [List.mem_singleton.mp hs]
  decide

theorem pyReads_relayCard : PyReads relayCard [py "x-limits"] where
  declares := ⟨_, declares_unsignedCard _⟩
  agreementKey := ⟨_, _, rfl, base58Decode_base58Encode _⟩
  kind v hv := ⟨.service, by
    rw [lookup_relayCard_kind] at hv
    exact (Option.some.inj hv).symm⟩
  payloadTypes v hv := by
    rw [lookup_relayCard_none (by decide)] at hv
    cases hv
  endpoints v hv := by
    rw [lookup_relayCard_endpoints] at hv
    exact ⟨_, (Option.some.inj hv).symm⟩
  critical v hv := by
    rw [lookup_relayCard_critical] at hv
    refine ⟨[py "x-limits"], by rw [← Option.some.inj hv]; rfl, ?_⟩
    rw [map_fst_relayCard]
    decide
  signature v hv := by
    rw [lookup_relayCard_none (by decide)] at hv
    cases hv

theorem tsReads_relayCard : TsReads relayCard [py "x-limits"] where
  declares := ⟨_, declares_unsignedCard _⟩
  agreementKey := ⟨_, rfl⟩
  kind v hv := Or.inr (pyReads_relayCard.kind v hv)
  payloadTypes v hv := by
    rw [lookup_relayCard_none (by decide)] at hv
    cases hv
  critical v hv := by
    rw [lookup_relayCard_critical] at hv
    exact Or.inr ⟨_, (Option.some.inj hv).symm, fun name hname => Or.inr hname⟩
  signature v hv := by
    rw [lookup_relayCard_none (by decide)] at hv
    cases hv
  fields k hk v hv := by
    have habsent : ∀ k ∈ signedAsGiven, k ∉ [py "address", py "name", py "signing_key",
        py "agreement_key", py "kind", py "endpoints", py "x-limits", py "critical"] := by decide
    rw [lookup_relayCard_none (habsent k hk)] at hv
    cases hv
  endpoints v hv := by
    rw [lookup_relayCard_endpoints] at hv
    rw [← Option.some.inj hv, ofJson, accepted_object_iff]
    exact Or.inr (by simp [ofJsonMembers, ofJson, Accepted.string])
  extensions m hm hfield _ := by
    have hfour : ∀ k ∈ [py "address", py "name", py "signing_key", py "agreement_key"],
        k ∈ cardFields := by decide
    rcases List.mem_append.mp hm with hm | hm
    · exact absurd (hfour m.1 (List.mem_map_of_mem hm)) hfield
    · simp only [List.mem_cons, List.not_mem_nil, or_false] at hm
      rcases hm with rfl | rfl | rfl | rfl
      · exact absurd (by decide) hfield
      · exact absurd (by decide) hfield
      · rw [ofJson, accepted_object_iff]
        simp [ofJsonMembers, ofJson, Accepted.integer (n := 3) (by decide)]
      · exact absurd (by decide) hfield

theorem writtenAlike_relayCard : WrittenAlike relayCard where
  amp h := by
    rw [lookup_relayCard_none (by decide)] at h
    cases h
  policySummary h := by
    rw [lookup_relayCard_none (by decide)] at h
    cases h
  critical names hnames := by
    rw [lookup_relayCard_critical] at hnames
    rw [← strs_inj (Option.some.inj hnames)]
    exact ⟨List.cons_ne_nil _ _, List.pairwise_singleton _ _⟩
  proto := by
    rw [map_fst_relayCard]
    decide

/-- Both packages read the card of the service, sign the same of it, and give it one verdict. -/
theorem same_verdict_iff_relay : PyReads relayCard [py "x-limits"] ∧
    ∀ verify : Bytes → Bytes → Bytes → Bool,
      verifyCard { mutedHost with ed25519Verify := verify } (.obj relayCard) [py "x-limits"]
          = .ok () ↔
        tsVerifyCard { mutedHost with ed25519Verify := verify } (ofJson (.obj relayCard))
          [py "x-limits"] = .ok () := by
  have hnodup : (relayCard.map Prod.fst).Nodup := by
    rw [map_fst_relayCard]
    decide
  refine ⟨pyReads_relayCard, (@same_verdict_iff relayCard mutedHost sampleNfc_text hnodup
    asciiJson_relayCard [py "x-limits"]).mpr ?_⟩
  exact ⟨iff_of_true pyReads_relayCard tsReads_relayCard, fun _ => writtenAlike_relayCard⟩

/-- A card whose critical names name nothing on it. -/
def danglingCard : Members := unsignedCard [(py "critical", strs [py "x-ghost"])]

/-- **A CRITICAL NAME OF NOTHING**: TypeScript verifies the card, Python does not read it. -/
theorem dangling_critical_verdicts :
    (danglingCard.map Prod.fst).Nodup ∧ AsciiJson (.obj danglingCard) ∧
      ∃ verify : Bytes → Bytes → Bytes → Bool,
        tsVerifyCard { mutedHost with ed25519Verify := verify } (ofJson (.obj danglingCard))
          [py "x-ghost"] = .ok () ∧
        verifyCard { mutedHost with ed25519Verify := verify } (.obj danglingCard)
          [py "x-ghost"] ≠ .ok () := by
  have hnodup : (danglingCard.map Prod.fst).Nodup := by
    show [py "address", py "name", py "signing_key", py "agreement_key", py "critical"].Nodup
    decide
  have hascii : AsciiJson (.obj danglingCard) := by
    refine asciiJson_unsignedCard (.obj_cons (by decide) (asciiJson_strs fun s hs => ?_) .obj_nil)
    rw [List.mem_singleton.mp hs]
    decide
  have hfloat : ∀ m ∈ danglingCard, FloatFree m.2 := fun m hm =>
    rejectFloats_ok_iff.mp (asciiJson_member hascii hm).2.rejectFloats_ok
  have hts : TsReads danglingCard [py "x-ghost"] := by
    refine tsReads_unsignedCard fun m hm => ?_
    rw [List.mem_singleton.mp hm]
    exact ⟨rfl, _, rfl, fun name hname => hname⟩
  refine ⟨hnodup, hascii, fun _ _ _ => true, ?_, fun h => ?_⟩
  · obtain ⟨t, key, raw, Q⟩ := hts.prepared hnodup hfloat
    obtain ⟨m, hm⟩ := tsSigningInput_of_accepted mutedHost.nfc
      (show IsContext contextAgentCard by decide) Q.payload
    exact (@TsPrepared.verdict _ _ { mutedHost with ed25519Verify := fun _ _ _ => true } _ _ _ _
      hnodup Q hm).mpr rfl
  · obtain ⟨names, hnames, hall⟩ := (pyReads_of_verdict h).critical _ rfl
    have hghost : names = [py "x-ghost"] :=
      (strs_inj (congrArg Json.arr (Except.ok.inj hnames))).symm
    rw [hghost] at hall
    obtain ⟨hpresent, -, -⟩ := hall (py "x-ghost") List.mem_cons_self
    have habsent : py "x-ghost" ∉
        [py "address", py "name", py "signing_key", py "agreement_key", py "critical"] := by decide
    exact habsent hpresent

end AgentCardVerdict
