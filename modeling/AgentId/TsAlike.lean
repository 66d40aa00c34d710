import AgentId.Lockstep
import AgentId.TsDigest
import AgentId.TsWire

/-!
# Signatures checked alike in both packages (`signing.ts`, `errors.ts`)

The classes of `errors.ts` that the codecs never throw, and the signature check that all records of
the TypeScript package share, compared with `verify_by_address`.

* **`Alike.same_message`** — a payload written alike has one signing input.
* **`tsVerifyByAddress_alike`** — a signature over it verifies in both packages or in neither.
-/

namespace AgentTsAlike

open AgentLockstep AgentRaises AgentPy AgentBase58 AgentJson AgentCanonicalText AgentNormalization
  AgentJsonRender AgentSigning AgentSignedText AgentTsCanonical AgentTsSigning AgentTsDelegation
  AgentTsWire

/-! ## Errors -/

/-- The classes of errors: those of the codecs, and the others of `errors.ts`. -/
inductive TsErrorClass where
  | codec (cls : JsErrorClass)
  | delegationError
  | rotationError
  deriving DecidableEq

structure TsError where
  cls : TsErrorClass
  message : List Part

/-- What a call returns, or the error it throws. -/
abbrev Ts (α : Type) := Except TsError α

def throwAs {α : Type} (cls : TsErrorClass) (message : List Part) : Ts α := .error ⟨cls, message⟩

/-- `if (bad) throw ...` -/
def throwAsIf (bad : Prop) [Decidable bad] (cls : TsErrorClass) (message : List Part) : Ts Unit :=
  if bad then throwAs cls message else .ok ()

/-- A call of a codec, whose errors pass through. -/
def ofJs {α : Type} : Js α → Ts α
  | .ok a => .ok a
  | .error e => .error ⟨.codec e.cls, e.message⟩

/-- `try { ... } catch (error) { throw new ...(`…: ${error.message}`) }` -/
def catchAs {α : Type} (x : Js α) (cls : TsErrorClass) (message : List Part) : Ts α :=
  match x with
  | .ok a => .ok a
  | .error e => throwAs cls (message ++ .text ": " :: e.message)

/-- A guard passes when its condition fails. -/
@[simp] theorem throwAsIf_ok_iff (bad : Prop) [Decidable bad] (cls : TsErrorClass)
    (message : List Part) (u : Unit) : throwAsIf bad cls message = .ok u ↔ ¬ bad := by
  simp only [throwAsIf, throwAs]
  by_cases h : bad <;> simp [h]

/-- Lifting a codec keeps its results. -/
@[simp] theorem ofJs_ok_iff {α : Type} {x : Js α} {a : α} : ofJs x = .ok a ↔ x = .ok a := by
  cases x with
  | ok b => rw [ofJs, Except.ok.injEq, Except.ok.injEq]
  | error e => exact raised_iff_raised

/-- Catching changes errors only. -/
@[simp] theorem catchAs_ok_iff {α : Type} {x : Js α} {cls : TsErrorClass} {message : List Part}
    {a : α} : catchAs x cls message = .ok a ↔ x = .ok a := by
  cases x with
  | ok b => rw [catchAs, Except.ok.injEq, Except.ok.injEq]
  | error e => exact raised_iff_raised

/-- The class of the Python package that goes by the name, or has its part. -/
def TsErrorClass.python : TsErrorClass → ErrorClass
  | .codec .error => .valueError
  | .codec .typeError => .typeError
  | .codec .addressError => .addressError
  | .codec .signatureError => .signatureError
  | .codec .spendScopeError => .spendScopeError
  | .delegationError => .delegationError
  | .rotationError => .rotationError

/-- The errors are of one class. -/
def SameClass (e : PyError) (e' : TsError) : Prop := e'.cls.python = e.cls

/-- What a guard throws is its own error. -/
theorem raises_throwIf {p : JsError → Prop} {bad : Prop} [Decidable bad] {cls : JsErrorClass}
    {message : List Part} (h : p ⟨cls, message⟩) : Raises p (throwIf bad cls message) := by
  rw [throwIf]
  split_ifs
  · exact raises_error_iff.mpr h
  · exact raises_ok ()

section Errors

variable {fails : PyError → TsError → Prop} {cls : ErrorClass} {cls' : TsErrorClass}

/-- Two guards of one condition. -/
theorem agree_guard {bad bad' : Prop} [Decidable bad] [Decidable bad'] (h : bad ↔ bad')
    {message message' : List Part} (hfails : fails ⟨cls, message⟩ ⟨cls', message'⟩) :
    Agree fails Eq (raiseIf bad cls message) (throwAsIf bad' cls' message') := by
  by_cases hbad : bad
  · rw [raiseIf, throwAsIf, if_pos hbad, if_pos (h.mp hbad)]
    exact .error hfails
  · rw [raiseIf, throwAsIf, if_neg hbad, if_neg (mt h.mpr hbad)]
    exact .ok rfl

/-- Two handlers around calls that return alike. -/
theorem agree_handler {α : Type} {x : Py α} {x' : Js α} (h : ∀ a, x = .ok a ↔ x' = .ok a)
    {message message' : List Part} (hfails : ∀ m m', fails ⟨cls, m⟩ ⟨cls', m'⟩) :
    Agree fails Eq (exceptRaise x cls message) (catchAs x' cls' message') := by
  refine agree_of_ok_iff (fun a => by rw [exceptRaise_ok_iff, catchAs_ok_iff, h]) ?_
  rintro e e' he he'
  cases x with
  | ok a => cases he
  | error _ =>
      cases x' with
      | ok a => cases he'
      | error _ =>
          cases he
          cases he'
          exact hfails _ _

end Errors

/-- Whatever is no address throws an `AddressError`. -/
theorem tsSigningKeyFromAddress_error {address : PyStr} :
    Raises (fun e => e.cls = .addressError) (tsSigningKeyFromAddress address) := by
  rw [tsSigningKeyFromAddress]
  refine Raises.bind (raises_throwIf rfl) fun _ _ => ?_
  cases tsBase58Decode (address.drop addressPrefix.length) with
  | error e => exact raises_error_iff.mpr rfl
  | ok key => exact Raises.bind (raises_throwIf rfl) fun _ _ => raises_ok key

/-- Whatever is no signature throws a `SignatureError`. -/
theorem tsDecodeSignature_error {signature : JsonValue} :
    Raises (fun e => e.cls = .signatureError) (tsDecodeSignature signature) := by
  cases signature with
  | string text =>
      rw [tsDecodeSignature]
      cases tsBase64Decode text with
      | error e => exact raises_error_iff.mpr rfl
      | ok raw => exact Raises.bind (raises_throwIf rfl) fun _ _ => raises_ok raw
  | _ => exact raises_error_iff.mpr rfl

/-- Reading an address fails in one way. -/
theorem agree_signingKey (address : PyStr) :
    Agree SameClass Eq (signingKeyFromAddress address) (ofJs (tsSigningKeyFromAddress address)) := by
  refine agree_of_ok_iff (fun key => by rw [ofJs_ok_iff, tsSigningKeyFromAddress_ok_iff]) ?_
  intro e e' he he'
  cases hts : tsSigningKeyFromAddress address with
  | ok key =>
      rw [hts] at he'
      cases he'
  | error e =>
      rw [hts] at he'
      cases he'
      have hcls : e.cls = .addressError := tsSigningKeyFromAddress_error hts
      rw [SameClass, signingKeyFromAddress_error he, hcls]
      rfl

/-! ## Payloads written alike -/

/-- The value of one package is that of the other, and both write its strings alike. -/
structure Alike (nfc : PyStr → PyStr) (v : Json) (j : JsonValue) : Prop where
  value : asJson j = v
  accepted : Accepted j
  scalar : AllStrings (fun s => ∀ c ∈ s, IsScalar c) v
  stands : AllStrings (EscapesStand nfc) v

/-- Text that both packages write alike. -/
def SpelledAlike (nfc : PyStr → PyStr) (s : PyStr) : Prop :=
  (∀ c ∈ s, IsScalar c) ∧ EscapesStand nfc s

variable {H : Host} {context : PyStr} {v : Json} {j : JsonValue} {nfc : PyStr → PyStr}

/-- Plain text is written alike. -/
theorem spelledAlike_of_plain {s : PyStr} (h : IsPlain s) : SpelledAlike nfc s :=
  ⟨isScalar_of_plain h, escapesStand_of_plain h⟩

theorem alike_null : Alike nfc .null .null := ⟨rfl, .null, .null, .null⟩

theorem alike_str {s : PyStr} (h : SpelledAlike nfc s) : Alike nfc (.str s) (.string s) :=
  ⟨rfl, .string s, .str h.1, .str h.2⟩

/-- A safe integer. -/
theorem alike_int {n : Int} (h : n.natAbs ≤ maxSafeInteger) :
    Alike nfc (.int n) (.number (.integer n)) :=
  ⟨rfl, .integer h, .int n, .int n⟩

theorem alike_arr {items : List Json} {items' : List JsonValue}
    (h : List.Forall₂ (Alike nfc) items items') : Alike nfc (.arr items) (.array items') := by
  have hvalue : items'.map asJson = items := by
    induction h with
    | nil => rfl
    | cons hv _ ih => rw [List.map_cons, hv.value, ih]
  refine ⟨by rw [asJson, asJsonItems_eq_map, hvalue], .array fun w hw => ?_, .arr fun w hw => ?_,
    .arr fun w hw => ?_⟩
  · obtain ⟨w', -, A⟩ := forall₂_mem_right h hw
    exact A.accepted
  · obtain ⟨w', -, A⟩ := forall₂_mem_left h hw
    exact A.scalar
  · obtain ⟨w', -, A⟩ := forall₂_mem_left h hw
    exact A.stands

/-- Members of one name, written alike. -/
def AlikeMember (nfc : PyStr → PyStr) (m : PyStr × Json) (m' : PyStr × JsonValue) : Prop :=
  m'.1 = m.1 ∧ SpelledAlike nfc m.1 ∧ Alike nfc m.2 m'.2

theorem alike_member {k : PyStr} (hk : IsPlain k) (A : Alike nfc v j) :
    AlikeMember nfc (k, v) (k, j) :=
  ⟨rfl, spelledAlike_of_plain hk, A⟩

theorem alike_obj {members : Members} {members' : List (PyStr × JsonValue)}
    (h : List.Forall₂ (AlikeMember nfc) members members') :
    Alike nfc (.obj members) (.object members') := by
  have hvalue : (members'.map fun m => (m.1, asJson m.2)) = members := by
    induction h with
    | nil => rfl
    | cons hm _ ih => rw [List.map_cons, hm.1, hm.2.2.value, ih]
  refine ⟨by rw [asJson, asJsonMembers_eq_map, hvalue], .object fun m hm => ?_,
    .obj (fun m hm => ?_) fun m hm => ?_, .obj (fun m hm => ?_) fun m hm => ?_⟩
  · obtain ⟨m', -, A⟩ := forall₂_mem_right h hm
    exact A.2.2.accepted
  all_goals obtain ⟨m', -, A⟩ := forall₂_mem_left h hm
  · exact A.2.1.1
  · exact A.2.2.scalar
  · exact A.2.1.2
  · exact A.2.2.stands

/-- A member more, behind the others. -/
theorem Alike.snoc {members : Members} {members' : List (PyStr × JsonValue)}
    (A : Alike nfc (.obj members) (.object members')) {m : PyStr × Json} {m' : PyStr × JsonValue}
    (hm : AlikeMember nfc m m') : Alike nfc (.obj (members ++ [m])) (.object (members' ++ [m'])) where
  value := by
    have hmembers : asJsonMembers members' = members := Json.obj.inj A.value
    have hlast : asJsonMembers [m'] = [m] := by
      rw [asJsonMembers_eq_map, List.map_singleton, hm.1, hm.2.2.value]
    rw [asJson, asJsonMembers_append, hmembers, hlast]
  accepted := by
    cases A.accepted with
    | object h =>
        refine .object (List.forall_mem_append.mpr ⟨h, ?_⟩)
        exact List.forall_mem_singleton.mpr hm.2.2.accepted
  scalar := by
    refine allStrings_obj_iff.mpr (List.forall_mem_append.mpr ⟨allStrings_obj_iff.mp A.scalar, ?_⟩)
    exact List.forall_mem_singleton.mpr ⟨hm.2.1.1, hm.2.2.scalar⟩
  stands := by
    refine allStrings_obj_iff.mpr (List.forall_mem_append.mpr ⟨allStrings_obj_iff.mp A.stands, ?_⟩)
    exact List.forall_mem_singleton.mpr ⟨hm.2.1.2, hm.2.2.stands⟩

/-- **ONE SIGNING INPUT** for both packages. -/
theorem Alike.same_message (A : Alike H.nfc v j) (N : NfcText H.nfc) (hc : IsContext context) :
    ∃ message, signingInput H context v = .ok message ∧
      tsSigningInput H.nfc context j = .ok message := by
  obtain ⟨m, m', hm, hm', hiff⟩ := same_signingInput_iff N hc A.accepted (A.value ▸ A.scalar)
  rw [A.value] at hm hiff
  rw [hiff.mpr A.stands] at hm
  exact ⟨m', hm, hm'⟩

/-- **ONE VERDICT ON A SIGNATURE**, over a payload that is written alike if the address certifies a
    key at all. -/
theorem tsVerifyByAddress_alike (N : NfcText H.nfc) (hc : IsContext context)
    {address signature : PyStr}
    (A : ∀ key, signingKeyFromAddress address = .ok key → Alike H.nfc v j) (u : Unit) :
    verifyByAddress H address context v (.str signature) = .ok u ↔
      tsVerifyByAddress H address context j (.string signature) = .ok u := by
  cases u
  rw [verifyByAddress_ok_iff, tsVerifyByAddress, bind_ok_iff]
  simp only [tsVerifyPayload_ok_iff, tsSigningKeyFromAddress_ok_iff, tsDecodeSignature_ok_iff]
  constructor
  · rintro ⟨key, raw, m, hkey, hraw, hm, hverify⟩
    obtain ⟨message, hpy, hts⟩ := (A key hkey).same_message N hc
    rw [hpy, Except.ok.injEq] at hm
    exact ⟨key, hkey, raw, m, hraw, hm ▸ hts, hverify⟩
  · rintro ⟨key, hkey, raw, m, hraw, hm, hverify⟩
    obtain ⟨message, hpy, hts⟩ := (A key hkey).same_message N hc
    rw [hts, Except.ok.injEq] at hm
    exact ⟨key, raw, m, hkey, hraw, hm ▸ hpy, hverify⟩

end AgentTsAlike
