import AgentId.OwnerRecall

/-!
# Nested values and the recursion limit (`canonical.py`, `signing.py`)

`_reject_floats` calls itself for every value inside a value, and the C code behind `json.dumps` and
`repr` counts how deep it is in a value as well.  Where the interpreter has no more room they raise
`RecursionError`.  How much room there is when a call is made depends on the interpreter and on the
calls that led to it, so it is a parameter.

* **`rejectFloatsWithin_eq`**, **`depth_le_of_rejectFloatsWithin`** — the recursion gives the answer
  of the unbounded one as deep as there is room, and returns nothing deeper down.
* **`exists_signingInputWithin_iff`** — which payloads can be signed in the room there is.
-/

namespace AgentRecursion

open AgentRaises AgentPy AgentJson AgentCanonicalText AgentNormalization AgentJsonRender
  AgentSigning AgentSerde AgentOwnerRecall

/-- How much deeper the interpreter can go when a call is made. -/
structure Room where
  /-- Calls of `_reject_floats` inside one another. -/
  calls : ℕ
  /-- Containers inside one another that `json.dumps` writes. -/
  containers : ℕ
  /-- Values inside one another that `repr` spells. -/
  reprs : ℕ

/-! ## How deep a value is -/

mutual

/-- How many values stand inside one another, where what is no container counts `leaf`. -/
def nesting (leaf : ℕ) : Json → ℕ
  | .arr items => nestingItems leaf items + 1
  | .obj members => nestingMembers leaf members + 1
  | _ => leaf

def nestingItems (leaf : ℕ) : List Json → ℕ
  | [] => 0
  | v :: items => max (nesting leaf v) (nestingItems leaf items)

def nestingMembers (leaf : ℕ) : Members → ℕ
  | [] => 0
  | (_, v) :: members => max (nesting leaf v) (nestingMembers leaf members)

end

/-- Every value counts, a string or a number as one. -/
def depth (v : Json) : ℕ := nesting 1 v

/-- Only containers count. -/
def containerDepth (v : Json) : ℕ := nesting 0 v

example : depth (.arr [.obj [(py "a", .arr [])], .null]) = 3 ∧
    containerDepth (.arr [.arr [.null], .null]) = 2 := ⟨rfl, rfl⟩

theorem nestingItems_le_iff {leaf room : ℕ} {items : List Json} :
    nestingItems leaf items ≤ room ↔ ∀ v ∈ items, nesting leaf v ≤ room := by
  induction items with
  | nil => exact ⟨fun _ v hv => absurd hv List.not_mem_nil, fun _ => Nat.zero_le _⟩
  | cons v items ih => rw [nestingItems, max_le_iff, ih, List.forall_mem_cons]

theorem nestingMembers_le_iff {leaf room : ℕ} {members : Members} :
    nestingMembers leaf members ≤ room ↔ ∀ m ∈ members, nesting leaf m.2 ≤ room := by
  induction members with
  | nil => exact ⟨fun _ m hm => absurd hm List.not_mem_nil, fun _ => Nat.zero_le _⟩
  | cons m members ih =>
      obtain ⟨k, v⟩ := m
      rw [nestingMembers, max_le_iff, ih, List.forall_mem_cons]

/-! ## `_reject_floats` -/

mutual

/-- `_reject_floats`, which is called once more for each value inside a value. -/
def rejectFloatsWithin : ℕ → Json → Py Unit
  | 0, _ => raise .recursionError ["maximum recursion depth exceeded"]
  | room + 1, .obj members => rejectFloatsMembersWithin room members
  | room + 1, .arr items => rejectFloatsItemsWithin room items
  | _ + 1, v => rejectFloats v

def rejectFloatsItemsWithin : ℕ → List Json → Py Unit
  | _, [] => .ok ()
  | room, v :: items => do
      rejectFloatsWithin room v
      rejectFloatsItemsWithin room items

def rejectFloatsMembersWithin : ℕ → Members → Py Unit
  | _, [] => .ok ()
  | room, (_, v) :: members => do
      rejectFloatsWithin room v
      rejectFloatsMembersWithin room members

end

/-- The items are let through when each of them is. -/
theorem rejectFloatsItemsWithin_ok_iff {room : ℕ} {items : List Json} :
    rejectFloatsItemsWithin room items = .ok () ↔ ∀ v ∈ items, rejectFloatsWithin room v = .ok () := by
  induction items with
  | nil => exact ⟨fun _ v hv => absurd hv List.not_mem_nil, fun _ => rfl⟩
  | cons v items ih => rw [rejectFloatsItemsWithin, seq_ok_iff, ih, List.forall_mem_cons]

theorem rejectFloatsMembersWithin_ok_iff {room : ℕ} {members : Members} :
    rejectFloatsMembersWithin room members = .ok () ↔
      ∀ m ∈ members, rejectFloatsWithin room m.2 = .ok () := by
  induction members with
  | nil => exact ⟨fun _ m hm => absurd hm List.not_mem_nil, fun _ => rfl⟩
  | cons m members ih =>
      obtain ⟨k, v⟩ := m
      rw [rejectFloatsMembersWithin, seq_ok_iff, ih, List.forall_mem_cons]

/-- Where each item has room enough, so have the items. -/
theorem rejectFloatsItemsWithin_eq {room : ℕ} {items : List Json}
    (h : ∀ v ∈ items, rejectFloatsWithin room v = rejectFloats v) :
    rejectFloatsItemsWithin room items = rejectFloatsItems items := by
  induction items with
  | nil => rfl
  | cons v items ih =>
      rw [List.forall_mem_cons] at h
      rw [rejectFloatsItemsWithin, rejectFloatsItems, h.1, ih h.2]

theorem rejectFloatsMembersWithin_eq {room : ℕ} {members : Members}
    (h : ∀ m ∈ members, rejectFloatsWithin room m.2 = rejectFloats m.2) :
    rejectFloatsMembersWithin room members = rejectFloatsMembers members := by
  induction members with
  | nil => rfl
  | cons m members ih =>
      obtain ⟨k, v⟩ := m
      rw [List.forall_mem_cons] at h
      rw [rejectFloatsMembersWithin, rejectFloatsMembers, h.1, ih h.2]

/-- **DEEP ENOUGH**, it gives the answer of the unbounded recursion. -/
theorem rejectFloatsWithin_eq {room : ℕ} {v : Json} (h : depth v ≤ room) :
    rejectFloatsWithin room v = rejectFloats v := by
  rw [depth] at h
  induction v using json_induction generalizing room with
  | null | bool | int | float | str =>
      cases room with
      | zero => exact absurd h (Nat.not_succ_le_zero 0)
      | succ room => rfl
  | arr items ih =>
      cases room with
      | zero => exact absurd h (Nat.not_succ_le_zero _)
      | succ room =>
          rw [nesting, Nat.add_le_add_iff_right, nestingItems_le_iff] at h
          rw [rejectFloatsWithin, rejectFloats]
          exact rejectFloatsItemsWithin_eq fun v hv => ih v hv (h v hv)
  | obj members ih =>
      cases room with
      | zero => exact absurd h (Nat.not_succ_le_zero _)
      | succ room =>
          rw [nesting, Nat.add_le_add_iff_right, nestingMembers_le_iff] at h
          rw [rejectFloatsWithin, rejectFloats]
          exact rejectFloatsMembersWithin_eq fun m hm => ih m hm (h m hm)

/-- **NO DEEPER**: what it lets through is no deeper than there is room. -/
theorem depth_le_of_rejectFloatsWithin {room : ℕ} {v : Json}
    (h : rejectFloatsWithin room v = .ok ()) : depth v ≤ room := by
  rw [depth]
  induction v using json_induction generalizing room with
  | null | bool | int | float | str =>
      cases room with
      | zero => cases h
      | succ room => exact Nat.succ_le_succ (Nat.zero_le room)
  | arr items ih =>
      cases room with
      | zero => cases h
      | succ room =>
          rw [rejectFloatsWithin, rejectFloatsItemsWithin_ok_iff] at h
          rw [nesting, Nat.add_le_add_iff_right, nestingItems_le_iff]
          intro v hv
          exact ih v hv (h v hv)
  | obj members ih =>
      cases room with
      | zero => cases h
      | succ room =>
          rw [rejectFloatsWithin, rejectFloatsMembersWithin_ok_iff] at h
          rw [nesting, Nat.add_le_add_iff_right, nestingMembers_le_iff]
          intro m hm
          exact ih m hm (h m hm)

/-- It raises a `ValueError` for a float or a `RecursionError`. -/
theorem rejectFloatsWithin_error {room : ℕ} {v : Json} :
    Raises (fun e => e.cls = .valueError ∨ e.cls = .recursionError) (rejectFloatsWithin room v) := by
  induction v using json_induction generalizing room with
  | null | bool | int | float | str =>
      cases room with
      | zero => exact raises_error_iff.mpr (Or.inr rfl)
      | succ room => exact rejectFloats_error.weaken fun _ => Or.inl
  | arr items ih =>
      cases room with
      | zero => exact raises_error_iff.mpr (Or.inr rfl)
      | succ room =>
          rw [rejectFloatsWithin]
          induction items with
          | nil => exact raises_ok ()
          | cons v items ihItems =>
              rw [rejectFloatsItemsWithin]
              refine Raises.bind (ih v List.mem_cons_self) fun _ _ => ?_
              exact ihItems fun w hw _ => ih w (List.mem_cons_of_mem v hw)
  | obj members ih =>
      cases room with
      | zero => exact raises_error_iff.mpr (Or.inr rfl)
      | succ room =>
          rw [rejectFloatsWithin]
          induction members with
          | nil => exact raises_ok ()
          | cons m members ihMembers =>
              rw [rejectFloatsMembersWithin]
              refine Raises.bind (ih m List.mem_cons_self) fun _ _ => ?_
              exact ihMembers fun w hw _ => ih w (List.mem_cons_of_mem m hw)

/-! ## Signing -/

/-- `canonical_json`, in the room there is. -/
def canonicalJsonWithin (room : Room) (nfc : PyStr → PyStr) (data : Json) : Py Bytes := do
  rejectFloatsWithin room.calls data
  raiseIf (room.containers < containerDepth data) .recursionError
    ["maximum recursion depth exceeded while encoding a JSON object"]
  utf8Encode (nfc (dumps data))

/-- `signing_input` -/
def signingInputWithin (H : Host) (room : Room) (context : PyStr) (payload : Json) : Py Bytes := do
  let tag ← domainTag context
  let body ← canonicalJsonWithin room H.nfc payload
  .ok (twoBytes tag.length ++ tag ++ body)

/-- `verify_payload` -/
def verifyPayloadWithin (H : Host) (room : Room) (signing : Bytes) (context : PyStr)
    (payload signature : Json) : Py Unit := do
  let raw ← decodeSignature signature
  let message ← signingInputWithin H room context payload
  verifyKey H signing raw message

/-- The value is no deeper than there is room. -/
def Fits (room : Room) (v : Json) : Prop :=
  depth v ≤ room.calls ∧ containerDepth v ≤ room.containers

theorem canonicalJsonWithin_eq {room : Room} {nfc : PyStr → PyStr} {v : Json} (h : Fits room v) :
    canonicalJsonWithin room nfc v = canonicalJson nfc v := by
  have hroom : raiseIf (room.containers < containerDepth v) .recursionError
      ["maximum recursion depth exceeded while encoding a JSON object"] = .ok () :=
    (raiseIf_ok_iff ..).mpr h.2.not_gt
  rw [canonicalJsonWithin, canonicalJson, rejectFloatsWithin_eq h.1, hroom]
  rfl

/-- **WITHIN THE ROOM** nothing is different. -/
theorem signingInputWithin_eq {H : Host} {room : Room} {context : PyStr} {payload : Json}
    (h : Fits room payload) :
    signingInputWithin H room context payload = signingInput H context payload := by
  rw [signingInputWithin, signingInput, canonicalJsonWithin_eq h]

theorem verifyPayloadWithin_eq {H : Host} {room : Room} {signing : Bytes} {context : PyStr}
    {payload signature : Json} (h : Fits room payload) :
    verifyPayloadWithin H room signing context payload signature =
      verifyPayload H signing context payload signature := by
  rw [verifyPayloadWithin, verifyPayload, signingInputWithin_eq h]

theorem fits_of_canonicalJsonWithin {room : Room} {nfc : PyStr → PyStr} {v : Json} {b : Bytes}
    (h : canonicalJsonWithin room nfc v = .ok b) : Fits room v := by
  obtain ⟨hfloats, hrest⟩ := seq_ok_iff.mp h
  obtain ⟨hroom, -⟩ := seq_ok_iff.mp hrest
  exact ⟨depth_le_of_rejectFloatsWithin hfloats, not_lt.mp ((raiseIf_ok_iff ..).mp hroom)⟩

variable {H : Host} {room : Room} {context : PyStr} {payload : Json}

/-- **WHAT CAN BE SIGNED** in the room there is. -/
theorem exists_signingInputWithin_iff (hcontext : IsContext context) :
    (∃ message, signingInputWithin H room context payload = .ok message) ↔
      Fits room payload ∧ HasBytes H.nfc payload := by
  constructor
  · rintro ⟨message, h⟩
    obtain ⟨_, -, hrest⟩ := bind_ok_iff.mp h
    obtain ⟨body, hbody, -⟩ := bind_ok_iff.mp hrest
    have hfits := fits_of_canonicalJsonWithin hbody
    exact ⟨hfits, body, (canonicalJsonWithin_eq hfits).symm.trans hbody⟩
  · rintro ⟨hfits, hbytes⟩
    rw [signingInputWithin_eq hfits]
    exact (exists_signingInput_iff hcontext).mpr hbytes

/-- **WHAT IT RAISES** when it cannot: a `ValueError` on a float, a `UnicodeEncodeError` on a lone
    surrogate, a `RecursionError` on what is too deep. -/
theorem signingInputWithin_error (hcontext : IsContext context) :
    Raises (fun e => e.cls = .valueError ∨ e.cls = .unicodeEncodeError ∨ e.cls = .recursionError)
      (signingInputWithin H room context payload) := by
  obtain ⟨tag, htag⟩ := domainTag_of_isContext hcontext
  refine (raises_of_ok htag).bind fun _ _ => Raises.bind ?_ fun _ _ => raises_ok _
  refine (rejectFloatsWithin_error.weaken fun _ h => ?_).bind fun _ _ => ?_
  · exact h.elim Or.inl fun h => Or.inr (Or.inr h)
  refine Raises.bind (raises_raiseIf (Or.inr (Or.inr rfl))) fun _ _ => ?_
  exact utf8Encode_error.weaken fun _ h => Or.inr (Or.inl h)

end AgentRecursion
