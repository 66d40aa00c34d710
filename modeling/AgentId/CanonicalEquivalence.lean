import AgentId.JsonRender

/-!
# Canonical JSON of canonically equivalent values

`canonical_json` sorts an object's keys as they are given and normalises the finished text.  Two
values that differ only in how their strings are spelled should have one canonical form; they do
exactly when normalising leaves the order of keys alone.

* **`nfc_dumps_eq_iff`** — what equal canonical texts say of the values.
* **`canonicalJson_normalised_iff`** — canonically equivalent values have the same canonical
  bytes, with keys ascending as they are emitted, exactly when normalising keeps the order of the
  keys of every object.
-/

namespace AgentCanonicalEquivalence

open AgentPy AgentJson AgentCanonicalText AgentNormalization AgentJsonRender

variable {nfc : PyStr → PyStr}

/-! ## Equal texts -/

theorem tokenPair_nfcToken (N : NfcText nfc) : TokenPair (nfcToken nfc) (nfcToken nfc) :=
  tokenPair_of_scanned (scanned_nfc_escape N) (scanned_nfc_escape N)

/-- Two strings have one token when they have one normal form. -/
theorem nfcToken_eq_iff (N : NfcText nfc) {s t : PyStr} :
    nfcToken nfc s = nfcToken nfc t ↔ nfc s = nfc t := by
  rw [← nfc_escape_iff N, nfcToken, nfcToken]
  constructor
  · exact fun h => List.append_cancel_right (List.cons.inj h).2
  · exact fun h => by rw [h]

theorem Matches.imp {same same' : PyStr → PyStr → Prop} (h : ∀ s t, same s t → same' s t)
    {v w : Json} (hvw : Matches same v w) : Matches same' v w := by
  induction hvw with
  | null => exact .null
  | bool b => exact .bool b
  | int n => exact .int n
  | str hst => exact .str (h _ _ hst)
  | arr hlen _ ih => exact .arr hlen ih
  | obj hlen hkeys _ ih => exact .obj hlen (fun p hp => h _ _ (hkeys p hp)) ih

/-- **EQUAL CANONICAL TEXTS** are of values with the same shape and numbers, and canonically
    equivalent strings and keys in the order they are written. -/
theorem nfc_dumps_eq_iff (N : NfcText nfc) {v w : Json} (hv : FloatFree v) (hw : FloatFree w) :
    nfc (dumps v) = nfc (dumps w) ↔ Matches (fun s t => nfc s = nfc t) v w := by
  rw [nfc_dumps N, nfc_dumps N, render_eq_iff (tokenPair_nfcToken N) hv hw]
  exact ⟨Matches.imp fun _ _ => (nfcToken_eq_iff N).mp,
    Matches.imp fun _ _ => (nfcToken_eq_iff N).mpr⟩

/-- Values without floats and with one normalised text have one canonical form. -/
theorem canonicalJson_congr {v w : Json} (hv : FloatFree v) (hw : FloatFree w)
    (h : nfc (dumps v) = nfc (dumps w)) : canonicalJson nfc v = canonicalJson nfc w := by
  rw [canonicalJson, canonicalJson, rejectFloats_ok_iff.mpr hv, rejectFloats_ok_iff.mpr hw, h]

/-! ## Equivalent values -/

/-- Values of the same shape whose corresponding strings and keys have the same normal form.  The
    members of an object correspond in any order. -/
inductive CanonEquiv (nfc : PyStr → PyStr) : Json → Json → Prop where
  | null : CanonEquiv nfc .null .null
  | bool (b : Bool) : CanonEquiv nfc (.bool b) (.bool b)
  | int (n : Int) : CanonEquiv nfc (.int n) (.int n)
  | str {s t : PyStr} : nfc s = nfc t → CanonEquiv nfc (.str s) (.str t)
  | arr {items items' : List Json} : items.length = items'.length →
      (∀ p ∈ items.zip items', CanonEquiv nfc p.1 p.2) → CanonEquiv nfc (.arr items) (.arr items')
  | obj {members members' order : Members} : members.Perm order →
      order.length = members'.length → (∀ p ∈ order.zip members', nfc p.1.1 = nfc p.2.1) →
      (∀ p ∈ order.zip members', CanonEquiv nfc p.1.2 p.2.2) →
      CanonEquiv nfc (.obj members) (.obj members')

/-- A property of the members of every object inside a value. -/
inductive EveryObject (P : Members → Prop) : Json → Prop where
  | null : EveryObject P .null
  | bool (b : Bool) : EveryObject P (.bool b)
  | int (n : Int) : EveryObject P (.int n)
  | float (bits : UInt64) : EveryObject P (.float bits)
  | str (s : PyStr) : EveryObject P (.str s)
  | arr {items : List Json} : (∀ v ∈ items, EveryObject P v) → EveryObject P (.arr items)
  | obj {members : Members} : P members → (∀ m ∈ members, EveryObject P m.2) →
      EveryObject P (.obj members)

theorem EveryObject.of_mem {P : Members → Prop} {items : List Json}
    (h : EveryObject P (.arr items)) : ∀ v ∈ items, EveryObject P v := by
  cases h with
  | arr hitems => exact hitems

theorem EveryObject.of_member {P : Members → Prop} {members : Members}
    (h : EveryObject P (.obj members)) :
    P members ∧ ∀ m ∈ members, EveryObject P m.2 := by
  cases h with
  | obj hp hmembers => exact ⟨hp, hmembers⟩

/-- The keys of an object in the order they are emitted, as they are emitted. -/
def emittedKeys (nfc : PyStr → PyStr) (members : Members) : List PyStr :=
  (sortKeys members).map fun m => nfc m.1

/-- No object has two keys that become equal. -/
def KeysApart (nfc : PyStr → PyStr) : Json → Prop :=
  EveryObject fun members => (members.map fun m => nfc m.1).Nodup

/-- The keys of every object ascend in the output. -/
def KeysAscend (nfc : PyStr → PyStr) : Json → Prop :=
  EveryObject fun members => (emittedKeys nfc members).Pairwise (· < ·)

/-- Normalising keeps the order of the keys of every object. -/
def OrderKept (nfc : PyStr → PyStr) : Json → Prop :=
  EveryObject fun members => ∀ m ∈ members, ∀ m' ∈ members, m.1 < m'.1 → nfc m.1 < nfc m'.1

section Zip

variable {α β : Type} {as : List α} {bs : List β}

theorem exists_zip_left (hlen : as.length = bs.length) {a : α} (ha : a ∈ as) :
    ∃ b, (a, b) ∈ as.zip bs := by
  rw [← List.map_fst_zip hlen.le] at ha
  obtain ⟨p, hp, rfl⟩ := List.mem_map.mp ha
  exact ⟨p.2, hp⟩

theorem exists_zip_right (hlen : as.length = bs.length) {b : β} (hb : b ∈ bs) :
    ∃ a, (a, b) ∈ as.zip bs := by
  rw [← List.map_snd_zip hlen.ge] at hb
  obtain ⟨p, hp, rfl⟩ := List.mem_map.mp hb
  exact ⟨p.1, hp⟩

end Zip

/-- Items without floats, pair by pair, make arrays without floats. -/
theorem floatFree_arr_of_zip {items items' : List Json} (hlen : items.length = items'.length)
    (h : ∀ p ∈ items.zip items', FloatFree p.1 ∧ FloatFree p.2) :
    FloatFree (.arr items) ∧ FloatFree (.arr items') := by
  refine ⟨.arr fun v hv => ?_, .arr fun w hw => ?_⟩
  · obtain ⟨w, hvw⟩ := exists_zip_left hlen hv
    exact (h _ hvw).1
  · obtain ⟨v, hvw⟩ := exists_zip_right hlen hw
    exact (h _ hvw).2

/-- And so do members, in whatever order they are paired. -/
theorem floatFree_obj_of_zip {members members' order order' : Members} (hmem : members ⊆ order)
    (hmem' : members' ⊆ order') (hlen : order.length = order'.length)
    (h : ∀ p ∈ order.zip order', FloatFree p.1.2 ∧ FloatFree p.2.2) :
    FloatFree (.obj members) ∧ FloatFree (.obj members') := by
  refine ⟨.obj fun m hm => ?_, .obj fun m' hm' => ?_⟩
  · obtain ⟨m', hmm⟩ := exists_zip_left hlen (hmem hm)
    exact (h _ hmm).1
  · obtain ⟨m, hmm⟩ := exists_zip_right hlen (hmem' hm')
    exact (h _ hmm).2

/-- Canonically equivalent values hold no float. -/
theorem CanonEquiv.floatFree {v w : Json} (h : CanonEquiv nfc v w) :
    FloatFree v ∧ FloatFree w := by
  induction h with
  | null => exact ⟨.null, .null⟩
  | bool b => exact ⟨.bool b, .bool b⟩
  | int n => exact ⟨.int n, .int n⟩
  | str _ => exact ⟨.str _, .str _⟩
  | arr hlen _ ih => exact floatFree_arr_of_zip hlen ih
  | obj hperm hlen _ _ ih =>
      exact floatFree_obj_of_zip hperm.subset (List.Subset.refl _) hlen ih

/-! ## The order of keys -/

/-- Members are emitted in the order of their names. -/
theorem sortKeys_pairwise {α : Type} (members : List (PyStr × α)) :
    (sortKeys members).Pairwise fun a b => a.1 ≤ b.1 :=
  List.pairwise_insertionSort _ _

/-- The names that are emitted are the normal forms of the names. -/
theorem emittedKeys_perm (members : Members) :
    (emittedKeys nfc members).Perm (members.map fun m => nfc m.1) :=
  (List.perm_insertionSort _ _).map _

/-- The member with a given emitted key. -/
theorem eq_of_nodup {members : Members} (h : (members.map fun m => nfc m.1).Nodup)
    {m m' : PyStr × Json} (hm : m ∈ members) (hm' : m' ∈ members) (heq : nfc m.1 = nfc m'.1) :
    m = m' :=
  List.inj_on_of_nodup_map h hm hm' heq

/-- **ONE OBJECT**: its keys ascend as emitted exactly when normalising keeps their order. -/
theorem ascend_iff_orderKept {members : Members} (h : (members.map fun m => nfc m.1).Nodup) :
    (emittedKeys nfc members).Pairwise (· < ·) ↔
      ∀ m ∈ members, ∀ m' ∈ members, m.1 < m'.1 → nfc m.1 < nfc m'.1 := by
  rw [emittedKeys, List.pairwise_map]
  constructor
  · intro hasc m hm m' hm' hlt
    obtain ⟨i, hi, hmi⟩ := List.getElem_of_mem (mem_sortKeys.mpr hm)
    obtain ⟨j, hj, hmj⟩ := List.getElem_of_mem (mem_sortKeys.mpr hm')
    rw [List.pairwise_iff_getElem] at hasc
    have hsorted := List.pairwise_iff_getElem.mp (sortKeys_pairwise members)
    rcases lt_trichotomy i j with hij | rfl | hji
    · have := hasc i j hi hj hij
      rwa [hmi, hmj] at this
    · rw [← hmi, ← hmj] at hlt
      exact absurd hlt (lt_irrefl _)
    · have := hsorted j i hj hi hji
      rw [hmi, hmj] at this
      exact absurd hlt (not_lt.mpr this)
  · intro hkept
    -- two places of the sorted list hold different members, so different keys
    have hnodup : (emittedKeys nfc members).Nodup := (emittedKeys_perm members).nodup_iff.mpr h
    rw [emittedKeys, List.Nodup, List.pairwise_map] at hnodup
    refine ((sortKeys_pairwise members).and hnodup).imp_of_mem ?_
    rintro m m' hm hm' ⟨hle, hne⟩
    exact hkept m (mem_sortKeys.mp hm) m' (mem_sortKeys.mp hm')
      (lt_of_le_of_ne hle fun heq => hne (by rw [heq]))

/-- Where no two names have one normal form, the normal forms ascend exactly when normalising
    keeps the order. -/
theorem keysAscend_iff_orderKept {v : Json} (h : KeysApart nfc v) :
    KeysAscend nfc v ↔ OrderKept nfc v := by
  induction v using json_induction with
  | null => exact ⟨fun _ => .null, fun _ => .null⟩
  | bool b => exact ⟨fun _ => .bool b, fun _ => .bool b⟩
  | int n => exact ⟨fun _ => .int n, fun _ => .int n⟩
  | float bits => exact ⟨fun _ => .float bits, fun _ => .float bits⟩
  | str s => exact ⟨fun _ => .str s, fun _ => .str s⟩
  | arr items ih =>
      constructor
      · exact fun ha => .arr fun v hv => (ih v hv (h.of_mem v hv)).mp (ha.of_mem v hv)
      · exact fun ho => .arr fun v hv => (ih v hv (h.of_mem v hv)).mpr (ho.of_mem v hv)
  | obj members ih =>
      obtain ⟨hnodup, happart⟩ := h.of_member
      constructor
      · intro ha
        obtain ⟨hasc, hmembers⟩ := ha.of_member
        exact .obj ((ascend_iff_orderKept hnodup).mp hasc) fun m hm =>
          (ih m hm (happart m hm)).mp (hmembers m hm)
      · intro ho
        obtain ⟨hkept, hmembers⟩ := ho.of_member
        exact .obj ((ascend_iff_orderKept hnodup).mpr hkept) fun m hm =>
          (ih m hm (happart m hm)).mpr (hmembers m hm)

/-! ## Equivalent values, sorted alike -/

/-- Members that correspond in some order have, once sorted by emitted key, equal emitted keys
    place by place. -/
theorem emittedKeys_eq {members members' order : Members} (hperm : members.Perm order)
    (hlen : order.length = members'.length)
    (hkeys : ∀ p ∈ order.zip members', nfc p.1.1 = nfc p.2.1)
    (hasc : (emittedKeys nfc members).Pairwise (· < ·))
    (hasc' : (emittedKeys nfc members').Pairwise (· < ·)) :
    emittedKeys nfc members = emittedKeys nfc members' := by
  have hsame : (order.map fun m => nfc m.1) = members'.map fun m => nfc m.1 :=
    map_eq_map_of_zip hlen hkeys
  have hall : (emittedKeys nfc members).Perm (emittedKeys nfc members') :=
    ((emittedKeys_perm members).trans (hsame ▸ hperm.map _)).trans (emittedKeys_perm members').symm
  exact hall.eq_of_pairwise (fun a b _ _ h h' => absurd (h.trans h') (lt_irrefl a)) hasc hasc'

/-- **EQUIVALENT VALUES MATCH** when normalising keeps the order of keys. -/
theorem matches_of_canonEquiv {v w : Json} (h : CanonEquiv nfc v w) (hv : KeysApart nfc v)
    (hw : KeysApart nfc w) (hov : OrderKept nfc v) (how : OrderKept nfc w) :
    Matches (fun s t => nfc s = nfc t) v w := by
  induction h with
  | null => exact .null
  | bool b => exact .bool b
  | int n => exact .int n
  | str hst => exact .str hst
  | arr hlen _ ih =>
      refine .arr hlen fun p hp => ?_
      obtain ⟨hl, hr⟩ := List.of_mem_zip hp
      exact ih p hp (hv.of_mem _ hl) (hw.of_mem _ hr) (hov.of_mem _ hl) (how.of_mem _ hr)
  | @obj members members' order hperm hlen hkeys _ ih =>
      obtain ⟨hnodup, hv⟩ := hv.of_member
      obtain ⟨hnodup', hw⟩ := hw.of_member
      obtain ⟨hkept, hov⟩ := hov.of_member
      obtain ⟨hkept', how⟩ := how.of_member
      have hemitted : emittedKeys nfc members = emittedKeys nfc members' :=
        emittedKeys_eq hperm hlen hkeys ((ascend_iff_orderKept hnodup).mpr hkept)
          ((ascend_iff_orderKept hnodup').mpr hkept')
      have hlen' : (sortKeys members).length = (sortKeys members').length := by
        have := congrArg List.length hemitted
        rwa [emittedKeys, emittedKeys, List.length_map, List.length_map] at this
      have hplace : ∀ p ∈ (sortKeys members).zip (sortKeys members'), nfc p.1.1 = nfc p.2.1 := by
        intro p hp
        obtain ⟨i, hi, rfl⟩ := List.getElem_of_mem hp
        rw [List.length_zip] at hi
        have hget := congrArg (fun l => l[i]?) hemitted
        simp only [emittedKeys, List.getElem?_map] at hget
        rw [List.getElem?_eq_getElem (by omega), List.getElem?_eq_getElem (by omega)] at hget
        rw [List.getElem_zip]
        exact Option.some.inj hget
      refine .obj hlen' hplace fun p hp => ?_
      obtain ⟨hl, hr⟩ := List.of_mem_zip hp
      have hm := mem_sortKeys.mp hl
      have hm' := mem_sortKeys.mp hr
      -- the member the correspondence pairs with this one is the one at its place
      obtain ⟨m', hpair⟩ := exists_zip_left hlen (hperm.mem_iff.mp hm)
      have hpartner : m' = p.2 := eq_of_nodup hnodup' (List.of_mem_zip hpair).2 hm'
        ((hkeys _ hpair).symm.trans (hplace p hp))
      have := ih _ hpair (hv _ hm) (hpartner ▸ hw _ hm') (hov _ hm) (hpartner ▸ how _ hm')
      rwa [hpartner] at this

/-- **WHEN CANONICAL JSON IS INVARIANT.**  For canonically equivalent values without floats whose
    objects have no two keys that become equal: the canonical bytes are the same and keys ascend
    as they are emitted, exactly when normalising keeps the order of the keys of every object. -/
theorem canonicalJson_normalised_iff (N : NfcText nfc) (a b : Json) (h : CanonEquiv nfc a b)
    (ha : KeysApart nfc a) (hb : KeysApart nfc b) :
    (canonicalJson nfc a = canonicalJson nfc b ∧ KeysAscend nfc a ∧ KeysAscend nfc b) ↔
      OrderKept nfc a ∧ OrderKept nfc b := by
  rw [keysAscend_iff_orderKept ha, keysAscend_iff_orderKept hb]
  refine ⟨And.right, fun hkept => ⟨?_, hkept⟩⟩
  obtain ⟨hfa, hfb⟩ := h.floatFree
  exact canonicalJson_congr hfa hfb
    ((nfc_dumps_eq_iff N hfa hfb).mpr (matches_of_canonEquiv h ha hb hkept.1 hkept.2))

/-! ## Keys that move -/

/-- `\x7b"ñ": 1, "o": 2\x7d`, the key composed. -/
def composedKeys : Json := .obj [([enye], .int 1), (py "o", .int 2)]

/-- The same object, the key decomposed: as given it sorts before `o`, as emitted after it. -/
def decomposedKeys : Json := .obj [([codePoint 'n', tilde], .int 1), (py "o", .int 2)]

theorem keysApart_of_two {k l : PyStr} {v w : Json} (h : nfc k ≠ nfc l) (hv : KeysApart nfc v)
    (hw : KeysApart nfc w) : KeysApart nfc (.obj [(k, v), (l, w)]) := by
  refine .obj ?_ ?_
  · exact List.nodup_cons.mpr ⟨fun hm => h (List.mem_singleton.mp hm), List.nodup_singleton _⟩
  · intro m hm
    rcases List.mem_cons.mp hm with rfl | hm
    · exact hv
    · rw [List.mem_singleton.mp hm]
      exact hw

theorem canonEquiv_of_two {k l k' l' : PyStr} {v w v' w' : Json} (hk : nfc k = nfc k')
    (hl : nfc l = nfc l') (hv : CanonEquiv nfc v v') (hw : CanonEquiv nfc w w') :
    CanonEquiv nfc (.obj [(k, v), (l, w)]) (.obj [(k', v'), (l', w')]) := by
  refine .obj (List.Perm.refl _) rfl ?_ ?_
  · intro p hp
    rcases List.mem_cons.mp hp with rfl | hp
    · exact hk
    · rw [List.mem_singleton.mp hp]
      exact hl
  · intro p hp
    rcases List.mem_cons.mp hp with rfl | hp
    · exact hv
    · rw [List.mem_singleton.mp hp]
      exact hw

/-- ASCII names keep their order. -/
theorem orderKept_of_ascii {members : Members} (N : NfcText nfc)
    (h : ∀ m ∈ members, IsAscii m.1) (hv : ∀ m ∈ members, OrderKept nfc m.2) :
    OrderKept nfc (.obj members) := by
  refine .obj (fun m hm m' hm' hlt => ?_) hv
  rwa [N.ascii _ (h m hm), N.ascii _ (h m' hm')]

/-- A value under an ASCII key has one canonical form in both its spellings. -/
theorem canonicalJson_normalised_iff_label :
    canonicalJson sampleNfc (.obj [(py "n", .str [enye]), (py "o", .int 2)])
      = canonicalJson sampleNfc
        (.obj [(py "n", .str [codePoint 'n', tilde]), (py "o", .int 2)]) := by
  have hapart : ∀ s, KeysApart sampleNfc (.obj [(py "n", .str s), (py "o", .int 2)]) :=
    fun s => keysApart_of_two (by decide) (.str s) (.int 2)
  have hkept : ∀ s, OrderKept sampleNfc (.obj [(py "n", .str s), (py "o", .int 2)]) := by
    intro s
    refine orderKept_of_ascii sampleNfc_text ?_ ?_
    · simp only [List.forall_mem_cons, List.not_mem_nil, false_imp_iff, implies_true, and_true]
      decide
    · simp only [List.forall_mem_cons, List.not_mem_nil, false_imp_iff, implies_true, and_true]
      exact ⟨.str s, .int 2⟩
  exact ((canonicalJson_normalised_iff sampleNfc_text _ _
    (canonEquiv_of_two rfl rfl (.str (by decide)) (.int 2)) (hapart _) (hapart _)).mpr
    ⟨hkept _, hkept _⟩).1

/-- **THE ORDER OF KEYS DEPENDS ON THEIR SPELLING.** -/
theorem spelling_moves_keys : CanonEquiv sampleNfc composedKeys decomposedKeys ∧
    KeysApart sampleNfc composedKeys ∧ KeysApart sampleNfc decomposedKeys ∧
    canonicalJson sampleNfc composedKeys ≠ canonicalJson sampleNfc decomposedKeys ∧
    emittedKeys sampleNfc [([codePoint 'n', tilde], .int 1), (py "o", .int 2)]
      = [[enye], py "o"] ∧ ¬ [enye] < py "o" := by
  refine ⟨canonEquiv_of_two (by decide) rfl (.int 1) (.int 2),
    keysApart_of_two (by decide) (.int 1) (.int 2), keysApart_of_two (by decide) (.int 1) (.int 2),
    ?_, by decide, by decide⟩
  decide +kernel

end AgentCanonicalEquivalence
