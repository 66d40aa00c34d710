import AgentId.SpendAuthority
import AgentId.TokenLanguage

/-!
# The grammar of a spend scope (`spend.py`)

`pay:<asset>[:tx<=<amount>][:total<=<amount>]`, the caps in any order, stated over the languages of
the two patterns.  The parser matches with `$`, so it reads the same grammar with a line feed
allowed behind the asset and behind each amount.

* **`parseSpendScope_ok_iff`** — what the parser accepts, and what it returns.
-/

namespace AgentSpendGrammar

open AgentPy AgentPositional AgentDecimal AgentSpend AgentSpendAuthority AgentTokenLanguage

/-! ## The two patterns -/

def newline : CodePoint := codePoint '\n'

/-- `[a-z0-9]+([._-][a-z0-9]+)*` -/
def assetPattern : Language CodePoint := separated isAssetChar isAssetSeparator

/-- `[0-9]+(\.[0-9]+)?` -/
def amountPattern : Language CodePoint := pointed isDigit (codePoint '.')

/-- A character of a token is not one that stands between tokens. -/
theorem not_separator_of_assetChar (c : CodePoint) (h : isAssetChar c = true) :
    isAssetSeparator c = false := by
  by_contra hsep
  rw [Bool.not_eq_false, isAssetSeparator, decide_eq_true_eq] at hsep
  have hall : (py "._-").all (fun c => !isAssetChar c) = true := by decide
  have hc := List.all_eq_true.mp hall c hsep
  rw [h] at hc
  cases hc

/-- The test on the pieces of a split: each is a run of the characters of a token. -/
theorem all_isRun_iff {pieces : List PyStr} {p : CodePoint → Bool} :
    (pieces.all fun token => token ≠ [] && token.all p) = true ↔ ∀ piece ∈ pieces, IsRun p piece := by
  rw [List.all_eq_true]
  refine forall₂_congr fun piece _ => ?_
  rw [Bool.and_eq_true, decide_eq_true_eq, List.all_eq_true]
  rfl

/-- The asset pattern, tested by splitting. -/
theorem mem_assetPattern_iff {s : PyStr} :
    s ∈ assetPattern ↔
      ((s.splitOnP isAssetSeparator).all fun token => token ≠ [] && token.all isAssetChar) = true :=
  (mem_separated not_separator_of_assetChar).trans all_isRun_iff.symm

/-- A run does not have the characters it is not made of. -/
theorem notMem_of_isRun {p : CodePoint → Bool} {c : CodePoint} (hc : p c = false) {s : PyStr}
    (h : IsRun p s) : c ∉ s :=
  fun hmem => by simpa [hc] using h.2 c hmem

/-- The digits of an amount, tested by splitting. -/
def digits? (s : PyStr) : Option (PyStr × PyStr) :=
  match s.splitOn (codePoint '.') with
  | [whole] => if isDigits whole then some (whole, []) else none
  | [whole, fraction] => if isDigits whole && isDigits fraction then some (whole, fraction) else none
  | _ => none

/-- `amountDigits?` looks before the line feed that `$` allows. -/
theorem amountDigits?_eq (s : PyStr) : amountDigits? s = digits? (chomp s) := rfl

/-- **THE DIGITS OF AN AMOUNT**: a run, or two at the sides of one point. -/
theorem digits?_eq_some_iff {s whole fraction : PyStr} :
    digits? s = some (whole, fraction) ↔ IsRun isDigit whole ∧
      ((fraction = [] ∧ s = whole) ∨
        (IsRun isDigit fraction ∧ s = whole ++ codePoint '.' :: fraction)) := by
  have hpoint : isDigit (codePoint '.') = false := by decide
  constructor
  · intro h
    have hjoin : [codePoint '.'].intercalate (s.splitOn (codePoint '.')) = s :=
      List.intercalate_splitOn _
    simp only [digits?] at h
    split at h
    -- no point, then one; two points or more are refused
    · next w heq =>
      split_ifs at h with hd
      cases h
      rw [heq] at hjoin
      exact ⟨isDigits_iff.mp hd, Or.inl ⟨rfl, by simpa [List.intercalate] using hjoin.symm⟩⟩
    · next w f heq =>
      split_ifs at h with hd
      cases h
      rw [Bool.and_eq_true] at hd
      rw [heq] at hjoin
      exact ⟨isDigits_iff.mp hd.1, Or.inr ⟨isDigits_iff.mp hd.2,
        by simpa [List.intercalate] using hjoin.symm⟩⟩
    · cases h
  · rintro ⟨hwhole, ⟨rfl, rfl⟩ | ⟨hfraction, rfl⟩⟩
    · simp only [digits?]
      rw [List.splitOn_eq_singleton (notMem_of_isRun hpoint hwhole)]
      exact if_pos (isDigits_iff.mpr hwhole)
    · simp only [digits?]
      rw [List.splitOn_append_cons_self_of_not_mem (notMem_of_isRun hpoint hwhole),
        List.splitOn_eq_singleton (notMem_of_isRun hpoint hfraction)]
      exact if_pos (by rw [Bool.and_eq_true]; exact ⟨isDigits_iff.mpr hwhole, isDigits_iff.mpr hfraction⟩)

/-- The amount pattern, tested by splitting at the point. -/
theorem mem_amountPattern_iff {s : PyStr} :
    s ∈ amountPattern ↔ ∃ parts, digits? s = some parts := by
  refine mem_pointed_iff.trans ⟨?_, ?_⟩
  · rintro (hrun | ⟨whole, fraction, hwhole, hfraction, rfl⟩)
    · exact ⟨(s, []), digits?_eq_some_iff.mpr ⟨hrun, Or.inl ⟨rfl, rfl⟩⟩⟩
    · exact ⟨(whole, fraction), digits?_eq_some_iff.mpr ⟨hwhole, Or.inr ⟨hfraction, rfl⟩⟩⟩
  · rintro ⟨⟨whole, fraction⟩, h⟩
    obtain ⟨hwhole, ⟨-, rfl⟩ | ⟨hfraction, rfl⟩⟩ := digits?_eq_some_iff.mp h
    · exact Or.inl hwhole
    · exact Or.inr ⟨whole, fraction, hwhole, hfraction, rfl⟩

/-! ## Before the end of the line -/

/-- `$` leaves to a pattern without a line feed what `endsLine` adds one to. -/
theorem mem_endsLine_iff_chomp {L : Language CodePoint} (hL : ∀ w ∈ L, newline ∉ w) {s : PyStr} :
    s ∈ endsLine newline L ↔ chomp s ∈ L := by
  rw [mem_endsLine]
  constructor
  · rintro (hs | ⟨v, hv, rfl⟩)
    · have hlast : s.getLast? ≠ some newline := fun h => hL s hs (List.mem_of_getLast? h)
      rwa [show chomp s = s from if_neg hlast]
    · rwa [show chomp (v ++ [newline]) = (v ++ [newline]).dropLast from if_pos List.getLast?_concat,
        List.dropLast_concat]
  · intro hs
    simp only [chomp] at hs
    split_ifs at hs with hlast
    · exact Or.inr ⟨_, hs, (List.dropLast_append_getLast? _ hlast).symm⟩
    · exact Or.inl hs

/-- An asset has characters of tokens and separators only. -/
theorem notMem_of_assetPattern {c : CodePoint} (hchar : isAssetChar c = false)
    (hsep : isAssetSeparator c = false) {s : PyStr} (h : s ∈ assetPattern) : c ∉ s :=
  fun hmem => by simpa [hchar, hsep] using mem_of_separated h c hmem

/-- An amount has digits and the point only. -/
theorem notMem_of_amountPattern {c : CodePoint} (hdigit : isDigit c = false)
    (hpoint : c ≠ codePoint '.') {s : PyStr} (h : s ∈ amountPattern) : c ∉ s :=
  fun hmem => by simpa [hdigit, hpoint] using mem_of_pointed h c hmem

/-! ## The grammar -/

def axisPrefix : Axis → PyStr
  | .tx => txCapPrefix
  | .total => totalCapPrefix

/-- One cap as it is written: `tx<=` or `total<=`, and the amount. -/
def segmentOf (c : Axis × PyStr) : PyStr := axisPrefix c.1 ++ c.2

/-- The text is `pay:`, the asset, and the caps in this order, at most one on each axis. -/
structure Spells (assets amounts : Language CodePoint) (s asset : PyStr)
    (caps : List (Axis × PyStr)) : Prop where
  text : s = py "pay:" ++ asset ++ caps.flatMap fun c => codePoint ':' :: segmentOf c
  asset_mem : asset ∈ assets
  distinct : (caps.map Prod.fst).Nodup
  amount_mem : ∀ c ∈ caps, c.2 ∈ amounts ∧ c.2.length ≤ maxAmountChars

/-- A scope of the grammar. -/
def InGrammar (s : PyStr) : Prop := ∃ asset caps, Spells assetPattern amountPattern s asset caps

/-- A scope of the grammar, but for a line feed behind the asset or behind amounts. -/
def InLooseGrammar (s : PyStr) : Prop :=
  ∃ asset caps, Spells (endsLine newline assetPattern) (endsLine newline amountPattern) s asset caps

/-- What spells a scope spells it over other languages that have its asset and its amounts. -/
theorem Spells.mono {assets assets' amounts amounts' : Language CodePoint} {s asset : PyStr}
    {caps : List (Axis × PyStr)} (h : Spells assets amounts s asset caps) (hassets : asset ∈ assets')
    (hamounts : ∀ c ∈ caps, c.2 ∈ amounts') : Spells assets' amounts' s asset caps :=
  ⟨h.text, hassets, h.distinct, fun c hc => ⟨hamounts c hc, (h.amount_mem c hc).2⟩⟩

/-- The grammar is part of the one with line feeds. -/
theorem Spells.loose {s asset : PyStr} {caps : List (Axis × PyStr)}
    (h : Spells assetPattern amountPattern s asset caps) :
    Spells (endsLine newline assetPattern) (endsLine newline amountPattern) s asset caps :=
  h.mono (mem_endsLine.mpr (Or.inl h.asset_mem))
    fun c hc => mem_endsLine.mpr (Or.inl (h.amount_mem c hc).1)

/-- The segments joined by colons are the text of a scope. -/
theorem join_segments (asset : PyStr) (caps : List (Axis × PyStr)) :
    [codePoint ':'].intercalate (spendPrefix :: asset :: caps.map segmentOf)
      = py "pay:" ++ asset ++ caps.flatMap fun c => codePoint ':' :: segmentOf c := by
  rw [intercalate_cons_eq_flatMap, List.flatMap_cons, List.flatMap_map, List.append_assoc]
  rfl

/-! ## The loop over the segments -/

section Reads

variable {α : Type} {read : PyStr → Option α}

/-- From these caps, one loop over the segments leaves those. -/
inductive Reads (read : PyStr → Option α) :
    (Axis → Option α) → List PyStr → (Axis → Option α) → Prop where
  | done (start : Axis → Option α) : Reads read start [] start
  | cap (start final : Axis → Option α) (axis : Axis) (text : PyStr) (a : α)
      (segments : List PyStr) : start axis = none → read text = some a →
      Reads read (Function.update start axis (some a)) segments final →
      Reads read start (segmentOf (axis, text) :: segments) final

/-- The caps of a scope, read from the texts it has on each axis. -/
structure HasCaps (read : PyStr → Option α) (caps : List (Axis × PyStr))
    (final : Axis → Option α) : Prop where
  present : ∀ c ∈ caps, ∃ a, read c.2 = some a ∧ final c.1 = some a
  absent : ∀ axis, axis ∉ caps.map Prod.fst → final axis = none

/-- One loop over segments has read a list of caps, at most one on an axis, none taken before. -/
theorem Reads.caps {start final : Axis → Option α} {segments : List PyStr}
    (h : Reads read start segments final) :
    ∃ caps : List (Axis × PyStr), segments = caps.map segmentOf ∧ (caps.map Prod.fst).Nodup ∧
      (∀ c ∈ caps, start c.1 = none ∧ ∃ a, read c.2 = some a ∧ final c.1 = some a) ∧
      ∀ axis, axis ∉ caps.map Prod.fst → final axis = start axis := by
  induction h with
  | done start =>
      exact ⟨[], rfl, List.nodup_nil, fun c hc => absurd hc List.not_mem_nil, fun _ _ => rfl⟩
  | cap start final axis text a segments hnone hread _ ih =>
      obtain ⟨caps, rfl, hnodup, hcaps, hother⟩ := ih
      -- a later cap on this axis would find it taken
      have hfresh : axis ∉ caps.map Prod.fst := by
        intro hmem
        obtain ⟨c, hc, rfl⟩ := List.mem_map.mp hmem
        have hstart := (hcaps c hc).1
        rw [Function.update_self] at hstart
        cases hstart
      refine ⟨(axis, text) :: caps, rfl, List.nodup_cons.mpr ⟨hfresh, hnodup⟩, ?_, ?_⟩
      · intro c hc
        rcases List.mem_cons.mp hc with rfl | hc
        · exact ⟨hnone, a, hread, by rw [hother axis hfresh, Function.update_self]⟩
        · have hne : c.1 ≠ axis := fun h => hfresh (h ▸ List.mem_map_of_mem hc)
          have hstart := (hcaps c hc).1
          rw [Function.update_of_ne hne] at hstart
          exact ⟨hstart, (hcaps c hc).2⟩
      · intro other hother'
        rw [List.map_cons, List.mem_cons, not_or] at hother'
        rw [hother other hother'.2, Function.update_of_ne hother'.1]

/-- Such a list is read, in whatever order its caps stand. -/
theorem reads_of_caps {start final : Axis → Option α} {caps : List (Axis × PyStr)}
    (hnodup : (caps.map Prod.fst).Nodup)
    (hcaps : ∀ c ∈ caps, start c.1 = none ∧ ∃ a, read c.2 = some a ∧ final c.1 = some a)
    (hother : ∀ axis, axis ∉ caps.map Prod.fst → final axis = start axis) :
    Reads read start (caps.map segmentOf) final := by
  induction caps generalizing start with
  | nil =>
      have hfinal : final = start := funext fun axis => hother axis List.not_mem_nil
      rw [hfinal]
      exact .done start
  | cons c caps ih =>
      obtain ⟨hfresh, hnodup⟩ := List.nodup_cons.mp hnodup
      obtain ⟨hnone, a, hread, hfinal⟩ := hcaps c List.mem_cons_self
      refine .cap start final c.1 c.2 a _ hnone hread (ih hnodup ?_ ?_)
      · intro d hd
        have hne : d.1 ≠ c.1 := fun h => hfresh (h ▸ List.mem_map_of_mem hd)
        rw [Function.update_of_ne hne]
        exact hcaps d (List.mem_cons_of_mem _ hd)
      · intro axis haxis
        by_cases hself : axis = c.1
        · rw [hself, Function.update_self, hfinal]
        · rw [Function.update_of_ne hself]
          refine hother axis ?_
          rw [List.map_cons, List.mem_cons, not_or]
          exact ⟨hself, haxis⟩

/-- **ONE LOOP OVER THE SEGMENTS** of a scope without caps yet. -/
theorem reads_iff {final : Axis → Option α} {segments : List PyStr} :
    Reads read (fun _ => none) segments final ↔
      ∃ caps : List (Axis × PyStr), segments = caps.map segmentOf ∧ (caps.map Prod.fst).Nodup ∧
        HasCaps read caps final := by
  constructor
  · intro h
    obtain ⟨caps, rfl, hnodup, hcaps, hother⟩ := h.caps
    exact ⟨caps, rfl, hnodup, fun c hc => (hcaps c hc).2, hother⟩
  · rintro ⟨caps, rfl, hnodup, hcaps⟩
    exact reads_of_caps hnodup (fun c hc => ⟨rfl, hcaps.present c hc⟩) hcaps.absent

/-- Texts that all read leave caps. -/
theorem exists_hasCaps {caps : List (Axis × PyStr)} (hnodup : (caps.map Prod.fst).Nodup)
    (h : ∀ c ∈ caps, ∃ a, read c.2 = some a) : ∃ final, HasCaps read caps final := by
  refine ⟨fun axis => (caps.find? fun c => c.1 = axis).bind fun c => read c.2, ?_, ?_⟩
  · intro c hc
    obtain ⟨a, ha⟩ := h c hc
    refine ⟨a, ha, ?_⟩
    cases hfind : caps.find? fun d => d.1 = c.1 with
    | none => exact absurd (decide_eq_true (rfl : c.1 = c.1)) (List.find?_eq_none.mp hfind c hc)
    | some d =>
        have hd : d.1 = c.1 := by simpa using List.find?_some hfind
        rw [List.inj_on_of_nodup_map hnodup (List.mem_of_find?_eq_some hfind) hc hd]
        exact ha
  · intro axis haxis
    have hfind : (caps.find? fun c => c.1 = axis) = none := by
      refine List.find?_eq_none.mpr fun c hc => ?_
      rw [decide_eq_true_eq]
      rintro rfl
      exact haxis (List.mem_map_of_mem hc)
    rw [hfind]
    rfl

/-- A loop that reads segments: what it does with none, with a cap, and with anything else. -/
structure CapLoop {σ ε : Type} (read : PyStr → Option α) (asset : σ → PyStr)
    (capOf : σ → Axis → Option α) (withCap : σ → α → Axis → σ)
    (loop : σ → List PyStr → Except ε σ) : Prop where
  ext : ∀ s t, asset s = asset t → capOf s = capOf t → s = t
  asset_withCap : ∀ s a axis, asset (withCap s a axis) = asset s
  cap_withCap : ∀ s a axis, capOf (withCap s a axis) = Function.update (capOf s) axis (some a)
  nil_ok : ∀ s, loop s [] = .ok s
  cons_ok : ∀ s t axis text segments, loop s (segmentOf (axis, text) :: segments) = .ok t ↔
    capOf s axis = none ∧ ∃ a, read text = some a ∧ loop (withCap s a axis) segments = .ok t
  segment : ∀ s t segment segments, loop s (segment :: segments) = .ok t →
    ∃ c, segment = segmentOf c

/-- **SUCH A LOOP READS** the segments, and keeps the asset. -/
theorem CapLoop.ok_iff {σ ε : Type} {asset : σ → PyStr} {capOf : σ → Axis → Option α}
    {withCap : σ → α → Axis → σ} {loop : σ → List PyStr → Except ε σ}
    (L : CapLoop read asset capOf withCap loop) {start parsed : σ} {segments : List PyStr} :
    loop start segments = .ok parsed ↔
      asset parsed = asset start ∧ Reads read (capOf start) segments (capOf parsed) := by
  constructor
  · intro h
    induction segments generalizing start with
    | nil =>
        cases (L.nil_ok start).symm.trans h
        exact ⟨rfl, .done _⟩
    | cons segment segments ih =>
        obtain ⟨⟨axis, text⟩, rfl⟩ := L.segment _ _ _ _ h
        obtain ⟨hnone, a, ha, h⟩ := (L.cons_ok _ _ _ _ _).mp h
        obtain ⟨hasset, hreads⟩ := ih h
        rw [L.cap_withCap] at hreads
        exact ⟨hasset.trans (L.asset_withCap start a axis),
          .cap _ _ axis text a segments hnone ha hreads⟩
  -- the caps are generalised, so that the derivation is what the induction is on
  · rintro ⟨hasset, hreads⟩
    generalize hstart : capOf start = caps at hreads
    generalize hfinal : capOf parsed = final at hreads
    induction hreads generalizing start with
    | done caps =>
        rw [L.ext parsed start hasset (hfinal.trans hstart.symm)]
        exact L.nil_ok start
    | cap caps final axis text a segments hnone hread _ ih =>
        refine (L.cons_ok _ _ _ _ _).mpr ⟨by rw [hstart, hnone], a, hread, ?_⟩
        refine ih (hasset.trans (L.asset_withCap start a axis).symm) ?_ hfinal
        rw [L.cap_withCap, hstart]

end Reads

/-- A cap starts with the prefix of its axis. -/
theorem isPrefixOf_segmentOf (axis : Axis) (text : PyStr) :
    (axisPrefix axis).isPrefixOf (segmentOf (axis, text)) = true :=
  List.isPrefixOf_iff_prefix.mpr (List.prefix_append _ _)

/-- Behind the prefix stands the amount. -/
theorem drop_segmentOf (axis : Axis) (text : PyStr) :
    (segmentOf (axis, text)).drop (axisPrefix axis).length = text :=
  List.drop_left

theorem isPrefixOf_tx (text : PyStr) : txCapPrefix.isPrefixOf (segmentOf (.tx, text)) = true :=
  isPrefixOf_segmentOf .tx text

theorem isPrefixOf_total (text : PyStr) :
    totalCapPrefix.isPrefixOf (segmentOf (.total, text)) = true :=
  isPrefixOf_segmentOf .total text

theorem drop_tx (text : PyStr) : (segmentOf (.tx, text)).drop txCapPrefix.length = text :=
  drop_segmentOf .tx text

theorem drop_total (text : PyStr) : (segmentOf (.total, text)).drop totalCapPrefix.length = text :=
  drop_segmentOf .total text

/-- No segment is a cap on both axes. -/
theorem not_isPrefixOf_total (text : PyStr) :
    txCapPrefix.isPrefixOf (segmentOf (.total, text)) = false := rfl

/-- What starts with the prefix of an axis is a cap on it. -/
theorem exists_segmentOf {axis : Axis} {segment : PyStr}
    (h : (axisPrefix axis).isPrefixOf segment = true) : ∃ c, segment = segmentOf c := by
  obtain ⟨text, rfl⟩ := List.isPrefixOf_iff_prefix.mp h
  exact ⟨(axis, text), rfl⟩

/-! ## The segments of a text -/

/-- The parser looks at a text whose first segment is `pay`. -/
theorem isSpendScope_iff_splitOn {s : PyStr} :
    isSpendScope s = true ↔ ∃ rest, s.splitOn (codePoint ':') = spendPrefix :: rest := by
  obtain ⟨rest, hsplit⟩ := splitOn_eq_takeWhile_cons (codePoint ':') s
  rw [hsplit, isSpendScope, decide_eq_true_eq]
  exact ⟨fun h => ⟨rest, by rw [h]⟩, fun ⟨_, h⟩ => (List.cons.inj h).1⟩

/-- No prefix of an axis has a colon, so none is split. -/
theorem colon_notMem_axisPrefix (axis : Axis) : codePoint ':' ∉ axisPrefix axis := by
  cases axis <;> decide

section Segments

variable {assets amounts : Language CodePoint} {s asset : PyStr} {caps : List (Axis × PyStr)}

/-- A text that is spelled splits into `pay`, the asset and its caps. -/
theorem Spells.splitOn (h : Spells assets amounts s asset caps)
    (hassets : ∀ w ∈ assets, codePoint ':' ∉ w) (hamounts : ∀ w ∈ amounts, codePoint ':' ∉ w) :
    s.splitOn (codePoint ':') = spendPrefix :: asset :: caps.map segmentOf := by
  rw [h.text, ← join_segments]
  refine List.splitOn_intercalate _ (fun piece hpiece => ?_) (List.cons_ne_nil _ _)
  rcases List.mem_cons.mp hpiece with rfl | hpiece
  · decide
  rcases List.mem_cons.mp hpiece with rfl | hpiece
  · exact hassets _ h.asset_mem
  obtain ⟨c, hc, rfl⟩ := List.mem_map.mp hpiece
  rw [segmentOf, List.mem_append, not_or]
  exact ⟨colon_notMem_axisPrefix c.1, hamounts _ (h.amount_mem c hc).1⟩

/-- A text that splits that way is spelled, if the pieces are of the two languages. -/
theorem spells_of_splitOn
    (hsplit : s.splitOn (codePoint ':') = spendPrefix :: asset :: caps.map segmentOf)
    (hasset : asset ∈ assets) (hnodup : (caps.map Prod.fst).Nodup)
    (hamounts : ∀ c ∈ caps, c.2 ∈ amounts ∧ c.2.length ≤ maxAmountChars) :
    Spells assets amounts s asset caps := by
  refine ⟨?_, hasset, hnodup, hamounts⟩
  have hjoin : [codePoint ':'].intercalate (s.splitOn (codePoint ':')) = s :=
    List.intercalate_splitOn _
  rw [hsplit, join_segments] at hjoin
  exact hjoin.symm

/-- **A TEXT IS SPELLED** by its segments and the caps a loop reads from them. -/
theorem spells_iff_reads {α : Type} {read : PyStr → Option α} {final : Axis → Option α}
    (hassets : ∀ w ∈ assets, codePoint ':' ∉ w) (hamounts : ∀ w ∈ amounts, codePoint ':' ∉ w)
    (hread : ∀ text, (∃ a, read text = some a) ↔ text ∈ amounts ∧ text.length ≤ maxAmountChars) :
    (∃ segments, s.splitOn (codePoint ':') = spendPrefix :: asset :: segments ∧ asset ∈ assets ∧
        Reads read (fun _ => none) segments final) ↔
      ∃ caps, Spells assets amounts s asset caps ∧ HasCaps read caps final := by
  constructor
  · rintro ⟨segments, hsplit, hasset, hreads⟩
    obtain ⟨caps, rfl, hnodup, hcaps⟩ := reads_iff.mp hreads
    refine ⟨caps, spells_of_splitOn hsplit hasset hnodup fun c hc => ?_, hcaps⟩
    obtain ⟨a, ha, -⟩ := hcaps.present c hc
    exact (hread c.2).mp ⟨a, ha⟩
  · rintro ⟨caps, hspells, hcaps⟩
    exact ⟨_, hspells.splitOn hassets hamounts, hspells.asset_mem,
      reads_iff.mpr ⟨caps, rfl, hspells.distinct, hcaps⟩⟩

end Segments

/-! ## What the parser accepts -/

/-- The amount a text stands for, if any. -/
def amountOf (text : PyStr) : Option Decimal := (parseAmount text).toOption

/-- The amount is the one the parser returns. -/
theorem amountOf_eq_some_iff {text : PyStr} {d : Decimal} :
    amountOf text = some d ↔ parseAmount text = .ok d :=
  toOption_eq_some_iff

/-- The scope with one more cap. -/
def withCap (s : SpendScope) (d : Decimal) : Axis → SpendScope
  | .tx => { s with txCap := some d }
  | .total => { s with totalCap := some d }

/-- The loop of the parser, cap by cap. -/
theorem capLoop_parseCaps (scope : PyStr) :
    CapLoop amountOf SpendScope.asset cap withCap (parseCaps scope) where
  ext := by
    rintro ⟨asset, tx, total⟩ ⟨asset', tx', total'⟩ hasset hcaps
    cases hasset
    cases (congrFun hcaps .tx : tx = tx')
    cases (congrFun hcaps .total : total = total')
    rfl
  asset_withCap s d axis := by cases axis <;> rfl
  cap_withCap s d axis := by
    funext other
    cases axis <;> cases other <;> rfl
  nil_ok _ := rfl
  cons_ok s t axis text segments := by
    simp only [amountOf_eq_some_iff]
    rw [parseCaps]
    cases axis with
    | tx =>
        rw [if_pos (isPrefixOf_tx text), seq_ok_iff, raiseIf_ok_iff, not_not, bind_ok_iff, drop_tx]
        rfl
    | total =>
        rw [not_isPrefixOf_total, if_neg Bool.false_ne_true, if_pos (isPrefixOf_total text),
          seq_ok_iff, raiseIf_ok_iff, not_not, bind_ok_iff, drop_total]
        rfl
  segment s t segment segments h := by
    simp only [parseCaps] at h
    split_ifs at h with htx htotal
    · exact @exists_segmentOf .tx _ htx
    · exact @exists_segmentOf .total _ htotal
    · cases h

/-- What Python's `$` makes of the patterns. -/
abbrev looseAsset : Language CodePoint := endsLine newline assetPattern

abbrev looseAmount : Language CodePoint := endsLine newline amountPattern

/-- The asset pattern has no line feed. -/
theorem newline_notMem_asset : ∀ w ∈ assetPattern, newline ∉ w :=
  fun _ => notMem_of_assetPattern (by decide) (by decide)

/-- The amount pattern has no line feed. -/
theorem newline_notMem_amount : ∀ w ∈ amountPattern, newline ∉ w :=
  fun _ => notMem_of_amountPattern (by decide) (by decide)

/-- The line feed `$` allows brings no other character. -/
theorem notMem_endsLine {c : CodePoint} (hc : c ≠ newline) {L : Language CodePoint}
    (hL : ∀ w ∈ L, c ∉ w) : ∀ w ∈ endsLine newline L, c ∉ w := by
  intro w hw
  rcases mem_endsLine.mp hw with hw | ⟨v, hv, rfl⟩
  · exact hL w hw
  · rw [List.mem_append, not_or, List.mem_singleton]
    exact ⟨hL v hv, hc⟩

theorem colon_notMem_looseAsset : ∀ w ∈ looseAsset, codePoint ':' ∉ w :=
  notMem_endsLine (by decide) fun _ => notMem_of_assetPattern (by decide) (by decide)

theorem colon_notMem_looseAmount : ∀ w ∈ looseAmount, codePoint ':' ∉ w :=
  notMem_endsLine (by decide) fun _ => notMem_of_amountPattern (by decide) (by decide)

/-- The parser's test of an asset is the pattern, with the line feed `$` allows. -/
theorem matchesAsset_iff {s : PyStr} : matchesAsset s = true ↔ s ∈ looseAsset :=
  (mem_assetPattern_iff.symm).trans (mem_endsLine_iff_chomp newline_notMem_asset).symm

/-- An amount is read from at most 40 characters, by its digits. -/
theorem parseAmount_ok_iff_digits {text : PyStr} {d : Decimal} :
    parseAmount text = .ok d ↔ text.length ≤ maxAmountChars ∧
      ∃ whole fraction, digits? (chomp text) = some (whole, fraction) ∧
        d = decimalOf whole fraction := by
  unfold parseAmount
  rw [seq_ok_iff, raiseIf_ok_iff, not_lt, amountDigits?_eq]
  refine and_congr_right fun _ => ?_
  cases hdigits : digits? (chomp text) with
  | none =>
      refine ⟨fun h => ?_, fun ⟨_, _, h, _⟩ => absurd h.symm (Option.some_ne_none _)⟩
      cases h
  | some parts =>
      obtain ⟨whole, fraction⟩ := parts
      refine ⟨fun h => ⟨whole, fraction, rfl, (Except.ok.inj h).symm⟩, ?_⟩
      rintro ⟨_, _, h, rfl⟩
      cases h
      rfl

/-- **AN AMOUNT PARSES** when it has at most 40 characters and the pattern matches. -/
theorem exists_amount_iff {text : PyStr} :
    (∃ d, parseAmount text = .ok d) ↔ text ∈ looseAmount ∧ text.length ≤ maxAmountChars := by
  rw [mem_endsLine_iff_chomp newline_notMem_amount, mem_amountPattern_iff]
  constructor
  · rintro ⟨d, hd⟩
    obtain ⟨hlen, whole, fraction, hdigits, -⟩ := parseAmount_ok_iff_digits.mp hd
    exact ⟨⟨_, hdigits⟩, hlen⟩
  · rintro ⟨⟨⟨whole, fraction⟩, hdigits⟩, hlen⟩
    exact ⟨_, parseAmount_ok_iff_digits.mpr ⟨hlen, whole, fraction, hdigits, rfl⟩⟩

/-- **WHAT THE PARSER ACCEPTS**, and what it returns. -/
theorem parseSpendScope_ok_iff {s : PyStr} {p : SpendScope} :
    parseSpendScope s = .ok p ↔
      ∃ caps, Spells looseAsset looseAmount s p.asset caps ∧ HasCaps amountOf caps (cap p) := by
  have hstart : ∀ asset, cap ⟨asset, none, none⟩ = fun _ => none := by
    intro asset
    funext axis
    cases axis <;> rfl
  have hread : ∀ text, (∃ a, amountOf text = some a) ↔
      text ∈ looseAmount ∧ text.length ≤ maxAmountChars := fun text =>
    (exists_congr fun _ => amountOf_eq_some_iff).trans exists_amount_iff
  rw [← spells_iff_reads colon_notMem_looseAsset colon_notMem_looseAmount hread]
  simp only [parseSpendScope]
  rw [seq_ok_iff, raiseIf_ok_iff, Bool.not_eq_false, isSpendScope_iff_splitOn]
  constructor
  · rintro ⟨⟨rest, hsplit⟩, h⟩
    rw [hsplit] at h
    cases rest with
    -- `pay` alone names no asset
    | nil => cases h
    | cons asset segments =>
        rw [seq_ok_iff, seq_ok_iff, raiseIf_ok_iff, raiseIf_ok_iff, Bool.not_eq_false,
          (capLoop_parseCaps s).ok_iff, hstart] at h
        obtain ⟨-, hasset, heq, hreads⟩ := h
        rw [heq]
        exact ⟨segments, hsplit, matchesAsset_iff.mp hasset, hreads⟩
  · rintro ⟨segments, hsplit, hasset, hreads⟩
    refine ⟨⟨_, hsplit⟩, ?_⟩
    have hmatch := matchesAsset_iff.mpr hasset
    have hne : p.asset ≠ [] := by
      intro hnil
      rw [hnil] at hmatch
      exact absurd hmatch (by decide)
    rw [hsplit, seq_ok_iff, seq_ok_iff, raiseIf_ok_iff, raiseIf_ok_iff, Bool.not_eq_false,
      (capLoop_parseCaps s).ok_iff, hstart]
    exact ⟨hne, hmatch, rfl, hreads⟩

/-! ## Segments and line feeds -/

theorem less_notMem_looseAsset : ∀ w ∈ looseAsset, codePoint '<' ∉ w :=
  notMem_endsLine (by decide) fun _ => notMem_of_assetPattern (by decide) (by decide)

/-- The text has a segment for the axis. -/
def HasSegment (s : PyStr) (axis : Axis) : Prop :=
  ∃ segment ∈ s.splitOn (codePoint ':'), axisPrefix axis <+: segment

/-- A cap starts with the prefix of its own axis only. -/
theorem isAxis_of_prefix {axis : Axis} {c : Axis × PyStr} (h : axisPrefix axis <+: segmentOf c) :
    c.1 = axis := by
  obtain ⟨axis', text⟩ := c
  obtain ⟨rest, hrest⟩ := h
  cases axis <;> cases axis'
  · rfl
  · exact absurd (List.cons.inj (List.cons.inj hrest).2).1 (by decide)
  · exact absurd (List.cons.inj (List.cons.inj hrest).2).1 (by decide)
  · rfl

/-- A text has a segment for the axes it has caps on. -/
theorem Spells.hasSegment_iff {s asset : PyStr} {caps : List (Axis × PyStr)}
    (h : Spells looseAsset looseAmount s asset caps) (axis : Axis) :
    HasSegment s axis ↔ axis ∈ caps.map Prod.fst := by
  simp only [HasSegment]
  rw [h.splitOn colon_notMem_looseAsset colon_notMem_looseAmount]
  constructor
  · rintro ⟨segment, hmem, hprefix⟩
    rcases List.mem_cons.mp hmem with rfl | hmem
    · cases axis <;> exact absurd hprefix (by decide)
    rcases List.mem_cons.mp hmem with rfl | hmem
    · -- the prefix has a `<`, and no asset has
      have hmem : codePoint '<' ∈ segment := hprefix.subset (by cases axis <;> decide)
      exact absurd hmem (less_notMem_looseAsset segment h.asset_mem)
    · obtain ⟨c, hc, rfl⟩ := List.mem_map.mp hmem
      exact isAxis_of_prefix hprefix ▸ List.mem_map_of_mem hc
  · intro hmem
    obtain ⟨c, hc, rfl⟩ := List.mem_map.mp hmem
    exact ⟨segmentOf c, List.mem_cons_of_mem _ (List.mem_cons_of_mem _ (List.mem_map_of_mem hc)),
      List.prefix_append _ _⟩

/-- Nothing is taken from a text without a line feed. -/
theorem chomp_of_notMem {s : PyStr} (h : newline ∉ s) : chomp s = s :=
  if_neg fun hlast => h (List.mem_of_getLast? hlast)

/-- A word without a line feed is of the pattern itself. -/
theorem mem_of_endsLine {L : Language CodePoint} {w : PyStr} (h : w ∈ endsLine newline L)
    (hnewline : newline ∉ w) : w ∈ L := by
  rcases mem_endsLine.mp h with h | ⟨v, -, rfl⟩
  · exact h
  · exact absurd (List.mem_append_right v (List.mem_singleton_self newline)) hnewline

theorem newline_notMem_axisPrefix (axis : Axis) : newline ∉ axisPrefix axis := by
  cases axis <;> decide

/-- No scope of the grammar has a line feed. -/
theorem newline_notMem_of_inGrammar {s : PyStr} (h : InGrammar s) : newline ∉ s := by
  obtain ⟨asset, caps, h⟩ := h
  rw [h.text, List.mem_append, List.mem_append, List.mem_flatMap]
  -- in `pay:`, in the asset, or in one of the caps
  rintro ((hmem | hmem) | ⟨c, hc, hmem⟩)
  · exact absurd hmem (by decide)
  · exact newline_notMem_asset asset h.asset_mem hmem
  · rcases List.mem_cons.mp hmem with hcolon | hmem
    · exact absurd hcolon (by decide)
    rcases List.mem_append.mp hmem with hmem | hmem
    · exact newline_notMem_axisPrefix c.1 hmem
    · exact newline_notMem_amount c.2 (h.amount_mem c hc).1 hmem

/-- **WITHOUT A LINE FEED** the parser's grammar is the grammar. -/
theorem InLooseGrammar.inGrammar {s : PyStr} (h : InLooseGrammar s) (hnewline : newline ∉ s) :
    InGrammar s := by
  obtain ⟨asset, caps, h⟩ := h
  have htext : ∀ c, c ∉ s → c ∉ asset ∧ ∀ x ∈ caps, c ∉ x.2 := by
    intro c hc
    rw [h.text, List.mem_append, List.mem_append, not_or, not_or, List.mem_flatMap] at hc
    refine ⟨hc.1.2, fun x hx hmem => hc.2 ⟨x, hx, ?_⟩⟩
    exact List.mem_cons_of_mem _ (List.mem_append_right _ hmem)
  obtain ⟨hasset, hamounts⟩ := htext newline hnewline
  exact ⟨asset, caps, h.mono (mem_of_endsLine h.asset_mem hasset)
    fun c hc => mem_of_endsLine (h.amount_mem c hc).1 (hamounts c hc)⟩

end AgentSpendGrammar
