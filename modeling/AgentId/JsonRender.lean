import Mathlib.Data.List.Forall2
import AgentId.Normalization

/-!
# Reading canonical text as a whole

Every canonical form of this repository writes a value the same way but for its string tokens.
`render tok` is that text with the tokens left open, and the text is shown to determine the
value up to what the tokens identify.

* **`render_append_iff`** — two texts with tokens of their own, followed by whatever may follow a
  value, are the same exactly when the values match: same shape, same numbers, and tokens that
  read the same at every string and key.
* **`nfc_dumps`** — normalised canonical text is rendered text, each token normalised by itself.
-/

namespace AgentJsonRender

open AgentRaises AgentPy AgentJson AgentCanonicalText AgentNormalization

/-! ## Values -/

/-- Induction over a value, through arrays and objects. -/
theorem json_induction {motive : Json → Prop} (null : motive .null) (bool : ∀ b, motive (.bool b))
    (int : ∀ n, motive (.int n)) (float : ∀ bits, motive (.float bits))
    (str : ∀ s, motive (.str s))
    (arr : ∀ items, (∀ v ∈ items, motive v) → motive (.arr items))
    (obj : ∀ members, (∀ m ∈ members, motive m.2) → motive (.obj members)) : ∀ v, motive v
  | .null => null
  | .bool b => bool b
  | .int n => int n
  | .float bits => float bits
  | .str s => str s
  | .arr items => arr items fun v hv =>
      have := List.sizeOf_lt_of_mem hv
      json_induction null bool int float str arr obj v
  | .obj members => obj members fun m hm =>
      have h1 := List.sizeOf_lt_of_mem hm
      have h2 : sizeOf m.2 < sizeOf m := by
        cases m
        simp
      json_induction null bool int float str arr obj m.2

/-- A value without floats. -/
inductive FloatFree : Json → Prop where
  | null : FloatFree .null
  | bool (b : Bool) : FloatFree (.bool b)
  | int (n : Int) : FloatFree (.int n)
  | str (s : PyStr) : FloatFree (.str s)
  | arr {items : List Json} : (∀ v ∈ items, FloatFree v) → FloatFree (.arr items)
  | obj {members : Members} : (∀ m ∈ members, FloatFree m.2) → FloatFree (.obj members)

/-- An array passes when its items do. -/
theorem rejectFloatsItems_ok_iff {items : List Json} :
    rejectFloatsItems items = .ok () ↔ ∀ v ∈ items, rejectFloats v = .ok () := by
  induction items with
  | nil => exact ⟨fun _ v hv => absurd hv List.not_mem_nil, fun _ => by rw [rejectFloatsItems]⟩
  | cons v items ih => rw [rejectFloatsItems, seq_ok_iff, ih, List.forall_mem_cons]

/-- An object passes when its values do. -/
theorem rejectFloatsMembers_ok_iff {members : Members} :
    rejectFloatsMembers members = .ok () ↔ ∀ m ∈ members, rejectFloats m.2 = .ok () := by
  induction members with
  | nil => exact ⟨fun _ m hm => absurd hm List.not_mem_nil, fun _ => by rw [rejectFloatsMembers]⟩
  | cons m members ih =>
      obtain ⟨k, v⟩ := m
      rw [rejectFloatsMembers, seq_ok_iff, ih, List.forall_mem_cons]

/-- What `_reject_floats` lets through. -/
theorem rejectFloats_ok_iff {v : Json} : rejectFloats v = .ok () ↔ FloatFree v := by
  induction v using json_induction with
  | null => exact ⟨fun _ => .null, fun _ => rfl⟩
  | bool b => exact ⟨fun _ => .bool b, fun _ => rfl⟩
  | int n => exact ⟨fun _ => .int n, fun _ => rfl⟩
  | float bits =>
      constructor
      · intro h
        cases h
      · intro h
        cases h
  | str s => exact ⟨fun _ => .str s, fun _ => rfl⟩
  | arr items ih =>
      rw [rejectFloats, rejectFloatsItems_ok_iff]
      constructor
      · exact fun h => .arr fun v hv => (ih v hv).mp (h v hv)
      · intro h v hv
        cases h with
        | arr hitems => exact (ih v hv).mpr (hitems v hv)
  | obj members ih =>
      rw [rejectFloats, rejectFloatsMembers_ok_iff]
      constructor
      · exact fun h => .obj fun m hm => (ih m hm).mp (h m hm)
      · intro h m hm
        cases h with
        | obj hmembers => exact (ih m hm).mpr (hmembers m hm)

/-- A float raises a `ValueError`. -/
theorem rejectFloats_error {v : Json} :
    Raises (fun e => e.cls = .valueError) (rejectFloats v) := by
  induction v using json_induction with
  | null | bool | int | str => exact raises_ok ()
  | float bits => exact raises_error_iff.mpr rfl
  | arr items ih =>
      rw [rejectFloats]
      induction items with
      | nil => exact raises_ok ()
      | cons v items ihItems =>
          rw [rejectFloatsItems]
          refine (ih v List.mem_cons_self).bind fun _ _ => ?_
          exact ihItems fun w hw => ih w (List.mem_cons_of_mem v hw)
  | obj members ih =>
      rw [rejectFloats]
      induction members with
      | nil => exact raises_ok ()
      | cons m members ihMembers =>
          rw [rejectFloatsMembers]
          refine (ih m List.mem_cons_self).bind fun _ _ => ?_
          exact ihMembers fun w hw => ih w (List.mem_cons_of_mem m hw)

/-! ## Text with the tokens left open -/

mutual

/-- The text of a value, each string written by `tok`. -/
def render (tok : PyStr → PyStr) : Json → PyStr
  | .null => py "null"
  | .bool true => py "true"
  | .bool false => py "false"
  | .int n => intText n
  | .float _ => []
  | .str s => tok s
  | .arr items => py "[" ++ (py ",").intercalate (renderItems tok items) ++ py "]"
  | .obj members =>
      py "\x7b" ++ (py ",").intercalate
        ((sortKeys (renderMembers tok members)).map fun m => tok m.1 ++ py ":" ++ m.2) ++ py "\x7d"

def renderItems (tok : PyStr → PyStr) : List Json → List PyStr
  | [] => []
  | v :: items => render tok v :: renderItems tok items

def renderMembers (tok : PyStr → PyStr) : List (PyStr × Json) → List (PyStr × PyStr)
  | [] => []
  | (k, v) :: members => (k, render tok v) :: renderMembers tok members

end

variable {tok : PyStr → PyStr}

theorem renderItems_eq_map (items : List Json) : renderItems tok items = items.map (render tok) := by
  induction items with
  | nil => rw [renderItems, List.map_nil]
  | cons v items ih => rw [renderItems, ih, List.map_cons]

theorem renderMembers_eq_map (members : Members) :
    renderMembers tok members = members.map fun m => (m.1, render tok m.2) := by
  induction members with
  | nil => rw [renderMembers, List.map_nil]
  | cons m members ih =>
      obtain ⟨k, v⟩ := m
      rw [renderMembers, ih, List.map_cons]

/-- Sorting looks at nothing but the keys. -/
theorem sortKeys_map {α β : Type} (f : α → β) (members : List (PyStr × α)) :
    sortKeys (members.map fun m => (m.1, f m.2)) = (sortKeys members).map fun m => (m.1, f m.2) :=
  (List.map_insertionSort _ _ (fun m : PyStr × α => (m.1, f m.2)) members
    fun _ _ _ _ => Iff.rfl).symm

/-- Sorting keeps the members. -/
theorem mem_sortKeys {α : Type} {members : List (PyStr × α)} {m : PyStr × α} :
    m ∈ sortKeys members ↔ m ∈ members :=
  (List.perm_insertionSort _ _).mem_iff

/-- The text of one member. -/
def renderMember (tok : PyStr → PyStr) (m : PyStr × Json) : PyStr :=
  tok m.1 ++ py ":" ++ render tok m.2

/-- An array is its items between brackets. -/
theorem render_arr (items : List Json) : render tok (.arr items)
    = py "[" ++ (py ",").intercalate (items.map (render tok)) ++ py "]" := by
  rw [render, renderItems_eq_map]

/-- An object is its members, sorted, between braces. -/
theorem render_obj (members : Members) : render tok (.obj members)
    = py "\x7b" ++ (py ",").intercalate ((sortKeys members).map (renderMember tok))
      ++ py "\x7d" := by
  rw [render, renderMembers_eq_map, sortKeys_map, List.map_map]
  rfl

/-- `json.dumps` is rendered text. -/
theorem dumps_eq_render (v : Json) : dumps v = render quoted v := by
  induction v using json_induction with
  | null => rw [dumps, render]
  | bool b => cases b <;> rw [dumps, render]
  | int n => rw [dumps, render]
  | float bits => rw [dumps, render]
  | str s => rw [dumps, render]
  | arr items ih =>
      rw [dumps, dumpsItems_eq_map, render_arr, List.map_congr_left ih]
  | obj members ih =>
      rw [dumps, dumpsMembers_eq_map, sortKeys_map, render_obj, List.map_map]
      refine congrArg (fun l => py "\x7b" ++ (py ",").intercalate l ++ py "\x7d")
        (List.map_congr_left fun m hm => ?_)
      show quoted m.1 ++ py ":" ++ dumps m.2 = quoted m.1 ++ py ":" ++ render quoted m.2
      rw [ih m (mem_sortKeys.mp hm)]

/-! ## Normalised text -/

/-- A string token, normalised after it was escaped. -/
def nfcToken (nfc : PyStr → PyStr) (s : PyStr) : PyStr := quote :: (nfc (escape s) ++ [quote])

variable {nfc : PyStr → PyStr}

/-- Text between two inert characters is normalised by itself. -/
theorem nfc_bracketed (N : NfcText nfc) {c d : CodePoint} (hc : Inert c) (hd : Inert d)
    (s : PyStr) : nfc (c :: (s ++ [d])) = c :: (nfc s ++ [d]) := by
  rw [N.inert c _ hc, nfc_inert_mid N hd, N.ascii [] isAscii_nil]

/-- The normal form of a quoted string is its token. -/
theorem nfc_quoted (N : NfcText nfc) (s : PyStr) : nfc (quoted s) = nfcToken nfc s :=
  nfc_bracketed N (by decide) (by decide) (escape s)

/-- A comma separates what it stands between. -/
theorem nfc_intercalate (N : NfcText nfc) (l : List PyStr) :
    nfc ((py ",").intercalate l) = (py ",").intercalate (l.map nfc) := by
  induction l with
  | nil => exact N.ascii [] isAscii_nil
  | cons s l ih =>
      cases l with
      | nil => rw [List.intercalate_singleton, List.map_singleton, List.intercalate_singleton]
      | cons t l =>
          rw [List.intercalate_cons_cons, List.map_cons, List.map_cons,
            List.intercalate_cons_cons, ← List.map_cons, ← ih, List.append_assoc,
            List.append_assoc]
          exact nfc_inert_mid N (by decide) s _

/-- **NORMALISED CANONICAL TEXT** is rendered text. -/
theorem nfc_dumps (N : NfcText nfc) (v : Json) : nfc (dumps v) = render (nfcToken nfc) v := by
  rw [dumps_eq_render]
  induction v using json_induction with
  | null => exact N.ascii _ (by decide)
  | bool b =>
      cases b with
      | true => exact N.ascii _ (by decide)
      | false => exact N.ascii _ (by decide)
  | int n => exact N.ascii _ (isAscii_intText n)
  | float bits => exact N.ascii [] isAscii_nil
  | str s => exact nfc_quoted N s
  | arr items ih =>
      have hitems : items.map (render (nfcToken nfc)) = (items.map (render quoted)).map nfc := by
        rw [List.map_map]
        exact (List.map_congr_left ih).symm
      rw [render_arr, render_arr, hitems, ← nfc_intercalate N]
      exact nfc_bracketed N (by decide) (by decide) _
  | obj members ih =>
      have hmember : ∀ m ∈ sortKeys members,
          nfc (renderMember quoted m) = renderMember (nfcToken nfc) m := by
        intro m hm
        rw [renderMember, renderMember, ← ih m (mem_sortKeys.mp hm), ← nfc_quoted N,
          List.append_assoc, List.append_assoc]
        exact nfc_inert_mid N (c := codePoint ':') (by decide) _ _
      have hmembers : (sortKeys members).map (renderMember (nfcToken nfc))
          = ((sortKeys members).map (renderMember quoted)).map nfc := by
        rw [List.map_map]
        exact (List.map_congr_left hmember).symm
      rw [render_obj, render_obj, hmembers, ← nfc_intercalate N]
      exact nfc_bracketed N (by decide) (by decide) _

/-! ## Where a value ends -/

/-- What may stand behind a value: the end of the text, `,`, `]` or `}`. -/
def Follows (x : PyStr) : Prop := ∀ c r, x = c :: r → c ∈ py ",]\x7d"

theorem follows_nil : Follows [] := fun c r h => by cases h

theorem follows_cons {c : CodePoint} (hc : c ∈ py ",]\x7d") (r : PyStr) : Follows (c :: r) := by
  intro d r' h
  rwa [← (List.cons.inj h).1]

/-- A digit or a minus sign. -/
def IsNumeric (c : CodePoint) : Prop := c.val = 0x2D ∨ (0x30 ≤ c.val ∧ c.val ≤ 0x39)

instance isNumericDecidable (c : CodePoint) : Decidable (IsNumeric c) :=
  inferInstanceAs (Decidable (_ ∨ _))

/-- A number is written in digits. -/
theorem isNumeric_natText (n : ℕ) : ∀ c ∈ natText n, 0x30 ≤ c.val ∧ c.val ≤ 0x39 := by
  intro c hc
  obtain ⟨ch, hch, rfl⟩ := List.mem_map.mp hc
  have hdigit := Nat.isDigit_of_mem_toDigits (by decide) (by decide) hch
  simp only [Char.isDigit, Bool.and_eq_true, decide_eq_true_eq] at hdigit
  exact hdigit

/-- An integer in digits, with a sign. -/
theorem isNumeric_intText (n : Int) : ∀ c ∈ intText n, IsNumeric c := by
  simp only [intText]
  intro c hc
  split_ifs at hc with hn
  · rcases List.mem_append.mp hc with hc | hc
    · exact Or.inl (by rw [List.mem_singleton.mp hc]; rfl)
    · exact Or.inr (isNumeric_natText _ c hc)
  · exact Or.inr (isNumeric_natText _ c hc)

theorem intText_ne_nil (n : Int) : intText n ≠ [] := by
  have hnat : ∀ m, natText m ≠ [] := fun m h => Nat.toDigits_ne_nil (List.map_eq_nil_iff.mp h)
  simp only [intText]
  split_ifs
  · exact List.append_ne_nil_of_right_ne_nil _ (hnat _)
  · exact hnat _

/-- Decimal text is read back. -/
theorem intText_inj {m n : Int} (h : intText m = intText n) : m = n := by
  have hsign : ∀ a b : ℕ, py "-" ++ natText a ≠ natText b := by
    intro a b hab
    have := isNumeric_natText b (codePoint '-') (hab ▸ List.mem_cons_self)
    exact absurd this (by decide)
  simp only [intText] at h
  split_ifs at h with hm hn hn
  · have := natText_inj (List.append_cancel_left h)
    omega
  · exact absurd h (hsign _ _)
  · exact absurd h.symm (hsign _ _)
  · have := natText_inj h
    omega

/-- A number ends where its digits do. -/
theorem intText_append {m n : Int} {x y : PyStr} (hx : Follows x) (hy : Follows y)
    (h : intText m ++ x = intText n ++ y) : m = n ∧ x = y := by
  have hsplit : ∀ a b : PyStr, (∀ c ∈ a, IsNumeric c) → (∀ c ∈ b, IsNumeric c) →
      a ++ x = b ++ y → a = b ∧ x = y := by
    have hend : ∀ (b : PyStr) (d : CodePoint) {x' y' : PyStr}, Follows x' → IsNumeric d →
        x' ≠ d :: b ++ y' := by
      intro b d x' y' hx' hd heq
      have hmem := hx' d _ heq
      have hall : (py ",]\x7d").all (fun c => decide (¬ IsNumeric c)) = true := by decide
      exact of_decide_eq_true (List.all_eq_true.mp hall d hmem) hd
    intro a
    induction a with
    | nil =>
        intro b _ hb heq
        cases b with
        | nil => exact ⟨rfl, heq⟩
        | cons d b => exact absurd heq (hend b d hx (hb d List.mem_cons_self))
    | cons c a ih =>
        intro b ha hb heq
        cases b with
        | nil => exact absurd heq.symm (hend a c hy (ha c List.mem_cons_self))
        | cons d b =>
            obtain ⟨hcd, hrest⟩ := List.cons.inj heq
            obtain ⟨hab, hxy⟩ := ih b (fun e he => ha e (List.mem_cons_of_mem _ he))
              (fun e he => hb e (List.mem_cons_of_mem _ he)) hrest
            exact ⟨by rw [hcd, hab], hxy⟩
  obtain ⟨htext, hxy⟩ := hsplit _ _ (isNumeric_intText m) (isNumeric_intText n) h
  exact ⟨intText_inj htext, hxy⟩

/-! ## What a value's first character announces -/

def kindOfChar (c : CodePoint) : ℕ :=
  if c = codePoint 'n' then 0
  else if c = codePoint 't' then 1
  else if c = codePoint 'f' then 2
  else if c = quote then 3
  else if c = codePoint '[' then 4
  else if c.val = 0x7B then 5
  else if IsNumeric c then 6
  else 7

def kind : Json → ℕ
  | .null => 0
  | .bool true => 1
  | .bool false => 2
  | .str _ => 3
  | .arr _ => 4
  | .obj _ => 5
  | .int _ => 6
  | .float _ => 7

theorem kindOfChar_numeric {c : CodePoint} (h : IsNumeric c) : kindOfChar c = 6 := by
  have hne : ∀ d : CodePoint, ¬ IsNumeric d → c ≠ d := fun d hd hcd => hd (hcd ▸ h)
  simp only [kindOfChar]
  rw [if_neg (hne _ (by decide)), if_neg (hne _ (by decide)), if_neg (hne _ (by decide)),
    if_neg (hne _ (by decide)), if_neg (hne _ (by decide)), if_neg, if_pos h]
  intro h7b
  simp only [IsNumeric] at h
  omega

/-- String tokens begin with a quote. -/
def Quotes (tok : PyStr → PyStr) : Prop := ∀ s, ∃ b, tok s = quote :: b

/-- The first character of a value says of which kind it is. -/
theorem render_head (htok : Quotes tok) {v : Json} (hv : FloatFree v) :
    ∃ c r, render tok v = c :: r ∧ kindOfChar c = kind v := by
  cases hv with
  | null => exact ⟨_, _, rfl, by decide⟩
  | bool b =>
      cases b with
      | true => exact ⟨_, _, rfl, by decide⟩
      | false => exact ⟨_, _, rfl, by decide⟩
  | int n =>
      obtain ⟨c, r, heq⟩ := List.exists_cons_of_ne_nil (intText_ne_nil n)
      exact ⟨c, r, heq, kindOfChar_numeric (isNumeric_intText n c (heq ▸ List.mem_cons_self))⟩
  | str s =>
      obtain ⟨b, hb⟩ := htok s
      exact ⟨quote, b, hb, (by decide : kindOfChar quote = 3)⟩
  | arr _ => exact ⟨codePoint '[', _, render_arr _, (by decide : kindOfChar (codePoint '[') = 4)⟩
  | obj _ => exact ⟨0x7B, _, render_obj _, (by decide : kindOfChar 0x7B = 5)⟩

theorem kind_lt {v : Json} (hv : FloatFree v) : kind v < 7 := by
  cases hv with
  | null => decide
  | bool b => cases b <;> decide
  | int n => show 6 < 7; decide
  | str s => show 3 < 7; decide
  | arr _ => show 4 < 7; decide
  | obj _ => show 5 < 7; decide

/-- A value does not begin with what may follow one. -/
theorem render_starts (htok : Quotes tok) {v : Json} (hv : FloatFree v) :
    ∃ c r, render tok v = c :: r ∧ c ∉ py ",]\x7d" := by
  obtain ⟨c, r, heq, hkind⟩ := render_head htok hv
  refine ⟨c, r, heq, fun hc => ?_⟩
  have hall : (py ",]\x7d").all (fun d => decide (kindOfChar d = 7)) = true := by decide
  have := of_decide_eq_true (List.all_eq_true.mp hall c hc)
  have := kind_lt hv
  omega

/-! ## Values that read the same -/

/-- Same shape and numbers; strings, and keys in the order they are written, related by `same`. -/
inductive Matches (same : PyStr → PyStr → Prop) : Json → Json → Prop where
  | null : Matches same .null .null
  | bool (b : Bool) : Matches same (.bool b) (.bool b)
  | int (n : Int) : Matches same (.int n) (.int n)
  | str {s t : PyStr} : same s t → Matches same (.str s) (.str t)
  | arr {items items' : List Json} : items.length = items'.length →
      (∀ p ∈ items.zip items', Matches same p.1 p.2) → Matches same (.arr items) (.arr items')
  | obj {members members' : Members} :
      (sortKeys members).length = (sortKeys members').length →
      (∀ p ∈ (sortKeys members).zip (sortKeys members'), same p.1.1 p.2.1) →
      (∀ p ∈ (sortKeys members).zip (sortKeys members'), Matches same p.1.2 p.2.2) →
      Matches same (.obj members) (.obj members')

/-- Two families of tokens that can be told apart from what follows them. -/
structure TokenPair (f g : PyStr → PyStr) : Prop where
  left : Quotes f
  right : Quotes g
  closes : ∀ s t x y, f s ++ x = g t ++ y → f s = g t

/-- Scanned bodies between quotes are such tokens. -/
theorem tokenPair_of_scanned {f g : PyStr → PyStr} (hf : ∀ s, Scanned (f s))
    (hg : ∀ s, Scanned (g s)) :
    TokenPair (fun s => quote :: (f s ++ [quote])) fun s => quote :: (g s ++ [quote]) where
  left s := ⟨_, rfl⟩
  right s := ⟨_, rfl⟩
  closes s t x y h := by
    have hbody : (f s ++ [quote]) ++ x = (g t ++ [quote]) ++ y := (List.cons.inj h).2
    rw [List.append_assoc, List.append_assoc] at hbody
    show quote :: (f s ++ [quote]) = quote :: (g t ++ [quote])
    rw [((hf s).close (hg t) hbody).1]

variable {f g : PyStr → PyStr}

/-- Lists that are equal pair by pair are equal. -/
theorem map_eq_map_of_zip {α β : Type} {F : α → PyStr} {G : β → PyStr} {as : List α} {bs : List β}
    (hlen : as.length = bs.length) (h : ∀ p ∈ as.zip bs, F p.1 = G p.2) :
    as.map F = bs.map G := by
  induction as generalizing bs with
  | nil =>
      cases bs with
      | nil => rfl
      | cons b bs => cases hlen
  | cons a as ih =>
      cases bs with
      | nil => cases hlen
      | cons b bs =>
          rw [List.map_cons, List.map_cons, h (a, b) List.mem_cons_self,
            ih (Nat.succ.inj hlen) fun p hp => h p (List.mem_cons_of_mem _ hp)]

/-- Values that match have the same text. -/
theorem render_eq_of_matches {v w : Json} (h : Matches (fun s t => f s = g t) v w) :
    render f v = render g w := by
  induction h with
  | null => rw [render, render]
  | bool b => cases b <;> rw [render, render]
  | int n => rw [render, render]
  | str hst => rw [render, render, hst]
  | arr hlen _ ih => rw [render_arr, render_arr, map_eq_map_of_zip hlen ih]
  | obj hlen hkeys _ ih =>
      have hmembers := map_eq_map_of_zip (F := renderMember f) (G := renderMember g) hlen
        fun p hp => by rw [renderMember, renderMember, hkeys p hp, ih p hp]
      rw [render_obj, render_obj, hmembers]

/-! ## Reading a sequence -/

/-- **A LIST IS READ ITEM BY ITEM**, when each item can be read and none begins with what ends
    the list. -/
theorem intercalate_append {α β : Type} {F : α → PyStr} {G : β → PyStr} {R : α → β → Prop}
    {last : CodePoint} (hlast : last ∈ py ",]\x7d") (hcomma : last ≠ codePoint ',')
    {as : List α} {bs : List β}
    (hread : ∀ a ∈ as, ∀ b ∈ bs, ∀ x y, Follows x → Follows y → F a ++ x = G b ++ y →
      R a b ∧ x = y)
    (hF : ∀ a ∈ as, ∃ c r, F a = c :: r ∧ c ∉ py ",]\x7d")
    (hG : ∀ b ∈ bs, ∃ c r, G b = c :: r ∧ c ∉ py ",]\x7d") {x y : PyStr}
    (h : (py ",").intercalate (as.map F) ++ last :: x
      = (py ",").intercalate (bs.map G) ++ last :: y) :
    List.Forall₂ R as bs ∧ x = y := by
  have hsplit : ∀ (s : PyStr) (l : List PyStr) (z : PyStr),
      (py ",").intercalate (s :: l) ++ last :: z
        = s ++ (if l = [] then last :: z
          else codePoint ',' :: ((py ",").intercalate l ++ last :: z)) := by
    intro s l z
    cases l with
    | nil => rw [List.intercalate_singleton, if_pos rfl]
    | cons t l =>
        rw [List.intercalate_cons_cons, if_neg (List.cons_ne_nil _ _), List.append_assoc,
          List.append_assoc]
        rfl
  have hfollows : ∀ (l : List PyStr) (z : PyStr), Follows (if l = [] then last :: z
      else codePoint ',' :: ((py ",").intercalate l ++ last :: z)) := by
    intro l z
    split_ifs
    · exact follows_cons hlast z
    · exact follows_cons (by decide) _
  induction as generalizing bs with
  | nil =>
      cases bs with
      | nil => exact ⟨.nil, (List.cons.inj h).2⟩
      | cons b bs =>
          obtain ⟨c, r, hb, hc⟩ := hG b List.mem_cons_self
          rw [List.map_cons, hsplit, hb] at h
          exact absurd ((List.cons.inj h).1 ▸ hlast) hc
  | cons a as ih =>
      cases bs with
      | nil =>
          obtain ⟨c, r, ha, hc⟩ := hF a List.mem_cons_self
          rw [List.map_cons, hsplit, ha] at h
          exact absurd ((List.cons.inj h).1 ▸ hlast) hc
      | cons b bs =>
          rw [List.map_cons, List.map_cons, hsplit, hsplit] at h
          obtain ⟨hab, hrest⟩ := hread a List.mem_cons_self b List.mem_cons_self _ _
            (hfollows _ _) (hfollows _ _) h
          cases as with
          | nil =>
              cases bs with
              | nil => exact ⟨.cons hab .nil, (List.cons.inj hrest).2⟩
              | cons b' bs => exact absurd (List.cons.inj hrest).1 hcomma
          | cons a' as =>
              cases bs with
              | nil => exact absurd (List.cons.inj hrest).1.symm hcomma
              | cons b' bs =>
                  obtain ⟨hmore, hxy⟩ := @ih (b' :: bs)
                    (fun a ha b hb => hread a (List.mem_cons_of_mem _ ha) b
                      (List.mem_cons_of_mem _ hb))
                    (fun a ha => hF a (List.mem_cons_of_mem _ ha))
                    (fun b hb => hG b (List.mem_cons_of_mem _ hb)) (List.cons.inj hrest).2
                  exact ⟨.cons hab hmore, hxy⟩

/-! ## Reading a value -/

/-- Texts that are the same announce the same kind of value. -/
theorem kind_eq (T : TokenPair f g) {v w : Json} (hv : FloatFree v) (hw : FloatFree w)
    {x y : PyStr} (h : render f v ++ x = render g w ++ y) : kind v = kind w := by
  obtain ⟨c, r, hc, hkc⟩ := render_head T.left hv
  obtain ⟨d, q, hd, hkd⟩ := render_head T.right hw
  rw [hc, hd] at h
  rw [← hkc, ← hkd, (List.cons.inj h).1]

/-- The values of each kind. -/
theorem of_kind (w : Json) : (kind w = 0 → w = .null) ∧ (kind w = 1 → w = .bool true) ∧
    (kind w = 2 → w = .bool false) ∧ (kind w = 3 → ∃ s, w = .str s) ∧
    (kind w = 4 → ∃ items, w = .arr items) ∧ (kind w = 5 → ∃ members, w = .obj members) ∧
    (kind w = 6 → ∃ n, w = .int n) := by
  cases w with
  | bool b => cases b <;> simp [kind]
  | _ => simp [kind]

/-- No member starts with what ends one. -/
theorem renderMember_starts (htok : Quotes tok) (m : PyStr × Json) :
    ∃ c r, renderMember tok m = c :: r ∧ c ∉ py ",]\x7d" := by
  obtain ⟨b, hb⟩ := htok m.1
  refine ⟨quote, b ++ py ":" ++ render tok m.2, ?_, by decide⟩
  rw [renderMember, hb]
  rfl

/-- **AN OBJECT IS READ BACK** whatever follows it, when the values of its members are. -/
theorem matches_of_render_members (T : TokenPair f g) {members members' : Members}
    (hvalues : ∀ m ∈ members, ∀ m' ∈ members', ∀ x y, Follows x → Follows y →
      render f m.2 ++ x = render g m'.2 ++ y → Matches (fun s t => f s = g t) m.2 m'.2 ∧ x = y)
    {x y : PyStr} (h : render f (.obj members) ++ x = render g (.obj members') ++ y) :
    Matches (fun s t => f s = g t) (.obj members) (.obj members') ∧ x = y := by
  rw [render_obj, render_obj, List.append_assoc, List.append_assoc, List.append_assoc,
    List.append_assoc] at h
  have hread : ∀ m ∈ sortKeys members, ∀ m' ∈ sortKeys members', ∀ x y, Follows x →
      Follows y → renderMember f m ++ x = renderMember g m' ++ y →
        (f m.1 = g m'.1 ∧ Matches (fun s t => f s = g t) m.2 m'.2) ∧ x = y := by
    intro m hm m' hm' x y hx hy h
    rw [renderMember, renderMember, List.append_assoc, List.append_assoc, List.append_assoc,
      List.append_assoc] at h
    have hkey := T.closes m.1 m'.1 _ _ h
    rw [hkey] at h
    obtain ⟨hmatch, hxy⟩ := hvalues m (mem_sortKeys.mp hm) m' (mem_sortKeys.mp hm') x y hx hy
      (List.cons.inj (List.append_cancel_left h)).2
    exact ⟨⟨hkey, hmatch⟩, hxy⟩
  obtain ⟨hall, hxy⟩ := intercalate_append (by decide) (by decide) hread
    (fun m _ => renderMember_starts T.left m) (fun m _ => renderMember_starts T.right m)
    (List.cons.inj h).2
  obtain ⟨hlen, hzip⟩ := List.forall₂_iff_zip.mp hall
  exact ⟨.obj hlen (fun p hp => (hzip hp).1) fun p hp => (hzip hp).2, hxy⟩

/-- **A VALUE IS READ BACK** up to what its tokens identify, whatever follows it. -/
theorem matches_of_render (T : TokenPair f g) {v w : Json} (hv : FloatFree v) (hw : FloatFree w)
    {x y : PyStr} (hx : Follows x) (hy : Follows y) (h : render f v ++ x = render g w ++ y) :
    Matches (fun s t => f s = g t) v w ∧ x = y := by
  induction v using json_induction generalizing w x y with
  | null =>
      obtain rfl := (of_kind w).1 (kind_eq T hv hw h).symm
      exact ⟨.null, List.append_cancel_left h⟩
  | bool b =>
      cases b with
      | true =>
          obtain rfl := (of_kind w).2.1 (kind_eq T hv hw h).symm
          exact ⟨.bool true, List.append_cancel_left h⟩
      | false =>
          obtain rfl := (of_kind w).2.2.1 (kind_eq T hv hw h).symm
          exact ⟨.bool false, List.append_cancel_left h⟩
  | int n =>
      obtain ⟨m, rfl⟩ := (of_kind w).2.2.2.2.2.2 (kind_eq T hv hw h).symm
      rw [render, render] at h
      obtain ⟨rfl, hxy⟩ := intText_append hx hy h
      exact ⟨.int n, hxy⟩
  | float bits => cases hv
  | str s =>
      obtain ⟨t, rfl⟩ := (of_kind w).2.2.2.1 (kind_eq T hv hw h).symm
      rw [render, render] at h
      have hst := T.closes s t x y h
      rw [hst] at h
      exact ⟨.str hst, List.append_cancel_left h⟩
  | arr items ih =>
      obtain ⟨items', rfl⟩ := (of_kind w).2.2.2.2.1 (kind_eq T hv hw h).symm
      cases hv with
      | arr hitems =>
      cases hw with
      | arr hitems' =>
      rw [render_arr, render_arr, List.append_assoc, List.append_assoc, List.append_assoc,
        List.append_assoc] at h
      obtain ⟨hall, hxy⟩ := intercalate_append (R := Matches fun s t => f s = g t)
        (by decide) (by decide)
        (fun a ha b hb x y hx hy h => ih a ha (hitems a ha) (hitems' b hb) hx hy h)
        (fun a ha => render_starts T.left (hitems a ha))
        (fun b hb => render_starts T.right (hitems' b hb)) (List.cons.inj h).2
      obtain ⟨hlen, hzip⟩ := List.forall₂_iff_zip.mp hall
      exact ⟨.arr hlen fun p hp => hzip hp, hxy⟩
  | obj members ih =>
      obtain ⟨members', rfl⟩ := (of_kind w).2.2.2.2.2.1 (kind_eq T hv hw h).symm
      cases hv with
      | obj hmembers =>
      cases hw with
      | obj hmembers' =>
      exact matches_of_render_members T (fun m hm m' hm' x y hx hy h =>
        ih m hm (hmembers m hm) (hmembers' m' hm') hx hy h) h

/-- **WHERE AN OBJECT ENDS**: at its last brace, whatever follows. -/
theorem matches_of_render_obj (T : TokenPair f g) {members members' : Members}
    (hv : FloatFree (.obj members)) (hw : FloatFree (.obj members')) {x y : PyStr}
    (h : render f (.obj members) ++ x = render g (.obj members') ++ y) :
    Matches (fun s t => f s = g t) (.obj members) (.obj members') ∧ x = y := by
  cases hv with
  | obj hmembers =>
  cases hw with
  | obj hmembers' =>
  exact matches_of_render_members T (fun m hm m' hm' x y hx hy h =>
    matches_of_render T (hmembers m hm) (hmembers' m' hm') hx hy h) h

/-- **UNIQUE READING.** -/
theorem render_append_iff (T : TokenPair f g) {v w : Json} (hv : FloatFree v) (hw : FloatFree w)
    {x y : PyStr} (hx : Follows x) (hy : Follows y) :
    render f v ++ x = render g w ++ y ↔ Matches (fun s t => f s = g t) v w ∧ x = y := by
  refine ⟨matches_of_render T hv hw hx hy, ?_⟩
  rintro ⟨hmatch, rfl⟩
  rw [render_eq_of_matches hmatch]

/-- The whole text of a value. -/
theorem render_eq_iff (T : TokenPair f g) {v w : Json} (hv : FloatFree v) (hw : FloatFree w) :
    render f v = render g w ↔ Matches (fun s t => f s = g t) v w := by
  have := render_append_iff T hv hw follows_nil follows_nil
  rwa [List.append_nil, List.append_nil, and_iff_left rfl] at this

/-! ## The strings inside a value -/

/-- A property of every string and key inside a value. -/
inductive AllStrings (P : PyStr → Prop) : Json → Prop where
  | null : AllStrings P .null
  | bool (b : Bool) : AllStrings P (.bool b)
  | int (n : Int) : AllStrings P (.int n)
  | float (bits : UInt64) : AllStrings P (.float bits)
  | str {s : PyStr} : P s → AllStrings P (.str s)
  | arr {items : List Json} : (∀ v ∈ items, AllStrings P v) → AllStrings P (.arr items)
  | obj {members : Members} : (∀ m ∈ members, P m.1) → (∀ m ∈ members, AllStrings P m.2) →
      AllStrings P (.obj members)

theorem AllStrings.imp {P Q : PyStr → Prop} (h : ∀ s, P s → Q s) {v : Json}
    (hv : AllStrings P v) : AllStrings Q v := by
  induction hv with
  | null => exact .null
  | bool b => exact .bool b
  | int n => exact .int n
  | float bits => exact .float bits
  | str hs => exact .str (h _ hs)
  | arr _ ih => exact .arr ih
  | obj hkeys _ ih => exact .obj (fun m hm => h _ (hkeys m hm)) ih

theorem eq_of_mem_zip_self {α : Type} {l : List α} {p : α × α} (hp : p ∈ l.zip l) : p.1 = p.2 := by
  rw [List.zip_eq_zipWith, List.zipWith_self] at hp
  obtain ⟨a, -, rfl⟩ := List.mem_map.mp hp
  rfl

theorem mem_zip_self {α : Type} {l : List α} {a : α} (ha : a ∈ l) : (a, a) ∈ l.zip l := by
  rw [List.zip_eq_zipWith, List.zipWith_self]
  exact List.mem_map_of_mem ha

/-- A value matches itself exactly when each of its strings does. -/
theorem matches_self_iff {same : PyStr → PyStr → Prop} {v : Json} (hv : FloatFree v) :
    Matches same v v ↔ AllStrings (fun s => same s s) v := by
  induction v using json_induction with
  | null => exact ⟨fun _ => .null, fun _ => .null⟩
  | bool b => exact ⟨fun _ => .bool b, fun _ => .bool b⟩
  | int n => exact ⟨fun _ => .int n, fun _ => .int n⟩
  | float bits => cases hv
  | str s =>
      constructor
      · intro h
        cases h with
        | str hs => exact .str hs
      · intro h
        cases h with
        | str hs => exact .str hs
  | arr items ih =>
      cases hv with
      | arr hfree =>
      constructor
      · intro h
        cases h with
        | arr _ hitems =>
            exact .arr fun v hv => (ih v hv (hfree v hv)).mp (hitems (v, v) (mem_zip_self hv))
      · intro h
        cases h with
        | arr hitems =>
            refine .arr rfl fun p hp => ?_
            have hmem := (List.of_mem_zip hp).1
            rw [← eq_of_mem_zip_self hp]
            exact (ih _ hmem (hfree _ hmem)).mpr (hitems _ hmem)
  | obj members ih =>
      cases hv with
      | obj hfree =>
      constructor
      · intro h
        cases h with
        | obj _ hkeys hmembers =>
            have hzip := fun m hm => @mem_zip_self _ (sortKeys members) m (mem_sortKeys.mpr hm)
            exact .obj (fun m hm => hkeys _ (hzip m hm)) fun m hm =>
              (ih m hm (hfree m hm)).mp (hmembers _ (hzip m hm))
      · intro h
        cases h with
        | obj hkeys hmembers =>
            refine .obj rfl (fun p hp => ?_) fun p hp => ?_
            · have hmem := mem_sortKeys.mp (List.of_mem_zip hp).1
              rw [← eq_of_mem_zip_self hp]
              exact hkeys _ hmem
            · have hmem := mem_sortKeys.mp (List.of_mem_zip hp).1
              rw [← eq_of_mem_zip_self hp]
              exact (ih _ hmem (hfree _ hmem)).mpr (hmembers _ hmem)

/-- A property that ASCII characters and every token's characters have. -/
theorem forall_mem_render {P : CodePoint → Prop} (hascii : ∀ c : CodePoint, c.val < 128 → P c)
    {v : Json} (hv : AllStrings (fun s => ∀ c ∈ tok s, P c) v) : ∀ c ∈ render tok v, P c := by
  have hword : ∀ w : PyStr, IsAscii w → ∀ c ∈ w, P c := fun w hw c hc => hascii c (hw c hc)
  have hseq : ∀ l : List PyStr, (∀ s ∈ l, ∀ c ∈ s, P c) → ∀ c ∈ (py ",").intercalate l, P c := by
    intro l
    induction l with
    | nil => exact fun _ c hc => absurd hc List.not_mem_nil
    | cons s l ih =>
        intro hl
        obtain ⟨hs, hl⟩ := List.forall_mem_cons.mp hl
        cases l with
        | nil => rwa [List.intercalate_singleton]
        | cons t l =>
            rw [List.intercalate_cons_cons, List.forall_mem_append, List.forall_mem_append]
            exact ⟨⟨hs, hword _ (by decide)⟩, ih hl⟩
  induction hv with
  | null => exact hword (py "null") (by decide)
  | bool b =>
      cases b with
      | true => exact hword (py "true") (by decide)
      | false => exact hword (py "false") (by decide)
  | int n => exact hword _ (isAscii_intText n)
  | float bits => exact hword [] isAscii_nil
  | str hs => exact hs
  | arr _ ih =>
      rw [render_arr, List.forall_mem_append, List.forall_mem_append]
      exact ⟨⟨hword _ (by decide), hseq _ (List.forall_mem_map.mpr ih)⟩, hword _ (by decide)⟩
  | obj hkeys _ ih =>
      rw [render_obj, List.forall_mem_append, List.forall_mem_append]
      refine ⟨⟨hword _ (by decide), hseq _ (List.forall_mem_map.mpr fun m hm => ?_)⟩,
        hword _ (by decide)⟩
      have hmem := mem_sortKeys.mp hm
      rw [renderMember, List.forall_mem_append, List.forall_mem_append]
      exact ⟨⟨hkeys m hmem, hword _ (by decide)⟩, ih m hmem⟩

theorem mem_intercalate {s : PyStr} {l : List PyStr} (hs : s ∈ l) {c : CodePoint} (hc : c ∈ s) :
    c ∈ (py ",").intercalate l := by
  induction l with
  | nil => exact absurd hs List.not_mem_nil
  | cons t l ih =>
      cases l with
      | nil =>
          rw [List.intercalate_singleton]
          exact List.mem_singleton.mp hs ▸ hc
      | cons u l =>
          rw [List.intercalate_cons_cons, List.mem_append, List.mem_append]
          rcases List.mem_cons.mp hs with rfl | hs
          · exact Or.inl (Or.inl hc)
          · exact Or.inr (ih hs)

/-- **WHAT HOLDS OF RENDERED TEXT** holds of every token, if it holds of ASCII characters. -/
theorem forall_mem_render_iff {P : CodePoint → Prop} (hascii : ∀ c : CodePoint, c.val < 128 → P c)
    {v : Json} : (∀ c ∈ render tok v, P c) ↔ AllStrings (fun s => ∀ c ∈ tok s, P c) v := by
  refine ⟨fun h => ?_, forall_mem_render hascii⟩
  induction v using json_induction with
  | null => exact .null
  | bool b => exact .bool b
  | int n => exact .int n
  | float bits => exact .float bits
  | str s => exact .str h
  | arr items ih =>
      rw [render_arr, List.forall_mem_append, List.forall_mem_append] at h
      exact .arr fun v hv => ih v hv fun c hc =>
        h.1.2 c (mem_intercalate (List.mem_map_of_mem hv) hc)
  | obj members ih =>
      rw [render_obj, List.forall_mem_append, List.forall_mem_append] at h
      have hmember : ∀ m ∈ members, ∀ c ∈ renderMember tok m, P c := fun m hm c hc =>
        h.1.2 c (mem_intercalate (List.mem_map_of_mem (mem_sortKeys.mpr hm)) hc)
      refine .obj (fun m hm c hc => hmember m hm c ?_) fun m hm => ih m hm fun c hc =>
        hmember m hm c (List.mem_append_right _ hc)
      exact List.mem_append_left _ (List.mem_append_left _ hc)

/-- The string can stand in canonical text: no lone surrogate is left of it. -/
def Encodes (nfc : PyStr → PyStr) (s : PyStr) : Prop := ∀ c ∈ nfcToken nfc s, IsScalar c

/-- **WHEN A VALUE HAS CANONICAL BYTES**: it has no float, and each of its strings encodes. -/
theorem canonicalJson_ok_iff (N : NfcText nfc) {v : Json} :
    (∃ b, canonicalJson nfc v = .ok b) ↔ FloatFree v ∧ AllStrings (Encodes nfc) v := by
  unfold canonicalJson Encodes
  simp only [seq_ok_iff]
  rw [exists_and_left, rejectFloats_ok_iff, utf8Encode_ok_iff, nfc_dumps N,
    forall_mem_render_iff fun c => isScalar_ascii]

/-- There are canonical bytes of the value. -/
def HasBytes (nfc : PyStr → PyStr) (v : Json) : Prop := ∃ b, canonicalJson nfc v = .ok b

/-- An object has bytes when its names and its values do. -/
theorem hasBytes_obj_iff (N : NfcText nfc) {members : Members} :
    HasBytes nfc (.obj members) ↔ ∀ m ∈ members, Encodes nfc m.1 ∧ HasBytes nfc m.2 := by
  simp only [HasBytes]
  simp only [canonicalJson_ok_iff N]
  constructor
  · rintro ⟨hfree, hall⟩ m hm
    cases hfree with
    | obj hfree =>
        cases hall with
        | obj hkeys hvalues => exact ⟨hkeys m hm, hfree m hm, hvalues m hm⟩
  · intro h
    exact ⟨.obj fun m hm => (h m hm).2.1,
      .obj (fun m hm => (h m hm).1) fun m hm => (h m hm).2.2⟩

/-- An array has bytes when its items do. -/
theorem hasBytes_arr (N : NfcText nfc) {items : List Json} (h : ∀ v ∈ items, HasBytes nfc v) :
    HasBytes nfc (.arr items) :=
  (canonicalJson_ok_iff N).mpr ⟨.arr fun v hv => ((canonicalJson_ok_iff N).mp (h v hv)).1,
    .arr fun v hv => ((canonicalJson_ok_iff N).mp (h v hv)).2⟩

/-- ASCII has bytes. -/
theorem encodes_ascii (N : NfcText nfc) {s : PyStr} (h : IsAscii s) : Encodes nfc s := by
  have htoken : IsAscii (nfcToken nfc s) := by
    rw [← nfc_quoted N, N.ascii _ (isAscii_quoted h)]
    exact isAscii_quoted h
  exact fun c hc => isScalar_ascii (htoken c hc)

/-- What holds of all strings of an object holds of its names and in its values. -/
theorem allStrings_obj_iff {P : PyStr → Prop} {members : Members} :
    AllStrings P (.obj members) ↔ ∀ m ∈ members, P m.1 ∧ AllStrings P m.2 := by
  constructor
  · intro h
    cases h with
    | obj hkeys hvalues => exact fun m hm => ⟨hkeys m hm, hvalues m hm⟩
  · exact fun h => .obj (fun m hm => (h m hm).1) fun m hm => (h m hm).2

theorem allStrings_str_iff {P : PyStr → Prop} {s : PyStr} : AllStrings P (.str s) ↔ P s := by
  constructor
  · intro h
    cases h with
    | str h => exact h
  · exact .str

end AgentJsonRender
