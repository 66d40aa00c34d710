import AgentId.Json

/-!
# Reading fields back out of canonical text

Canonical text is normalised as a whole, after escaping, so equal texts do not mean equal
records.  What can still be read back is fixed by three documented facts about NFC: ASCII text
is its own normal form, `"` neither composes nor is created, and a hexadecimal digit has no
other canonical spelling.  Two texts are then compared from the left, one quoted token at a
time (**`nfc_skip`**, **`nfc_plain`**, **`nfc_hex`**).
-/

namespace AgentCanonicalText

open AgentPy AgentJson

/-- A lower-case hexadecimal digit. -/
def IsHexDigit (c : CodePoint) : Prop :=
  (0x30 ≤ c.val ∧ c.val ≤ 0x39) ∨ (0x61 ≤ c.val ∧ c.val ≤ 0x66)

def IsHex (s : PyStr) : Prop := ∀ c ∈ s, IsHexDigit c

/-- Text `json.dumps` writes as it stands, with no quote in it. -/
def IsPlain (s : PyStr) : Prop :=
  ∀ c ∈ s, c.val < 128 ∧ 0x20 ≤ c.val ∧ c ≠ quote ∧ c ≠ backslash

instance (s : PyStr) : Decidable (IsPlain s) :=
  List.decidableBAll
    (fun c : CodePoint => c.val < 128 ∧ 0x20 ≤ c.val ∧ c ≠ quote ∧ c ≠ backslash) s

/-- What the package relies on about `unicodedata.normalize("NFC", ·)`. -/
structure NfcLaws (nfc : PyStr → PyStr) : Prop where
  /-- ASCII text is in normal form. -/
  ascii : ∀ s, IsAscii s → nfc s = s
  /-- `"` is a boundary: it composes with nothing on either side. -/
  quote_boundary : ∀ a b, nfc (a ++ quote :: b) = nfc a ++ quote :: nfc b
  /-- `"` is in no other character's normal form. -/
  quote_free : ∀ a, quote ∉ a → quote ∉ nfc a
  /-- A string whose normal form is hexadecimal digits is that normal form. -/
  hex : ∀ a, IsHex (nfc a) → nfc a = a

/-- Text is plain when both its parts are. -/
theorem isPlain_append {s t : PyStr} : IsPlain (s ++ t) ↔ IsPlain s ∧ IsPlain t := by
  simp only [IsPlain]
  simp only [List.mem_append]
  exact ⟨fun h => ⟨fun c hc => h c (Or.inl hc), fun c hc => h c (Or.inr hc)⟩,
    fun ⟨h1, h2⟩ c hc => hc.elim (h1 c) (h2 c)⟩

/-- Plain text is ASCII. -/
theorem IsPlain.isAscii {s : PyStr} (h : IsPlain s) : IsAscii s := fun c hc => (h c hc).1

theorem IsPlain.quote_notMem {s : PyStr} (h : IsPlain s) : quote ∉ s :=
  fun hq => (h quote hq).2.2.1 rfl

/-- Hexadecimal text is plain. -/
theorem IsHex.isPlain {s : PyStr} (h : IsHex s) : IsPlain s := by
  intro c hc
  have hq : quote.val = 0x22 := rfl
  have hb : backslash.val = 0x5C := rfl
  rcases h c hc with hd | hd
  · exact ⟨by omega, by omega, fun he => by rw [he] at hd; omega, fun he => by rw [he] at hd; omega⟩
  · exact ⟨by omega, by omega, fun he => by rw [he] at hd; omega, fun he => by rw [he] at hd; omega⟩

/-! ## Escaping -/

/-- A plain character is written as it is. -/
theorem escapeChar_plain {c : CodePoint} (hc : 0x20 ≤ c.val) (hq : c ≠ quote)
    (hb : c ≠ backslash) : escapeChar c = [c] := by
  simp only [escapeChar]
  rw [if_neg hq, if_neg hb, if_neg (by omega), if_neg (by omega), if_neg (by omega),
    if_neg (by omega), if_neg (by omega), if_neg (by omega)]

/-- Escaping goes character by character. -/
theorem escape_cons (c : CodePoint) (s : PyStr) : escape (c :: s) = escapeChar c ++ escape s :=
  List.flatMap_cons

/-- Plain text needs no escape. -/
theorem escape_plain {s : PyStr} (h : IsPlain s) : escape s = s := by
  induction s with
  | nil => rfl
  | cons c s ih =>
      obtain ⟨-, h20, hq, hb⟩ := h c List.mem_cons_self
      rw [escape_cons, escapeChar_plain h20 hq hb, ih (fun d hd => h d (List.mem_cons_of_mem _ hd))]
      rfl

theorem isAscii_hexDigit : ∀ n < 16, (hexDigit n).val < 128 := by decide

/-- Every character is escaped in ASCII behind a backslash or written as itself. -/
theorem escapeChar_cases (c : CodePoint) :
    (∃ rest, escapeChar c = backslash :: rest ∧ IsAscii rest) ∨
      (escapeChar c = [c] ∧ c ≠ quote) := by
  rw [escapeChar]
  by_cases hquote : c = quote
  · exact Or.inl ⟨[quote], if_pos hquote, by decide⟩
  rw [if_neg hquote]
  by_cases hbackslash : c = backslash
  · exact Or.inl ⟨[backslash], if_pos hbackslash, by decide⟩
  rw [if_neg hbackslash]
  by_cases hn : c.val = 0x0A
  · exact Or.inl ⟨py "n", if_pos hn, by decide⟩
  rw [if_neg hn]
  by_cases hr : c.val = 0x0D
  · exact Or.inl ⟨py "r", if_pos hr, by decide⟩
  rw [if_neg hr]
  by_cases ht : c.val = 0x09
  · exact Or.inl ⟨py "t", if_pos ht, by decide⟩
  rw [if_neg ht]
  by_cases hf : c.val = 0x0C
  · exact Or.inl ⟨py "f", if_pos hf, by decide⟩
  rw [if_neg hf]
  by_cases hb : c.val = 0x08
  · exact Or.inl ⟨py "b", if_pos hb, by decide⟩
  rw [if_neg hb]
  by_cases hcontrol : c.val < 0x20
  · refine Or.inl ⟨py "u00" ++ [hexDigit (c.val / 16), hexDigit (c.val % 16)], if_pos hcontrol, ?_⟩
    rw [isAscii_append, isAscii_cons, isAscii_cons]
    exact ⟨by decide, isAscii_hexDigit _ (by omega), isAscii_hexDigit _ (by omega), isAscii_nil⟩
  · exact Or.inr ⟨if_neg hcontrol, hquote⟩

/-- A quote inside an escaped string has a backslash before it. -/
theorem backslash_before_quote {s a b : PyStr} (h : escape s = a ++ quote :: b) :
    backslash ∈ a := by
  induction s generalizing a with
  | nil => exact absurd h (by cases a <;> exact List.cons_ne_nil _ _ ∘ Eq.symm)
  | cons c s ih =>
      rw [escape_cons] at h
      rcases escapeChar_cases c with ⟨rest, hrest, -⟩ | ⟨hself, hne⟩
      · rw [hrest] at h
        cases a with
        | nil => exact absurd (List.cons.inj h).1 (by decide)
        | cons d a =>
            rw [← (List.cons.inj h).1]
            exact List.mem_cons_self
      · rw [hself] at h
        cases a with
        | nil => exact absurd (List.cons.inj h).1 hne
        | cons d a => exact List.mem_cons_of_mem _ (ih (List.cons.inj h).2)

/-- Escaped text without a backslash was not escaped at all. -/
theorem escape_eq_self {s : PyStr} (h : backslash ∉ escape s) : escape s = s := by
  induction s with
  | nil => rfl
  | cons c s ih =>
      rw [escape_cons] at h ⊢
      rcases escapeChar_cases c with ⟨rest, hrest, -⟩ | ⟨hself, -⟩
      · rw [hrest] at h
        exact absurd List.mem_cons_self h
      · rw [hself] at h ⊢
        rw [ih (fun hm => h (List.mem_cons_of_mem _ hm))]
        rfl

/-! ## Comparing normalised text from the left -/

/-- Two texts split at their first `q` agree piece by piece. -/
theorem split_first {α : Type} {q : α} {a a' b b' : List α} (ha : q ∉ a) (ha' : q ∉ a')
    (h : a ++ q :: b = a' ++ q :: b') : a = a' ∧ b = b' := by
  induction a generalizing a' with
  | nil =>
      cases a' with
      | nil => exact ⟨rfl, (List.cons.inj h).2⟩
      | cons x a' =>
          exact absurd ((List.cons.inj h).1 ▸ List.mem_cons_self) ha'
  | cons x a ih =>
      cases a' with
      | nil => exact absurd ((List.cons.inj h).1 ▸ List.mem_cons_self) ha
      | cons y a' =>
          obtain ⟨hxy, hrest⟩ := List.cons.inj h
          obtain ⟨h1, h2⟩ := ih (fun hm => ha (List.mem_cons_of_mem _ hm))
            (fun hm => ha' (List.mem_cons_of_mem _ hm)) hrest
          exact ⟨by rw [hxy, h1], h2⟩

variable {nfc : PyStr → PyStr}

/-- Text both sides share up to a quote drops off. -/
theorem nfc_skip (N : NfcLaws nfc) {p x y : PyStr}
    (h : nfc (p ++ quote :: x) = nfc (p ++ quote :: y)) : nfc x = nfc y := by
  rw [N.quote_boundary, N.quote_boundary] at h
  exact (List.cons.inj (List.append_cancel_left h)).2

/-- A plain token is read back as it is. -/
theorem nfc_plain (N : NfcLaws nfc) {v w x y : PyStr} (hv : IsPlain v) (hw : IsPlain w)
    (h : nfc (escape v ++ quote :: x) = nfc (escape w ++ quote :: y)) : v = w ∧ nfc x = nfc y := by
  rw [escape_plain hv, escape_plain hw, N.quote_boundary, N.quote_boundary,
    N.ascii v hv.isAscii, N.ascii w hw.isAscii] at h
  exact split_first hv.quote_notMem hw.quote_notMem h

/-- **A HEXADECIMAL TOKEN HAS ONE SPELLING**: any string whose escaped text normalises to the
    token is the token. -/
theorem nfc_hex (N : NfcLaws nfc) {v w x y : PyStr} (hw : IsHex w)
    (h : nfc (escape v ++ quote :: x) = nfc (escape w ++ quote :: y)) : v = w ∧ nfc x = nfc y := by
  have hplain := hw.isPlain
  rw [escape_plain hplain, N.quote_boundary w, N.ascii w hplain.isAscii] at h
  by_cases hq : quote ∈ escape v
  · -- the token would contain an escaped quote, hence a backslash before it
    obtain ⟨a, b, hsplit, hfirst⟩ := List.eq_append_cons_of_mem hq
    have hback : backslash ∈ a := backslash_before_quote hsplit
    rw [hsplit, List.append_assoc, List.cons_append, N.quote_boundary] at h
    obtain ⟨haw, -⟩ := split_first (N.quote_free a hfirst) hplain.quote_notMem h
    have hself : nfc a = a := N.hex a (by rw [haw]; exact hw)
    rw [← hself, haw] at hback
    exact absurd rfl (hplain _ hback).2.2.2
  · rw [N.quote_boundary] at h
    obtain ⟨hvw, hxy⟩ := split_first (N.quote_free _ hq) hplain.quote_notMem h
    have hself : nfc (escape v) = escape v := N.hex _ (by rw [hvw]; exact hw)
    have hesc : escape v = w := hself.symm.trans hvw
    have hnb : backslash ∉ escape v := by
      rw [hesc]
      exact fun hb => (hplain _ hb).2.2.2 rfl
    exact ⟨(escape_eq_self hnb).symm.trans hesc, hxy⟩

/-! ## Reading one member

    Between the comma or brace `p` and the rest stand the key, a colon and a string token. -/

/-- A member both texts share drops off. -/
theorem nfc_skip_member (N : NfcLaws nfc) {p k v x y : PyStr}
    (h : nfc (p ++ (quoted k ++ (py ":" ++ (quoted v ++ x))))
      = nfc (p ++ (quoted k ++ (py ":" ++ (quoted v ++ y))))) : nfc x = nfc y := by
  have hsplit : ∀ z, p ++ (quoted k ++ (py ":" ++ (quoted v ++ z)))
      = (p ++ quoted k ++ py ":" ++ quote :: escape v) ++ quote :: z := by
    intro z
    simp [quoted]
  rw [hsplit, hsplit] at h
  exact nfc_skip N h

/-- The text around the value of a member: it ends at the next quote. -/
theorem member_split (p k v z : PyStr) : p ++ (quoted k ++ (py ":" ++ (quoted v ++ z)))
    = (p ++ quoted k ++ py ":") ++ quote :: (escape v ++ quote :: z) := by
  simp [quoted]

/-- A plain value is read back. -/
theorem nfc_plain_member (N : NfcLaws nfc) {p k v w x y : PyStr} (hv : IsPlain v) (hw : IsPlain w)
    (h : nfc (p ++ (quoted k ++ (py ":" ++ (quoted v ++ x))))
      = nfc (p ++ (quoted k ++ (py ":" ++ (quoted w ++ y))))) : v = w ∧ nfc x = nfc y := by
  rw [member_split, member_split] at h
  exact nfc_plain N hv hw (nfc_skip N h)

/-- A hexadecimal value is read back, whatever the other text holds in its place. -/
theorem nfc_hex_member (N : NfcLaws nfc) {p k v w x y : PyStr} (hw : IsHex w)
    (h : nfc (p ++ (quoted k ++ (py ":" ++ (quoted v ++ x))))
      = nfc (p ++ (quoted k ++ (py ":" ++ (quoted w ++ y))))) : v = w ∧ nfc x = nfc y := by
  rw [member_split, member_split] at h
  exact nfc_hex N hw (nfc_skip N h)

/-! ## Text of objects -/

/-- The items of an array are dumped one by one. -/
theorem dumpsItems_eq_map (items : List Json) : dumpsItems items = items.map dumps := by
  induction items with
  | nil => rw [dumpsItems, List.map_nil]
  | cons v items ih => rw [dumpsItems, ih, List.map_cons]

/-- The values of an object are dumped one by one. -/
theorem dumpsMembers_eq_map (members : Members) :
    dumpsMembers members = members.map fun m => (m.1, dumps m.2) := by
  induction members with
  | nil => rw [dumpsMembers, List.map_nil]
  | cons m members ih =>
      obtain ⟨k, v⟩ := m
      rw [dumpsMembers, ih, List.map_cons]

/-- Members already in key order are written in the order they stand. -/
theorem dumps_obj_of_sorted {members : Members}
    (h : (members.map Prod.fst).Pairwise (· ≤ ·)) :
    dumps (.obj members) = py "\x7b" ++ (py ",").intercalate
      (members.map fun m => memberText (m.1, dumps m.2)) ++ py "\x7d" := by
  have hsorted : sortKeys (dumpsMembers members) = dumpsMembers members := by
    refine List.Pairwise.insertionSort_eq ?_
    rw [dumpsMembers_eq_map, List.pairwise_map]
    exact List.pairwise_map.mp h
  rw [dumps, hsorted, dumpsMembers_eq_map, List.map_map]
  rfl

/-! ## ASCII values always have a canonical form -/

/-- A value without floats whose strings and keys are all ASCII. -/
inductive AsciiJson : Json → Prop where
  | null : AsciiJson .null
  | bool (b : Bool) : AsciiJson (.bool b)
  | int (n : Int) : AsciiJson (.int n)
  | str {s : PyStr} : IsAscii s → AsciiJson (.str s)
  | arr {items : List Json} : (∀ v ∈ items, AsciiJson v) → AsciiJson (.arr items)
  | obj {members : Members} : (∀ m ∈ members, IsAscii m.1) →
      (∀ m ∈ members, AsciiJson m.2) → AsciiJson (.obj members)

theorem AsciiJson.obj_nil : AsciiJson (.obj []) :=
  .obj (fun _ hm => absurd hm List.not_mem_nil) fun _ hm => absurd hm List.not_mem_nil

/-- An object is ASCII member by member. -/
theorem AsciiJson.obj_cons {name : PyStr} {value : Json} {members : Members}
    (hname : IsAscii name) (hvalue : AsciiJson value) (hrest : AsciiJson (.obj members)) :
    AsciiJson (.obj ((name, value) :: members)) := by
  cases hrest with
  | obj hnames hvalues =>
      exact .obj (List.forall_mem_cons.mpr ⟨hname, hnames⟩)
        (List.forall_mem_cons.mpr ⟨hvalue, hvalues⟩)

theorem isAscii_flatMap {α : Type} {f : α → PyStr} {l : List α}
    (h : ∀ a ∈ l, IsAscii (f a)) : IsAscii (l.flatMap f) := by
  intro c hc
  obtain ⟨a, ha, hca⟩ := List.mem_flatMap.mp hc
  exact h a ha c hca

/-- Escaping keeps ASCII. -/
theorem isAscii_escapeChar {c : CodePoint} (h : c.val < 128) : IsAscii (escapeChar c) := by
  rcases escapeChar_cases c with ⟨rest, hrest, hascii⟩ | ⟨hself, -⟩
  · rw [hrest, isAscii_cons]
    exact ⟨by decide, hascii⟩
  · rw [hself, isAscii_cons]
    exact ⟨h, isAscii_nil⟩

/-- So does quoting. -/
theorem isAscii_quoted {s : PyStr} (h : IsAscii s) : IsAscii (quoted s) := by
  have hesc : IsAscii (escape s) := isAscii_flatMap fun c hc => isAscii_escapeChar (h c hc)
  simp only [quoted, isAscii_cons, isAscii_append, isAscii_nil, and_true]
  exact ⟨by decide, hesc, by decide⟩

theorem isAscii_natText (n : ℕ) : IsAscii (natText n) := by
  intro c hc
  obtain ⟨ch, hch, rfl⟩ := List.mem_map.mp hc
  have hdigit := Nat.isDigit_of_mem_toDigits (by decide) (by decide) hch
  have : ch.toNat ≤ 57 := by
    simp only [Char.isDigit, Bool.and_eq_true, decide_eq_true_eq] at hdigit
    exact hdigit.2
  show ch.toNat < 128
  omega

/-- A number is read back from its digits. -/
theorem natText_inj {m n : ℕ} (h : natText m = natText n) : m = n := by
  have hinj : Function.Injective codePoint := by
    intro a b hab
    have hval : (codePoint a).val = (codePoint b).val := by rw [hab]
    exact Char.ext (UInt32.toNat_inj.mp hval)
  have hdigits : Nat.toDigits 10 m = Nat.toDigits 10 n := List.map_injective_iff.mpr hinj h
  rw [← @Nat.ofDigitChars_ten_toDigits m, ← @Nat.ofDigitChars_ten_toDigits n, hdigits]

theorem isAscii_intText (n : Int) : IsAscii (intText n) := by
  simp only [intText]
  split_ifs
  · exact isAscii_append.mpr ⟨by decide, isAscii_natText _⟩
  · exact isAscii_natText _

theorem isAscii_intercalate {sep : PyStr} {l : List PyStr} (hsep : IsAscii sep)
    (h : ∀ s ∈ l, IsAscii s) : IsAscii (sep.intercalate l) := by
  induction l with
  | nil => exact isAscii_nil
  | cons s l ih =>
      have hs := h s List.mem_cons_self
      cases l with
      | nil => simpa using hs
      | cons t l =>
          rw [List.intercalate_cons_cons, isAscii_append, isAscii_append]
          exact ⟨⟨hs, hsep⟩, ih fun r hr => h r (List.mem_cons_of_mem _ hr)⟩

theorem rejectFloatsItems_ok {items : List Json} (h : ∀ v ∈ items, rejectFloats v = .ok ()) :
    rejectFloatsItems items = .ok () := by
  induction items with
  | nil => rw [rejectFloatsItems]
  | cons v items ih =>
      rw [rejectFloatsItems, h v List.mem_cons_self]
      exact ih fun w hw => h w (List.mem_cons_of_mem _ hw)

theorem rejectFloatsMembers_ok {members : Members}
    (h : ∀ m ∈ members, rejectFloats m.2 = .ok ()) : rejectFloatsMembers members = .ok () := by
  induction members with
  | nil => rw [rejectFloatsMembers]
  | cons m members ih =>
      obtain ⟨k, v⟩ := m
      rw [rejectFloatsMembers, h (k, v) List.mem_cons_self]
      exact ih fun w hw => h w (List.mem_cons_of_mem _ hw)

/-- An ASCII payload has no float. -/
theorem AsciiJson.rejectFloats_ok {v : Json} (h : AsciiJson v) : rejectFloats v = .ok () := by
  induction h with
  | null => rfl
  | bool b => rfl
  | int n => rfl
  | str hs => rfl
  | arr _ ih => rw [rejectFloats, rejectFloatsItems_ok ih]
  | obj _ _ ih => rw [rejectFloats, rejectFloatsMembers_ok ih]

/-- Its text is ASCII. -/
theorem AsciiJson.isAscii_dumps {v : Json} (h : AsciiJson v) : IsAscii (dumps v) := by
  induction h with
  | null => rw [dumps]; decide
  | bool b => cases b <;> rw [dumps] <;> decide
  | int n => rw [dumps]; exact isAscii_intText n
  | str hs => rw [dumps]; exact isAscii_quoted hs
  | arr _ ih =>
      rw [dumps, dumpsItems_eq_map, isAscii_append, isAscii_append]
      refine ⟨⟨by decide, isAscii_intercalate (by decide) ?_⟩, by decide⟩
      intro s hs
      obtain ⟨v, hv, rfl⟩ := List.mem_map.mp hs
      exact ih v hv
  | obj hk _ ih =>
      rw [dumps, dumpsMembers_eq_map, isAscii_append, isAscii_append]
      refine ⟨⟨by decide, isAscii_intercalate (by decide) ?_⟩, by decide⟩
      intro s hs
      obtain ⟨m, hm, rfl⟩ := List.mem_map.mp hs
      obtain ⟨m', hm', rfl⟩ := List.mem_map.mp ((List.perm_insertionSort _ _).mem_iff.mp hm)
      rw [memberText, isAscii_append, isAscii_append]
      exact ⟨⟨isAscii_quoted (hk m' hm'), by decide⟩, ih m' hm'⟩

/-- An ASCII value has canonical bytes. -/
theorem AsciiJson.canonicalJson_ok (N : NfcLaws nfc) {v : Json} (h : AsciiJson v) :
    ∃ b, canonicalJson nfc v = .ok b := by
  obtain ⟨b, hb, -⟩ := utf8Encode_ascii h.isAscii_dumps
  refine ⟨b, bind_ok_iff.mpr ⟨(), h.rejectFloats_ok, ?_⟩⟩
  rw [N.ascii _ h.isAscii_dumps]
  exact hb

/-- Equal canonical bytes are equal normalised texts. -/
theorem nfc_dumps_of_canonicalJson {v w : Json} {b : Bytes} (hv : canonicalJson nfc v = .ok b)
    (hw : canonicalJson nfc w = .ok b) : nfc (dumps v) = nfc (dumps w) := by
  obtain ⟨_, -, hv⟩ := bind_ok_iff.mp hv
  obtain ⟨_, -, hw⟩ := bind_ok_iff.mp hw
  exact utf8Encode_inj hv hw

end AgentCanonicalText
