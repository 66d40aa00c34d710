import AgentId.CanonicalText

/-!
# Normalisation around ASCII characters

Canonical text is escaped first and normalised as a whole, so what a string becomes depends on
how NFC treats the ASCII characters escaping puts into it.  `NfcText` states the documented
facts: an ASCII character never composes with what stands before it, most compose with nothing
at all, and canonical equivalence is a congruence that lets an ASCII character in front cancel.

* **`nfc_escape_iff`** — escaping does not disturb canonical equivalence: two strings have the
  same normalised escaped text exactly when they have the same normal form.
* **`nfc_escape_eq_iff`** — escaping and normalising commute exactly when no escape composes with
  the text behind it.
* **`scanned_nfc_escape`** — the normalised body of a string token still ends at its first quote
  that no backslash hides.
* **`sampleNfc_text`** — the facts hold together, of a function with a composition and a
  singleton.
-/

namespace AgentNormalization

open AgentPy AgentJson AgentCanonicalText

/-- A Unicode scalar value: not a surrogate. -/
def IsScalar (c : CodePoint) : Prop := c.val.isValidChar

/-- ASCII has no surrogate. -/
theorem isScalar_ascii {c : CodePoint} (h : c.val < 128) : IsScalar c := Or.inl (by omega)

/-- The strings UTF-8 encodes are the scalar ones. -/
theorem utf8Encode_ok_iff {s : PyStr} : (∃ b, utf8Encode s = .ok b) ↔ ∀ c ∈ s, IsScalar c := by
  have hchars : (∃ cs, s.mapM toChar? = some cs) ↔ ∀ c ∈ s, IsScalar c := by
    induction s with
    | nil => exact iff_of_true ⟨[], rfl⟩ fun c hc => absurd hc List.not_mem_nil
    | cons c s ih =>
        rw [List.forall_mem_cons, ← ih, List.mapM_cons]
        unfold toChar? IsScalar
        by_cases hc : c.val.isValidChar
        · cases List.mapM (fun c : CodePoint =>
            if c.val.isValidChar then some (Char.ofNat c.val) else none) s <;> simp [hc]
        · simp [hc]
  rw [← hchars, utf8Encode]
  cases s.mapM toChar? with
  | none =>
      refine iff_of_false ?_ ?_
      · rintro ⟨_, h⟩
        cases h
      · rintro ⟨_, h⟩
        cases h
  | some cs => exact iff_of_true ⟨_, rfl⟩ ⟨cs, rfl⟩

/-- An ASCII character that begins no canonical composition and is in no other character's
    normal form: neither a letter nor one of `;`, `<`, `=`, `>`, U+0060. -/
def Inert (c : CodePoint) : Prop :=
  c.val < 128 ∧ ¬ (0x41 ≤ c.val ∧ c.val ≤ 0x5A) ∧ ¬ (0x60 ≤ c.val ∧ c.val ≤ 0x7A) ∧
    ¬ (0x3B ≤ c.val ∧ c.val ≤ 0x3E)

instance inertDecidable (c : CodePoint) : Decidable (Inert c) :=
  inferInstanceAs (Decidable (_ ∧ _))

/-- What canonical text relies on about `unicodedata.normalize("NFC", ·)`. -/
structure NfcText (nfc : PyStr → PyStr) : Prop extends NfcLaws nfc where
  /-- An ASCII character composes with nothing before it. -/
  before_ascii : ∀ a c b, c.val < 128 → nfc (a ++ c :: b) = nfc a ++ nfc (c :: b)
  /-- An inert character composes with nothing behind it. -/
  inert : ∀ c b, Inert c → nfc (c :: b) = c :: nfc b
  /-- An inert character is in no other character's normal form. -/
  inert_free : ∀ c a, Inert c → c ∉ a → c ∉ nfc a
  /-- Canonical equivalence is a congruence. -/
  congr : ∀ a a' b b', nfc a = nfc a' → nfc b = nfc b' → nfc (a ++ b) = nfc (a' ++ b')
  /-- An ASCII character in front is its own decomposition: it cancels. -/
  ascii_cons : ∀ c d a b, c.val < 128 → d.val < 128 → nfc (c :: a) = nfc (d :: b) →
    c = d ∧ nfc a = nfc b
  /-- Scalar values normalise to scalar values. -/
  scalar : ∀ a, (∀ c ∈ a, IsScalar c) → ∀ c ∈ nfc a, IsScalar c

variable {nfc : PyStr → PyStr}

/-- An inert character splits the normal form. -/
theorem nfc_inert_mid (N : NfcText nfc) {c : CodePoint} (hc : Inert c) (a b : PyStr) :
    nfc (a ++ c :: b) = nfc a ++ c :: nfc b := by
  rw [N.before_ascii a c b hc.1, N.inert c b hc]

/-- ASCII text in front of an ASCII character stays as it is. -/
theorem nfc_ascii_append (N : NfcText nfc) {w : PyStr} (hw : IsAscii w) {c : CodePoint}
    (hc : c.val < 128) (b : PyStr) : nfc (w ++ c :: b) = w ++ nfc (c :: b) := by
  rw [N.before_ascii w c b hc, N.ascii w hw]

/-- Nothing normalises away. -/
theorem nfc_cons_ne_nil (N : NfcText nfc) {c : CodePoint} (hc : c.val < 128) (a : PyStr) :
    nfc (c :: a) ≠ [] := by
  intro hnil
  have hempty : nfc [] = [] := N.ascii [] isAscii_nil
  -- if it did, a digit behind it would be canonically equivalent to the whole
  have hdigit : ∀ d : CodePoint, d.val < 128 → c = d := by
    intro d hd
    have h := N.congr (c :: a) [] [d] [d] (hnil.trans hempty.symm) rfl
    exact (N.ascii_cons c d (a ++ [d]) [] hc hd h).1
  exact absurd ((hdigit 0 (by decide)).symm.trans (hdigit 1 (by decide))) (by decide)

/-- Canonically equivalent texts that begin with ASCII words have comparable words. -/
theorem prefix_or_prefix_of_nfc (N : NfcText nfc) {w w' a b : PyStr} (hw : IsAscii w)
    (hw' : IsAscii w') (h : nfc (w ++ a) = nfc (w' ++ b)) : w <+: w' ∨ w' <+: w := by
  induction w generalizing w' with
  | nil => exact Or.inl List.nil_prefix
  | cons c w ih =>
      cases w' with
      | nil => exact Or.inr List.nil_prefix
      | cons d w' =>
          rw [isAscii_cons] at hw hw'
          obtain ⟨rfl, hrest⟩ := N.ascii_cons c d (w ++ a) (w' ++ b) hw.1 hw'.1 h
          rcases ih hw.2 hw'.2 hrest with hp | hp
          · exact Or.inl (List.cons_prefix_cons.mpr ⟨rfl, hp⟩)
          · exact Or.inr (List.cons_prefix_cons.mpr ⟨rfl, hp⟩)

/-- An ASCII word in front cancels. -/
theorem nfc_cancel (N : NfcText nfc) {w a b : PyStr} (hw : IsAscii w)
    (h : nfc (w ++ a) = nfc (w ++ b)) : nfc a = nfc b := by
  induction w with
  | nil => exact h
  | cons c w ih =>
      rw [isAscii_cons] at hw
      exact ih hw.2 (N.ascii_cons c c (w ++ a) (w ++ b) hw.1 hw.1 h).2

/-! ## Characters that are escaped -/

/-- A character `json.dumps` escapes. -/
def IsSpecial (c : CodePoint) : Prop := c.val < 0x20 ∨ c = quote ∨ c = backslash

instance isSpecialDecidable (c : CodePoint) : Decidable (IsSpecial c) :=
  inferInstanceAs (Decidable (_ ∨ _))

/-- All of them. -/
def specials : List CodePoint := (List.range 0x20).map (Fin.ofNat 0x110000) ++ [quote, backslash]

theorem mem_specials {c : CodePoint} (h : IsSpecial c) : c ∈ specials := by
  rw [specials, List.mem_append, List.mem_map, List.mem_cons, List.mem_singleton]
  exact h.imp_left fun h => ⟨c.val, List.mem_range.mpr h, Fin.ofNat_val_eq_self c⟩

/-- A test that every special character passes. -/
theorem special_of_all {p : CodePoint → Bool} (h : specials.all p = true) {c : CodePoint}
    (hc : IsSpecial c) : p c = true :=
  List.all_eq_true.mp h c (mem_specials hc)

/-- What follows the backslash in the escape of a character. -/
def escapeTail (c : CodePoint) : PyStr := (escapeChar c).tail

/-- The last character of an escape. -/
def escapeLetter (c : CodePoint) : CodePoint := (escapeChar c).getLastD 0

/-- The characters of an escape between the backslash and its last character. -/
def escapeStem (c : CodePoint) : PyStr := (escapeTail c).dropLast

/-- A special character is escaped with a backslash. -/
theorem escapeChar_eq {c : CodePoint} (hc : IsSpecial c) :
    escapeChar c = backslash :: escapeTail c :=
  of_decide_eq_true (special_of_all (p := fun c => decide (escapeChar c = backslash :: escapeTail c))
    (by decide +kernel) hc)

/-- The escape ends in a letter, the one place where something can compose. -/
theorem escapeTail_eq {c : CodePoint} (hc : IsSpecial c) :
    escapeTail c = escapeStem c ++ [escapeLetter c] :=
  of_decide_eq_true (special_of_all
    (p := fun c => decide (escapeTail c = escapeStem c ++ [escapeLetter c])) (by decide +kernel) hc)

/-- Special characters are inert. -/
theorem inert_of_special {c : CodePoint} (hc : IsSpecial c) : Inert c :=
  of_decide_eq_true (special_of_all (p := fun c => decide (Inert c)) (by decide +kernel) hc)

theorem escapeLetter_ascii {c : CodePoint} (hc : IsSpecial c) : (escapeLetter c).val < 128 :=
  of_decide_eq_true (special_of_all (p := fun c => decide ((escapeLetter c).val < 128))
    (by decide +kernel) hc)

/-- The stem of an escape is plain text. -/
theorem isPlain_escapeStem {c : CodePoint} (hc : IsSpecial c) : IsPlain (escapeStem c) :=
  of_decide_eq_true (special_of_all (p := fun c => decide (IsPlain (escapeStem c)))
    (by decide +kernel) hc)

/-- A control character's escape ends in a letter or digit; a quote or backslash ends its own. -/
theorem escapeLetter_cases {c : CodePoint} (hc : IsSpecial c) :
    (escapeLetter c = c ∧ escapeStem c = []) ∨ ¬ IsSpecial (escapeLetter c) :=
  of_decide_eq_true (special_of_all
    (p := fun c => decide ((escapeLetter c = c ∧ escapeStem c = []) ∨ ¬ IsSpecial (escapeLetter c)))
    (by decide +kernel) hc)

/-- Escapes are told apart by what follows the backslash. -/
theorem escapeTail_eq_of_isPrefix {c d : CodePoint} (hc : IsSpecial c) (hd : IsSpecial d)
    (h : escapeTail c <+: escapeTail d) : c = d := by
  have hall := special_of_all (p := fun c => specials.all fun d =>
    decide (escapeTail c <+: escapeTail d → c = d)) (by decide +kernel) hc
  exact of_decide_eq_true (special_of_all hall hd) h

theorem isAscii_escapeTail {c : CodePoint} (hc : IsSpecial c) : IsAscii (escapeTail c) := by
  rw [escapeTail_eq hc, isAscii_append]
  exact ⟨(isPlain_escapeStem hc).isAscii, by simpa using escapeLetter_ascii hc⟩

/-! ## Splitting a string at its first escaped character -/

/-- No character of the text is escaped. -/
def Unescaped (s : PyStr) : Prop := ∀ c ∈ s, ¬ IsSpecial c

/-- Text without special characters is written as it is. -/
theorem escape_of_unescaped {s : PyStr} (h : Unescaped s) : escape s = s := by
  induction s with
  | nil => rfl
  | cons c s ih =>
      have hc := h c List.mem_cons_self
      simp only [IsSpecial] at hc
      push Not at hc
      rw [escape_cons, escapeChar_plain hc.1 hc.2.1 hc.2.2,
        ih fun d hd => h d (List.mem_cons_of_mem _ hd)]
      rfl

/-- Escaping goes piece by piece. -/
theorem escape_append (s t : PyStr) : escape (s ++ t) = escape s ++ escape t :=
  List.flatMap_append

/-- A string either needs no escaping or splits at its first character that does. -/
theorem unescaped_or_split (s : PyStr) : Unescaped s ∨
    ∃ p c t, s = p ++ c :: t ∧ Unescaped p ∧ IsSpecial c := by
  induction s with
  | nil => exact Or.inl fun c hc => absurd hc List.not_mem_nil
  | cons d s ih =>
      by_cases hd : IsSpecial d
      · exact Or.inr ⟨[], d, s, rfl, fun c hc => absurd hc List.not_mem_nil, hd⟩
      rcases ih with h | ⟨p, c, t, rfl, hp, hc⟩
      · exact Or.inl (List.forall_mem_cons.mpr ⟨hd, h⟩)
      · exact Or.inr ⟨d :: p, c, t, rfl, List.forall_mem_cons.mpr ⟨hd, hp⟩, hc⟩

/-- Induction along those splits. -/
theorem escaped_induction {motive : PyStr → Prop} (unescaped : ∀ s, Unescaped s → motive s)
    (split : ∀ p c t, Unescaped p → IsSpecial c → motive t → motive (p ++ c :: t)) (s : PyStr) :
    motive s := by
  generalize hn : s.length = n
  induction n using Nat.strong_induction_on generalizing s with
  | _ n ih =>
      rcases unescaped_or_split s with h | ⟨p, c, t, rfl, hp, hc⟩
      · exact unescaped s h
      · refine split p c t hp hc (ih t.length ?_ t rfl)
        rw [List.length_append, List.length_cons] at hn
        omega

/-- Where two splits spell the same text, they are the same split. -/
theorem split_special {a a' b b' : PyStr} {c c' : CodePoint} (ha : Unescaped a)
    (ha' : Unescaped a') (hc : IsSpecial c) (hc' : IsSpecial c')
    (h : a ++ c :: b = a' ++ c' :: b') : a = a' ∧ c = c' ∧ b = b' := by
  induction a generalizing a' with
  | nil =>
      cases a' with
      | nil =>
          obtain ⟨hcc, hbb⟩ := List.cons.inj h
          exact ⟨rfl, hcc, hbb⟩
      | cons x a' => exact absurd ((List.cons.inj h).1 ▸ hc) (ha' x List.mem_cons_self)
  | cons x a ih =>
      cases a' with
      | nil => exact absurd ((List.cons.inj h).1 ▸ hc') (ha x List.mem_cons_self)
      | cons y a' =>
          obtain ⟨rfl, hrest⟩ := List.cons.inj h
          obtain ⟨haa, hcc, hbb⟩ := ih (fun d hd => ha d (List.mem_cons_of_mem _ hd))
            (fun d hd => ha' d (List.mem_cons_of_mem _ hd)) hrest
          exact ⟨by rw [haa], hcc, hbb⟩

theorem not_unescaped {a b : PyStr} {c : CodePoint} (hc : IsSpecial c) :
    ¬ Unescaped (a ++ c :: b) :=
  fun h => h c (List.mem_append_right _ List.mem_cons_self) hc

/-- Normalising brings in no character that needs escaping. -/
theorem unescaped_nfc (N : NfcText nfc) {s : PyStr} (h : Unescaped s) : Unescaped (nfc s) :=
  fun c hc hspecial => N.inert_free c s (inert_of_special hspecial) (fun hm => h c hm hspecial) hc

/-- A special character splits the normal form. -/
theorem nfc_split (N : NfcText nfc) {c : CodePoint} (hc : IsSpecial c) (p t : PyStr) :
    nfc (p ++ c :: t) = nfc p ++ c :: nfc t :=
  nfc_inert_mid N (inert_of_special hc) p t

theorem isSpecial_backslash : IsSpecial backslash := Or.inr (Or.inr rfl)

/-- Escaped text splits where the text does, at the backslash. -/
theorem escape_split {c : CodePoint} (hc : IsSpecial c) {p : PyStr} (hp : Unescaped p)
    (t : PyStr) : escape (p ++ c :: t) = p ++ backslash :: (escapeTail c ++ escape t) := by
  rw [escape_append, escape_of_unescaped hp, escape_cons, escapeChar_eq hc, List.cons_append]

/-- So does the backslash of its escape. -/
theorem nfc_escape_split (N : NfcText nfc) {c : CodePoint} (hc : IsSpecial c) {p : PyStr}
    (hp : Unescaped p) (t : PyStr) : nfc (escape (p ++ c :: t))
      = nfc p ++ backslash :: nfc (escapeTail c ++ escape t) := by
  rw [escape_split hc hp, nfc_split N isSpecial_backslash]

/-- **ESCAPING KEEPS CANONICAL EQUIVALENCE**, both ways. -/
theorem nfc_escape_iff (N : NfcText nfc) {s t : PyStr} :
    nfc (escape s) = nfc (escape t) ↔ nfc s = nfc t := by
  induction s using escaped_induction generalizing t with
  | unescaped s hs =>
      rw [escape_of_unescaped hs]
      rcases unescaped_or_split t with ht | ⟨q, d, t, rfl, hq, hd⟩
      · rw [escape_of_unescaped ht]
      · -- one side has an escaped character and the other has none
        rw [nfc_escape_split N hd hq, nfc_split N hd]
        exact ⟨fun h => absurd (h ▸ unescaped_nfc N hs) (not_unescaped isSpecial_backslash),
          fun h => absurd (h ▸ unescaped_nfc N hs) (not_unescaped hd)⟩
  | split p c s hp hc ih =>
      rcases unescaped_or_split t with ht | ⟨q, d, t, rfl, hq, hd⟩
      · rw [escape_of_unescaped ht, nfc_escape_split N hc hp, nfc_split N hc]
        exact ⟨fun h => absurd (h ▸ unescaped_nfc N ht) (not_unescaped isSpecial_backslash),
          fun h => absurd (h ▸ unescaped_nfc N ht) (not_unescaped hc)⟩
      rw [nfc_escape_split N hc hp, nfc_escape_split N hd hq, nfc_split N hc, nfc_split N hd]
      constructor
      · intro h
        obtain ⟨hpq, -, hrest⟩ := split_special (unescaped_nfc N hp) (unescaped_nfc N hq)
          isSpecial_backslash isSpecial_backslash h
        -- the escapes begin alike, so they are one escape
        have hcd : c = d := by
          rcases prefix_or_prefix_of_nfc N (isAscii_escapeTail hc) (isAscii_escapeTail hd) hrest
            with hle | hle
          · exact escapeTail_eq_of_isPrefix hc hd hle
          · exact (escapeTail_eq_of_isPrefix hd hc hle).symm
        subst hcd
        rw [hpq, ih.mp (nfc_cancel N (isAscii_escapeTail hc) hrest)]
      · intro h
        obtain ⟨hpq, rfl, hrest⟩ := split_special (unescaped_nfc N hp) (unescaped_nfc N hq) hc hd h
        rw [hpq, N.congr _ _ _ _ rfl (ih.mpr hrest)]

/-! ## When escaping and normalising commute -/

/-- No escape composes with the text behind it: after each escaped character, the last letter of
    its escape is still a letter of its own in normal form. -/
def EscapesStand (nfc : PyStr → PyStr) (s : PyStr) : Prop :=
  ∀ a c b, s = a ++ c :: b → c.val < 0x20 → nfc (escapeLetter c :: b) = escapeLetter c :: nfc b

/-- A quote and a backslash end their own escapes, and compose with nothing. -/
theorem escapeLetter_stands (N : NfcText nfc) {c : CodePoint} (hc : IsSpecial c)
    (hctl : ¬ c.val < 0x20) (b : PyStr) :
    nfc (escapeLetter c :: b) = escapeLetter c :: nfc b := by
  have hletter : escapeLetter c = c := by
    rcases hc with hc | rfl | rfl
    · exact absurd hc hctl
    · decide
    · decide
  rw [hletter]
  exact N.inert c b (inert_of_special hc)

/-- Escapes stand when no letter at the end of one composes with what follows it. -/
theorem escapesStand_iff (N : NfcText nfc) {s : PyStr} : EscapesStand nfc s ↔
    ∀ a c b, s = a ++ c :: b → IsSpecial c →
      nfc (escapeLetter c :: b) = escapeLetter c :: nfc b := by
  refine ⟨fun h a c b hs hc => ?_, fun h a c b hs hc => h a c b hs (Or.inl hc)⟩
  by_cases hctl : c.val < 0x20
  · exact h a c b hs hctl
  · exact escapeLetter_stands N hc hctl b

/-- Where nothing is escaped they stand. -/
theorem escapesStand_of_unescaped {s : PyStr} (h : Unescaped s) : EscapesStand nfc s := by
  rintro a c b rfl hc
  exact absurd h (not_unescaped (Or.inl hc))

/-- They stand in a text when its first one does and those of the rest do. -/
theorem escapesStand_split (N : NfcText nfc) {p t : PyStr} {c : CodePoint} (hp : Unescaped p)
    (hc : IsSpecial c) : EscapesStand nfc (p ++ c :: t) ↔
      nfc (escapeLetter c :: t) = escapeLetter c :: nfc t ∧ EscapesStand nfc t := by
  rw [escapesStand_iff N, escapesStand_iff N]
  constructor
  · intro h
    exact ⟨h p c t rfl hc, fun a d b ht hd =>
      h (p ++ c :: a) d b (by rw [ht, List.append_assoc, List.cons_append]) hd⟩
  · rintro ⟨hfirst, hrest⟩ a d b hs hd
    -- the character is the first escaped one, or stands behind it
    rcases List.append_eq_append_iff.mp hs with ⟨m, hm, hm'⟩ | ⟨m, hm, hm'⟩
    · cases m with
      | nil =>
          obtain ⟨rfl, rfl⟩ := List.cons.inj hm'
          exact hfirst
      | cons x m =>
          obtain ⟨rfl, rfl⟩ := List.cons.inj hm'
          exact hrest m d b rfl hd
    · cases m with
      | nil =>
          obtain ⟨rfl, rfl⟩ := List.cons.inj hm'
          exact hfirst
      | cons x m =>
          obtain ⟨rfl, -⟩ := List.cons.inj hm'
          exact absurd hd (hp d (hm ▸ List.mem_append_right _ List.mem_cons_self))

/-- What stands behind the letter of an escape up to the next one decides whether it composes. -/
theorem letter_stands_iff (N : NfcText nfc) {l : CodePoint} (hu : ¬ IsSpecial l) (s : PyStr) :
    nfc (l :: escape s) = l :: escape (nfc s) ↔
      nfc (l :: s) = l :: nfc s ∧ nfc (escape s) = escape (nfc s) := by
  rcases unescaped_or_split s with hs | ⟨p, c, t, rfl, hp, hc⟩
  · rw [escape_of_unescaped hs, escape_of_unescaped (unescaped_nfc N hs)]
    exact ⟨fun h => ⟨h, rfl⟩, fun h => h.1⟩
  have hlp : Unescaped (l :: p) := List.forall_mem_cons.mpr ⟨hu, hp⟩
  have hnlp : Unescaped (l :: nfc p) := List.forall_mem_cons.mpr ⟨hu, unescaped_nfc N hp⟩
  rw [nfc_escape_split N hc hp, nfc_split N hc, escape_split hc (unescaped_nfc N hp),
    escape_split hc hp]
  show nfc ((l :: p) ++ backslash :: _) = (l :: nfc p) ++ backslash :: _ ↔
    nfc ((l :: p) ++ c :: t) = (l :: nfc p) ++ c :: nfc t ∧ _
  rw [nfc_split N isSpecial_backslash, nfc_split N hc]
  constructor
  · intro h
    obtain ⟨hfirst, -, hrest⟩ := split_special (unescaped_nfc N hlp) hnlp isSpecial_backslash
      isSpecial_backslash h
    exact ⟨by rw [hfirst], by rw [hrest]⟩
  · rintro ⟨hfirst, hrest⟩
    obtain ⟨hfirst, -, -⟩ := split_special (unescaped_nfc N hlp) hnlp hc hc hfirst
    obtain ⟨-, -, hrest⟩ := split_special (unescaped_nfc N hp) (unescaped_nfc N hp)
      isSpecial_backslash isSpecial_backslash hrest
    rw [hfirst, hrest]

/-- The escape of one character in front of escaped text. -/
theorem escapeTail_stands_iff (N : NfcText nfc) {c : CodePoint} (hc : IsSpecial c) (t : PyStr) :
    nfc (escapeTail c ++ escape t) = escapeTail c ++ escape (nfc t) ↔
      nfc (escapeLetter c :: t) = escapeLetter c :: nfc t ∧
        nfc (escape t) = escape (nfc t) := by
  have hl := escapeLetter_ascii hc
  have hstem : ∀ x, escapeTail c ++ x = escapeStem c ++ escapeLetter c :: x := by
    intro x
    rw [escapeTail_eq hc, List.append_assoc]
    rfl
  rw [hstem, hstem, nfc_ascii_append N (isPlain_escapeStem hc).isAscii hl]
  rcases escapeLetter_cases hc with ⟨hself, -⟩ | hu
  · -- a quote or a backslash composes with nothing
    have hinert : Inert (escapeLetter c) := by
      rw [hself]
      exact inert_of_special hc
    rw [N.inert _ _ hinert, N.inert _ _ hinert]
    constructor
    · intro h
      exact ⟨rfl, (List.cons.inj (List.append_cancel_left h)).2⟩
    · rintro ⟨-, h⟩
      rw [h]
  · rw [← letter_stands_iff N hu]
    exact ⟨List.append_cancel_left, fun h => by rw [h]⟩

/-- **WHEN ESCAPING AND NORMALISING COMMUTE**: exactly when no escape composes with what stands
    behind it. -/
theorem nfc_escape_eq_iff (N : NfcText nfc) {s : PyStr} :
    nfc (escape s) = escape (nfc s) ↔ EscapesStand nfc s := by
  induction s using escaped_induction with
  | unescaped s hs =>
      rw [escape_of_unescaped hs, escape_of_unescaped (unescaped_nfc N hs)]
      exact ⟨fun _ => escapesStand_of_unescaped hs, fun _ => rfl⟩
  | split p c t hp hc ih =>
      rw [nfc_escape_split N hc hp, nfc_split N hc, escape_split hc (unescaped_nfc N hp),
        escapesStand_split N hp hc, ← ih, ← escapeTail_stands_iff N hc]
      exact ⟨fun h => (List.cons.inj (List.append_cancel_left h)).2, fun h => by rw [h]⟩

/-! ## Where a string token ends -/

/-- Text in which every quote has a backslash of its own before it. -/
inductive Scanned : PyStr → Prop where
  | nil : Scanned []
  | plain {c : CodePoint} {s : PyStr} : c ≠ quote → c ≠ backslash → Scanned s → Scanned (c :: s)
  | escaped (c : CodePoint) {s : PyStr} : Scanned s → Scanned (backslash :: c :: s)

/-- **A TOKEN ENDS AT ITS CLOSING QUOTE**: two scanned bodies closed by a quote are the same body
    when the texts are the same. -/
theorem Scanned.close {a a' b b' : PyStr} (ha : Scanned a) (ha' : Scanned a')
    (h : a ++ quote :: b = a' ++ quote :: b') : a = a' ∧ b = b' := by
  induction ha generalizing a' with
  | nil =>
      cases ha' with
      | nil => exact ⟨rfl, (List.cons.inj h).2⟩
      | plain hq _ _ => exact absurd (List.cons.inj h).1.symm hq
      | escaped c _ => exact absurd (List.cons.inj h).1 (by decide)
  | plain hq hb _ ih =>
      cases ha' with
      | nil => exact absurd (List.cons.inj h).1 hq
      | plain _ _ hrest =>
          obtain ⟨hcd, hbody⟩ := List.cons.inj h
          obtain ⟨haa, hbb⟩ := ih hrest hbody
          exact ⟨by rw [hcd, haa], hbb⟩
      | escaped c _ => exact absurd (List.cons.inj h).1 hb
  | escaped c _ ih =>
      cases ha' with
      | nil => exact absurd (List.cons.inj h).1 (by decide)
      | plain _ hb _ => exact absurd (List.cons.inj h).1.symm hb
      | escaped d hrest =>
          obtain ⟨hcd, hbody⟩ := List.cons.inj (List.cons.inj h).2
          obtain ⟨haa, hbb⟩ := ih hrest hbody
          exact ⟨by rw [hcd, haa], hbb⟩

theorem Scanned.append_plain {p s : PyStr} (hp : Unescaped p) (hs : Scanned s) :
    Scanned (p ++ s) := by
  induction p with
  | nil => exact hs
  | cons c p ih =>
      have hc := hp c List.mem_cons_self
      exact .plain (fun hq => hc (Or.inr (Or.inl hq))) (fun hb => hc (Or.inr (Or.inr hb)))
        (ih fun d hd => hp d (List.mem_cons_of_mem _ hd))

/-- An escape keeps its backslash and one character behind it, whatever composes. -/
theorem scanned_escapeTail (N : NfcText nfc) {c : CodePoint} (hc : IsSpecial c) {t : PyStr}
    (ht : Scanned (nfc (escape t)))
    (hletter : ∀ l : CodePoint, l.val < 128 → ¬ IsSpecial l →
      ∃ h r, nfc (l :: escape t) = h :: r ∧ ¬ IsSpecial h ∧ Scanned r) :
    Scanned (backslash :: nfc (escapeTail c ++ escape t)) := by
  have hl := escapeLetter_ascii hc
  rw [escapeTail_eq hc, List.append_assoc,
    show [escapeLetter c] ++ escape t = escapeLetter c :: escape t from rfl,
    nfc_ascii_append N (isPlain_escapeStem hc).isAscii hl]
  rcases escapeLetter_cases hc with ⟨hself, hstem⟩ | hu
  · rw [hstem, hself, N.inert c _ (inert_of_special hc)]
    exact .escaped c ht
  obtain ⟨h, r, heq, hh, hr⟩ := hletter _ hl hu
  have hscan : Scanned (h :: r) :=
    .plain (fun hq => hh (Or.inr (Or.inl hq))) (fun hb => hh (Or.inr (Or.inr hb))) hr
  rw [heq]
  cases hst : escapeStem c with
  | nil => exact .escaped h hr
  | cons x stem =>
      refine .escaped x (Scanned.append_plain (fun d hd => ?_) hscan)
      have hplain := isPlain_escapeStem hc d (hst ▸ List.mem_cons_of_mem _ hd)
      simp only [IsSpecial]
      push Not
      exact ⟨hplain.2.1, hplain.2.2.1, hplain.2.2.2⟩

/-- **THE BODY OF A NORMALISED TOKEN** is scanned. -/
theorem scanned_nfc_escape (N : NfcText nfc) (s : PyStr) : Scanned (nfc (escape s)) := by
  have hboth : Scanned (nfc (escape s)) ∧ ∀ l : CodePoint, l.val < 128 → ¬ IsSpecial l →
      ∃ h r, nfc (l :: escape s) = h :: r ∧ ¬ IsSpecial h ∧ Scanned r := by
    induction s using escaped_induction with
    | unescaped s hs =>
        rw [escape_of_unescaped hs]
        have hscan := Scanned.append_plain (unescaped_nfc N hs) .nil
        rw [List.append_nil] at hscan
        refine ⟨hscan, fun l hl hu => ?_⟩
        have hls := unescaped_nfc N (List.forall_mem_cons.mpr ⟨hu, hs⟩)
        obtain ⟨h, r, heq⟩ := List.exists_cons_of_ne_nil (nfc_cons_ne_nil N hl s)
        rw [heq] at hls
        have hr := Scanned.append_plain (fun d hd => hls d (List.mem_cons_of_mem _ hd)) .nil
        rw [List.append_nil] at hr
        exact ⟨h, r, heq, hls h List.mem_cons_self, hr⟩
    | split p c t hp hc ih =>
        have hrest := scanned_escapeTail N hc ih.1 ih.2
        refine ⟨?_, fun l hl hu => ?_⟩
        · rw [nfc_escape_split N hc hp]
          exact Scanned.append_plain (unescaped_nfc N hp) hrest
        · have hlp := unescaped_nfc N (List.forall_mem_cons.mpr ⟨hu, hp⟩)
          obtain ⟨h, r, heq⟩ := List.exists_cons_of_ne_nil (nfc_cons_ne_nil N hl p)
          rw [heq] at hlp
          refine ⟨h, r ++ backslash :: nfc (escapeTail c ++ escape t), ?_,
            hlp h List.mem_cons_self,
            Scanned.append_plain (fun d hd => hlp d (List.mem_cons_of_mem _ hd)) hrest⟩
          rw [escape_split hc hp, ← List.cons_append, nfc_split N isSpecial_backslash, heq]
          rfl
  exact hboth.1

/-! ## The facts hold together

    A normal form with two entries of the Unicode tables: the Kelvin sign is canonically `K`, and
    `n` with a combining tilde composes. -/

/-- U+212A KELVIN SIGN -/
def kelvin : CodePoint := 0x212A

/-- U+0303 COMBINING TILDE -/
def tilde : CodePoint := 0x303

/-- U+00F1 LATIN SMALL LETTER N WITH TILDE -/
def enye : CodePoint := 0xF1

def decomposeChar (c : CodePoint) : PyStr :=
  if c = kelvin then py "K" else if c = enye then [codePoint 'n', tilde] else [c]

def decompose (s : PyStr) : PyStr := s.flatMap decomposeChar

def compose : PyStr → PyStr
  | [] => []
  | [c] => [c]
  | c :: d :: s => if c = codePoint 'n' ∧ d = tilde then enye :: compose s else c :: compose (d :: s)

/-- Normalisation with these two entries. -/
def sampleNfc (s : PyStr) : PyStr := compose (decompose s)

theorem decompose_append (s t : PyStr) : decompose (s ++ t) = decompose s ++ decompose t :=
  List.flatMap_append

theorem decomposeChar_self {c : CodePoint} (hk : c ≠ kelvin) (he : c ≠ enye) :
    decomposeChar c = [c] := by
  rw [decomposeChar, if_neg hk, if_neg he]

theorem decomposeChar_ascii {c : CodePoint} (hc : c.val < 128) : decomposeChar c = [c] := by
  refine decomposeChar_self (fun h => ?_) fun h => ?_
  · rw [h] at hc
    exact absurd hc (by decide)
  · rw [h] at hc
    exact absurd hc (by decide)

/-- A character of a decomposition was there before, or comes from one of the two entries. -/
theorem mem_decompose {s : PyStr} {d : CodePoint} (hd : d ∈ decompose s) :
    (d ∈ s ∧ d ≠ kelvin ∧ d ≠ enye) ∨ (d = codePoint 'K' ∧ kelvin ∈ s) ∨
      ((d = codePoint 'n' ∨ d = tilde) ∧ enye ∈ s) := by
  obtain ⟨c, hc, hd⟩ := List.mem_flatMap.mp hd
  simp only [decomposeChar] at hd
  split_ifs at hd with hk he
  · exact Or.inr (Or.inl ⟨List.mem_singleton.mp hd, hk ▸ hc⟩)
  · exact Or.inr (Or.inr ⟨by simpa using hd, he ▸ hc⟩)
  · rw [List.mem_singleton.mp hd]
    exact Or.inl ⟨hc, hk, he⟩

/-- Composing brings no character but the composed one. -/
theorem mem_compose {s : PyStr} {d : CodePoint} (hd : d ∈ compose s) : d ∈ s ∨ d = enye := by
  induction s using compose.induct with
  | case1 => exact Or.inl hd
  | case2 c => exact Or.inl hd
  | case3 c e s h ih =>
      rw [compose, if_pos h] at hd
      rcases List.mem_cons.mp hd with rfl | hd
      · exact Or.inr rfl
      · exact (ih hd).imp_left fun h => List.mem_cons_of_mem _ (List.mem_cons_of_mem _ h)
  | case4 c e s h ih =>
      rw [compose, if_neg h] at hd
      rcases List.mem_cons.mp hd with rfl | hd
      · exact Or.inl List.mem_cons_self
      · exact (ih hd).imp_left fun h => List.mem_cons_of_mem _ h

theorem compose_cons {c : CodePoint} (hc : c ≠ codePoint 'n') (s : PyStr) :
    compose (c :: s) = c :: compose s := by
  cases s with
  | nil => rfl
  | cons d s => rw [compose, if_neg fun h => hc h.1]

/-- Without a tilde nothing composes. -/
theorem compose_self {s : PyStr} (h : tilde ∉ s) : compose s = s := by
  induction s using compose.induct with
  | case1 => rfl
  | case2 c => rfl
  | case3 c d s hcd _ =>
      rw [hcd.2] at h
      exact absurd (List.mem_cons_of_mem _ List.mem_cons_self) h
  | case4 c d s hcd ih =>
      rw [compose, if_neg hcd, ih fun hm => h (List.mem_cons_of_mem _ hm)]

/-- Nothing composes across an ASCII character. -/
theorem compose_append {c : CodePoint} (hc : c ≠ tilde) (a b : PyStr) :
    compose (a ++ c :: b) = compose a ++ compose (c :: b) := by
  induction a using compose.induct with
  | case1 => rfl
  | case2 d =>
      show compose (d :: c :: b) = d :: compose (c :: b)
      rw [compose, if_neg fun h => hc h.2]
  | case3 d e s h ih =>
      show compose (d :: e :: (s ++ c :: b)) = _
      rw [compose, if_pos h, ih, compose, if_pos h]
      rfl
  | case4 d e s h ih =>
      show compose (d :: e :: (s ++ c :: b)) = _
      rw [compose, if_neg h, compose, if_neg h]
      exact congrArg _ ih

/-- Decomposing undoes composing. -/
theorem decompose_sampleNfc (s : PyStr) : decompose (sampleNfc s) = decompose s := by
  have hback : ∀ d : PyStr, (∀ c ∈ d, c ≠ kelvin ∧ c ≠ enye) → decompose (compose d) = d := by
    intro d hd
    induction d using compose.induct with
    | case1 => rfl
    | case2 c =>
        obtain ⟨hk, he⟩ := hd c List.mem_cons_self
        show decomposeChar c ++ [] = [c]
        rw [decomposeChar_self hk he]
        rfl
    | case3 c e s h ih =>
        rw [compose, if_pos h]
        show decomposeChar enye ++ decompose (compose s) = _
        rw [ih fun x hx => hd x (List.mem_cons_of_mem _ (List.mem_cons_of_mem _ hx)), h.1, h.2]
        rfl
    | case4 c e s h ih =>
        obtain ⟨hk, he⟩ := hd c List.mem_cons_self
        rw [compose, if_neg h]
        show decomposeChar c ++ decompose (compose (e :: s)) = _
        rw [ih fun x hx => hd x (List.mem_cons_of_mem _ hx), decomposeChar_self hk he]
        rfl
  refine hback _ fun c hc => ?_
  rcases mem_decompose hc with ⟨-, h⟩ | ⟨rfl, -⟩ | ⟨rfl | rfl, -⟩
  · exact h
  · exact ⟨by decide, by decide⟩
  · exact ⟨by decide, by decide⟩
  · exact ⟨by decide, by decide⟩

/-- Texts have one normal form when they have one decomposition. -/
theorem sampleNfc_eq_iff {a b : PyStr} :
    sampleNfc a = sampleNfc b ↔ decompose a = decompose b := by
  refine ⟨fun h => ?_, fun h => by rw [sampleNfc, h, sampleNfc]⟩
  rw [← decompose_sampleNfc a, h, decompose_sampleNfc]

theorem decompose_ascii {s : PyStr} (h : IsAscii s) : decompose s = s := by
  induction s with
  | nil => rfl
  | cons c s ih =>
      rw [isAscii_cons] at h
      show decomposeChar c ++ decompose s = c :: s
      rw [decomposeChar_ascii h.1, ih h.2]
      rfl

theorem decompose_cons_ascii {c : CodePoint} (hc : c.val < 128) (s : PyStr) :
    decompose (c :: s) = c :: decompose s := by
  show decomposeChar c ++ decompose s = c :: decompose s
  rw [decomposeChar_ascii hc]
  rfl

theorem ne_tilde_of_ascii {c : CodePoint} (hc : c.val < 128) : c ≠ tilde := by
  rintro rfl
  exact absurd hc (by decide)

/-- Before an ASCII character the normal form splits. -/
theorem sampleNfc_before_ascii (a : PyStr) (c : CodePoint) (b : PyStr) (hc : c.val < 128) :
    sampleNfc (a ++ c :: b) = sampleNfc a ++ sampleNfc (c :: b) := by
  rw [sampleNfc, decompose_append, decompose_cons_ascii hc, compose_append (ne_tilde_of_ascii hc),
    sampleNfc, sampleNfc, decompose_cons_ascii hc]

theorem sampleNfc_inert (c : CodePoint) (b : PyStr) (hc : Inert c) :
    sampleNfc (c :: b) = c :: sampleNfc b := by
  rw [sampleNfc, decompose_cons_ascii hc.1, compose_cons, sampleNfc]
  rintro rfl
  exact absurd hc (by decide)

theorem sampleNfc_inert_free (c : CodePoint) (a : PyStr) (hc : Inert c) (ha : c ∉ a) :
    c ∉ sampleNfc a := by
  intro hm
  rcases mem_compose hm with hm | rfl
  · rcases mem_decompose hm with ⟨hm, -⟩ | ⟨rfl, -⟩ | ⟨rfl | rfl, -⟩
    · exact ha hm
    · exact absurd hc (by decide)
    · exact absurd hc (by decide)
    · exact absurd hc (by decide)
  · exact absurd hc (by decide)

theorem sampleNfc_hex (a : PyStr) (h : IsHex (sampleNfc a)) : sampleNfc a = a := by
  have hself : decompose a = sampleNfc a := by
    rw [← decompose_sampleNfc a]
    exact decompose_ascii h.isPlain.isAscii
  have hnot : ∀ c, decomposeChar c <:+: decompose a → ∀ d ∈ decomposeChar c, IsHexDigit d :=
    fun c hc d hd => h d (hself ▸ hc.subset hd)
  have hfixed : ∀ s : PyStr, (∀ c ∈ s, c ≠ kelvin ∧ c ≠ enye) → decompose s = s := by
    intro s hs
    induction s with
    | nil => rfl
    | cons c s ih =>
        obtain ⟨hk, he⟩ := hs c List.mem_cons_self
        show decomposeChar c ++ decompose s = c :: s
        rw [decomposeChar_self hk he, ih fun d hd => hs d (List.mem_cons_of_mem _ hd)]
        rfl
  rw [← hself]
  refine hfixed a fun c hc => ?_
  have hinfix : decomposeChar c <:+: decompose a := List.infix_flatMap_of_mem hc decomposeChar
  refine ⟨?_, ?_⟩
  · rintro rfl
    have := hnot kelvin hinfix (codePoint 'K') (by decide)
    simp only [IsHexDigit] at this
    exact absurd this (by decide)
  · rintro rfl
    have := hnot enye hinfix (codePoint 'n') (by decide)
    simp only [IsHexDigit] at this
    exact absurd this (by decide)

/-- ASCII is in normal form. -/
theorem sampleNfc_ascii (s : PyStr) (h : IsAscii s) : sampleNfc s = s := by
  rw [sampleNfc, decompose_ascii h]
  exact compose_self fun hm => absurd (h tilde hm) (by decide)

/-- **THE FACTS HOLD TOGETHER.** -/
theorem sampleNfc_text : NfcText sampleNfc where
  ascii := sampleNfc_ascii
  quote_boundary a b := by
    rw [sampleNfc_before_ascii a quote b (by decide), sampleNfc_inert quote b (by decide)]
  quote_free a ha := sampleNfc_inert_free quote a (by decide) ha
  hex := sampleNfc_hex
  before_ascii := sampleNfc_before_ascii
  inert := sampleNfc_inert
  inert_free := sampleNfc_inert_free
  congr a a' b b' ha hb := by
    rw [sampleNfc_eq_iff] at ha hb ⊢
    rw [decompose_append, decompose_append, ha, hb]
  ascii_cons c d a b hc hd h := by
    rw [sampleNfc_eq_iff, decompose_cons_ascii hc, decompose_cons_ascii hd] at h
    exact ⟨(List.cons.inj h).1, sampleNfc_eq_iff.mpr (List.cons.inj h).2⟩
  scalar a ha c hc := by
    rcases mem_compose hc with hc | rfl
    · rcases mem_decompose hc with ⟨hc, -⟩ | ⟨rfl, -⟩ | ⟨rfl | rfl, -⟩
      · exact ha c hc
      · exact Or.inl (by decide)
      · exact Or.inl (by decide)
      · exact Or.inl (by decide)
    · exact Or.inl (by decide)

/-- Every `K` written as the Kelvin sign, which normalises to it. -/
def respell (s : PyStr) : PyStr := s.map fun c => if c = codePoint 'K' then kelvin else c

/-- A text that is respelled keeps its normal form. -/
theorem sampleNfc_respell (s : PyStr) : sampleNfc s = sampleNfc (respell s) := by
  rw [sampleNfc_eq_iff]
  induction s with
  | nil => rfl
  | cons c s ih =>
      show decomposeChar c ++ decompose s
        = decomposeChar (if c = codePoint 'K' then kelvin else c) ++ decompose (respell s)
      rw [ih]
      by_cases hc : c = codePoint 'K'
      · rw [if_pos hc, hc]
        rfl
      · rw [if_neg hc]

end AgentNormalization
