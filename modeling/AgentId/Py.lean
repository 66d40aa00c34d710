import Mathlib.Data.Fin.Basic
import Mathlib.Data.List.Forall2
import AgentId.Double
import AgentId.Raises

/-!
# The Python values the package computes with

Strings, bytes, exceptions and instants, as the modules of `fg_agent_id` use them.

* **`PyStr`** — a `str` is a list of code points, lone surrogates included: a parsed JSON
  document may carry them, and only `utf8Encode` refuses them.
* **`PyError`** — an exception is its class and its message; a message keeps the pieces of
  the f-string it was written as, so its text is the source's and no `repr` is needed.
* **`Datetime`** — a `datetime` in UTC is its instant, in microseconds since year 1; arithmetic
  that leaves the representable years is an `OverflowError`.
-/

namespace AgentPy

open AgentHalfEven AgentDouble AgentRaises

/-- One character of a Python `str`: any code point, lone surrogates included. -/
abbrev CodePoint := Fin 0x110000

instance codePointNeZero : NeZero (0x110000 : ℕ) := ⟨by decide⟩

abbrev PyStr := List CodePoint

instance pyStrLawfulBEq : LawfulBEq PyStr := inferInstance

abbrev Bytes := List UInt8

/-- The code point of a Lean character. -/
def codePoint (c : Char) : CodePoint :=
  ⟨c.toNat, by
    rcases c.valid with h | ⟨-, h⟩
    · exact Nat.lt_trans h (by decide)
    · exact h⟩

/-- A string literal of the source. -/
def py (s : String) : PyStr := s.toList.map codePoint

/-- The character of a code point; none for a lone surrogate. -/
def toChar? (c : CodePoint) : Option Char :=
  if c.val.isValidChar then some (Char.ofNat c.val) else none

def IsAscii (s : PyStr) : Prop := ∀ c ∈ s, c.val < 128

instance (s : PyStr) : Decidable (IsAscii s) :=
  List.decidableBAll (fun c : CodePoint => c.val < 128) s

theorem toNat_ofNat_of_lt {n : ℕ} (h : n < 256) : (UInt8.ofNat n).toNat = n :=
  UInt8.toNat_ofNat_of_lt' h

/-! ## Exceptions -/

/-- The exception classes the modelled functions raise (`errors.py` and builtins). -/
inductive ErrorClass where
  | addressError
  | signatureError
  | cardError
  | delegationError
  | spendScopeError
  | rotationError
  | valueError
  | typeError
  | keyError
  | attributeError
  | overflowError
  | recursionError
  | unicodeEncodeError
  | decimalOverflow
  deriving DecidableEq, Repr

/-- A piece of an f-string: literal text, `{x}` for a string, `{x!r}`, an integer, a list of
    names, an instant, or a decimal by its sign, coefficient and exponent. -/
inductive Part where
  | text (s : String)
  | str (s : PyStr)
  | repr (s : PyStr)
  | int (n : Int)
  | names (ns : List PyStr)
  | time (us : Int)
  | decimal (negative : Bool) (coeff : ℕ) (exp : Int)
  deriving DecidableEq

instance : Coe String Part := ⟨.text⟩
instance : Coe PyStr Part := ⟨.str⟩

structure PyError where
  cls : ErrorClass
  message : List Part
  deriving DecidableEq

/-- What a call returns, or the exception it raises. -/
abbrev Py (α : Type) := Except PyError α

def raise {α : Type} (cls : ErrorClass) (message : List Part) : Py α :=
  .error ⟨cls, message⟩

/-- `if bad: raise ...`, the guard every check of the package is written as. -/
def raiseIf (bad : Prop) [Decidable bad] (cls : ErrorClass) (message : List Part) : Py Unit :=
  if bad then raise cls message else .ok ()

@[simp] theorem raiseIf_ok_iff (bad : Prop) [Decidable bad] (cls : ErrorClass)
    (message : List Part) (u : Unit) : raiseIf bad cls message = .ok u ↔ ¬ bad := by
  simp only [raiseIf, raise]
  by_cases h : bad <;> simp [h]

theorem raises_raiseIf {p : PyError → Prop} {bad : Prop} [Decidable bad] {cls : ErrorClass}
    {message : List Part} (h : p ⟨cls, message⟩) : Raises p (raiseIf bad cls message) := by
  rw [raiseIf]
  split_ifs
  · exact raises_error_iff.mpr h
  · exact raises_ok ()

/-- Two calls that raise return the same things: none. -/
theorem raised_iff_raised {ε ε' α β : Type} {e : ε} {e' : ε'} {a : α} {b : β} :
    (Except.error e : Except ε α) = .ok a ↔ (Except.error e' : Except ε' β) = .ok b :=
  iff_of_false (fun h => nomatch h) fun h => nomatch h

/-- `try: x` / `except Exception as exc: raise ... from exc`. -/
def exceptRaise {α : Type} (x : Py α) (cls : ErrorClass) (message : List Part) : Py α :=
  match x with
  | .ok a => .ok a
  | .error _ => raise cls message

@[simp] theorem exceptRaise_ok_iff {α : Type} {x : Py α} {cls : ErrorClass}
    {message : List Part} {a : α} : exceptRaise x cls message = .ok a ↔ x = .ok a := by
  cases x with
  | ok b => exact Iff.rfl
  | error e => exact raised_iff_raised

theorem raises_exceptRaise {α : Type} {x : Py α} {p : PyError → Prop} {cls : ErrorClass}
    {message : List Part} (h : p ⟨cls, message⟩) : Raises p (exceptRaise x cls message) := by
  cases x with
  | ok b => exact raises_ok b
  | error e => exact raises_error_iff.mpr h

section Except

variable {ε α β γ : Type}

/-- A sequence returns exactly when both halves do. -/
theorem bind_ok_iff {x : Except ε α} {f : α → Except ε β} {b : β} :
    (x >>= f) = .ok b ↔ ∃ a, x = .ok a ∧ f a = .ok b := by
  cases x with
  | error e =>
      constructor
      · intro h
        exact nomatch h
      · rintro ⟨_, h, _⟩
        exact nomatch h
  | ok a =>
      constructor
      · intro h
        exact ⟨a, rfl, h⟩
      · rintro ⟨_, h, hf⟩
        cases h
        exact hf

/-- A check, then the rest. -/
theorem seq_ok_iff {x : Except ε Unit} {y : Except ε β} {b : β} :
    (x >>= fun _ => y) = .ok b ↔ x = .ok () ∧ y = .ok b := by
  rw [bind_ok_iff]
  constructor
  · rintro ⟨⟨⟩, hx, hy⟩
    exact ⟨hx, hy⟩
  · rintro ⟨hx, hy⟩
    exact ⟨(), hx, hy⟩

/-- A sequence raises what its first failing half raises. -/
theorem bind_error_iff {x : Except ε α} {f : α → Except ε β} {e : ε} :
    (x >>= f) = .error e ↔ x = .error e ∨ ∃ a, x = .ok a ∧ f a = .error e := by
  cases x with
  | error e' =>
      constructor
      · intro h
        exact Or.inl (congrArg _ (Except.error.inj h))
      · rintro (h | ⟨_, h, _⟩)
        · cases h
          rfl
        · exact nomatch h
  | ok a =>
      constructor
      · intro h
        exact Or.inr ⟨a, rfl, h⟩
      · rintro (h | ⟨_, h, hf⟩)
        · exact nomatch h
        · cases h; exact hf

/-- **A LIST COMPREHENSION** returns when each of its calls does. -/
theorem mapM_ok_iff {f : α → Except ε β} {l : List α} {l' : List β} :
    l.mapM f = .ok l' ↔ List.Forall₂ (fun a b => f a = .ok b) l l' := by
  induction l generalizing l' with
  | nil =>
      rw [List.mapM_nil]
      constructor
      · intro h
        cases h
        exact .nil
      · intro h
        cases h
        rfl
  | cons a l ih =>
      rw [List.mapM_cons, bind_ok_iff]
      constructor
      · rintro ⟨b, hb, h⟩
        obtain ⟨bs, hbs, h⟩ := bind_ok_iff.mp h
        cases h
        exact .cons hb (ih.mp hbs)
      · intro h
        cases h with
        | cons hb hbs => exact ⟨_, hb, bind_ok_iff.mpr ⟨_, ih.mpr hbs, rfl⟩⟩

/-- It returns the value of each call at its place. -/
theorem getElem?_of_mapM_ok {f : α → Except ε β} {l : List α} {l' : List β}
    (h : l.mapM f = .ok l') {i : ℕ} {a : α} (ha : l[i]? = some a) :
    ∃ b, f a = .ok b ∧ l'[i]? = some b := by
  have hall := mapM_ok_iff.mp h
  clear h
  induction hall generalizing i with
  | nil => cases ha
  | cons hb _ ih =>
      cases i with
      | zero =>
          cases ha
          exact ⟨_, hb, rfl⟩
      | succ i => exact ih ha

/-- What a list was made into is made back when each of its members is. -/
theorem mapM_map_ok {f : α → β} {g : β → Except ε γ} {k : α → γ} {l : List α}
    (h : ∀ a ∈ l, g (f a) = .ok (k a)) : (l.map f).mapM g = .ok (l.map k) := by
  rw [mapM_ok_iff, List.forall₂_map_left_iff, List.forall₂_map_right_iff]
  exact List.forall₂_same.mpr h

/-- Into itself, when each member comes back as it was. -/
theorem mapM_map_self {f : α → β} {g : β → Except ε α} {l : List α}
    (h : ∀ a ∈ l, g (f a) = .ok a) : (l.map f).mapM g = .ok l := by
  have hback := mapM_map_ok h
  rwa [List.map_id'] at hback

/-- Calls that return on the values of one form only, and what they hold. -/
theorem mapM_ok_iff_eq_map {f : α → Except ε β} {g : β → α} (h : ∀ a b, f a = .ok b ↔ a = g b)
    {l : List α} {l' : List β} : l.mapM f = .ok l' ↔ l = l'.map g := by
  rw [mapM_ok_iff, ← List.forall₂_eq_eq_eq, List.forall₂_map_right_iff]
  simp only [h]

theorem ok_or_error (x : Except ε α) : (∃ a, x = .ok a) ∨ ∃ e, x = .error e := by
  cases x with
  | ok a => exact Or.inl ⟨a, rfl⟩
  | error e => exact Or.inr ⟨e, rfl⟩

theorem toOption_eq_some_iff {x : Except ε α} {a : α} : x.toOption = some a ↔ x = .ok a := by
  cases x with
  | ok b => exact ⟨fun h => congrArg Except.ok (Option.some.inj h),
      fun h => congrArg some (Except.ok.inj h)⟩
  | error e => exact ⟨fun h => absurd h (Option.some_ne_none a).symm, fun h => by cases h⟩

end Except

/-! ## UTF-8 -/

/-- `text.encode("utf-8")`. -/
def utf8Encode (s : PyStr) : Py Bytes :=
  match s.mapM toChar? with
  | some cs => .ok (cs.flatMap String.utf8EncodeChar)
  | none => raise .unicodeEncodeError ["surrogates not allowed"]

theorem utf8Encode_error {s : PyStr} :
    Raises (fun e => e.cls = .unicodeEncodeError) (utf8Encode s) := by
  rw [utf8Encode]
  cases s.mapM toChar? with
  | some cs => exact raises_ok _
  | none => exact raises_error_iff.mpr rfl

theorem codePoint_of_toChar? {c : CodePoint} {ch : Char} (h : toChar? c = some ch) :
    codePoint ch = c := by
  simp only [toChar?] at h
  by_cases hv : c.val.isValidChar
  · rw [if_pos hv] at h
    cases h
    apply Fin.ext
    show (Char.ofNat c.val).toNat = c.val
    rw [Char.ofNat, dif_pos hv]
    rfl
  · rw [if_neg hv] at h
    exact nomatch h

/-- The scalar characters of a string determine it. -/
theorem map_codePoint_of_mapM {s : PyStr} {cs : List Char} (h : s.mapM toChar? = some cs) :
    cs.map codePoint = s := by
  induction s generalizing cs with
  | nil =>
      rw [List.mapM_nil] at h
      cases h
      rfl
  | cons c s ih =>
      rw [List.mapM_cons] at h
      obtain ⟨ch, hc, h⟩ := Option.bind_eq_some_iff.mp h
      obtain ⟨cs', hs, h⟩ := Option.bind_eq_some_iff.mp h
      cases h
      rw [List.map_cons, codePoint_of_toChar? hc, ih hs]

/-- **UTF-8 IS INJECTIVE** on the strings it encodes. -/
theorem utf8Encode_inj {s t : PyStr} {b : Bytes} (hs : utf8Encode s = .ok b)
    (ht : utf8Encode t = .ok b) : s = t := by
  simp only [utf8Encode] at hs ht
  cases hcs : s.mapM toChar? with
  | none => rw [hcs] at hs; exact nomatch hs
  | some cs =>
      cases hct : t.mapM toChar? with
      | none => rw [hct] at ht; exact nomatch ht
      | some ct =>
          rw [hcs] at hs
          rw [hct] at ht
          have hflat : cs.flatMap String.utf8EncodeChar = ct.flatMap String.utf8EncodeChar :=
            (Except.ok.inj hs).trans (Except.ok.inj ht).symm
          have henc : cs.utf8Encode = ct.utf8Encode := congrArg List.toByteArray hflat
          have hdec : some cs.toArray = some ct.toArray := by
            rw [← List.utf8Decode?_utf8Encode, ← List.utf8Decode?_utf8Encode, henc]
          have hlist : cs = ct := by
            simpa using hdec
          rw [← map_codePoint_of_mapM hcs, ← map_codePoint_of_mapM hct, hlist]

theorem toChar?_ascii {c : CodePoint} (h : c.val < 128) : ∃ ch, toChar? c = some ch := by
  refine ⟨Char.ofNat c.val, ?_⟩
  simp only [toChar?]
  rw [if_pos (Or.inl (by omega))]

/-- ASCII text always encodes, one byte a character. -/
theorem utf8Encode_ascii {s : PyStr} (h : IsAscii s) :
    ∃ b, utf8Encode s = .ok b ∧ b.length = s.length := by
  have hm : ∃ cs, s.mapM toChar? = some cs ∧
      (cs.flatMap String.utf8EncodeChar).length = s.length := by
    induction s with
    | nil => exact ⟨[], rfl, rfl⟩
    | cons c s ih =>
        obtain ⟨ch, hc⟩ := toChar?_ascii (h c List.mem_cons_self)
        obtain ⟨cs, hs, hlen⟩ := ih (fun d hd => h d (List.mem_cons_of_mem _ hd))
        have hsize : ch.utf8Size = 1 := by
          have hval : ch.toNat < 128 := by
            have := h c List.mem_cons_self
            rwa [← codePoint_of_toChar? hc] at this
          rw [Char.utf8Size_eq_one_iff, UInt32.le_iff_toNat_le]
          exact Nat.le_of_lt_succ hval
        refine ⟨ch :: cs, by simp [List.mapM_cons, hc, hs], ?_⟩
        rw [List.flatMap_cons, List.length_append, hlen, String.length_utf8EncodeChar, hsize,
          List.length_cons]
        omega
  obtain ⟨cs, hcs, hlen⟩ := hm
  exact ⟨cs.flatMap String.utf8EncodeChar, by rw [utf8Encode, hcs], hlen⟩

@[simp] theorem isAscii_append {s t : PyStr} : IsAscii (s ++ t) ↔ IsAscii s ∧ IsAscii t := by
  simp only [IsAscii]
  simp only [List.mem_append]
  exact ⟨fun h => ⟨fun c hc => h c (Or.inl hc), fun c hc => h c (Or.inr hc)⟩,
    fun ⟨h1, h2⟩ c hc => hc.elim (h1 c) (h2 c)⟩

@[simp] theorem isAscii_cons {c : CodePoint} {s : PyStr} :
    IsAscii (c :: s) ↔ c.val < 128 ∧ IsAscii s := by
  simp only [IsAscii]
  simp

@[simp] theorem isAscii_nil : IsAscii [] := by
  intro c hc
  exact nomatch hc

/-! ## Instants -/

/-- Microseconds in the years 1 to 9999. -/
def maxMicros : Int := 3652059 * 86400000000

/-- An aware `datetime` in UTC, as `datetime.now(UTC)` gives it: its instant, in microseconds since
    0001-01-01T00:00:00Z. -/
structure Datetime where
  us : Int
  us_nonneg : 0 ≤ us
  us_lt : us < maxMicros
  deriving DecidableEq

/-- The datetime of an instant, or the `OverflowError` of arithmetic that leaves the years
    1 to 9999. -/
def Datetime.ofMicros (us : Int) : Py Datetime :=
  if h : 0 ≤ us ∧ us < maxMicros then .ok ⟨us, h.1, h.2⟩
  else raise .overflowError ["date value out of range"]

/-- `now - leeway`, with the `timedelta` in microseconds. -/
def Datetime.sub (d : Datetime) (delta : Int) : Py Datetime := Datetime.ofMicros (d.us - delta)

/-- `now + leeway`. -/
def Datetime.add (d : Datetime) (delta : Int) : Py Datetime := Datetime.ofMicros (d.us + delta)

theorem Datetime.ofMicros_us {us : Int} {d : Datetime} (h : Datetime.ofMicros us = .ok d) :
    d.us = us := by
  simp only [Datetime.ofMicros] at h
  by_cases hr : 0 ≤ us ∧ us < maxMicros
  · rw [dif_pos hr] at h
    cases h
    rfl
  · rw [dif_neg hr] at h
    exact nomatch h

/-- The whole part of a number, towards zero. -/
def truncate (x : ℚ) : Int := if x < 0 then -⌊-x⌋ else ⌊x⌋

/-- `timedelta(seconds=s)`, in microseconds: the whole seconds exactly, the rest of the double times
    a million in floating point, and the sum rounded half to even. -/
def timedelta (seconds : ℚ) : Int :=
  halfEven ((truncate seconds : ℚ) * 1000000 + double (1000000 * (seconds - truncate seconds)))

example : timedelta (double (5 / 2000000)) = 2 := by decide +kernel

@[simp] theorem truncate_intCast (n : Int) : truncate (n : ℚ) = n := by
  rw [truncate, ← Int.cast_neg, Int.floor_intCast, Int.floor_intCast, neg_neg, ite_self]

/-- Whole seconds are counted exactly. -/
theorem timedelta_intCast (n : Int) : timedelta (n : ℚ) = n * 1000000 := by
  have hcast : (n : ℚ) * 1000000 = ((n * 1000000 : Int) : ℚ) := by
    push_cast
    rfl
  rw [timedelta, truncate_intCast, sub_self, mul_zero, double_zero, add_zero, hcast,
    halfEven_intCast]

@[simp] theorem timedelta_zero : timedelta 0 = 0 := by
  rw [← Int.cast_zero, timedelta_intCast, zero_mul]

end AgentPy
