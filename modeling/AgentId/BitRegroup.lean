import Mathlib.Data.Nat.ModEq
import Mathlib.Tactic.Ring

/-!
# Regrouping bits

A codec reads digits of `a` bits and writes digits of `b` bits.  It shifts what it reads into an
accumulator and counts the bits it has not written yet; as soon as there are `b` of them it writes
the oldest.  On integers of limited width the accumulator drops its high bits.

* **`position_feed`** — every bit read is written or counted.
* **`out_feed_eq`** — what is written does not depend on the bits that are dropped, as long as the
  width holds a digit and the bits not written yet.
-/

namespace AgentRegroup

/-- The accumulator, how many of its low bits are not written yet, and the digits written. -/
structure Buffer where
  acc : ℕ
  bits : ℕ
  out : List ℕ

/-- One digit of `a` bits is read; `wrap` is what the integers at hand keep of the accumulator. -/
def push (a b : ℕ) (wrap : ℕ → ℕ) (s : Buffer) (d : ℕ) : Buffer :=
  let acc := wrap (s.acc * 2 ^ a + d)
  if b ≤ s.bits + a then
    ⟨acc, s.bits + a - b, s.out ++ [acc / 2 ^ (s.bits + a - b) % 2 ^ b]⟩
  else ⟨acc, s.bits + a, s.out⟩

/-- A whole run, from the empty buffer. -/
def feed (a b : ℕ) (wrap : ℕ → ℕ) (ds : List ℕ) : Buffer := ds.foldl (push a b wrap) ⟨0, 0, []⟩

variable {a b w : ℕ} {wrap wrap' : ℕ → ℕ}

/-! ## Where the buffer stands -/

/-- How many bits have been read: those written, and those counted. -/
def Buffer.position (b : ℕ) (s : Buffer) : ℕ := b * s.out.length + s.bits

/-- Fewer bits are pending than a digit put out has. -/
theorem bits_push_lt (hab : a ≤ b) {s : Buffer} (hs : s.bits < b) (d : ℕ) :
    (push a b wrap s d).bits < b := by
  rw [push]
  split_ifs with hfull
  · show s.bits + a - b < b
    omega
  · exact not_le.mp hfull

/-- **ONE DIGIT** moves the position by its bits. -/
theorem position_push (s : Buffer) (d : ℕ) :
    (push a b wrap s d).position b = s.position b + a := by
  rw [push, Buffer.position, Buffer.position]
  split_ifs with hfull
  · rw [List.length_append, List.length_singleton, Nat.mul_add, Nat.mul_one]
    show b * s.out.length + b + (s.bits + a - b) = b * s.out.length + s.bits + a
    omega
  · exact (Nat.add_assoc _ _ _).symm

/-- However many digits come in. -/
theorem bits_foldl_lt (hab : a ≤ b) {s : Buffer} (hs : s.bits < b) (ds : List ℕ) :
    (ds.foldl (push a b wrap) s).bits < b := by
  induction ds generalizing s with
  | nil => exact hs
  | cons d ds ih => exact ih (bits_push_lt hab hs d)

/-- A run moves on by the bits of its digits. -/
theorem position_foldl (s : Buffer) (ds : List ℕ) :
    (ds.foldl (push a b wrap) s).position b = s.position b + a * ds.length := by
  induction ds generalizing s with
  | nil => rfl
  | cons d ds ih =>
      rw [List.foldl_cons, ih, position_push, List.length_cons]
      ring

/-- So it is at the end of a run. -/
theorem bits_feed_lt (hab : a ≤ b) (hb : 0 < b) (ds : List ℕ) : (feed a b wrap ds).bits < b :=
  bits_foldl_lt hab hb ds

/-- **EVERY BIT READ** is written or counted. -/
theorem position_feed (ds : List ℕ) : (feed a b wrap ds).position b = a * ds.length := by
  rw [feed, position_foldl]
  exact Nat.zero_add _

/-- So many digits are written as there are whole ones. -/
theorem length_out_feed (hab : a ≤ b) (hb : 0 < b) (ds : List ℕ) :
    (feed a b wrap ds).out.length = a * ds.length / b := by
  have hposition : (feed a b wrap ds).position b = a * ds.length := position_feed ds
  have hbits : (feed a b wrap ds).bits < b := bits_feed_lt hab hb ds
  rw [← hposition, Buffer.position, Nat.mul_add_div hb, Nat.div_eq_of_lt hbits, Nat.add_zero]

/-! ## Integers of limited width -/

/-- `w` bits are kept. -/
def Keeps (w : ℕ) (wrap : ℕ → ℕ) : Prop := ∀ n, wrap n ≡ n [MOD 2 ^ w]

/-- An accumulator without bounds keeps everything. -/
theorem keeps_id (w : ℕ) : Keeps w id := fun _ => Nat.ModEq.refl _

/-- One of `w` bits keeps those. -/
theorem keeps_mod (w : ℕ) : Keeps w (· % 2 ^ w) := fun n => Nat.mod_modEq n _

/-- Two buffers that differ in dropped bits alone. -/
structure Agree (w : ℕ) (s t : Buffer) : Prop where
  acc : s.acc ≡ t.acc [MOD 2 ^ w]
  bits : s.bits = t.bits
  out : s.out = t.out

/-- The bits of a digit below the width are not among the dropped. -/
theorem digit_congr {k x y : ℕ} (hk : k + b ≤ w) (h : x ≡ y [MOD 2 ^ w]) :
    x / 2 ^ k % 2 ^ b = y / 2 ^ k % 2 ^ b := by
  have hlow : x % (2 ^ k * 2 ^ b) = y % (2 ^ k * 2 ^ b) := by
    rw [← Nat.pow_add]
    exact h.of_dvd (Nat.pow_dvd_pow 2 hk)
  rw [← Nat.mod_mul_right_div_self, hlow, Nat.mod_mul_right_div_self]

/-- **ONE DIGIT** keeps two buffers in agreement when the width holds it and the bits counted. -/
theorem Agree.push (hw : Keeps w wrap) (hw' : Keeps w wrap') {s t : Buffer} (h : Agree w s t)
    (hwidth : s.bits + a ≤ w) (d : ℕ) :
    Agree w (push a b wrap s d) (push a b wrap' t d) := by
  have hacc : wrap (s.acc * 2 ^ a + d) ≡ wrap' (t.acc * 2 ^ a + d) [MOD 2 ^ w] :=
    (hw _).trans (((h.acc.mul_right _).add_right d).trans (hw' _).symm)
  rw [AgentRegroup.push, AgentRegroup.push, h.bits, h.out]
  split_ifs with hfull
  · have hkept : t.bits + a - b + b ≤ w := by
      rw [Nat.sub_add_cancel hfull, ← h.bits]
      exact hwidth
    exact ⟨hacc, rfl, by rw [digit_congr hkept hacc]⟩
  · exact ⟨hacc, rfl, rfl⟩

/-- **TWO BUFFERS** that agree on the bits they keep agree after any run. -/
theorem Agree.foldl (hab : a ≤ b) (hwidth : a + b ≤ w + 1) (hw : Keeps w wrap)
    (hw' : Keeps w wrap') {s t : Buffer} (h : Agree w s t) (hs : s.bits < b) (ds : List ℕ) :
    Agree w (ds.foldl (AgentRegroup.push a b wrap) s)
      (ds.foldl (AgentRegroup.push a b wrap') t) := by
  induction ds generalizing s t with
  | nil => exact h
  | cons d ds ih => exact ih (h.push hw hw' (by omega) d) (bits_push_lt hab hs d)

/-- **THE DROPPED BITS DO NOT MATTER.** -/
theorem out_feed_eq (hab : a ≤ b) (hb : 0 < b) (hwidth : a + b ≤ w + 1) (hw : Keeps w wrap)
    (hw' : Keeps w wrap') (ds : List ℕ) : (feed a b wrap ds).out = (feed a b wrap' ds).out :=
  (Agree.foldl hab hwidth hw hw' ⟨Nat.ModEq.refl _, rfl, rfl⟩ hb ds).out

end AgentRegroup
