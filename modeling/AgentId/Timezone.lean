import AgentId.Py

/-!
# Clocks on the wall

An aware `datetime` is a reading of a clock on the wall, with the `tzinfo` that says how far the
clock is from UTC and a `fold` that tells apart the two readings an hour gives when the clock is put
back.  Python moves a `datetime` by moving the reading: the offset is looked up again afterwards, and
the `fold` is gone.  It subtracts two of them by their readings when they carry one `tzinfo` object,
and by their instants otherwise.

* **`AwareDatetime.add_instant`**, **`AwareDatetime.sub_instant`** — where a moved clock stands on
  the time line.
* **`AwareDatetime.diff_eq_of_steady`** — with one offset, readings differ as instants do.
-/

namespace AgentTimezone

open AgentRaises AgentPy

/-- A `tzinfo`: which object it is, and the offset from UTC it gives a reading, in microseconds. -/
structure TzInfo where
  id : ℕ
  utcoffset : Int → Bool → Int
  utcoffset_lt : ∀ wall fold, (utcoffset wall fold).natAbs < 86400000000

/-- An aware `datetime`: the reading of the wall clock, in microseconds since the start of year 1,
    its `fold` and its `tzinfo`. -/
structure AwareDatetime where
  wall : Int
  fold : Bool
  tz : TzInfo
  wall_nonneg : 0 ≤ wall
  wall_lt : wall < maxMicros

/-- `utcoffset()` -/
def AwareDatetime.utcoffset (t : AwareDatetime) : Int := t.tz.utcoffset t.wall t.fold

/-- Where the reading stands on the time line, in microseconds of UTC since year 1. -/
def AwareDatetime.instant (t : AwareDatetime) : Int := t.wall - t.utcoffset

theorem nonneg_of_inYears {wall : Int} (h : 0 ≤ wall ∧ wall < maxMicros) : 0 ≤ wall := h.1

theorem lt_of_inYears {wall : Int} (h : 0 ≤ wall ∧ wall < maxMicros) : wall < maxMicros := h.2

/-- The `datetime` of a reading, or the `OverflowError` of one that leaves the years 1 to 9999. -/
def AwareDatetime.ofWall (tz : TzInfo) (wall : Int) : Py AwareDatetime :=
  if h : 0 ≤ wall ∧ wall < maxMicros then
    .ok ⟨wall, false, tz, nonneg_of_inYears h, lt_of_inYears h⟩
  else raise .overflowError ["date value out of range"]

/-- `t - delta` of a `timedelta` in microseconds. -/
def AwareDatetime.sub (t : AwareDatetime) (delta : Int) : Py AwareDatetime :=
  AwareDatetime.ofWall t.tz (t.wall - delta)

/-- `t + delta` -/
def AwareDatetime.add (t : AwareDatetime) (delta : Int) : Py AwareDatetime :=
  AwareDatetime.ofWall t.tz (t.wall + delta)

/-- `a - b` of two datetimes, in microseconds. -/
def AwareDatetime.diff (a b : AwareDatetime) : Int :=
  if a.tz.id = b.tz.id then a.wall - b.wall else a.instant - b.instant

/-- What the code does with the time it is given: it moves it by a `timedelta`, and compares it, by
    its instant, with a time in UTC. -/
class Moment (T : Type) where
  us : T → Int
  sub : T → Int → Py T
  add : T → Int → Py T

instance instMomentDatetime : Moment Datetime := ⟨Datetime.us, Datetime.sub, Datetime.add⟩

instance instMomentAwareDatetime : Moment AwareDatetime :=
  ⟨AwareDatetime.instant, AwareDatetime.sub, AwareDatetime.add⟩

/-! ## Moving a clock -/

/-- A moved clock carries its zone, shows no `fold`, and stands where its new reading says. -/
theorem AwareDatetime.ofWall_instant {tz : TzInfo} {wall : Int} {t : AwareDatetime}
    (h : AwareDatetime.ofWall tz wall = .ok t) : t.instant = wall - tz.utcoffset wall false := by
  rw [AwareDatetime.ofWall] at h
  by_cases hr : 0 ≤ wall ∧ wall < maxMicros
  · rw [dif_pos hr] at h
    cases h
    rfl
  · rw [dif_neg hr] at h
    cases h

/-- The offset the zone gives the reading `delta` microseconds on. -/
def AwareDatetime.offsetAfter (t : AwareDatetime) (delta : Int) : Int :=
  t.tz.utcoffset (t.wall + delta) false

/-- The instant at which the clock on the wall is taken to show `delta` microseconds more. -/
def AwareDatetime.instantAfter (t : AwareDatetime) (delta : Int) : Int :=
  t.wall + delta - t.offsetAfter delta

/-- **WHERE A MOVED CLOCK STANDS**, forwards. -/
theorem AwareDatetime.add_instant {t t' : AwareDatetime} {delta : Int}
    (h : t.add delta = .ok t') : t'.instant = t.instantAfter delta :=
  AwareDatetime.ofWall_instant h

/-- And backwards. -/
theorem AwareDatetime.sub_instant {t t' : AwareDatetime} {delta : Int}
    (h : t.sub delta = .ok t') : t'.instant = t.instantAfter (-delta) := by
  have hsub := AwareDatetime.ofWall_instant h
  rwa [sub_eq_add_neg t.wall delta] at hsub

/-- Where the offset has not changed, the clock has moved as far as its reading. -/
theorem AwareDatetime.instantAfter_of_steady {t : AwareDatetime} {delta : Int}
    (h : t.offsetAfter delta = t.utcoffset) : t.instantAfter delta = t.instant + delta := by
  rw [instantAfter, h, instant]
  omega

/-- **ONE OFFSET, ONE DIFFERENCE**: with the same offset from UTC two readings differ as their
    instants do. -/
theorem AwareDatetime.diff_eq_of_steady {a b : AwareDatetime}
    (h : a.tz.id = b.tz.id → a.utcoffset = b.utcoffset) : a.diff b = a.instant - b.instant := by
  rw [diff]
  by_cases hid : a.tz.id = b.tz.id
  · rw [if_pos hid, instant, instant, h hid]
    omega
  · rw [if_neg hid]

/-! ## UTC -/

/-- `timezone.utc` -/
def utc : TzInfo := ⟨0, fun _ _ => 0, fun _ _ => Nat.zero_lt_succ _⟩

/-- A time in UTC, with its `tzinfo`. -/
def aware (d : Datetime) : AwareDatetime := ⟨d.us, false, utc, d.us_nonneg, d.us_lt⟩

@[simp] theorem aware_instant (d : Datetime) : (aware d).instant = d.us := sub_zero d.us

/-- Moving a clock in UTC is moving along the time line. -/
theorem aware_ofMicros (us : Int) : AwareDatetime.ofWall utc us = aware <$> Datetime.ofMicros us := by
  rw [AwareDatetime.ofWall, Datetime.ofMicros]
  by_cases h : 0 ≤ us ∧ us < maxMicros
  · rw [dif_pos h, dif_pos h]
    rfl
  · rw [dif_neg h, dif_neg h]
    rfl

theorem aware_sub (d : Datetime) (delta : Int) : (aware d).sub delta = aware <$> d.sub delta :=
  aware_ofMicros _

theorem aware_add (d : Datetime) (delta : Int) : (aware d).add delta = aware <$> d.add delta :=
  aware_ofMicros _

/-- The offset of a zone an hour ahead of UTC, and two in summer, around the reading at which its
    clocks are put back an hour: of the hour before it, each reading comes twice. -/
def autumnOffset (back wall : Int) (fold : Bool) : Int :=
  if wall < back - 3600000000 ∨ (wall < back ∧ fold = false) then 7200000000 else 3600000000

theorem autumnOffset_lt (back wall : Int) (fold : Bool) :
    (autumnOffset back wall fold).natAbs < 86400000000 := by
  rw [autumnOffset]
  split_ifs
  · decide
  · decide

/-- Such a zone. -/
def autumnZone (back : Int) : TzInfo := ⟨1, autumnOffset back, autumnOffset_lt back⟩

end AgentTimezone
