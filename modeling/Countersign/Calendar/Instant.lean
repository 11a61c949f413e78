import Countersign.Calendar.Date

/-!
# Instants

An `Instant` is a day, a second of that day and the nanoseconds of that second, in universal time. A
second may be followed by a leap second: it has 2 000 000 000 nanoseconds, of which the second half
is the leap second, shown with the next higher number.

A leap second is in place behind a second numbered 59 (`LeapInPlace`), where it is shown as second
60. Counting from 1970 and reading what is shown name no others, but an instant may hold one behind
any second.
-/

namespace Countersign.Calendar

/-- The nanoseconds of one second. -/
def nanosPerSecond : Nat := 1000000000

theorem nanosPerSecond_pos : 0 < nanosPerSecond := by decide

theorem zero_lt_two_seconds : 0 < 2 * nanosPerSecond := by decide

/-- The nanoseconds are not those of a leap second, or it stands behind a second numbered 59. -/
def LeapInPlace (second nanos : Nat) : Prop := nanos < nanosPerSecond ∨ second % 60 = 59

instance (second nanos : Nat) : Decidable (LeapInPlace second nanos) := by
  unfold LeapInPlace
  infer_instance

/-- A point of universal time. -/
structure Instant where
  date : Date
  /-- The second of the day, from 0. -/
  second : Nat
  /-- The nanoseconds of the second; a leap second begins at `nanosPerSecond`. -/
  nanos : Nat
  inDay : second < 86400
  nanos_lt : nanos < 2 * nanosPerSecond
  deriving DecidableEq

namespace Instant

/-- The hour of the day. -/
def hour (t : Instant) : Nat := t.second / 3600

/-- The minute of the hour. -/
def minute (t : Instant) : Nat := t.second / 60 % 60

/-- The second of the minute as it is shown: a leap second has the next higher number, 60 where it is
    in place. -/
def shownSecond (t : Instant) : Nat := t.second % 60 + t.nanos / nanosPerSecond

/-- The instant without its part of a second. -/
def whole (t : Instant) : Instant :=
  { t with
    nanos := t.nanos / nanosPerSecond * nanosPerSecond
    nanos_lt := Nat.lt_of_le_of_lt (Nat.div_mul_le_self _ _) t.nanos_lt }

/-- The instant of a date and a time of the day as it is shown, with 60 for a leap second. -/
def ofShown? (date : Date) (hour minute second : Nat) : Option Instant :=
  if h : hour < 24 ∧ minute < 60 ∧ second < 60 then
    some ⟨date, 3600 * hour + 60 * minute + second, 0, by omega, zero_lt_two_seconds⟩
  else if h : hour < 24 ∧ minute < 60 ∧ second = 60 then
    some ⟨date, 3600 * hour + 60 * minute + 59, nanosPerSecond, by omega, by decide⟩
  else none

/-- The seconds since the start of 1970, negative before it. -/
def unixSeconds (t : Instant) : Int := t.date.dayNumber * 86400 + t.second

/-- The instant that lies `seconds` after the start of 1970, with the nanoseconds of its second; a
    leap second must be in place. -/
def ofUnix? (seconds : Int) (nanos : Nat) : Option Instant :=
  match Date.ofDayNumber? (seconds / 86400) with
  | none => none
  | some date =>
    let second := (seconds % 86400).toNat
    if h : nanos < 2 * nanosPerSecond ∧ LeapInPlace second nanos then
      some ⟨date, second, nanos, by
        have := Int.emod_lt_of_pos seconds (by decide : (0 : Int) < 86400)
        omega, h.1⟩
    else none

end Instant

end Countersign.Calendar
