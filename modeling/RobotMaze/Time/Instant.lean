import RobotMaze.Time.Calendar

/-! # Instants — points of time at nanosecond precision

    An instant is a second counted from 1970-01-01T00:00:00Z and the nanoseconds
    into it.  A leap second shares the count of the second before it and has
    10⁹ nanoseconds or more.

    * `Instant.ofMillis?` — the instant of a count of milliseconds, if the
      calendar reaches that far;
    * `Instant.millisBetween` — whole milliseconds from one instant to another;
    * `Instant.addDays`, `Instant.addSeconds?` — shifts. -/

namespace RobotMaze.Time

/-- A point of time. -/
structure Instant where
  second : Int
  nano : Nat
  deriving DecidableEq, Repr

namespace Instant

instance : Inhabited Instant := ⟨⟨0, 0⟩⟩

/-- The seconds of a day. -/
def secondsPerDay : Int := 86400

/-- The nanoseconds of a second. -/
def nanosPerSecond : Nat := 1000000000

/-- Instants are ordered by second, then by nanosecond. -/
def le (a b : Instant) : Prop := a.second < b.second ∨ (a.second = b.second ∧ a.nano ≤ b.nano)

instance : LE Instant := ⟨le⟩

instance (a b : Instant) : Decidable (a ≤ b) := by
  change Decidable (a.second < b.second ∨ (a.second = b.second ∧ a.nano ≤ b.nano))
  infer_instance

/-- One instant lies before another. -/
def lt (a b : Instant) : Prop := a.second < b.second ∨ (a.second = b.second ∧ a.nano < b.nano)

instance : LT Instant := ⟨lt⟩

instance (a b : Instant) : Decidable (a < b) := by
  change Decidable (a.second < b.second ∨ (a.second = b.second ∧ a.nano < b.nano))
  infer_instance

/-- The day number on which an instant falls. -/
def dayNumber (t : Instant) : Int := t.second / secondsPerDay

/-- The seconds since midnight. -/
def secondOfDay (t : Instant) : Nat := (t.second % secondsPerDay).toNat

/-- The date on which an instant falls. -/
def date (t : Instant) : Date := .ofDayNumber t.dayNumber

/-- The midnight with which a day begins. -/
def ofDayNumber (n : Int) : Instant := ⟨n * secondsPerDay, 0⟩

/-- The instant on a day, so many seconds after midnight. -/
def onDay (dayNumber : Int) (secondOfDay nano : Nat) : Instant :=
  ⟨dayNumber * secondsPerDay + secondOfDay, nano⟩

/-- The midnight with which the day of an instant begins. -/
def midnight (t : Instant) : Instant := ofDayNumber t.dayNumber

/-- The first second of the calendar. -/
def firstSecond : Int := (Date.mk Date.firstYear 1 1).dayNumber * secondsPerDay

/-- The last second of the calendar. -/
def lastSecond : Int := (Date.mk Date.lastYear 12 31).dayNumber * secondsPerDay + 86399

/-- Whether the calendar reaches an instant. -/
def inRange (t : Instant) : Bool := firstSecond ≤ t.second && t.second ≤ lastSecond

/-- An instant, if the calendar reaches it. -/
def checked? (t : Instant) : Option Instant := if t.inRange then some t else none

/-- The instant so many milliseconds after 1970-01-01T00:00:00Z, and so many nanoseconds more. -/
def ofMillis? (millis : Int) (nanos : Nat) : Option Instant :=
  checked? ⟨millis / 1000, (millis % 1000).toNat * 1000000 + nanos⟩

/-- The whole milliseconds since 1970-01-01T00:00:00Z. -/
def toMillis (t : Instant) : Int := t.second * 1000 + (t.nano / 1000000 : Nat)

/-- An instant without what is finer than a millisecond. -/
def truncate (t : Instant) : Instant := { t with nano := t.nano / 1000000 * 1000000 }

/-- The leap second that lies between two instants of one day, if the earlier or the later of them
    is one. -/
def leapBetween (a b : Instant) : Int :=
  if a.secondOfDay < b.secondOfDay ∧ nanosPerSecond ≤ a.nano then 1
  else if b.secondOfDay < a.secondOfDay ∧ nanosPerSecond ≤ b.nano then -1
  else 0

/-- The whole milliseconds from `a` to `b`, counted toward zero. -/
def millisBetween (a b : Instant) : Int :=
  let seconds := b.second - a.second + leapBetween a b
  let nanos := seconds * 1000000000 + ((b.nano : Int) - a.nano)
  Int.tdiv nanos 1000000

/-- An instant shifted by whole days. -/
def addDays (t : Instant) (days : Int) : Instant :=
  { t with second := t.second + days * secondsPerDay }

/-- An instant shifted by whole seconds, if the calendar reaches that far. -/
def addSeconds? (t : Instant) (seconds : Int) : Option Instant :=
  checked? { t with second := t.second + seconds }

end Instant

end RobotMaze.Time
