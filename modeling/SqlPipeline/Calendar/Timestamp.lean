import SqlPipeline.Calendar.Date

/-!
Instants of Universal Time with nanoseconds.

An instant is a count of seconds since 1970-01-01T00:00:00Z and the nanoseconds within that second.
A leap second is the second nanosecond-billion of the last second of a minute.
-/

namespace SqlPipeline

def nanosPerSecond : Nat := 1000000000

def secondsPerDay : Int := 86400

/-- An instant. Nanoseconds of a billion and more are those of a leap second, and a leap second
follows the last second of a minute only. -/
structure Timestamp where
  seconds : Int
  nanos : Nat
  nanos_lt : nanos < 2000000000
  leap_last : 1000000000 ≤ nanos → seconds % 60 = 59
  deriving DecidableEq

namespace Timestamp

/-- The instant with the given seconds and nanoseconds, if there is one. -/
def of? (seconds : Int) (nanos : Nat) : Option Timestamp :=
  if h : nanos < 2000000000 ∧ (1000000000 ≤ nanos → seconds % 60 = 59) then
    some ⟨seconds, nanos, h.1, h.2⟩
  else none

/-- The instant with the given seconds and no nanoseconds. -/
def ofSeconds (seconds : Int) : Timestamp :=
  ⟨seconds, 0, by omega, by omega⟩

/-- The instant a number of microseconds after the first instant of 1970. -/
def ofMicros (micros : Int) : Timestamp :=
  ⟨micros / 1000000, (micros % 1000000).toNat * 1000, by omega, by omega⟩

/-- The number of the day on which the instant falls. -/
def days (t : Timestamp) : Int :=
  t.seconds / secondsPerDay

/-- The seconds since the day began. -/
def secondOfDay (t : Timestamp) : Nat :=
  (t.seconds % secondsPerDay).toNat

def date (t : Timestamp) : Date :=
  Date.ofDays t.days

/-- The first instant of a day. -/
def ofDays (days : Int) : Timestamp :=
  ofSeconds (days * secondsPerDay)

/-- The day number of the first day of the year -262143, the first that is kept. -/
def firstDay : Int := (Date.mk (-262143) 1 1).toDays

/-- The day number of the last day of the year 262142, the last that is kept. -/
def lastDay : Int := (Date.mk 262142 12 31).toDays

/-- The instant falls into the years that are kept. -/
def inRange (t : Timestamp) : Bool :=
  firstDay ≤ t.days && t.days ≤ lastDay

end Timestamp

end SqlPipeline
