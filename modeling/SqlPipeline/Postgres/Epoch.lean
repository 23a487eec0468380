import SqlPipeline.Calendar.Timestamp

/-!
Counts of days and microseconds from the first instant of the year 2000, by which the server tells
time.
-/

namespace SqlPipeline.Postgres

/-- The day number of the first day of the year 2000. -/
def epochDay : Int := 10957

/-- The first second of the year 2000. -/
def epochSeconds : Int := epochDay * secondsPerDay

/-- The microseconds from the year 2000 to an instant, what is less than one being cut off. -/
def epochMicros (t : Timestamp) : Int :=
  ((t.seconds - epochSeconds) * 1000000000 + t.nanos).tdiv 1000

/-- The days from the year 2000 to the day of an instant. -/
def epochDays (t : Timestamp) : Int :=
  t.days - epochDay

/-- The instant a number of microseconds after the year 2000 began. -/
def ofEpochMicros (micros : Int) : Timestamp :=
  Timestamp.ofMicros (micros + epochSeconds * 1000000)

/-- The first instant of the day a number of days after the year 2000 began. -/
def ofEpochDays (days : Int) : Timestamp :=
  Timestamp.ofDays (days + epochDay)

example : (ofEpochMicros 0).date = ⟨2000, 1, 1⟩ := by decide

end SqlPipeline.Postgres
