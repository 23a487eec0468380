import SqlPipeline.Calendar.Timestamp
import SqlPipeline.Text.Digits

/-!
Instants as RFC 3339 text.

An instant is written in Universal Time as `YYYY-MM-DDTHH:MM:SS`, a fraction of the fewest of 3, 6
or 9 digits that hold its nanoseconds, or none, and `Z`; a leap second is second 60. Years outside 0
to 9999 carry a sign. The reader takes four digits of a year, a `T` or a space between date and
time, any number of digits of a fraction (nine are kept), and `Z` or an offset of hours and minutes.
-/

namespace SqlPipeline

/-- The digits of a year: four, with a sign when they are not enough or the year is negative. -/
def yearDigits (year : Int) : List Char :=
  if 0 ≤ year ∧ year ≤ 9999 then fixedDigits 4 year.toNat
  else (if year < 0 then '-' else '+') :: paddedDigits 4 year.natAbs

/-- The fraction of a second: none for no nanoseconds, and else the fewest of 3, 6 or 9 digits. -/
def fractionDigits (nanos : Nat) : List Char :=
  if nanos = 0 then []
  else if nanos % 1000000 = 0 then '.' :: fixedDigits 3 (nanos / 1000000)
  else if nanos % 1000 = 0 then '.' :: fixedDigits 6 (nanos / 1000)
  else '.' :: fixedDigits 9 nanos

/-- The time of a second of the day with nanoseconds; a billion or more of them are a leap
second. -/
def timeDigits (second nanos : Nat) : List Char :=
  let leap := nanos / nanosPerSecond
  fixedDigits 2 (second / 3600) ++ ':' :: fixedDigits 2 (second / 60 % 60) ++
    ':' :: fixedDigits 2 (second % 60 + leap) ++ fractionDigits (nanos % nanosPerSecond)

def Date.digits (d : Date) : List Char :=
  yearDigits d.year ++ '-' :: fixedDigits 2 d.month ++ '-' :: fixedDigits 2 d.day

/-- The text of an instant in Universal Time. -/
def Timestamp.text (t : Timestamp) : String :=
  String.ofList (t.date.digits ++ 'T' :: timeDigits t.secondOfDay t.nanos ++ ['Z'])

/-- The number written by exactly `width` digits, and what follows them. -/
def takeDigits? (width : Nat) (cs : List Char) : Option (Nat × List Char) :=
  let digits := cs.take width
  if digits.length = width ∧ digits.all isDigit then some (digitsFrom 0 digits, cs.drop width)
  else none

/-- What follows a given character. -/
def takeChar? (expected : Char) : List Char → Option (List Char)
  | [] => none
  | c :: cs => if c = expected then some cs else none

/-- The nanoseconds of an optional fraction, and what follows it. Digits after the ninth are read
and dropped. -/
def takeFraction? : List Char → Option (Nat × List Char)
  | '.' :: cs =>
    let digits := cs.takeWhile isDigit
    let kept := digits.take 9
    if digits.isEmpty then none
    else some (digitsFrom 0 (kept ++ List.replicate (9 - kept.length) '0'), cs.dropWhile isDigit)
  | cs => some (0, cs)

/-- The seconds by which a local time is ahead of Universal Time; nothing follows the offset. -/
def offset? : List Char → Option Int
  | [] => none
  | c :: cs =>
    if c = 'Z' ∨ c = 'z' then if cs.isEmpty then some 0 else none
    else if c = '+' ∨ c = '-' ∨ c = '\u2212' then do
      let (hours, cs) ← takeDigits? 2 cs
      let cs ← takeChar? ':' cs
      let (minutes, cs) ← takeDigits? 2 cs
      if hours ≤ 23 ∧ minutes ≤ 59 ∧ cs.isEmpty then
        let seconds : Int := hours * 3600 + minutes * 60
        some (if c = '+' then seconds else -seconds)
      else none
    else none

/-- What follows the mark between date and time. -/
def takeTimeMark? : List Char → Option (List Char)
  | [] => none
  | c :: cs => if c = 'T' ∨ c = 't' ∨ c = ' ' then some cs else none

/-- The instant that a text stands for. Second 60 is the leap second after second 59. -/
def Timestamp.read? (s : String) : Option Timestamp := do
  let (year, cs) ← takeDigits? 4 s.toList
  let cs ← takeChar? '-' cs
  let (month, cs) ← takeDigits? 2 cs
  let cs ← takeChar? '-' cs
  let (day, cs) ← takeDigits? 2 cs
  let cs ← takeTimeMark? cs
  let (hour, cs) ← takeDigits? 2 cs
  let cs ← takeChar? ':' cs
  let (minute, cs) ← takeDigits? 2 cs
  let cs ← takeChar? ':' cs
  let (second, cs) ← takeDigits? 2 cs
  let (nanos, cs) ← takeFraction? cs
  let offset ← offset? cs
  let date : Date := ⟨year, month, day⟩
  if date.isValid && hour ≤ 23 && minute ≤ 59 && second ≤ 60 then
    let ofDay : Nat := hour * 3600 + minute * 60 + min second 59
    let localSeconds : Int := date.toDays * secondsPerDay + ofDay
    Timestamp.of? (localSeconds - offset) (if second = 60 then nanos + nanosPerSecond else nanos)
  else none

example : (Timestamp.ofSeconds 951782399).text = "2000-02-28T23:59:59Z" := by decide +kernel

example : Timestamp.read? "2000-02-28T23:59:59Z" = some (.ofSeconds 951782399) := by decide +kernel

end SqlPipeline
