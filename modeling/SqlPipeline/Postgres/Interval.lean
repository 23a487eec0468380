import SqlPipeline.Number.Machine
import SqlPipeline.Text.BigEndian
import SqlPipeline.Text.Digits

/-!
Intervals of time: months, days and microseconds, which do not turn into each other.

An interval is written as its years, months, days and time of day, each with its own sign, as in
`1 year 2 mons 3 days 04:05:06.5`. A part that is zero is left out, and the interval of zero is
`00:00:00`. The text is put together by operations on integers of the machine, and there is no text
where one of them fails. Main statement: any sixteen bytes are those of the interval that is read
from them.
-/

namespace SqlPipeline.Postgres

/-- An interval of time. -/
structure Interval where
  months : Int32
  days : Int32
  micros : Int64
  deriving DecidableEq

namespace Interval

/-- The interval of sixteen bytes: microseconds, days and months. -/
def ofBytes? (bytes : Bytes) : Option Interval :=
  if bytes.length = 16 then
    some {
      micros := Int64.ofInt (ofSignedBigEndian (bytes.take 8))
      days := Int32.ofInt (ofSignedBigEndian ((bytes.drop 8).take 4))
      months := Int32.ofInt (ofSignedBigEndian (bytes.drop 12)) }
  else none

/-- The sixteen bytes of an interval. -/
def toBytes (i : Interval) : Bytes :=
  signedBigEndian 8 i.micros.toInt ++ signedBigEndian 4 i.days.toInt ++
    signedBigEndian 4 i.months.toInt

/-- Sixteen bytes are an interval, whose months, days and microseconds are the integers in them. -/
theorem exists_of_length {bytes : Bytes} (h : bytes.length = 16) :
    ∃ i, ofBytes? bytes = some i ∧ i.months.toInt = ofSignedBigEndian (bytes.drop 12) ∧
      i.days.toInt = ofSignedBigEndian ((bytes.drop 8).take 4) ∧
      i.micros.toInt = ofSignedBigEndian (bytes.take 8) := by
  have hmonths : (bytes.drop 12).length = 4 := by simp [h]
  have hdays : ((bytes.drop 8).take 4).length = 4 := by simp [h]
  have hmicros : (bytes.take 8).length = 8 := by simp [h]
  have hfour : twoTo (8 * 4) = 4294967296 := rfl
  have height : twoTo (8 * 8) = 18446744073709551616 := rfl
  replace hmonths := ofSignedBigEndian_bounds hmonths
  replace hdays := ofSignedBigEndian_bounds hdays
  replace hmicros := ofSignedBigEndian_bounds hmicros
  exact ⟨_, if_pos h, Int32.toInt_ofInt_of_le (by omega) (by omega),
    Int32.toInt_ofInt_of_le (by omega) (by omega), Int64.toInt_ofInt_of_le (by omega) (by omega)⟩

/-- The bytes of an interval are those that it was read from. -/
theorem toBytes_of_ofBytes? {bytes : Bytes} {i : Interval} (h : ofBytes? bytes = some i) :
    i.toBytes = bytes := by
  have hlength : bytes.length = 16 := by
    rw [ofBytes?, Option.ite_none_right_eq_some] at h
    exact h.1
  obtain ⟨j, hj, hmonths, hdays, hmicros⟩ := exists_of_length hlength
  obtain rfl : i = j := Option.some.inj (h.symm.trans hj)
  rw [toBytes, hmonths, hdays, hmicros, signedBigEndian_ofSignedBigEndian (by simp [hlength]),
    signedBigEndian_ofSignedBigEndian (by simp [hlength]),
    signedBigEndian_ofSignedBigEndian (by simp [hlength])]
  have hrest : (bytes.drop 8).take 4 ++ bytes.drop 12 = bytes.drop 8 := by
    simpa using List.take_append_drop 4 (bytes.drop 8)
  rw [List.append_assoc, hrest, List.take_append_drop]

/-- The characters of a count of some unit, in the singular or in the plural. -/
def countDigits (name : List Char) (count : Int) (singular : Bool) : List Char :=
  intDigits count ++ ' ' :: name ++ (if singular then [] else ['s'])

/-- The characters without the zeros at the end. -/
def withoutTrailingZeros (cs : List Char) : List Char :=
  (cs.reverse.dropWhile (· == '0')).reverse

/-- A number with at least two digits. -/
def twoDigits (n : Nat) : List Char :=
  paddedDigits 2 n

/-- The characters of a time in hours, minutes, seconds and millionths of a second. -/
def clockChars (negative : Bool) (hours minutes seconds fraction : Nat) : List Char :=
  (if negative then ['-'] else []) ++ twoDigits hours ++ ':' :: twoDigits minutes ++
    ':' :: twoDigits seconds ++
    (if fraction = 0 then [] else '.' :: withoutTrailingZeros (fixedDigits 6 fraction))

section Rendering

variable (arithmetic : Arithmetic)

/-- The characters of a count of some unit, whose magnitude is an `int32`; none for no unit. -/
def unitDigits (name : List Char) (count : Int) : Except Overflow (List (List Char)) :=
  if count = 0 then .ok []
  else do
    let size ← arithmetic.perform .int32 (.magnitude count)
    return [countDigits name count (size = 1)]

/-- The characters of a number of microseconds as hours, minutes and seconds. The microseconds
without their sign are of the type `word64`, and so is all that is split off them. -/
def clockDigits (micros : Int) : Except Overflow (List Char) := do
  let total ← arithmetic.perform .word64 (.magnitude micros)
  let whole ← arithmetic.perform .word64 (.quotient total 1000000)
  let hours ← arithmetic.perform .word64 (.quotient whole 3600)
  let sixties ← arithmetic.perform .word64 (.quotient whole 60)
  let minutes ← arithmetic.perform .word64 (.remainder sixties 60)
  let seconds ← arithmetic.perform .word64 (.remainder whole 60)
  let fraction ← arithmetic.perform .word64 (.remainder total 1000000)
  return clockChars (micros < 0) hours.toNat minutes.toNat seconds.toNat fraction.toNat

/-- The years, months and days in the text of an interval. -/
def units (i : Interval) : Except Overflow (List (List Char)) := do
  let years ← arithmetic.perform .int32 (.quotient i.months.toInt 12)
  let years ← unitDigits arithmetic "year".toList years
  let months ← arithmetic.perform .int32 (.remainder i.months.toInt 12)
  let months ← unitDigits arithmetic "mon".toList months
  let days ← unitDigits arithmetic "day".toList i.days.toInt
  return years ++ months ++ days

/-- The parts of the text of an interval: its units, and the time if there is one or no unit. -/
def parts (i : Interval) : Except Overflow (List (List Char)) := do
  let units ← i.units arithmetic
  if i.micros.toInt ≠ 0 ∨ units.isEmpty then
    let clock ← clockDigits arithmetic i.micros.toInt
    return units ++ [clock]
  else return units

/-- The text of an interval, or the first operation on the way to it that cannot be done. -/
def render (i : Interval) : Except Overflow String := do
  let parts ← i.parts arithmetic
  return String.ofList ([' '].intercalate parts)

end Rendering

end Interval

example : ((Interval.mk 14 3 14706500000).render .checked).toOption =
    some "1 year 2 mons 3 days 04:05:06.5" := by
  decide +kernel

end SqlPipeline.Postgres
