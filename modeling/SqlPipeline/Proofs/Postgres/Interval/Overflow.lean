import SqlPipeline.Postgres.Field

/-!
The arithmetic of an interval's text.

The months and the days of an interval are counted in 32 bits with a sign, the microseconds of a
time in 64 bits without one. Main statement: whatever sixteen bytes come in, the integers in them
have their types, and every operation on the way to the text can be done, in any build, but for the
magnitude of the days where they are the least number of 32 bits. A build with the checks panics
there, and one without them wraps around and ends with a text.
-/

namespace SqlPipeline.Postgres

namespace Interval

open MachineOperation

/-- The magnitude of the least number of days. -/
def daysOverflow : Overflow := ⟨.int32, .magnitude (-2147483648)⟩

/-- The characters of a number of microseconds as hours, minutes and seconds. -/
def clockText (micros : Int64) : List Char :=
  let total := micros.toInt.natAbs
  let seconds := total / 1000000
  clockChars (micros < 0) (seconds / 3600) (seconds / 60 % 60) (seconds % 60) (total % 1000000)

/-- The units of an interval with the time behind them, if there is one or no unit. -/
def withClock (i : Interval) (units : List (List Char)) : List (List Char) :=
  if i.micros ≠ 0 ∨ units.isEmpty then units ++ [clockText i.micros] else units

variable (arithmetic : Arithmetic)

/-! ### Counts of units -/

/-- Where the magnitude of a count fits, every build writes the same. -/
theorem exists_unitDigits (name : List Char) {count : Int} (h : (magnitude count).Fits .int32) :
    ∃ digits, ∀ arithmetic, unitDigits arithmetic name count = .ok digits := by
  by_cases hzero : count = 0
  · exact ⟨[], fun _ => if_pos hzero⟩
  · refine ⟨[countDigits name count ((magnitude count).result = 1)], fun arithmetic => ?_⟩
    rw [unitDigits, if_neg hzero, arithmetic.perform_of_fits h]
    rfl

/-- The days may be the least number. The checks end there, and without them there are days. -/
theorem exists_unitDigits_days (name : List Char) (days : Int32) : ∃ digits,
    unitDigits .wrapping name days.toInt = .ok digits ∧
    unitDigits .checked name days.toInt =
      if days = Int32.minValue then .error daysOverflow else .ok digits := by
  by_cases hleast : days = Int32.minValue
  · obtain ⟨size, hsize⟩ := Arithmetic.exists_wrapping_magnitude .int32 days.toInt
    have hzero : days.toInt ≠ 0 := by
      rw [hleast]
      decide
    refine ⟨[countDigits name days.toInt (size = 1)], ?_, ?_⟩
    · rw [unitDigits, if_neg hzero, hsize]
      rfl
    · rw [if_pos hleast, hleast]
      rfl
  · have hfits : (magnitude days.toInt).Fits .int32 :=
      (fits_magnitude_iff (by decide) (MachineType.contains_int32 days)).2 fun htoInt =>
        hleast (Int32.toInt_inj.1 htoInt)
    obtain ⟨digits, hdigits⟩ := exists_unitDigits name hfits
    refine ⟨digits, hdigits .wrapping, ?_⟩
    rw [if_neg hleast]
    exact hdigits .checked

theorem fits_of_lt {count : Int} (h : count.natAbs < 2147483648) :
    (magnitude count).Fits .int32 := by
  simp only [Fits, MachineType.Contains, MachineType.least, MachineType.greatest]
  omega

/-- Years and months of a year are far from the least number. -/
theorem fits_years (months : Int32) : (magnitude (months.toInt.tdiv 12)).Fits .int32 := by
  have hleast := months.le_toInt
  have hgreatest := months.toInt_lt
  apply fits_of_lt
  rw [Int.natAbs_tdiv]
  change months.toInt.natAbs / 12 < 2147483648
  omega

theorem fits_months (months : Int32) : (magnitude (months.toInt.tmod 12)).Fits .int32 := by
  apply fits_of_lt
  rw [Int.natAbs_tmod]
  change months.toInt.natAbs % 12 < 2147483648
  omega

/-! ### The whole text -/

theorem clockDigits_eq (micros : Int64) :
    clockDigits arithmetic micros.toInt = .ok (clockText micros) := by
  have htotal := fits_magnitude_word64 (MachineType.contains_int64 micros)
  have hwhole := contains_tdiv htotal (show (0 : Int) < 1000000 by decide)
  have hsixties := contains_tdiv hwhole (show (0 : Int) < 60 by decide)
  have hnegative : micros.toInt < 0 ↔ micros < 0 := by
    rw [Int64.lt_iff_toInt_lt, Int64.toInt_zero]
  rw [clockDigits, arithmetic.perform_of_fits htotal]
  simp (disch := decide) only [result, bind, Except.bind, arithmetic.perform_quotient htotal,
    arithmetic.perform_quotient hwhole, arithmetic.perform_remainder hsixties,
    arithmetic.perform_remainder hwhole, arithmetic.perform_remainder htotal, hnegative]
  -- Nothing is negative here, where quotients of integers are those of natural numbers.
  rfl

theorem parts_eq (i : Interval) : i.parts arithmetic = (i.units arithmetic).map i.withClock := by
  have hmicros : i.micros.toInt = 0 ↔ i.micros = 0 := Int64.toInt_inj (y := 0)
  rw [parts]
  cases i.units arithmetic with
  | error overflow => rfl
  | ok units =>
    simp only [bind, Except.bind, clockDigits_eq, Except.map, withClock, ne_eq, hmicros]
    split <;> rfl

/-- The text of an interval in terms of its counts. Dividing the months can be done, and so can all
that makes the time. -/
theorem render_eq (i : Interval) :
    i.render arithmetic = do
      let years ← unitDigits arithmetic "year".toList (i.months.toInt.tdiv 12)
      let months ← unitDigits arithmetic "mon".toList (i.months.toInt.tmod 12)
      let days ← unitDigits arithmetic "day".toList i.days.toInt
      return String.ofList ([' '].intercalate (i.withClock (years ++ months ++ days))) := by
  have hmonths := MachineType.contains_int32 i.months
  have htwelve : (0 : Int) < 12 := by decide
  rw [render, parts_eq, units, arithmetic.perform_quotient hmonths htwelve,
    arithmetic.perform_remainder hmonths htwelve]
  simp only [bind, Except.bind]
  cases unitDigits arithmetic "year".toList (i.months.toInt.tdiv 12) with
  | error overflow => rfl
  | ok years =>
    cases unitDigits arithmetic "mon".toList (i.months.toInt.tmod 12) with
    | error overflow => rfl
    | ok months => cases unitDigits arithmetic "day".toList i.days.toInt <;> rfl

/-- What can fail on the way to the text is the count of the days. -/
theorem exists_render_eq (i : Interval) : ∃ finish : List (List Char) → String, ∀ arithmetic,
    i.render arithmetic = (unitDigits arithmetic "day".toList i.days.toInt).map finish := by
  obtain ⟨years, hyears⟩ := exists_unitDigits "year".toList (fits_years i.months)
  obtain ⟨months, hmonths⟩ := exists_unitDigits "mon".toList (fits_months i.months)
  refine ⟨fun days => String.ofList ([' '].intercalate (i.withClock (years ++ months ++ days))), ?_⟩
  intro arithmetic
  rw [render_eq, hyears, hmonths]
  cases unitDigits arithmetic "day".toList i.days.toInt <;> rfl

/-- Without the checks every interval has a text; with them the same, but for the least number of
days. -/
theorem exists_render (i : Interval) : ∃ text,
    i.render .wrapping = .ok text ∧
    i.render .checked = if i.days = Int32.minValue then .error daysOverflow else .ok text := by
  obtain ⟨finish, hrender⟩ := i.exists_render_eq
  obtain ⟨digits, hwrapping, hchecked⟩ := exists_unitDigits_days "day".toList i.days
  refine ⟨finish digits, ?_, ?_⟩
  · rw [hrender, hwrapping]
    rfl
  · rw [hrender, hchecked]
    split <;> rfl

/-- The least number of days has one payload. -/
theorem eq_minValue_iff {days : Int32} {bytes : Bytes} (hlength : bytes.length = 4)
    (h : days.toInt = ofSignedBigEndian bytes) :
    days = Int32.minValue ↔ bytes = [128, 0, 0, 0] := by
  constructor
  · rintro rfl
    rw [← signedBigEndian_ofSignedBigEndian hlength, ← h]
    decide
  · rintro rfl
    apply Int32.toInt_inj.1
    rw [h]
    decide

end Interval

section Columns

variable {arithmetic : Arithmetic} {bytes : Bytes} {i : Interval}

theorem decodeField_of_render {text : String} (hi : Interval.ofBytes? bytes = some i)
    (htext : i.render arithmetic = .ok text) (name : String) :
    decodeField arithmetic ⟨name, .scalar .interval⟩ (some bytes) = .ok (.text text) := by
  simp only [decodeField, fieldReader?, scalarReader?, if_pos, readInterval, hi, htext]
  rfl

theorem decodeField_of_overflow {overflow : Overflow} (hi : Interval.ofBytes? bytes = some i)
    (hfails : i.render arithmetic = .error overflow) (name : String) :
    decodeField arithmetic ⟨name, .scalar .interval⟩ (some bytes) =
      .panic (.message overflow.message) := by
  simp only [decodeField, fieldReader?, scalarReader?, if_pos, readInterval, hi, hfails]
  rfl

end Columns

/-- Intervals in columns and the types of their integers. The integers in sixteen bytes are of the
types that they are read as, so that the interval has just these. Without the checks every payload
has a text. With them each operation on the way to it has a result in its type and the payload is
decoded as the same text, unless the bytes of the days are those of the least number: then the
operation that overflows is the magnitude of the days, and the decoding panics. -/
theorem intervals_overflow_in_days (name : String) {bytes : Bytes} (h : bytes.length = 16) :
    MachineType.int32.Contains (ofSignedBigEndian (bytes.drop 12)) ∧
    MachineType.int32.Contains (ofSignedBigEndian ((bytes.drop 8).take 4)) ∧
    MachineType.int64.Contains (ofSignedBigEndian (bytes.take 8)) ∧
    ∃ i text, Interval.ofBytes? bytes = some i ∧
      i.months.toInt = ofSignedBigEndian (bytes.drop 12) ∧
      i.days.toInt = ofSignedBigEndian ((bytes.drop 8).take 4) ∧
      i.micros.toInt = ofSignedBigEndian (bytes.take 8) ∧
      decodeField .wrapping ⟨name, .scalar .interval⟩ (some bytes) = .ok (.text text) ∧
      i.render .checked = (if (bytes.drop 8).take 4 = [128, 0, 0, 0]
        then .error Interval.daysOverflow else .ok text) ∧
      decodeField .checked ⟨name, .scalar .interval⟩ (some bytes) =
        if (bytes.drop 8).take 4 = [128, 0, 0, 0]
        then .panic (.message "attempt to negate with overflow") else .ok (.text text) := by
  obtain ⟨i, hi, hmonths, hdays, hmicros⟩ := Interval.exists_of_length h
  obtain ⟨text, hwrapping, hchecked⟩ := i.exists_render
  simp only [Interval.eq_minValue_iff (show ((bytes.drop 8).take 4).length = 4 by simp [h]) hdays]
    at hchecked
  refine ⟨?_, ?_, ?_, i, text, hi, hmonths, hdays, hmicros,
    decodeField_of_render hi hwrapping name, hchecked, ?_⟩
  · rw [← hmonths]
    exact MachineType.contains_int32 i.months
  · rw [← hdays]
    exact MachineType.contains_int32 i.days
  · rw [← hmicros]
    exact MachineType.contains_int64 i.micros
  · by_cases hleast : (bytes.drop 8).take 4 = [128, 0, 0, 0]
    · rw [if_pos hleast] at hchecked ⊢
      exact decodeField_of_overflow hi hchecked name
    · rw [if_neg hleast] at hchecked ⊢
      exact decodeField_of_render hi hchecked name

namespace IntervalWitness

/-- The least number of months, of days and of microseconds. -/
def least : Bytes := [128, 0, 0, 0, 0, 0, 0, 0, 128, 0, 0, 0, 128, 0, 0, 0]

/-- One day more. -/
def next : Bytes := [128, 0, 0, 0, 0, 0, 0, 0, 128, 0, 0, 1, 128, 0, 0, 0]

def leastText : String :=
  "-178956970 years -8 mons -2147483648 days -2562047788:00:54.775808"

def nextText : String :=
  "-178956970 years -8 mons -2147483647 days -2562047788:00:54.775808"

theorem ofBytes?_least :
    Interval.ofBytes? least = some ⟨Int32.minValue, Int32.minValue, Int64.minValue⟩ := by
  decide +kernel

theorem render_least :
    Interval.render .wrapping ⟨Int32.minValue, Int32.minValue, Int64.minValue⟩ = .ok leastText := by
  have htext : (Interval.render .wrapping ⟨Int32.minValue, Int32.minValue,
      Int64.minValue⟩).toOption = some leastText := by decide +kernel
  cases hrender : Interval.render .wrapping ⟨Int32.minValue, Int32.minValue, Int64.minValue⟩ with
  | error overflow => simp [hrender, Except.toOption] at htext
  | ok text => simpa [hrender, Except.toOption] using htext

end IntervalWitness

open IntervalWitness in
theorem intervals_overflow_in_days_next :
    next.length = 16 ∧
    decodeField .checked ⟨"span", .scalar .interval⟩ (some next) = .ok (.text nextText) := by
  have hlength : next.length = 16 := rfl
  obtain ⟨-, -, -, i, text, hi, -, -, -, -, hrender, hdecode⟩ :=
    intervals_overflow_in_days "span" hlength
  have hinterval : Interval.ofBytes? next =
      some ⟨Int32.minValue, Int32.minValue + 1, Int64.minValue⟩ := by decide +kernel
  obtain rfl := Option.some.inj (hinterval.symm.trans hi)
  have hfine : (next.drop 8).take 4 ≠ [128, 0, 0, 0] := by decide
  rw [if_neg hfine] at hrender hdecode
  have htext : (Interval.render .checked ⟨Int32.minValue, Int32.minValue + 1,
      Int64.minValue⟩).toOption = some nextText := by decide +kernel
  rw [hrender] at htext
  obtain rfl := Option.some.inj htext
  exact ⟨hlength, hdecode⟩

open IntervalWitness in
/-- The least interval of all, which the server sends for minus infinity: a build without the checks
has a text for it, and one with them panics. -/
theorem least_interval_overflows :
    least.length = 16 ∧
    decodeField .checked ⟨"span", .scalar .interval⟩ (some least) =
      .panic (.message "attempt to negate with overflow") ∧
    decodeField .wrapping ⟨"span", .scalar .interval⟩ (some least) = .ok (.text leastText) := by
  obtain ⟨text, -, hchecked⟩ :=
    (Interval.mk Int32.minValue Int32.minValue Int64.minValue).exists_render
  rw [if_pos rfl] at hchecked
  exact ⟨rfl, decodeField_of_overflow ofBytes?_least hchecked "span",
    decodeField_of_render ofBytes?_least render_least "span"⟩

end SqlPipeline.Postgres
