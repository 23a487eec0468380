import SqlPipeline.Calendar.Rfc3339
import SqlPipeline.Proofs.Calendar.Day

/-!
The text of an instant, read back.

Main statement: an instant of the years 0 to 9999 is read back from its text, to the nanosecond and
also within a leap second.
-/

namespace SqlPipeline

theorem takeDigits?_append {width : Nat} {digits : List Char} (hlength : digits.length = width)
    (hdigits : digits.all isDigit = true) (rest : List Char) :
    takeDigits? width (digits ++ rest) = some (digitsFrom 0 digits, rest) := by
  rw [takeDigits?, List.take_left' hlength, List.drop_left' hlength, if_pos ⟨hlength, hdigits⟩]

theorem takeDigits?_fixedDigits {width n : Nat} (hn : n < tenTo width) (rest : List Char) :
    takeDigits? width (fixedDigits width n ++ rest) = some (n, rest) := by
  rw [takeDigits?_append (length_fixedDigits width n) (all_isDigit_fixedDigits width n),
    digitsFrom_fixedDigits, Nat.mod_eq_of_lt hn]

theorem takeDigits?_paddedDigits {width n : Nat} (hwidth : 0 < width) (hn : n < tenTo width)
    (rest : List Char) : takeDigits? width (paddedDigits width n ++ rest) = some (n, rest) := by
  rw [takeDigits?_append (length_paddedDigits hwidth hn) (all_isDigit_paddedDigits width n),
    digitsFrom_paddedDigits]

theorem takeChar?_cons (c : Char) (rest : List Char) : takeChar? c (c :: rest) = some rest :=
  if_pos rfl

theorem takeTimeMark?_cons (rest : List Char) : takeTimeMark? ('T' :: rest) = some rest := rfl

theorem offset?_universal : offset? ['Z'] = some 0 := rfl

/-- A fraction of at most nine digits is read as that many billionths. -/
theorem takeFraction?_fixedDigits {width n : Nat} {c : Char} (hwidth : 0 < width ∧ width ≤ 9)
    (hn : n < tenTo width) (hc : isDigit c = false) (rest : List Char) :
    takeFraction? ('.' :: fixedDigits width n ++ c :: rest) =
      some (n * tenTo (9 - width), c :: rest) := by
  have hlength := length_fixedDigits width n
  have hdigits := all_isDigit_fixedDigits width n
  have hkept : (fixedDigits width n).take 9 = fixedDigits width n :=
    List.take_of_length_le (by omega)
  have hsome : (fixedDigits width n).isEmpty = false :=
    List.isEmpty_eq_false_iff.2 (List.ne_nil_of_length_pos (by omega))
  rw [List.cons_append, takeFraction?, takeWhile_isDigit_append hdigits hc,
    dropWhile_isDigit_append hdigits hc, hkept, hsome, hlength, digitsFrom_append,
    digitsFrom_fixedDigits, Nat.mod_eq_of_lt hn, digitsFrom_zeros]
  rfl

theorem takeFraction?_fractionDigits {nanos : Nat} (h : nanos < nanosPerSecond) :
    takeFraction? (fractionDigits nanos ++ ['Z']) = some (nanos, ['Z']) := by
  have hbound : nanos < 1000000000 := h
  rw [fractionDigits]
  split
  · next hzero => rw [hzero]; rfl
  split
  · next hmillis =>
    have hdigits : nanos / 1000000 < tenTo 3 := by
      change nanos / 1000000 < 1000
      omega
    rw [takeFraction?_fixedDigits (by decide) hdigits (by decide)]
    have hvalue : nanos / 1000000 * tenTo (9 - 3) = nanos := by
      change nanos / 1000000 * 1000000 = nanos
      omega
    rw [hvalue]
  split
  · next hmicros =>
    have hdigits : nanos / 1000 < tenTo 6 := by
      change nanos / 1000 < 1000000
      omega
    rw [takeFraction?_fixedDigits (by decide) hdigits (by decide)]
    have hvalue : nanos / 1000 * tenTo (9 - 6) = nanos := by
      change nanos / 1000 * 1000 = nanos
      omega
    rw [hvalue]
  · rw [takeFraction?_fixedDigits (by decide) hbound (by decide)]
    have hvalue : nanos * tenTo (9 - 9) = nanos := Nat.mul_one nanos
    rw [hvalue]

theorem Date.le_of_isValid {d : Date} (h : d.isValid = true) : d.month ≤ 12 ∧ d.day ≤ 31 := by
  have hlength : daysInMonth d.year d.month ≤ 31 := by
    rw [daysInMonth]
    split
    · split <;> decide
    · split <;> decide
  simp only [isValid, Bool.and_eq_true, decide_eq_true_eq] at h
  omega

namespace Timestamp

/-- The text of an instant in the years of four digits, as the parts that the reader takes. -/
theorem toList_text {t : Timestamp} (hyear : 0 ≤ t.date.year ∧ t.date.year ≤ 9999) :
    t.text.toList = fixedDigits 4 t.date.year.toNat ++ '-' :: (fixedDigits 2 t.date.month ++
      '-' :: (fixedDigits 2 t.date.day ++ 'T' :: (fixedDigits 2 (t.secondOfDay / 3600) ++
      ':' :: (fixedDigits 2 (t.secondOfDay / 60 % 60) ++ ':' ::
      (fixedDigits 2 (t.secondOfDay % 60 + t.nanos / nanosPerSecond) ++
      (fractionDigits (t.nanos % nanosPerSecond) ++ ['Z'])))))) := by
  simp only [text, Date.digits, yearDigits, if_pos hyear, timeDigits, String.toList_ofList,
    List.append_assoc, List.cons_append]

theorem of?_eq_some (t : Timestamp) : of? t.seconds t.nanos = some t :=
  dif_pos ⟨t.nanos_lt, t.leap_last⟩

theorem secondOfDay_lt (t : Timestamp) : t.secondOfDay < 86400 := by
  rw [secondOfDay, secondsPerDay]
  omega

theorem seconds_eq (t : Timestamp) : t.days * secondsPerDay + t.secondOfDay = t.seconds := by
  rw [days, secondOfDay, secondsPerDay]
  omega

/-- Second 60 is written for the nanoseconds of a leap second, and for no others. -/
theorem second_text (t : Timestamp) :
    t.secondOfDay % 60 + t.nanos / nanosPerSecond ≤ 60 ∧
    min (t.secondOfDay % 60 + t.nanos / nanosPerSecond) 59 = t.secondOfDay % 60 ∧
    (if t.secondOfDay % 60 + t.nanos / nanosPerSecond = 60 then
      t.nanos % nanosPerSecond + nanosPerSecond else t.nanos % nanosPerSecond) = t.nanos := by
  have hnanos := t.nanos_lt
  have hleap := t.leap_last
  rw [secondOfDay, secondsPerDay, nanosPerSecond]
  split <;> omega

/-- An instant in the years of four digits is read back from its text. -/
theorem read?_text {t : Timestamp} (hyear : 0 ≤ t.date.year ∧ t.date.year ≤ 9999) :
    read? t.text = some t := by
  have hvalid : t.date.isValid = true := Date.isValid_ofDays t.days
  have hdays : t.date.toDays = t.days := Date.toDays_ofDays t.days
  have hdate : (⟨(t.date.year.toNat : Int), t.date.month, t.date.day⟩ : Date) = t.date := by
    rw [Int.toNat_of_nonneg hyear.1]
  obtain ⟨hmonth, hday⟩ := Date.le_of_isValid hvalid
  obtain ⟨hsecond, hlast, hleap⟩ := t.second_text
  have hofDay := t.secondOfDay_lt
  have htime : t.secondOfDay / 3600 * 3600 + t.secondOfDay / 60 % 60 * 60 + t.secondOfDay % 60 =
      t.secondOfDay := by
    omega
  have htwo : tenTo 2 = 100 := rfl
  have hfour : tenTo 4 = 10000 := rfl
  have hyearText : t.date.year.toNat < tenTo 4 := by omega
  have hmonthText : t.date.month < tenTo 2 := by omega
  have hdayText : t.date.day < tenTo 2 := by omega
  have hhourText : t.secondOfDay / 3600 < tenTo 2 := by omega
  have hminuteText : t.secondOfDay / 60 % 60 < tenTo 2 := by omega
  have hsecondText : t.secondOfDay % 60 + t.nanos / nanosPerSecond < tenTo 2 := by omega
  have hnanosText : t.nanos % nanosPerSecond < nanosPerSecond := Nat.mod_lt _ (by decide)
  rw [read?, toList_text hyear]
  simp only [Option.bind_eq_bind, Option.bind_some, takeChar?_cons, takeTimeMark?_cons,
    takeDigits?_fixedDigits hyearText, takeDigits?_fixedDigits hmonthText,
    takeDigits?_fixedDigits hdayText, takeDigits?_fixedDigits hhourText,
    takeDigits?_fixedDigits hminuteText, takeDigits?_fixedDigits hsecondText,
    takeFraction?_fractionDigits hnanosText, offset?_universal, hdate, hdays, hlast, hleap, htime,
    t.seconds_eq, Int.sub_zero]
  rw [if_pos, of?_eq_some]
  simp only [hvalid, Bool.true_and, Bool.and_eq_true, decide_eq_true_eq]
  omega

end Timestamp

end SqlPipeline
