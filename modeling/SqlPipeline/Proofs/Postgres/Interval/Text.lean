import SqlPipeline.Proofs.Calendar.Text
import SqlPipeline.Proofs.Postgres.Interval.Overflow

/-!
The text of an interval, read back.

The reader knows nothing of how an interval is written: it takes the words of a text, counts of
years, months and days, each count with its own sign, and at the end a time of any number of hours
with one sign, and adds up what they stand for as integers without bounds. Main statement: a text
of an interval is read back as exactly its months, days and microseconds, so that payloads that
differ are decoded as different texts.
-/

namespace SqlPipeline.Postgres

/-- A length of time in months, days and microseconds, without bounds. -/
structure Extent where
  months : Int
  days : Int
  micros : Int
  deriving DecidableEq

namespace Extent

def zero : Extent := ⟨0, 0, 0⟩

def add (e f : Extent) : Extent :=
  ⟨e.months + f.months, e.days + f.days, e.micros + f.micros⟩

def times (count : Int) (e : Extent) : Extent :=
  ⟨count * e.months, count * e.days, count * e.micros⟩

/-- The unit that a word names, in the singular or in the plural. -/
def unit? (name : List Char) : Option Extent :=
  if name = "year".toList ∨ name = "years".toList then some ⟨12, 0, 0⟩
  else if name = "mon".toList ∨ name = "mons".toList then some ⟨1, 0, 0⟩
  else if name = "day".toList ∨ name = "days".toList then some ⟨0, 1, 0⟩
  else none

/-- The millionths of a second of a fraction of at most six digits, with which the text ends. -/
def fraction? : List Char → Option Nat
  | [] => some 0
  | c :: cs =>
    if c = '.' ∧ cs.length ≤ 6 then (digitsValue? cs).map (· * tenTo (6 - cs.length)) else none

/-- The microseconds of a time in hours, of which there may be any number, minutes and seconds. -/
def unsignedClock? (cs : List Char) : Option Nat := do
  let hours ← digitsValue? (cs.takeWhile isDigit)
  let cs ← takeChar? ':' (cs.dropWhile isDigit)
  let (minutes, cs) ← takeDigits? 2 cs
  let cs ← takeChar? ':' cs
  let (seconds, cs) ← takeDigits? 2 cs
  let fraction ← fraction? cs
  if minutes ≤ 59 ∧ seconds ≤ 59 then
    some (((hours * 60 + minutes) * 60 + seconds) * 1000000 + fraction)
  else none

/-- The microseconds of a time, which may have a minus sign. -/
def clock? : List Char → Option Int
  | '-' :: cs => (unsignedClock? cs).map fun n => -(n : Int)
  | cs => (unsignedClock? cs).map fun n => (n : Int)

/-- The sum of the counts and of the time that some words stand for. -/
def ofWords? : List (List Char) → Option Extent
  | [] => some zero
  | [word] => (clock? word).map fun micros => ⟨0, 0, micros⟩
  | count :: name :: rest => do
    let count ← integer? count
    let unit ← unit? name
    let others ← ofWords? rest
    some ((unit.times count).add others)

/-- The length of time that a text stands for. A text without words stands for none. -/
def read? (s : String) : Option Extent :=
  if (words s.toList).isEmpty then none else ofWords? (words s.toList)

end Extent

/-- The length of time of an interval. -/
def Interval.extent (i : Interval) : Extent :=
  ⟨i.months.toInt, i.days.toInt, i.micros.toInt⟩

example : Extent.read? "-1 years -1 mons +3 days -00:00:00.5" = some ⟨-13, 3, -500000⟩ := by
  decide +kernel

namespace Interval

/-! ### Words -/

theorem isBlank_of_isDigit {c : Char} (h : isDigit c = true) : isBlank c = false := by
  have hbounds : 48 ≤ c.toNat ∧ c.toNat ≤ 57 := by
    simpa [isDigit, Char.le_def, UInt32.le_iff_toNat_le] using h
  simp only [isBlank, blankRanges, List.any_cons, List.any_nil]
  simp
  omega

/-- The words of a text that is put together with blanks are those of its parts. -/
theorem words_intercalate (parts : List (List Char)) :
    words ([' '].intercalate parts) = parts.flatMap words := by
  induction parts with
  | nil => rfl
  | cons part rest ih =>
    cases rest with
    | nil => simp
    | cons next rest =>
      rw [List.intercalate_cons_cons, List.append_assoc, List.singleton_append, words,
        wordsFrom_append_blank (by decide), ih, List.flatMap_cons]
      rfl

theorem words_of_unbroken {cs : List Char} (hcs : ∀ c ∈ cs, isBlank c = false) (hsome : cs ≠ []) :
    words cs = [cs] :=
  wordsFrom_of_unbroken hcs hsome

theorem isBlank_of_mem_digits {cs : List Char} (hdigits : cs.all isDigit = true) :
    ∀ c ∈ cs, isBlank c = false := by
  intro c hc
  exact isBlank_of_isDigit (List.all_eq_true.1 hdigits c hc)

theorem isBlank_of_mem_intDigits (n : Int) : ∀ c ∈ intDigits n, isBlank c = false := by
  have hdigits := isBlank_of_mem_digits (all_isDigit_natDigits n.natAbs)
  rw [intDigits]
  split
  · exact List.forall_mem_cons.2 ⟨by decide, hdigits⟩
  · exact hdigits

theorem intDigits_ne_nil (n : Int) : intDigits n ≠ [] := by
  rw [intDigits]
  split
  · simp
  · exact natDigits_ne_nil n.natAbs

/-! ### Counts of units -/

/-- The word names the unit in the singular, and with an `s` in the plural. -/
structure Names (name : List Char) (unit : Extent) : Prop where
  unbroken : (name ++ ['s']).any isBlank = false
  singular : Extent.unit? name = some unit
  plural : Extent.unit? (name ++ ['s']) = some unit

theorem names_year : Names "year".toList ⟨12, 0, 0⟩ := ⟨by decide, by decide, by decide⟩

theorem names_mon : Names "mon".toList ⟨1, 0, 0⟩ := ⟨by decide, by decide, by decide⟩

theorem names_day : Names "day".toList ⟨0, 1, 0⟩ := ⟨by decide, by decide, by decide⟩

theorem Names.isBlank_of_mem {name : List Char} {unit : Extent} (h : Names name unit) :
    ∀ c ∈ name ++ ['s'], isBlank c = false := by
  intro c hc
  simpa using List.any_eq_false.1 h.unbroken c hc

theorem Names.words_countDigits {name : List Char} {unit : Extent} (h : Names name unit)
    (count : Int) (singular : Bool) :
    ∃ word, words (countDigits name count singular) = [intDigits count, word] ∧
      Extent.unit? word = some unit := by
  have hcount := words_of_unbroken (isBlank_of_mem_intDigits count) (intDigits_ne_nil count)
  have hunbroken : ∀ c ∈ name, isBlank c = false := (List.forall_mem_append.1 h.isBlank_of_mem).1
  have hname : name ≠ [] := by
    rintro rfl
    exact Option.some_ne_none unit h.singular.symm
  rw [countDigits, List.append_assoc, List.cons_append, words, wordsFrom_append_blank (by decide)]
  change ∃ word, words (intDigits count) ++ _ = _ ∧ _
  rw [hcount]
  cases singular with
  | true =>
    refine ⟨name, ?_, h.singular⟩
    rw [if_pos rfl, List.append_nil, words_of_unbroken hunbroken hname, List.singleton_append]
  | false =>
    refine ⟨name ++ ['s'], ?_, h.plural⟩
    rw [if_neg Bool.false_ne_true, words_of_unbroken h.isBlank_of_mem (by simp),
      List.singleton_append]

variable {arithmetic : Arithmetic}

/-- Operations that come to a result have come to one before. -/
theorem exists_of_bind_eq_ok {α β : Type} {x : Except Overflow α} {f : α → Except Overflow β}
    {b : β} (h : x >>= f = .ok b) : ∃ a, x = .ok a ∧ f a = .ok b := by
  cases x with
  | error overflow => cases h
  | ok a => exact ⟨a, rfl, h⟩

/-- What is written of a count is nothing, or the count in one of the two numbers. -/
theorem unitDigits_eq_ok {name : List Char} {count : Int} {digits : List (List Char)}
    (h : unitDigits arithmetic name count = .ok digits) :
    (count = 0 ∧ digits = []) ∨ ∃ singular, digits = [countDigits name count singular] := by
  rw [unitDigits] at h
  split at h
  · next hzero => exact .inl ⟨hzero, (Except.ok.inj h).symm⟩
  · obtain ⟨size, -, h⟩ := exists_of_bind_eq_ok h
    exact .inr ⟨_, (Except.ok.inj h).symm⟩

theorem Names.words_ne_nil {name part : List Char} {unit : Extent} {count : Int}
    {digits : List (List Char)} (h : Names name unit)
    (hdigits : unitDigits arithmetic name count = .ok digits) (hpart : part ∈ digits) :
    words part ≠ [] := by
  obtain ⟨-, rfl⟩ | ⟨singular, rfl⟩ := unitDigits_eq_ok hdigits
  · cases hpart
  · obtain ⟨word, hwords, -⟩ := h.words_countDigits count singular
    rw [List.mem_singleton.1 hpart, hwords]
    simp

/-- A count of a unit adds so many units to what the words behind it stand for. -/
theorem Names.ofWords?_unitDigits {name : List Char} {unit others : Extent} {count : Int}
    {digits rest : List (List Char)} (h : Names name unit)
    (hdigits : unitDigits arithmetic name count = .ok digits)
    (hrest : Extent.ofWords? rest = some others) :
    Extent.ofWords? (digits.flatMap words ++ rest) = some ((unit.times count).add others) := by
  obtain ⟨rfl, rfl⟩ | ⟨singular, rfl⟩ := unitDigits_eq_ok hdigits
  · rw [List.flatMap_nil, List.nil_append, hrest]
    simp [Extent.times, Extent.add]
  · obtain ⟨word, hwords, hword⟩ := h.words_countDigits count singular
    rw [List.flatMap_singleton, hwords]
    simp only [List.cons_append, List.nil_append, Extent.ofWords?, integer?_intDigits, hword, hrest,
      Option.bind_eq_bind, Option.bind_some]

/-! ### Times -/

theorem exists_zeros (cs : List Char) :
    ∃ count, cs = withoutTrailingZeros cs ++ List.replicate count '0' := by
  have hzeros : ∀ c ∈ cs.reverse.takeWhile (· == '0'), c = '0' := by
    intro c hc
    simpa using List.all_eq_true.1 List.all_takeWhile c hc
  refine ⟨(cs.reverse.takeWhile (· == '0')).length, ?_⟩
  rw [withoutTrailingZeros, ← List.reverse_replicate, ← List.reverse_append,
    ← List.eq_replicate_of_mem hzeros, List.takeWhile_append_dropWhile, List.reverse_reverse]

/-- A fraction is read with the zeros that were left out at its end. -/
theorem fraction?_withoutTrailingZeros {fraction : Nat} (hfraction : fraction < tenTo 6) :
    Extent.fraction? (if fraction = 0 then []
      else '.' :: withoutTrailingZeros (fixedDigits 6 fraction)) = some fraction := by
  split
  · next hzero => rw [hzero]; rfl
  · next hsome =>
    obtain ⟨count, hcount⟩ := exists_zeros (fixedDigits 6 fraction)
    have hvalue := digitsFrom_fixedDigits 6 fraction
    have hlength := length_fixedDigits 6 fraction
    have hdigits := all_isDigit_fixedDigits 6 fraction
    rw [Nat.mod_eq_of_lt hfraction] at hvalue
    generalize withoutTrailingZeros (fixedDigits 6 fraction) = kept at *
    rw [hcount, digitsFrom_append, digitsFrom_zeros] at hvalue
    rw [hcount, List.length_append, List.length_replicate] at hlength
    rw [hcount, List.all_append, Bool.and_eq_true] at hdigits
    have hkept : kept ≠ [] := by
      rintro rfl
      apply hsome
      rw [← hvalue]
      exact Nat.zero_mul _
    have hmissing : 6 - kept.length = count := by omega
    rw [Extent.fraction?, if_pos ⟨rfl, by omega⟩, digitsValue?_of_all hkept hdigits.1,
      Option.map_some, hmissing, hvalue]

theorem unsignedClock?_clockChars {hours minutes seconds fraction : Nat} (hminutes : minutes ≤ 59)
    (hseconds : seconds ≤ 59) (hfraction : fraction < 1000000) :
    Extent.unsignedClock? (clockChars false hours minutes seconds fraction) =
      some (((hours * 60 + minutes) * 60 + seconds) * 1000000 + fraction) := by
  have htwo : tenTo 2 = 100 := rfl
  have hcolon : isDigit ':' = false := by decide
  have hhours := all_isDigit_paddedDigits 2 hours
  rw [clockChars, if_neg Bool.false_ne_true]
  simp only [twoDigits, List.nil_append, List.append_assoc, List.cons_append]
  rw [Extent.unsignedClock?, takeWhile_isDigit_append hhours hcolon,
    dropWhile_isDigit_append hhours hcolon]
  simp only [digitsValue?_paddedDigits, takeChar?_cons,
    takeDigits?_paddedDigits (by decide) (show minutes < tenTo 2 by omega),
    takeDigits?_paddedDigits (by decide) (show seconds < tenTo 2 by omega),
    fraction?_withoutTrailingZeros hfraction, Option.bind_eq_bind, Option.bind_some]
  rw [if_pos ⟨hminutes, hseconds⟩]

/-- The text of a time begins with a digit, if the time has no minus sign. -/
theorem clock?_clockChars (negative : Bool) {hours minutes seconds fraction : Nat} {total : Nat}
    (h : Extent.unsignedClock? (clockChars false hours minutes seconds fraction) = some total) :
    Extent.clock? (clockChars negative hours minutes seconds fraction) =
      some (if negative then -(total : Int) else total) := by
  cases negative with
  | true =>
    have hsign : clockChars true hours minutes seconds fraction =
        '-' :: clockChars false hours minutes seconds fraction := by simp [clockChars]
    rw [hsign, Extent.clock?, h]
    rfl
  | false =>
    unfold Extent.clock?
    split
    · next hsign =>
      rw [hsign] at h
      simp [Extent.unsignedClock?, isDigit, digitsValue?] at h
    · rw [h]
      rfl

/-- A number of microseconds is read back from its time. -/
theorem clock?_clockText (micros : Int64) :
    Extent.clock? (clockText micros) = some micros.toInt := by
  rw [clockText]
  rw [clock?_clockChars _ (unsignedClock?_clockChars (by omega) (by omega) (by omega))]
  rw [Option.some.injEq]
  simp only [decide_eq_true_eq, Int64.lt_iff_toInt_lt, Int64.toInt_zero]
  split <;> omega

theorem isBlank_of_mem_clockChars (negative : Bool) (hours minutes seconds fraction : Nat) :
    ∀ c ∈ clockChars negative hours minutes seconds fraction, isBlank c = false := by
  have htwo : ∀ n, ∀ c ∈ twoDigits n, isBlank c = false := fun n =>
    isBlank_of_mem_digits (all_isDigit_paddedDigits 2 n)
  have hkept : ∀ c ∈ withoutTrailingZeros (fixedDigits 6 fraction), isBlank c = false := by
    intro c hc
    obtain ⟨count, hcount⟩ := exists_zeros (fixedDigits 6 fraction)
    refine isBlank_of_mem_digits (all_isDigit_fixedDigits 6 fraction) c ?_
    rw [hcount]
    exact List.mem_append_left _ hc
  have hsign : ∀ c ∈ (if negative then ['-'] else []), isBlank c = false := by
    split
    · exact List.forall_mem_singleton.2 (by decide)
    · nofun
  have hpoint : ∀ c ∈ (if fraction = 0 then []
      else '.' :: withoutTrailingZeros (fixedDigits 6 fraction)), isBlank c = false := by
    split
    · nofun
    · exact List.forall_mem_cons.2 ⟨by decide, hkept⟩
  have hcolon : isBlank ':' = false := by decide
  simp only [clockChars, List.forall_mem_append, List.forall_mem_cons]
  exact ⟨⟨⟨⟨hsign, htwo hours⟩, hcolon, htwo minutes⟩, hcolon, htwo seconds⟩, hpoint⟩

theorem words_clockText (micros : Int64) : words (clockText micros) = [clockText micros] := by
  have hunbroken : ∀ c ∈ clockText micros, isBlank c = false :=
    isBlank_of_mem_clockChars _ _ _ _ _
  refine words_of_unbroken hunbroken ?_
  rw [clockText, clockChars]
  simp

/-! ### The whole text -/

/-- The time stands behind the units. Where there is none, the interval has no microseconds. -/
theorem exists_rest (i : Interval) (units : List (List Char)) : ∃ rest,
    (i.withClock units).flatMap words = units.flatMap words ++ rest ∧
      Extent.ofWords? rest = some ⟨0, 0, i.micros.toInt⟩ := by
  rw [withClock]
  split
  · refine ⟨[clockText i.micros], ?_, ?_⟩
    · simp only [List.flatMap_append, List.flatMap_singleton, words_clockText]
    · rw [Extent.ofWords?, clock?_clockText]
      rfl
  · next hnone =>
    have hmicros : i.micros = 0 := Decidable.not_not.1 (not_or.1 hnone).1
    refine ⟨[], (List.append_nil _).symm, ?_⟩
    rw [hmicros]
    rfl

/-- Nothing is left of no interval: where no unit is, the time is. -/
theorem words_withClock_ne_nil (i : Interval) {units : List (List Char)}
    (hunits : ∀ part ∈ units, words part ≠ []) : (i.withClock units).flatMap words ≠ [] := by
  have hclock : words (clockText i.micros) ≠ [] := by
    rw [words_clockText]
    exact List.cons_ne_nil _ _
  have hparts : ∃ part ∈ i.withClock units, words part ≠ [] := by
    rw [withClock]
    split
    · exact ⟨_, List.mem_concat_self, hclock⟩
    · next hnone =>
      have hsome : units ≠ [] := fun hnil => hnone (.inr (List.isEmpty_iff.2 hnil))
      obtain ⟨part, hpart⟩ := List.exists_mem_of_ne_nil units hsome
      exact ⟨part, hpart, hunits part hpart⟩
  obtain ⟨part, hpart, hwords⟩ := hparts
  intro hnil
  exact hwords (List.flatMap_eq_nil_iff.1 hnil part hpart)

/-- A text of an interval is put together from its counts. -/
theorem render_eq_ok {i : Interval} {text : String} (h : i.render arithmetic = .ok text) :
    ∃ years months days,
      unitDigits arithmetic "year".toList (i.months.toInt.tdiv 12) = .ok years ∧
      unitDigits arithmetic "mon".toList (i.months.toInt.tmod 12) = .ok months ∧
      unitDigits arithmetic "day".toList i.days.toInt = .ok days ∧
      String.ofList ([' '].intercalate (i.withClock (years ++ months ++ days))) = text := by
  rw [render_eq] at h
  obtain ⟨years, hyears, h⟩ := exists_of_bind_eq_ok h
  obtain ⟨months, hmonths, h⟩ := exists_of_bind_eq_ok h
  obtain ⟨days, hdays, h⟩ := exists_of_bind_eq_ok h
  exact ⟨years, months, days, hyears, hmonths, hdays, Except.ok.inj h⟩

/-- A text of an interval is read back as the interval. -/
theorem read?_of_render {i : Interval} {text : String} (h : i.render arithmetic = .ok text) :
    Extent.read? text = some i.extent := by
  obtain ⟨years, months, days, hyears, hmonths, hdays, rfl⟩ := render_eq_ok h
  obtain ⟨rest, hparts, hrest⟩ := i.exists_rest (years ++ months ++ days)
  have hsome : (i.withClock (years ++ months ++ days)).flatMap words ≠ [] := by
    refine i.words_withClock_ne_nil ?_
    simp only [List.forall_mem_append]
    exact ⟨⟨fun _ => names_year.words_ne_nil hyears, fun _ => names_mon.words_ne_nil hmonths⟩,
      fun _ => names_day.words_ne_nil hdays⟩
  have htotal := Int.mul_tdiv_add_tmod i.months.toInt 12
  rw [Extent.read?, String.toList_ofList, words_intercalate, List.isEmpty_eq_false_iff.2 hsome,
    if_neg Bool.false_ne_true, hparts]
  simp only [List.flatMap_append, List.append_assoc]
  rw [names_year.ofWords?_unitDigits hyears (names_mon.ofWords?_unitDigits hmonths
    (names_day.ofWords?_unitDigits hdays hrest)), Option.some.injEq, extent]
  simp only [Extent.times, Extent.add, Extent.mk.injEq]
  omega

theorem extent_injective : Function.Injective extent := by
  rintro ⟨months, days, micros⟩ ⟨months', days', micros'⟩ h
  simpa [extent, Int32.toInt_inj, Int64.toInt_inj] using h

/-- Intervals with the same text are the same, whichever build has written it. -/
theorem eq_of_render {arithmetic' : Arithmetic} {i j : Interval} {text : String}
    (hi : i.render arithmetic = .ok text) (hj : j.render arithmetic' = .ok text) : i = j := by
  have hextent : some i.extent = some j.extent := by
    rw [← read?_of_render hi, ← read?_of_render hj]
  exact extent_injective (Option.some.inj hextent)

end Interval

/-- Intervals in columns. Without the checks each interval has a text, from which it is read back;
so a payload of sixteen bytes is decoded as a text that stands for exactly the months, the days and
the microseconds in the payload, and payloads that are decoded alike are alike. Where a build with
the checks decodes a payload, it is as the same text. -/
theorem intervals_read_back (name : String) :
    (∀ i : Interval, ∃ text,
      i.render .wrapping = .ok text ∧ Extent.read? text = some i.extent) ∧
    (∀ bytes : Bytes, bytes.length = 16 →
      ∃ text, decodeField .wrapping ⟨name, .scalar .interval⟩ (some bytes) = .ok (.text text) ∧
        Extent.read? text = some ⟨ofSignedBigEndian (bytes.drop 12),
          ofSignedBigEndian ((bytes.drop 8).take 4), ofSignedBigEndian (bytes.take 8)⟩) ∧
    (∀ bytes bytes' : Bytes, bytes.length = 16 → bytes'.length = 16 →
      decodeField .wrapping ⟨name, .scalar .interval⟩ (some bytes) =
        decodeField .wrapping ⟨name, .scalar .interval⟩ (some bytes') → bytes = bytes') ∧
    ∀ (bytes : Bytes) (v : Value), bytes.length = 16 →
      decodeField .checked ⟨name, .scalar .interval⟩ (some bytes) = .ok v →
        decodeField .wrapping ⟨name, .scalar .interval⟩ (some bytes) = .ok v := by
  refine ⟨?_, ?_, ?_, ?_⟩
  · intro i
    obtain ⟨text, htext, -⟩ := i.exists_render
    exact ⟨text, htext, Interval.read?_of_render htext⟩
  · intro bytes hlength
    obtain ⟨i, hi, hmonths, hdays, hmicros⟩ := Interval.exists_of_length hlength
    obtain ⟨text, htext, -⟩ := i.exists_render
    refine ⟨text, decodeField_of_render hi htext name, ?_⟩
    rw [Interval.read?_of_render htext, Interval.extent, hmonths, hdays, hmicros]
  · intro bytes bytes' hlength hlength' h
    obtain ⟨i, hi, -⟩ := Interval.exists_of_length hlength
    obtain ⟨j, hj, -⟩ := Interval.exists_of_length hlength'
    obtain ⟨text, htext, -⟩ := i.exists_render
    obtain ⟨text', htext', -⟩ := j.exists_render
    rw [decodeField_of_render hi htext, decodeField_of_render hj htext', Outcome.ok.injEq,
      Value.text.injEq] at h
    subst h
    obtain rfl := Interval.eq_of_render htext htext'
    rw [← Interval.toBytes_of_ofBytes? hi, ← Interval.toBytes_of_ofBytes? hj]
  · intro bytes v hlength h
    obtain ⟨i, hi, -⟩ := Interval.exists_of_length hlength
    obtain ⟨text, hwrapping, hchecked⟩ := i.exists_render
    rw [decodeField_of_render hi hwrapping]
    split at hchecked
    · rw [decodeField_of_overflow hi hchecked] at h
      cases h
    · rwa [decodeField_of_render hi hchecked] at h

open IntervalWitness in
theorem intervals_read_back_least :
    least.length = 16 ∧ next.length = 16 ∧
    decodeField .wrapping ⟨"span", .scalar .interval⟩ (some least) = .ok (.text leastText) ∧
    Extent.read? leastText = some ⟨-2147483648, -2147483648, -9223372036854775808⟩ ∧
    decodeField .wrapping ⟨"span", .scalar .interval⟩ (some least) ≠
      decodeField .wrapping ⟨"span", .scalar .interval⟩ (some next) := by
  have hlength : least.length = 16 := rfl
  have hlength' : next.length = 16 := rfl
  have hdecode : decodeField .wrapping ⟨"span", .scalar .interval⟩ (some least) =
      .ok (.text leastText) :=
    decodeField_of_render ofBytes?_least render_least "span"
  obtain ⟨-, hpayload, hdistinct, -⟩ := intervals_read_back "span"
  obtain ⟨text, hfound, hread⟩ := hpayload least hlength
  rw [hdecode, Outcome.ok.injEq, Value.text.injEq] at hfound
  subst hfound
  have hextent : Extent.mk (ofSignedBigEndian (least.drop 12))
      (ofSignedBigEndian ((least.drop 8).take 4)) (ofSignedBigEndian (least.take 8)) =
        ⟨-2147483648, -2147483648, -9223372036854775808⟩ := by decide +kernel
  refine ⟨hlength, hlength', hdecode, hread.trans (congrArg some hextent), ?_⟩
  intro h
  exact absurd (hdistinct least next hlength hlength' h) (by decide)

end SqlPipeline.Postgres
