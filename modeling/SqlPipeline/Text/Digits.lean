import SqlPipeline.Number.Power

/-!
Decimal digits: the text of a number, the digits of a fixed width, and the numbers read back.

`fixedDigits w n` has exactly `w` digits, the last `w` of `n`. `digitsValue?` reads a non-empty run
of ASCII digits, and `integer?` an optional sign before one. Main statement: an integer is read back
from its text.
-/

namespace SqlPipeline

/-- The character is one of `0` to `9`. -/
def isDigit (c : Char) : Bool :=
  '0' ≤ c && c ≤ '9'

/-- The digit of a number below ten. -/
def digitChar (n : Nat) : Char :=
  Char.ofNat ('0'.toNat + n % 10)

/-- The number that a digit stands for. -/
def digitValue (c : Char) : Nat :=
  c.toNat - '0'.toNat

/-- The last `width` decimal digits of `n`, with leading zeros. -/
def fixedDigits : Nat → Nat → List Char
  | 0, _ => []
  | width + 1, n => fixedDigits width (n / 10) ++ [digitChar n]

/-- The number written by a run of digits, most significant first, after the digits of `high`. -/
def digitsFrom (high : Nat) (cs : List Char) : Nat :=
  cs.foldl (fun n c => n * 10 + digitValue c) high

theorem digitsFrom_append (high : Nat) (cs ds : List Char) :
    digitsFrom high (cs ++ ds) = digitsFrom (digitsFrom high cs) ds := by
  simp [digitsFrom]

/-- The number written by a non-empty run of ASCII digits. -/
def digitsValue? (cs : List Char) : Option Nat :=
  if cs.isEmpty || !cs.all isDigit then none else some (digitsFrom 0 cs)

/-- The integer written by a non-empty run of ASCII digits, after an optional sign. -/
def integer? : List Char → Option Int
  | '+' :: cs => (digitsValue? cs).map Int.ofNat
  | '-' :: cs => (digitsValue? cs).map fun n => -Int.ofNat n
  | cs => (digitsValue? cs).map Int.ofNat

/-- The decimal digits of a number, without leading zeros. -/
def natDigits (n : Nat) : List Char :=
  Nat.toDigits 10 n

/-- The decimal text of an integer, with a minus sign when it is negative. -/
def intDigits (i : Int) : List Char :=
  if i < 0 then '-' :: natDigits i.natAbs else natDigits i.natAbs

/-- The decimal text of a number. -/
def natText (n : Nat) : String :=
  String.ofList (natDigits n)

/-- The decimal text of an integer. -/
def intText (i : Int) : String :=
  String.ofList (intDigits i)

/-- The decimal digits of a number, with leading zeros up to a width. -/
def paddedDigits (width n : Nat) : List Char :=
  let digits := natDigits n
  List.replicate (width - digits.length) '0' ++ digits

@[simp] theorem length_fixedDigits (width n : Nat) : (fixedDigits width n).length = width := by
  induction width generalizing n with
  | zero => rfl
  | succ width ih => simp [fixedDigits, ih]

theorem isDigit_digitChar (n : Nat) : isDigit (digitChar n) = true := by
  have hdigit : ∀ k < 10, isDigit (digitChar k) = true := by decide
  have hlast := hdigit (n % 10) (Nat.mod_lt n (by decide))
  rwa [digitChar, Nat.mod_mod] at hlast

theorem digitValue_digitChar (n : Nat) : digitValue (digitChar n) = n % 10 := by
  have hvalue : ∀ k < 10, digitValue (digitChar k) = k := by decide
  have hlast := hvalue (n % 10) (Nat.mod_lt n (by decide))
  rwa [digitChar, Nat.mod_mod] at hlast

theorem all_isDigit_fixedDigits (width n : Nat) : (fixedDigits width n).all isDigit = true := by
  induction width generalizing n with
  | zero => rfl
  | succ width ih => simp [fixedDigits, ih, isDigit_digitChar]

/-- The digits of a fixed width are read as the number that they are the last digits of. -/
theorem digitsFrom_fixedDigits (width n : Nat) :
    digitsFrom 0 (fixedDigits width n) = n % tenTo width := by
  induction width generalizing n with
  | zero => simp [fixedDigits, digitsFrom, tenTo, Nat.mod_one]
  | succ width ih =>
    rw [fixedDigits, digitsFrom_append, ih, tenTo_succ, Nat.mul_comm (tenTo width), Nat.mod_mul]
    change n / 10 % tenTo width * 10 + digitValue (digitChar n) = _
    rw [digitValue_digitChar]
    omega

theorem digitsFrom_zeros (n count : Nat) :
    digitsFrom n (List.replicate count '0') = n * tenTo count := by
  induction count generalizing n with
  | zero => simp [digitsFrom, tenTo]
  | succ count ih =>
      rw [List.replicate_succ, tenTo_succ, Nat.mul_comm (tenTo count), ← Nat.mul_assoc]
      exact ih (n * 10)

theorem natDigits_ne_nil (n : Nat) : natDigits n ≠ [] :=
  Nat.toDigits_ne_nil

theorem all_isDigit_natDigits (n : Nat) : (natDigits n).all isDigit = true := by
  refine List.all_eq_true.2 ?_
  intro c hc
  exact Nat.isDigit_of_mem_toDigits (by decide) (by decide) hc

/-- The digits of a number are read as that number. -/
theorem digitsFrom_natDigits (n : Nat) : digitsFrom 0 (natDigits n) = n := calc
  digitsFrom 0 (natDigits n) = Nat.ofDigitChars 10 (natDigits n) 0 := by
    simp only [digitsFrom, Nat.ofDigitChars, digitValue, Nat.mul_comm]
  _ = n := Nat.ofDigitChars_ten_toDigits

theorem all_isDigit_paddedDigits (width n : Nat) : (paddedDigits width n).all isDigit = true := by
  rw [paddedDigits, List.all_append, all_isDigit_natDigits, Bool.and_true]
  refine List.all_eq_true.2 ?_
  intro c hc
  rw [List.eq_of_mem_replicate hc]
  rfl

theorem digitsFrom_paddedDigits (width n : Nat) : digitsFrom 0 (paddedDigits width n) = n := by
  rw [paddedDigits, digitsFrom_append, digitsFrom_zeros, Nat.zero_mul, digitsFrom_natDigits]

/-- A number that is not wider than its padding has just that width. -/
theorem length_paddedDigits {width n : Nat} (hwidth : 0 < width) (hn : n < tenTo width) :
    (paddedDigits width n).length = width := by
  have hlength : (natDigits n).length ≤ width :=
    (Nat.length_toDigits_le_iff (by decide) hwidth).2 hn
  rw [paddedDigits, List.length_append, List.length_replicate]
  omega

theorem digitsValue?_of_all {cs : List Char} (hsome : cs ≠ []) (hdigits : cs.all isDigit = true) :
    digitsValue? cs = some (digitsFrom 0 cs) := by
  rw [digitsValue?, List.isEmpty_eq_false_iff.2 hsome, hdigits]
  rfl

theorem digitsValue?_paddedDigits (width n : Nat) :
    digitsValue? (paddedDigits width n) = some n := by
  have hsome : paddedDigits width n ≠ [] := by
    rw [paddedDigits]
    exact List.append_ne_nil_of_right_ne_nil _ (natDigits_ne_nil n)
  rw [digitsValue?_of_all hsome (all_isDigit_paddedDigits width n), digitsFrom_paddedDigits]

section Run

variable {digits : List Char} {c : Char} (hdigits : digits.all isDigit = true)
  (hc : isDigit c = false) (rest : List Char)
include hdigits hc

theorem takeWhile_isDigit_append : (digits ++ c :: rest).takeWhile isDigit = digits := by
  rw [List.takeWhile_append_of_pos (List.all_eq_true.1 hdigits),
    List.takeWhile_cons_of_neg (by simp [hc]), List.append_nil]

theorem dropWhile_isDigit_append : (digits ++ c :: rest).dropWhile isDigit = c :: rest := by
  rw [List.dropWhile_append_of_pos (List.all_eq_true.1 hdigits),
    List.dropWhile_cons_of_neg (by simp [hc])]

end Run

theorem integer?_of_digitsValue? {cs : List Char} {n : Nat} (h : digitsValue? cs = some n) :
    integer? cs = some (n : Int) := by
  unfold integer?
  split
  · simp [digitsValue?, isDigit] at h
  · simp [digitsValue?, isDigit] at h
  · rw [h]
    rfl

/-- An integer is read back from its text. -/
theorem integer?_intDigits (i : Int) : integer? (intDigits i) = some i := by
  have hdigits : digitsValue? (natDigits i.natAbs) = some i.natAbs := by
    rw [digitsValue?_of_all (natDigits_ne_nil _) (all_isDigit_natDigits _), digitsFrom_natDigits]
  rw [intDigits]
  split
  · next hnegative =>
    rw [integer?, hdigits, Option.map_some, Option.some.injEq]
    change -(i.natAbs : Int) = i
    omega
  · next hnatural =>
    rw [integer?_of_digitsValue? hdigits, Option.some.injEq]
    omega

example : fixedDigits 3 7 = ['0', '0', '7'] := by decide

example : integer? "-042".toList = some (-42) := by decide

end SqlPipeline
