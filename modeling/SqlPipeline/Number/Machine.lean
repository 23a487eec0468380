/-!
Integers of the machine: types with bounds, and operations whose result may have no place in them.

The operands and the results are integers without bounds. Where the result of an operation has no
place in its type, the operation fails; only a magnitude wraps around instead, in a program that is
built without the checks. Main statements: dividing by a positive number never fails, and taking the
magnitude leaves a signed type for its least number and for no other.
-/

namespace SqlPipeline

/-- A type of integers. -/
inductive MachineType where
  | int32
  | int64
  | word64
  deriving DecidableEq, Repr

namespace MachineType

def least : MachineType → Int
  | int32 => -2147483648
  | int64 => -9223372036854775808
  | word64 => 0

def greatest : MachineType → Int
  | int32 => 2147483647
  | int64 => 9223372036854775807
  | word64 => 18446744073709551615

/-- The integer has a place in the type. -/
def Contains (type : MachineType) (n : Int) : Prop :=
  type.least ≤ n ∧ n ≤ type.greatest

instance (type : MachineType) (n : Int) : Decidable (type.Contains n) :=
  inferInstanceAs (Decidable (_ ∧ _))

/-- The integer that is left of another one in as many bits as the type has. -/
def wrap (type : MachineType) (n : Int) : Int :=
  (n - type.least) % (type.greatest - type.least + 1) + type.least

example : int32.wrap 2147483648 = -2147483648 := rfl

theorem least_nonpos (type : MachineType) : type.least ≤ 0 := by
  cases type <;> decide

theorem greatest_nonneg (type : MachineType) : 0 ≤ type.greatest := by
  cases type <;> decide

theorem contains_int32 (n : Int32) : int32.Contains n.toInt :=
  ⟨n.le_toInt, Int.le_of_lt_add_one n.toInt_lt⟩

theorem contains_int64 (n : Int64) : int64.Contains n.toInt :=
  ⟨n.le_toInt, Int.le_of_lt_add_one n.toInt_lt⟩

end MachineType

/-- An operation on integers of one type. -/
inductive MachineOperation where
  /-- The quotient, rounded toward zero. -/
  | quotient (a b : Int)
  /-- What that quotient leaves. -/
  | remainder (a b : Int)
  | magnitude (a : Int)
  deriving DecidableEq, Repr

namespace MachineOperation

def result : MachineOperation → Int
  | quotient a b => a.tdiv b
  | remainder a b => a.tmod b
  | magnitude a => a.natAbs

/-- The operation can be done in the type. A remainder can where the quotient can. -/
def Fits (type : MachineType) : MachineOperation → Prop
  | quotient a b => b ≠ 0 ∧ type.Contains (a.tdiv b)
  | remainder a b => b ≠ 0 ∧ type.Contains (a.tdiv b)
  | magnitude a => type.Contains a.natAbs

instance (type : MachineType) (op : MachineOperation) : Decidable (op.Fits type) :=
  match op with
  | quotient _ _ => inferInstanceAs (Decidable (_ ∧ _))
  | remainder _ _ => inferInstanceAs (Decidable (_ ∧ _))
  | magnitude a => inferInstanceAs (Decidable (type.Contains a.natAbs))

variable {type : MachineType} {a b : Int}

/-- A quotient by a positive number lies between zero and the dividend. -/
theorem contains_tdiv (ha : type.Contains a) (hb : 0 < b) : type.Contains (a.tdiv b) := by
  obtain ⟨hleast, hgreatest⟩ := ha
  have hbelow := type.least_nonpos
  have habove := type.greatest_nonneg
  rcases Int.le_total 0 a with ha | ha
  · have hnonneg := Int.tdiv_nonneg ha (Int.le_of_lt hb)
    have hle := Int.tdiv_le_self b ha
    exact ⟨by omega, by omega⟩
  · have hnonneg := Int.tdiv_nonneg (Int.neg_nonneg_of_nonpos ha) (Int.le_of_lt hb)
    have hle := Int.tdiv_le_self b (Int.neg_nonneg_of_nonpos ha)
    rw [Int.neg_tdiv] at hnonneg hle
    exact ⟨by omega, by omega⟩

/-- The magnitude of the least number of a signed type has no place in the type. -/
theorem fits_magnitude_iff (htype : type ≠ .word64) (ha : type.Contains a) :
    (magnitude a).Fits type ↔ a ≠ type.least := by
  rw [Fits]
  cases type with
  | word64 => exact absurd rfl htype
  | int32 | int64 =>
    simp only [MachineType.Contains, MachineType.least, MachineType.greatest] at ha ⊢
    omega

/-- An unsigned type of as many bits has a place for it. -/
theorem fits_magnitude_word64 (ha : MachineType.int64.Contains a) :
    (magnitude a).Fits .word64 := by
  rw [Fits]
  simp only [MachineType.Contains, MachineType.least, MachineType.greatest] at ha ⊢
  omega

end MachineOperation

/-- An operation that could not be done in its type. -/
structure Overflow where
  type : MachineType
  operation : MachineOperation
  deriving DecidableEq, Repr

def Overflow.message (o : Overflow) : String :=
  match o.operation with
  | .quotient _ b =>
    if b = 0 then "attempt to divide by zero" else "attempt to divide with overflow"
  | .remainder _ b =>
    if b = 0 then "attempt to calculate the remainder with a divisor of zero"
    else "attempt to calculate the remainder with overflow"
  | .magnitude _ => "attempt to negate with overflow"

/-- What a program was built to do where a result has no place in its type. -/
inductive Arithmetic where
  /-- Every operation whose result has no place fails. -/
  | checked
  /-- A magnitude without a place wraps around. -/
  | wrapping
  deriving DecidableEq, Repr

namespace Arithmetic

/-- Does an operation in a type. A quotient and a remainder are checked in every build. -/
def perform (arithmetic : Arithmetic) (type : MachineType) (op : MachineOperation) :
    Except Overflow Int :=
  if op.Fits type then .ok op.result
  else
    match arithmetic, op with
    | .wrapping, .magnitude _ => .ok (type.wrap op.result)
    | _, _ => .error ⟨type, op⟩

example : wrapping.perform .int32 (.remainder (-2147483648) (-1)) =
    .error ⟨.int32, .remainder (-2147483648) (-1)⟩ := rfl

variable (arithmetic : Arithmetic) {type : MachineType} {a b : Int}

theorem perform_of_fits {op : MachineOperation} (h : op.Fits type) :
    arithmetic.perform type op = .ok op.result :=
  if_pos h

theorem perform_quotient (ha : type.Contains a) (hb : 0 < b) :
    arithmetic.perform type (.quotient a b) = .ok (a.tdiv b) :=
  arithmetic.perform_of_fits ⟨Int.ne_of_gt hb, MachineOperation.contains_tdiv ha hb⟩

theorem perform_remainder (ha : type.Contains a) (hb : 0 < b) :
    arithmetic.perform type (.remainder a b) = .ok (a.tmod b) :=
  arithmetic.perform_of_fits ⟨Int.ne_of_gt hb, MachineOperation.contains_tdiv ha hb⟩

/-- Without the checks every magnitude has a result. -/
theorem exists_wrapping_magnitude (type : MachineType) (a : Int) :
    ∃ n, wrapping.perform type (.magnitude a) = .ok n := by
  rw [perform]
  split
  · exact ⟨_, rfl⟩
  · exact ⟨_, rfl⟩

end Arithmetic

end SqlPipeline
