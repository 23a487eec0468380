import SqlPipeline.Number.Binary

/-!
The fewest decimal digits that read back to a number.

The reals that round to a finite magnitude form an interval, with its ends exactly when the
significand is even. The coarsest power of ten that has a multiple in the interval decides how many
digits are needed, and of its multiples there the one nearest to the magnitude is taken. Two of them
may be equally near, and then a rule decides.
-/

namespace SqlPipeline

/-- Which of two decimals equally near to a number is taken. -/
inductive TieRule
  /-- The one whose last digit is even. -/
  | toEven
  | upward
  deriving DecidableEq

/-- A positive decimal number `digits * 10 ^ exponent`. -/
structure Decimal where
  digits : Nat
  exponent : Int
  deriving DecidableEq

/-- The interval of the reals that round to a magnitude, in units of `unitNum / unitDen`. -/
structure RoundingInterval where
  low : Nat
  mid : Nat
  high : Nat
  unitNum : Nat
  unitDen : Nat
  closed : Bool

namespace RoundingInterval

/-- The interval of a finite positive magnitude. The unit is a quarter of the significand's last
place; the lower half of the interval is narrow where a lower binary exponent begins. -/
def ofMagnitude (format : BinaryFormat) (magnitude : Nat) : RoundingInterval :=
  let (m, q) := format.significand magnitude
  let narrow := m == twoTo format.fractionBits && twoTo (format.fractionBits + 1) ≤ magnitude
  { low := 4 * m - (if narrow then 1 else 2)
    mid := 4 * m
    high := 4 * m + 2
    unitNum := twoTo (q - 2).toNat
    unitDen := twoTo (2 - q).toNat
    closed := m % 2 == 0 }

/-- The rational `num / den` lies in the interval. -/
def holds (interval : RoundingInterval) (num den : Nat) : Bool :=
  let low := interval.low * interval.unitNum * den
  let high := interval.high * interval.unitNum * den
  let value := num * interval.unitDen
  if interval.closed then low ≤ value && value ≤ high else low < value && value < high

/-- The lower of two neighbours is taken, where `twice` is twice its distance from a number and
`whole` the distance of the two. -/
def prefersBelow (tie : TieRule) (below twice whole : Nat) : Bool :=
  twice < whole || (twice == whole && tie == .toEven && below % 2 == 0)

/-- The multiple of `10 ^ exponent` in the interval that is nearest to its middle, if there is
one. -/
def multiple? (interval : RoundingInterval) (tie : TieRule) (exponent : Int) : Option Nat :=
  let up := tenTo exponent.toNat
  let down := tenTo (-exponent).toNat
  let num := interval.mid * interval.unitNum * down
  let den := interval.unitDen * up
  let below := num / den
  let above := below + 1
  let nearer := if prefersBelow tie below (2 * (num % den)) den
    then [below, above] else [above, below]
  (nearer.filter fun c => 0 < c).find? fun c => interval.holds (c * up) down

/-- The first hit among the powers of ten from `exponent` downwards. -/
def search (interval : RoundingInterval) (tie : TieRule) : Nat → Int → Decimal
  | 0, _ => ⟨0, 0⟩
  | fuel + 1, exponent =>
    match interval.multiple? tie exponent with
    | some digits => ⟨digits, exponent⟩
    | none => interval.search tie fuel (exponent - 1)

end RoundingInterval

/-- The fewest digits that read back to a finite positive magnitude. The search begins above the
leading digit and ends at the finest grid that any magnitude of the format needs. -/
def BinaryFormat.shortest (format : BinaryFormat) (tie : TieRule) (magnitude : Nat) : Decimal :=
  let (m, q) := format.significand magnitude
  let top := (Nat.toDigits 10 (timesTwoTo m q)).length
  (RoundingInterval.ofMagnitude format magnitude).search tie (top + 400) top

/-- The fewest digits that read back to a finite number other than zero, without its sign. -/
def Binary64.shortest (tie : TieRule) (x : Binary64) : Decimal :=
  BinaryFormat.double.shortest tie x.magnitude

example : (Binary64.ofDecimal false 3 (-1)).shortest .toEven = ⟨3, -1⟩ := by decide +kernel

example : (Binary64.mk 0x4310000000000001).shortest .toEven = ⟨11258999068426242, -1⟩ := by
  decide +kernel

example : (Binary64.mk 0x4310000000000001).shortest .upward = ⟨11258999068426243, -1⟩ := by
  decide +kernel

end SqlPipeline
