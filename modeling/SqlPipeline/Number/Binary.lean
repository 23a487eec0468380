import SqlPipeline.Number.Power

/-!
Binary floating point formats in exact arithmetic.

A value is held as its bits. A finite magnitude is `m * 2 ^ q` with natural `m`, and `roundRatio`
gives the bits of the representable magnitude nearest to a quotient of naturals, a tie going to the
even significand. Everything else (integers, decimals, products, other formats) is rounded through
it, so each result is rounded exactly once.
-/

namespace SqlPipeline

/-- The shape of a binary format: how many bits hold the fraction and how many the exponent. -/
structure BinaryFormat where
  fractionBits : Nat
  exponentBits : Nat

namespace BinaryFormat

/-- Eight bytes: 52 bits of fraction and 11 of exponent. -/
def double : BinaryFormat := ⟨52, 11⟩

/-- Four bytes: 23 bits of fraction and 8 of exponent. -/
def single : BinaryFormat := ⟨23, 8⟩

variable (format : BinaryFormat)

/-- The bits of the magnitude infinity; larger magnitude bits are not a number. -/
def infinityBits : Nat :=
  (twoTo format.exponentBits - 1) * twoTo format.fractionBits

/-- The magnitude bits of what is not a number, with a payload whose leading bit is set. -/
def nanBits (payload : Nat) : Nat :=
  let leading := twoTo (format.fractionBits - 1)
  format.infinityBits + (if payload < leading then payload + leading else payload)

/-- The bit that holds the sign. -/
def signBit : Nat :=
  twoTo (format.fractionBits + format.exponentBits)

/-- The least binary exponent of a significand: that of the subnormal magnitudes. -/
def minExponent : Int :=
  2 - (twoTo (format.exponentBits - 1) : Int) - format.fractionBits

/-- The significand and the binary exponent of finite magnitude bits. -/
def significand (magnitude : Nat) : Nat × Int :=
  let exponent := magnitude / twoTo format.fractionBits
  let fraction := magnitude % twoTo format.fractionBits
  if exponent = 0 then (fraction, format.minExponent)
  else (twoTo format.fractionBits + fraction, format.minExponent + (exponent - 1 : Nat))

/-- The magnitude bits nearest to `num / den`, a tie going to the even significand, from the
quotient by `2 ^ q` where `q` is an exponent that the significand may have. -/
def roundAt (num den : Nat) (q : Int) : Nat :=
  let num := timesTwoTo num (-q)
  let den := timesTwoTo den q
  let whole := num / den
  let twice := 2 * (num % den)
  let rounded := if den < twice || (twice == den && whole % 2 == 1) then whole + 1 else whole
  (q - format.minExponent).toNat * twoTo format.fractionBits + rounded

/-- The magnitude bits nearest to `num / den`; `den` is positive. -/
def roundRatio (num den : Nat) : Nat :=
  if num = 0 then 0
  else
    let guess : Int := (Nat.log2 num : Int) - Nat.log2 den - format.fractionBits
    -- the quotient by `2 ^ guess` lies between half of the least full significand and twice of it
    let full := timesTwoTo den guess * twoTo format.fractionBits
    let q := if timesTwoTo num (-guess) < full then guess - 1 else guess
    min (format.roundAt num den (max q format.minExponent)) format.infinityBits

end BinaryFormat

/-- A double-precision number, as its bits. -/
structure Binary64 where
  bits : UInt64
  deriving DecidableEq

/-- A single-precision number, as its bits. -/
structure Binary32 where
  bits : UInt32
  deriving DecidableEq

namespace Binary64

/-- The bits without the sign. -/
def magnitude (x : Binary64) : Nat :=
  x.bits.toNat % BinaryFormat.double.signBit

/-- The sign bit is set. -/
def isNegative (x : Binary64) : Bool :=
  BinaryFormat.double.signBit ≤ x.bits.toNat

/-- Neither infinite nor not a number. -/
def isFinite (x : Binary64) : Bool :=
  x.magnitude < BinaryFormat.double.infinityBits

/-- Not a number. -/
def isNaN (x : Binary64) : Bool :=
  BinaryFormat.double.infinityBits < x.magnitude

/-- The number with the given sign and magnitude bits. -/
def ofMagnitude (negative : Bool) (magnitude : Nat) : Binary64 :=
  ⟨UInt64.ofNat ((if negative then BinaryFormat.double.signBit else 0) + magnitude)⟩

/-- The quiet value that is not a number, without a sign. -/
def nan : Binary64 := ⟨0x7ff8000000000000⟩

def zero : Binary64 := ⟨0⟩

def infinity : Binary64 := ofMagnitude false BinaryFormat.double.infinityBits

/-- The number nearest to `num / den` with the given sign. -/
def ofRatio (negative : Bool) (num den : Nat) : Binary64 :=
  ofMagnitude negative (BinaryFormat.double.roundRatio num den)

/-- The number nearest to an integer. -/
def ofInt (i : Int) : Binary64 :=
  ofRatio (i < 0) i.natAbs 1

/-- The number nearest to `digits * 10 ^ exponent` with the given sign. Exponents far outside the
range of the format are decided without computing the power. -/
def ofDecimal (negative : Bool) (digits : Nat) (exponent : Int) : Binary64 :=
  let size : Int := (Nat.toDigits 10 digits).length + exponent
  if digits = 0 || size < -400 then ofMagnitude negative 0
  else if 400 < size then ofMagnitude negative BinaryFormat.double.infinityBits
  else ofRatio negative (timesTenTo digits exponent) (timesTenTo 1 (-exponent))

/-- The product of two finite magnitudes, rounded to nearest, without a sign. -/
def mulMagnitude (x y : Binary64) : Binary64 :=
  let (m, q) := BinaryFormat.double.significand x.magnitude
  let (n, r) := BinaryFormat.double.significand y.magnitude
  ofRatio false (timesTwoTo (m * n) (q + r)) (timesTwoTo 1 (-(q + r)))

/-- The quotient of two finite magnitudes, the second not zero, rounded to nearest, without a
sign. -/
def divMagnitude (x y : Binary64) : Binary64 :=
  let (m, q) := BinaryFormat.double.significand x.magnitude
  let (n, r) := BinaryFormat.double.significand y.magnitude
  ofRatio false (timesTwoTo m (q - r)) (timesTwoTo n (r - q))

/-- The single-precision number nearest to a number. A value that is not a number stays one and
keeps its sign and the leading bits of its payload. -/
def toBinary32 (x : Binary64) : Binary32 :=
  let sign := if x.isNegative then BinaryFormat.single.signBit else 0
  let magnitude :=
    if x.isNaN then
      BinaryFormat.single.nanBits (x.magnitude % twoTo 52 / twoTo 29)
    else if x.isFinite then
      let (m, q) := BinaryFormat.double.significand x.magnitude
      BinaryFormat.single.roundRatio (timesTwoTo m q) (timesTwoTo 1 (-q))
    else BinaryFormat.single.infinityBits
  ⟨UInt32.ofNat (sign + magnitude)⟩

end Binary64

namespace Binary32

/-- The bits without the sign. -/
def magnitude (x : Binary32) : Nat :=
  x.bits.toNat % BinaryFormat.single.signBit

/-- The sign bit is set. -/
def isNegative (x : Binary32) : Bool :=
  BinaryFormat.single.signBit ≤ x.bits.toNat

/-- The single-precision number nearest to an integer. -/
def ofInt (i : Int) : Binary32 :=
  let sign := if i < 0 then BinaryFormat.single.signBit else 0
  ⟨UInt32.ofNat (sign + BinaryFormat.single.roundRatio i.natAbs 1)⟩

/-- The double-precision number of the same value. -/
def toBinary64 (x : Binary32) : Binary64 :=
  let magnitude := x.magnitude
  if magnitude < BinaryFormat.single.infinityBits then
    let (m, q) := BinaryFormat.single.significand magnitude
    Binary64.ofRatio x.isNegative (timesTwoTo m q) (timesTwoTo 1 (-q))
  else if magnitude = BinaryFormat.single.infinityBits then
    Binary64.ofMagnitude x.isNegative BinaryFormat.double.infinityBits
  else
    Binary64.ofMagnitude x.isNegative
      (BinaryFormat.double.nanBits (magnitude % twoTo 23 * twoTo 29))

end Binary32

example : BinaryFormat.double.minExponent = -1074 := by decide

example : (Binary64.ofInt 9007199254740993).bits = 0x4340000000000000 := by decide +kernel

example : (Binary64.ofDecimal false 1 (-1)).bits = 0x3fb999999999999a := by decide +kernel

example : (Binary64.ofDecimal false 49 (-325)).bits = 1 := by decide +kernel

end SqlPipeline
