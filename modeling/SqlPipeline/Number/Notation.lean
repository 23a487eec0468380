import SqlPipeline.Number.Shortest
import SqlPipeline.Text.Digits

/-!
The layout of a decimal number: positional with a point, or scientific with an exponent.

A number is written positionally, always with at least one digit on both sides of the point, while
its point falls within the bounds of the layout, and otherwise as a digit, the further digits after
a point, and `e` before the exponent.
-/

namespace SqlPipeline

/-- How a decimal number is written. In positional notation the place of the point, counted from
the first digit, lies above `lowest` and is at most `highest`. -/
structure DecimalLayout where
  lowest : Int
  highest : Int
  /-- A plus sign stands before an exponent that is not negative. -/
  plus : Bool
  tie : TieRule

namespace DecimalLayout

/-- JSON documents are positional from 10^-5 up to below 10^16, each exponent has its sign, and a
tie goes to the even digit. -/
def json : DecimalLayout := ⟨-5, 16, true, .toEven⟩

/-- Descriptions of values are positional from 10^-4 up to below 10^16, only a negative exponent has
a sign, and a tie goes upward. -/
def description : DecimalLayout := ⟨-4, 16, false, .upward⟩

/-- The characters of an exponent in the layout. -/
def exponentDigits (layout : DecimalLayout) (exponent : Int) : List Char :=
  (if layout.plus && 0 ≤ exponent then ['+'] else []) ++ intDigits exponent

/-- The digits of a positive decimal number in the layout. -/
def write (layout : DecimalLayout) (d : Decimal) : List Char :=
  let digits := natDigits d.digits
  let point : Int := digits.length + d.exponent
  if layout.lowest < point && point ≤ layout.highest then
    if 0 ≤ d.exponent then digits ++ List.replicate d.exponent.toNat '0' ++ ['.', '0']
    else if 0 < point then digits.take point.toNat ++ '.' :: digits.drop point.toNat
    else ['0', '.'] ++ List.replicate (-point).toNat '0' ++ digits
  else
    let fraction := match digits.drop 1 with
      | [] => []
      | rest => '.' :: rest
    digits.take 1 ++ fraction ++ 'e' :: layout.exponentDigits (point - 1)

/-- The fewest digits of a finite number that read back, in the layout. -/
def writeFinite (layout : DecimalLayout) (x : Binary64) : String :=
  let sign := if x.isNegative then ['-'] else []
  let body := if x.magnitude = 0 then ['0', '.', '0'] else layout.write (x.shortest layout.tie)
  String.ofList (sign ++ body)

end DecimalLayout

end SqlPipeline
