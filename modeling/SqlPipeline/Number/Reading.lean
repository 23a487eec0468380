import SqlPipeline.Number.Binary
import SqlPipeline.Text.Blank
import SqlPipeline.Text.Digits

/-!
Numbers read from text.

`double?` takes an optional sign and then `inf`, `infinity` or `nan` in letters of either case, or
decimal digits with an optional point and an optional exponent; at least one digit stands beside the
point and at least one in the exponent. The number is rounded to nearest from the exact decimal.
-/

namespace SqlPipeline

/-- The exponent that follows the digits of a decimal number: nothing, or `e` and an integer. -/
def exponent? : List Char → Option Int
  | [] => some 0
  | c :: cs => if c == 'e' || c == 'E' then integer? cs else none

/-- The digits and the exponent of an unsigned decimal number. -/
def decimal? (cs : List Char) : Option (Nat × Int) :=
  let whole := cs.takeWhile isDigit
  let rest := cs.dropWhile isDigit
  let (fraction, rest) := match rest with
    | '.' :: rest => (rest.takeWhile isDigit, rest.dropWhile isDigit)
    | rest => ([], rest)
  if whole.isEmpty && fraction.isEmpty then none
  else (exponent? rest).map fun e => (digitsFrom 0 (whole ++ fraction), e - fraction.length)

/-- The number that an unsigned text stands for, with the given sign. -/
def unsignedDouble? (negative : Bool) (cs : List Char) : Option Binary64 :=
  let name := lowerAscii (String.ofList cs)
  if name = "inf" || name = "infinity" then
    some (Binary64.ofMagnitude negative BinaryFormat.double.infinityBits)
  else if name = "nan" then some Binary64.nan
  else (decimal? cs).map fun (digits, e) => Binary64.ofDecimal negative digits e

/-- The number that a text stands for. -/
def double? (s : String) : Option Binary64 :=
  match s.toList with
  | '+' :: cs => unsignedDouble? false cs
  | '-' :: cs => unsignedDouble? true cs
  | cs => unsignedDouble? false cs

end SqlPipeline
