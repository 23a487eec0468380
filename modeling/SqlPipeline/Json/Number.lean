import SqlPipeline.Json.Basic
import SqlPipeline.Text.Digits

/-!
Numbers in the text of a JSON document.

An integer that fits its word stays an integer; the integer zero with a minus sign is the negative
zero of the doubles. Any other number is a double computed from the leading digits that fit an
unsigned 64-bit word, scaled by a power of ten: each operation rounds, so a long decimal may end one
place away from its nearest double.
-/

namespace SqlPipeline
namespace Json

/-- The greatest significand that is collected digit by digit. -/
def significandLimit : Nat := 18446744073709551615

/-- Appends digits to a significand while it stays within the limit; gives the significand, how
many digits were appended, and what follows. -/
def growSignificand (significand count : Nat) : List Char → Nat × Nat × List Char
  | [] => (significand, count, [])
  | c :: cs =>
    let next := significand * 10 + digitValue c
    if isDigit c && next ≤ significandLimit then growSignificand next (count + 1) cs
    else (significand, count, c :: cs)

/-- The power of ten as a double, for exponents up to 308. -/
def powerOfTen (exponent : Nat) : Binary64 :=
  Binary64.ofDecimal false 1 exponent

/-- Scales a double by a power of ten with any exponent; too large a result is none. -/
def scaleBy : Nat → Binary64 → Int → Option Binary64
  | 0, x, _ => some x
  | fuel + 1, x, exponent =>
    if exponent.natAbs ≤ 308 then
      if 0 ≤ exponent then
        let scaled := x.mulMagnitude (powerOfTen exponent.natAbs)
        if scaled.isFinite then some scaled else none
      else some (x.divMagnitude (powerOfTen exponent.natAbs))
    else if x.magnitude = 0 then some x
    else if 0 ≤ exponent then none
    else scaleBy fuel (x.divMagnitude (powerOfTen 308)) (exponent + 308)

/-- The double `significand * 10 ^ exponent`. Any significand vanishes within four divisions by the
greatest power of ten. -/
def scaled? (negative : Bool) (significand : Nat) (exponent : Int) : Option Json :=
  (scaleBy 5 (Binary64.ofInt significand) exponent).map fun x =>
    ofDouble (Binary64.ofMagnitude negative x.magnitude)

/-- The greatest exponent that is read; larger ones stand for zero or for no number. -/
def exponentLimit : Nat := 2147483647

/-- Reads an optional exponent after the digits of a number. -/
def exponentPart? (negative : Bool) (significand : Nat) (exponent : Int) :
    List Char → Option (Json × List Char)
  | [] => (scaled? negative significand exponent).map (·, [])
  | c :: cs =>
    if c == 'e' || c == 'E' then
      let (down, cs) := match cs with
        | '+' :: cs => (false, cs)
        | '-' :: cs => (true, cs)
        | cs => (false, cs)
      let digits := cs.takeWhile isDigit
      let rest := cs.dropWhile isDigit
      let n := digitsFrom 0 digits
      if digits.isEmpty then none
      else if exponentLimit < n then
        if significand ≠ 0 && !down then none
        else some (ofDouble (Binary64.ofMagnitude negative 0), rest)
      else
        let total : Int := if down then exponent - n else exponent + n
        (scaled? negative significand total).map (·, rest)
    else (scaled? negative significand exponent).map (·, c :: cs)

/-- Reads an optional fraction and an optional exponent after the integer digits of a number, of
which `dropped` did not fit the significand. -/
def fractionPart? (negative : Bool) (significand dropped : Nat) :
    List Char → Option (Json × List Char)
  | '.' :: cs =>
    let (grown, count, rest) := growSignificand significand 0 cs
    if count = 0 && !(rest.take 1).any isDigit then none
    else exponentPart? negative grown ((dropped : Int) - count) (rest.dropWhile isDigit)
  | cs => exponentPart? negative significand dropped cs

/-- The character goes on with a number after its integer digits. -/
def continuesNumber (c : Char) : Bool :=
  c == '.' || c == 'e' || c == 'E'

/-- Reads a number without its sign. -/
def unsignedNumber? (negative : Bool) (cs : List Char) : Option (Json × List Char) :=
  let (significand, count, rest) := growSignificand 0 0 cs
  let dropped := (rest.takeWhile isDigit).length
  let rest := rest.dropWhile isDigit
  if count = 0 then none
  else if cs.head? = some '0' && 1 < count + dropped then none
  else if dropped = 0 && !(rest.take 1).any continuesNumber then
    if negative then
      match if significand = 0 then none else if significand ≤ 9223372036854775808 then
          JsonInt.of? (-significand) else none with
      | some i => some (.number (.int i), rest)
      | none =>
        some (ofDouble (Binary64.ofMagnitude true (Binary64.ofInt significand).magnitude), rest)
    else (JsonInt.of? significand).map fun i => (.number (.int i), rest)
  else fractionPart? negative significand dropped rest

/-- Reads a number; gives the document that it is and what follows it. -/
def number? : List Char → Option (Json × List Char)
  | '-' :: cs => unsignedNumber? true cs
  | cs => unsignedNumber? false cs

end Json
end SqlPipeline
