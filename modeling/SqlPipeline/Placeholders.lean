import SqlPipeline.Text.Digits

/-!
Placeholders in SQL text.

A question mark is a placeholder unless it stands between quotes. A quotation opens at a single
quote, a double quote or a backtick and goes on to the next character of the same kind, so that a
quote written twice closes a quotation and opens it again.
-/

namespace SqlPipeline

/-- The character opens a quotation. -/
def isQuote (c : Char) : Bool :=
  c == '\'' || c == '"' || c == '\x60'

/-- The quotation in which the text goes on after a character. -/
def quotationAfter (open? : Option Char) (c : Char) : Option Char :=
  match open? with
  | some q => if c = q then none else some q
  | none => if isQuote c then some c else none

/-- The character is a placeholder in the given quotation. -/
def isPlaceholder (open? : Option Char) (c : Char) : Bool :=
  open?.isNone && c == '?'

/-- The text with its placeholders written as `$` and their number, where `count` of them stand
before it and it begins inside the given quotation. -/
def numberFrom (open? : Option Char) (count : Nat) : List Char → List Char
  | [] => []
  | c :: cs =>
    if isPlaceholder open? c then
      '$' :: natDigits (count + 1) ++ numberFrom open? (count + 1) cs
    else c :: numberFrom (quotationAfter open? c) count cs

/-- The number of placeholders of a text that begins inside the given quotation. -/
def placeholdersFrom (open? : Option Char) : List Char → Nat
  | [] => 0
  | c :: cs =>
    if isPlaceholder open? c then placeholdersFrom open? cs + 1
    else placeholdersFrom (quotationAfter open? c) cs

/-- The text with its placeholders numbered from 1. -/
def numberPlaceholders (sql : String) : String :=
  String.ofList (numberFrom none 0 sql.toList)

/-- The number of placeholders of a text. -/
def countPlaceholders (sql : String) : Nat :=
  placeholdersFrom none sql.toList

example : numberFrom none 0 "?'?'?".toList = "$1'?'$2".toList := by decide +kernel

end SqlPipeline
