import SqlPipeline.Text.Hex
import SqlPipeline.Text.Hidden

/-!
Text between double quotes, in which every character can be seen.

Quotes and backslashes follow a backslash, tabs and line breaks have short escapes, and characters
that leave no mark of their own are written as their code point in braces.
-/

namespace SqlPipeline

/-- The characters that stand for a character between double quotes. -/
def escapedChar (c : Char) : List Char :=
  if c = '"' then ['\\', '"']
  else if c = '\\' then ['\\', '\\']
  else if c = '\t' then ['\\', 't']
  else if c = '\r' then ['\\', 'r']
  else if c = '\n' then ['\\', 'n']
  else if c.toNat = 0 then ['\\', '0']
  else if isHidden c then '\\' :: 'u' :: '\x7b' :: natHex c.toNat ++ ['\x7d']
  else [c]

/-- The text between double quotes. -/
def escapedText (s : String) : String :=
  "\"" ++ String.ofList (s.toList.flatMap escapedChar) ++ "\""

end SqlPipeline
