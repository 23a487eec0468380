import SqlPipeline.Json.Writer
import SqlPipeline.Text.Escaped
import SqlPipeline.Value.Basic

/-!
Descriptions of values and documents for a reader of logs: the kind, and the content in
parentheses.
-/

namespace SqlPipeline

/-- Descriptions in square brackets. -/
def describedList (items : List String) : String :=
  "[" ++ ", ".intercalate items ++ "]"

/-- Descriptions by name in braces. -/
def describedMembers (members : List (String × String)) : String :=
  "\x7b" ++ ", ".intercalate (members.map fun m => escapedText m.1 ++ ": " ++ m.2) ++ "\x7d"

/-- A description in the parentheses of a name. -/
def describedAs (name content : String) : String :=
  name ++ "(" ++ content ++ ")"

def describedBool (b : Bool) : String :=
  if b then "true" else "false"

def Binary64.described (x : Binary64) : String :=
  if x.isFinite then DecimalLayout.description.writeFinite x
  else if x.isNaN then "NaN"
  else if x.isNegative then "-inf"
  else "inf"

namespace Json

mutual

def described : Json → String
  | .null => "Null"
  | .bool b => describedAs "Bool" (describedBool b)
  | .number n => describedAs "Number" (numberText n)
  | .string s => describedAs "String" (escapedText s)
  | .array items => "Array " ++ describedList (describedItems items)
  | .object members => "Object " ++ describedMembers (describedPairs members)

def describedItems : List Json → List String
  | [] => []
  | j :: rest => j.described :: describedItems rest

/-- The descriptions of the members of an object, by name. -/
def describedPairs : List (String × Json) → List (String × String)
  | [] => []
  | (name, j) :: rest => (name, j.described) :: describedPairs rest

end

end Json

namespace Value

mutual

def described : Value → String
  | .null => "Null"
  | .bool b => describedAs "Bool" (describedBool b)
  | .int i => describedAs "Int" (intText i.toInt)
  | .float x => describedAs "Float" x.described
  | .text s => describedAs "Text" (escapedText s)
  | .bytes octets => describedAs "Bytes" (describedList (octets.map fun b => natText b.toNat))
  | .uuid u => describedAs "Uuid" u.text
  | .timestamp t => describedAs "Timestamp" t.text
  | .json document => describedAs "Json" document.described
  | .list items => describedAs "List" (describedList (describedItems items))

def describedItems : List Value → List String
  | [] => []
  | v :: rest => v.described :: describedItems rest

end

end Value
end SqlPipeline
