import SqlPipeline.Value.Read

/-!
Values as JSON documents, and JSON documents as values.

A value that holds a document is that document; bytes are an array of numbers, identifiers and
instants their text. In the other direction an object stays a document, and a number is an integer
when it fits a signed word and else a double.
-/

namespace SqlPipeline
namespace Value

mutual

/-- The document that a value stands for. -/
def toJson : Value → Json
  | .null => .null
  | .bool b => .bool b
  | .int i => .number (.int (JsonInt.ofInt64 i))
  | .float x => Json.ofDouble x
  | .text s => .string s
  | .bytes octets => .array (octets.map fun b => .number (.int (JsonInt.ofByte b)))
  | .uuid u => .string u.text
  | .timestamp t => .string t.text
  | .json document => document
  | .list items => .array (toJsons items)

def toJsons : List Value → List Json
  | [] => []
  | v :: rest => v.toJson :: toJsons rest

end

mutual

def ofJson : Json → Value
  | .null => .null
  | .bool b => .bool b
  | .number (.int i) =>
    match i.toInt64? with
    | some word => .int word
    | none => .float (Binary64.ofInt i.val)
  | .number (.float x _) => .float x
  | .string s => .text s
  | .array items => .list (ofJsons items)
  | .object members => .json (.object members)

def ofJsons : List Json → List Value
  | [] => []
  | j :: rest => ofJson j :: ofJsons rest

end

/-- The document that the value stands for, as a typed read. -/
def readJson : Reader Json := fun v => .ok v.toJson

end Value
end SqlPipeline
