import SqlPipeline.Calendar.Rfc3339
import SqlPipeline.Json.Basic
import SqlPipeline.Uuid

/-!
Values that a statement binds and that a row holds.
-/

namespace SqlPipeline

/-- A value bound to a placeholder of a statement, or held by a column of a row. -/
inductive Value
  | null
  | bool (b : Bool)
  | int (i : Int64)
  | float (x : Binary64)
  | text (s : String)
  | bytes (octets : Bytes)
  | uuid (u : Uuid)
  | timestamp (t : Timestamp)
  | json (document : Json)
  | list (items : List Value)

namespace Value

inductive Kind
  | null | bool | int | float | text | bytes | uuid | timestamp | json | list
  deriving DecidableEq

/-- The name of a kind, as messages give it. -/
def Kind.label : Kind → String
  | .null => "null"
  | .bool => "bool"
  | .int => "int"
  | .float => "float"
  | .text => "text"
  | .bytes => "bytes"
  | .uuid => "uuid"
  | .timestamp => "timestamp"
  | .json => "json"
  | .list => "list"

def kind : Value → Kind
  | .null => .null
  | .bool _ => .bool
  | .int _ => .int
  | .float _ => .float
  | .text _ => .text
  | .bytes _ => .bytes
  | .uuid _ => .uuid
  | .timestamp _ => .timestamp
  | .json _ => .json
  | .list _ => .list

/-- The value is SQL's null. A JSON null is a document and is not. -/
def isNull (v : Value) : Bool :=
  v.kind == .null

end Value

/-- Things that are written as one value. -/
class ToValue (α : Type) where
  toValue : α → Value

export ToValue (toValue)

instance : ToValue Value := ⟨id⟩
instance : ToValue Bool := ⟨.bool⟩
instance : ToValue Int64 := ⟨.int⟩
instance : ToValue Int32 := ⟨fun i => .int i.toInt64⟩
instance : ToValue Int16 := ⟨fun i => .int i.toInt64⟩
instance : ToValue Int8 := ⟨fun i => .int i.toInt64⟩
instance : ToValue UInt32 := ⟨fun n => .int (Int64.ofNat n.toNat)⟩
instance : ToValue UInt16 := ⟨fun n => .int (Int64.ofNat n.toNat)⟩
instance : ToValue UInt8 := ⟨fun n => .int (Int64.ofNat n.toNat)⟩
instance : ToValue Binary64 := ⟨.float⟩
instance : ToValue Binary32 := ⟨fun x => .float x.toBinary64⟩
instance : ToValue String := ⟨.text⟩
instance : ToValue Uuid := ⟨.uuid⟩
instance : ToValue Timestamp := ⟨.timestamp⟩
instance : ToValue Json := ⟨.json⟩

instance {α : Type} [ToValue α] : ToValue (Option α) where
  toValue
    | none => .null
    | some a => toValue a

instance {α : Type} [ToValue α] : ToValue (List α) where
  toValue items := .list (items.map toValue)

/-- The forms in which a caller gives the arguments of a statement. -/
inductive Arguments
  | none
  /-- One value; a list stands for its items. -/
  | value (v : Value)
  /-- One value, a list being one argument. -/
  | single (v : Value)
  /-- One argument for each of the values. -/
  | each (values : List Value)

/-- The arguments in order, one for each placeholder. -/
def Arguments.values : Arguments → List Value
  | .none => []
  | .value (.list items) => items
  | .value v => [v]
  | .single v => [v]
  | .each values => values

end SqlPipeline
