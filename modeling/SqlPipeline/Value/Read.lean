import SqlPipeline.Error
import SqlPipeline.Number.Reading
import SqlPipeline.Text.Utf8

/-!
Typed reads of a value.

A reader takes the kinds of values that stand for its type and refuses the others. Integers read
from a wide integer that must lie within their bounds; text is trimmed before a number is read from
it; null is nothing for an optional read and a mismatch for any other.
-/

namespace SqlPipeline
namespace Value

abbrev Reader (α : Type) := Value → Except Error α

/-- The column of a read that knows no column. -/
def anonymousColumn : String := ""

/-- The error of a reader that does not take the value. -/
def mismatch (expected : String) (v : Value) : Error :=
  .decode anonymousColumn (.mismatch expected v.kind)

def readValue : Reader Value := .ok

/-- A truth value; an integer is true unless it is zero. -/
def readBool : Reader Bool
  | .bool b => .ok b
  | .int i => .ok (i != 0)
  | v => .error (mismatch "bool" v)

/-- The signed 64-bit integer of the same value, if there is one. -/
def int64? (i : Int) : Option Int64 :=
  if -9223372036854775808 ≤ i ∧ i < 9223372036854775808 then some (Int64.ofInt i) else none

/-- A 64-bit integer; a truth value is 0 or 1, and text is read as an integer. -/
def readInt64 : Reader Int64
  | .int i => .ok i
  | .bool b => .ok (if b then 1 else 0)
  | .text s =>
    match (integer? (trimChars s.toList)).bind int64? with
    | some i => .ok i
    | none => .error (mismatch "int" (.text s))
  | v => .error (mismatch "int" v)

/-- An integer from `low` to `high`, the bounds of the type that is named. -/
def readWithin (type : String) (low high : Int) : Reader Int := fun v => do
  let wide ← readInt64 v
  if low ≤ wide.toInt ∧ wide.toInt ≤ high then .ok wide.toInt
  else .error (.decode anonymousColumn (.outOfRange wide.toInt type))

def readInt32 : Reader Int32 := fun v =>
  (readWithin "i32" (-2147483648) 2147483647 v).map Int32.ofInt

def readInt16 : Reader Int16 := fun v =>
  (readWithin "i16" (-32768) 32767 v).map Int16.ofInt

def readUInt32 : Reader UInt32 := fun v =>
  (readWithin "u32" 0 4294967295 v).map fun i => UInt32.ofNat i.toNat

/-- An unsigned 64-bit integer. Only those that a wide signed integer holds can be read. -/
def readUInt64 : Reader UInt64 := fun v =>
  (readWithin "u64" 0 18446744073709551615 v).map fun i => UInt64.ofNat i.toNat

/-- A size or an index: an unsigned 64-bit integer under its own name. -/
def readSize : Reader UInt64 := fun v =>
  (readWithin "usize" 0 18446744073709551615 v).map fun i => UInt64.ofNat i.toNat

/-- A double; an integer is rounded to the nearest, and text is read as a number. -/
def readDouble : Reader Binary64
  | .float x => .ok x
  | .int i => .ok (Binary64.ofInt i.toInt)
  | .text s =>
    match double? (trim s) with
    | some x => .ok x
    | none => .error (mismatch "float" (.text s))
  | v => .error (mismatch "float" v)

/-- A text; an identifier is read as its text. -/
def readText : Reader String
  | .text s => .ok s
  | .uuid u => .ok u.text
  | v => .error (mismatch "text" v)

/-- Bytes; a text is read as its UTF-8 bytes. -/
def readBytes : Reader Bytes
  | .bytes octets => .ok octets
  | .text s => .ok (utf8 s)
  | v => .error (mismatch "bytes" v)

/-- An identifier, also from its text. -/
def readUuid : Reader Uuid
  | .uuid u => .ok u
  | .text s =>
    match Uuid.read? s with
    | some u => .ok u
    | none => .error (.decode anonymousColumn (.malformed "identifier"))
  | v => .error (mismatch "uuid" v)

/-- An instant, also from its text. -/
def readTimestamp : Reader Timestamp
  | .timestamp t => .ok t
  | .text s =>
    match Timestamp.read? s with
    | some t => .ok t
    | none => .error (.decode anonymousColumn (.malformed "timestamp"))
  | v => .error (mismatch "timestamp" v)

/-- Nothing for null, and else what the reader gives. -/
def readOptional {α : Type} (read : Reader α) : Reader (Option α)
  | .null => .ok none
  | v => (read v).map some

end Value
end SqlPipeline
