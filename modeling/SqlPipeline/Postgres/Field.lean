import SqlPipeline.Error
import SqlPipeline.Json.Reader
import SqlPipeline.Postgres.Array
import SqlPipeline.Postgres.ColumnType
import SqlPipeline.Postgres.Epoch
import SqlPipeline.Postgres.Inet
import SqlPipeline.Postgres.Interval
import SqlPipeline.Row
import SqlPipeline.Session.Outcome

/-!
Fields of an answer: the values of columns, read from their wire form.

Each readable type has one reader. Null is null in every readable type; a type without a reader
fails even then. An array must not hold a null. An interval is read as its text, whose arithmetic
may fail: then the call that reads it panics.
-/

namespace SqlPipeline.Postgres

/-- Reads the bytes of a value that is not null. -/
abbrev PlainReader := Bytes → Option Value

/-- Reads the bytes of a value that is not null, by operations that may fail. -/
abbrev FieldReader := Bytes → Except Overflow (Option Value)

/-- An integer of a width. -/
def readInteger (width : Nat) : PlainReader := fun bytes =>
  if bytes.length = width then some (.int (Int64.ofInt (ofSignedBigEndian bytes))) else none

/-- An object identifier. -/
def readObjectId : PlainReader := fun bytes =>
  if bytes.length = 4 then some (.int (Int64.ofNat (ofBigEndian bytes))) else none

/-- A truth value: any byte but zero is true. -/
def readTruth : PlainReader
  | [b] => some (.bool (b != 0))
  | _ => none

/-- A single, as the double of the same value. -/
def readSingle : PlainReader := fun bytes =>
  if bytes.length = 4 then
    some (.float (Binary32.mk (UInt32.ofNat (ofBigEndian bytes))).toBinary64)
  else none

/-- A double. -/
def readDoubleField : PlainReader := fun bytes =>
  if bytes.length = 8 then some (.float ⟨UInt64.ofNat (ofBigEndian bytes)⟩) else none

/-- Text in UTF-8. -/
def readTextField : PlainReader := fun bytes =>
  (ofUtf8? bytes).map .text

/-- Sixteen bytes. -/
def readUuidField : PlainReader := fun bytes =>
  (Uuid.ofBytes? bytes).map .uuid

/-- An instant, unless it lies outside of the calendar. -/
def instantIn? (t : Timestamp) : Option Value :=
  if t.inRange then some (.timestamp t) else none

/-- An instant as microseconds since the year 2000. -/
def readInstant : PlainReader := fun bytes =>
  if bytes.length = 8 then instantIn? (ofEpochMicros (ofSignedBigEndian bytes)) else none

/-- The first instant of a date, as days since the year 2000. -/
def readDate : PlainReader := fun bytes =>
  if bytes.length = 4 then instantIn? (ofEpochDays (ofSignedBigEndian bytes)) else none

/-- The text of a time of day, as microseconds since midnight; days are dropped. -/
def readTime : PlainReader := fun bytes =>
  if bytes.length = 8 then
    let micros := (ofSignedBigEndian bytes % 86400000000).toNat
    some (.text (String.ofList (timeDigits (micros / 1000000) (micros % 1000000 * 1000))))
  else none

/-- A document as its text. -/
def readDocument : PlainReader := fun bytes =>
  (Json.readUtf8? bytes).map .json

/-- A document as its text after the version of the form. -/
def readVersionedDocument : PlainReader
  | version :: bytes => if version = 1 then readDocument bytes else none
  | [] => none

/-- The reader of a built-in type other than the intervals. -/
def plainReader? : Scalar → Option PlainReader
  | .bool => some readTruth
  | .int2 => some (readInteger 2)
  | .int4 => some (readInteger 4)
  | .int8 => some (readInteger 8)
  | .oid => some readObjectId
  | .float4 => some readSingle
  | .float8 => some readDoubleField
  | .bytea => some fun bytes => some (.bytes bytes)
  | .uuid => some readUuidField
  | .timestamp => some readInstant
  | .timestamptz => some readInstant
  | .date => some readDate
  | .time => some readTime
  | .inet => some fun bytes => (Inet.ofBytes? bytes).map fun a => .text a.text
  | .json => some readDocument
  | .jsonb => some readVersionedDocument
  | .text => some readTextField
  | .varchar => some readTextField
  | .bpchar => some readTextField
  | .name => some readTextField
  | .unknown => some readTextField
  | .xml => some readTextField
  | .interval => none
  | .numeric => none
  | .other _ => none

/-- Arrays with elements of the type can be read. -/
def isReadableElement : Scalar → Bool
  | .bool | .int2 | .int4 | .int8 | .float4 | .float8 | .uuid => true
  | .text | .varchar | .bpchar | .name => true
  | _ => false

/-- The elements of an array, none of which may be null. -/
def readElements (reader : PlainReader) (bytes : Bytes) : Option (List Value) := do
  let cells ← arrayCells? bytes
  cells.mapM fun cell => cell.bind reader

/-- A reader that does no operation that may fail. -/
def plain (reader : PlainReader) : FieldReader := fun bytes => .ok (reader bytes)

/-- Why a type has no reader. -/
def unsupported : ColumnType → DecodeFault
  | .scalar .numeric => .unsupportedNumeric
  | t => .unsupportedType t.catalogName

/-- A column of an answer. -/
structure Column where
  name : String
  type : ColumnType

section Fields

variable (arithmetic : Arithmetic)

/-- The text of an interval. -/
def readInterval : FieldReader := fun bytes =>
  match Interval.ofBytes? bytes with
  | some i => do
    let text ← i.render arithmetic
    return some (.text text)
  | none => .ok none

/-- The reader of a built-in type. -/
def scalarReader? (t : Scalar) : Option FieldReader :=
  if t = .interval then some (readInterval arithmetic) else (plainReader? t).map plain

/-- The reader of a column type. -/
def fieldReader? : ColumnType → Option FieldReader
  | .scalar t => scalarReader? arithmetic t
  | .array (.scalar t) =>
    if isReadableElement t then
      (plainReader? t).map fun reader => plain fun bytes => (readElements reader bytes).map .list
    else none
  | .array _ => none
  | .vector _ => none
  | .catalog name _ kind =>
    if kind = .enumeration ∨ name = "citext" then some (plain readTextField) else none
  | .catalogArray name _ _ => if name = "citext" then some (plain readTextField) else none

/-- The value of a column. -/
def decodeField (column : Column) (cell : Cell) : Outcome Value :=
  match fieldReader? arithmetic column.type with
  | none => .error (.decode column.name (unsupported column.type))
  | some reader =>
    match cell with
    | none => .ok .null
    | some bytes =>
      match reader bytes with
      | .ok (some v) => .ok v
      | .ok none => .error (.decode column.name (.malformed column.type.catalogName))
      | .error overflow => .panic (.message overflow.message)

/-- The values of columns, up to the first that cannot be read. -/
def decodeFields : List (Column × Cell) → Outcome (List Value)
  | [] => .ok []
  | (column, cell) :: rest => do
    let v ← decodeField arithmetic column cell
    let values ← decodeFields rest
    return v :: values

/-- A row of an answer. -/
def decodeRow (columns : List Column) (cells : List Cell) : Outcome Row := do
  let values ← decodeFields arithmetic (columns.zip cells)
  return ⟨columns.map Column.name, values⟩

end Fields

end SqlPipeline.Postgres
