import SqlPipeline.Json.Reader
import SqlPipeline.Json.Writer
import SqlPipeline.Postgres.Array
import SqlPipeline.Postgres.ColumnType
import SqlPipeline.Postgres.Epoch
import SqlPipeline.Value.Basic

/-!
Parameters of a statement: the wire form of a value as a column type.

Each kind of value is written to the types that hold it, an integer also to narrower integers, to
floating-point numbers, truth values and text, and a text also to identifiers and documents. A value
that would lose something in a narrower type is refused, and so are an array and an element whose
length the wire form cannot say. Null is written to every type.
-/

namespace SqlPipeline.Postgres

/-- Why a value has no wire form as a type. -/
inductive EncodeFault
  /-- The type holds no such value, or the value is too long for the wire form of the type. -/
  | wrongType
  /-- The integer lies outside of the bounds of the type. -/
  | integerRange
  | notIdentifier
  | notDocument
  deriving DecidableEq

/-- The wording of an encoding fault. -/
def EncodeFault.message : EncodeFault → String
  | .wrongType => "the value does not fit the type of the parameter"
  | .integerRange => "the integer is out of range for the type of the parameter"
  | .notIdentifier => "the text is no identifier"
  | .notDocument => "the text is no JSON document"

/-- The bytes of a single. -/
def singleBytes (x : Binary32) : Bytes :=
  bigEndian 4 x.bits.toNat

/-- The bytes of a double. -/
def doubleBytes (x : Binary64) : Bytes :=
  bigEndian 8 x.bits.toNat

/-- The two's complement bytes of an integer from `low` to `high`. -/
def encodeWithin (low high : Int) (width : Nat) (i : Int) : Except EncodeFault Bytes :=
  if low ≤ i ∧ i ≤ high then .ok (signedBigEndian width i) else .error .integerRange

/-- The wire form of a truth value. -/
def encodeBool (b : Bool) : ColumnType → Except EncodeFault Bytes
  | .scalar .bool => .ok [if b then 1 else 0]
  | _ => .error .wrongType

/-- The wire form of an integer. -/
def encodeInt (i : Int64) : ColumnType → Except EncodeFault Bytes
  | .scalar .int2 => encodeWithin (-32768) 32767 2 i.toInt
  | .scalar .int4 => encodeWithin (-2147483648) 2147483647 4 i.toInt
  | .scalar .int8 => .ok (signedBigEndian 8 i.toInt)
  | .scalar .oid => encodeWithin 0 4294967295 4 i.toInt
  | .scalar .float4 => .ok (singleBytes (Binary32.ofInt i.toInt))
  | .scalar .float8 => .ok (doubleBytes (Binary64.ofInt i.toInt))
  | .scalar .bool => .ok [if i = 0 then 0 else 1]
  | .scalar .text => .ok (utf8 (intText i.toInt))
  | .scalar .varchar => .ok (utf8 (intText i.toInt))
  | .scalar .bpchar => .ok (utf8 (intText i.toInt))
  | _ => .error .wrongType

/-- The wire form of a double. -/
def encodeDouble (x : Binary64) : ColumnType → Except EncodeFault Bytes
  | .scalar .float4 => .ok (singleBytes x.toBinary32)
  | .scalar .float8 => .ok (doubleBytes x)
  | _ => .error .wrongType

/-- The types of label trees, whose wire form begins with a version. -/
def isLabelTree (name : String) : Bool :=
  name == "ltree" || name == "lquery" || name == "ltxtquery"

/-- The type holds text. -/
def holdsText : ColumnType → Bool
  | .scalar .text => true
  | .scalar .varchar => true
  | .scalar .bpchar => true
  | .scalar .name => true
  | .scalar .unknown => true
  | t => t.catalogName == "citext" || isLabelTree t.catalogName

/-- The wire form of a document in a type of documents; the binary one begins with a version. -/
def encodeDocument (document : Json) : ColumnType → Except EncodeFault Bytes
  | .scalar .json => .ok (utf8 document.text)
  | .scalar .jsonb => .ok (1 :: utf8 document.text)
  | _ => .error .wrongType

/-- The wire form of an identifier. -/
def encodeUuid (u : Uuid) : ColumnType → Except EncodeFault Bytes
  | .scalar .uuid => .ok u.bytes
  | _ => .error .wrongType

/-- The document of a text. -/
def documentOf (s : String) : Except EncodeFault Json :=
  match Json.read? s.toList with
  | some document => .ok document
  | none => .error .notDocument

/-- The wire form of a text. -/
def encodeText (s : String) : ColumnType → Except EncodeFault Bytes
  | .scalar .uuid =>
    match Uuid.read? s with
    | some u => .ok u.bytes
    | none => .error .notIdentifier
  | .scalar .json => (documentOf s).bind fun document => encodeDocument document (.scalar .json)
  | .scalar .jsonb => (documentOf s).bind fun document => encodeDocument document (.scalar .jsonb)
  | t =>
    if !holdsText t then .error .wrongType
    else if isLabelTree t.catalogName then .ok (1 :: utf8 s)
    else .ok (utf8 s)

/-- The wire form of bytes. -/
def encodeBytes (octets : Bytes) : ColumnType → Except EncodeFault Bytes
  | .scalar .bytea => .ok octets
  | _ => .error .wrongType

/-- The wire form of an instant. -/
def encodeTimestamp (t : Timestamp) : ColumnType → Except EncodeFault Bytes
  | .scalar .timestamp => .ok (signedBigEndian 8 (epochMicros t))
  | .scalar .timestamptz => .ok (signedBigEndian 8 (epochMicros t))
  | .scalar .date => .ok (signedBigEndian 4 (epochDays t))
  | _ => .error .wrongType

/-- Refuses a length that the wire form of an array cannot say. -/
def checkLength (length : Nat) : Except EncodeFault Unit :=
  if length ≤ maxLength then .ok () else .error .wrongType

mutual

/-- The wire form of a value as a type. -/
def encode : Value → ColumnType → Except EncodeFault Cell
  | .null, _ => .ok none
  | .bool b, t => some <$> encodeBool b t
  | .int i, t => some <$> encodeInt i t
  | .float x, t => some <$> encodeDouble x t
  | .text s, t => some <$> encodeText s t
  | .bytes octets, t => some <$> encodeBytes octets t
  | .uuid u, t => some <$> encodeUuid u t
  | .timestamp instant, t => some <$> encodeTimestamp instant t
  | .json document, t => some <$> encodeDocument document t
  | .list items, t =>
    match t.element? with
    | none => .error .wrongType
    | some element => do
      checkLength items.length
      let cells ← encodeItems items element
      return some (arrayBytes element.objectId t.firstIndex cells)

/-- The wire forms of the elements of an array; the first that has none decides. -/
def encodeItems : List Value → ColumnType → Except EncodeFault (List Cell)
  | [], _ => .ok []
  | v :: rest, t => do
    let cell ← encode v t
    checkLength (cellLength cell)
    let cells ← encodeItems rest t
    return cell :: cells

end

/-- The wire forms of values as the types of the parameters of a statement. -/
def encodeAll : List Value → List ColumnType → Except EncodeFault (List Cell)
  | v :: values, t :: types => do
    let cell ← encode v t
    let cells ← encodeAll values types
    return cell :: cells
  | [], [] => .ok []
  | _, _ => .error .wrongType

end SqlPipeline.Postgres
