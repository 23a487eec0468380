import SqlPipeline.Record

/-!
Rows: the columns that a query answers, each with its value.

Column names may repeat, and there may be more names than values or more values than names; a name
stands for the value at the place of its first occurrence.
-/

namespace SqlPipeline

/-- A row of a query's answer. -/
structure Row where
  columns : List String
  values : List Value

namespace Row

/-- The row with the given columns and their values. -/
def ofPairs (pairs : List (String × Value)) : Row :=
  ⟨pairs.map Prod.fst, pairs.map Prod.snd⟩

/-- The number of values. -/
def length (row : Row) : Nat :=
  row.values.length

/-- The row has no value. -/
def isEmpty (row : Row) : Bool :=
  row.values.isEmpty

/-- The value of a column, at the place of the first column of that name. -/
def value? (row : Row) (column : String) : Option Value :=
  (row.columns.idxOf? column).bind fun i => row.values[i]?

/-- A typed read of the value of a column. -/
def get {α : Type} (read : Value.Reader α) (row : Row) (column : String) : Except Error α :=
  match row.value? column with
  | none => .error (.decode column .noSuchColumn)
  | some v => (read v).mapError (Error.onColumn column)

/-- A typed read of the value at an index. -/
def getAt {α : Type} (read : Value.Reader α) (row : Row) (index : Nat) : Except Error α :=
  match row.values[index]? with
  | none => .error (.decode (natText index) .indexOutOfRange)
  | some v => (read v).mapError (Error.onColumn (natText index))

/-- The columns with their values, as far as there are both. -/
def fields (row : Row) : List (String × Value) :=
  row.columns.zip row.values

/-- The object with the columns as its members; of columns of one name the last one counts. -/
def toJson (row : Row) : Json :=
  Json.ofMembers (row.fields.map fun field => (field.1, field.2.toJson))

/-- The record with the columns and values of the row, every column kept. -/
def toRecord (row : Row) : Record :=
  ⟨row.fields⟩

/-- A mapping of a row to something else. -/
abbrev Decoder (α : Type) := Row → Except Error α

/-- The row as it is. -/
def decodeRow : Decoder Row := .ok

end Row

end SqlPipeline
