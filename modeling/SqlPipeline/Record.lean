import SqlPipeline.Json.Writer
import SqlPipeline.Value.Json

/-!
Records: the columns that an insert or an update writes, each with its value, in column order.

Main statements: setting a column changes what is found under that column and nothing else, keeps
the place of a column that is there, and puts a new one at the end.
-/

namespace SqlPipeline

/-- Columns and their values in the order in which they are written. -/
structure Record where
  fields : List (String × Value)

namespace Record

def empty : Record := ⟨[]⟩

def isEmpty (r : Record) : Bool :=
  r.fields.isEmpty

def columns (r : Record) : List String :=
  r.fields.map Prod.fst

/-- Gives a column a value: in the place of the first field of that column, or at the end. -/
def putField (column : String) (value : Value) : List (String × Value) → List (String × Value)
  | [] => [(column, value)]
  | (c, v) :: rest =>
    if c = column then (c, value) :: rest else (c, v) :: putField column value rest

/-- Sets a column, in its place if the record has it and else at the end. -/
def set (r : Record) (column : String) (value : Value) : Record :=
  ⟨putField column value r.fields⟩

theorem map_fst_putField (column : String) (value : Value) (fields : List (String × Value)) :
    (putField column value fields).map Prod.fst =
      if column ∈ fields.map Prod.fst then fields.map Prod.fst
      else fields.map Prod.fst ++ [column] := by
  induction fields with
  | nil => rfl
  | cons field rest ih =>
    by_cases h : field.1 = column
    · simp [putField, h]
    · by_cases hm : column ∈ rest.map Prod.fst <;> grind [putField]

theorem lookup_putField (column key : String) (value : Value) (fields : List (String × Value)) :
    (putField column value fields).lookup key =
      if key = column then some value else fields.lookup key := by
  induction fields with
  | nil => grind [putField]
  | cons field rest ih =>
    by_cases h : field.1 = column <;> by_cases hk : key = column <;> grind [putField]

/-- A column keeps its place, and a new one comes last. -/
theorem columns_set (r : Record) (column : String) (value : Value) :
    (r.set column value).columns =
      if column ∈ r.columns then r.columns else r.columns ++ [column] :=
  map_fst_putField column value r.fields

/-- The fields of the listed columns, in record order. An empty list keeps every field. -/
def only (r : Record) (columns : List String) : Record :=
  if columns.isEmpty then r else ⟨r.fields.filter fun field => columns.contains field.1⟩

/-- The record with the members of an object as its columns, in ascending order of their names. -/
def ofJson : Json → Except Error Record
  | .object members => .ok ⟨members.map fun m => (m.1, Value.ofJson m.2)⟩
  | document => .error (.serialization (.notAnObject document.text))

end Record

end SqlPipeline
