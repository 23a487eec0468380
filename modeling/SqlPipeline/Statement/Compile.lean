import SqlPipeline.Record
import SqlPipeline.Statement.Basic

/-!
Compiling a statement to SQL in a dialect.

Each form of a statement is assembled as a template, whose text is brought into the dialect's form
once. A statement that cannot be compiled gives the reason; an update that would write nothing
compiles to nothing.
-/

namespace SqlPipeline

/-- SQL in the form of a dialect and the values of its placeholders. -/
structure Compiled where
  sql : String
  values : List Value

/-- The SQL of a template in the form of a dialect, with its values. -/
def Template.compile (d : Dialect) (t : Template) : Compiled :=
  ⟨d.finish t.sql, t.values⟩

def JoinKind.keyword : JoinKind → String
  | .inner => "INNER JOIN"
  | .left => "LEFT JOIN"

/-- The name by which a table is referred to: its alias, which is its last word. -/
def referenceName (table : String) : String :=
  lastWord table

/-- The `LIMIT` and `OFFSET` of a window; a count that is not positive sets no limit. -/
def windowClause : Option Window → String
  | some w =>
    if 0 < w.count then
      " LIMIT " ++ intText w.count ++ (if 0 < w.offset then " OFFSET " ++ intText w.offset else "")
    else ""
  | none => ""

namespace Statement

variable (d : Dialect) (s : Statement)

/-- What all conditions of the statement say together. -/
def where? : Option Fragment :=
  Fragment.combine " AND " (Condition.fragments d s.conditions)

/-- The `WHERE` of the statement; empty when its conditions say nothing. -/
def whereClause : Template :=
  match s.where? d with
  | some f => Template.ofText " WHERE " ++ f.template
  | none => .empty

def joinClause (j : Join) : String :=
  " " ++ j.kind.keyword ++ " " ++ d.quotePlain j.table ++ " ON " ++ j.on

/-- The `FROM` of the statement with its joins. -/
def fromClause : String :=
  " FROM " ++ d.quotePlain s.table ++ String.join (s.joins.map (joinClause d))

def groupClause : String :=
  if s.groups.isEmpty then ""
  else " GROUP BY " ++ ", ".intercalate (s.groups.map d.quotePlain)

def orderText (o : Order) : String :=
  d.quotePlain o.field ++ (if o.descending then " DESC" else " ASC")

def orderClause : String :=
  if s.orders.isEmpty then ""
  else " ORDER BY " ++ ", ".intercalate (s.orders.map (orderText d))

/-- What a query reads: the selection, or the columns, or all columns of each joined table. -/
def projection : String :=
  match s.selection with
  | some selection => selection
  | none =>
    if !s.columns.isEmpty then ", ".intercalate (s.columns.map d.quotePlain)
    else if !s.joins.isEmpty then
      ", ".intercalate ((s.table :: s.joins.map Join.table).map fun t => referenceName t ++ ".*")
    else "*"

/-- The template, unless the table of the statement is blank. -/
def withTable (t : Template) : Except Error Template :=
  if isBlankText s.table then .error (.config .noTable) else .ok t

/-- The template of raw SQL. Its arguments are the values, whatever its text. -/
def RawSql.compile (raw : RawSql) (sql : String) : Compiled :=
  ⟨d.finish sql, raw.arguments⟩

/-- The query with the given window. -/
def selectTemplate (window : Option Window) : Template :=
  Template.ofText ("SELECT " ++ s.projection d ++ s.fromClause d) ++ s.whereClause d ++
    Template.ofText (s.groupClause d ++ s.orderClause d ++ windowClause window)

/-- The query with the given window, or the raw SQL. -/
def compileWithin (window : Option Window) : Except Error Compiled :=
  match s.raw with
  | some raw => .ok (RawSql.compile d raw raw.sql)
  | none => (s.withTable (s.selectTemplate d window)).map (Template.compile d)

def compileSelect : Except Error Compiled :=
  s.compileWithin d s.window

/-- The rows that a point lookup skips: those that the statement skips, if it reads any. -/
def lookupOffset : Int :=
  match s.window with
  | some w => if 0 < w.count then w.offset else 0
  | none => 0

def compileGet : Except Error Compiled :=
  s.compileWithin d (some ⟨1, s.lookupOffset⟩)

/-- The query of the number of rows, or of groups. -/
def countTemplate : Template :=
  if s.groups.isEmpty then
    Template.ofText ("SELECT COUNT(*)" ++ s.fromClause d) ++ s.whereClause d
  else
    Template.ofText ("SELECT COUNT(*) FROM (SELECT 1" ++ s.fromClause d) ++ s.whereClause d ++
      Template.ofText (s.groupClause d ++ ") AS dbx_count")

/-- The query of the number of rows. -/
def compileCount : Except Error Compiled :=
  match s.raw with
  | some raw =>
    .ok (RawSql.compile d raw ("SELECT COUNT(*) FROM (" ++ raw.sql ++ ") AS dbx_count"))
  | none => (s.withTable (s.countTemplate d)).map (Template.compile d)

/-- The sum of a column as SQL. Where placeholders are numbered, sums of integers are exact
decimals and are cast to doubles. -/
def sumExpression (column : String) : String :=
  let sum := "COALESCE(SUM(" ++ d.quotePlain column ++ "),0)"
  match d.placeholder with
  | .numbered => "CAST(" ++ sum ++ " AS DOUBLE PRECISION)"
  | .question => sum

def sumTemplate (column : String) : Template :=
  Template.ofText ("SELECT " ++ sumExpression d column ++ s.fromClause d) ++ s.whereClause d

def compileSum (column : String) : Except Error Compiled :=
  if isBlankText column then .error (.config .noSumColumn)
  else (s.withTable (s.sumTemplate d column)).map (Template.compile d)

def insertTemplate (record : Record) : Template :=
  Template.ofText ("INSERT INTO " ++ d.quotePlain s.table ++ " (" ++
    ",".intercalate (record.columns.map d.quotePlain) ++ ") VALUES (") ++
    Template.holes (record.fields.map Prod.snd) ++ Template.ofText ")"

def compileInsert (record : Record) : Except Error Compiled := do
  let t ← s.withTable (s.insertTemplate d record)
  if record.isEmpty then .error (.config .noInsertColumns) else .ok (t.compile d)

/-- The update that makes the given assignments. -/
def updateTemplate (assignments : Template) : Template :=
  Template.ofText ("UPDATE " ++ d.quotePlain s.table ++ " SET ") ++ assignments ++ s.whereClause d

/-- The assignment of a field of a record. -/
def fieldTemplate (field : String × Value) : Template :=
  Template.ofText (d.quoteField field.1 ++ "=") ++ Template.hole field.2

/-- The update from a record, of which only the statement's columns are written. -/
def compileUpdate (record : Record) : Except Error (Option Compiled) := do
  let written := record.only s.columns
  let t ← s.withTable
    (s.updateTemplate d (Template.join "," (written.fields.map (fieldTemplate d))))
  return if written.isEmpty then none else some (t.compile d)

/-- The update from the statement's assignments. -/
def compileAssignments : Option Compiled :=
  if isBlankText s.table || (Assignment.effective s.assignments).isEmpty then none
  else some ((s.updateTemplate d (Assignment.listTemplate d s.assignments)).compile d)

/-- The delete of the rows that meet the conditions. Without conditions it is refused. -/
def compileDelete : Except Error Compiled := do
  let t ← s.withTable
    (Template.ofText ("DELETE FROM " ++ d.quotePlain s.table) ++ s.whereClause d)
  if (s.where? d).isNone then .error (.config (.unconditionalDelete s.table))
  else .ok (t.compile d)

end Statement

end SqlPipeline
