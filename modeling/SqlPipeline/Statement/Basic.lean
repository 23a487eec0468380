import SqlPipeline.Assignment
import SqlPipeline.Condition

/-!
Statements: what is read from or written to a table.

A statement is filled in by calls that each return the changed statement; nothing is compiled before
the statement is complete.
-/

namespace SqlPipeline

inductive JoinKind
  | inner
  | left
  deriving DecidableEq

/-- A joined table and the text of its `ON`. -/
structure Join where
  kind : JoinKind
  table : String
  on : String

structure Order where
  field : String
  descending : Bool

/-- How many rows are read, and how many are skipped before them. -/
structure Window where
  count : Int
  offset : Int

/-- SQL text that replaces the parts of a statement, with its arguments. -/
structure RawSql where
  sql : String
  arguments : List Value

structure Statement where
  table : String := ""
  conditions : List Condition := []
  /-- The columns that a query reads and that an update may write; empty for all. -/
  columns : List String := []
  selection : Option String := none
  raw : Option RawSql := none
  joins : List Join := []
  orders : List Order := []
  groups : List String := []
  window : Option Window := none
  assignments : List Assignment := []

namespace Statement

def on (table : String) : Statement := { table }

def ofRaw (sql : String) (arguments : Arguments) : Statement :=
  { raw := some ⟨sql, arguments.values⟩ }

variable (s : Statement)

def setTable (table : String) : Statement := { s with table }

def join (kind : JoinKind) (table condition : String) : Statement :=
  { s with joins := s.joins ++ [⟨kind, table, condition⟩] }

def filter (condition : Condition) : Statement :=
  { s with conditions := s.conditions ++ [condition] }

def filters (conditions : List Condition) : Statement :=
  { s with conditions := s.conditions ++ conditions }

def clearFilters : Statement := { s with conditions := [] }

def setColumns (columns : List String) : Statement := { s with columns }

def select (selection : String) : Statement := { s with selection := some selection }

/-- Replaces the statement by raw SQL where it is read. -/
def setRaw (sql : String) (arguments : Arguments) : Statement :=
  { s with raw := some ⟨sql, arguments.values⟩ }

/-- Orders by fields, after those of earlier calls. -/
def orderBy (descending : Bool) (fields : List String) : Statement :=
  { s with orders := s.orders ++ fields.map fun field => ⟨field, descending⟩ }

/-- Replaces the fields by which rows are grouped. -/
def groupBy (fields : List String) : Statement := { s with groups := fields }

/-- Replaces the window of rows that are read. -/
def setWindow (count offset : Int) : Statement := { s with window := some ⟨count, offset⟩ }

/-- Replaces the window by the first rows. -/
def limit (count : Int) : Statement := s.setWindow count 0

def assign (assignment : Assignment) : Statement :=
  { s with assignments := s.assignments ++ [assignment] }

def assigns (assignments : List Assignment) : Statement :=
  { s with assignments := s.assignments ++ assignments }

end Statement

end SqlPipeline
