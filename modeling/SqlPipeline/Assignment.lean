import SqlPipeline.Dialect
import SqlPipeline.Template

/-!
Assignments of an `UPDATE`.
-/

namespace SqlPipeline

inductive Assignment
  | value (field : String) (value : Value)
  /-- An expression, given as SQL text. -/
  | expr (field text : String)

namespace Assignment

def field : Assignment → String
  | .value field _ => field
  | .expr field _ => field

/-- The SQL of one assignment. -/
def template (d : Dialect) : Assignment → Template
  | .value field v => Template.ofText (d.quoteField field ++ "=") ++ Template.hole v
  | .expr field text => Template.ofText (d.quoteField field ++ "=" ++ text)

/-- The assignments that name a field. -/
def effective (sets : List Assignment) : List Assignment :=
  sets.filter fun s => !s.field.isEmpty

/-- The SQL of a list of assignments. Assignments without a field are left out. -/
def listTemplate (d : Dialect) (sets : List Assignment) : Template :=
  Template.join "," ((effective sets).map (template d))

end Assignment

end SqlPipeline
