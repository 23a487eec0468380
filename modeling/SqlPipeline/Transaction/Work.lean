import SqlPipeline.Statement.Execute

/-!
The work of one step of a transaction, and what it produces.
-/

namespace SqlPipeline

inductive Work
  | nothing
  | get (s : Statement)
  | list (s : Statement)
  | insert (s : Statement) (record : Record)
  | update (s : Statement) (record : Record)
  /-- The update from the assignments of the statement. -/
  | assign (s : Statement)
  | delete (s : Statement)
  | count (s : Statement)
  | sum (s : Statement) (column : String)
  /-- SQL with question marks as placeholders. -/
  | exec (sql : String) (arguments : List Value)

inductive StepResult
  | nothing
  /-- The row that was looked up, if there was one. -/
  | found (row : Option Row)
  | rows (rows : List Row)
  | affected (count : Nat)
  | count (count : Int64)
  | sum (total : Binary64)

namespace StepResult

def row? : StepResult → Option Row
  | .found row => row
  | _ => none

def isFound (r : StepResult) : Bool :=
  r.row?.isSome

def allRows : StepResult → List Row
  | .rows all => all
  | .found row => row.toList
  | _ => []

def affectedRows : StepResult → Nat
  | .affected written => written
  | _ => 0

end StepResult

namespace Work

variable {μ : Type}

/-- SQL with arguments in any of their forms. -/
def ofSql (sql : String) (arguments : Arguments) : Work :=
  .exec sql arguments.values

def record? : Work → Option Record
  | .insert _ record => some record
  | .update _ record => some record
  | _ => none

def execute : Work → Program μ StepResult
  | .nothing => return .nothing
  | .get s => .found <$> s.findRow
  | .list s => .rows <$> s.listRows
  | .insert s record => .affected <$> s.insert record
  | .update s record => .affected <$> s.update record
  | .assign s => .affected <$> s.updateAssigned
  | .delete s => do
    s.delete
    return .nothing
  | .count s => .count <$> s.count
  | .sum s column => .sum <$> s.sum column
  | .exec sql arguments => do
    let d ← Program.askDialect
    .affected <$> Program.affected (d.finish sql) arguments

/-- Executes works one after the other, up to the first error. -/
def executeAll : List Work → Program μ (List StepResult)
  | [] => return []
  | work :: rest => do
    let result ← work.execute
    let results ← executeAll rest
    return result :: results

end Work

end SqlPipeline
