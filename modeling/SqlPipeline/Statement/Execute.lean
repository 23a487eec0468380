import SqlPipeline.Session.Program
import SqlPipeline.Statement.Compile
import SqlPipeline.Statement.Cursor

/-!
Terminal calls of a statement: compile it in the session's dialect and make one call.

A statement that does not compile makes no call, and an update that would write nothing makes none
either. The error of a call is the error of the whole.
-/

namespace SqlPipeline

/-- Things that can be written as a record. -/
class ToRecord (ρ : Type) where
  toRecord : ρ → Except Error Record

export ToRecord (toRecord)

instance : ToRecord Record := ⟨.ok⟩

instance : ToRecord Row := ⟨fun row => .ok row.toRecord⟩

namespace Statement

variable {μ α β ρ : Type} (s : Statement)

/-- The rows of a compiled query. -/
def queryCompiled (compile : Dialect → Except Error Compiled) : Program μ (List Row) := do
  let d ← Program.askDialect
  let compiled ← Program.ofExcept (compile d)
  Program.rows compiled.sql compiled.values

/-- What is compiled first is compiled in the session's dialect; if it cannot be, no call is
made. -/
theorem run_compiled {σ : Type} (observe : μ → σ → σ) (session : Session σ)
    (compile : Dialect → Except Error Compiled) (next : Compiled → Program μ α) :
    (Program.askDialect >>= fun d => Program.ofExcept (compile d) >>= next).run observe session =
      match compile session.dialect with
      | .ok compiled => (next compiled).run observe session
      | .error e => Action.fail e := by
  rw [Program.run_askDialect_bind]
  cases compile session.dialect <;> rfl

theorem run_queryCompiled {σ : Type} (observe : μ → σ → σ) (session : Session σ)
    (compile : Dialect → Except Error Compiled) :
    (queryCompiled compile).run observe session =
      match compile session.dialect with
      | .ok compiled => session.query compiled.sql compiled.values
      | .error e => Action.fail e := by
  simp only [queryCompiled, run_compiled, Program.run_rows]

/-- The number of rows that a compiled statement affects; one that compiles to nothing affects
none. -/
def executeCompiled (compile : Dialect → Except Error (Option Compiled)) : Program μ Nat := do
  let d ← Program.askDialect
  match ← Program.ofExcept (compile d) with
  | some compiled => Program.affected compiled.sql compiled.values
  | none => return 0

/-- The first row, if there is one. -/
def findRow : Program μ (Option Row) := do
  let rows ← queryCompiled fun d => s.compileGet d
  return rows.head?

/-- The first row as what it is mapped to, if there is one. -/
def find (decode : Row.Decoder α) : Program μ (Option α) := do
  match ← s.findRow with
  | some row => some <$> Program.ofExcept (decode row)
  | none => return none

/-- The first row as what it is mapped to; there has to be one. -/
def findOne (decode : Row.Decoder α) : Program μ α := do
  match ← s.find decode with
  | some a => return a
  | none => .fail (.notFound ("no row in " ++ s.table))

def listRows : Program μ (List Row) :=
  queryCompiled fun d => s.compileSelect d

/-- All rows as what they are mapped to; the first that cannot be mapped fails the whole. -/
def list (decode : Row.Decoder α) : Program μ (List α) := do
  let rows ← s.listRows
  Program.ofExcept (rows.mapM decode)

/-- The first row of a table in which a column has a value. -/
def findBy (decode : Row.Decoder α) (table column : String) (value : Value) :
    Program μ (Option α) :=
  ((on table).filter (.eq column value)).find decode

def insert [ToRecord ρ] (item : ρ) : Program μ Nat := do
  let record ← Program.ofExcept (toRecord item)
  executeCompiled fun d => some <$> s.compileInsert d record

/-- Updates from a record, of which only the statement's columns are written. -/
def update [ToRecord ρ] (item : ρ) : Program μ Nat := do
  let record ← Program.ofExcept (toRecord item)
  executeCompiled fun d => s.compileUpdate d record

def updateAssigned : Program μ Nat :=
  executeCompiled fun d => .ok (s.compileAssignments d)

/-- Deletes the rows that meet the conditions. -/
def delete : Program μ Unit := do
  let _ ← executeCompiled fun d => some <$> s.compileDelete d

/-- The number of rows: the first value of the first row, and zero without a row. -/
def count : Program μ Int64 := do
  match (← queryCompiled fun d => s.compileCount d).head? with
  | some row => Program.ofExcept (row.getAt Value.readInt64 0)
  | none => return 0

/-- The sum of a column: the first value of the first row, and zero for null or without a row. -/
def sum (column : String) : Program μ Binary64 := do
  match (← queryCompiled fun d => s.compileSum d column).head? with
  | some row =>
    let total ← Program.ofExcept (row.getAt (Value.readOptional Value.readDouble) 0)
    return total.getD .zero
  | none => return .zero

def cursor (decode : Row.Decoder α) : Program μ (Cursor α) := do
  let d ← Program.askDialect
  let compiled ← Program.ofExcept (s.compileSelect d)
  let stream ← Program.rowStream compiled.sql compiled.values
  return .on decode stream

/-- Visits the answers of a stream from an index on until a visit says to stop, the stream ends or
there is an error. Gives what the visits made of the state, and how it ended. A panic ends the whole
call. -/
def visitAnswers (decode : Row.Decoder α) (visit : Nat → α → β → β × Bool) (index : Nat) :
    List StreamItem → β → Outcome (β × Except Error Unit)
  | [], state => .ok (state, .ok ())
  | none :: _, state => .ok (state, .ok ())
  | some item :: rest, state =>
    match item.andThen decode with
    | .panic p => .panic p
    | .error e => .ok (state, .error e)
    | .ok a =>
      let (state, stop) := visit index a state
      if stop then .ok (state, .ok ()) else visitAnswers decode visit (index + 1) rest state

/-- Visits each row, mapped and with its index, until a visit says to stop. What the visits made of
the state is kept, also when the rows end with an error or cannot be had. -/
def iterate (decode : Row.Decoder α) (visit : Nat → α → β → β × Bool) (state : β) :
    Program μ (β × Except Error Unit) := do
  let d ← Program.askDialect
  match s.compileSelect d with
  | .error e => return (state, .error e)
  | .ok compiled =>
    .stream compiled.sql compiled.values fun
      | .error e => .done (state, .error e)
      | .ok stream => .ofOutcome (visitAnswers decode visit 0 stream.answers state)

end Statement

end SqlPipeline
