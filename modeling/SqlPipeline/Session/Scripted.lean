import SqlPipeline.Session.Basic

/-!
Sessions that answer from a script.

A scripted session answers queries with prepared lists of rows and statements with prepared counts,
in order, and with no rows and one affected row when they are used up. SQL that holds one of given
texts fails or panics instead and uses nothing up.
-/

namespace SqlPipeline

/-- The answers that are still to be given. -/
structure Script where
  rows : List (List Row)
  affected : List Nat

/-- How a scripted session behaves. -/
structure ScriptPlan where
  dialect : Dialect
  /-- SQL that holds one of these texts fails. -/
  failOn : List String
  /-- SQL that holds one of these texts panics. -/
  panicOn : List String
  /-- Control calls with these names are refused. -/
  refused : List String

/-- The second list occurs in the first. -/
def occursIn (part : List Char) : List Char → Bool
  | [] => part.isEmpty
  | c :: cs => part.isPrefixOf (c :: cs) || occursIn part cs

namespace ScriptPlan

/-- The session accepts everything. -/
def accepting (dialect : Dialect) : ScriptPlan where
  dialect := dialect
  failOn := []
  panicOn := []
  refused := []

variable (plan : ScriptPlan)

/-- The SQL holds one of the texts. -/
def holdsAny (texts : List String) (sql : String) : Bool :=
  texts.any fun text => occursIn text.toList sql.toList

/-- What a statement with the SQL answers, from what the script answers. -/
def answer {α : Type} (sql : String) (take : Script → α × Script) : Action Script α := fun script =>
  if holdsAny plan.panicOn sql then (.panic (.message ("driver panic: " ++ sql)), script)
  else if holdsAny plan.failOn sql then (.error (.driver ("failed: " ++ sql)), script)
  else
    let (a, script) := take script
    (.ok a, script)

/-- The next rows of the script. -/
def takeRows (script : Script) : List Row × Script :=
  (script.rows.headD [], { script with rows := script.rows.tail })

/-- The next count of the script. -/
def takeAffected (script : Script) : Nat × Script :=
  (script.affected.headD 1, { script with affected := script.affected.tail })

/-- A control call. -/
def control (name : String) : Action Script Unit :=
  if plan.refused.contains name then .fail (.connection (name ++ " refused")) else .pure ()

/-- Puts an error before a row of a stream, or at its end. -/
def breakAt (index : Nat) (rows : List Row) : RowStream :=
  let items := (RowStream.ofRows rows).answers
  if rows.length < index then ⟨items⟩
  else ⟨items.take index ++
    some (.error (.driver ("stream broke at " ++ natText index))) :: items.drop index⟩

/-- The session. Its streams break before a row, if an index is given. -/
def session (broken : Option Nat) : Session Script where
  dialect := plan.dialect
  query sql _ := plan.answer sql takeRows
  execute sql _ := plan.answer sql takeAffected
  stream sql _ := plan.answer sql fun script =>
    let (rows, script) := takeRows script
    (match broken with
      | some index => breakAt index rows
      | none => .ofRows rows, script)

/-- The session of a transaction. -/
def txSession : TxSession Script where
  toSession := plan.session none
  begin := plan.control "begin"
  commit := plan.control "commit"
  rollback := plan.control "rollback"
  close := plan.control "close"

/-- The connector that hands out such sessions. -/
def connector : Connector Script where
  acquire := do
    plan.control "session"
    return plan.txSession

end ScriptPlan

end SqlPipeline
