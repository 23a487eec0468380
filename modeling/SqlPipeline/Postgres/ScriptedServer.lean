import SqlPipeline.Postgres.Server
import SqlPipeline.Text.Digits

/-!
Servers that answer from a script.

Each prepared statement takes the next prepared reply, and an empty one when they are used up. A
statement whose reply names no parameter types has a text for each of its numbered placeholders.
Control commands succeed unless the script says otherwise.
-/

namespace SqlPipeline.Postgres

/-- What a scripted server does with one statement. -/
structure ScriptedReply where
  parameters : Option (List ColumnType) := none
  columns : List Column := []
  rows : List (List Cell) := []
  /-- The number of affected rows, if it is not the number of rows. -/
  affected : Option Nat := none
  /-- What the server says after the rows. -/
  failure : Option ServerError := none
  /-- What the server says instead of preparing the statement. -/
  refusal : Option ServerError := none

/-- What a scripted server has still to do. -/
structure ServerScript where
  replies : List ScriptedReply
  /-- The reply to the statement that was prepared last. -/
  current : ScriptedReply := {}
  failing : List (String × ServerError) := []
  refusing : Bool := false
  opened : Nat := 0

namespace ServerScript

/-- The numbers of the placeholders of SQL with numbered placeholders. -/
def placeholderNumbers : List Char → List Nat
  | [] => []
  | '$' :: cs =>
    match digitsValue? (cs.takeWhile isDigit) with
    | some n => n :: placeholderNumbers cs
    | none => placeholderNumbers cs
  | _ :: cs => placeholderNumbers cs

/-- The number of parameters of SQL with numbered placeholders. -/
def parameterCount (sql : String) : Nat :=
  (placeholderNumbers sql.toList).foldl max 0

/-- The types of the parameters of a statement. -/
def parameterTypes (reply : ScriptedReply) (sql : String) : List ColumnType :=
  reply.parameters.getD (List.replicate (parameterCount sql) (.scalar .text))

/-- How the answer to a statement ends. -/
def ending (reply : ScriptedReply) : Except ServerError Nat :=
  match reply.failure with
  | some e => .error e
  | none => .ok (reply.affected.getD reply.rows.length)

/-- The server that follows a script. -/
def server : Server ServerScript where
  connect script :=
    if script.refusing then (.error "connection refused", script)
    else (.ok script.opened, { script with opened := script.opened + 1 })
  prepare _ sql script :=
    let reply := script.replies.headD {}
    let script := { script with replies := script.replies.tail, current := reply }
    match reply.refusal with
    | some e => (.error e, script)
    | none => (.ok ⟨sql, parameterTypes reply sql, reply.columns⟩, script)
  execute _ _ _ script :=
    (⟨script.current.rows, ending script.current⟩, script)
  command _ sql script :=
    match script.failing.lookup sql with
    | some e => (.error e, script)
    | none => (.ok (), script)

end ServerScript

end SqlPipeline.Postgres
