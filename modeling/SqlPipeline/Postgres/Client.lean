import SqlPipeline.Postgres.Parameter
import SqlPipeline.Postgres.Server

/-!
A session on one connection to a PostgreSQL server.

Each call prepares its statement, writes the parameters as the types that the server asks for, and
executes it. SQL that holds the character by which a text ends on the wire is not sent at all, and
parameters that cannot be written end the call before it is executed. A query reads its rows when
all of them are there; a stream reads each row as it is pulled, so that a row that cannot be read is
one item of it. Rows are read with checked arithmetic.
-/

namespace SqlPipeline.Postgres

variable {ω : Type} (server : Server ω) (connection : ConnectionId)

/-- The SQL can be sent: a text ends with its first zero byte on the wire. -/
def isSendable (sql : String) : Bool :=
  !sql.toList.contains '\x00'

/-- Prepares and executes a statement. -/
def exchange (sql : String) (params : List Value) : Action ω (Prepared × Reply) := fun w =>
  if !isSendable sql then (.error (.query none "the SQL holds a zero byte"), w)
  else
    match server.prepare connection sql w with
    | (.error e, w) => (.error e.toError, w)
    | (.ok prepared, w) =>
      match encodeAll params prepared.parameters with
      | .error fault => (.error (.query none fault.message), w)
      | .ok cells =>
        let (reply, w) := server.execute connection prepared cells w
        (.ok (prepared, reply), w)

/-- The rows of a reply that ended well. -/
def replyRows (prepared : Prepared) (reply : Reply) : Outcome (List Row) :=
  match reply.ending with
  | .error e => .error e.toError
  | .ok _ => reply.rows.mapM (decodeRow .checked prepared.columns)

/-- The rows of a reply one by one, and its error after them. -/
def replyStream (prepared : Prepared) (reply : Reply) : RowStream :=
  let rows : List StreamItem :=
    reply.rows.map fun cells => some (decodeRow .checked prepared.columns cells)
  match reply.ending with
  | .error e => ⟨rows ++ [some (.error e.toError)]⟩
  | .ok _ => ⟨rows⟩

/-- The number of rows that a statement affected. -/
def replyCount (reply : Reply) : Outcome Nat :=
  match reply.ending with
  | .error e => .error e.toError
  | .ok count => .ok count

/-- The session on a connection. -/
def clientSession : Session ω where
  dialect := Dialect.postgres
  query sql params := do
    let (prepared, reply) ← exchange server connection sql params
    Action.ofOutcome (replyRows prepared reply)
  execute sql params := do
    let (_, reply) ← exchange server connection sql params
    Action.ofOutcome (replyCount reply)
  stream sql params := do
    let (prepared, reply) ← exchange server connection sql params
    return replyStream prepared reply

end SqlPipeline.Postgres
