import SqlPipeline.Postgres.Field
import SqlPipeline.Session.Recorded

/-!
A PostgreSQL server as its connections see it.

A server is given by what it does to a state when a connection is opened, a statement is prepared
or executed, or a control command is sent.
-/

namespace SqlPipeline.Postgres

/-- The number by which a connection is known. -/
abbrev ConnectionId := Nat

/-- What a server says when it refuses something. -/
structure ServerError where
  code : String
  message : String
  constraint : Option String

/-- The error of a refusal. The violation of a constraint names the constraint. -/
def ServerError.toError (e : ServerError) : Error :=
  let text := e.constraint.getD "unknown" ++ ": " ++ e.message
  if e.code = "23505" then .uniqueViolation text
  else if e.code = "23503" then .foreignKeyViolation text
  else if e.code = "23514" then .checkViolation text
  else .query (some e.code) e.message

/-- A prepared statement: the types of its parameters and the columns of its answer. -/
structure Prepared where
  sql : String
  parameters : List ColumnType
  columns : List Column

/-- The answer to an executed statement: its rows, and how it ended after them. -/
structure Reply where
  rows : List (List Cell)
  /-- The number of rows that the statement affected. -/
  ending : Except ServerError Nat

/-- What a server does to a state. -/
structure Server (ω : Type) where
  /-- Opens a connection, or says why it cannot. -/
  connect : ω → Except String ConnectionId × ω
  prepare (connection : ConnectionId) (sql : String) : ω → Except ServerError Prepared × ω
  execute (connection : ConnectionId) (statement : Prepared) (parameters : List Cell) :
    ω → Reply × ω
  command (connection : ConnectionId) (sql : String) : ω → Except ServerError Unit × ω

/-- A message that a server gets. -/
inductive Message
  | parse (sql : String)
  | bind (parameters : List Cell)
  | simple (sql : String)

namespace Server

variable {ω ε : Type}

/-- Records an entry and then acts on the state. -/
def recording {α : Type} (entry : ε) (act : ω → α × ω) : Recorded ω ε → α × Recorded ω ε :=
  fun r =>
    let (a, state) := act r.state
    (a, { (r.add entry) with state })

/-- The server with a record of the messages that it gets. -/
def recorded (entry : Message → ε) (server : Server ω) : Server (Recorded ω ε) where
  connect r :=
    let (result, state) := server.connect r.state
    (result, { r with state })
  prepare connection sql := recording (entry (.parse sql)) (server.prepare connection sql)
  execute connection statement parameters :=
    recording (entry (.bind parameters)) (server.execute connection statement parameters)
  command connection sql := recording (entry (.simple sql)) (server.command connection sql)

end Server

end SqlPipeline.Postgres
