import SqlPipeline.Postgres.Pool
import SqlPipeline.Text.Escaped

/-!
Transaction sessions on a pool.

A transaction session holds one connection of the pool. It is idle, then open from a `BEGIN` that
the server has answered well to a `COMMIT` or a `ROLLBACK` that it has answered well, and then done.
A connection on which a transaction is open is never given back: closing rolls it back first, and
where that fails, or where the session is dropped, the connection is detached.
-/

namespace SqlPipeline.Postgres

/-- How far a transaction has come, as far as the session was told. -/
inductive TxState
  | idle
  | opened
  | done
  deriving DecidableEq

/-- The word for a state. -/
def TxState.label : TxState → String
  | .idle => "Idle"
  | .opened => "Open"
  | .done => "Done"

/-- A command of transaction control. -/
inductive Command
  | begin
  | commit
  | rollback
  deriving DecidableEq

namespace Command

/-- The SQL of a command. -/
def sql : Command → String
  | .begin => "BEGIN"
  | .commit => "COMMIT"
  | .rollback => "ROLLBACK"

/-- The state in which a command may be given. -/
def source : Command → TxState
  | .begin => .idle
  | .commit => .opened
  | .rollback => .opened

/-- The state after a command that the server has answered well. -/
def target : Command → TxState
  | .begin => .opened
  | .commit => .done
  | .rollback => .done

end Command

/-- A transaction session: the connection that it holds, and how far its transaction has come. -/
structure TxConnection where
  connection : Option ConnectionId := none
  state : TxState := .idle
  dialect : Dialect := Dialect.postgres

/-- A database and the transaction session that was handed out. -/
structure TxDatabase (ω : Type) where
  database : Database ω
  tx : TxConnection

namespace TxDatabase

variable {ω α : Type}

/-- An action on the database. -/
def onDatabase (x : Action (Database ω) α) : Action (TxDatabase ω) α := fun w =>
  let (outcome, database) := x w.database
  (outcome, { w with database })

/-- The connection that the session holds. -/
def held : Action (TxDatabase ω) ConnectionId := fun w =>
  match w.tx.connection with
  | some connection => (.ok connection, w)
  | none => (.error (.connection "transaction session already closed"), w)

/-- Notes that the server has answered a command well. -/
def acknowledge (command : Command) (w : TxDatabase ω) : TxDatabase ω :=
  { w with tx := { w.tx with state := command.target } }

/-- Gives the connection back to the pool, or gives it up while a transaction is open on it. -/
def drop (w : TxDatabase ω) : TxDatabase ω :=
  match w.tx.connection with
  | none => w
  | some connection =>
    let pool := w.database.pool
    let pool := if w.tx.state = .opened then pool.detach else pool.release connection
    { database := { w.database with pool }, tx := { w.tx with connection := none } }

variable (server : Server ω)

/-- Sends a command on a connection, and gives what the server answers. -/
def send (command : Command) (connection : ConnectionId) :
    Action (TxDatabase ω) (Except ServerError Unit) := fun w =>
  let (answer, state) := server.command connection command.sql w.database.server
  (.ok answer, { w with database := { w.database with server := state } })

/-- Refuses a command that does not fit the state of the session. -/
def guardState (command : Command) : Action (TxDatabase ω) Unit := fun w =>
  if w.tx.state = command.source then (.ok (), w)
  else (.error (.config (.wrongState command.sql w.tx.state.label)), w)

/-- Gives a command, and follows the state once the server has answered it well. -/
def control (command : Command) : Action (TxDatabase ω) Unit := do
  guardState command
  let connection ← held
  match ← send server command connection with
  | .error e => Action.fail e.toError
  | .ok () => fun w => (.ok (), w.acknowledge command)

/-- Ends the session: an open transaction is rolled back, and then the connection is given back.
Where the roll-back fails the session is dropped as it is. -/
def close : Action (TxDatabase ω) Unit := fun w =>
  let (outcome, w) := if w.tx.state = .opened then control server .rollback w else (.ok (), w)
  (outcome, w.drop)

/-- A call on the connection that the session holds. -/
def onConnection (x : ConnectionId → Action ω α) : Action (TxDatabase ω) α := do
  let connection ← held
  onDatabase (Database.onServer (x connection))

/-- The calls of the transaction session. -/
def session (dialect : Dialect) : TxSession (TxDatabase ω) where
  dialect := dialect
  query sql params := onConnection fun c => (clientSession server c).query sql params
  execute sql params := onConnection fun c => (clientSession server c).execute sql params
  stream sql params := onConnection fun c => (clientSession server c).stream sql params
  begin := control server .begin
  commit := control server .commit
  rollback := control server .rollback
  close := close server

/-- Hands out a transaction session on a connection of the pool. -/
def acquire (dialect : Dialect) : Action (TxDatabase ω) (TxSession (TxDatabase ω)) := do
  let connection ← onDatabase (Database.acquire server)
  fun w =>
    (.ok (session server dialect), { w with tx := { connection := some connection, dialect } })

/-- Hands out a transaction session in the place of the one before, which is dropped only then. -/
def reopen (dialect : Dialect) : Action (TxDatabase ω) (TxSession (TxDatabase ω)) := fun w =>
  match acquire server dialect w with
  | (.ok session, next) => (.ok session, { ({ next with tx := w.tx }).drop with tx := next.tx })
  | (outcome, next) => (outcome, next)

/-- The connector that hands out transaction sessions. -/
def connector (dialect : Dialect) : Connector (TxDatabase ω) where
  acquire := acquire server dialect

end TxDatabase

/-- A character between single quotes. -/
def escapedQuote (c : Char) : String :=
  let body := if c = '"' then ['"'] else if c = '\'' then ['\\', '\''] else escapedChar c
  String.ofList ('\'' :: body ++ ['\''])

/-- The description of a dialect for a reader of logs. -/
def describedDialect (d : Dialect) : String :=
  let placeholder := match d.placeholder with
    | .question => "Question"
    | .numbered => "Numbered"
  "Dialect \x7b quote: " ++ escapedQuote d.quote ++ ", placeholder: " ++ placeholder ++ " \x7d"

/-- The description of a transaction session for a reader of logs. -/
def TxConnection.described (tx : TxConnection) : String :=
  "PgTx \x7b state: " ++ tx.state.label ++ ", dialect: " ++ describedDialect tx.dialect ++
    ", .. \x7d"

end SqlPipeline.Postgres
