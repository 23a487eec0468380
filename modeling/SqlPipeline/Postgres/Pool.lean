import SqlPipeline.Config
import SqlPipeline.Postgres.Client
import SqlPipeline.Postgres.ConnectionString

/-!
A pool of connections to a PostgreSQL server.

A connection is taken from the idle ones or opened, as long as the pool owns fewer than its limit,
and is given back or detached afterwards. A detached connection is no longer owned by the pool. As a
session, a pool takes a connection for each statement.
-/

namespace SqlPipeline.Postgres

/-- The connections that a pool owns and those of them that nobody holds. -/
structure Pool where
  limit : Nat := defaultPoolSize
  idle : List ConnectionId := []
  owned : Nat := 0
  closed : Bool := false

namespace Pool

/-- The pool of connections to an address, none of which is open. -/
def ofAddress (address : String) (limit : Nat := defaultPoolSize) : Except Error Pool :=
  match ConnectionString.read? address.toList with
  | some _ => .ok { limit }
  | none => .error (.connection "invalid connection string")

/-- Gives a connection back. -/
def release (pool : Pool) (connection : ConnectionId) : Pool :=
  { pool with idle := pool.idle ++ [connection] }

/-- Gives up a connection that somebody holds. -/
def detach (pool : Pool) : Pool :=
  { pool with owned := pool.owned - 1 }

end Pool

/-- A server with a pool of connections to it. -/
structure Database (ω : Type) where
  server : ω
  pool : Pool

namespace Database

variable {ω α : Type} (server : Server ω)

/-- Takes a connection from the pool. -/
def acquire : Action (Database ω) ConnectionId := fun db =>
  if db.pool.closed then (.error (.pool "the pool is closed"), db)
  else
    match db.pool.idle with
    | connection :: idle => (.ok connection, { db with pool := { db.pool with idle } })
    | [] =>
      if db.pool.limit ≤ db.pool.owned then (.error (.pool "no connection is free"), db)
      else
        match server.connect db.server with
        | (.error text, state) => (.error (.pool text), { db with server := state })
        | (.ok connection, state) =>
          (.ok connection, ⟨state, { db.pool with owned := db.pool.owned + 1 }⟩)

/-- Gives a connection back to the pool. -/
def release (connection : ConnectionId) (db : Database ω) : Database ω :=
  { db with pool := db.pool.release connection }

/-- An action on the server. -/
def onServer (x : Action ω α) : Action (Database ω) α := fun db =>
  let (outcome, server) := x db.server
  (outcome, { db with server })

/-- Takes a connection for the time of an action on the server. -/
def withConnection (x : ConnectionId → Action ω α) : Action (Database ω) α := do
  let connection ← acquire server
  fun db =>
    let (outcome, db) := onServer (x connection) db
    (outcome, db.release connection)

/-- The session that takes a connection for each statement. -/
def session (dialect : Dialect) : Session (Database ω) where
  dialect := dialect
  query sql params := withConnection server fun c => (clientSession server c).query sql params
  execute sql params := withConnection server fun c => (clientSession server c).execute sql params
  stream sql params := withConnection server fun c => (clientSession server c).stream sql params

end Database

/-- A pool and the dialect of the statements that are sent through it. -/
structure Handle where
  pool : Pool
  dialect : Dialect := Dialect.postgres

/-- The pool of a configuration. -/
def Handle.ofConfig (config : Config) : Except Error Handle := do
  let pool ← Pool.ofAddress config.databaseUrl config.maxPoolSize
  return { pool, dialect := config.dialect }

end SqlPipeline.Postgres
