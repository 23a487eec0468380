import SqlPipeline.Dialect
import SqlPipeline.Row
import SqlPipeline.Session.Outcome

/-!
Sessions: the access to a database that a statement or a transaction runs against.

A session is given by what its calls do to a state. SQL handed to a session is already in the
session's dialect, and its parameters stand in the order of its placeholders.
-/

namespace SqlPipeline

/-- One answer of a stream: how a pull for a row went, or the mark of its end. -/
abbrev StreamItem := Option (Outcome Row)

/-- A stream of rows, as the answers that it will give when it is pulled. After the last of them it
answers with the mark of its end. -/
structure RowStream where
  answers : List StreamItem

namespace RowStream

def ofRows (rows : List Row) : RowStream :=
  ⟨rows.map fun row => some (.ok row)⟩

/-- The next answer, and the stream after it. -/
def pull (stream : RowStream) : StreamItem × RowStream :=
  match stream.answers with
  | [] => (none, ⟨[]⟩)
  | answer :: rest => (answer, ⟨rest⟩)

end RowStream

structure Session (σ : Type) where
  dialect : Dialect
  query (sql : String) (params : List Value) : Action σ (List Row)
  execute (sql : String) (params : List Value) : Action σ Nat
  stream (sql : String) (params : List Value) : Action σ RowStream

/-- The session whose streams are the rows of its queries, buffered. -/
def Session.buffered {σ : Type} (s : Session σ) : Session σ where
  dialect := s.dialect
  query := s.query
  execute := s.execute
  stream sql params := do
    let rows ← s.query sql params
    return .ofRows rows

/-- A session that belongs to one transaction. -/
structure TxSession (σ : Type) extends Session σ where
  begin : Action σ Unit
  commit : Action σ Unit
  rollback : Action σ Unit
  /-- Releases the session. A transaction that is still open is rolled back. -/
  close : Action σ Unit

/-- The session whose streams are the rows of its queries, buffered. -/
def TxSession.buffered {σ : Type} (s : TxSession σ) : TxSession σ :=
  { s with toSession := s.toSession.buffered }

/-- Something that hands out sessions for transactions. -/
structure Connector (σ : Type) where
  acquire : Action σ (TxSession σ)

/-- The connector that hands out buffered sessions. -/
def Connector.buffered {σ : Type} (c : Connector σ) : Connector σ where
  acquire := do
    let session ← c.acquire
    return session.buffered

end SqlPipeline
