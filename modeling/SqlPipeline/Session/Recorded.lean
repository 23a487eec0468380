import SqlPipeline.Session.Basic

/-!
Sessions that keep a record of the calls they get.

Every call is recorded before it is made. An entry of the record is whatever the caller makes of a
call, so that the record may hold other things between the calls.
-/

namespace SqlPipeline

/-- A call of a session or of a connector. -/
inductive Call
  | acquire
  | begin
  | commit
  | rollback
  | close
  | query (sql : String) (params : List Value)
  | execute (sql : String) (params : List Value)
  | stream (sql : String) (params : List Value)

/-- A state with a record of what happened, oldest first. -/
structure Recorded (σ ε : Type) where
  state : σ
  entries : List ε

namespace Recorded

variable {σ ε α : Type}

def add (entry : ε) (r : Recorded σ ε) : Recorded σ ε :=
  { r with entries := r.entries ++ [entry] }

/-- Records an entry and then acts on the state. -/
def action (entry : ε) (x : Action σ α) : Action (Recorded σ ε) α := fun r =>
  let (outcome, state) := x r.state
  (outcome, { (r.add entry) with state })

end Recorded

variable {σ ε : Type} (entry : Call → ε)

/-- The session with a record of its calls. -/
def Session.recorded (s : Session σ) : Session (Recorded σ ε) where
  dialect := s.dialect
  query sql params := Recorded.action (entry (.query sql params)) (s.query sql params)
  execute sql params := Recorded.action (entry (.execute sql params)) (s.execute sql params)
  stream sql params := Recorded.action (entry (.stream sql params)) (s.stream sql params)

/-- The session with a record of its calls. -/
def TxSession.recorded (s : TxSession σ) : TxSession (Recorded σ ε) where
  toSession := s.toSession.recorded entry
  begin := Recorded.action (entry .begin) s.begin
  commit := Recorded.action (entry .commit) s.commit
  rollback := Recorded.action (entry .rollback) s.rollback
  close := Recorded.action (entry .close) s.close

/-- The connector with a record of its calls and of those of its sessions. -/
def Connector.recorded (c : Connector σ) : Connector (Recorded σ ε) where
  acquire := do
    let session ← Recorded.action (entry .acquire) c.acquire
    return session.recorded entry

end SqlPipeline
