import SqlPipeline.Postgres.Transaction
import SqlPipeline.Proofs.Transaction.Relation

/-!
What passes between a transaction session and its server.

A logged server keeps what it did for its connections and what it refused. Main statements: each
call of a transaction session as an equation in what the server answers; a program changes nothing
but the server, and that by its exchanges alone; a task does over a logged server what it does over
the server itself.
-/

namespace SqlPipeline

namespace Postgres

variable {μ ω ω' α β : Type}

/-- Something that a connection asked of a server, and what it was refused with, if it was. -/
inductive Exchange
  | prepared (connection : ConnectionId) (sql : String) (refusal : Option ServerError)
  | executed (connection : ConnectionId) (sql : String) (cells : List Cell)
      (refusal : Option ServerError)
  | commanded (connection : ConnectionId) (sql : String) (refusal : Option ServerError)

/-- What an answer refuses with. -/
def refusal? : Except ServerError α → Option ServerError
  | .ok _ => none
  | .error e => some e

namespace Server

/-- Acts on the state and then logs what came of it. -/
def logging (entry : β → Exchange) (act : ω → β × ω) :
    Recorded ω Exchange → β × Recorded ω Exchange := fun r =>
  ((act r.state).1, ⟨(act r.state).2, r.entries ++ [entry (act r.state).1]⟩)

/-- The server with a log of its exchanges. -/
def logged (server : Server ω) : Server (Recorded ω Exchange) where
  connect r := ((server.connect r.state).1, ⟨(server.connect r.state).2, r.entries⟩)
  prepare c sql := logging (fun answer => .prepared c sql (refusal? answer)) (server.prepare c sql)
  execute c statement cells :=
    logging (fun reply => .executed c statement.sql cells (refusal? reply.ending))
      (server.execute c statement cells)
  command c sql :=
    logging (fun answer => .commanded c sql (refusal? answer)) (server.command c sql)

section

variable {server : Server ω} {c : ConnectionId} {r r' : Recorded ω Exchange}

theorem of_logged_prepare {sql : String} {answer : Except ServerError Prepared}
    (h : server.logged.prepare c sql r = (answer, r')) :
    server.prepare c sql r.state = (answer, r'.state) ∧
      r'.entries = r.entries ++ [.prepared c sql (refusal? answer)] := by
  cases h
  exact ⟨rfl, rfl⟩

theorem of_logged_execute {statement : Prepared} {cells : List Cell} {reply : Reply}
    (h : server.logged.execute c statement cells r = (reply, r')) :
    server.execute c statement cells r.state = (reply, r'.state) ∧
      r'.entries = r.entries ++ [.executed c statement.sql cells (refusal? reply.ending)] := by
  cases h
  exact ⟨rfl, rfl⟩

theorem of_logged_command {sql : String} {answer : Except ServerError Unit}
    (h : server.logged.command c sql r = (answer, r')) :
    server.command c sql r.state = (answer, r'.state) ∧
      r'.entries = r.entries ++ [.commanded c sql (refusal? answer)] := by
  cases h
  exact ⟨rfl, rfl⟩

end

/-- From related states the servers answer alike and leave related states. -/
structure Relates (R : ω → ω' → Prop) (server : Server ω) (server' : Server ω') : Prop where
  connect : ∀ s t, R s t → (server.connect s).1 = (server'.connect t).1 ∧
    R (server.connect s).2 (server'.connect t).2
  prepare : ∀ c sql s t, R s t → (server.prepare c sql s).1 = (server'.prepare c sql t).1 ∧
    R (server.prepare c sql s).2 (server'.prepare c sql t).2
  execute : ∀ c statement cells s t, R s t →
    (server.execute c statement cells s).1 = (server'.execute c statement cells t).1 ∧
      R (server.execute c statement cells s).2 (server'.execute c statement cells t).2
  command : ∀ c sql s t, R s t → (server.command c sql s).1 = (server'.command c sql t).1 ∧
    R (server.command c sql s).2 (server'.command c sql t).2

/-- A logged server answers as the server itself. -/
theorem logged_relates (server : Server ω) :
    Relates (fun s (r : Recorded ω Exchange) => r.state = s) server server.logged where
  connect _ _ hst := hst ▸ ⟨rfl, rfl⟩
  prepare _ _ _ _ hst := hst ▸ ⟨rfl, rfl⟩
  execute _ _ _ _ _ hst := hst ▸ ⟨rfl, rfl⟩
  command _ _ _ _ hst := hst ▸ ⟨rfl, rfl⟩

end Server

/-- The ways that the exchange for a statement goes. -/
inductive Exchanged (server : Server ω) (c : ConnectionId) (sql : String) (s : ω) :
    Outcome (Prepared × Reply) → ω → Prop
  | unsent (e) : Exchanged server c sql s (.error e) s
  | refused {e t} (hprepare : server.prepare c sql s = (.error e, t)) :
      Exchanged server c sql s (.error e.toError) t
  | unencoded (e) {prepared t} (hprepare : server.prepare c sql s = (.ok prepared, t)) :
      Exchanged server c sql s (.error e) t
  | executed {prepared t cells reply t'} (hprepare : server.prepare c sql s = (.ok prepared, t))
      (hexecute : server.execute c prepared cells t = (reply, t')) :
      Exchanged server c sql s (.ok (prepared, reply)) t'

/-- Only one thing can come of the exchange for a statement, and `Exchanged` lists it. -/
theorem exchanged_of_eq {server : Server ω} {c : ConnectionId} {sql : String} {params : List Value}
    {s t : ω} {o : Outcome (Prepared × Reply)}
    (hexchange : exchange server c sql params s = (o, t)) : Exchanged server c sql s o t := by
  rw [exchange] at hexchange
  split at hexchange
  · cases hexchange
    exact .unsent _
  · rcases hprepare : server.prepare c sql s with ⟨e | prepared, t⟩ <;>
      rw [hprepare] at hexchange <;> dsimp only at hexchange
    · cases hexchange
      exact .refused hprepare
    · cases hencode : encodeAll params prepared.parameters with
      | error fault =>
          rw [hencode] at hexchange
          cases hexchange
          exact .unencoded _ hprepare
      | ok cells =>
          rw [hencode] at hexchange
          cases hexchange
          exact .executed hprepare rfl

namespace TxDatabase

/-- The same session and pool on a server in another state. -/
def withServer (w : TxDatabase ω) (s : ω') : TxDatabase ω' :=
  ⟨⟨s, w.database.pool⟩, w.tx⟩

@[simp] theorem drop_server (w : TxDatabase ω) : w.drop.database.server = w.database.server := by
  rw [drop]
  cases w.tx.connection <;> rfl

@[simp] theorem withServer_server (w : TxDatabase ω) (s : ω') :
    (w.withServer s).database.server = s := rfl

/-- A note acts on the server. -/
def observing (observe : μ → ω → ω) (m : μ) (w : TxDatabase ω) : TxDatabase ω :=
  w.withServer (observe m w.database.server)

variable (server : Server ω)

/-- Sends a command that fits the state of the session; the answer is still to be followed. -/
def request (command : Command) : Action (TxDatabase ω) (Except ServerError Unit) := do
  guardState command
  let connection ← held
  send server command connection

/-- What a session makes of the answer to a command. -/
def follow (command : Command) : Except ServerError Unit → Action (TxDatabase ω) Unit
  | .error e => Action.fail e.toError
  | .ok () => fun w => (.ok (), w.acknowledge command)

/-- To give a command is to send it and then to follow its answer. -/
theorem control_eq_request (command : Command) :
    control server command = (request server command).bind (follow command) := by
  change (guardState command).bind _ = ((guardState command).bind _).bind _
  rw [Action.bind_assoc]
  congr 1
  funext _
  change held.bind _ = (held.bind _).bind _
  rw [Action.bind_assoc]
  congr 1

theorem request_eq (command : Command) (w : TxDatabase ω) :
    request server command w =
      if w.tx.state = command.source then
        match w.tx.connection with
        | none => (.error (.connection "transaction session already closed"), w)
        | some c =>
          (.ok (server.command c command.sql w.database.server).1,
            w.withServer (server.command c command.sql w.database.server).2)
      else (.error (.config (.wrongState command.sql w.tx.state.label)), w) := by
  change Action.bind (guardState command) _ w = _
  by_cases hstate : w.tx.state = command.source
  · rw [Action.bind, guardState, if_pos hstate, if_pos hstate]
    change Action.bind held _ w = _
    rw [Action.bind, held]
    cases w.tx.connection <;> rfl
  · rw [Action.bind, guardState, if_neg hstate, if_neg hstate]

theorem control_eq (command : Command) (w : TxDatabase ω) :
    control server command w =
      if w.tx.state = command.source then
        match w.tx.connection with
        | none => (.error (.connection "transaction session already closed"), w)
        | some c =>
          match server.command c command.sql w.database.server with
          | (.error e, s) => (.error e.toError, w.withServer s)
          | (.ok (), s) => (.ok (), (w.withServer s).acknowledge command)
      else (.error (.config (.wrongState command.sql w.tx.state.label)), w) := by
  rw [control_eq_request, Action.bind, request_eq]
  by_cases hstate : w.tx.state = command.source
  · rw [if_pos hstate, if_pos hstate]
    cases w.tx.connection with
    | none => rfl
    | some c =>
        dsimp only
        rcases server.command c command.sql w.database.server with ⟨e | _, s⟩ <;> rfl
  · rw [if_neg hstate, if_neg hstate]

theorem close_eq (w : TxDatabase ω) :
    close server w =
      if w.tx.state = .opened then
        ((control server .rollback w).1, (control server .rollback w).2.drop)
      else (.ok (), w.drop) := by
  rw [close]
  by_cases hopened : w.tx.state = .opened
  · rw [if_pos hopened, if_pos hopened]
  · rw [if_neg hopened, if_neg hopened]

theorem onConnection_eq (x : ConnectionId → Action ω α) (w : TxDatabase ω) :
    onConnection x w =
      match w.tx.connection with
      | none => (.error (.connection "transaction session already closed"), w)
      | some c => ((x c w.database.server).1, w.withServer (x c w.database.server).2) := by
  change Action.bind held _ w = _
  rw [Action.bind, held]
  cases w.tx.connection <;> rfl

theorem acquire_eq (dialect : Dialect) (w : TxDatabase ω) :
    acquire server dialect w =
      match Database.acquire server w.database with
      | (.ok c, database) => (.ok (session server dialect), ⟨database, some c, .idle, dialect⟩)
      | (.error e, database) => (.error e, ⟨database, w.tx⟩)
      | (.panic p, database) => (.panic p, ⟨database, w.tx⟩) := by
  change Action.bind (onDatabase (Database.acquire server)) _ w = _
  simp only [Action.bind, onDatabase]
  rcases Database.acquire server w.database with ⟨c | e | p, database⟩ <;> rfl

variable {server}

/-- Everything that a command that ends well does. -/
theorem control_eq_ok {command : Command} {w w' : TxDatabase ω}
    (hcontrol : control server command w = (.ok (), w')) :
    w.tx.state = command.source ∧ ∃ c s, w.tx.connection = some c ∧
      server.command c command.sql w.database.server = (.ok (), s) ∧
        w' = (w.withServer s).acknowledge command := by
  rw [control_eq] at hcontrol
  by_cases hstate : w.tx.state = command.source
  · rw [if_pos hstate] at hcontrol
    cases hheld : w.tx.connection with
    | none =>
        rw [hheld] at hcontrol
        cases hcontrol
    | some c =>
        rw [hheld] at hcontrol
        dsimp only at hcontrol
        rcases hcommand : server.command c command.sql w.database.server with ⟨e | _, s⟩ <;>
          rw [hcommand] at hcontrol <;> cases hcontrol
        exact ⟨hstate, c, s, rfl, hcommand, rfl⟩
  · rw [if_neg hstate] at hcontrol
    cases hcontrol

theorem acquire_eq_ok {dialect : Dialect} {w w' : TxDatabase ω} {tx : TxSession (TxDatabase ω)}
    (hacquire : acquire server dialect w = (.ok tx, w')) :
    tx = session server dialect ∧ ∃ c database,
      Database.acquire server w.database = (.ok c, database) ∧
        w' = ⟨database, some c, .idle, dialect⟩ := by
  rw [acquire_eq] at hacquire
  rcases hconnection : Database.acquire server w.database with ⟨c | e | p, database⟩ <;>
    rw [hconnection] at hacquire <;> cases hacquire
  exact ⟨rfl, c, database, rfl, rfl⟩

/-- A program of a session that holds a connection changes nothing but the server, and of the server
it keeps what every note and every exchange keeps. -/
theorem run_keeps {Q : ω → Prop} {w : TxDatabase ω} {c : ConnectionId}
    (observe : μ → ω → ω) (dialect : Dialect) (hheld : w.tx.connection = some c)
    (hnote : ∀ m s, Q s → Q (observe m s))
    (hexchange : ∀ sql params s, Q s → Q (exchange server c sql params s).2)
    (p : Program μ α) (hQ : Q w.database.server) :
    ∃ s, Q s ∧ (p.run (observing observe) (session server dialect).toSession w).2 =
      w.withServer s := by
  have hcall : ∀ {β : Type} (sql : String) (params : List Value)
      (read : Prepared × Reply → Action ω β), (∀ a s, (read a s).2 = s) →
      ∀ w', (∃ s, Q s ∧ w' = w.withServer s) → ∃ s, Q s ∧
        (onConnection (fun c => (exchange server c sql params).bind read) w').2 =
          w.withServer s := by
    rintro β sql params read hread _ ⟨s, hs, rfl⟩
    have hconnection : (w.withServer s).tx.connection = some c := hheld
    rw [onConnection_eq, hconnection]
    refine ⟨_, ?_, rfl⟩
    rw [withServer_server, Action.bind_snd_of_read _ _ hread]
    exact hexchange sql params s hs
  apply Program.run_keeps (observing observe) (session server dialect).toSession
    (P := fun w' => ∃ s, Q s ∧ w' = w.withServer s)
  · rintro m _ ⟨s, hs, rfl⟩
    exact ⟨_, hnote m s hs, rfl⟩
  · intro sql params
    exact hcall sql params _ fun _ _ => rfl
  · intro sql params
    exact hcall sql params _ fun _ _ => rfl
  · intro sql params
    exact hcall sql params _ fun _ _ => rfl
  · exact ⟨_, hQ, rfl⟩

/-- The same session and pool on servers in related states. -/
structure Alike (R : ω → ω' → Prop) (w : TxDatabase ω) (w' : TxDatabase ω') : Prop where
  server : R w.database.server w'.database.server
  pool : w.database.pool = w'.database.pool
  tx : w.tx = w'.tx

section Alike

variable {R : ω → ω' → Prop} {server' : Server ω'}

theorem exchange_relates (h : server.Relates R server') (c : ConnectionId) (sql : String)
    (params : List Value) :
    Action.Relates R (exchange server c sql params) (exchange server' c sql params) := by
  intro s t hst
  rw [exchange, exchange]
  split
  · exact ⟨rfl, hst⟩
  · obtain ⟨hanswer, hprepared⟩ := h.prepare c sql s t hst
    rcases hs : server.prepare c sql s with ⟨answer, s'⟩
    rcases ht : server'.prepare c sql t with ⟨answer', t'⟩
    rw [hs, ht] at hanswer hprepared
    cases hanswer
    cases answer with
    | error e => exact ⟨rfl, hprepared⟩
    | ok prepared =>
        dsimp only
        cases encodeAll params prepared.parameters with
        | error fault => exact ⟨rfl, hprepared⟩
        | ok cells =>
            obtain ⟨hreply, hexecuted⟩ := h.execute c prepared cells s' t' hprepared
            dsimp only
            rw [hreply]
            exact ⟨rfl, hexecuted⟩

theorem onConnection_relates {x : ConnectionId → Action ω α} {y : ConnectionId → Action ω' α}
    (hxy : ∀ c, Action.Relates R (x c) (y c)) :
    Action.Relates (Alike R) (onConnection x) (onConnection y) := by
  intro w w' hw
  rw [onConnection_eq, onConnection_eq, hw.tx]
  cases w'.tx.connection with
  | none => exact ⟨rfl, hw⟩
  | some c =>
      obtain ⟨hended, hleft⟩ := hxy c _ _ hw.server
      exact ⟨hended, hleft, hw.pool, hw.tx⟩

theorem control_relates (h : server.Relates R server') (command : Command) :
    Action.Relates (Alike R) (control server command) (control server' command) := by
  intro w w' hw
  rw [control_eq, control_eq, hw.tx]
  split
  · cases w'.tx.connection with
    | none => exact ⟨rfl, hw⟩
    | some c =>
        obtain ⟨hanswer, hleft⟩ := h.command c command.sql _ _ hw.server
        rcases hs : server.command c command.sql w.database.server with ⟨answer, s⟩
        rcases ht : server'.command c command.sql w'.database.server with ⟨answer', t⟩
        dsimp only
        rw [hs, ht] at hanswer hleft ⊢
        cases hanswer
        cases answer with
        | error e => exact ⟨rfl, hleft, hw.pool, hw.tx⟩
        | ok _ =>
            refine ⟨rfl, hleft, hw.pool, ?_⟩
            exact congrArg (fun tx : TxConnection => { tx with state := command.target }) hw.tx
  · exact ⟨rfl, hw⟩

theorem Alike.drop {w : TxDatabase ω} {w' : TxDatabase ω'} (hw : Alike R w w') :
    Alike R w.drop w'.drop := by
  rw [TxDatabase.drop, TxDatabase.drop, hw.tx, hw.pool]
  cases w'.tx.connection with
  | none => exact hw
  | some c => exact ⟨hw.server, rfl, rfl⟩

theorem close_relates (h : server.Relates R server') :
    Action.Relates (Alike R) (close server) (close server') := by
  intro w w' hw
  rw [close_eq, close_eq, hw.tx]
  split
  · obtain ⟨hended, hleft⟩ := control_relates h .rollback w w' hw
    exact ⟨hended, hleft.drop⟩
  · exact ⟨rfl, hw.drop⟩

theorem acquire_relates (hconnect : ∀ s t, R s t → (server.connect s).1 = (server'.connect t).1 ∧
      R (server.connect s).2 (server'.connect t).2) :
    Action.Relates
      (fun (db : Database ω) (db' : Database ω') => R db.server db'.server ∧ db.pool = db'.pool)
      (Database.acquire server) (Database.acquire server') := by
  rintro ⟨s, pool⟩ ⟨t, _⟩ ⟨hst, rfl⟩
  rw [Database.acquire, Database.acquire]
  split
  · exact ⟨rfl, hst, rfl⟩
  · dsimp only
    cases pool.idle with
    | cons c idle => exact ⟨rfl, hst, rfl⟩
    | nil =>
        dsimp only
        split
        · exact ⟨rfl, hst, rfl⟩
        · obtain ⟨hanswer, hleft⟩ := hconnect s t hst
          rcases hs : server.connect s with ⟨answer, s'⟩
          rcases ht : server'.connect t with ⟨answer', t'⟩
          rw [hs, ht] at hanswer hleft
          cases hanswer
          cases answer with
          | error text => exact ⟨rfl, hleft, rfl⟩
          | ok c => exact ⟨rfl, hleft, rfl⟩

variable {observe : μ → ω → ω} {observe' : μ → ω' → ω'}

theorem session_relates (h : server.Relates R server')
    (hnote : ∀ m s t, R s t → R (observe m s) (observe' m t)) (dialect : Dialect) :
    TxSession.Relates (Alike R) (observing observe) (session server dialect) (observing observe')
      (session server' dialect) where
  dialect := rfl
  note m _ _ hw := ⟨hnote m _ _ hw.server, hw.pool, hw.tx⟩
  query sql params := onConnection_relates fun c =>
    (exchange_relates h c sql params).bind fun _ => .ofOutcome _
  execute sql params := onConnection_relates fun c =>
    (exchange_relates h c sql params).bind fun _ => .ofOutcome _
  stream sql params := onConnection_relates fun c =>
    (exchange_relates h c sql params).bind fun _ => .pure _
  begin := control_relates h .begin
  commit := control_relates h .commit
  rollback := control_relates h .rollback
  close := close_relates h

theorem connector_relates (h : server.Relates R server')
    (hnote : ∀ m s t, R s t → R (observe m s) (observe' m t)) (dialect : Dialect) :
    Connector.Relates (Alike R) (observing observe) (connector server dialect)
      (observing observe') (connector server' dialect) := by
  intro w w' hw
  change Outcome.Relates _ (acquire server dialect w).1 (acquire server' dialect w').1 ∧
    Alike R (acquire server dialect w).2 (acquire server' dialect w').2
  obtain ⟨hended, hleft⟩ := acquire_relates h.connect w.database w'.database ⟨hw.server, hw.pool⟩
  rw [acquire_eq, acquire_eq]
  rcases hacquire : Database.acquire server w.database with ⟨o, database⟩
  rcases hacquire' : Database.acquire server' w'.database with ⟨o', database'⟩
  rw [hacquire, hacquire'] at hended hleft
  cases hended
  cases o with
  | ok c => exact ⟨.ok (session_relates h hnote dialect), hleft.1, hleft.2, rfl⟩
  | error e => exact ⟨.error e, hleft.1, hleft.2, hw.tx⟩
  | panic p => exact ⟨.panic p, hleft.1, hleft.2, hw.tx⟩

end Alike

/-- The session and pool on a server whose log is empty. -/
def logged (w : TxDatabase ω) : TxDatabase (Recorded ω Exchange) :=
  w.withServer ⟨w.database.server, []⟩

/-- The log differs from what it is a log of in nothing else. -/
abbrev Logs : TxDatabase ω → TxDatabase (Recorded ω Exchange) → Prop :=
  Alike fun s r => r.state = s

end TxDatabase

/-- What a note does to a server is not logged. -/
def unlogged (observe : μ → ω → ω) (m : μ) (r : Recorded ω Exchange) : Recorded ω Exchange :=
  { r with state := observe m r.state }

/-- A logged server opens connections as the server itself, and logs nothing of it. -/
theorem Database.acquire_logged {server : Server ω} {db db' : Database ω} {o : Outcome ConnectionId}
    (hacquire : Database.acquire server db = (o, db')) (log : List Exchange) :
    Database.acquire server.logged ⟨⟨db.server, log⟩, db.pool⟩ =
      (o, ⟨⟨db'.server, log⟩, db'.pool⟩) := by
  have hconnect : ∀ s (r : Recorded ω Exchange), r = ⟨s, log⟩ →
      (server.connect s).1 = (server.logged.connect r).1 ∧
        (server.logged.connect r).2 = ⟨(server.connect s).2, log⟩ := by
    rintro s _ rfl
    exact ⟨rfl, rfl⟩
  obtain ⟨hended, hserver, hpool⟩ :=
    TxDatabase.acquire_relates hconnect db ⟨⟨db.server, log⟩, db.pool⟩ ⟨rfl, rfl⟩
  rcases hlogged : Database.acquire server.logged ⟨⟨db.server, log⟩, db.pool⟩ with ⟨o', s, pool⟩
  rw [hacquire, hlogged] at hended hserver hpool
  cases hended
  cases hserver
  cases hpool
  rfl

/-- Where a session is acquired on a logged server, a connection is acquired on the server
itself. -/
theorem TxDatabase.of_acquire_logged {server : Server ω} {dialect : Dialect} {w : TxDatabase ω}
    {tx : TxSession (TxDatabase (Recorded ω Exchange))} {w' : TxDatabase (Recorded ω Exchange)}
    (hacquire : acquire server.logged dialect w.logged = (.ok tx, w')) :
    tx = session server.logged dialect ∧ ∃ c database,
      Database.acquire server w.database = (.ok c, database) ∧
        w' = ⟨⟨⟨database.server, []⟩, database.pool⟩, some c, .idle, dialect⟩ := by
  obtain ⟨rfl, c, database', hlogged, rfl⟩ := acquire_eq_ok hacquire
  rcases hplain : Database.acquire server w.database with ⟨o, database⟩
  cases hlogged.symm.trans (Database.acquire_logged hplain [])
  exact ⟨rfl, c, database, rfl, rfl⟩

/-- Where the transaction begins on a logged server, it begins on the server itself. -/
theorem TxDatabase.of_opens_logged {server : Server ω} {dialect : Dialect} {w : TxDatabase ω}
    {tx : TxSession (TxDatabase (Recorded ω Exchange))} {w' : TxDatabase (Recorded ω Exchange)}
    (hopens : (connector server.logged dialect).Opens w.logged tx w') :
    ∃ t, (connector server dialect).Opens w (session server dialect) t ∧ Logs t w' := by
  obtain ⟨w₁, hacquired, hbegin⟩ := hopens
  obtain ⟨rfl, c, database, hacquire, rfl⟩ := of_acquire_logged hacquired
  have hgot : acquire server dialect w =
      (.ok (session server dialect), ⟨database, some c, .idle, dialect⟩) := by
    rw [acquire_eq, hacquire]
  have hlogs : Logs ⟨database, some c, .idle, dialect⟩
      ⟨⟨⟨database.server, []⟩, database.pool⟩, some c, .idle, dialect⟩ := ⟨rfl, rfl, rfl⟩
  obtain ⟨hended, hleft⟩ := control_relates server.logged_relates .begin _ _ hlogs
  change control server.logged .begin _ = _ at hbegin
  rw [hbegin] at hended hleft
  exact ⟨_, ⟨_, hgot, Prod.ext hended rfl⟩, hleft⟩

section Logged

variable (observe : μ → ω → ω) (server : Server ω) (dialect : Dialect)

theorem logged_session_relates :
    TxSession.Relates TxDatabase.Logs (TxDatabase.observing observe)
      (TxDatabase.session server dialect) (TxDatabase.observing (unlogged observe))
      (TxDatabase.session server.logged dialect) :=
  TxDatabase.session_relates server.logged_relates
    (fun m _ _ hst => congrArg (observe m) hst) dialect

theorem logged_connector_relates :
    Connector.Relates TxDatabase.Logs (TxDatabase.observing observe)
      (TxDatabase.connector server dialect) (TxDatabase.observing (unlogged observe))
      (TxDatabase.connector server.logged dialect) :=
  TxDatabase.connector_relates server.logged_relates
    (fun m _ _ hst => congrArg (observe m) hst) dialect

end Logged

end Postgres

namespace Transaction.Task

open Postgres TxDatabase

variable {μ ω α : Type} (observe : μ → ω → ω) (server : Server ω) (dialect : Dialect)
  (task : Task μ α) (budget : Nat) (w : TxDatabase ω)

/-- The exchanges of the run of a task with the server. -/
def exchanges : List Exchange :=
  (task.run (observing (unlogged observe)) (connector server.logged dialect) budget
    w.logged).2.database.server.entries

/-- A task does over a logged server what it does over the server itself. -/
theorem run_logged_server :
    (task.run (observing observe) (connector server dialect) budget w).1 =
        (task.run (observing (unlogged observe)) (connector server.logged dialect) budget
          w.logged).1 ∧
      Logs (task.run (observing observe) (connector server dialect) budget w).2
        (task.run (observing (unlogged observe)) (connector server.logged dialect) budget
          w.logged).2 :=
  run_relates (logged_connector_relates observe server dialect) task budget w w.logged
    ⟨rfl, rfl, rfl⟩

end Transaction.Task

end SqlPipeline
