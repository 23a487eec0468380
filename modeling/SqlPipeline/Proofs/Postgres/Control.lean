import SqlPipeline.Postgres.ScriptedServer
import SqlPipeline.Proofs.Postgres.Exchange
import SqlPipeline.Proofs.Transaction.Lifecycle

/-!
The commands of a transaction on its connection.

Main statement: whatever a server answers, a task that terminates begins on the connection that it
got, ends its transaction as the answer of its body says, and rolls back once where that is refused
or the body fails; the connection is given back if the last command was answered well or nothing
was begun, and is given up otherwise; and no command is given in a state that it does not fit.
-/

namespace SqlPipeline

open Postgres TxDatabase

variable {μ ω α : Type}

/-- The command that ends a transaction. -/
def Ending.command : Ending → Command
  | .committed => .commit
  | .rolledBack => .rollback

theorem Ending.command_source (ending : Ending) : ending.command.source = .opened := by
  cases ending <;> rfl

theorem Ending.command_target (ending : Ending) : ending.command.target = .done := by
  cases ending <;> rfl

namespace Postgres

/-- A command that was given on a connection, and what it was refused with. -/
def Command.given (command : Command) (c : ConnectionId) (refusal : Option ServerError) :
    Exchange :=
  .commanded c command.sql refusal

/-- The state of a session after a command, with what the command was refused with. -/
def Command.after (command : Command) : Option ServerError → TxState
  | none => command.target
  | some _ => command.source

def Exchange.isCommand : Exchange → Bool
  | .commanded _ _ _ => true
  | _ => false

/-- The commands among some exchanges. -/
def commands (log : List Exchange) : List Exchange :=
  log.filter Exchange.isCommand

/-- How a command ends that was refused with something or with nothing. -/
def answered : Option ServerError → Outcome Unit
  | none => .ok ()
  | some e => .error e.toError

/-- The last command was answered well, or it was a refused begin. -/
def Returns (given : List Exchange) : Prop :=
  ∃ c command refusal, given.getLast? = some (Command.given command c refusal) ∧
    (refusal = none ∨ command = .begin)

/-- The session holds no connection any more. Its connection was given back if the commands on it
say so, and was given up otherwise. -/
structure Disposed (c : ConnectionId) (pool : Pool) (given : List Exchange) (w : TxDatabase ω) :
    Prop where
  connection : w.tx.connection = none
  returned : w.database.pool = pool.release c ↔ Returns given
  detached : ¬ Returns given → w.database.pool = pool.detach

/-- The session holds a connection on which some commands were given. -/
structure Holds (c : ConnectionId) (state : TxState) (pool : Pool) (given : List Exchange)
    (w : TxDatabase (Recorded ω Exchange)) : Prop where
  connection : w.tx.connection = some c
  state : w.tx.state = state
  pool : w.database.pool = pool
  given : commands w.database.server.entries = given

theorem Command.sql_injective : Function.Injective Command.sql := by
  intro a b h
  cases a <;> cases b <;> first | rfl | exact absurd h (by decide)

theorem Pool.release_ne_detach (pool : Pool) (c : ConnectionId) : pool.release c ≠ pool.detach := by
  intro h
  have hlength := congrArg (fun p : Pool => p.idle.length) h
  simp [release, detach] at hlength

theorem commands_append_given (log : List Exchange) (command : Command) (c : ConnectionId)
    (refusal : Option ServerError) :
    commands (log ++ [command.given c refusal]) = commands log ++ [command.given c refusal] := by
  rw [commands, List.filter_append]
  rfl

theorem returns_append_given (given : List Exchange) (command : Command) (c : ConnectionId)
    (refusal : Option ServerError) :
    Returns (given ++ [command.given c refusal]) ↔ refusal = none ∨ command = .begin := by
  constructor
  · rintro ⟨c', command', refusal', hlast, h⟩
    rw [List.getLast?_append, List.getLast?_singleton] at hlast
    obtain ⟨-, hsql, rfl⟩ := Exchange.commanded.inj (Option.some.inj hlast)
    rw [Command.sql_injective hsql]
    exact h
  · intro h
    refine ⟨c, command, refusal, ?_, h⟩
    rw [List.getLast?_append, List.getLast?_singleton]
    rfl

theorem ServerError.toError_ne_config (e : ServerError) (fault : ConfigFault) :
    e.toError ≠ .config fault := by
  rw [ServerError.toError]
  split
  · nofun
  · split
    · nofun
    · split <;> nofun

/-- A statement gives no command. -/
theorem commands_exchange (server : Server ω) (c : ConnectionId) (sql : String)
    (params : List Value) (r : Recorded ω Exchange) :
    commands (exchange server.logged c sql params r).2.entries = commands r.entries := by
  have hadd : ∀ (log : List Exchange) (x : Exchange), x.isCommand = false →
      commands (log ++ [x]) = commands log := by
    intro log x hx
    rw [commands, List.filter_append, List.filter_cons_of_neg (by rw [hx]; nofun)]
    exact List.append_nil _
  have hprepared : ∀ {answer t}, server.logged.prepare c sql r = (answer, t) →
      commands t.entries = commands r.entries := by
    intro answer t hprepare
    rw [(Server.of_logged_prepare hprepare).2]
    exact hadd _ _ rfl
  rcases hexchange : exchange server.logged c sql params r with ⟨o, t⟩
  cases exchanged_of_eq hexchange with
  | unsent e => rfl
  | refused hprepare => exact hprepared hprepare
  | unencoded e hprepare => exact hprepared hprepare
  | executed hprepare hexecute =>
      rw [← hprepared hprepare, (Server.of_logged_execute hexecute).2]
      exact hadd _ _ rfl

theorem acquire_calm (server : Server ω) : (Database.acquire server).Calm := by
  intro db p hpanic
  rw [Database.acquire] at hpanic
  split at hpanic
  · cases hpanic
  · split at hpanic
    · cases hpanic
    · split at hpanic
      · cases hpanic
      · split at hpanic <;> cases hpanic

theorem control_calm (server : Server ω) (command : Command) : (control server command).Calm := by
  intro w p hpanic
  rw [control_eq] at hpanic
  split at hpanic
  · split at hpanic
    · cases hpanic
    · split at hpanic <;> cases hpanic
  · cases hpanic

/-- No call of a transaction session, and no acquisition of one, panics of itself. -/
theorem connector_calm (server : Server ω) (dialect : Dialect) :
    (connector server dialect).Calm where
  acquire w p hpanic := by
    change (acquire server dialect w).1 = _ at hpanic
    rw [acquire_eq] at hpanic
    rcases hacquire : Database.acquire server w.database with ⟨c | e | p', database⟩ <;>
      rw [hacquire] at hpanic <;> cases hpanic
    exact acquire_calm server w.database p (congrArg Prod.fst hacquire)
  begin w tx w' hacquire := by
    obtain ⟨rfl, -⟩ := acquire_eq_ok hacquire
    exact control_calm server .begin
  close w tx w' hacquire := by
    obtain ⟨rfl, -⟩ := acquire_eq_ok hacquire
    intro s p hpanic
    change (close server s).1 = _ at hpanic
    rw [close_eq] at hpanic
    split at hpanic
    · exact control_calm server .rollback s p hpanic
    · cases hpanic

namespace Holds

variable {c : ConnectionId} {state : TxState} {pool : Pool} {given : List Exchange}
  {w : TxDatabase (Recorded ω Exchange)} (server : Server ω)

theorem control (command : Command) (h : Holds c command.source pool given w) :
    ∃ refusal w', TxDatabase.control server.logged command w = (answered refusal, w') ∧
      Holds c (command.after refusal) pool (given ++ [command.given c refusal]) w' := by
  rcases hcommand : server.logged.command c command.sql w.database.server with ⟨answer, r⟩
  have hgiven : commands r.entries = given ++ [command.given c (refusal? answer)] := by
    rw [(Server.of_logged_command hcommand).2, ← h.given]
    exact commands_append_given _ command c _
  rw [control_eq, if_pos h.state, h.connection]
  dsimp only
  rw [hcommand]
  cases answer with
  | error e => exact ⟨some e, _, rfl, h.connection, h.state, h.pool, hgiven⟩
  | ok _ => exact ⟨none, _, rfl, h.connection, rfl, h.pool, hgiven⟩

theorem run (h : Holds c state pool given w) (observe : μ → ω → ω) (dialect : Dialect)
    (p : Program μ α) :
    Holds c state pool given (p.run (observing (unlogged observe))
      (session server.logged dialect).toSession w).2 := by
  obtain ⟨r, hr, heq⟩ := run_keeps (unlogged observe) dialect h.connection
    (Q := fun r : Recorded ω Exchange => commands r.entries = given) (fun _ _ hr => hr)
    (fun sql params r hr => (commands_exchange server c sql params r).trans hr) p h.given
  rw [heq]
  exact ⟨h.connection, h.state, h.pool, hr⟩

/-- A session that is dropped gives its connection up just when a transaction is open. -/
theorem drop (h : Holds c state pool given w) (hstate : Returns given ↔ state ≠ .opened) :
    Disposed c pool given w.drop ∧ commands w.drop.database.server.entries = given := by
  rw [TxDatabase.drop, h.connection]
  dsimp only
  rw [h.state, h.pool]
  by_cases hopened : state = .opened
  · have hdetached : ¬ Returns given := fun hreturns => hstate.1 hreturns hopened
    rw [if_pos hopened]
    refine ⟨⟨rfl, ?_, fun _ => rfl⟩, h.given⟩
    exact iff_of_false (pool.release_ne_detach c).symm hdetached
  · have hreturns := hstate.2 hopened
    rw [if_neg hopened]
    exact ⟨⟨rfl, iff_of_true rfl hreturns, fun hnot => absurd hreturns hnot⟩, h.given⟩

/-- Closing a session whose transaction is not open gives no command. -/
theorem close (h : Holds c state pool given w) (hreturns : Returns given)
    (hstate : state ≠ .opened) :
    ∃ w', TxDatabase.close server.logged w = (.ok (), w') ∧ Disposed c pool given w' ∧
      commands w'.database.server.entries = given := by
  refine ⟨w.drop, ?_, h.drop (iff_of_true hreturns hstate)⟩
  rw [close_eq, h.state, if_neg hstate]

/-- Closing a session whose transaction is open rolls it back, once. -/
theorem close_opened (h : Holds c .opened pool given w) :
    ∃ refusal w', TxDatabase.close server.logged w = (answered refusal, w') ∧
      Disposed c pool (given ++ [Command.rollback.given c refusal]) w' ∧
      commands w'.database.server.entries = given ++ [Command.rollback.given c refusal] := by
  obtain ⟨refusal, w', hcontrol, hholds⟩ := Holds.control server .rollback h
  refine ⟨refusal, w'.drop, ?_, hholds.drop ?_⟩
  · rw [close_eq, h.state, if_pos rfl, hcontrol]
  · rw [returns_append_given]
    cases refusal with
    | none => exact iff_of_true (.inl rfl) nofun
    | some e => exact iff_of_false (by rintro (h | h) <;> cases h) (fun hne => hne rfl)

end Holds

end Postgres

namespace Transaction.Task

/-- The transaction begins, and the body of the task comes to an outcome. -/
def ComesTo {σ : Type} (observe : μ → σ → σ) (db : Connector σ) (task : Task μ α) (s : σ)
    (o : Outcome α) : Prop :=
  ∃ tx t t', db.Opens s tx t ∧ task.Halts observe tx.toSession t o t'

/-- The commands that a task gives on its connection, by its result. -/
inductive Controlled (task : Task μ α) (comesTo : Outcome α → Prop) (c : ConnectionId) :
    Outcome α → List Exchange → Prop
  | unbegun (e) : Controlled task comesTo c (.error e.toError) [Command.begin.given c (some e)]
  | ended {a ending} (hbody : comesTo (.ok a)) (hending : task.ending a = some ending) :
      Controlled task comesTo c (.ok a) [Command.begin.given c none, ending.command.given c none]
  | refused {a ending} (hbody : comesTo (.ok a)) (hending : task.ending a = some ending)
      (e refusal) : Controlled task comesTo c (.error e.toError)
        [Command.begin.given c none, ending.command.given c (some e),
          Command.rollback.given c refusal]
  | failed {o e} (hbody : comesTo o) (hfailed : o.recovered = .error e) (refusal) :
      Controlled task comesTo c (.error e)
        [Command.begin.given c none, Command.rollback.given c refusal]

/-- A call other than a statement did not find its transaction in a wrong state. -/
def Fits (ev : Event) : Prop :=
  ev.call.isStatement = false →
    ∀ command state, ev.ended ≠ .failed (.config (.wrongState command state))

/-- What the result of a task, the commands on its connection and its calls have to do with each
other, and what becomes of the connection. -/
structure Governed (task : Task μ α) (comesTo : Outcome α → Prop) (c : ConnectionId) (pool : Pool)
    (result : Outcome α) (given : List Exchange) (events : List Event) (final : TxDatabase ω) :
    Prop where
  controlled : task.Controlled comesTo c result given
  disposed : Disposed c pool given final
  fits : ∀ ev ∈ events, Fits ev

theorem fits_answered (call : Call) (refusal : Option ServerError) :
    Fits ⟨call, (answered refusal).ended⟩ := by
  intro _ command state hended
  cases refusal with
  | none => cases hended
  | some e => exact e.toError_ne_config _ (Ended.failed.inj hended)

theorem fits_append_answered {calls : List Event} (hcalls : ∀ ev ∈ calls, Fits ev) (call : Call)
    (refusal : Option ServerError) :
    ∀ ev ∈ calls ++ [⟨call, (answered refusal).ended⟩], Fits ev :=
  List.forall_mem_append.2 ⟨hcalls, List.forall_mem_singleton.2 (fits_answered call refusal)⟩

theorem fits_of_isStatement {log : List Event} (hlog : ∀ ev ∈ log, ev.call.isStatement = true) :
    ∀ ev ∈ log, Fits ev := by
  intro ev hmem hcall
  rw [hlog ev hmem] at hcall
  cases hcall

theorem settle_eq_control (server : Server ω) (dialect : Dialect) (ending : Ending) :
    settle (session server dialect) (some ending) = control server ending.command := by
  cases ending <;> rfl

variable {observe : μ → ω → ω} {server : Server ω} {dialect : Dialect} {task : Task μ α}
  {budget : Nat} {comesTo : Outcome α → Prop} {c : ConnectionId} {pool : Pool}

/-- What governs a transaction that began on a connection. -/
theorem Conducted.governed {w w' : TxDatabase (Recorded ω Exchange)} {result : Except Error α}
    {events : List Event}
    (hconducted : task.Conducted (observing (unlogged observe)) budget
      (session server.logged dialect) w result events w')
    (hholds : Holds c .opened pool [Command.begin.given c none] w)
    (hbody : ∀ o t, (task.body budget).run (observing (unlogged observe))
      (session server.logged dialect).toSession w = (o, t) →
        comesTo o ∧ ∀ a, o = .ok a → task.ending a ≠ none) :
    task.Governed comesTo c pool (.ofExcept result)
      (commands (close server.logged w').2.database.server.entries)
      (events ++ [⟨.close, (close server.logged w').1.ended⟩]) (close server.logged w').2 := by
  have hran := hholds.run server observe dialect (task.body budget)
  have hstatements := fits_of_isStatement (Program.isStatement_of_mem_log
    (observing (unlogged observe)) (session server.logged dialect).toSession (task.body budget) w)
  have hfailed : ∀ {o e t}, (task.body budget).run (observing (unlogged observe))
      (session server.logged dialect).toSession w = (o, t) → o.recovered = .error e →
      task.Governed comesTo c pool (.error e)
        (commands (close server.logged t).2.database.server.entries)
        ((task.body budget).log (observing (unlogged observe))
          (session server.logged dialect).toSession w ++
            [⟨.close, (close server.logged t).1.ended⟩]) (close server.logged t).2 := by
    intro o e t hrun herror
    rw [hrun] at hran
    obtain ⟨refusal, w₂, hclose, hdisposed, hgiven⟩ := hran.close_opened server
    rw [hclose, hgiven]
    exact ⟨.failed (hbody o t hrun).1 herror refusal, hdisposed,
      fits_append_answered hstatements .close refusal⟩
  cases hconducted with
  | failed hrun => exact hfailed hrun rfl
  | panicked hrun => exact hfailed hrun rfl
  | unsettled hrun hending => exact absurd hending ((hbody _ _ hrun).2 _ rfl)
  | @settled a ending o t t' hrun hending hsettle =>
      obtain ⟨hcomes, -⟩ := hbody _ _ hrun
      rw [hrun] at hran
      rw [settle_eq_control] at hsettle
      rw [← ending.command_source] at hran
      obtain ⟨refusal, w₂, hcontrol, hgave⟩ := hran.control server
      cases hsettle.symm.trans hcontrol
      cases refusal with
      | none =>
          have hended : ending.command.target ≠ .opened := by
            rw [ending.command_target]
            nofun
          obtain ⟨w₃, hclose, hdisposed, hgiven⟩ :=
            hgave.close server ((returns_append_given _ _ _ _).2 (.inl rfl)) hended
          rw [hclose, hgiven]
          refine ⟨.ended hcomes hending, hdisposed, ?_⟩
          exact fits_append_answered (fits_append_answered hstatements ending.call none) .close none
      | some e =>
          rw [Command.after, ending.command_source] at hgave
          obtain ⟨refusal, w₃, hclose, hdisposed, hgiven⟩ := hgave.close_opened server
          rw [hclose, hgiven]
          refine ⟨.refused hcomes hending e refusal, hdisposed, ?_⟩
          exact fits_append_answered (fits_append_answered hstatements ending.call (some e)) .close
            refusal

theorem History.governed {w : TxDatabase ω} {database : Database ω} {result : Outcome α}
    {events : List Event} {w' : TxDatabase (Recorded ω Exchange)}
    (hhistory : task.History (observing (unlogged observe)) (connector server.logged dialect)
      budget w.logged result events w')
    (hacquire : Database.acquire server w.database = (.ok c, database))
    (hbody : ∀ s o t, (connector server.logged dialect).Opens w.logged
      (session server.logged dialect) s → (task.body budget).run (observing (unlogged observe))
        (session server.logged dialect).toSession s = (o, t) →
          comesTo o ∧ ∀ a, o = .ok a → task.ending a ≠ none) :
    task.Governed comesTo c database.pool result (commands w'.database.server.entries) events
      w' := by
  have hgot : (connector server.logged dialect).acquire w.logged = (.ok (session server.logged
      dialect), ⟨⟨⟨database.server, []⟩, database.pool⟩, some c, .idle, dialect⟩) := by
    change acquire server.logged dialect w.logged = _
    rw [acquire_eq, show Database.acquire server.logged w.logged.database = _ from
      Database.acquire_logged hacquire []]
  have hholds : Holds c Command.begin.source database.pool []
      ⟨⟨⟨database.server, []⟩, database.pool⟩, some c, .idle, dialect⟩ := ⟨rfl, rfl, rfl, rfl⟩
  obtain ⟨refusal, w₂, hcontrol, hbegan⟩ := hholds.control server
  cases hhistory with
  | refused hrefused => cases hgot.symm.trans hrefused
  | unbegun hacquired hbegin =>
      cases hgot.symm.trans hacquired
      have hrefused := hcontrol.symm.trans hbegin
      cases refusal with
      | none => cases hrefused
      | some e =>
          cases hrefused
          obtain ⟨w₃, hclose, hdisposed, hgiven⟩ :=
            hbegan.close server ((returns_append_given _ _ _ _).2 (.inr rfl)) nofun
          change task.Governed comesTo c database.pool (.error e.toError)
            (commands (close server.logged w₂).2.database.server.entries)
            [⟨.acquire, .ok⟩, ⟨.begin, .failed e.toError⟩,
              ⟨.close, (close server.logged w₂).1.ended⟩] (close server.logged w₂).2
          rw [hclose, hgiven]
          refine ⟨.unbegun e, hdisposed, ?_⟩
          exact List.forall_mem_cons.2 ⟨fits_answered _ none, List.forall_mem_cons.2
            ⟨fits_answered _ (some e), List.forall_mem_singleton.2 (fits_answered _ none)⟩⟩
  | begun hopens hconducted =>
      obtain ⟨w₁, hacquired, hbegin⟩ := id hopens
      cases hgot.symm.trans hacquired
      have hbegun := hcontrol.symm.trans hbegin
      cases refusal with
      | some e => cases hbegun
      | none =>
          cases hbegun
          obtain ⟨hcontrolled, hdisposed, hfits⟩ :=
            hconducted.governed hbegan fun o t hrun => hbody _ o t hopens hrun
          refine ⟨hcontrolled, hdisposed, ?_⟩
          exact List.forall_mem_cons.2 ⟨fits_answered _ none,
            List.forall_mem_cons.2 ⟨fits_answered _ none, hfits⟩⟩

theorem Governed.of_logs {w : TxDatabase ω} {r : TxDatabase (Recorded ω Exchange)}
    {result : Outcome α} {given : List Exchange} {events : List Event} (hlogs : Logs w r)
    (h : task.Governed comesTo c pool result given events r) :
    task.Governed comesTo c pool result given events w where
  controlled := h.controlled
  disposed :=
    ⟨(congrArg TxConnection.connection hlogs.tx).trans h.disposed.connection,
      hlogs.pool ▸ h.disposed.returned,
      fun hdetached => hlogs.pool.trans (h.disposed.detached hdetached)⟩
  fits := h.fits

/-- The commands of a task that terminates, with every budget of steps that is large enough. -/
theorem governed_of_terminates {w : TxDatabase ω}
    (hterminates : task.Terminates (observing observe) (connector server dialect) w) :
    ∃ least, ∀ budget, least ≤ budget → ∀ c database,
      Database.acquire server w.database = (.ok c, database) →
        task.Governed (task.ComesTo (observing observe) (connector server dialect) w) c
          database.pool (task.run (observing observe) (connector server dialect) budget w).1
          (commands (task.exchanges observe server dialect budget w))
          (task.log (observing observe) (connector server dialect) budget w)
          (task.run (observing observe) (connector server dialect) budget w).2 := by
  obtain ⟨least, hleast⟩ := hterminates.exists_budget
  refine ⟨least, ?_⟩
  intro budget hbudget c database hacquire
  obtain ⟨hresult, hlogs⟩ := task.run_logged_server observe server dialect budget w
  have hlog : task.log (observing observe) (connector server dialect) budget w =
      task.log (observing (unlogged observe)) (connector server.logged dialect) budget w.logged :=
    task.log_eq_of_relates (logged_connector_relates observe server dialect) budget ⟨rfl, rfl, rfl⟩
  have hcalm : (task.run (observing (unlogged observe)) (connector server.logged dialect)
      budget).Calm := run_calm (connector_calm server.logged dialect) task budget
  have hhistory := history (hcalm w.logged)
  rw [hresult, hlog]
  refine (hhistory.governed hacquire ?_).of_logs hlogs
  intro s o t hopens hrun
  obtain ⟨s', hplain, hsame⟩ := of_opens_logged hopens
  obtain ⟨hended, -⟩ := Program.run_relates
    (logged_session_relates observe server dialect).toRelates (task.body budget) s' s hsame
  rw [hrun] at hended
  have hends : ∀ a, o = .ok a → task.ending a ≠ none := fun a ha =>
    hleast budget hbudget _ _ hplain a (hended.trans ha)
  exact ⟨⟨_, s', _, hplain, halts_of_run (Prod.ext hended rfl) hends⟩, hends⟩

namespace ControlWitness

/-- What a server says that cannot commit. -/
def conflict : ServerError := ⟨"40001", "could not serialize access", none⟩

/-- A server that refuses to commit, and a pool without connections. -/
def shop : TxDatabase ServerScript :=
  ⟨⟨{ replies := [], failing := [("COMMIT", conflict)] }, {}⟩, {}⟩

/-- A step whose continuation commits. -/
def checkout : Task Empty (Option Ending) :=
  .chain .empty (Step.void.andThen fun _ => .done .commit)

theorem checkout_terminates : checkout.Terminates (observing fun _ s => s)
    (connector ServerScript.server .postgres) shop := by
  rintro tx t ⟨w, hacquire, hbegin⟩
  cases hacquire
  cases hbegin
  exact ⟨.ok (some .committed), _, .ok .committed, rfl, .commits rfl rfl rfl rfl⟩

end ControlWitness

open ControlWitness in
theorem governed_refused_commit :
    checkout.Terminates (observing fun _ s => s) (connector ServerScript.server .postgres) shop ∧
    commands (checkout.exchanges (fun _ s => s) ServerScript.server .postgres 1 shop) =
      [Command.begin.given 0 none, Command.commit.given 0 (some conflict),
        Command.rollback.given 0 none] ∧
    ∃ database, Database.acquire ServerScript.server shop.database = (.ok 0, database) ∧
    ∃ least, ∀ budget, least ≤ budget →
      checkout.Governed
        (checkout.ComesTo (observing fun _ s => s) (connector ServerScript.server .postgres) shop) 0
        database.pool
        (checkout.run (observing fun _ s => s) (connector ServerScript.server .postgres) budget
          shop).1
        (commands (checkout.exchanges (fun _ s => s) ServerScript.server .postgres budget shop))
        (checkout.log (observing fun _ s => s) (connector ServerScript.server .postgres) budget
          shop)
        (checkout.run (observing fun _ s => s) (connector ServerScript.server .postgres) budget
          shop).2 := by
  obtain ⟨least, hleast⟩ := governed_of_terminates checkout_terminates
  exact ⟨checkout_terminates, rfl, _, rfl, least,
    fun budget hbudget => hleast budget hbudget 0 _ rfl⟩

end Transaction.Task

end SqlPipeline
