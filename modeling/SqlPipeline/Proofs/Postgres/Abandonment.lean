import SqlPipeline.Proofs.Postgres.Exchange

/-!
Transaction sessions whose commands may be given up.

Whoever holds a session may give up a command while its answer is awaited. The server has executed
it by then, but the session, which follows the answers alone, stays as it was. Main statements:
unless a begin was given up, a connection is given back only when no transaction is open on it; and
after a begin that was given up, dropping the session gives back a connection on which a transaction
is open.
-/

namespace SqlPipeline.Postgres

open TxDatabase

variable {ω α : Type}

/-- Something that is done with a transaction session. -/
inductive Use
  | give (command : Command)
  /-- The command is given, and given up before its answer comes. -/
  | abandon (command : Command)
  | query (sql : String) (params : List Value)
  | execute (sql : String) (params : List Value)
  | stream (sql : String) (params : List Value)
  | close
  /-- The session is closed, and that is given up before it has ended. -/
  | abandonClose
  | drop

/-- The text of a statement that is run. -/
def Use.sql? : Use → Option String
  | .query sql _ | .execute sql _ | .stream sql _ => some sql
  | _ => none

section Perform

variable (server : Server ω) (dialect : Dialect)

/-- Closing a session up to the answer that it awaits, after which the session is dropped. -/
def requestClose (w : TxDatabase ω) : TxDatabase ω :=
  (if w.tx.state = .opened then (request server .rollback w).2 else w).drop

/-- What is left of a session and its database. -/
def perform (w : TxDatabase ω) : Use → TxDatabase ω
  | .give command => (control server command w).2
  | .abandon command => (request server command w).2
  | .query sql params => ((session server dialect).query sql params w).2
  | .execute sql params => ((session server dialect).execute sql params w).2
  | .stream sql params => ((session server dialect).stream sql params w).2
  | .close => (TxDatabase.close server w).2
  | .abandonClose => requestClose server w
  | .drop => w.drop

end Perform

/-- A server executes a begin by entering a transaction, and a commit or a roll-back by leaving it.
A refused command enters none, and neither does a statement whose text controls no transaction. -/
structure Server.Brackets (server : Server ω) (inside : ConnectionId → ω → Prop)
    (plain : String → Prop) : Prop where
  begins : ∀ c s t, server.command c Command.begin.sql s = (.ok (), t) → inside c t
  ends : ∀ c (command : Command) s t, command ≠ .begin →
    server.command c command.sql s = (.ok (), t) → ¬ inside c t
  refuses : ∀ c (command : Command) s e t, server.command c command.sql s = (.error e, t) →
    inside c t → inside c s
  prepares : ∀ c sql s answer t, plain sql → server.prepare c sql s = (answer, t) → inside c t →
    inside c s
  names : ∀ c sql s statement t, server.prepare c sql s = (.ok statement, t) → statement.sql = sql
  executes : ∀ c statement cells s reply t, plain statement.sql →
    server.execute c statement cells s = (reply, t) → inside c t → inside c s

/-- A session that holds its connection, and knows when a transaction is open on it. -/
structure Knows (inside : ConnectionId → ω → Prop) (c : ConnectionId) (pool : Pool)
    (w : TxDatabase ω) : Prop where
  held : w.tx.connection = some c
  pool : w.database.pool = pool
  known : inside c w.database.server → w.tx.state = .opened

/-- What became of the connection of a session: it is still held, with a transaction open on it only
if the session knows, or it was given back without one, or it was given up. -/
inductive Kept (inside : ConnectionId → ω → Prop) (c : ConnectionId) (pool : Pool)
    (w : TxDatabase ω) : Prop
  | held (hknows : Knows inside c pool w)
  | returned (hleft : w.tx.connection = none) (hpool : w.database.pool = pool.release c)
      (hended : ¬ inside c w.database.server)
  | detached (hleft : w.tx.connection = none) (hpool : w.database.pool = pool.detach)

variable {server : Server ω} {dialect : Dialect} {inside : ConnectionId → ω → Prop}
  {plain : String → Prop} {c : ConnectionId} {pool : Pool} {w : TxDatabase ω}

/-- An exchange for a statement that controls no transaction enters none. -/
theorem inside_of_exchange (hbrackets : server.Brackets inside plain) {sql : String}
    (hsql : plain sql) (params : List Value) {s : ω}
    (h : inside c (exchange server c sql params s).2) : inside c s := by
  rcases hexchange : exchange server c sql params s with ⟨o, t⟩
  rw [hexchange] at h
  cases exchanged_of_eq hexchange with
  | unsent e => exact h
  | refused hprepare => exact hbrackets.prepares c sql s _ t hsql hprepare h
  | unencoded e hprepare => exact hbrackets.prepares c sql s _ t hsql hprepare h
  | @executed statement t' cells reply t hprepare hexecute =>
      have hname := hbrackets.names c sql s statement t' hprepare
      have hinside := hbrackets.executes c statement cells t' reply t (hname ▸ hsql) hexecute h
      exact hbrackets.prepares c sql s _ t' hsql hprepare hinside

/-- A session that holds no connection leaves everything as it is. -/
theorem perform_of_none (hleft : w.tx.connection = none) (use : Use) :
    perform server dialect w use = w := by
  have hdrop : w.drop = w := by
    rw [TxDatabase.drop, hleft]
  have hcontrol : ∀ command, (control server command w).2 = w := by
    intro command
    rw [control_eq, hleft]
    split <;> rfl
  have hrequest : ∀ command, (request server command w).2 = w := by
    intro command
    rw [request_eq, hleft]
    split <;> rfl
  have hstatement : ∀ {β : Type} (x : ConnectionId → Action ω β), (onConnection x w).2 = w := by
    intro β x
    rw [onConnection_eq, hleft]
  cases use with
  | give command => exact hcontrol command
  | abandon command => exact hrequest command
  | query sql params => exact hstatement _
  | execute sql params => exact hstatement _
  | stream sql params => exact hstatement _
  | close =>
      change (TxDatabase.close server w).2 = w
      rw [close_eq, hcontrol]
      split <;> exact hdrop
  | abandonClose =>
      change requestClose server w = w
      rw [requestClose, hrequest, ite_self]
      exact hdrop
  | drop => exact hdrop

namespace Knows

theorem drop (h : Knows inside c pool w) : Kept inside c pool w.drop := by
  rw [TxDatabase.drop, h.held]
  dsimp only
  by_cases hstate : w.tx.state = .opened
  · rw [if_pos hstate, h.pool]
    exact .detached rfl rfl
  · rw [if_neg hstate, h.pool]
    exact .returned rfl rfl fun hinside => hstate (h.known hinside)

theorem control (h : Knows inside c pool w) (hbrackets : server.Brackets inside plain)
    (command : Command) : Knows inside c pool (TxDatabase.control server command w).2 := by
  rw [control_eq]
  by_cases hstate : w.tx.state = command.source
  · rw [if_pos hstate, h.held]
    dsimp only
    rcases hcommand : server.command c command.sql w.database.server with ⟨e | _, s⟩
    · refine ⟨h.held, h.pool, ?_⟩
      intro hinside
      exact h.known (hbrackets.refuses c command _ e s hcommand hinside)
    · refine ⟨h.held, h.pool, ?_⟩
      intro hinside
      cases command with
      | begin => rfl
      | commit => exact absurd hinside (hbrackets.ends c .commit _ s nofun hcommand)
      | rollback => exact absurd hinside (hbrackets.ends c .rollback _ s nofun hcommand)
  · rw [if_neg hstate]
    exact h

/-- A session that has sent a command other than a begin is open, whatever comes of it. -/
theorem request (h : Knows inside c pool w) {command : Command} (hcommand : command ≠ .begin) :
    Knows inside c pool (TxDatabase.request server command w).2 := by
  have hsource : command.source = .opened := by
    cases command with
    | begin => exact absurd rfl hcommand
    | commit => rfl
    | rollback => rfl
  rw [request_eq, hsource]
  by_cases hstate : w.tx.state = .opened
  · rw [if_pos hstate, h.held]
    exact ⟨h.held, h.pool, fun _ => hstate⟩
  · rw [if_neg hstate]
    exact h

theorem statement (h : Knows inside c pool w) (hbrackets : server.Brackets inside plain)
    {sql : String} (hsql : plain sql) (params : List Value)
    {read : Prepared × Reply → Action ω α} (hread : ∀ a s, (read a s).2 = s) :
    Knows inside c pool (onConnection (fun c => (exchange server c sql params).bind read) w).2 := by
  rw [onConnection_eq, h.held]
  refine ⟨h.held, h.pool, ?_⟩
  intro hinside
  dsimp only at hinside
  rw [withServer_server, Action.bind_snd_of_read _ _ hread] at hinside
  exact h.known (inside_of_exchange hbrackets hsql params hinside)

theorem perform (h : Knows inside c pool w) (hbrackets : server.Brackets inside plain) (use : Use)
    (htext : ∀ sql, use.sql? = some sql → plain sql) (hbegin : use ≠ .abandon .begin) :
    Kept inside c pool (Postgres.perform server dialect w use) := by
  cases use with
  | give command => exact .held (h.control hbrackets command)
  | abandon command => exact .held (h.request fun hcommand => hbegin (hcommand ▸ rfl))
  | query sql params =>
      exact .held (h.statement hbrackets (htext sql rfl) params fun _ _ => rfl)
  | execute sql params =>
      exact .held (h.statement hbrackets (htext sql rfl) params fun _ _ => rfl)
  | stream sql params =>
      exact .held (h.statement hbrackets (htext sql rfl) params fun _ _ => rfl)
  | close =>
      change Kept inside c pool (TxDatabase.close server w).2
      rw [close_eq]
      split
      · exact (h.control hbrackets .rollback).drop
      · exact h.drop
  | abandonClose =>
      change Kept inside c pool (requestClose server w)
      have hcommand : Command.rollback ≠ .begin := nofun
      rw [requestClose]
      split
      · exact (h.request hcommand).drop
      · exact h.drop
  | drop => exact h.drop

end Knows

/-- One more use keeps an open transaction out of the pool. -/
theorem Kept.perform (h : Kept inside c pool w) (hbrackets : server.Brackets inside plain)
    (use : Use) (htext : ∀ sql, use.sql? = some sql → plain sql)
    (hbegin : use ≠ .abandon .begin) :
    Kept inside c pool (Postgres.perform server dialect w use) := by
  cases h with
  | held hknows => exact hknows.perform hbrackets use htext hbegin
  | returned hleft hpool hended =>
      rw [perform_of_none hleft]
      exact .returned hleft hpool hended
  | detached hleft hpool =>
      rw [perform_of_none hleft]
      exact .detached hleft hpool

/-- Whatever is done with a session, unless a begin is given up: its connection is not given back
while a transaction is open on it. -/
theorem kept_of_uses (hbrackets : server.Brackets inside plain) {database : Database ω}
    (hacquire : Database.acquire server w.database = (.ok c, database))
    (hidle : ¬ inside c database.server) (uses : List Use)
    (htexts : ∀ use ∈ uses, ∀ sql, use.sql? = some sql → plain sql)
    (hbegin : .abandon .begin ∉ uses) :
    Kept inside c database.pool
      (uses.foldl (perform server dialect) (acquire server dialect w).2) := by
  have hkept : ∀ w', Kept inside c database.pool w' →
      Kept inside c database.pool (uses.foldl (perform server dialect) w') := by
    induction uses with
    | nil => exact fun w' h => h
    | cons use rest ih =>
        intro w' h
        rw [List.forall_mem_cons] at htexts
        rw [List.mem_cons, not_or] at hbegin
        exact ih htexts.2 hbegin.2 _ (h.perform hbrackets use htexts.1 (Ne.symm hbegin.1))
  apply hkept
  rw [acquire_eq, hacquire]
  exact .held ⟨rfl, rfl, fun hinside => absurd hinside hidle⟩

/-- A session whose begin was given up does not know that its transaction is open, and gives the
connection back when it is dropped. -/
theorem returned_inside_of_abandoned (hbrackets : server.Brackets inside plain) {s t : ω}
    (hbegin : server.command c Command.begin.sql s = (.ok (), t)) :
    [Use.abandon .begin, .drop].foldl (perform server dialect) ⟨⟨s, pool⟩, some c, .idle, dialect⟩ =
        ⟨⟨t, pool.release c⟩, none, .idle, dialect⟩ ∧ inside c t := by
  refine ⟨?_, hbrackets.begins c s t hbegin⟩
  change (request server .begin ⟨⟨s, pool⟩, some c, .idle, dialect⟩).2.drop = _
  have hsource : TxState.idle = Command.begin.source := rfl
  rw [request_eq, if_pos hsource]
  dsimp only
  rw [hbegin]
  rfl

namespace AbandonmentWitness

/-- A server that accepts everything, as whether a transaction is open on its only connection. -/
def desk : Server Bool where
  connect s := (.ok 0, s)
  prepare _ sql s := (.ok ⟨sql, [], []⟩, s)
  execute _ _ _ s := (⟨[], .ok 1⟩, s)
  command _ sql _ := (.ok (), sql == Command.begin.sql)

def isInside (_ : ConnectionId) (s : Bool) : Prop :=
  s = true

theorem desk_brackets : desk.Brackets isInside fun _ => True where
  begins c s t h := by
    cases h
    rfl
  ends c command s t hcommand h := by
    cases command with
    | begin => exact absurd rfl hcommand
    | commit =>
        cases h
        exact nofun
    | rollback =>
        cases h
        exact nofun
  refuses c command s e t h := by cases h
  prepares c sql s answer t _ h hinside := by
    cases h
    exact hinside
  names c sql s statement t h := by
    cases h
    rfl
  executes c statement cells s reply t _ h hinside := by
    cases h
    exact hinside

def start : TxDatabase Bool :=
  ⟨⟨false, {}⟩, {}⟩

/-- A commit that is given up, and then the session is dropped. -/
def uses : List Use :=
  [.give .begin, .execute "DELETE FROM cart" [], .abandon .commit, .drop]

end AbandonmentWitness

open AbandonmentWitness in
theorem kept_abandoned_commit :
    desk.Brackets isInside (fun _ => True) ∧ Use.abandon .begin ∉ uses ∧
    ∃ database, Database.acquire desk start.database = (.ok 0, database) ∧
      ¬ isInside 0 database.server ∧
      Kept isInside 0 database.pool
        (uses.foldl (perform desk .postgres) (acquire desk .postgres start).2) ∧
      (uses.foldl (perform desk .postgres) (acquire desk .postgres start).2).database.pool =
        database.pool.detach := by
  have hbegin : Use.abandon .begin ∉ uses := by simp [uses]
  have hidle : ¬ isInside 0 false := Bool.false_ne_true
  exact ⟨desk_brackets, hbegin, ⟨false, { owned := 1 }⟩, rfl, hidle,
    kept_of_uses desk_brackets rfl hidle uses (fun _ _ _ _ => trivial) hbegin, rfl⟩

open AbandonmentWitness in
theorem returned_inside_desk :
    desk.Brackets isInside (fun _ => True) ∧
    ∃ final, [Use.abandon .begin, .drop].foldl (perform desk .postgres)
        (acquire desk .postgres start).2 = final ∧
      final.tx.connection = none ∧ 0 ∈ final.database.pool.idle ∧
      isInside 0 final.database.server := by
  obtain ⟨hfinal, hinside⟩ := returned_inside_of_abandoned (c := 0) (s := false) (t := true)
    desk_brackets rfl
  exact ⟨desk_brackets, _, hfinal, rfl, .head _, hinside⟩

end SqlPipeline.Postgres
