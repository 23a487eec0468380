import SqlPipeline.Proofs.Postgres.Exchange
import SqlPipeline.Proofs.Transaction.Strict

/-!
What a reported commit is worth.

A server keeps for each connection how it stands with its transaction. A statement that is refused
fails the transaction: what follows is refused too, and a commit is answered well and publishes
nothing. Main statement: a run that answers that it committed has published the writes that the
server acknowledged, if none of its statements was refused, and nothing at all otherwise; a body
that gives up on the first error, as a list of works does, cannot report a commit after a refusal.
-/

namespace SqlPipeline

open Postgres TxDatabase

variable {μ ω δ α β : Type}

namespace Postgres

/-- How a connection stands with its transaction. -/
inductive Standing
  | idle
  | opened
  | failed
  deriving DecidableEq

/-- What a state of a server says of transactions and their content, and what a statement that is
executed does to content. -/
structure Ledger (ω δ : Type) where
  standing : ConnectionId → ω → Standing
  published : ω → δ
  /-- What the transaction of a connection has made of the content. -/
  working : ConnectionId → ω → δ
  apply : String → List Cell → δ → δ

namespace Ledger

variable (ledger : Ledger ω δ) (c : ConnectionId)

/-- The content that a transaction of a connection starts from, or goes on from if one is open. -/
def base (s : ω) : δ :=
  match ledger.standing c s with
  | .idle => ledger.published s
  | _ => ledger.working c s

/-- The content after some writes. -/
def replay (writes : List (String × List Cell)) (content : δ) : δ :=
  writes.foldl (fun content write => ledger.apply write.1 write.2 content) content

structure Same (s t : ω) : Prop where
  standing : ledger.standing c t = ledger.standing c s
  published : ledger.published t = ledger.published s
  working : ledger.working c t = ledger.working c s

/-- The transaction of the connection fails. -/
structure Fails (s t : ω) : Prop where
  standing : ledger.standing c t = .failed
  published : ledger.published t = ledger.published s

end Ledger

/-- The rule of transactions: in a transaction a statement changes the working copy, and one that is
refused fails the transaction; in a failed one every statement is refused, and a commit is answered
well but publishes nothing. The rule is about statements whose text controls no transaction. -/
structure Server.Transacts (server : Server ω) (ledger : Ledger ω δ) (plain : String → Prop) :
    Prop where
  begins : ∀ c s t, server.command c Command.begin.sql s = (.ok (), t) →
    ledger.standing c t = .opened ∧ ledger.published t = ledger.published s ∧
      ledger.working c t = ledger.base c s
  prepares : ∀ c sql s statement t, plain sql → ledger.standing c s ≠ .idle →
    server.prepare c sql s = (.ok statement, t) →
      ledger.standing c s = .opened ∧ ledger.Same c s t ∧ statement.sql = sql
  refuses : ∀ c sql s e t, plain sql → ledger.standing c s ≠ .idle →
    server.prepare c sql s = (.error e, t) → ledger.Fails c s t
  executes : ∀ c statement cells s rows n t, plain statement.sql → ledger.standing c s ≠ .idle →
    server.execute c statement cells s = (⟨rows, .ok n⟩, t) →
      ledger.standing c s = .opened ∧ ledger.standing c t = .opened ∧
        ledger.published t = ledger.published s ∧
        ledger.working c t = ledger.apply statement.sql cells (ledger.working c s)
  fails : ∀ c statement cells s rows e t, plain statement.sql → ledger.standing c s ≠ .idle →
    server.execute c statement cells s = (⟨rows, .error e⟩, t) → ledger.Fails c s t
  commits : ∀ c s t, ledger.standing c s = .opened →
    server.command c Command.commit.sql s = (.ok (), t) →
      ledger.published t = ledger.working c s
  aborts : ∀ c s, ledger.standing c s = .failed → ∃ t,
    server.command c Command.commit.sql s = (.ok (), t) ∧ ledger.standing c t = .idle ∧
      ledger.published t = ledger.published s

/-- The write that a server acknowledged. -/
def Exchange.write? : Exchange → Option (String × List Cell)
  | .executed _ sql cells none => some (sql, cells)
  | _ => none

/-- The writes that a server acknowledged, in order. -/
def writes (log : List Exchange) : List (String × List Cell) :=
  log.filterMap Exchange.write?

/-- The server refused a statement. -/
def Exchange.isRefusal : Exchange → Bool
  | .prepared _ _ (some _) | .executed _ _ _ (some _) => true
  | _ => false

/-- The texts of all statements have a property. -/
def Texts (plain : String → Prop) (log : List Exchange) : Prop :=
  ∀ c sql refusal, .prepared c sql refusal ∈ log → plain sql

/-- Since a state nothing was published. The transaction has failed if a statement was refused, and
otherwise is open and has got the writes that were acknowledged. -/
structure Ledger.Staged (ledger : Ledger ω δ) (c : ConnectionId) (s : ω)
    (r : Recorded ω Exchange) : Prop where
  published : ledger.published r.state = ledger.published s
  standing : ledger.standing c r.state =
    if r.entries.any Exchange.isRefusal then .failed else .opened
  working : r.entries.any Exchange.isRefusal = false →
    ledger.working c r.state = ledger.replay (writes r.entries) (ledger.base c s)

namespace Ledger.Staged

variable {ledger : Ledger ω δ} {c : ConnectionId} {s t : ω} {r : Recorded ω Exchange}

theorem inside (h : ledger.Staged c s r) : ledger.standing c r.state ≠ .idle := by
  rw [h.standing]
  split <;> nofun

/-- While the transaction is open no statement was refused. -/
theorem unrefused (h : ledger.Staged c s r) (hopened : ledger.standing c r.state = .opened) :
    r.entries.any Exchange.isRefusal = false := by
  rw [h.standing] at hopened
  split at hopened
  · cases hopened
  · exact Bool.eq_false_iff.2 ‹_›

theorem keep (h : ledger.Staged c s r) (hsame : ledger.Same c r.state t) {x : Exchange}
    (hwrite : x.write? = none) (hrefusal : x.isRefusal = false) :
    ledger.Staged c s ⟨t, r.entries ++ [x]⟩ := by
  have hany : (r.entries ++ [x]).any Exchange.isRefusal = r.entries.any Exchange.isRefusal := by
    rw [List.any_append, List.any_cons, hrefusal]
    exact Bool.or_false _
  have hwrites : writes (r.entries ++ [x]) = writes r.entries := by
    rw [writes, List.filterMap_append, List.filterMap_cons_none hwrite]
    exact List.append_nil _
  refine ⟨hsame.published.trans h.published, ?_, ?_⟩
  · rw [hany]
    exact hsame.standing.trans h.standing
  · intro hnone
    rw [hany] at hnone
    rw [hwrites]
    exact hsame.working.trans (h.working hnone)

theorem refuse (h : ledger.Staged c s r) (hfails : ledger.Fails c r.state t) {x : Exchange}
    (hrefusal : x.isRefusal = true) : ledger.Staged c s ⟨t, r.entries ++ [x]⟩ := by
  have hany : (r.entries ++ [x]).any Exchange.isRefusal = true := by
    rw [List.any_append, List.any_cons, hrefusal]
    exact Bool.or_true _
  refine ⟨hfails.published.trans h.published, ?_, ?_⟩
  · rw [hany]
    exact hfails.standing
  · intro hnone
    rw [hany] at hnone
    cases hnone

theorem write (h : ledger.Staged c s r) (hopened : ledger.standing c r.state = .opened)
    (hstanding : ledger.standing c t = .opened)
    (hpublished : ledger.published t = ledger.published r.state) {sql : String} {cells : List Cell}
    (hworking : ledger.working c t = ledger.apply sql cells (ledger.working c r.state)) :
    ledger.Staged c s ⟨t, r.entries ++ [.executed c sql cells none]⟩ := by
  have hnone := h.unrefused hopened
  have hany :
      (r.entries ++ [Exchange.executed c sql cells none]).any Exchange.isRefusal = false := by
    rw [List.any_append, hnone]
    rfl
  refine ⟨hpublished.trans h.published, ?_, ?_⟩
  · rw [hany]
    exact hstanding
  · intro _
    have hwrites : writes (r.entries ++ [.executed c sql cells none]) =
        writes r.entries ++ [(sql, cells)] := List.filterMap_append
    rw [hworking, h.working hnone, hwrites, replay, replay, List.foldl_append]
    rfl

end Ledger.Staged

/-- A transaction that begins has published nothing and has got nothing. -/
theorem staged_of_begin {server : Server ω} {ledger : Ledger ω δ} {plain : String → Prop}
    (htransacts : server.Transacts ledger plain) {c : ConnectionId} {s : ω}
    {r : Recorded ω Exchange}
    (hbegin : server.logged.command c Command.begin.sql ⟨s, []⟩ = (.ok (), r)) :
    ledger.Staged c s r ∧ r.entries.any Exchange.isRefusal = false := by
  obtain ⟨hanswer, hentries⟩ := Server.of_logged_command hbegin
  obtain ⟨state, entries⟩ := r
  cases hentries
  obtain ⟨hstanding, hpublished, hworking⟩ := htransacts.begins c s state hanswer
  exact ⟨⟨hpublished, hstanding, fun _ => hworking⟩, rfl⟩

/-- A commit that is answered well publishes the acknowledged writes, or nothing if a statement was
refused. -/
theorem Ledger.Staged.commit {server : Server ω} {ledger : Ledger ω δ} {plain : String → Prop}
    (htransacts : server.Transacts ledger plain) {c : ConnectionId} {s : ω}
    {r r' : Recorded ω Exchange} (h : ledger.Staged c s r)
    (hcommit : server.logged.command c Command.commit.sql r = (.ok (), r')) :
    r'.entries.any Exchange.isRefusal = r.entries.any Exchange.isRefusal ∧
      (r'.entries.any Exchange.isRefusal = true →
        ledger.published r'.state = ledger.published s) ∧
      (r'.entries.any Exchange.isRefusal = false →
        ledger.published r'.state = ledger.replay (writes r'.entries) (ledger.base c s)) := by
  obtain ⟨hanswer, hentries⟩ := Server.of_logged_command hcommit
  have hany : r'.entries.any Exchange.isRefusal = r.entries.any Exchange.isRefusal := by
    rw [hentries, List.any_append]
    exact Bool.or_false _
  have hwrites : writes r'.entries = writes r.entries := by
    rw [hentries, writes, List.filterMap_append]
    exact List.append_nil _
  have hstanding := h.standing
  refine ⟨hany, ?_, ?_⟩ <;> intro hrefused <;> rw [hany] at hrefused
  · rw [if_pos hrefused] at hstanding
    obtain ⟨t, ht, -, hkept⟩ := htransacts.aborts c r.state hstanding
    cases ht.symm.trans hanswer
    exact hkept.trans h.published
  · rw [hrefused, if_neg nofun] at hstanding
    rw [htransacts.commits c r.state r'.state hstanding hanswer, h.working hrefused, hwrites]

theorem Texts.of_append {plain : String → Prop} {old more : List Exchange}
    (h : Texts plain (old ++ more)) : Texts plain old :=
  fun c sql refusal hmem => h c sql refusal (List.mem_append_left more hmem)

/-- An exchange for a statement that controls no transaction leaves the transaction as the log says
that it should. -/
theorem staged_exchange {server : Server ω} {ledger : Ledger ω δ} {plain : String → Prop}
    (htransacts : server.Transacts ledger plain) {c : ConnectionId} {s : ω} (sql : String)
    (params : List Value) {r : Recorded ω Exchange}
    (hr : Texts plain r.entries → ledger.Staged c s r)
    (htexts : Texts plain (exchange server.logged c sql params r).2.entries) :
    ledger.Staged c s (exchange server.logged c sql params r).2 := by
  rcases hexchange : exchange server.logged c sql params r with ⟨o, t⟩
  rw [hexchange] at htexts
  -- The log only grows, so that the texts are plain before the exchange and in the middle of it.
  have hprepared : ∀ {answer t'}, server.logged.prepare c sql r = (answer, t') →
      Texts plain t'.entries → ledger.Staged c s r ∧ plain sql := by
    intro answer t' hprepare htexts
    rw [(Server.of_logged_prepare hprepare).2] at htexts
    exact ⟨hr htexts.of_append, htexts c sql _ (List.mem_append_right _ List.mem_cons_self)⟩
  have haccepted : ∀ {statement t'}, server.logged.prepare c sql r = (.ok statement, t') →
      Texts plain t'.entries → ledger.Staged c s t' ∧ plain statement.sql := by
    intro statement t' hprepare htexts
    obtain ⟨hstaged, hsql⟩ := hprepared hprepare htexts
    obtain ⟨hanswer, hentries⟩ := Server.of_logged_prepare hprepare
    obtain ⟨state, entries⟩ := t'
    cases hentries
    obtain ⟨-, hsame, hname⟩ :=
      htransacts.prepares c sql r.state statement state hsql hstaged.inside hanswer
    exact ⟨hstaged.keep hsame rfl rfl, hname ▸ hsql⟩
  cases exchanged_of_eq hexchange with
  | unsent e => exact hr htexts
  | @refused e t hprepare =>
      obtain ⟨hstaged, hsql⟩ := hprepared hprepare htexts
      obtain ⟨hanswer, hentries⟩ := Server.of_logged_prepare hprepare
      obtain ⟨state, entries⟩ := t
      cases hentries
      exact hstaged.refuse
        (htransacts.refuses c sql r.state e state hsql hstaged.inside hanswer) rfl
  | unencoded e hprepare => exact (haccepted hprepare htexts).1
  | @executed statement t' cells reply t hprepare hexecute =>
      obtain ⟨hreply, hentries⟩ := Server.of_logged_execute hexecute
      rw [hentries] at htexts
      obtain ⟨hstaged, hsql⟩ := haccepted hprepare htexts.of_append
      obtain ⟨state, entries⟩ := t
      cases hentries
      obtain ⟨rows, e | n⟩ := reply
      · exact hstaged.refuse
          (htransacts.fails c statement cells t'.state rows e state hsql hstaged.inside hreply) rfl
      · obtain ⟨hopened, hstanding, hpublished, hworking⟩ :=
          htransacts.executes c statement cells t'.state rows n state hsql hstaged.inside hreply
        exact hstaged.write hopened hstanding hpublished hworking

/-- A program that controls no transaction leaves its transaction as the log says that it should. -/
theorem staged_run {server : Server ω} {observe : μ → ω → ω} {ledger : Ledger ω δ}
    {plain : String → Prop} (htransacts : server.Transacts ledger plain)
    (hnote : ∀ m c s, ledger.Same c s (observe m s)) (dialect : Dialect) (p : Program μ α)
    {c : ConnectionId} {s : ω} {w : TxDatabase (Recorded ω Exchange)}
    (hheld : w.tx.connection = some c) (hstaged : ledger.Staged c s w.database.server) :
    ∃ r, (Texts plain r.entries → ledger.Staged c s r) ∧
      (p.run (observing (unlogged observe)) (session server.logged dialect).toSession w).2 =
        w.withServer r := by
  apply run_keeps (unlogged observe) dialect hheld
    (Q := fun r : Recorded ω Exchange => Texts plain r.entries → ledger.Staged c s r)
  · intro m r hr htexts
    have hbefore := hr htexts
    have hsame := hnote m c r.state
    exact ⟨hsame.published.trans hbefore.published, hsame.standing.trans hbefore.standing,
      fun hnone => hsame.working.trans (hbefore.working hnone)⟩
  · intro sql params r hr
    exact staged_exchange htransacts sql params hr
  · exact fun _ => hstaged

/-- A call that ends well was not refused, if it is answered by what is read off the reply. -/
theorem unrefused_of_ok {server : Server ω} {sql : String} {params : List Value}
    {answer : Prepared × Reply → Outcome β}
    (hanswer : ∀ a b, answer a = .ok b → refusal? a.2.ending = none) {b : β}
    {w w' : TxDatabase (Recorded ω Exchange)}
    (hcall : onConnection (fun c => (exchange server.logged c sql params).bind
      fun a => Action.ofOutcome (answer a)) w = (.ok b, w'))
    (hw : w.database.server.entries.any Exchange.isRefusal = false) :
    w'.database.server.entries.any Exchange.isRefusal = false := by
  rw [onConnection_eq] at hcall
  cases hheld : w.tx.connection with
  | none =>
      rw [hheld] at hcall
      cases hcall
  | some c =>
      rw [hheld] at hcall
      dsimp only at hcall
      rcases hexchange : exchange server.logged c sql params w.database.server with ⟨o, t⟩
      rw [Action.bind, hexchange] at hcall
      cases exchanged_of_eq hexchange with
      | unsent e => cases hcall
      | refused hprepare => cases hcall
      | unencoded e hprepare => cases hcall
      | @executed statement s cells reply t hprepare hexecute =>
          dsimp only at hcall
          cases hresult : answer (statement, reply) with
          | error e | panic p =>
              rw [hresult] at hcall
              cases hcall
          | ok b' =>
              rw [hresult] at hcall
              cases hcall
              change t.entries.any Exchange.isRefusal = false
              rw [(Server.of_logged_execute hexecute).2, (Server.of_logged_prepare hprepare).2,
                hanswer _ _ hresult, List.any_append, List.any_append, hw]
              rfl

theorem refusal?_of_replyRows {statement : Prepared} {reply : Reply} {rows : List Row}
    (h : replyRows statement reply = .ok rows) : refusal? reply.ending = none := by
  rw [replyRows] at h
  cases hending : reply.ending with
  | error e =>
      rw [hending] at h
      cases h
  | ok n => rfl

theorem refusal?_of_replyCount {reply : Reply} {n : Nat} (h : replyCount reply = .ok n) :
    refusal? reply.ending = none := by
  rw [replyCount] at h
  cases hending : reply.ending with
  | error e =>
      rw [hending] at h
      cases h
  | ok n => rfl

/-- A program that gives up on the first error answers only if nothing was refused. -/
theorem unrefused_of_strict {server : Server ω} {observe : μ → ω → ω} {dialect : Dialect}
    {p : Program μ α} (hp : p.Strict) {a : α} {w w' : TxDatabase (Recorded ω Exchange)}
    (hrun : p.run (observing (unlogged observe)) (session server.logged dialect).toSession w =
      (.ok a, w'))
    (hw : w.database.server.entries.any Exchange.isRefusal = false) :
    w'.database.server.entries.any Exchange.isRefusal = false := by
  induction p generalizing w with
  | done b =>
      cases hrun
      exact hw
  | fail e => cases hrun
  | panic p => cases hrun
  | note m next ih => exact ih hp hrun hw
  | dialect next ih => exact ih _ (hp _) hrun hw
  | query sql params next ih =>
      rw [Program.run, Program.afterCall] at hrun
      rcases hquery : (session server.logged dialect).query sql params w with ⟨rows | e | p, w₁⟩ <;>
        rw [hquery] at hrun
      · have hrows : ∀ (a : Prepared × Reply) rows, replyRows a.1 a.2 = .ok rows →
            refusal? a.2.ending = none := fun _ _ => refusal?_of_replyRows
        exact ih (.ok rows) (hp.1 rows) hrun (unrefused_of_ok hrows hquery hw)
      · exact absurd (congrArg Prod.fst hrun) ((hp.2 e).run_ne_ok w₁ a)
      · cases hrun
  | execute sql params next ih =>
      rw [Program.run, Program.afterCall] at hrun
      rcases hexecute : (session server.logged dialect).execute sql params w
        with ⟨n | e | p, w₁⟩ <;> rw [hexecute] at hrun
      · have hcount : ∀ (a : Prepared × Reply) n, replyCount a.2 = .ok n →
            refusal? a.2.ending = none := fun _ _ => refusal?_of_replyCount
        exact ih (.ok n) (hp.1 n) hrun (unrefused_of_ok hcount hexecute hw)
      · exact absurd (congrArg Prod.fst hrun) ((hp.2 e).run_ne_ok w₁ a)
      · cases hrun
  | stream sql params next ih => exact hp.elim

end Postgres

namespace Transaction.Task

/-- The task gives up on the first error of a call. A list of works always does. -/
def GivesUpEarly (budget : Nat) : Task μ α → Prop
  | .chain handlers first => (drive handlers budget first).Strict
  | .pipe arguments f => (drive .empty budget (pipeStep arguments f)).Strict
  | .works _ => True
  | .program p => p.Strict

theorem GivesUpEarly.strict {task : Task μ α} {budget : Nat} (h : task.GivesUpEarly budget) :
    (task.body budget).Strict := by
  cases task with
  | chain handlers first => exact h
  | pipe arguments f => exact h
  | works list => exact Program.strict_executeAll list
  | program p => exact h

/-- What a report of a commit is worth for a transaction of a connection that goes on from a state,
with the log and the state that it leaves. -/
structure Committed (ledger : Ledger ω δ) (task : Task μ α) (budget : Nat) (c : ConnectionId)
    (s : ω) (log : List Exchange) (t : ω) : Prop where
  refused : log.any Exchange.isRefusal = true → ledger.published t = ledger.published s
  unrefused : log.any Exchange.isRefusal = false →
    ledger.published t = ledger.replay (writes log) (ledger.base c s)
  early : task.GivesUpEarly budget → log.any Exchange.isRefusal = false

variable {observe : μ → ω → ω} {server : Server ω} {dialect : Dialect} {task : Task μ α}
  {budget : Nat} {ledger : Ledger ω δ} {plain : String → Prop} {w : TxDatabase ω}

/-- What the report of a commit is worth for a transaction that began. -/
theorem Conducted.committed {w w' : TxDatabase (Recorded ω Exchange)} {result : Except Error α}
    {events : List Event} {c : ConnectionId} {s : ω} (htransacts : server.Transacts ledger plain)
    (hnote : ∀ m c s, ledger.Same c s (observe m s)) (hheld : w.tx.connection = some c)
    (hstaged : ledger.Staged c s w.database.server)
    (hnone : w.database.server.entries.any Exchange.isRefusal = false)
    (hconducted : task.Conducted (observing (unlogged observe)) budget
      (session server.logged dialect) w result events w')
    (htexts : Texts plain (close server.logged w').2.database.server.entries)
    (hcommitted : task.Answers .committed (.ofExcept result)) :
    Committed ledger task budget c s (close server.logged w').2.database.server.entries
      (close server.logged w').2.database.server.state := by
  cases hconducted with
  | failed hbody => exact absurd hcommitted (task.not_answers_error _ _)
  | panicked hbody => exact absurd hcommitted (task.not_answers_error _ _)
  | unsettled hbody hending =>
      obtain ⟨a', ha, hcommits⟩ := hcommitted
      cases ha
      cases hending.symm.trans hcommits
  | @settled a ending o t t' hbody hending hsettle =>
      obtain ⟨a', ha, hcommits⟩ := hcommitted
      cases o with
      | error e => cases ha
      | panic p => cases ha
      | ok _ =>
          cases ha
          cases hending.symm.trans hcommits
          obtain ⟨r, hran, hleft⟩ :=
            staged_run htransacts hnote dialect (task.body budget) hheld hstaged
          rw [hbody] at hleft
          change t = _ at hleft
          subst hleft
          obtain ⟨-, c', r', hheld', hcommit, rfl⟩ := control_eq_ok hsettle
          cases hheld.symm.trans hheld'
          have hclosed : (close server.logged
              (((w.withServer r).withServer r').acknowledge .commit)).2.database.server = r' := by
            rw [close_eq, if_neg nofun]
            exact drop_server _
          rw [hclosed] at htexts ⊢
          have hentries := (Server.of_logged_command hcommit).2
          rw [hentries] at htexts
          obtain ⟨hany, hrefused, hunrefused⟩ := (hran htexts.of_append).commit htransacts hcommit
          refine ⟨hrefused, hunrefused, ?_⟩
          intro hearly
          exact hany.trans (unrefused_of_strict hearly.strict hbody hnone)

/-- A transaction that is reported as committed, and what it published. -/
theorem History.committed {w' : TxDatabase (Recorded ω Exchange)} {result : Outcome α}
    {events : List Event} (htransacts : server.Transacts ledger plain)
    (hnote : ∀ m c s, ledger.Same c s (observe m s))
    (hhistory : task.History (observing (unlogged observe)) (connector server.logged dialect)
      budget w.logged result events w')
    (htexts : Texts plain w'.database.server.entries)
    (hcommitted : task.Answers .committed result) :
    ∃ c database, Database.acquire server w.database = (.ok c, database) ∧
      Committed ledger task budget c database.server w'.database.server.entries
        w'.database.server.state := by
  cases hhistory with
  | refused hacquire => exact absurd hcommitted (task.not_answers_error _ _)
  | unbegun hacquire hbegin => exact absurd hcommitted (task.not_answers_error _ _)
  | begun hopens hconducted =>
      obtain ⟨w₁, hacquire, hbegin⟩ := hopens
      obtain ⟨rfl, c, database, hplain, rfl⟩ := of_acquire_logged hacquire
      obtain ⟨-, c', r, hheld, hbegun, rfl⟩ := control_eq_ok hbegin
      cases hheld
      obtain ⟨hstaged, hnone⟩ := staged_of_begin htransacts hbegun
      exact ⟨c, database, hplain,
        hconducted.committed htransacts hnote rfl hstaged hnone htexts hcommitted⟩

/-- A run that is reported as committed has published the writes that the server acknowledged if
none of its statements was refused, and nothing otherwise. -/
theorem committed_of_answers (htransacts : server.Transacts ledger plain)
    (hnote : ∀ m c s, ledger.Same c s (observe m s))
    (htexts : Texts plain (task.exchanges observe server dialect budget w))
    (hcommitted : task.Answers .committed
      (task.run (observing observe) (connector server dialect) budget w).1) :
    ∃ c database, Database.acquire server w.database = (.ok c, database) ∧
      Committed ledger task budget c database.server
        (task.exchanges observe server dialect budget w)
        (task.run (observing observe) (connector server dialect) budget w).2.database.server := by
  obtain ⟨hresult, hlogs⟩ := task.run_logged_server observe server dialect budget w
  rw [hresult] at hcommitted
  rw [← hlogs.server]
  have hreturns : ∀ p, (task.run (observing (unlogged observe)) (connector server.logged dialect)
      budget w.logged).1 ≠ .panic p := by
    intro p hpanic
    obtain ⟨a, ha, -⟩ := hcommitted
    cases ha.symm.trans hpanic
  exact (history hreturns).committed htransacts hnote htexts hcommitted

namespace CommitmentWitness

/-- A server with one connection, which keeps the statements that it executes. -/
structure Till where
  standing : Standing := .idle
  published : List (String × List Cell) := []
  working : List (String × List Cell) := []

def aborted : ServerError := ⟨"25P02", "current transaction is aborted", none⟩

def missing : ServerError := ⟨"23502", "null value in column left", none⟩

def isControl (sql : String) : Bool :=
  ["BEGIN", "COMMIT", "ROLLBACK"].contains sql

def refusing : String := "INSERT INTO stock VALUES (NULL)"

namespace Till

def command (sql : String) (till : Till) : Except ServerError Unit × Till :=
  match till.standing with
  | .idle =>
    if sql = "BEGIN" then (.ok (), { till with standing := .opened, working := till.published })
    else (.ok (), till)
  | .opened =>
    if sql = "BEGIN" then (.ok (), till)
    else if sql = "COMMIT" then (.ok (), { till with standing := .idle, published := till.working })
    else (.ok (), { till with standing := .idle })
  | .failed =>
    if sql = "BEGIN" then (.error aborted, till)
    else (.ok (), { till with standing := .idle })

def fail (till : Till) : Till :=
  match till.standing with
  | .idle => till
  | _ => { till with standing := .failed }

def prepare (sql : String) (till : Till) : Except ServerError Prepared × Till :=
  if isControl sql then (.ok ⟨sql, [], []⟩, till)
  else if till.standing = .failed then (.error aborted, till)
  else if sql = refusing then (.error missing, till.fail)
  else (.ok ⟨sql, [], []⟩, till)

def execute (statement : Prepared) (cells : List Cell) (till : Till) : Reply × Till :=
  if isControl statement.sql then
    let (answer, till) := till.command statement.sql
    (⟨[], answer.map fun _ => 0⟩, till)
  else
    match till.standing with
    | .idle =>
      (⟨[], .ok 1⟩, { till with published := till.published ++ [(statement.sql, cells)] })
    | .opened => (⟨[], .ok 1⟩, { till with working := till.working ++ [(statement.sql, cells)] })
    | .failed => (⟨[], .error aborted⟩, till)

end Till

def till : Server Till where
  connect s := (.ok 0, s)
  prepare _ := Till.prepare
  execute _ := Till.execute
  command _ := Till.command

def receipts : Ledger Till (List (String × List Cell)) where
  standing _ := Till.standing
  published := Till.published
  working _ := Till.working
  apply sql cells content := content ++ [(sql, cells)]

def ordinary (sql : String) : Prop :=
  isControl sql = false

theorem till_transacts : till.Transacts receipts ordinary where
  begins c s t h := by
    obtain ⟨standing, published, working⟩ := s
    cases standing <;> cases h
    · exact ⟨rfl, rfl, rfl⟩
    · exact ⟨rfl, rfl, rfl⟩
  prepares c sql s statement t hsql hinside h := by
    obtain ⟨standing, published, working⟩ := s
    change Till.prepare sql _ = _ at h
    rw [Till.prepare, if_neg (by rw [hsql]; nofun)] at h
    cases standing with
    | idle => exact absurd rfl hinside
    | failed => cases h
    | opened =>
        rw [if_neg nofun] at h
        split at h <;> cases h
        exact ⟨rfl, ⟨rfl, rfl, rfl⟩, rfl⟩
  refuses c sql s e t hsql hinside h := by
    obtain ⟨standing, published, working⟩ := s
    change Till.prepare sql _ = _ at h
    rw [Till.prepare, if_neg (by rw [hsql]; nofun)] at h
    cases standing with
    | idle => exact absurd rfl hinside
    | failed =>
        cases h
        exact ⟨rfl, rfl⟩
    | opened =>
        rw [if_neg nofun] at h
        split at h <;> cases h
        exact ⟨rfl, rfl⟩
  executes c statement cells s rows n t hsql hinside h := by
    obtain ⟨standing, published, working⟩ := s
    change Till.execute statement cells _ = _ at h
    rw [Till.execute, if_neg (by rw [hsql]; nofun)] at h
    cases standing with
    | idle => exact absurd rfl hinside
    | failed => cases h
    | opened =>
        cases h
        exact ⟨rfl, rfl, rfl, rfl⟩
  fails c statement cells s rows e t hsql hinside h := by
    obtain ⟨standing, published, working⟩ := s
    change Till.execute statement cells _ = _ at h
    rw [Till.execute, if_neg (by rw [hsql]; nofun)] at h
    cases standing with
    | idle => exact absurd rfl hinside
    | failed =>
        cases h
        exact ⟨rfl, rfl⟩
    | opened => cases h
  commits c s t hopened h := by
    obtain ⟨standing, published, working⟩ := s
    cases hopened
    cases h
    rfl
  aborts c s hfailed := by
    obtain ⟨standing, published, working⟩ := s
    cases hfailed
    exact ⟨_, rfl, rfl, rfl⟩

def shop : TxDatabase Till :=
  ⟨⟨{}, {}⟩, {}⟩

def sale : Task Empty Nat :=
  .program (Program.affected "INSERT INTO orders VALUES (7)" [])

/-- A program that goes on though a statement is refused. -/
def forgiving : Task Empty Unit :=
  .program do
    let _ ← Program.affected "INSERT INTO orders VALUES (7)" []
    let _ ← (Program.affected refusing []).attempt
    return ()

/-- A program that rolls back behind the back of its session. -/
def meddling : Task Empty Nat :=
  .program do
    let _ ← Program.affected "INSERT INTO orders VALUES (7)" []
    Program.affected "ROLLBACK" []

end CommitmentWitness

open CommitmentWitness in
theorem committed_sale :
    till.Transacts receipts ordinary ∧
    sale.Answers .committed
      (sale.run (observing fun _ s => s) (connector till .postgres) 0 shop).1 ∧
    Texts ordinary (sale.exchanges (fun _ s => s) till .postgres 0 shop) ∧
    writes (sale.exchanges (fun _ s => s) till .postgres 0 shop) =
      [("INSERT INTO orders VALUES (7)", [])] ∧
    ∃ c database, Database.acquire till shop.database = (.ok c, database) ∧
      Committed receipts sale 0 c database.server
        (sale.exchanges (fun _ s => s) till .postgres 0 shop)
        (sale.run (observing fun _ s => s) (connector till .postgres) 0
          shop).2.database.server := by
  have hanswers : sale.Answers .committed
      (sale.run (observing fun _ s => s) (connector till .postgres) 0 shop).1 := ⟨1, rfl, rfl⟩
  have hlog : sale.exchanges (fun _ s => s) till .postgres 0 shop =
      [Exchange.commanded 0 "BEGIN" none, .prepared 0 "INSERT INTO orders VALUES (7)" none,
        .executed 0 "INSERT INTO orders VALUES (7)" [] none, .commanded 0 "COMMIT" none] := rfl
  have htexts : Texts ordinary (sale.exchanges (fun _ s => s) till .postgres 0 shop) := by
    intro c sql refusal hmem
    rw [hlog] at hmem
    simp only [List.mem_cons, reduceCtorEq, Exchange.prepared.injEq, List.not_mem_nil, or_false,
      false_or] at hmem
    rw [hmem.2.1]
    rfl
  exact ⟨till_transacts, hanswers, htexts, rfl,
    committed_of_answers till_transacts (fun _ _ _ => ⟨rfl, rfl, rfl⟩) htexts hanswers⟩

open CommitmentWitness in
/-- The server acknowledged a write, the commit is reported, and the write is lost: once behind a
refusal that was overlooked, once behind a text that controls the transaction. -/
theorem acknowledged_write_lost :
    till.Transacts receipts ordinary ∧
    (forgiving.Answers .committed
        (forgiving.run (observing fun _ s => s) (connector till .postgres) 0 shop).1 ∧
      writes (forgiving.exchanges (fun _ s => s) till .postgres 0 shop) =
        [("INSERT INTO orders VALUES (7)", [])] ∧
      receipts.published (forgiving.run (observing fun _ s => s) (connector till .postgres) 0
        shop).2.database.server = []) ∧
    (meddling.Answers .committed
        (meddling.run (observing fun _ s => s) (connector till .postgres) 0 shop).1 ∧
      (meddling.exchanges (fun _ s => s) till .postgres 0 shop).any Exchange.isRefusal = false ∧
      ("INSERT INTO orders VALUES (7)", []) ∈
        writes (meddling.exchanges (fun _ s => s) till .postgres 0 shop) ∧
      receipts.published (meddling.run (observing fun _ s => s) (connector till .postgres) 0
        shop).2.database.server = []) :=
  ⟨till_transacts, ⟨⟨(), rfl, rfl⟩, rfl, rfl⟩, ⟨0, rfl, rfl⟩, rfl, .head _, rfl⟩

end Transaction.Task

end SqlPipeline
