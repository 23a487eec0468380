import SqlPipeline.Proofs.Transaction.History

/-!
Atomicity of a transaction.

A store has a published content and, in a transaction, a working copy that statements change and
that a commit publishes. Main statement: a run of a task leaves what the store has published as it
was, unless it answers that it committed; then every statement that was executed has been applied to
it once, in order.
-/

namespace SqlPipeline

variable {μ σ δ α : Type}

/-- What a state says about a store, and what a statement does to its content. -/
structure Store (σ δ : Type) where
  published : σ → δ
  working : σ → δ
  apply : String → List Value → δ → δ

namespace Store

variable (store : Store σ δ)

/-- The content after some statements. -/
def replay (statements : List (String × List Value)) (content : δ) : δ :=
  statements.foldl (fun content statement => store.apply statement.1 statement.2 content) content

/-- Neither the published content nor the working copy differs. -/
structure Same (s t : σ) : Prop where
  published : store.published t = store.published s
  working : store.working t = store.working s

end Store

/-- The session changes the store only as a transaction does: statements change the working copy,
a commit that is answered publishes it, and nothing else touches what is published. -/
structure TxSession.Stages (store : Store σ δ) (tx : TxSession σ) : Prop where
  begins : ∀ s t, tx.begin s = (.ok (), t) →
    store.published t = store.published s ∧ store.working t = store.published s
  unbegun : ∀ s, (tx.begin s).1 ≠ .ok () → store.published (tx.begin s).2 = store.published s
  query : ∀ sql params s, store.Same s (tx.query sql params s).2
  stream : ∀ sql params s, store.Same s (tx.stream sql params s).2
  executes : ∀ sql params s n t, tx.execute sql params s = (.ok n, t) →
    store.published t = store.published s ∧
      store.working t = store.apply sql params (store.working s)
  unexecuted : ∀ sql params s, (∀ n, (tx.execute sql params s).1 ≠ .ok n) →
    store.Same s (tx.execute sql params s).2
  commits : ∀ s t, tx.commit s = (.ok (), t) → store.published t = store.working s
  uncommitted : ∀ s, (tx.commit s).1 ≠ .ok () → store.published (tx.commit s).2 = store.published s
  rollback : ∀ s, store.published (tx.rollback s).2 = store.published s
  close : ∀ s, store.published (tx.close s).2 = store.published s

namespace TxSession.Stages

variable {store : Store σ δ} {tx : TxSession σ} {s t : σ}

theorem same_of_execute (htx : tx.Stages store) {sql : String} {params : List Value}
    {o : Outcome Nat} (hexecute : tx.execute sql params s = (o, t)) (ho : ∀ n, o ≠ .ok n) :
    store.Same s t := by
  have hsame := htx.unexecuted sql params s
  rw [hexecute] at hsame
  exact hsame ho

theorem published_of_commit (htx : tx.Stages store) {o : Outcome Unit}
    (hcommit : tx.commit s = (o, t)) (ho : o ≠ .ok ()) :
    store.published t = store.published s := by
  have hkept := htx.uncommitted s
  rw [hcommit] at hkept
  exact hkept ho

theorem published_of_begin (htx : tx.Stages store) {e : Error}
    (hbegin : tx.begin s = (.error e, t)) : store.published t = store.published s := by
  have hkept := htx.unbegun s
  rw [hbegin] at hkept
  exact hkept (by simp)

end TxSession.Stages

/-- The connector hands out sessions that change the store only as transactions do. -/
structure Connector.Stages (observe : μ → σ → σ) (store : Store σ δ) (db : Connector σ) : Prop where
  note : ∀ m s, store.Same s (observe m s)
  acquire : ∀ s, store.published (db.acquire s).2 = store.published s
  session : ∀ s tx s', db.acquire s = (.ok tx, s') → tx.Stages store

/-- The statement that a call executed. -/
def Event.executed? : Event → Option (String × List Value)
  | ⟨.execute sql params, .ok⟩ => some (sql, params)
  | _ => none

/-- The statements that were executed, in order. -/
def executed (log : List Event) : List (String × List Value) :=
  log.filterMap Event.executed?

theorem executed_append (log more : List Event) :
    executed (log ++ more) = executed log ++ executed more :=
  List.filterMap_append

/-- Since a state what is published was kept, and the working copy has got what the log executed. -/
structure Store.Staged (store : Store σ δ) (s : σ) (r : Recorded σ Event) : Prop where
  published : store.published r.state = store.published s
  working : store.working r.state = store.replay (executed r.entries) (store.working s)

namespace Store.Staged

variable {store : Store σ δ} {s t : σ} {r : Recorded σ Event}

theorem keep (h : store.Staged s r) (hsame : store.Same r.state t) {ev : Event}
    (hnone : ev.executed? = none) : store.Staged s ⟨t, r.entries ++ [ev]⟩ where
  published := hsame.published.trans h.published
  working := by
    have hlog : executed [ev] = [] := by rw [executed, List.filterMap_cons_none hnone]; rfl
    rw [hsame.working, h.working, executed_append, hlog, List.append_nil]

theorem execute (h : store.Staged s r) {sql : String} {params : List Value}
    (hpublished : store.published t = store.published r.state)
    (hworking : store.working t = store.apply sql params (store.working r.state)) :
    store.Staged s ⟨t, r.entries ++ [⟨.execute sql params, .ok⟩]⟩ where
  published := hpublished.trans h.published
  working := by
    have hlog : executed [⟨.execute sql params, .ok⟩] = [(sql, params)] := rfl
    rw [hworking, h.working, executed_append, hlog, Store.replay, Store.replay, List.foldl_append]
    rfl

end Store.Staged

/-- A program keeps what is published, and the working copy gets what it executes. -/
theorem Program.staged {observe : μ → σ → σ} {store : Store σ δ} {tx : TxSession σ}
    (htx : tx.Stages store) (hnote : ∀ m s, store.Same s (observe m s)) (p : Program μ α) (s : σ) :
    store.Staged s ⟨(p.run observe tx.toSession s).2, p.log observe tx.toSession s⟩ := by
  have hlogged : (p.run (noted observe) tx.toSession.logged ⟨s, []⟩).2 =
      ⟨(p.run observe tx.toSession s).2, p.log observe tx.toSession s⟩ := by
    rw [run_logged, List.nil_append]
  rw [← hlogged]
  refine run_keeps (noted observe) tx.toSession.logged ?_ ?_ ?_ ?_ p ⟨rfl, rfl⟩
  · intro m r hr
    have hsame := hnote m r.state
    exact ⟨hsame.published.trans hr.published, hsame.working.trans hr.working⟩
  · intro sql params r hr
    exact hr.keep (htx.query sql params r.state) rfl
  · intro sql params r hr
    change store.Staged s (Action.logged _ (tx.execute sql params) r).2
    rcases hexecute : tx.execute sql params r.state with ⟨n | e | p, t⟩ <;>
      rw [Action.logged, hexecute]
    · obtain ⟨hpublished, hworking⟩ := htx.executes sql params r.state n t hexecute
      exact hr.execute hpublished hworking
    · exact hr.keep (htx.same_of_execute hexecute (by simp)) rfl
    · exact hr.keep (htx.same_of_execute hexecute (by simp)) rfl
  · intro sql params r hr
    exact hr.keep (htx.stream sql params r.state) rfl

namespace Transaction.Task

variable {observe : μ → σ → σ} {db : Connector σ} {store : Store σ δ}

variable {budget : Nat} {task : Task μ α}

/-- Behind a begin the transaction publishes what it executed if it answers that it committed, and
nothing otherwise. -/
theorem Conducted.published {tx : TxSession σ} {s t : σ} {result : Except Error α}
    {log : List Event} (htx : tx.Stages store) (hnote : ∀ m s, store.Same s (observe m s))
    (hconducted : task.Conducted observe budget tx s result log t) :
    (task.Answers .committed (.ofExcept result) →
        store.published t = store.replay (executed log) (store.working s)) ∧
      (¬ task.Answers .committed (.ofExcept result) →
        store.published t = store.published s) := by
  have hstaged := Program.staged htx hnote (task.body budget) s
  cases hconducted with
  | failed hbody =>
      rw [hbody] at hstaged
      exact ⟨fun ha => absurd ha (task.not_answers_error _ _), fun _ => hstaged.published⟩
  | panicked hbody =>
      rw [hbody] at hstaged
      exact ⟨fun ha => absurd ha (task.not_answers_error _ _), fun _ => hstaged.published⟩
  | unsettled hbody hending =>
      rw [hbody] at hstaged
      refine ⟨?_, fun _ => hstaged.published⟩
      rintro ⟨a', ha, hcommitted⟩
      cases ha
      cases hending.symm.trans hcommitted
  | @settled a ending o t t' hbody hending hsettle =>
      rw [hbody] at hstaged
      cases ending with
      | rolledBack =>
          change tx.rollback t = _ at hsettle
          have hkept := htx.rollback t
          rw [hsettle] at hkept
          refine ⟨?_, fun _ => hkept.trans hstaged.published⟩
          rintro ⟨a', ha, hcommitted⟩
          cases o <;> cases ha
          cases hending.symm.trans hcommitted
      | committed =>
          change tx.commit t = _ at hsettle
          rw [executed_append]
          cases o with
          | ok _ =>
              refine ⟨fun _ => ?_, fun hnot => absurd ⟨a, rfl, hending⟩ hnot⟩
              have hlog : executed [⟨Ending.committed.call, (Outcome.ok ()).ended⟩] = [] := rfl
              rw [htx.commits t _ hsettle, hstaged.working, hlog, List.append_nil]
          | error e =>
              have hkept := htx.published_of_commit hsettle (by simp)
              exact ⟨fun ha => absurd ha (task.not_answers_error _ _),
                fun _ => hkept.trans hstaged.published⟩
          | panic p =>
              have hkept := htx.published_of_commit hsettle (by simp)
              exact ⟨fun ha => absurd ha (task.not_answers_error _ _),
                fun _ => hkept.trans hstaged.published⟩

theorem History.published {s t : σ} {result : Outcome α} {log : List Event}
    (hstages : db.Stages observe store)
    (hhistory : task.History observe db budget s result log t) :
    (task.Answers .committed result →
        store.published t = store.replay (executed log) (store.published s)) ∧
      (¬ task.Answers .committed result → store.published t = store.published s) := by
  cases hhistory with
  | refused hacquire =>
      have hkept := hstages.acquire s
      rw [hacquire] at hkept
      exact ⟨fun ha => absurd ha (task.not_answers_error _ _), fun _ => hkept⟩
  | @unbegun tx e s' t hacquire hbegin =>
      have htx := hstages.session s tx s' hacquire
      have hacquired := hstages.acquire s
      rw [hacquire] at hacquired
      have hkept := htx.published_of_begin hbegin
      exact ⟨fun ha => absurd ha (task.not_answers_error _ _),
        fun _ => (htx.close t).trans (hkept.trans hacquired)⟩
  | @begun tx result body s' t hopens hconducted =>
      obtain ⟨s₁, hacquire, hbegin⟩ := hopens
      have htx := hstages.session s tx s₁ hacquire
      have hacquired := hstages.acquire s
      rw [hacquire] at hacquired
      obtain ⟨hpublished, hworking⟩ := htx.begins s₁ s' hbegin
      obtain ⟨hcommitted, huncommitted⟩ := hconducted.published htx hstages.note
      rw [hworking, hacquired] at hcommitted
      rw [hpublished, hacquired] at huncommitted
      have hlog : executed (⟨.acquire, .ok⟩ :: ⟨.begin, .ok⟩ ::
          (body ++ [⟨.close, (tx.close t).1.ended⟩])) = executed body := by
        change executed (body ++ _) = _
        rw [executed_append]
        exact List.append_nil _
      rw [htx.close t, hlog]
      exact ⟨hcommitted, huncommitted⟩

/-- A run of a task that answers that it committed has applied what it executed to what was
published, once and in order; any other run that returns leaves what was published. -/
theorem published_run (hstages : db.Stages observe store) (task : Task μ α) (budget : Nat) (s : σ)
    (hreturns : ∀ p, (task.run observe db budget s).1 ≠ .panic p) :
    (task.Answers .committed (task.run observe db budget s).1 →
        store.published (task.run observe db budget s).2 =
          store.replay (executed (task.log observe db budget s)) (store.published s)) ∧
      (¬ task.Answers .committed (task.run observe db budget s).1 →
        store.published (task.run observe db budget s).2 = store.published s) := by
  exact (history hreturns).published hstages

namespace AtomicityWitness

/-- The statements that were committed, and these with those of the open transaction. -/
structure Journal where
  committed : List (String × List Value)
  written : List (String × List Value)

def journal : Store Journal (List (String × List Value)) where
  published := Journal.committed
  working := Journal.written
  apply sql params content := content ++ [(sql, params)]

/-- A session that writes statements down, and refuses those that bind nothing. -/
def session : TxSession Journal where
  dialect := .sqlite
  query _ _ := .pure []
  execute sql params j :=
    match params with
    | [] => (.error (.driver "nothing bound"), j)
    | _ => (.ok 1, { j with written := j.written ++ [(sql, params)] })
  stream _ _ := .pure (.ofRows [])
  begin j := (.ok (), { j with written := j.committed })
  commit j := (.ok (), { j with committed := j.written })
  rollback j := (.ok (), { j with written := j.committed })
  close j := (.ok (), { j with written := j.committed })

def writer : Connector Journal := ⟨.pure session⟩

theorem session_stages : session.Stages journal where
  begins s t h := by
    cases h
    exact ⟨rfl, rfl⟩
  unbegun s h := absurd rfl h
  query _ _ _ := ⟨rfl, rfl⟩
  stream _ _ _ := ⟨rfl, rfl⟩
  executes sql params s n t h := by
    cases params <;> cases h
    exact ⟨rfl, rfl⟩
  unexecuted sql params s h := by
    cases params with
    | nil => exact ⟨rfl, rfl⟩
    | cons v vs => exact absurd rfl (h 1)
  commits s t h := by
    cases h
    rfl
  uncommitted s h := absurd rfl h
  rollback _ := rfl
  close _ := rfl

theorem writer_stages : writer.Stages (fun (_ : Empty) j => j) journal where
  note _ _ := ⟨rfl, rfl⟩
  acquire _ := rfl
  session s tx s' h := by
    cases h
    exact session_stages

/-- A step whose continuation runs two statements of its own, and goes on though one is refused. -/
def order : Task Empty (Option Ending) :=
  let insertion : Work := .exec "INSERT INTO orders VALUES (?)" [.int 7]
  .chain .empty <| (Step.ofWork insertion).andThen fun _ => do
    let _ ← (Program.affected "DELETE FROM orders" []).attempt
    let _ ← Program.affected "UPDATE stock SET left = ?" [.int 6]
    return .commit

end AtomicityWitness

open AtomicityWitness in
theorem published_order : writer.Stages (fun (_ : Empty) j => j) journal ∧
    (∀ p, (order.run (fun _ j => j) writer 1 ⟨[], []⟩).1 ≠ .panic p) ∧
    (order.run (fun _ j => j) writer 1 ⟨[], []⟩).2.committed =
      journal.replay (executed (order.log (fun _ j => j) writer 1 ⟨[], []⟩)) [] ∧
    executed (order.log (fun _ j => j) writer 1 ⟨[], []⟩) =
      [("INSERT INTO orders VALUES (?)", [.int 7]), ("UPDATE stock SET left = ?", [.int 6])] := by
  have hreturns : ∀ p, (order.run (fun _ j => j) writer 1 ⟨[], []⟩).1 ≠ .panic p :=
    fun p h => by cases h
  have hpublished := published_run writer_stages order 1 ⟨[], []⟩ hreturns
  exact ⟨writer_stages, hreturns, hpublished.1 ⟨some .committed, rfl, rfl⟩, rfl⟩

end Transaction.Task

end SqlPipeline
