import SqlPipeline.Proofs.Transaction.History

/-!
Transactions over related connectors.

Two connectors are related when their calls and those of their sessions do the same to related
states. Main statement: a task has the same result and makes the same calls over related connectors,
and leaves related states.
-/

namespace SqlPipeline

variable {μ σ τ α α' β : Type} {R : σ → τ → Prop}

/-- The calls ended alike, and their answers are related. -/
inductive Outcome.Relates (Q : α → α' → Prop) : Outcome α → Outcome α' → Prop
  | ok {a a'} (h : Q a a') : Relates Q (.ok a) (.ok a')
  | error (e : Error) : Relates Q (.error e) (.error e)
  | panic (p : Panic) : Relates Q (.panic p) (.panic p)

namespace Action

/-- From related states the actions end alike with related answers and leave related states. -/
def RelatesBy (Q : α → α' → Prop) (R : σ → τ → Prop) (x : Action σ α) (y : Action τ α') : Prop :=
  ∀ s t, R s t → (x s).1.Relates Q (y t).1 ∧ R (x s).2 (y t).2

theorem RelatesBy.bind {Q : α → α' → Prop} {x : Action σ α} {y : Action τ α'}
    (hxy : RelatesBy Q R x y) {f : α → Action σ β} {g : α' → Action τ β}
    (hfg : ∀ a a', Q a a' → Relates R (f a) (g a')) : Relates R (x.bind f) (y.bind g) := by
  intro s t hst
  obtain ⟨hended, hleft⟩ := hxy s t hst
  rw [Action.bind, Action.bind]
  rcases hx : x s with ⟨o, s'⟩
  rcases hy : y t with ⟨o', t'⟩
  rw [hx, hy] at hended hleft
  cases hended with
  | ok h => exact hfg _ _ h s' t' hleft
  | error e => exact ⟨rfl, hleft⟩
  | panic p => exact ⟨rfl, hleft⟩

namespace Relates

variable {x : Action σ α} {y : Action τ α}

theorem relatesBy (hxy : Relates R x y) : RelatesBy Eq R x y := by
  intro s t hst
  obtain ⟨hended, hleft⟩ := hxy s t hst
  refine ⟨?_, hleft⟩
  rw [← hended]
  cases (x s).1 with
  | ok a => exact .ok rfl
  | error e => exact .error e
  | panic p => exact .panic p

theorem bind (hxy : Relates R x y) {f : α → Action σ β} {g : α → Action τ β}
    (hfg : ∀ a, Relates R (f a) (g a)) : Relates R (x.bind f) (y.bind g) :=
  hxy.relatesBy.bind fun a _ h => h ▸ hfg a

theorem pure (a : α) : Relates R (Action.pure a) (Action.pure a) :=
  fun _ _ hst => ⟨rfl, hst⟩

theorem ofOutcome (outcome : Outcome α) :
    Relates R (Action.ofOutcome outcome) (Action.ofOutcome outcome) :=
  fun _ _ hst => ⟨rfl, hst⟩

theorem attempt (hxy : Relates R x y) : Relates R x.attempt y.attempt := by
  intro s t hst
  obtain ⟨hended, hleft⟩ := hxy s t hst
  rw [Action.attempt, Action.attempt]
  rcases hx : x s with ⟨a | e | p, s'⟩ <;> rcases hy : y t with ⟨o', t'⟩ <;>
    rw [hx, hy] at hended hleft <;> cases hended <;> exact ⟨rfl, hleft⟩

theorem recover (hxy : Relates R x y) : Relates R x.recover y.recover := by
  intro s t hst
  obtain ⟨hended, hleft⟩ := hxy s t hst
  rw [Action.recover, Action.recover]
  exact ⟨congrArg (fun o : Outcome α => Outcome.ok o.recovered) hended, hleft⟩

end Relates

end Action

/-- The states are related, and the same was logged behind them. -/
structure Logged (R : σ → τ → Prop) (r : Recorded σ Event) (q : Recorded τ Event) : Prop where
  state : R r.state q.state
  entries : r.entries = q.entries

theorem Action.Relates.logged {x : Action σ α} {y : Action τ α} (hxy : Relates R x y)
    (call : Call) : Relates (Logged R) (x.logged call) (y.logged call) := by
  intro r q hrq
  obtain ⟨hended, hleft⟩ := hxy r.state q.state hrq.state
  refine ⟨hended, hleft, ?_⟩
  rw [Action.logged, Action.logged, hrq.entries, hended]

/-- The sessions speak one dialect, and do the same to related states. -/
structure TxSession.Relates (R : σ → τ → Prop) (observe : μ → σ → σ) (tx : TxSession σ)
    (observe' : μ → τ → τ) (tx' : TxSession τ) : Prop
    extends Session.Relates R observe tx.toSession observe' tx'.toSession where
  begin : Action.Relates R tx.begin tx'.begin
  commit : Action.Relates R tx.commit tx'.commit
  rollback : Action.Relates R tx.rollback tx'.rollback
  close : Action.Relates R tx.close tx'.close

/-- The connectors hand out related sessions in related states. -/
def Connector.Relates (R : σ → τ → Prop) (observe : μ → σ → σ) (db : Connector σ)
    (observe' : μ → τ → τ) (db' : Connector τ) : Prop :=
  Action.RelatesBy (fun tx tx' => TxSession.Relates R observe tx observe' tx') R db.acquire
    db'.acquire

variable {observe : μ → σ → σ} {observe' : μ → τ → τ}

theorem TxSession.Relates.logged {tx : TxSession σ} {tx' : TxSession τ}
    (htx : TxSession.Relates R observe tx observe' tx') :
    TxSession.Relates (Logged R) (noted observe) tx.logged (noted observe') tx'.logged where
  dialect := htx.dialect
  note m _ _ hrq := ⟨htx.note m _ _ hrq.state, hrq.entries⟩
  query sql params := (htx.query sql params).logged (.query sql params)
  execute sql params := (htx.execute sql params).logged (.execute sql params)
  stream sql params := (htx.stream sql params).logged (.stream sql params)
  begin := htx.begin.logged .begin
  commit := htx.commit.logged .commit
  rollback := htx.rollback.logged .rollback
  close := htx.close.logged .close

theorem Connector.Relates.logged {db : Connector σ} {db' : Connector τ}
    (hdb : Connector.Relates R observe db observe' db') :
    Connector.Relates (Logged R) (noted observe) db.logged (noted observe') db'.logged := by
  intro r q hrq
  obtain ⟨hended, hleft⟩ := hdb r.state q.state hrq.state
  change Outcome.Relates _ (Action.bind (db.acquire.logged .acquire) _ r).1
    (Action.bind (db'.acquire.logged .acquire) _ q).1 ∧
    Logged R (Action.bind (db.acquire.logged .acquire) _ r).2
      (Action.bind (db'.acquire.logged .acquire) _ q).2
  rcases hacquire : db.acquire r.state with ⟨o, s⟩
  rcases hacquire' : db'.acquire q.state with ⟨o', t⟩
  rw [hacquire, hacquire'] at hended hleft
  obtain ⟨_, entries⟩ := r
  obtain ⟨_, _⟩ := q
  cases hrq.entries
  rw [Action.bind, Action.bind, Action.logged_of_eq hacquire, Action.logged_of_eq hacquire']
  cases hended with
  | ok htx => exact ⟨.ok htx.logged, hleft, rfl⟩
  | error e => exact ⟨.error e, hleft, rfl⟩
  | panic p => exact ⟨.panic p, hleft, rfl⟩

namespace Transaction

theorem finish_relates {tx : TxSession σ} {tx' : TxSession τ}
    (htx : TxSession.Relates R observe tx observe' tx') (result : Except Error α) :
    Action.Relates R (finish tx result) (finish tx' result) :=
  htx.close.attempt.bind fun _ => .ofOutcome (.ofExcept result)

theorem settle_relates {tx : TxSession σ} {tx' : TxSession τ}
    (htx : TxSession.Relates R observe tx observe' tx') (ending : Option Ending) :
    Action.Relates R (settle tx ending) (settle tx' ending) := by
  match ending with
  | none => exact .pure ()
  | some .committed => exact htx.commit
  | some .rolledBack => exact htx.rollback

namespace Task

variable {db : Connector σ} {db' : Connector τ}

theorem conduct_relates {tx : TxSession σ} {tx' : TxSession τ}
    (htx : TxSession.Relates R observe tx observe' tx') (task : Task μ α) (budget : Nat) :
    Action.Relates R (task.conduct observe budget tx) (task.conduct observe' budget tx') :=
  (Program.run_relates htx.toRelates (task.body budget)).bind fun a =>
    (settle_relates htx (task.ending a)).bind fun _ => .pure a

/-- A task does the same over related connectors. -/
theorem run_relates (hdb : Connector.Relates R observe db observe' db') (task : Task μ α)
    (budget : Nat) :
    Action.Relates R (task.run observe db budget) (task.run observe' db' budget) := by
  rw [run_eq, run_eq]
  apply hdb.bind
  intro tx tx' htx
  apply htx.begin.attempt.bind
  intro begun
  cases begun with
  | error e => exact finish_relates htx (.error e)
  | ok _ => exact (conduct_relates htx task budget).recover.bind (finish_relates htx)

/-- A task makes the same calls over related connectors. -/
theorem log_eq_of_relates (hdb : Connector.Relates R observe db observe' db') (task : Task μ α)
    (budget : Nat) {s : σ} {t : τ} (hst : R s t) :
    task.log observe db budget s = task.log observe' db' budget t :=
  (run_relates hdb.logged task budget ⟨s, []⟩ ⟨t, []⟩ ⟨hst, rfl⟩).2.entries

end Task

end Transaction

end SqlPipeline
