import SqlPipeline.Proofs.Transaction.Task

/-!
What happens in the transaction of a task, call by call.

A history lists the ways that a transaction goes, each with its result, the log of its calls and the
state that it leaves. Main statement: every run of a task that does not end in a panic has a
history.
-/

namespace SqlPipeline

/-- The connector hands out a session, and its transaction begins. -/
def Connector.Opens {σ : Type} (db : Connector σ) (s : σ) (tx : TxSession σ) (t : σ) : Prop :=
  ∃ s', db.acquire s = (.ok tx, s') ∧ tx.begin s' = (.ok (), t)

theorem Connector.Opens.unique {σ : Type} {db : Connector σ} {s t t' : σ} {tx tx' : TxSession σ}
    (h : db.Opens s tx t) (h' : db.Opens s tx' t') : tx = tx' ∧ t = t' := by
  obtain ⟨s₁, hacquire, hbegin⟩ := h
  obtain ⟨s₂, hacquire', hbegin'⟩ := h'
  cases hacquire.symm.trans hacquire'
  cases hbegin.symm.trans hbegin'
  exact ⟨rfl, rfl⟩

/-- The call that ends a transaction. -/
def Ending.call : Ending → Call
  | .committed => .commit
  | .rolledBack => .rollback

namespace Transaction

variable {μ σ α : Type}

theorem finish_eq (tx : TxSession σ) (result : Except Error α) (s : σ) :
    finish tx result s =
      match tx.close s with
      | (.panic p, s) => (.panic p, s)
      | (_, s) => (.ofExcept result, s) := by
  change Action.bind tx.close.attempt _ s = _
  rw [Action.bind, Action.attempt]
  rcases tx.close s with ⟨b | e | p, s'⟩ <;> rfl

theorem within_eq (db : Connector σ) (body : TxSession σ → Action σ α) (s : σ) :
    within db body s =
      match db.acquire s with
      | (.ok tx, s) =>
        match tx.begin s with
        | (.ok (), s) => finish tx (body tx s).1.recovered (body tx s).2
        | (.error e, s) => finish tx (.error e) s
        | (.panic p, s) => (.panic p, s)
      | (.error e, s) => (.error e, s)
      | (.panic p, s) => (.panic p, s) := by
  change Action.bind db.acquire _ s = _
  rw [Action.bind]
  rcases db.acquire s with ⟨tx | e | p, s'⟩
  · change Action.bind tx.begin.attempt _ s' = _
    dsimp only
    rw [Action.bind, Action.attempt]
    rcases tx.begin s' with ⟨b | e | p, t⟩ <;> rfl
  · rfl
  · rfl

theorem acquire_logged_of_eq {db : Connector σ} {tx : TxSession σ} {s s' : σ}
    (hacquire : db.acquire s = (.ok tx, s')) (old : List Event) :
    db.logged.acquire ⟨s, old⟩ = (.ok tx.logged, ⟨s', old ++ [⟨.acquire, .ok⟩]⟩) := by
  change Action.bind (db.acquire.logged .acquire) _ _ = _
  rw [Action.bind, Action.logged_of_eq hacquire]
  rfl

theorem refuse_logged_of_eq {db : Connector σ} {e : Error} {s s' : σ}
    (hacquire : db.acquire s = (.error e, s')) (old : List Event) :
    db.logged.acquire ⟨s, old⟩ = (.error e, ⟨s', old ++ [⟨.acquire, .failed e⟩]⟩) := by
  change Action.bind (db.acquire.logged .acquire) _ _ = _
  rw [Action.bind, Action.logged_of_eq hacquire]
  rfl

theorem settle_logged (tx : TxSession σ) (ending : Ending) :
    settle tx.logged (some ending) = (settle tx (some ending)).logged ending.call := by
  cases ending <;> rfl

/-- A transaction that returns has the result with which its session is closed, and its last call is
the close. -/
theorem finish_logged {tx : TxSession σ} {result : Except Error α} {s : σ}
    (hreturns : ∀ p, (finish tx result s).1 ≠ .panic p) (old : List Event) :
    finish tx result s = (.ofExcept result, (tx.close s).2) ∧
      finish tx.logged result ⟨s, old⟩ =
        (.ofExcept result, ⟨(tx.close s).2, old ++ [⟨.close, (tx.close s).1.ended⟩]⟩) := by
  rcases hclose : tx.close s with ⟨o, s'⟩
  have hlogged : tx.logged.close ⟨s, old⟩ = _ := Action.logged_of_eq hclose .close old
  rw [finish_eq, hclose] at hreturns
  rw [finish_eq, finish_eq, hclose, hlogged]
  cases o with
  | ok b => exact ⟨rfl, rfl⟩
  | error e => exact ⟨rfl, rfl⟩
  | panic p => exact absurd rfl (hreturns p)

namespace Task

variable (observe : μ → σ → σ) (db : Connector σ) (budget : Nat) (task : Task μ α)

/-- The calls of the run of a task. -/
def log (s : σ) : List Event :=
  (task.run (noted observe) db.logged budget ⟨s, []⟩).2.entries

/-- The ways that a transaction goes between its begin and the close of its session: its result, its
calls and the state that it leaves. -/
inductive Conducted (tx : TxSession σ) (s : σ) : Except Error α → List Event → σ → Prop
  | failed {e t} (hbody : (task.body budget).run observe tx.toSession s = (.error e, t)) :
      Conducted tx s (.error e) ((task.body budget).log observe tx.toSession s) t
  | panicked {p t} (hbody : (task.body budget).run observe tx.toSession s = (.panic p, t)) :
      Conducted tx s (.error p.toError) ((task.body budget).log observe tx.toSession s) t
  | unsettled {a t} (hbody : (task.body budget).run observe tx.toSession s = (.ok a, t))
      (hending : task.ending a = none) :
      Conducted tx s (.ok a) ((task.body budget).log observe tx.toSession s) t
  | settled {a ending o t t'}
      (hbody : (task.body budget).run observe tx.toSession s = (.ok a, t))
      (hending : task.ending a = some ending) (hsettle : settle tx (some ending) t = (o, t')) :
      Conducted tx s (o.map fun _ => a).recovered
        ((task.body budget).log observe tx.toSession s ++ [⟨ending.call, o.ended⟩]) t'

/-- The ways that the transaction of a task goes: its result, its calls and the state that it
leaves. -/
inductive History (s : σ) : Outcome α → List Event → σ → Prop
  | refused {e t} (hacquire : db.acquire s = (.error e, t)) :
      History s (.error e) [⟨.acquire, .failed e⟩] t
  | unbegun {tx e s' t} (hacquire : db.acquire s = (.ok tx, s'))
      (hbegin : tx.begin s' = (.error e, t)) :
      History s (.error e)
        [⟨.acquire, .ok⟩, ⟨.begin, .failed e⟩, ⟨.close, (tx.close t).1.ended⟩] (tx.close t).2
  | begun {tx result log s' t} (hopens : db.Opens s tx s')
      (hconducted : task.Conducted observe budget tx s' result log t) :
      History s (.ofExcept result)
        (⟨.acquire, .ok⟩ :: ⟨.begin, .ok⟩ :: (log ++ [⟨.close, (tx.close t).1.ended⟩]))
        (tx.close t).2

theorem conducted (tx : TxSession σ) (s : σ) (old : List Event) :
    ∃ log, task.Conducted observe budget tx s (task.conduct observe budget tx s).1.recovered log
        (task.conduct observe budget tx s).2 ∧
      task.conduct (noted observe) budget tx.logged ⟨s, old⟩ =
        ((task.conduct observe budget tx s).1,
          ⟨(task.conduct observe budget tx s).2, old ++ log⟩) := by
  have hlogged := Program.run_logged observe tx.toSession (task.body budget) ⟨s, old⟩
  change (task.body budget).run (noted observe) tx.logged.toSession _ = _ at hlogged
  rw [conduct_eq, conduct_eq, hlogged]
  dsimp only
  rcases hbody : (task.body budget).run observe tx.toSession s with ⟨a | e | p, t⟩
  · dsimp only
    cases hending : task.ending a with
    | none => exact ⟨_, .unsettled hbody hending, rfl⟩
    | some ending =>
        refine ⟨_, .settled hbody hending rfl, ?_⟩
        rw [settle_logged, Action.logged, List.append_assoc]
  · exact ⟨_, .failed hbody, rfl⟩
  · exact ⟨_, .panicked hbody, rfl⟩

variable {observe db budget task}

/-- A run of a task that does not end in a panic has a history, and in a connector with a log it
does the same and leaves the calls of that history. -/
theorem exists_history {s : σ} (hreturns : ∀ p, (task.run observe db budget s).1 ≠ .panic p) :
    ∃ log, task.History observe db budget s (task.run observe db budget s).1 log
        (task.run observe db budget s).2 ∧
      task.run (noted observe) db.logged budget ⟨s, []⟩ =
        ((task.run observe db budget s).1, ⟨(task.run observe db budget s).2, log⟩) := by
  rw [run_eq] at hreturns
  rw [run_eq, run_eq]
  rcases hacquire : db.acquire s with ⟨tx | e | p, s₁⟩
  · have hacquired := acquire_logged_of_eq hacquire []
    rcases hbegin : tx.begin s₁ with ⟨b | e | p, s₂⟩
    · have hbegun : tx.logged.begin _ = _ := Action.logged_of_eq hbegin .begin [⟨.acquire, .ok⟩]
      simp only [within_eq, hacquire, hbegin] at hreturns
      obtain ⟨log, hconducted, hlog⟩ :=
        conducted observe budget task tx s₂ [⟨.acquire, .ok⟩, ⟨.begin, .ok⟩]
      obtain ⟨hplain, hclosed⟩ :=
        finish_logged hreturns (⟨.acquire, .ok⟩ :: ⟨.begin, .ok⟩ :: log)
      simp only [within_eq, hacquire, hbegin, hacquired, List.nil_append, hbegun, List.cons_append,
        Outcome.ended, hlog, hplain, hclosed]
      exact ⟨_, .begun ⟨s₁, hacquire, hbegin⟩ hconducted, rfl⟩
    · have hunbegun : tx.logged.begin _ = _ := Action.logged_of_eq hbegin .begin [⟨.acquire, .ok⟩]
      simp only [within_eq, hacquire, hbegin] at hreturns
      obtain ⟨hplain, hclosed⟩ := finish_logged hreturns [⟨.acquire, .ok⟩, ⟨.begin, .failed e⟩]
      simp only [within_eq, hacquire, hbegin, hacquired, List.nil_append, hunbegun,
        List.cons_append, Outcome.ended, hplain, hclosed]
      exact ⟨_, .unbegun hacquire hbegin, rfl⟩
    · simp only [within_eq, hacquire, hbegin] at hreturns
      exact absurd rfl (hreturns p)
  · simp only [within_eq, hacquire, refuse_logged_of_eq hacquire []]
    exact ⟨_, .refused hacquire, rfl⟩
  · simp only [within_eq, hacquire] at hreturns
    exact absurd rfl (hreturns p)

/-- The calls of a run are those of its history. -/
theorem history {s : σ} (hreturns : ∀ p, (task.run observe db budget s).1 ≠ .panic p) :
    task.History observe db budget s (task.run observe db budget s).1
      (task.log observe db budget s) (task.run observe db budget s).2 := by
  obtain ⟨log, hhistory, hlogged⟩ := exists_history hreturns
  rw [Task.log, hlogged]
  exact hhistory

end Task

end Transaction

end SqlPipeline
