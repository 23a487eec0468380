import SqlPipeline.Proofs.Session.Log
import SqlPipeline.Proofs.Transaction.Chain

/-!
The tasks that are run in one transaction.

A chain of steps, a continuation that gets arguments, a list of works and a program are all run the
same way: in the frame of a transaction a body is run and then the transaction is ended as the
answer of the body says. Main statements: the run of a task is that frame, and a body that comes to
its end does so by the rules of its task.
-/

namespace SqlPipeline

namespace Transaction

/-- What is run in one transaction, and the type of its answer. -/
inductive Task (μ : Type) : Type → Type 1
  | chain (handlers : Handlers μ) (first : Step μ) : Task μ (Option Ending)
  | pipe (arguments : StepArguments) (f : Continuation μ) : Task μ (Option Ending)
  | works (list : List Work) : Task μ (List StepResult)
  | program {α : Type} (p : Program μ α) : Task μ α

namespace Task

variable {μ σ α : Type}

/-- Runs the task in one transaction, a chain of steps with a budget of them. -/
def run (observe : μ → σ → σ) (db : Connector σ) (budget : Nat) : Task μ α → Action σ α
  | .chain handlers first => Transaction.run observe handlers budget db first
  | .pipe arguments f => Transaction.pipe observe budget db arguments f
  | .works list => Transaction.runAll observe db list
  | .program p => Transaction.runProgram observe db p

/-- What is run between the begin and the end of the transaction. -/
def body (budget : Nat) : Task μ α → Program μ α
  | .chain handlers first => drive handlers budget first
  | .pipe arguments f => drive .empty budget (pipeStep arguments f)
  | .works list => Work.executeAll list
  | .program p => p

/-- The ending that an answer of the body stands for. A list of works and a program commit. -/
def ending : Task μ α → α → Option Ending
  | .chain _ _, e => e
  | .pipe _ _, e => e
  | .works _, _ => some .committed
  | .program _, _ => some .committed

/-- The result is an answer that stands for the ending. -/
def Answers (task : Task μ α) (ending : Ending) (result : Outcome α) : Prop :=
  ∃ a, result = .ok a ∧ task.ending a = some ending

/-- Runs the body in a session and ends the transaction as its answer says. -/
def conduct (observe : μ → σ → σ) (budget : Nat) (task : Task μ α) (tx : TxSession σ) :
    Action σ α := do
  let a ← (task.body budget).run observe tx.toSession
  settle tx (task.ending a)
  return a

/-- The body of the task comes to an end in a session, by the rules of the task. -/
def Halts (observe : μ → σ → σ) (session : Session σ) :
    Task μ α → σ → Outcome α → σ → Prop
  | .chain handlers first, s, o, t =>
    ∃ e : Outcome Ending, o = e.map some ∧ Chain observe session handlers first s e t
  | .pipe arguments f, s, o, t =>
    ∃ e : Outcome Ending, o = e.map some ∧
      Chain observe session .empty (pipeStep arguments f) s e t
  | .works list, s, o, t => Series observe session list s o t
  | .program p, s, o, t => p.run observe session s = (o, t)

variable {observe : μ → σ → σ} {db : Connector σ} {session : Session σ}

theorem not_answers_error (task : Task μ α) (ending : Ending) (e : Error) :
    ¬ task.Answers ending (.error e) := by
  rintro ⟨a, ha, -⟩
  cases ha

/-- A task is run in the frame of a transaction. -/
theorem run_eq (task : Task μ α) (budget : Nat) :
    task.run observe db budget = within db (task.conduct observe budget) := by
  cases task <;> rfl

theorem conduct_eq (task : Task μ α) (budget : Nat) (tx : TxSession σ) (s : σ) :
    task.conduct observe budget tx s =
      match (task.body budget).run observe tx.toSession s with
      | (.ok a, s) =>
        ((settle tx (task.ending a) s).1.map fun _ => a, (settle tx (task.ending a) s).2)
      | (.error e, s) => (.error e, s)
      | (.panic p, s) => (.panic p, s) := by
  change Action.bind ((task.body budget).run observe tx.toSession) _ s = _
  rw [Action.bind]
  rcases (task.body budget).run observe tx.toSession s with ⟨a | e | p, t⟩
  · change Action.bind (settle tx (task.ending a)) _ t = _
    dsimp only
    rw [Action.bind]
    rcases settle tx (task.ending a) t with ⟨b | e | p, t'⟩ <;> rfl
  · rfl
  · rfl

/-- A body that comes to its end does so by the rules of the task. -/
theorem halts_of_run {task : Task μ α} {budget : Nat} {s t : σ} {o : Outcome α}
    (hrun : (task.body budget).run observe session s = (o, t))
    (hends : ∀ a, o = .ok a → task.ending a ≠ none) : task.Halts observe session s o t := by
  have hdriven : ∀ {o : Outcome (Option Ending)}, (∀ e, o = .ok e → e ≠ none) → o ≠ .ok none :=
    fun h hnone => h none hnone rfl
  cases task with
  | chain handlers first => exact chain_of_drive hrun (hdriven hends)
  | pipe arguments f => exact chain_of_drive hrun (hdriven hends)
  | works list => exact series_of_executeAll hrun
  | program p => exact hrun

/-- A body that ends by the rules of the task comes to an end with every budget that is large
enough. -/
theorem Halts.exists_budget {task : Task μ α} {s t : σ} {o : Outcome α}
    (hhalts : task.Halts observe session s o t) :
    ∃ least, ∀ budget, least ≤ budget →
      ∀ a, ((task.body budget).run observe session s).1 = .ok a → task.ending a ≠ none := by
  have hdriven : ∀ {handlers : Handlers μ} {first : Step μ} {e : Outcome Ending},
      Chain observe session handlers first s e t → ∃ least, ∀ budget, least ≤ budget →
        ∀ a, ((drive handlers budget first).run observe session s).1 = .ok a → a ≠ none := by
    intro handlers first e hchain
    obtain ⟨least, hleast⟩ := hchain.exists_budget
    refine ⟨least, ?_⟩
    intro budget hbudget a ha
    rw [hleast budget hbudget] at ha
    cases e <;> cases ha
    exact Option.some_ne_none _
  cases task with
  | chain handlers first =>
      obtain ⟨e, -, hchain⟩ := hhalts
      exact hdriven hchain
  | pipe arguments f =>
      obtain ⟨e, -, hchain⟩ := hhalts
      exact hdriven hchain
  | works list => exact ⟨0, fun _ _ _ _ => Option.some_ne_none _⟩
  | program p => exact ⟨0, fun _ _ _ _ => Option.some_ne_none _⟩

end Task

end Transaction

end SqlPipeline
