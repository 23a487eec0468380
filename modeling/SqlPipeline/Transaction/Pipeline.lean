import SqlPipeline.Transaction.Step

/-!
Running transactions.

A transaction acquires a session, begins, runs its body and closes the session. A body commits or
rolls back itself, once it has come to its end; an error or a panic of the body leaves the
transaction uncommitted, and closing rolls it back. The body of a pipeline is a chain of steps.
-/

namespace SqlPipeline

structure Handlers (μ : Type) where
  entries : List (String × Continuation μ)

namespace Handlers

variable {μ : Type}

def empty : Handlers μ := ⟨[]⟩

/-- Registers a continuation, in the place of an earlier one of the same name. -/
def register (handlers : Handlers μ) (key : String) (f : Continuation μ) : Handlers μ :=
  ⟨(key, f) :: handlers.entries⟩

def find? (handlers : Handlers μ) (key : String) : Option (Continuation μ) :=
  handlers.entries.lookup key

def contains (handlers : Handlers μ) (key : String) : Bool :=
  (handlers.find? key).isSome

/-- The continuation that follows a step, if one does. -/
def resolve (handlers : Handlers μ) : Next μ → Except Error (Option (Continuation μ))
  | .commit => .ok .none
  | .call f => .ok (some f)
  | .handler key =>
    match handlers.find? key with
    | some f => .ok (some f)
    | .none => .error (.config (.missingHandler key))

end Handlers

namespace Transaction

variable {μ σ α : Type}

/-- Follows a chain of steps to its end, for at most `budget` steps; no ending when they were not
enough. A continuation is looked up before the work that it follows. -/
def drive (handlers : Handlers μ) : Nat → Step μ → Program μ (Option Ending)
  | 0, _ => .done none
  | budget + 1, step =>
    match step.kind with
    | .marker ending => .done (some ending)
    | .work work =>
      match handlers.resolve step.following with
      | .error e => .fail e
      | .ok continuation? => do
        let result ← work.execute
        match continuation? with
        | none => return some .committed
        | some f =>
          match ← f ⟨work, result, step.arguments⟩ with
          | .next following => drive handlers budget following
          | .commit => return some .committed
          | .rollback => return some .rolledBack

/-- Closes a session and gives the result of the transaction. An error of closing is dropped. -/
def finish (tx : TxSession σ) (result : Except Error α) : Action σ α := do
  let _ ← tx.close.attempt
  Action.ofExcept result

/-- Acquires a session, begins, runs the body and closes the session. A body that panics is an
error. -/
def within (db : Connector σ) (body : TxSession σ → Action σ α) : Action σ α := do
  let tx ← db.acquire
  match ← tx.begin.attempt with
  | .error e => finish tx (.error e)
  | .ok () =>
    let result ← (body tx).recover
    finish tx result

/-- Ends a transaction; without an ending it is left open. -/
def settle (tx : TxSession σ) : Option Ending → Action σ Unit
  | some .committed => tx.commit
  | some .rolledBack => tx.rollback
  | none => return ()

variable (observe : μ → σ → σ)

/-- Runs a chain of at most `budget` steps in one transaction. There is no ending when the steps
were not enough, and then nothing is committed. -/
def run (handlers : Handlers μ) (budget : Nat) (db : Connector σ) (first : Step μ) :
    Action σ (Option Ending) :=
  within db fun tx => do
    let ending ← (drive handlers budget first).run observe tx.toSession
    settle tx ending
    return ending

/-- The step that does nothing and hands arguments to a continuation. -/
def pipeStep (arguments : StepArguments) (f : Continuation μ) : Step μ :=
  (Step.void.merge arguments).andThen f

/-- Hands arguments to a continuation in one transaction, and goes on as it decides. -/
def pipe (budget : Nat) (db : Connector σ) (arguments : StepArguments) (f : Continuation μ) :
    Action σ (Option Ending) :=
  run observe .empty budget db (pipeStep arguments f)

/-- Executes a list of works in one transaction, up to the first error. -/
def runAll (db : Connector σ) (works : List Work) : Action σ (List StepResult) :=
  within db fun tx => do
    let results ← (Work.executeAll works).run observe tx.toSession
    tx.commit
    return results

/-- Runs a program in one transaction, and commits when it ends well. -/
def runProgram (db : Connector σ) (program : Program μ α) : Action σ α :=
  within db fun tx => do
    let a ← program.run observe tx.toSession
    tx.commit
    return a

end Transaction

end SqlPipeline
