import SqlPipeline.Transaction.Arguments
import SqlPipeline.Transaction.Work

/-!
Steps of a transaction.

A step does some work and then hands what the work produced, with its own arguments, to a
continuation, which decides what follows: another step, or the end of the transaction. A step
without a continuation commits. A marker is a step that does no work and ends the transaction.
-/

namespace SqlPipeline

/-- How a transaction ends when nothing fails. -/
inductive Ending
  | committed
  | rolledBack
  deriving DecidableEq

/-- What is done when a step is reached. -/
inductive StepKind
  | work (w : Work)
  | marker (ending : Ending)

/-- A finished step as its continuation sees it. -/
structure StepContext where
  work : Work
  result : StepResult
  arguments : StepArguments

def StepContext.record? (ctx : StepContext) : Option Record :=
  ctx.work.record?

mutual

inductive Step (μ : Type)
  | mk (kind : StepKind) (arguments : StepArguments) (next : Next μ)

/-- What follows the work of a step. -/
inductive Next (μ : Type)
  | commit
  | call (continuation : StepContext → Program μ (Flow μ))
  /-- The continuation decides that is registered under a name. -/
  | handler (key : String)

/-- What a continuation decides. -/
inductive Flow (μ : Type)
  | next (step : Step μ)
  | commit
  | rollback

end

/-- Decides what follows a finished step. It may make calls of its own. -/
abbrev Continuation (μ : Type) := StepContext → Program μ (Flow μ)

namespace Step

variable {μ : Type}

/-- What is done when the step is reached. -/
def kind : Step μ → StepKind
  | .mk kind _ _ => kind

def arguments : Step μ → StepArguments
  | .mk _ arguments _ => arguments

def following : Step μ → Next μ
  | .mk _ _ next => next

/-- The step that does some work and commits. -/
def ofWork (w : Work) : Step μ := .mk (.work w) .empty .commit

def void : Step μ := ofWork .nothing

/-- The marker that commits. -/
def commitNow : Step μ := .mk (.marker .committed) .empty .commit

/-- The marker that rolls back. -/
def rollbackNow : Step μ := .mk (.marker .rolledBack) .empty .commit

def argument (key : String) (value : Value) : Step μ → Step μ
  | .mk kind arguments next => .mk kind (arguments.set key value) next

/-- Gives the step arguments, which replace its own of the same keys. -/
def merge (other : StepArguments) : Step μ → Step μ
  | .mk kind arguments next => .mk kind (arguments.merge other) next

/-- Goes on with a continuation after the work. -/
def andThen (continuation : Continuation μ) : Step μ → Step μ
  | .mk kind arguments _ => .mk kind arguments (.call continuation)

/-- Goes on with the continuation that is registered under a name. -/
def andThenNamed (key : String) : Step μ → Step μ
  | .mk kind arguments _ => .mk kind arguments (.handler key)

end Step

end SqlPipeline
