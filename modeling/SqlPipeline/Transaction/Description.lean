import SqlPipeline.Transaction.Step
import SqlPipeline.Value.Description

/-!
Descriptions of steps for a reader of logs.

A step is described by its work, its arguments and the way it goes on; a continuation cannot be
looked into, and work on a statement is described by its kind alone.
-/

namespace SqlPipeline

/-- A name and its fields in braces. -/
def describedFields (name : String) (fields : List (String × String)) : String :=
  name ++ " \x7b " ++ ", ".intercalate (fields.map fun f => f.1 ++ ": " ++ f.2) ++ " \x7d"

def Work.described : Work → String
  | .nothing => "Void"
  | .get _ => "Get(..)"
  | .list _ => "List(..)"
  | .insert _ _ => "Insert(..)"
  | .update _ _ => "Update(..)"
  | .assign _ => "UpdateSet(..)"
  | .delete _ => "Delete(..)"
  | .count _ => "Count(..)"
  | .sum _ _ => "Sum(..)"
  | .exec sql arguments =>
    describedFields "Exec"
      [("sql", escapedText sql), ("args", describedList (arguments.map Value.described))]

def StepKind.described : StepKind → String
  | .work w => w.described
  | .marker .committed => escapedText "CommitNow"
  | .marker .rolledBack => escapedText "RollbackNow"

def StepArguments.described (args : StepArguments) : String :=
  describedAs "Args" (describedMembers (args.toList.map fun entry => (entry.1, entry.2.described)))

variable {μ : Type}

/-- The words for what follows a step. -/
def Next.words : Next μ → String
  | .commit => "commit"
  | .call _ => "<continuation>"
  | .handler key => "handler '" ++ key ++ "'"

def Step.described (step : Step μ) : String :=
  describedFields "Step"
    [("kind", step.kind.described), ("args", step.arguments.described),
      ("then", escapedText step.following.words)]

def Flow.described : Flow μ → String
  | .next step => describedAs "Next" step.described
  | .commit => "Commit"
  | .rollback => "Rollback"

end SqlPipeline
