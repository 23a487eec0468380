import SqlPipeline.Record
import SqlPipeline.Value.Read

/-!
Arguments that one step of a transaction carries to the next.

Arguments are kept like the fields of a record: each key once, a later value in the place of an
earlier one.
-/

namespace SqlPipeline

structure StepArguments where
  fields : Record

namespace StepArguments

def empty : StepArguments := ⟨.empty⟩

def set (args : StepArguments) (key : String) (value : Value) : StepArguments :=
  ⟨args.fields.set key value⟩

/-- The arguments with those of a list, later values replacing earlier ones. -/
def setAll (args : StepArguments) (entries : List (String × Value)) : StepArguments :=
  entries.foldl (fun args entry => args.set entry.1 entry.2) args

/-- The arguments of a list, later values replacing earlier ones. -/
def ofList (entries : List (String × Value)) : StepArguments :=
  empty.setAll entries

def toList (args : StepArguments) : List (String × Value) :=
  args.fields.fields

/-- The arguments with those of `other`, which replace their own. -/
def merge (args other : StepArguments) : StepArguments :=
  args.setAll other.toList

def get? (args : StepArguments) (key : String) : Option Value :=
  args.toList.lookup key

/-- The value given last to a key is the one that it has. -/
theorem get?_set (args : StepArguments) (key k : String) (value : Value) :
    (args.set key value).get? k = if k = key then some value else args.get? k :=
  Record.lookup_putField key k value args.fields.fields

def contains (args : StepArguments) (key : String) : Bool :=
  (args.get? key).isSome

def length (args : StepArguments) : Nat :=
  args.toList.length

def isEmpty (args : StepArguments) : Bool :=
  args.fields.isEmpty

/-- A typed read of the value of a key, which has to be there. -/
def read {α : Type} (read : Value.Reader α) (args : StepArguments) (key : String) :
    Except Error α :=
  match args.get? key with
  | none => .error (.config (.missingArgument key))
  | some v => (read v).mapError (Error.onColumn key)

end StepArguments

end SqlPipeline
