import SqlPipeline.Error

/-!
Outcomes of calls, and actions on a state.

A call answers, fails with an error, or panics. An action is a call that changes a state, whichever
way it ends.
-/

namespace SqlPipeline

inductive Outcome (α : Type)
  | ok (a : α)
  | error (e : Error)
  | panic (p : Panic)

namespace Outcome

variable {α β : Type}

/-- The outcome with another answer. -/
def map (f : α → β) : Outcome α → Outcome β
  | .ok a => .ok (f a)
  | .error e => .error e
  | .panic p => .panic p

/-- Goes on with the answer of a call. -/
def bind (x : Outcome α) (f : α → Outcome β) : Outcome β :=
  match x with
  | .ok a => f a
  | .error e => .error e
  | .panic p => .panic p

instance : Monad Outcome where
  pure := .ok
  bind := Outcome.bind

/-- The outcome that a result stands for. -/
def ofExcept : Except Error α → Outcome α
  | .ok a => .ok a
  | .error e => .error e

@[simp] theorem ofExcept_eq_ok_iff {result : Except Error α} {a : α} :
    ofExcept result = ok a ↔ result = .ok a := by
  cases result <;> simp [ofExcept]

/-- What is made of the answer of a call, if it can be made. -/
def andThen (x : Outcome α) (f : α → Except Error β) : Outcome β :=
  x.bind fun a => ofExcept (f a)

@[simp] theorem andThen_ok (a : α) (f : α → Except Error β) :
    (ok a).andThen f = ofExcept (f a) := rfl

/-- The result of the call, a recovered panic being an error. -/
def recovered : Outcome α → Except Error α
  | .ok a => .ok a
  | .error e => .error e
  | .panic p => .error p.toError

end Outcome

/-- A call that changes a state. -/
def Action (σ α : Type) := σ → Outcome α × σ

namespace Action

variable {σ α β γ : Type}

def pure (a : α) : Action σ α := fun s => (.ok a, s)

def fail (e : Error) : Action σ α := fun s => (.error e, s)

/-- Goes on with the answer of an action; errors and panics end the whole. -/
def bind (x : Action σ α) (f : α → Action σ β) : Action σ β := fun s =>
  match x s with
  | (.ok a, s) => f a s
  | (.error e, s) => (.error e, s)
  | (.panic p, s) => (.panic p, s)

theorem bind_pure (x : Action σ α) : x.bind Action.pure = x := by
  funext s
  simp only [Action.bind, Action.pure]
  rcases x s with ⟨a | e | p, s'⟩ <;> rfl

theorem bind_assoc (x : Action σ α) (f : α → Action σ β) (g : β → Action σ γ) :
    (x.bind f).bind g = x.bind fun a => (f a).bind g := by
  funext s
  simp only [Action.bind]
  rcases x s with ⟨a | e | p, s'⟩ <;> rfl

instance : Monad (Action σ) where
  pure := Action.pure
  bind := Action.bind

instance : LawfulMonad (Action σ) :=
  LawfulMonad.mk' (Action σ) bind_pure (fun _ _ => rfl) bind_assoc

theorem map_eq (f : α → β) (x : Action σ α) (s : σ) :
    (f <$> x) s = ((x s).1.map f, (x s).2) := by
  change Action.bind x (fun a => Action.pure (f a)) s = _
  rw [Action.bind]
  rcases x s with ⟨a | e | p, t⟩ <;> rfl

theorem bind_snd_of_read (x : Action σ α) (read : α → Action σ β)
    (hread : ∀ a s, (read a s).2 = s) (s : σ) : (x.bind read s).2 = (x s).2 := by
  rw [Action.bind]
  rcases x s with ⟨a | e | p, t⟩
  · exact hread a t
  · rfl
  · rfl

/-- The action whose panics are turned into errors. -/
def recover (x : Action σ α) : Action σ (Except Error α) := fun s =>
  match x s with
  | (outcome, s) => (.ok outcome.recovered, s)

/-- The action whose errors do not end what follows. -/
def attempt (x : Action σ α) : Action σ (Except Error α) := fun s =>
  match x s with
  | (.ok a, s) => (.ok (.ok a), s)
  | (.error e, s) => (.ok (.error e), s)
  | (.panic p, s) => (.panic p, s)

theorem attempt_snd (x : Action σ α) (s : σ) : (x.attempt s).2 = (x s).2 := by
  rw [attempt]
  rcases x s with ⟨a | e | p, t⟩ <;> rfl

/-- Ends with the outcome and keeps the state. -/
def ofOutcome (outcome : Outcome α) : Action σ α := fun s => (outcome, s)

def ofExcept (result : Except Error α) : Action σ α := .ofOutcome (.ofExcept result)

end Action

end SqlPipeline
