import SqlPipeline.Session.Basic

/-!
Programs over a session.

A program is a tree of session calls: at each call it says what it does with the answer, errors
included; a panic of a call ends the program. Between calls it may leave notes for whoever runs it.
Since a program names its calls and holds no state, what it can do to a session is what the session
offers, and what it does can be read off the tree.
-/

namespace SqlPipeline

/-- A program that leaves notes of type `μ` and ends with an answer of type `α`. -/
inductive Program (μ α : Type)
  | done (a : α)
  | fail (e : Error)
  | panic (p : Panic)
  | note (m : μ) (next : Program μ α)
  | dialect (next : Dialect → Program μ α)
  | query (sql : String) (params : List Value) (next : Except Error (List Row) → Program μ α)
  | execute (sql : String) (params : List Value) (next : Except Error Nat → Program μ α)
  | stream (sql : String) (params : List Value) (next : Except Error RowStream → Program μ α)

namespace Program

variable {μ α β γ : Type}

def bind (x : Program μ α) (f : α → Program μ β) : Program μ β :=
  match x with
  | .done a => f a
  | .fail e => .fail e
  | .panic p => .panic p
  | .note m next => .note m (bind next f)
  | .dialect next => .dialect fun d => bind (next d) f
  | .query sql params next => .query sql params fun r => bind (next r) f
  | .execute sql params next => .execute sql params fun r => bind (next r) f
  | .stream sql params next => .stream sql params fun r => bind (next r) f

theorem bind_done (x : Program μ α) : x.bind .done = x := by
  induction x <;> simp_all [Program.bind]

theorem bind_assoc (x : Program μ α) (f : α → Program μ β) (g : β → Program μ γ) :
    (x.bind f).bind g = x.bind fun a => (f a).bind g := by
  induction x <;> simp_all [Program.bind]

instance : Monad (Program μ) where
  pure := .done
  bind := Program.bind

instance : LawfulMonad (Program μ) :=
  LawfulMonad.mk' (Program μ) bind_done (fun _ _ => rfl) bind_assoc

def ofOutcome : Outcome α → Program μ α
  | .ok a => .done a
  | .error e => .fail e
  | .panic p => .panic p

def ofExcept (result : Except Error α) : Program μ α :=
  ofOutcome (.ofExcept result)

def tell (m : μ) : Program μ Unit := .note m (.done ())

def askDialect : Program μ Dialect := .dialect .done

/-- The rows of a query; its error ends the program. -/
def rows (sql : String) (params : List Value) : Program μ (List Row) :=
  .query sql params ofExcept

/-- The number of rows that a statement affects; its error ends the program. -/
def affected (sql : String) (params : List Value) : Program μ Nat :=
  .execute sql params ofExcept

/-- The stream of a query; its error ends the program. -/
def rowStream (sql : String) (params : List Value) : Program μ RowStream :=
  .stream sql params ofExcept

/-- The result of the program; its error does not end what follows. -/
def attempt : Program μ α → Program μ (Except Error α)
  | .done a => .done (.ok a)
  | .fail e => .done (.error e)
  | .panic p => .panic p
  | .note m next => .note m (attempt next)
  | .dialect next => .dialect fun d => attempt (next d)
  | .query sql params next => .query sql params fun r => attempt (next r)
  | .execute sql params next => .execute sql params fun r => attempt (next r)
  | .stream sql params next => .stream sql params fun r => attempt (next r)

variable {σ : Type}

/-- Makes a call and goes on with its result; a panic of the call ends the program. -/
def afterCall {γ : Type} (call : Action σ γ) (next : Except Error γ → Action σ α) : Action σ α :=
  fun s =>
    match call s with
    | (.ok c, s) => next (.ok c) s
    | (.error e, s) => next (.error e) s
    | (.panic p, s) => (.panic p, s)

/-- Runs a program against a session. `observe` says what a note does to the state. -/
def run (observe : μ → σ → σ) (session : Session σ) : Program μ α → Action σ α
  | .done a => fun s => (.ok a, s)
  | .fail e => fun s => (.error e, s)
  | .panic p => fun s => (.panic p, s)
  | .note m next => fun s => run observe session next (observe m s)
  | .dialect next => run observe session (next session.dialect)
  | .query sql params next =>
    afterCall (session.query sql params) fun r => run observe session (next r)
  | .execute sql params next =>
    afterCall (session.execute sql params) fun r => run observe session (next r)
  | .stream sql params next =>
    afterCall (session.stream sql params) fun r => run observe session (next r)

/-- A program that goes on runs as its parts one after the other. -/
theorem run_bind (observe : μ → σ → σ) (session : Session σ) (x : Program μ α)
    (f : α → Program μ β) :
    (x.bind f).run observe session =
      (x.run observe session).bind fun a => (f a).run observe session := by
  induction x with
  | done a => rfl
  | fail e => rfl
  | panic p => rfl
  | note m next ih => funext s; simp only [Program.bind, run, ih]; rfl
  | dialect next ih => simp only [Program.bind, run, ih]
  | query sql params next ih =>
    funext s
    simp only [Program.bind, run, afterCall, ih, Action.bind]
    rcases session.query sql params s with ⟨a | e | p, s'⟩ <;> rfl
  | execute sql params next ih =>
    funext s
    simp only [Program.bind, run, afterCall, ih, Action.bind]
    rcases session.execute sql params s with ⟨a | e | p, s'⟩ <;> rfl
  | stream sql params next ih =>
    funext s
    simp only [Program.bind, run, afterCall, ih, Action.bind]
    rcases session.stream sql params s with ⟨a | e | p, s'⟩ <;> rfl

/-- A program that asks for the dialect goes on with the session's. -/
theorem run_askDialect_bind (observe : μ → σ → σ) (session : Session σ)
    (f : Dialect → Program μ α) :
    (askDialect >>= f).run observe session = (f session.dialect).run observe session := rfl

/-- A call whose error ends the program is the call. -/
theorem afterCall_ofExcept (observe : μ → σ → σ) (session : Session σ) (call : Action σ γ) :
    afterCall call (fun r => (ofExcept r : Program μ γ).run observe session) = call := by
  funext s
  rw [afterCall]
  rcases call s with ⟨c | e | p, s'⟩ <;> rfl

theorem run_rows (observe : μ → σ → σ) (session : Session σ) (sql : String)
    (params : List Value) : (rows sql params).run observe session = session.query sql params :=
  afterCall_ofExcept observe session _

theorem run_rowStream (observe : μ → σ → σ) (session : Session σ) (sql : String)
    (params : List Value) :
    (rowStream sql params).run observe session = session.stream sql params :=
  afterCall_ofExcept observe session _

theorem run_ofOutcome (observe : μ → σ → σ) (session : Session σ) (outcome : Outcome α) :
    (ofOutcome outcome).run observe session = Action.ofOutcome outcome := by
  cases outcome <;> rfl

theorem run_ofExcept (observe : μ → σ → σ) (session : Session σ) (result : Except Error α) :
    (ofExcept result).run observe session = Action.ofExcept result :=
  run_ofOutcome observe session (.ofExcept result)

theorem run_map (observe : μ → σ → σ) (session : Session σ) (f : α → β) (p : Program μ α) :
    (f <$> p).run observe session = f <$> p.run observe session :=
  run_bind observe session p fun a => .done (f a)

end Program

end SqlPipeline
