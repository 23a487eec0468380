import SqlPipeline.Proofs.Transaction.Walk

/-!
The entry points of transactions agree.

A list of works can be run as it is or as a chain with one step for each work, and a program as it
is or as a continuation that runs it and commits. Main statement: whatever a connector and its
sessions answer, both ways make the same calls and leave the same state; the one answers just when
the other commits, and otherwise both end with the same error or panic.
-/

namespace SqlPipeline

variable {μ σ α β : Type}

/-- The chain with one step for each work: each step goes on to the next one, and the last has no
continuation. Without works it is the marker that commits. -/
def Step.ofWorks : List Work → Step μ
  | [] => commitNow
  | [work] => ofWork work
  | work :: next :: rest => (ofWork work).andThen fun _ => .done (.next (ofWorks (next :: rest)))

/-- The continuation that runs a program and then commits. -/
def Program.thenCommit (p : Program μ α) : Continuation μ := fun _ => do
  let _ ← p
  return .commit

namespace Outcome

/-- The one call answers just when the other commits; otherwise they fail or panic alike. -/
structure Agrees (answer : Outcome α) (ended : Outcome (Option Ending)) : Prop where
  commits : (∃ a, answer = .ok a) ↔ ended = .ok (some .committed)
  fails : ∀ e, answer = .error e ↔ ended = .error e
  panics : ∀ p, answer = .panic p ↔ ended = .panic p

theorem agrees_map (answer : Outcome α) :
    answer.Agrees (answer.map fun _ => some .committed) := by
  cases answer with
  | ok a => exact ⟨⟨fun _ => rfl, fun _ => ⟨a, rfl⟩⟩, by simp [map], by simp [map]⟩
  | error e => exact ⟨by simp [map], by simp [map], by simp [map]⟩
  | panic p => exact ⟨by simp [map], by simp [map], by simp [map]⟩

end Outcome

namespace Transaction

/-- The steps of a chain of works execute what the list of the works executes, one step of the
budget for each. -/
theorem drive_ofWorks (handlers : Handlers μ) (works : List Work) {budget : Nat}
    (hbudget : works.length < budget) :
    drive handlers budget (.ofWorks works) =
      (fun _ => some .committed) <$> Work.executeAll works := by
  induction works generalizing budget with
  | nil =>
      obtain ⟨rest, rfl⟩ := Nat.exists_eq_add_of_lt hbudget
      rfl
  | cons work rest ih =>
      obtain ⟨spare, rfl⟩ := Nat.exists_eq_add_one_of_ne_zero (Nat.ne_zero_of_lt hbudget)
      have hlist : ((fun _ => some Ending.committed) <$> Work.executeAll (work :: rest) :
          Program μ (Option Ending)) =
            work.execute.bind fun _ => (fun _ => some .committed) <$> Work.executeAll rest := by
        rw [Work.executeAll]
        simp only [map_bind, map_pure]
        rfl
      rw [hlist, drive_succ]
      cases rest with
      | nil =>
          change (Program.bind work.execute _).bind _ = _
          rw [Program.bind_assoc]
          rfl
      | cons next rest =>
          rw [← ih (Nat.lt_of_succ_lt_succ hbudget)]
          change (Program.bind work.execute _).bind _ = _
          rw [Program.bind_assoc]
          rfl

/-- The step of a pipe executes what its continuation executes. -/
theorem drive_pipeStep (handlers : Handlers μ) (arguments : StepArguments) (p : Program μ α)
    {budget : Nat} (hbudget : 0 < budget) :
    drive handlers budget (pipeStep arguments p.thenCommit) =
      (fun _ => some .committed) <$> p := by
  obtain ⟨spare, rfl⟩ := Nat.exists_eq_add_one_of_ne_zero (Nat.ne_zero_of_lt hbudget)
  rw [drive_succ]
  change (Program.bind p _).bind _ = _
  rw [Program.bind_assoc]
  rfl

/-- What becomes of the answer of a body becomes of the answer of its transaction. -/
theorem within_map (f : α → β) (db : Connector σ) (body : TxSession σ → Action σ α) :
    within db (fun tx => f <$> body tx) = f <$> within db body := by
  have hfinish : ∀ (tx : TxSession σ) (result : Except Error α) (s : σ),
      finish tx (result.map f) s =
        ((finish tx result s).1.map f, (finish tx result s).2) := by
    intro tx result s
    rw [finish_eq, finish_eq]
    rcases tx.close s with ⟨b | e | p, t⟩ <;> cases result <;> rfl
  funext s
  rw [Action.map_eq, within_eq, within_eq]
  rcases db.acquire s with ⟨tx | e | p, s'⟩
  · dsimp only
    rcases tx.begin s' with ⟨b | e | p, t⟩
    · dsimp only
      rw [← hfinish, Action.map_eq]
      rcases body tx t with ⟨a | e | p, t'⟩ <;> rfl
    · exact hfinish tx (.error e) t
    · rfl
  · rfl
  · rfl

namespace Task

variable {task : Task μ α} {task' : Task μ β} {budget : Nat}

/-- A task whose body does what the body of another one does, and ends the transaction the same way,
is run like the other one. -/
theorem run_eq_map (observe : μ → σ → σ) (db : Connector σ) (f : α → β)
    (hbody : task'.body budget = f <$> task.body budget)
    (hending : ∀ a, task'.ending (f a) = task.ending a) :
    task'.run observe db budget = f <$> task.run observe db budget := by
  have hconduct : task'.conduct observe budget =
      fun tx => f <$> task.conduct observe budget tx := by
    funext tx
    rw [conduct, conduct, hbody, Program.run_map]
    simp only [map_bind, bind_map_left, hending, map_pure]
  rw [run_eq, run_eq, hconduct, within_map]

/-- The task makes the calls of a chain of steps and leaves its state; it answers just when the
chain commits, and otherwise both fail or panic alike. -/
structure Agrees (observe : μ → σ → σ) (db : Connector σ) (budget : Nat) (s : σ) (task : Task μ α)
    (chain : Task μ (Option Ending)) : Prop where
  calls : task.log observe db budget s = chain.log observe db budget s
  state : (task.run observe db budget s).2 = (chain.run observe db budget s).2
  result : (task.run observe db budget s).1.Agrees (chain.run observe db budget s).1

/-- A task agrees with a chain that executes what the task executes and then commits. -/
theorem Agrees.of_body {chain : Task μ (Option Ending)} (observe : μ → σ → σ) (db : Connector σ)
    (s : σ) (hbody : chain.body budget = (fun _ => some .committed) <$> task.body budget)
    (hchain : chain.ending (some .committed) = some .committed)
    (htask : ∀ a, task.ending a = some .committed) :
    task.Agrees observe db budget s chain := by
  have hrun : ∀ {τ : Type} (observe : μ → τ → τ) (db : Connector τ) (t : τ),
      chain.run observe db budget t = ((task.run observe db budget t).1.map
        fun _ => some .committed, (task.run observe db budget t).2) := by
    intro τ observe db t
    rw [run_eq_map observe db _ hbody fun a => hchain.trans (htask a).symm, Action.map_eq]
  refine ⟨?_, ?_, ?_⟩
  · rw [log, log, hrun]
  · rw [hrun]
  · rw [hrun]
    exact Outcome.agrees_map _

/-- A series that answers has one result for each work. -/
theorem length_of_series {observe : μ → σ → σ} {session : Session σ} {works : List Work} {s t : σ}
    {o : Outcome (List StepResult)} (hseries : Series observe session works s o t) :
    ∀ results, o = .ok results → results.length = works.length := by
  induction hseries with
  | done =>
      intro results h
      cases h
      rfl
  | failed => nofun
  | panicked => nofun
  | @next _ _ _ o _ _ _ _ _ ih =>
      intro results h
      cases o with
      | ok rest =>
          cases h
          exact congrArg (· + 1) (ih rest rfl)
      | error e => cases h
      | panic p => cases h

/-- The results of a list of works are those of the works, one after the other in one session. -/
theorem series_of_runAll {observe : μ → σ → σ} {db : Connector σ} {works : List Work} {s t : σ}
    {results : List StepResult} (hrun : runAll observe db works s = (.ok results, t)) :
    ∃ tx s' t', db.Opens s tx s' ∧
      Series observe tx.toSession works s' (.ok results) t' := by
  have htask : (Task.works works).run observe db 0 s = (.ok results, t) := hrun
  have hreturns : ∀ p, ((Task.works works).run observe db 0 s).1 ≠ .panic p := by
    rw [htask]
    exact nofun
  obtain ⟨log, hhistory, -⟩ := exists_history hreturns
  rw [htask] at hhistory
  generalize ho : Outcome.ok results = o at hhistory
  cases hhistory with
  | refused hacquire => cases ho
  | unbegun hacquire hbegin => cases ho
  | @begun tx result log s' t' hopens hconducted =>
      cases hconducted with
      | failed hbody => cases ho
      | panicked hbody => cases ho
      | unsettled hbody hending => cases hending
      | @settled a ending o t' _ hbody hending hsettle =>
          cases o with
          | ok _ =>
              cases ho
              exact ⟨tx, s', t', hopens, series_of_executeAll hbody⟩
          | error e => cases ho
          | panic p => cases ho

/-- The entry points of transactions agree. A list of works is run like the chain with one step for
each of them, whatever handlers are registered, and its results are those of the works in order; a
program is run like a pipe whose continuation runs it and commits. -/
theorem entry_points_agree (observe : μ → σ → σ) (db : Connector σ) (s : σ) (budget : Nat) :
    (∀ (works : List Work) (handlers : Handlers μ), works.length < budget →
      (Task.works works).Agrees observe db budget s (.chain handlers (.ofWorks works)) ∧
      ∀ results t, runAll observe db works s = (.ok results, t) →
        results.length = works.length ∧ ∃ tx s' t', db.Opens s tx s' ∧
          Series observe tx.toSession works s' (.ok results) t') ∧
    ∀ (α : Type) (p : Program μ α) (arguments : StepArguments), 0 < budget →
      (Task.program p).Agrees observe db budget s (.pipe arguments p.thenCommit) := by
  refine ⟨?_, ?_⟩
  · intro works handlers hbudget
    refine ⟨.of_body observe db s (drive_ofWorks handlers works hbudget) rfl fun _ => rfl, ?_⟩
    intro results t hrun
    obtain ⟨tx, s', t', hopens, hseries⟩ := series_of_runAll hrun
    exact ⟨length_of_series hseries results rfl, tx, s', t', hopens, hseries⟩
  · intro α p arguments hbudget
    exact .of_body observe db s (drive_pipeStep .empty arguments p hbudget) rfl fun _ => rfl

namespace AgreementWitness

/-- A server that refuses to commit. -/
def plan : ScriptPlan := { ScriptPlan.accepting .sqlite with refused := ["commit"] }

def sale : List Work :=
  [.exec "DELETE FROM cart WHERE id = ?" [.int 1], .nothing, .exec "UPDATE stock SET n = n + 1" []]

/-- A program that goes on after an error. -/
def emptying : Program Empty Nat := do
  let _ ← (Program.affected "DELETE FROM cart" []).attempt
  Program.affected "DELETE FROM stock" []

end AgreementWitness

open AgreementWitness in
/-- A refused commit is the error of the list, of its chain, of the program and of its pipe. -/
theorem agree_refused_commit : sale.length < 4 ∧ 0 < 4 ∧
    (Task.works sale).Agrees (fun (_ : Empty) s => s) plan.connector 4 ⟨[], []⟩
      (.chain .empty (.ofWorks sale)) ∧
    (Transaction.run (fun (_ : Empty) s => s) .empty 4 plan.connector (.ofWorks sale)
      ⟨[], []⟩).1 = .error (.connection "commit refused") ∧
    (Transaction.pipe (fun _ s => s) 4 plan.connector .empty emptying.thenCommit ⟨[], []⟩).1 =
      .error (.connection "commit refused") := by
  obtain ⟨hworks, hprogram⟩ :=
    entry_points_agree (fun (_ : Empty) s => s) plan.connector ⟨[], []⟩ 4
  have hlist := (hworks sale .empty (by decide)).1
  have hpipe := hprogram Nat emptying .empty (by decide)
  exact ⟨by decide, by decide, hlist, (hlist.result.fails _).1 rfl, (hpipe.result.fails _).1 rfl⟩

end Task

end Transaction

end SqlPipeline
