import Mathlib.Data.List.Chain
import SqlPipeline.Proofs.Transaction.Lifecycle

/-!
The order of the steps of a transaction.

A chain is a walk from step to step. Main statement: the calls of a run are those of the steps that
it reaches, one after the other; each step is reached by the decision of the one before it, and what
it does depends on the step itself, the handlers and the state alone; a step that fails is the last.
-/

namespace SqlPipeline

variable {μ σ α β : Type}

namespace StepArguments

/-- Of the values that are set the last one of a key is kept. -/
theorem get?_setAll (args : StepArguments) (entries : List (String × Value)) (key : String) :
    (args.setAll entries).get? key = (entries.reverse.lookup key).or (args.get? key) := by
  induction entries generalizing args with
  | nil => rfl
  | cons entry rest ih =>
      obtain ⟨k, value⟩ := entry
      change ((args.set k value).setAll rest).get? key = _
      rw [ih, get?_set, List.reverse_cons, List.lookup_append, Option.or_assoc]
      congr 1
      by_cases hkey : key = k
      · simp [hkey]
      · simp [hkey, List.lookup_cons, beq_false_of_ne hkey]

end StepArguments

/-- Something that is attached to a step before it is run. -/
inductive Attachment (μ : Type)
  | argument (key : String) (value : Value)
  | arguments (args : StepArguments)
  | continuation (f : Continuation μ)
  | handler (key : String)

namespace Attachment

/-- The step with the attachment. -/
def attach : Attachment μ → Step μ → Step μ
  | .argument key value => Step.argument key value
  | .arguments args => Step.merge args
  | .continuation f => Step.andThen f
  | .handler key => Step.andThenNamed key

/-- The arguments that it gives to a step, in order. -/
def writes : Attachment μ → List (String × Value)
  | .argument key value => [(key, value)]
  | .arguments args => args.toList
  | .continuation _ | .handler _ => []

theorem kind_attach (a : Attachment μ) (step : Step μ) : (a.attach step).kind = step.kind := by
  cases a <;> cases step <;> rfl

theorem arguments_attach (a : Attachment μ) (step : Step μ) :
    (a.attach step).arguments = step.arguments.setAll a.writes := by
  cases a <;> cases step <;> rfl

end Attachment

namespace Step

/-- The step with some attachments, in order. -/
def attachAll (step : Step μ) (attachments : List (Attachment μ)) : Step μ :=
  attachments.foldl (fun step a => a.attach step) step

theorem kind_attachAll (step : Step μ) (attachments : List (Attachment μ)) :
    (step.attachAll attachments).kind = step.kind := by
  induction attachments generalizing step with
  | nil => rfl
  | cons a rest ih => exact (ih (a.attach step)).trans (a.kind_attach step)

/-- An argument has the value that was attached to it last. -/
theorem get?_attachAll (step : Step μ) (attachments : List (Attachment μ)) (key : String) :
    (step.attachAll attachments).arguments.get? key =
      ((attachments.flatMap Attachment.writes).reverse.lookup key).or
        (step.arguments.get? key) := by
  induction attachments generalizing step with
  | nil => rfl
  | cons a rest ih =>
      change ((a.attach step).attachAll rest).arguments.get? key = _
      rw [ih, a.arguments_attach, StepArguments.get?_setAll, List.flatMap_cons,
        List.reverse_append, List.lookup_append, Option.or_assoc]

end Step

namespace Program

variable {observe : μ → σ → σ} {session : Session σ}

theorem log_done (a : α) (s : σ) : (done a : Program μ α).log observe session s = [] := rfl

/-- The calls of a program that goes on are those of its parts. -/
theorem log_bind (x : Program μ α) (f : α → Program μ β) (s : σ) :
    (x.bind f).log observe session s = x.log observe session s ++
      match x.run observe session s with
      | (.ok a, t) => (f a).log observe session t
      | _ => [] := by
  rw [log, run_bind, Action.bind, run_logged]
  dsimp only
  rw [List.nil_append]
  rcases x.run observe session s with ⟨a | e | p, t⟩
  · dsimp only
    rw [run_logged]
  · exact (List.append_nil _).symm
  · exact (List.append_nil _).symm

end Program

/-- The decision that a marker stands for. -/
def Ending.flow : Ending → Flow μ
  | .committed => .commit
  | .rolledBack => .rollback

/-- How a chain ends with a decision, unless another step follows. -/
def Outcome.ending? : Outcome (Flow μ) → Option (Outcome Ending)
  | .ok (.next _) => none
  | .ok .commit => some (.ok .committed)
  | .ok .rollback => some (.ok .rolledBack)
  | .error e => some (.error e)
  | .panic p => some (.panic p)

/-- What is done for one step, up to the decision what follows it. -/
def Step.decide (handlers : Handlers μ) (step : Step μ) : Program μ (Flow μ) :=
  match step.kind with
  | .marker ending => .done ending.flow
  | .work work =>
    match handlers.resolve step.following with
    | .error e => .fail e
    | .ok continuation? => work.execute.bind fun result =>
      match continuation? with
      | none => .done .commit
      | some f => f ⟨work, result, step.arguments⟩

namespace Transaction

/-- Goes on as a decision says, for at most `budget` steps. -/
def follow (handlers : Handlers μ) (budget : Nat) : Flow μ → Program μ (Option Ending)
  | .next step => drive handlers budget step
  | .commit => .done (some .committed)
  | .rollback => .done (some .rolledBack)

/-- A chain is driven decision by decision. -/
theorem drive_succ (handlers : Handlers μ) (budget : Nat) (step : Step μ) :
    drive handlers (budget + 1) step = (step.decide handlers).bind (follow handlers budget) := by
  rw [drive, Step.decide]
  cases step.kind with
  | marker ending => cases ending <;> rfl
  | work work =>
      dsimp only
      cases handlers.resolve step.following with
      | error e => rfl
      | ok continuation? =>
          change Program.bind _ _ = _
          rw [Program.bind_assoc]
          congr 1
          funext result
          cases continuation? with
          | none => rfl
          | some f =>
              change Program.bind _ _ = Program.bind _ _
              congr 1

variable (observe : μ → σ → σ) (session : Session σ) (handlers : Handlers μ)

/-- What a step does when it is reached: the decision that it comes to, its calls, and the state
that it leaves. -/
inductive Visit (step : Step μ) (s : σ) : Outcome (Flow μ) → List Event → σ → Prop
  | marker {ending} (hkind : step.kind = .marker ending) : Visit step s (.ok ending.flow) [] s
  | unregistered {work key} (hkind : step.kind = .work work)
      (hname : step.following = .handler key) (hmissing : handlers.find? key = none) :
      Visit step s (.error (.config (.missingHandler key))) [] s
  | failed {work next? e t} (hkind : step.kind = .work work)
      (hresolve : handlers.resolve step.following = .ok next?)
      (hwork : work.execute.run observe session s = (.error e, t)) :
      Visit step s (.error e) (work.execute.log observe session s) t
  | panicked {work next? p t} (hkind : step.kind = .work work)
      (hresolve : handlers.resolve step.following = .ok next?)
      (hwork : work.execute.run observe session s = (.panic p, t)) :
      Visit step s (.panic p) (work.execute.log observe session s) t
  | last {work result t} (hkind : step.kind = .work work)
      (hresolve : handlers.resolve step.following = .ok none)
      (hwork : work.execute.run observe session s = (.ok result, t)) :
      Visit step s (.ok .commit) (work.execute.log observe session s) t
  | continued {work f result decision s' t} (hkind : step.kind = .work work)
      (hresolve : handlers.resolve step.following = .ok (some f))
      (hwork : work.execute.run observe session s = (.ok result, s'))
      (hcalled : (f ⟨work, result, step.arguments⟩).run observe session s' = (decision, t)) :
      Visit step s decision (work.execute.log observe session s ++
        (f ⟨work, result, step.arguments⟩).log observe session s') t

/-- A step that was reached, and what it did. -/
structure Visited (μ σ : Type) where
  step : Step μ
  start : σ
  decision : Outcome (Flow μ)
  calls : List Event
  stop : σ

/-- The steps that a chain reaches, in order: the first one, after each step the one that it decides
on in the state that it leaves, and no step after a decision that ends the chain. -/
structure Walk (first : Step μ) (s : σ) (visits : List (Visited μ σ)) (o : Outcome Ending)
    (t : σ) : Prop where
  visited : ∀ v ∈ visits, Visit observe session handlers v.step v.start v.decision v.calls v.stop
  starts : ∃ v ∈ visits.head?, v.step = first ∧ v.start = s
  follows : visits.IsChain fun v next => v.decision = .ok (.next next.step) ∧ v.stop = next.start
  ends : ∃ v ∈ visits.getLast?, v.decision.ending? = some o ∧ v.stop = t

variable {observe session handlers}

/-- Only one thing can happen to a step, and `Visit` lists it. -/
theorem visit_of_run {step : Step μ} {s t : σ} {decision : Outcome (Flow μ)}
    (hrun : (step.decide handlers).run observe session s = (decision, t)) :
    Visit observe session handlers step s decision
      ((step.decide handlers).log observe session s) t := by
  cases hkind : step.kind with
  | marker ending =>
      simp only [Step.decide, hkind] at hrun ⊢
      cases hrun
      exact .marker hkind
  | work work =>
      cases hresolve : handlers.resolve step.following with
      | error e =>
          obtain ⟨key, hname, hmissing, rfl⟩ := resolve_eq_error hresolve
          simp only [Step.decide, hkind, hresolve] at hrun ⊢
          cases hrun
          exact .unregistered hkind hname hmissing
      | ok next? =>
          simp only [Step.decide, hkind, hresolve, Program.run_bind, Action.bind] at hrun
          simp only [Step.decide, hkind, hresolve, Program.log_bind]
          rcases hwork : work.execute.run observe session s with ⟨result | e | p, s'⟩ <;>
            rw [hwork] at hrun <;> dsimp only at hrun ⊢
          · cases next? with
            | none =>
                cases hrun
                rw [Program.log_done, List.append_nil]
                exact .last hkind hresolve hwork
            | some f => exact .continued hkind hresolve hwork hrun
          · cases hrun
            rw [List.append_nil]
            exact .failed hkind hresolve hwork
          · cases hrun
            rw [List.append_nil]
            exact .panicked hkind hresolve hwork

namespace Walk

variable {first : Step μ} {s s' t : σ} {decision : Outcome (Flow μ)} {calls : List Event}
  {visits : List (Visited μ σ)} {o : Outcome Ending}

theorem stop (hvisit : Visit observe session handlers first s decision calls t)
    (hends : decision.ending? = some o) :
    Walk observe session handlers first s [⟨first, s, decision, calls, t⟩] o t where
  visited := List.forall_mem_singleton.2 hvisit
  starts := ⟨_, rfl, rfl, rfl⟩
  follows := .singleton _
  ends := ⟨_, rfl, hends, rfl⟩

theorem next {following : Step μ}
    (hvisit : Visit observe session handlers first s (.ok (.next following)) calls s')
    (hwalk : Walk observe session handlers following s' visits o t) :
    Walk observe session handlers first s (⟨first, s, .ok (.next following), calls, s'⟩ :: visits)
      o t := by
  obtain ⟨hvisited, ⟨v, hv, rfl, rfl⟩, hfollows, last, hlast, hends⟩ := hwalk
  obtain ⟨rest, rfl⟩ : ∃ rest, visits = v :: rest := List.head?_eq_some_iff.1 hv
  refine ⟨List.forall_mem_cons.2 ⟨hvisit, hvisited⟩, ⟨_, rfl, rfl, rfl⟩, ?_, last, ?_, hends⟩
  · exact hfollows.cons_cons ⟨rfl, rfl⟩
  · rw [List.getLast?_cons_cons]
    exact hlast

/-- Nothing is reached behind a step whose decision ends the chain. -/
theorem eq_nil_of_ending {before after : List (Visited μ σ)} {v : Visited μ σ} {o' : Outcome Ending}
    (hwalk : Walk observe session handlers first s (before ++ v :: after) o t)
    (hends : v.decision.ending? = some o') : after = [] ∧ o = o' ∧ t = v.stop := by
  cases after with
  | nil =>
      obtain ⟨last, hlast, ho, ht⟩ := hwalk.ends
      rw [List.getLast?_append, List.getLast?_singleton] at hlast
      cases hlast
      exact ⟨rfl, Option.some.inj (ho.symm.trans hends), ht.symm⟩
  | cons w rest =>
      have hnext := (List.isChain_append.1 hwalk.follows).2.1
      rw [List.isChain_cons_cons] at hnext
      rw [hnext.1.1] at hends
      cases hends

end Walk

section Drive

variable {budget : Nat} {first : Step μ} {s s' : σ} {decision : Outcome (Flow μ)}

/-- After a decision on another step the chain is driven on from there. -/
theorem drive_of_next {following : Step μ}
    (hrun : (first.decide handlers).run observe session s = (.ok (.next following), s')) :
    (drive handlers (budget + 1) first).run observe session s =
        (drive handlers budget following).run observe session s' ∧
      (drive handlers (budget + 1) first).log observe session s =
        (first.decide handlers).log observe session s ++
          (drive handlers budget following).log observe session s' := by
  rw [drive_succ, Program.run_bind, Action.bind, Program.log_bind, hrun]
  exact ⟨rfl, rfl⟩

/-- After a decision that ends the chain nothing is done any more. -/
theorem drive_of_ending {e : Outcome Ending}
    (hrun : (first.decide handlers).run observe session s = (decision, s'))
    (hends : decision.ending? = some e) :
    (drive handlers (budget + 1) first).run observe session s = (e.map some, s') ∧
      (drive handlers (budget + 1) first).log observe session s =
        (first.decide handlers).log observe session s := by
  rw [drive_succ, Program.run_bind, Action.bind, Program.log_bind, hrun]
  cases decision with
  | ok flow =>
      cases flow with
      | next following => cases hends
      | commit =>
          cases hends
          exact ⟨rfl, List.append_nil _⟩
      | rollback =>
          cases hends
          exact ⟨rfl, List.append_nil _⟩
  | error e' =>
      cases hends
      exact ⟨rfl, List.append_nil _⟩
  | panic p =>
      cases hends
      exact ⟨rfl, List.append_nil _⟩

theorem eq_next_of_ending?_eq_none (hnone : decision.ending? = none) :
    ∃ following, decision = .ok (.next following) := by
  cases decision with
  | ok flow =>
      cases flow with
      | next following => exact ⟨following, rfl⟩
      | commit => cases hnone
      | rollback => cases hnone
  | error e => cases hnone
  | panic p => cases hnone

/-- A chain that is driven to its end is a walk, and its calls are those of the steps. -/
theorem walk_of_drive {t : σ} {o : Outcome (Option Ending)}
    (hdrive : (drive handlers budget first).run observe session s = (o, t)) (hends : o ≠ .ok none) :
    ∃ visits e, o = e.map some ∧ Walk observe session handlers first s visits e t ∧
      (drive handlers budget first).log observe session s = visits.flatMap Visited.calls := by
  induction budget generalizing first s with
  | zero =>
      cases hdrive
      exact absurd rfl hends
  | succ budget ih =>
      rcases hrun : (first.decide handlers).run observe session s with ⟨decision, s'⟩
      have hvisit := visit_of_run hrun
      cases hending : decision.ending? with
      | none =>
          obtain ⟨following, rfl⟩ := eq_next_of_ending?_eq_none hending
          obtain ⟨hgoes, hcalls⟩ := drive_of_next hrun
          obtain ⟨visits, e, ho, hwalk, hlog⟩ := ih (hgoes.symm.trans hdrive)
          refine ⟨_, e, ho, hwalk.next hvisit, ?_⟩
          rw [hcalls, List.flatMap_cons, hlog]
      | some e =>
          obtain ⟨hstops, hcalls⟩ := drive_of_ending hrun hending
          cases hstops.symm.trans hdrive
          refine ⟨_, e, rfl, .stop hvisit hending, ?_⟩
          rw [hcalls, List.flatMap_singleton]

end Drive

theorem finish_snd (tx : TxSession σ) (result : Except Error α) (s : σ) :
    (finish tx result s).2 = (tx.close s).2 := by
  rw [finish_eq]
  rcases tx.close s with ⟨a | e | p, t⟩ <;> rfl

namespace Task

variable {db : Connector σ}

/-- A transaction makes the calls of its body, and then at most one that ends it. -/
theorem Conducted.exists_endings {task : Task μ α} {budget : Nat} {tx : TxSession σ} {s t : σ}
    {result : Except Error α} {calls : List Event}
    (hconducted : task.Conducted observe budget tx s result calls t) :
    ∃ endings, calls = (task.body budget).log observe tx.toSession s ++ endings ∧
      (∀ ev ∈ endings, ∃ ending : Ending, ev.call = ending.call) ∧ endings.length ≤ 1 := by
  have hnone : ∀ {calls : List Event}, ∃ endings, calls = calls ++ endings ∧
      (∀ ev ∈ endings, ∃ ending : Ending, ev.call = ending.call) ∧ endings.length ≤ 1 :=
    ⟨[], (List.append_nil _).symm, List.forall_mem_nil _, Nat.zero_le 1⟩
  cases hconducted with
  | failed => exact hnone
  | panicked => exact hnone
  | unsettled => exact hnone
  | @settled a ending =>
      exact ⟨_, rfl, List.forall_mem_singleton.2 ⟨ending, rfl⟩, Nat.le_refl 1⟩

/-- The calls of a task whose transaction begins are framed: between the begin and the end of the
transaction stand those of the body. -/
theorem framed_log (task : Task μ α) (budget : Nat) {tx : TxSession σ} {s s' : σ}
    (hopens : db.Opens s tx s') :
    ∃ endings closed, Framed (task.log observe db budget s) .ok
      ((task.body budget).log observe tx.toSession s') endings closed := by
  obtain ⟨s₁, hacquire, hbegin⟩ := hopens
  have hacquired := acquire_logged_of_eq hacquire []
  have hbegun : tx.logged.begin _ = _ := Action.logged_of_eq hbegin .begin [⟨.acquire, .ok⟩]
  obtain ⟨calls, hconducted, hcalls⟩ :=
    conducted observe budget task tx s' [⟨.acquire, .ok⟩, ⟨.begin, .ok⟩]
  have hlog : task.log observe db budget s = ⟨.acquire, .ok⟩ :: ⟨.begin, .ok⟩ ::
      (calls ++ [⟨.close, (tx.close (task.conduct observe budget tx s').2).1.ended⟩]) := by
    rw [log, run_eq]
    simp only [within_eq, hacquired, List.nil_append, hbegun, List.cons_append, Outcome.ended,
      finish_snd, hcalls]
    rfl
  obtain ⟨endings, rfl, hends, honce⟩ := hconducted.exists_endings
  exact ⟨endings, _, hlog, Program.isStatement_of_mem_log observe tx.toSession _ s', hends, honce,
    fun h => absurd rfl h⟩

variable (observe db)

/-- The run of a chain, whose transaction begins, goes step by step. -/
structure StepByStep (handlers : Handlers μ) (first : Step μ) (budget : Nat) (s : σ)
    (tx : TxSession σ) (s' : σ) (visits : List (Visited μ σ)) (o : Outcome Ending) (t : σ) :
    Prop where
  walk : Walk observe tx.toSession handlers first s' visits o t
  driven : (drive handlers budget first).run observe tx.toSession s' = (o.map some, t)
  /-- Between the begin and the end of the transaction the calls are those of the visits. -/
  framed : ∃ endings closed, Framed ((Task.chain handlers first).log observe db budget s) .ok
    (visits.flatMap Visited.calls) endings closed
  /-- A step whose decision ends the chain is the last one. -/
  halted : ∀ before v after o', visits = before ++ v :: after → v.decision.ending? = some o' →
    after = [] ∧ o = o'
  /-- A failure of a step is the result of the run, if the session can be closed. -/
  failed : ∀ e, o.recovered = .error e → (∀ p, (tx.close t).1 ≠ .panic p) →
    ((Task.chain handlers first).run observe db budget s).1 = .error e

variable {observe db}

theorem run_of_failed {task : Task μ α} {budget : Nat} {tx : TxSession σ} {s s' t : σ}
    {o : Outcome α} {e : Error} (hopens : db.Opens s tx s')
    (hbody : (task.body budget).run observe tx.toSession s' = (o, t))
    (hfailed : o.recovered = .error e) (hcalm : ∀ p, (tx.close t).1 ≠ .panic p) :
    (task.run observe db budget s).1 = .error e := by
  obtain ⟨s₁, hacquire, hbegin⟩ := hopens
  have hconduct : (task.conduct observe budget tx s').1.recovered = .error e ∧
      (task.conduct observe budget tx s').2 = t := by
    rw [conduct_eq, hbody]
    cases o with
    | ok a => cases hfailed
    | error e' => exact ⟨hfailed, rfl⟩
    | panic p => exact ⟨hfailed, rfl⟩
  simp only [run_eq, within_eq, hacquire, hbegin, finish_eq, hconduct.1, hconduct.2]
  rcases hclose : tx.close t with ⟨a | e' | p, t'⟩
  · rfl
  · rfl
  · exact absurd (congrArg Prod.fst hclose) (hcalm p)

/-- A chain that terminates is run step by step. The arguments of a step are those that were
attached to it, the last of a key counting, and what is attached to a marker leaves it a marker. -/
theorem steps_in_order (handlers : Handlers μ) (first : Step μ) (s : σ)
    (hterminates : (Task.chain handlers first).Terminates observe db s) :
    (∃ least, ∀ budget, least ≤ budget → ∀ tx s', db.Opens s tx s' →
      ∃ visits o t, StepByStep observe db handlers first budget s tx s' visits o t) ∧
    ∀ (kind : StepKind) (attachments : List (Attachment μ)),
      ((Step.mk kind .empty .commit).attachAll attachments).kind = kind ∧
      ∀ key, ((Step.mk kind .empty .commit).attachAll attachments).arguments.get? key =
        (attachments.flatMap Attachment.writes).reverse.lookup key := by
  constructor
  · by_cases hopens : ∃ tx s', db.Opens s tx s'
    · obtain ⟨tx, s', hopens⟩ := hopens
      obtain ⟨o, t, hhalts⟩ := hterminates tx s' hopens
      obtain ⟨e, rfl, hchain⟩ := id hhalts
      obtain ⟨least, hleast⟩ := hchain.exists_budget
      refine ⟨least, ?_⟩
      intro budget hbudget tx' s'' hopens'
      obtain ⟨rfl, rfl⟩ := hopens.unique hopens'
      have hdriven := hleast budget hbudget
      have hends : e.map some ≠ .ok none := by cases e <;> nofun
      obtain ⟨visits, o, ho, hwalk, hlog⟩ := walk_of_drive hdriven hends
      rw [ho] at hdriven
      refine ⟨visits, o, t, hwalk, hdriven, ?_, ?_, ?_⟩
      · rw [← hlog]
        exact framed_log (Task.chain handlers first) budget hopens
      · rintro before v after o' rfl hending
        obtain ⟨hafter, heq, -⟩ := hwalk.eq_nil_of_ending hending
        exact ⟨hafter, heq⟩
      · intro error hfailed hcalm
        have hrecovered : (o.map some).recovered = .error error := by
          cases o with
          | ok ending => cases hfailed
          | error e => exact congrArg _ (Except.error.inj hfailed)
          | panic p => exact congrArg _ (Except.error.inj hfailed)
        exact run_of_failed hopens hdriven hrecovered hcalm
    · refine ⟨0, ?_⟩
      intro budget _ tx s' h
      exact absurd ⟨tx, s', h⟩ hopens
  · intro kind attachments
    refine ⟨Step.kind_attachAll _ attachments, ?_⟩
    intro key
    rw [Step.get?_attachAll]
    exact Option.or_none

namespace WalkWitness

/-- A step whose continuation hands one of its arguments on, and a second one that names a
continuation that nobody registered. -/
def first : Step Empty :=
  (Step.ofWork (.exec "DELETE FROM cart" [])).attachAll
    [.argument "left" (.int 7), .argument "left" (.int 6), .continuation fun ctx =>
      .done (.next ((Step.ofWork (.exec "UPDATE stock SET left = ?" [])).attachAll
        [.arguments ctx.arguments, .handler "audit"]))]

theorem first_terminates : (Task.chain .empty first).Terminates (fun _ s => s)
    (ScriptPlan.accepting .sqlite).connector ⟨[], []⟩ := by
  rintro tx t ⟨s', hacquire, hbegin⟩
  cases hacquire
  cases hbegin
  exact ⟨.error (.config (.missingHandler "audit")), _, .error (.config (.missingHandler "audit")),
    rfl, .next rfl rfl rfl rfl (.unresolved rfl rfl rfl)⟩

end WalkWitness

open WalkWitness in
theorem steps_unregistered :
    (Task.chain .empty first).Terminates (fun _ s => s) (ScriptPlan.accepting .sqlite).connector
      ⟨[], []⟩ ∧
    (ScriptPlan.accepting .sqlite).connector.Opens ⟨[], []⟩
      (ScriptPlan.accepting .sqlite).txSession ⟨[], []⟩ ∧
    ∃ budget visits t, StepByStep (fun _ s => s) (ScriptPlan.accepting .sqlite).connector .empty
      first budget ⟨[], []⟩ (ScriptPlan.accepting .sqlite).txSession ⟨[], []⟩ visits
        (.error (.config (.missingHandler "audit"))) t := by
  have hopens : (ScriptPlan.accepting .sqlite).connector.Opens ⟨[], []⟩
      (ScriptPlan.accepting .sqlite).txSession ⟨[], []⟩ := ⟨_, rfl, rfl⟩
  refine ⟨first_terminates, hopens, ?_⟩
  obtain ⟨⟨least, hleast⟩, -⟩ := steps_in_order .empty first _ first_terminates
  obtain ⟨visits, o, t, hsteps⟩ :=
    hleast (least + 2) (Nat.le_add_right least 2) _ ⟨[], []⟩ hopens
  have ho : o = .error (.config (.missingHandler "audit")) := by
    have hdriven := congrArg Prod.fst hsteps.driven
    cases o with
    | ok ending => cases hdriven
    | error e => exact congrArg Outcome.error (Outcome.error.inj hdriven).symm
    | panic p => cases hdriven
  exact ⟨least + 2, visits, t, ho ▸ hsteps⟩

end Task

end Transaction

end SqlPipeline
