import SqlPipeline.Proofs.Transaction.History
import SqlPipeline.Session.Scripted

/-!
The lifecycle of a transaction.

Main statement: whatever the calls of a connector and of its sessions answer, a task that terminates
is run in one transaction, which is begun first, is ended at most once and only behind a body that
came to its end, and whose session is closed once and last; its result is that of the call or of the
body that ended it.
-/

namespace SqlPipeline

variable {μ σ α β : Type}

/-- The action never panics. -/
def Action.Calm (x : Action σ α) : Prop :=
  ∀ s p, (x s).1 ≠ .panic p

/-- Acquiring a session, beginning and closing do not panic. -/
structure Connector.Calm (db : Connector σ) : Prop where
  acquire : db.acquire.Calm
  begin : ∀ s tx s', db.acquire s = (.ok tx, s') → tx.begin.Calm
  close : ∀ s tx s', db.acquire s = (.ok tx, s') → tx.close.Calm

namespace Action

theorem Calm.bind {x : Action σ α} {f : α → Action σ β} (hx : x.Calm)
    (hf : ∀ s a s', x s = (.ok a, s') → (f a).Calm) : (x.bind f).Calm := by
  intro s p hpanic
  rw [Action.bind] at hpanic
  rcases h : x s with ⟨a | e | p', s'⟩ <;> rw [h] at hpanic
  · exact hf s a s' h s' p hpanic
  · cases hpanic
  · cases hpanic
    exact hx s p (congrArg Prod.fst h)

theorem Calm.attempt {x : Action σ α} (hx : x.Calm) : x.attempt.Calm := by
  intro s p hpanic
  rw [Action.attempt] at hpanic
  rcases h : x s with ⟨a | e | p', s'⟩ <;> rw [h] at hpanic <;> cases hpanic
  exact hx s p (congrArg Prod.fst h)

theorem recover_calm (x : Action σ α) : x.recover.Calm :=
  fun _ _ => nofun

theorem ofExcept_calm (result : Except Error α) : (ofExcept result : Action σ α).Calm := by
  intro s p
  cases result <;> exact nofun

end Action

namespace Transaction

/-- The calls of a transaction that has a session: the begin, the statements, what ends the
transaction, and the close. -/
structure Framed (log : List Event) (begun : Ended) (statements endings : List Event)
    (closed : Ended) : Prop where
  calls : log = ⟨.acquire, .ok⟩ :: ⟨.begin, begun⟩ :: (statements ++ endings ++ [⟨.close, closed⟩])
  runs : ∀ ev ∈ statements, ev.call.isStatement = true
  ends : ∀ ev ∈ endings, ∃ ending : Ending, ev.call = ending.call
  once : endings.length ≤ 1
  unbegun : begun ≠ .ok → statements = [] ∧ endings = []

/-- In a frame a transaction is ended by the calls that end it. -/
theorem Framed.mem_iff {log statements endings : List Event} {begun closed : Ended}
    (h : Framed log begun statements endings closed) (ending : Ending) (o : Ended) :
    ⟨ending.call, o⟩ ∈ log ↔ ⟨ending.call, o⟩ ∈ endings := by
  have hnone : ⟨ending.call, o⟩ ∉ statements := by
    intro hmem
    have hcall := h.runs _ hmem
    cases ending <;> cases hcall
  rw [h.calls]
  cases ending <;> simp_all [Ending.call]

namespace Task

/-- The body of the task comes to an end whenever its transaction begins. -/
def Terminates (observe : μ → σ → σ) (db : Connector σ) (task : Task μ α) (s : σ) : Prop :=
  ∀ tx t, db.Opens s tx t → ∃ o t', task.Halts observe tx.toSession t o t'

/-- With every budget that is large enough a task that terminates comes to an end. -/
theorem Terminates.exists_budget {observe : μ → σ → σ} {db : Connector σ} {task : Task μ α} {s : σ}
    (hterminates : task.Terminates observe db s) :
    ∃ least, ∀ budget, least ≤ budget → ∀ tx t, db.Opens s tx t →
      ∀ a, ((task.body budget).run observe tx.toSession t).1 = .ok a → task.ending a ≠ none := by
  by_cases hopens : ∃ tx t, db.Opens s tx t
  · obtain ⟨tx, t, hopens⟩ := hopens
    obtain ⟨o, t', hhalts⟩ := hterminates tx t hopens
    obtain ⟨least, hleast⟩ := hhalts.exists_budget
    refine ⟨least, ?_⟩
    intro budget hbudget tx' t' hopens'
    obtain ⟨rfl, rfl⟩ := hopens.unique hopens'
    exact hleast budget hbudget
  · refine ⟨0, ?_⟩
    intro budget _ tx t h
    exact absurd ⟨tx, t, h⟩ hopens

variable (observe : μ → σ → σ) (db : Connector σ) (task : Task μ α) (s : σ) (log : List Event)

/-- Where the error of a transaction comes from: from the call that ended it, or from its body if no
call did. A panic counts as the error that it is turned into. -/
inductive Cause : Error → Prop
  | acquire {e} (hmem : ⟨.acquire, .failed e⟩ ∈ log) : Cause e
  | begin {e} (hmem : ⟨.begin, .failed e⟩ ∈ log) : Cause e
  | body {tx t t' e} (hopens : db.Opens s tx t)
      (hhalts : task.Halts observe tx.toSession t (.error e) t')
      (hnone : ∀ (ending : Ending) o, ⟨ending.call, o⟩ ∉ log) : Cause e
  | bodyPanicked {tx t t' p} (hopens : db.Opens s tx t)
      (hhalts : task.Halts observe tx.toSession t (.panic p) t')
      (hnone : ∀ (ending : Ending) o, ⟨ending.call, o⟩ ∉ log) : Cause p.toError
  | ending {ending : Ending} {e} (hmem : ⟨ending.call, .failed e⟩ ∈ log) : Cause e
  | endingPanicked {ending : Ending} {p} (hmem : ⟨ending.call, .panicked p⟩ ∈ log) :
      Cause p.toError

/-- What the result and the calls of a transaction have to do with each other. -/
structure Lifecycle (result : Outcome α) : Prop where
  /-- Without a session nothing else happens. -/
  refused : ∀ e t, db.acquire s = (.error e, t) →
    result = .error e ∧ log = [⟨.acquire, .failed e⟩]
  framed : ∀ tx t, db.acquire s = (.ok tx, t) → ∃ begun statements endings closed,
    Framed log begun statements endings closed
  /-- A transaction is ended behind a body that came to its end, and as its answer says. -/
  settled : ∀ (ending : Ending) o, ⟨ending.call, o⟩ ∈ log → ∃ tx t a t',
    db.Opens s tx t ∧ task.Halts observe tx.toSession t (.ok a) t' ∧ task.ending a = some ending
  answered : ∀ a, result = .ok a → ∃ tx t t',
    db.Opens s tx t ∧ task.Halts observe tx.toSession t (.ok a) t'
  succeeded : ∀ ending : Ending, task.Answers ending result ↔ ⟨ending.call, .ok⟩ ∈ log
  failed : (∀ ending : Ending, ⟨ending.call, .ok⟩ ∉ log) →
    ∃ e, result = .error e ∧ task.Cause observe db s log e

variable {observe db task s log}

/-- A run in which neither acquiring nor beginning nor closing panics does not panic. -/
theorem run_calm (hcalm : db.Calm) (task : Task μ α) (budget : Nat) :
    (task.run observe db budget).Calm := by
  have hfinish : ∀ {s tx s'}, db.acquire s = (.ok tx, s') → ∀ result : Except Error α,
      (finish tx result).Calm := fun {s tx s'} hacquire result =>
    (hcalm.close s tx s' hacquire).attempt.bind fun _ _ _ _ => Action.ofExcept_calm result
  rw [run_eq]
  change Action.Calm (Action.bind db.acquire _)
  apply hcalm.acquire.bind
  intro s tx s' hacquire
  change Action.Calm (Action.bind tx.begin.attempt _)
  apply (hcalm.begin s tx s' hacquire).attempt.bind
  intro _ begun _ _
  cases begun with
  | error e => exact hfinish hacquire (.error e)
  | ok _ => exact (Action.recover_calm _).bind fun _ result _ _ => hfinish hacquire result

/-- A transaction that fails without a call that ends it. -/
theorem Lifecycle.of_none {e : Error}
    (hrefused : ∀ e' t, db.acquire s = (.error e', t) → e = e' ∧ log = [⟨.acquire, .failed e'⟩])
    (hframed : ∀ tx t, db.acquire s = (.ok tx, t) → ∃ begun statements endings closed,
      Framed log begun statements endings closed)
    (hnone : ∀ (ending : Ending) o, ⟨ending.call, o⟩ ∉ log)
    (hcause : task.Cause observe db s log e) :
    task.Lifecycle observe db s log (.error e) where
  refused e' t hacquire :=
    ⟨congrArg Outcome.error (hrefused e' t hacquire).1, (hrefused e' t hacquire).2⟩
  framed := hframed
  settled ending o hmem := absurd hmem (hnone ending o)
  answered := nofun
  succeeded ending :=
    ⟨fun ha => absurd ha (task.not_answers_error _ _), fun hmem => absurd hmem (hnone ending .ok)⟩
  failed _ := ⟨e, rfl, hcause⟩

/-- A transaction that has a session and fails without a call that ends it. -/
theorem Lifecycle.of_framed {tx : TxSession σ} {s' : σ} {e : Error} {begun closed : Ended}
    {statements : List Event} (hacquire : db.acquire s = (.ok tx, s'))
    (hframed : Framed log begun statements [] closed)
    (hcause : (∀ (ending : Ending) o, ⟨ending.call, o⟩ ∉ log) → task.Cause observe db s log e) :
    task.Lifecycle observe db s log (.error e) := by
  have hnone : ∀ (ending : Ending) o, ⟨ending.call, o⟩ ∉ log := fun ending o hmem =>
    List.not_mem_nil ((hframed.mem_iff ending o).1 hmem)
  refine .of_none ?_ (fun _ _ _ => ⟨_, _, _, _, hframed⟩) hnone (hcause hnone)
  intro e' t hrefused
  cases hacquire.symm.trans hrefused

/-- A transaction whose body answers and which is then ended. -/
theorem Lifecycle.of_settled {tx : TxSession σ} {s' t : σ} {a : α} {ending : Ending}
    {o : Outcome Unit} {statements : List Event} {closed : Ended} (hopens : db.Opens s tx s')
    (hhalts : task.Halts observe tx.toSession s' (.ok a) t) (hending : task.ending a = some ending)
    (hframed : Framed log .ok statements [⟨ending.call, o.ended⟩] closed) :
    task.Lifecycle observe db s log (.ofExcept (o.map fun _ => a).recovered) := by
  have hmem : ∀ (ending' : Ending) o', ⟨ending'.call, o'⟩ ∈ log ↔
      ending' = ending ∧ o' = o.ended := by
    intro ending' o'
    rw [hframed.mem_iff]
    cases ending <;> cases ending' <;> simp [Ending.call]
  refine ⟨?_, fun _ _ _ => ⟨_, _, _, _, hframed⟩, ?_, ?_, ?_, ?_⟩
  · intro e t' hrefused
    obtain ⟨s₁, hacquire, -⟩ := hopens
    cases hacquire.symm.trans hrefused
  · intro ending' o' hcall
    obtain ⟨rfl, -⟩ := (hmem ending' o').1 hcall
    exact ⟨tx, s', a, t, hopens, hhalts, hending⟩
  · intro a' ha
    cases o <;> cases ha
    exact ⟨tx, s', t, hopens, hhalts⟩
  · intro ending'
    rw [hmem]
    cases o with
    | ok _ =>
        constructor
        · rintro ⟨_, ha, hending'⟩
          cases ha
          exact ⟨Option.some.inj (hending'.symm.trans hending), rfl⟩
        · rintro ⟨rfl, -⟩
          exact ⟨a, rfl, hending⟩
    | error e =>
        exact ⟨fun ha => absurd ha (task.not_answers_error _ _), by rintro ⟨_, ⟨⟩⟩⟩
    | panic p =>
        exact ⟨fun ha => absurd ha (task.not_answers_error _ _), by rintro ⟨_, ⟨⟩⟩⟩
  · intro hnone
    have hcall := (hmem ending o.ended).2 ⟨rfl, rfl⟩
    cases o with
    | ok _ => exact absurd hcall (hnone ending)
    | error e => exact ⟨e, rfl, .ending hcall⟩
    | panic p => exact ⟨p.toError, rfl, .endingPanicked hcall⟩

/-- A history in which the body came to its end is a lifecycle. -/
theorem History.lifecycle {budget : Nat} {o : Outcome α} {t : σ}
    (hhistory : task.History observe db budget s o log t)
    (hends : ∀ tx s', db.Opens s tx s' → ∀ a,
      ((task.body budget).run observe tx.toSession s').1 = .ok a → task.ending a ≠ none) :
    task.Lifecycle observe db s log o := by
  cases hhistory with
  | @refused e t hacquire =>
      refine .of_none ?_ ?_ ?_ (.acquire (List.mem_singleton_self _))
      · intro e' t' hrefused
        cases hacquire.symm.trans hrefused
        exact ⟨rfl, rfl⟩
      · intro tx t' hacquire'
        cases hacquire.symm.trans hacquire'
      · intro ending o hmem
        cases ending <;> cases List.mem_singleton.1 hmem
  | @unbegun tx e s' t hacquire hbegin =>
      have hframed : Framed [⟨.acquire, .ok⟩, ⟨.begin, .failed e⟩, ⟨.close, (tx.close t).1.ended⟩]
          (.failed e) [] [] (tx.close t).1.ended :=
        ⟨rfl, List.forall_mem_nil _, List.forall_mem_nil _, Nat.zero_le 1, fun _ => ⟨rfl, rfl⟩⟩
      exact .of_framed hacquire hframed fun _ =>
        .begin (List.mem_cons_of_mem _ List.mem_cons_self)
  | @begun tx result body s' t hopens hconducted =>
      obtain ⟨s₁, hacquire, -⟩ := id hopens
      have hruns := Program.isStatement_of_mem_log observe tx.toSession (task.body budget) s'
      have hunended : Framed (⟨.acquire, .ok⟩ :: ⟨.begin, .ok⟩ ::
          ((task.body budget).log observe tx.toSession s' ++ [⟨.close, (tx.close t).1.ended⟩])) .ok
          ((task.body budget).log observe tx.toSession s') [] (tx.close t).1.ended :=
        ⟨by rw [List.append_nil], hruns, List.forall_mem_nil _, Nat.zero_le 1,
          fun h => absurd rfl h⟩
      cases hconducted with
      | failed hbody =>
          exact .of_framed hacquire hunended (.body hopens (halts_of_run hbody nofun))
      | panicked hbody =>
          exact .of_framed hacquire hunended (.bodyPanicked hopens (halts_of_run hbody nofun))
      | @unsettled a t hbody hending =>
          exact absurd hending (hends tx s' hopens a (congrArg Prod.fst hbody))
      | @settled a ending o t t' hbody hending hsettle =>
          have hhalts := halts_of_run hbody fun a' ha => by
            cases ha
            exact hending ▸ Option.some_ne_none ending
          refine .of_settled hopens hhalts hending
            ⟨rfl, hruns, ?_, Nat.le_refl 1, fun h => absurd rfl h⟩
          exact fun ev hmem => ⟨ending, congrArg Event.call (List.mem_singleton.1 hmem)⟩

/-- A task that terminates has the lifecycle of a transaction, with every budget of steps that is
large enough. -/
theorem lifecycle_of_terminates (hcalm : db.Calm) (hterminates : task.Terminates observe db s) :
    ∃ least, ∀ budget, least ≤ budget →
      task.Lifecycle observe db s (task.log observe db budget s)
        (task.run observe db budget s).1 := by
  by_cases hopens : ∃ tx s', db.Opens s tx s'
  · obtain ⟨tx, s', hopens⟩ := hopens
    obtain ⟨o, t, hhalts⟩ := hterminates tx s' hopens
    obtain ⟨least, hleast⟩ := hhalts.exists_budget
    refine ⟨least, ?_⟩
    intro budget hbudget
    apply (history (run_calm hcalm task budget s)).lifecycle
    intro tx' t' hopens'
    obtain ⟨rfl, rfl⟩ := hopens.unique hopens'
    exact hleast budget hbudget
  · refine ⟨0, ?_⟩
    intro budget _
    apply (history (run_calm hcalm task budget s)).lifecycle
    intro tx s' h
    exact absurd ⟨tx, s', h⟩ hopens

namespace LifecycleWitness

/-- A continuation that empties a table and then gives up. -/
def handlers : Handlers Empty :=
  Handlers.empty.register "clear" fun _ => do
    let _ ← Program.affected "DELETE FROM stock" []
    return .next .rollbackNow

def clearing : Task Empty (Option Ending) :=
  .chain handlers (Step.void.andThenNamed "clear")

theorem accepting_calm : (ScriptPlan.accepting .sqlite).connector.Calm where
  acquire s p := nofun
  begin s tx s' hacquire := by
    cases hacquire
    exact fun _ _ => nofun
  close s tx s' hacquire := by
    cases hacquire
    exact fun _ _ => nofun

theorem clearing_terminates :
    clearing.Terminates (fun _ s => s) (ScriptPlan.accepting .sqlite).connector ⟨[], []⟩ := by
  rintro tx t ⟨s', hacquire, hbegin⟩
  cases hacquire
  cases hbegin
  exact ⟨.ok (some .rolledBack), _, .ok .rolledBack, rfl,
    .next rfl rfl rfl rfl (.marker rfl)⟩

end LifecycleWitness

open LifecycleWitness in
theorem lifecycle_rollback : (ScriptPlan.accepting .sqlite).connector.Calm ∧
    clearing.Terminates (fun _ s => s) (ScriptPlan.accepting .sqlite).connector ⟨[], []⟩ ∧
    ∃ least, ∀ budget, least ≤ budget →
      clearing.Lifecycle (fun _ s => s) (ScriptPlan.accepting .sqlite).connector ⟨[], []⟩
        (clearing.log (fun _ s => s) (ScriptPlan.accepting .sqlite).connector budget ⟨[], []⟩)
        (clearing.run (fun _ s => s) (ScriptPlan.accepting .sqlite).connector budget ⟨[], []⟩).1 :=
  ⟨accepting_calm, clearing_terminates,
    lifecycle_of_terminates accepting_calm clearing_terminates⟩

end Task

end Transaction

end SqlPipeline
