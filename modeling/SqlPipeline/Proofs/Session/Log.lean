import SqlPipeline.Session.Program
import SqlPipeline.Session.Recorded

/-!
Logs of the calls of a session.

A logged session keeps every call together with the way it ended. Main statements: a program does
the same in two sessions whose calls do the same to related states, and related states are left;
hence a program does in a logged session what it does in the session itself, and adds to the log the
statements that it runs and nothing else.
-/

namespace SqlPipeline

/-- How a call ended, without its answer. -/
inductive Ended
  | ok
  | failed (e : Error)
  | panicked (p : Panic)
  deriving DecidableEq

/-- How the call ended. -/
def Outcome.ended {α : Type} : Outcome α → Ended
  | .ok _ => .ok
  | .error e => .failed e
  | .panic p => .panicked p

/-- A call that was made, and how it ended. -/
structure Event where
  call : Call
  ended : Ended

/-- The call runs a statement. -/
def Call.isStatement : Call → Bool
  | .query _ _ | .execute _ _ | .stream _ _ => true
  | _ => false

variable {μ σ τ α β : Type}

/-- Acts on the state and then logs the call. -/
def Action.logged (call : Call) (x : Action σ α) : Action (Recorded σ Event) α := fun r =>
  ((x r.state).1, ⟨(x r.state).2, r.entries ++ [⟨call, (x r.state).1.ended⟩]⟩)

/-- The session with a log of its calls. -/
def Session.logged (session : Session σ) : Session (Recorded σ Event) where
  dialect := session.dialect
  query sql params := (session.query sql params).logged (.query sql params)
  execute sql params := (session.execute sql params).logged (.execute sql params)
  stream sql params := (session.stream sql params).logged (.stream sql params)

/-- The session with a log of its calls. -/
def TxSession.logged (tx : TxSession σ) : TxSession (Recorded σ Event) where
  toSession := tx.toSession.logged
  begin := tx.begin.logged .begin
  commit := tx.commit.logged .commit
  rollback := tx.rollback.logged .rollback
  close := tx.close.logged .close

/-- The connector with a log of its calls and of those of its sessions. -/
def Connector.logged (db : Connector σ) : Connector (Recorded σ Event) where
  acquire := do
    let tx ← db.acquire.logged .acquire
    return tx.logged

/-- What a note does to a state does not touch the log. -/
def noted (observe : μ → σ → σ) (m : μ) (r : Recorded σ Event) : Recorded σ Event :=
  { r with state := observe m r.state }

/-- From related states the actions end alike and leave related states. -/
def Action.Relates (R : σ → τ → Prop) (x : Action σ α) (y : Action τ α) : Prop :=
  ∀ s t, R s t → (x s).1 = (y t).1 ∧ R (x s).2 (y t).2

/-- The sessions speak one dialect, and their calls do the same to related states. -/
structure Session.Relates (R : σ → τ → Prop) (observe : μ → σ → σ) (session : Session σ)
    (observe' : μ → τ → τ) (session' : Session τ) : Prop where
  dialect : session.dialect = session'.dialect
  note : ∀ m s t, R s t → R (observe m s) (observe' m t)
  query : ∀ sql params, Action.Relates R (session.query sql params) (session'.query sql params)
  execute : ∀ sql params,
    Action.Relates R (session.execute sql params) (session'.execute sql params)
  stream : ∀ sql params, Action.Relates R (session.stream sql params) (session'.stream sql params)

theorem Action.logged_of_eq {x : Action σ α} {s s' : σ} {o : Outcome α} (hx : x s = (o, s'))
    (call : Call) (old : List Event) :
    x.logged call ⟨s, old⟩ = (o, ⟨s', old ++ [⟨call, o.ended⟩]⟩) := by
  rw [logged, hx]

/-- A logged call does the same behind an older log. -/
theorem Action.logged_relates (call : Call) (x : Action σ α) (old : List Event) :
    Action.Relates (fun s t => t = ⟨s.state, old ++ s.entries⟩) (x.logged call)
      (x.logged call) := by
  rintro s _ rfl
  exact ⟨rfl, by simp [logged]⟩

namespace Program

theorem afterCall_relates {R : σ → τ → Prop} {x : Action σ β} {y : Action τ β}
    (hcall : Action.Relates R x y) {f : Except Error β → Action σ α}
    {g : Except Error β → Action τ α} (hnext : ∀ r, Action.Relates R (f r) (g r)) :
    Action.Relates R (afterCall x f) (afterCall y g) := by
  intro s t hst
  obtain ⟨hended, hleft⟩ := hcall s t hst
  rw [afterCall, afterCall]
  rcases hx : x s with ⟨b | e | p, s'⟩ <;> rcases hy : y t with ⟨b' | e' | p', t'⟩ <;>
    simp only [hx, hy, Outcome.ok.injEq, Outcome.error.injEq, Outcome.panic.injEq,
      reduceCtorEq] at hended hleft
  · exact hended ▸ hnext (.ok b) s' t' hleft
  · exact hended ▸ hnext (.error e) s' t' hleft
  · exact ⟨hended ▸ rfl, hleft⟩

/-- A program does the same in related sessions. -/
theorem run_relates {R : σ → τ → Prop} {observe : μ → σ → σ} {session : Session σ}
    {observe' : μ → τ → τ} {session' : Session τ}
    (h : Session.Relates R observe session observe' session') (p : Program μ α) :
    Action.Relates R (p.run observe session) (p.run observe' session') := by
  induction p with
  | done a =>
      intro s t hst
      exact ⟨rfl, hst⟩
  | fail e =>
      intro s t hst
      exact ⟨rfl, hst⟩
  | panic p =>
      intro s t hst
      exact ⟨rfl, hst⟩
  | note m next ih =>
      intro s t hst
      exact ih _ _ (h.note m s t hst)
  | dialect next ih =>
      rw [run, run, h.dialect]
      exact ih session'.dialect
  | query sql params next ih => exact afterCall_relates (h.query sql params) ih
  | execute sql params next ih => exact afterCall_relates (h.execute sql params) ih
  | stream sql params next ih => exact afterCall_relates (h.stream sql params) ih

variable (observe : μ → σ → σ) (session : Session σ)

/-- What a program keeps of a state when every note and every call keeps it. -/
theorem run_keeps {P : σ → Prop} (hnote : ∀ m s, P s → P (observe m s))
    (hquery : ∀ sql params s, P s → P (session.query sql params s).2)
    (hexecute : ∀ sql params s, P s → P (session.execute sql params s).2)
    (hstream : ∀ sql params s, P s → P (session.stream sql params s).2)
    (p : Program μ α) {s : σ} (hs : P s) : P (p.run observe session s).2 := by
  have hrelates : Session.Relates (fun s t => s = t ∧ P t) observe session observe session :=
    { dialect := rfl
      note := fun m s t ⟨heq, hP⟩ => ⟨heq ▸ rfl, hnote m t hP⟩
      query := fun sql params s t ⟨heq, hP⟩ => ⟨heq ▸ rfl, heq ▸ rfl, hquery sql params t hP⟩
      execute := fun sql params s t ⟨heq, hP⟩ =>
        ⟨heq ▸ rfl, heq ▸ rfl, hexecute sql params t hP⟩
      stream := fun sql params s t ⟨heq, hP⟩ =>
        ⟨heq ▸ rfl, heq ▸ rfl, hstream sql params t hP⟩ }
  exact (run_relates hrelates p s s ⟨rfl, hs⟩).2.2

/-- The calls that a program makes from a state on. -/
def log (p : Program μ α) (s : σ) : List Event :=
  (p.run (noted observe) session.logged ⟨s, []⟩).2.entries

/-- In a logged session a program does what it does in the session itself, and its calls are added
to the log. -/
theorem run_logged (p : Program μ α) (r : Recorded σ Event) :
    p.run (noted observe) session.logged r =
      ((p.run observe session r.state).1,
        ⟨(p.run observe session r.state).2, r.entries ++ p.log observe session r.state⟩) := by
  have hplain : Session.Relates (fun s t => t.state = s) observe session (noted observe)
      session.logged :=
    { dialect := rfl
      note := fun _ _ _ hst => hst ▸ rfl
      query := fun _ _ _ _ hst => hst ▸ ⟨rfl, rfl⟩
      execute := fun _ _ _ _ hst => hst ▸ ⟨rfl, rfl⟩
      stream := fun _ _ _ _ hst => hst ▸ ⟨rfl, rfl⟩ }
  have hbehind : Session.Relates (fun s t => t = ⟨s.state, r.entries ++ s.entries⟩)
      (noted observe) session.logged (noted observe) session.logged :=
    { dialect := rfl
      note := fun _ _ _ hst => hst ▸ rfl
      query := fun sql params => (session.query sql params).logged_relates _ r.entries
      execute := fun sql params => (session.execute sql params).logged_relates _ r.entries
      stream := fun sql params => (session.stream sql params).logged_relates _ r.entries }
  obtain ⟨hended, hstate⟩ := run_relates hplain p r.state r rfl
  have hentries := (run_relates hbehind p ⟨r.state, []⟩ r (by rw [List.append_nil])).2
  refine Prod.ext hended.symm ?_
  rw [← hstate, hentries]
  rfl

/-- A program makes no call but statements. -/
theorem isStatement_of_mem_log (p : Program μ α) (s : σ) :
    ∀ ev ∈ p.log observe session s, ev.call.isStatement = true := by
  have hadd : ∀ {old : List Event} {call : Call} {ended : Ended}, call.isStatement = true →
      (∀ ev ∈ old, ev.call.isStatement = true) →
      ∀ ev ∈ old ++ [⟨call, ended⟩], ev.call.isStatement = true := by
    intro old call ended hcall hold
    exact List.forall_mem_append.2 ⟨hold, List.forall_mem_singleton.2 hcall⟩
  have hempty : ∀ ev ∈ ([] : List Event), ev.call.isStatement = true := List.forall_mem_nil _
  apply run_keeps (noted observe) session.logged
    (P := fun r => ∀ ev ∈ r.entries, ev.call.isStatement = true)
  · intro m r hr
    exact hr
  · intro sql params r hr
    exact hadd rfl hr
  · intro sql params r hr
    exact hadd rfl hr
  · intro sql params r hr
    exact hadd rfl hr
  · exact hempty

end Program

end SqlPipeline
