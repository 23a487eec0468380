import SqlPipeline.Transaction.Pipeline

/-!
How chains of steps and lists of works run to their end.

The rules below say what ends a chain and with what: a marker, a name without a continuation, the
work of a step, its continuation, or the decision of that continuation. They know no budget. Main
statement: a chain runs to an end by the rules just when some budget of steps, and then every larger
one, drives it to that end; a list of works is executed by its rules.
-/

namespace SqlPipeline

namespace Transaction

variable {μ σ : Type} (observe : μ → σ → σ) (session : Session σ) (handlers : Handlers μ)

/-- A chain of steps that starts in the first state ends in the last one, and how. -/
inductive Chain : Step μ → σ → Outcome Ending → σ → Prop
  | marker {step ending s} (hkind : step.kind = .marker ending) : Chain step s (.ok ending) s
  | unresolved {step work key s} (hkind : step.kind = .work work)
      (hname : step.following = .handler key) (hmissing : handlers.find? key = none) :
      Chain step s (.error (.config (.missingHandler key))) s
  | workFailed {step work next? e s s'} (hkind : step.kind = .work work)
      (hresolve : handlers.resolve step.following = .ok next?)
      (hwork : work.execute.run observe session s = (.error e, s')) :
      Chain step s (.error e) s'
  | workPanicked {step work next? p s s'} (hkind : step.kind = .work work)
      (hresolve : handlers.resolve step.following = .ok next?)
      (hwork : work.execute.run observe session s = (.panic p, s')) :
      Chain step s (.panic p) s'
  | last {step work result s s'} (hkind : step.kind = .work work)
      (hresolve : handlers.resolve step.following = .ok none)
      (hwork : work.execute.run observe session s = (.ok result, s')) :
      Chain step s (.ok .committed) s'
  | continuationFailed {step work f result e s s' s''} (hkind : step.kind = .work work)
      (hresolve : handlers.resolve step.following = .ok (some f))
      (hwork : work.execute.run observe session s = (.ok result, s'))
      (hnext : (f ⟨work, result, step.arguments⟩).run observe session s' = (.error e, s'')) :
      Chain step s (.error e) s''
  | continuationPanicked {step work f result p s s' s''} (hkind : step.kind = .work work)
      (hresolve : handlers.resolve step.following = .ok (some f))
      (hwork : work.execute.run observe session s = (.ok result, s'))
      (hnext : (f ⟨work, result, step.arguments⟩).run observe session s' = (.panic p, s'')) :
      Chain step s (.panic p) s''
  | commits {step work f result s s' s''} (hkind : step.kind = .work work)
      (hresolve : handlers.resolve step.following = .ok (some f))
      (hwork : work.execute.run observe session s = (.ok result, s'))
      (hnext : (f ⟨work, result, step.arguments⟩).run observe session s' = (.ok .commit, s'')) :
      Chain step s (.ok .committed) s''
  | rollsBack {step work f result s s' s''} (hkind : step.kind = .work work)
      (hresolve : handlers.resolve step.following = .ok (some f))
      (hwork : work.execute.run observe session s = (.ok result, s'))
      (hnext : (f ⟨work, result, step.arguments⟩).run observe session s' =
        (.ok .rollback, s'')) :
      Chain step s (.ok .rolledBack) s''
  | next {step work f result following o s s' s'' t} (hkind : step.kind = .work work)
      (hresolve : handlers.resolve step.following = .ok (some f))
      (hwork : work.execute.run observe session s = (.ok result, s'))
      (hnext : (f ⟨work, result, step.arguments⟩).run observe session s' =
        (.ok (.next following), s''))
      (hrest : Chain following s'' o t) : Chain step s o t

/-- A list of works that starts in the first state ends in the last one, and how. -/
inductive Series : List Work → σ → Outcome (List StepResult) → σ → Prop
  | done {s} : Series [] s (.ok []) s
  | failed {work rest e s s'} (hwork : work.execute.run observe session s = (.error e, s')) :
      Series (work :: rest) s (.error e) s'
  | panicked {work rest p s s'} (hwork : work.execute.run observe session s = (.panic p, s')) :
      Series (work :: rest) s (.panic p) s'
  | next {work rest result o s s' t}
      (hwork : work.execute.run observe session s = (.ok result, s'))
      (hrest : Series rest s' o t) : Series (work :: rest) s (o.map (result :: ·)) t

variable {observe session handlers}

/-- A budget of one more step runs the work of the step and goes on behind its continuation. -/
theorem drive_run_succ (budget : Nat) (step : Step μ) (work : Work)
    (hkind : step.kind = .work work) {next? : Option (Continuation μ)}
    (hresolve : handlers.resolve step.following = .ok next?) :
    (drive handlers (budget + 1) step).run observe session =
      (work.execute.run observe session).bind fun result =>
        match next? with
        | none => Action.pure (some .committed)
        | some f =>
          ((f ⟨work, result, step.arguments⟩).run observe session).bind fun flow =>
            match flow with
            | .next following => (drive handlers budget following).run observe session
            | .commit => Action.pure (some .committed)
            | .rollback => Action.pure (some .rolledBack) := by
  rw [drive, hkind]
  simp only [hresolve]
  change (Program.bind _ _).run observe session = _
  rw [Program.run_bind]
  congr 1
  funext result
  cases next? with
  | none => rfl
  | some f =>
      change (Program.bind _ _).run observe session = _
      rw [Program.run_bind]
      congr 1
      funext flow
      cases flow <;> rfl

/-- Only a name without a continuation cannot be resolved. -/
theorem resolve_eq_error {next : Next μ} {e : Error} (h : handlers.resolve next = .error e) :
    ∃ key, next = .handler key ∧ handlers.find? key = none ∧
      e = .config (.missingHandler key) := by
  cases next with
  | commit => cases h
  | call f => cases h
  | handler key =>
      rw [Handlers.resolve] at h
      cases hfind : handlers.find? key with
      | some f =>
          rw [hfind] at h
          cases h
      | none =>
          rw [hfind] at h
          cases h
          exact ⟨key, rfl, hfind, rfl⟩

/-- What a budget drives to an end has that end by the rules. -/
theorem chain_of_drive {budget : Nat} {step : Step μ} {s s' : σ} {o : Outcome (Option Ending)}
    (hdrive : (drive handlers budget step).run observe session s = (o, s'))
    (hends : o ≠ .ok none) :
    ∃ e : Outcome Ending, o = e.map some ∧ Chain observe session handlers step s e s' := by
  induction budget generalizing step s with
  | zero =>
      cases hdrive
      exact absurd rfl hends
  | succ budget ih =>
      cases hkind : step.kind with
      | marker ending =>
          rw [drive, hkind] at hdrive
          cases hdrive
          exact ⟨.ok ending, rfl, .marker hkind⟩
      | work work =>
          cases hresolve : handlers.resolve step.following with
          | error e =>
              obtain ⟨key, hname, hmissing, rfl⟩ := resolve_eq_error hresolve
              rw [drive, hkind] at hdrive
              simp only [hresolve] at hdrive
              cases hdrive
              exact ⟨_, rfl, .unresolved hkind hname hmissing⟩
          | ok next? =>
              rw [drive_run_succ budget step work hkind hresolve, Action.bind] at hdrive
              rcases hwork : work.execute.run observe session s with ⟨result | e | p, s₁⟩ <;>
                rw [hwork] at hdrive
              · cases next? with
                | none =>
                    cases hdrive
                    exact ⟨.ok .committed, rfl, .last hkind hresolve hwork⟩
                | some f =>
                    dsimp only [Action.bind] at hdrive
                    rcases hnext : (f ⟨work, result, step.arguments⟩).run observe session s₁ with
                      ⟨(following | _ | _) | e | p, s₂⟩ <;> rw [hnext] at hdrive
                    · obtain ⟨e, ho, hrest⟩ := ih hdrive
                      exact ⟨e, ho, .next hkind hresolve hwork hnext hrest⟩
                    · cases hdrive
                      exact ⟨.ok .committed, rfl, .commits hkind hresolve hwork hnext⟩
                    · cases hdrive
                      exact ⟨.ok .rolledBack, rfl, .rollsBack hkind hresolve hwork hnext⟩
                    · cases hdrive
                      exact ⟨.error e, rfl, .continuationFailed hkind hresolve hwork hnext⟩
                    · cases hdrive
                      exact ⟨.panic p, rfl, .continuationPanicked hkind hresolve hwork hnext⟩
              · cases hdrive
                exact ⟨.error e, rfl, .workFailed hkind hresolve hwork⟩
              · cases hdrive
                exact ⟨.panic p, rfl, .workPanicked hkind hresolve hwork⟩

/-- What one step of the budget does, whatever is left of it, is done by every budget but none. -/
theorem exists_budget_of_succ {step : Step μ} {s s' : σ} {o : Outcome (Option Ending)}
    (h : ∀ budget, (drive handlers (budget + 1) step).run observe session s = (o, s')) :
    ∃ least, ∀ budget, least ≤ budget →
      (drive handlers budget step).run observe session s = (o, s') := by
  refine ⟨1, ?_⟩
  intro budget hbudget
  obtain ⟨rest, rfl⟩ := Nat.exists_eq_add_of_le' hbudget
  exact h rest

/-- A chain that ends by the rules is driven to that end by every budget that is large enough. -/
theorem Chain.exists_budget {step : Step μ} {s s' : σ} {e : Outcome Ending}
    (hchain : Chain observe session handlers step s e s') :
    ∃ least, ∀ budget, least ≤ budget →
      (drive handlers budget step).run observe session s = (e.map some, s') := by
  -- Every rule but the last takes one step of the budget.
  induction hchain with
  | marker hkind =>
      apply exists_budget_of_succ
      intro budget
      rw [drive, hkind]
      rfl
  | unresolved hkind hname hmissing =>
      apply exists_budget_of_succ
      intro budget
      rw [drive, hkind]
      simp only [hname, Handlers.resolve, hmissing]
      rfl
  | workFailed hkind hresolve hwork =>
      apply exists_budget_of_succ
      intro budget
      simp only [drive_run_succ budget _ _ hkind hresolve, Action.bind, hwork, Outcome.map]
  | workPanicked hkind hresolve hwork =>
      apply exists_budget_of_succ
      intro budget
      simp only [drive_run_succ budget _ _ hkind hresolve, Action.bind, hwork, Outcome.map]
  | last hkind hresolve hwork =>
      apply exists_budget_of_succ
      intro budget
      simp only [drive_run_succ budget _ _ hkind hresolve, Action.bind, hwork, Action.pure,
        Outcome.map]
  | continuationFailed hkind hresolve hwork hnext =>
      apply exists_budget_of_succ
      intro budget
      simp only [drive_run_succ budget _ _ hkind hresolve, Action.bind, hwork, hnext, Outcome.map]
  | continuationPanicked hkind hresolve hwork hnext =>
      apply exists_budget_of_succ
      intro budget
      simp only [drive_run_succ budget _ _ hkind hresolve, Action.bind, hwork, hnext, Outcome.map]
  | commits hkind hresolve hwork hnext =>
      apply exists_budget_of_succ
      intro budget
      simp only [drive_run_succ budget _ _ hkind hresolve, Action.bind, hwork, hnext, Action.pure,
        Outcome.map]
  | rollsBack hkind hresolve hwork hnext =>
      apply exists_budget_of_succ
      intro budget
      simp only [drive_run_succ budget _ _ hkind hresolve, Action.bind, hwork, hnext, Action.pure,
        Outcome.map]
  | next hkind hresolve hwork hnext _ ih =>
      obtain ⟨least, hleast⟩ := ih
      refine ⟨least + 1, ?_⟩
      intro budget hbudget
      have hone : 1 ≤ budget := Nat.le_trans (Nat.le_add_left 1 least) hbudget
      obtain ⟨rest, rfl⟩ := Nat.exists_eq_add_of_le' hone
      simp only [drive_run_succ rest _ _ hkind hresolve, Action.bind, hwork, hnext]
      exact hleast rest (Nat.le_of_succ_le_succ hbudget)

/-- A list of works is executed by the rules. -/
theorem series_of_executeAll {works : List Work} {s s' : σ} {o : Outcome (List StepResult)}
    (hrun : (Work.executeAll works).run observe session s = (o, s')) :
    Series observe session works s o s' := by
  induction works generalizing s s' o with
  | nil =>
      cases hrun
      exact .done
  | cons work rest ih =>
      have hbind : (Work.executeAll (work :: rest)).run observe session =
          (work.execute.run observe session).bind fun result =>
            ((Work.executeAll rest).run observe session).bind fun results =>
              Action.pure (result :: results) := by
        change (Program.bind _ _).run observe session = _
        rw [Program.run_bind]
        congr 1
        funext result
        change (Program.bind _ _).run observe session = _
        rw [Program.run_bind]
        rfl
      rw [hbind, Action.bind] at hrun
      rcases hwork : work.execute.run observe session s with ⟨result | e | p, s₁⟩ <;>
        rw [hwork] at hrun
      · dsimp only [Action.bind] at hrun
        rcases hrest : (Work.executeAll rest).run observe session s₁ with
          ⟨results | e | p, s₂⟩ <;> rw [hrest] at hrun <;> cases hrun <;>
          exact .next hwork (ih hrest)
      · cases hrun
        exact .failed hwork
      · cases hrun
        exact .panicked hwork

end Transaction

end SqlPipeline
