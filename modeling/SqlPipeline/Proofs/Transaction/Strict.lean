import SqlPipeline.Transaction.Work

/-!
Programs that give up on the first error of a call.

Main statement: every list of works is executed by such a program.
-/

namespace SqlPipeline

variable {μ α β : Type}

/-- The program does not answer, whatever its calls come to. -/
def Program.GivesUp : Program μ α → Prop
  | .done _ => False
  | .fail _ => True
  | .panic _ => True
  | .note _ next => GivesUp next
  | .dialect next => ∀ d, GivesUp (next d)
  | .query _ _ next => ∀ r, GivesUp (next r)
  | .execute _ _ next => ∀ r, GivesUp (next r)
  | .stream _ _ next => ∀ r, GivesUp (next r)

/-- The program gives up on the first error of a call, and streams nothing. -/
def Program.Strict : Program μ α → Prop
  | .done _ => True
  | .fail _ => True
  | .panic _ => True
  | .note _ next => Strict next
  | .dialect next => ∀ d, Strict (next d)
  | .query _ _ next => (∀ rows, Strict (next (.ok rows))) ∧ ∀ e, GivesUp (next (.error e))
  | .execute _ _ next => (∀ n, Strict (next (.ok n))) ∧ ∀ e, GivesUp (next (.error e))
  | .stream _ _ _ => False

namespace Program

theorem GivesUp.bind {x : Program μ α} (hx : x.GivesUp) (f : α → Program μ β) :
    (x.bind f).GivesUp := by
  induction x with
  | done a => exact hx.elim
  | fail e => trivial
  | panic p => trivial
  | note m next ih => exact ih hx
  | dialect next ih => exact fun d => ih d (hx d)
  | query sql params next ih => exact fun r => ih r (hx r)
  | execute sql params next ih => exact fun r => ih r (hx r)
  | stream sql params next ih => exact fun r => ih r (hx r)

theorem Strict.bind {x : Program μ α} (hx : x.Strict) {f : α → Program μ β}
    (hf : ∀ a, (f a).Strict) : (x.bind f).Strict := by
  induction x with
  | done a => exact hf a
  | fail e => trivial
  | panic p => trivial
  | note m next ih => exact ih hx
  | dialect next ih => exact fun d => ih d (hx d)
  | query sql params next ih =>
      exact ⟨fun rows => ih _ (hx.1 rows), fun e => (hx.2 e).bind f⟩
  | execute sql params next ih =>
      exact ⟨fun n => ih _ (hx.1 n), fun e => (hx.2 e).bind f⟩
  | stream sql params next ih => exact hx.elim

theorem strict_ofExcept (result : Except Error α) : (ofExcept result : Program μ α).Strict := by
  cases result <;> trivial

theorem strict_queryCompiled (compile : Dialect → Except Error Compiled) :
    (Statement.queryCompiled compile : Program μ (List Row)).Strict := by
  intro d
  apply (strict_ofExcept (compile d)).bind
  intro compiled
  exact ⟨fun _ => trivial, fun _ => trivial⟩

theorem strict_executeCompiled (compile : Dialect → Except Error (Option Compiled)) :
    (Statement.executeCompiled compile : Program μ Nat).Strict := by
  intro d
  apply (strict_ofExcept (compile d)).bind
  intro compiled?
  cases compiled? with
  | none => trivial
  | some compiled => exact ⟨fun _ => trivial, fun _ => trivial⟩

theorem Strict.map {x : Program μ α} (hx : x.Strict) (f : α → β) : (f <$> x).Strict :=
  hx.bind fun _ => trivial

theorem strict_execute (work : Work) : (work.execute : Program μ StepResult).Strict := by
  cases work with
  | nothing => trivial
  | get s =>
      have hrow : (s.findRow : Program μ _).Strict :=
        (strict_queryCompiled _).bind fun _ => trivial
      exact hrow.map _
  | list s => exact (strict_queryCompiled _).map _
  | insert s record =>
      have hinsert : (s.insert record : Program μ _).Strict :=
        (strict_ofExcept _).bind fun _ => strict_executeCompiled _
      exact hinsert.map _
  | update s record =>
      have hupdate : (s.update record : Program μ _).Strict :=
        (strict_ofExcept _).bind fun _ => strict_executeCompiled _
      exact hupdate.map _
  | assign s => exact (strict_executeCompiled _).map _
  | delete s =>
      have hdelete : (s.delete : Program μ _).Strict :=
        (strict_executeCompiled _).bind fun _ => trivial
      exact hdelete.bind fun _ => trivial
  | count s =>
      have hcount : (s.count : Program μ _).Strict := by
        apply (strict_queryCompiled _).bind
        intro rows
        cases rows.head? with
        | none => trivial
        | some row => exact strict_ofExcept _
      exact hcount.map _
  | sum s column =>
      have hsum : (s.sum column : Program μ _).Strict := by
        apply (strict_queryCompiled _).bind
        intro rows
        cases rows.head? with
        | none => trivial
        | some row => exact (strict_ofExcept _).bind fun _ => trivial
      exact hsum.map _
  | exec sql arguments =>
      intro d
      exact ⟨fun _ => trivial, fun _ => trivial⟩

theorem strict_executeAll (works : List Work) :
    (Work.executeAll works : Program μ (List StepResult)).Strict := by
  induction works with
  | nil => trivial
  | cons work rest ih => exact (strict_execute work).bind fun _ => ih.bind fun _ => trivial

theorem GivesUp.run_ne_ok {σ : Type} {observe : μ → σ → σ} {session : Session σ} {p : Program μ α}
    (hp : p.GivesUp) (s : σ) (a : α) : (p.run observe session s).1 ≠ .ok a := by
  have hcall : ∀ {γ : Type} {x : Action σ γ} {next : Except Error γ → Action σ α},
      (∀ r s a, (next r s).1 ≠ .ok a) → ∀ s a, (afterCall x next s).1 ≠ .ok a := by
    intro γ x next hnext s a
    rw [afterCall]
    rcases x s with ⟨b | e | p, t⟩
    · exact hnext (.ok b) t a
    · exact hnext (.error e) t a
    · intro h
      cases h
  induction p generalizing s a with
  | done b => exact hp.elim
  | fail e =>
    intro h
    cases h
  | panic p =>
    intro h
    cases h
  | note m next ih => exact ih hp (observe m s) a
  | dialect next ih => exact ih session.dialect (hp session.dialect) s a
  | query sql params next ih => exact hcall (fun r => ih r (hp r)) s a
  | execute sql params next ih => exact hcall (fun r => ih r (hp r)) s a
  | stream sql params next ih => exact hcall (fun r => ih r (hp r)) s a

end Program

end SqlPipeline
