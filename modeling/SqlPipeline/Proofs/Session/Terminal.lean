import SqlPipeline.Proofs.Form
import SqlPipeline.Proofs.Session.Log
import SqlPipeline.Session.Scripted
import SqlPipeline.Transaction.Work

/-!
Terminal calls and what they do to a session.

A terminal call compiles its statement in the session's dialect, hands what it has compiled to the
session and ends with what it makes of the reply. Main statement: a terminal call that does not
compile, or that would write nothing, makes no call and leaves the session as it is; every other one
makes the one call of its compiled statement, and an error of that call is its own error.
-/

namespace SqlPipeline

variable {μ σ α β γ δ ρ : Type}

/-- The kind of call by which a session gets a compiled statement. -/
inductive Channel
  | rows
  | affected
  | stream

def Channel.call (channel : Channel) (c : Compiled) : Call :=
  match channel with
  | .rows => .query c.sql c.values
  | .affected => .execute c.sql c.values
  | .stream => .stream c.sql c.values

/-- How the call of a compiled statement ends, and the state that it leaves. -/
def Session.receive (session : Session σ) (channel : Channel) (c : Compiled) (s : σ) : Ended × σ :=
  match channel with
  | .rows => (session.query c.sql c.values s).map Outcome.ended id
  | .affected => (session.execute c.sql c.values s).map Outcome.ended id
  | .stream => (session.stream c.sql c.values s).map Outcome.ended id

theorem Session.receive_logged (session : Session σ) (channel : Channel) (c : Compiled)
    (r : Recorded σ Event) :
    session.logged.receive channel c r = ((session.receive channel c r.state).1,
      ⟨(session.receive channel c r.state).2,
        r.entries ++ [⟨channel.call c, (session.receive channel c r.state).1⟩]⟩) := by
  cases channel <;> rfl

namespace Program

/-- The program makes no call and leaves no note. -/
def Ends (p : Program μ α) : Prop :=
  ∃ o, p = ofOutcome o

/-- The program in a dialect, if it begins by asking for one. -/
def inDialect (d : Dialect) : Program μ α → Program μ α
  | .dialect next => next d
  | p => p

/-- The program hands the compiled statement to the session and ends after the reply; an error of
the call is its failure. -/
inductive HandsOver (failure : Error → Outcome α) (c : Compiled) : Channel → Program μ α → Prop
  | rows {next : Except Error (List Row) → Program μ α} (hends : ∀ r, (next r).Ends)
      (hfails : ∀ e, next (.error e) = ofOutcome (failure e)) :
      HandsOver failure c .rows (.query c.sql c.values next)
  | affected {next : Except Error Nat → Program μ α} (hends : ∀ r, (next r).Ends)
      (hfails : ∀ e, next (.error e) = ofOutcome (failure e)) :
      HandsOver failure c .affected (.execute c.sql c.values next)
  | stream {next : Except Error RowStream → Program μ α} (hends : ∀ r, (next r).Ends)
      (hfails : ∀ e, next (.error e) = ofOutcome (failure e)) :
      HandsOver failure c .stream (.stream c.sql c.values next)

/-- In the dialect the program fails with the error of the compilation, or is done at once where
nothing is compiled, or hands over what is compiled. -/
structure Touches (d : Dialect) (compiled : Except Error (Option Compiled)) (channel : Channel)
    (failure : Error → Outcome α) (unwritten : Option α) (p : Program μ α) : Prop where
  refused : ∀ e, compiled = .error e → p.inDialect d = ofOutcome (failure e)
  skipped : compiled = .ok none → ∃ a ∈ unwritten, p.inDialect d = .done a
  handed : ∀ c, compiled = .ok (some c) → (p.inDialect d).HandsOver failure c channel

section Run

variable {observe : μ → σ → σ} {session : Session σ} {call : Action σ δ}
  {next : Except Error δ → Program μ α}

theorem run_inDialect (p : Program μ α) :
    (p.inDialect session.dialect).run observe session = p.run observe session := by
  cases p <;> rfl

theorem log_inDialect (p : Program μ α) :
    (p.inDialect session.dialect).log observe session = p.log observe session := by
  cases p <;> rfl

theorem afterCall_snd (hends : ∀ r, (next r).Ends) (s : σ) :
    (afterCall call (fun r => (next r).run observe session) s).2 = (call s).2 := by
  have hnext : ∀ r t, ((next r).run observe session t).2 = t := by
    intro r t
    obtain ⟨o, ho⟩ := hends r
    rw [ho, run_ofOutcome]
    rfl
  rw [afterCall]
  rcases call s with ⟨a | e | p, t⟩
  · exact hnext _ t
  · exact hnext _ t
  · rfl

theorem afterCall_fst_of_failed {e : Error} {o : Outcome α} {s : σ}
    (hcall : (call s).1.ended = .failed e) (hnext : next (.error e) = ofOutcome o) :
    (afterCall call (fun r => (next r).run observe session) s).1 = o := by
  rw [afterCall]
  rcases hs : call s with ⟨a | e' | p, t⟩ <;> rw [hs] at hcall <;> cases hcall
  change ((next (.error e)).run observe session t).1 = o
  rw [hnext, run_ofOutcome]
  rfl

theorem afterCall_fst_of_panicked {p : Panic} {s : σ} (hcall : (call s).1.ended = .panicked p) :
    (afterCall call (fun r => (next r).run observe session) s).1 = .panic p := by
  rw [afterCall]
  rcases hs : call s with ⟨a | e | p', t⟩ <;> rw [hs] at hcall <;> cases hcall
  rfl

namespace HandsOver

variable {failure : Error → Outcome α} {c : Compiled} {channel : Channel} {p : Program μ α} {s : σ}

theorem run_snd (h : p.HandsOver failure c channel) (observe : μ → σ → σ) (session : Session σ)
    (s : σ) : (p.run observe session s).2 = (session.receive channel c s).2 := by
  cases h with
  | rows hends _ => exact afterCall_snd hends s
  | affected hends _ => exact afterCall_snd hends s
  | stream hends _ => exact afterCall_snd hends s

theorem run_fst_of_failed (h : p.HandsOver failure c channel) {e : Error}
    (he : (session.receive channel c s).1 = .failed e) :
    (p.run observe session s).1 = failure e := by
  cases h with
  | rows _ hfails => exact afterCall_fst_of_failed he (hfails e)
  | affected _ hfails => exact afterCall_fst_of_failed he (hfails e)
  | stream _ hfails => exact afterCall_fst_of_failed he (hfails e)

theorem run_fst_of_panicked (h : p.HandsOver failure c channel) {panic : Panic}
    (hpanic : (session.receive channel c s).1 = .panicked panic) :
    (p.run observe session s).1 = .panic panic := by
  cases h with
  | rows _ _ => exact afterCall_fst_of_panicked hpanic
  | affected _ _ => exact afterCall_fst_of_panicked hpanic
  | stream _ _ => exact afterCall_fst_of_panicked hpanic

/-- The call of the compiled statement is the only one. -/
theorem log (h : p.HandsOver failure c channel) (observe : μ → σ → σ) (session : Session σ)
    (s : σ) :
    p.log observe session s = [⟨channel.call c, (session.receive channel c s).1⟩] := by
  rw [Program.log, h.run_snd, session.receive_logged]
  rfl

end HandsOver

end Run

theorem Ends.bind {p : Program μ α} (hp : p.Ends) {f : α → Program μ β} (hf : ∀ a, (f a).Ends) :
    (p.bind f).Ends := by
  obtain ⟨o, rfl⟩ := hp
  cases o with
  | ok a => exact hf a
  | error e => exact ⟨.error e, rfl⟩
  | panic p => exact ⟨.panic p, rfl⟩

theorem ends_done (a : α) : (done a : Program μ α).Ends := ⟨.ok a, rfl⟩

theorem ends_ofExcept (result : Except Error α) : (ofExcept result : Program μ α).Ends :=
  ⟨.ofExcept result, rfl⟩

/-- What a program makes of the reply to its call may go on, as long as it makes no other call. -/
theorem HandsOver.bind {c : Compiled} {channel : Channel} {p : Program μ α}
    (hp : p.HandsOver .error c channel) {f : α → Program μ β} (hf : ∀ a, (f a).Ends) :
    (p.bind f).HandsOver .error c channel := by
  cases hp with
  | rows hends hfails =>
      exact .rows (fun r => (hends r).bind hf) fun e => congrArg (Program.bind · f) (hfails e)
  | affected hends hfails =>
      exact .affected (fun r => (hends r).bind hf) fun e => congrArg (Program.bind · f) (hfails e)
  | stream hends hfails =>
      exact .stream (fun r => (hends r).bind hf) fun e => congrArg (Program.bind · f) (hfails e)

theorem Ends.inDialect {p : Program μ α} (hp : p.Ends) (d : Dialect) : p.inDialect d = p := by
  obtain ⟨o, rfl⟩ := hp
  cases o <;> rfl

theorem inDialect_bind (p : Program μ α) {f : α → Program μ β} (hf : ∀ a, (f a).Ends)
    (d : Dialect) : (p.bind f).inDialect d = (p.inDialect d).bind f := by
  cases p with
  | done a => exact (hf a).inDialect d
  | _ => rfl

namespace Touches

variable {d : Dialect} {compiled : Except Error (Option Compiled)} {channel : Channel}
  {failure : Error → Outcome α} {unwritten : Option α} {p : Program μ α}

theorem of_error {e : Error} (hp : p.inDialect d = ofOutcome (failure e)) :
    p.Touches d (.error e) channel failure unwritten where
  refused e' he := by
    cases he
    exact hp
  skipped hnone := nomatch hnone
  handed _ hc := nomatch hc

theorem of_none {a : α} (ha : a ∈ unwritten) (hp : p.inDialect d = .done a) :
    p.Touches d (.ok none) channel failure unwritten where
  refused _ he := nomatch he
  skipped _ := ⟨a, ha, hp⟩
  handed _ hc := nomatch hc

theorem of_some {c : Compiled} (hp : (p.inDialect d).HandsOver failure c channel) :
    p.Touches d (.ok (some c)) channel failure unwritten where
  refused _ he := nomatch he
  skipped hnone := nomatch hnone
  handed c' hc := by
    cases hc
    exact hp

theorem bind {unwritten' : Option β} (hp : p.Touches d compiled channel .error unwritten)
    {f : α → Program μ β} (hf : ∀ a, (f a).Ends)
    (hskipped : ∀ a ∈ unwritten, ∃ b ∈ unwritten', f a = .done b) :
    (p.bind f).Touches d compiled channel .error unwritten' where
  refused e he := by
    rw [inDialect_bind p hf, hp.refused e he]
    rfl
  skipped hnone := by
    obtain ⟨a, ha, hdone⟩ := hp.skipped hnone
    obtain ⟨b, hb, hfa⟩ := hskipped a ha
    exact ⟨b, hb, by rw [inDialect_bind p hf, hdone, Program.bind, hfa]⟩
  handed c hc := by
    rw [inDialect_bind p hf]
    exact (hp.handed c hc).bind hf

theorem map (hp : p.Touches d compiled channel .error unwritten) (f : α → β) :
    (f <$> p).Touches d compiled channel .error (unwritten.map f) :=
  hp.bind (fun a => ends_done (f a)) fun a ha => ⟨f a, Option.mem_map_of_mem f ha, rfl⟩

/-- A program that goes on with what is compiled, and hands it over if it is something. -/
theorem of_inDialect {unsent : Program μ α} {next : Compiled → Program μ α}
    (hp : p.inDialect d = (ofExcept compiled).bind (Option.elim · unsent next))
    (hskipped : compiled = .ok none → ∃ a ∈ unwritten, unsent = .done a)
    (hhanded : ∀ c, (next c).HandsOver .error c channel) :
    p.Touches d compiled channel .error unwritten := by
  rcases compiled with e | _ | c
  · exact of_error hp
  · obtain ⟨a, ha, hdone⟩ := hskipped rfl
    exact of_none ha (hp.trans hdone)
  · exact of_some (hp ▸ hhanded c)

theorem map_some_ne_none (result : Except Error Compiled) : result.map some ≠ .ok none := by
  cases result <;> simp [Except.map]

/-- A program that hands over all that compiles. -/
theorem of_inDialect_some {result : Except Error Compiled} {next : Compiled → Program μ α}
    (hp : p.inDialect d = (ofExcept result).bind next)
    (hhanded : ∀ c, (next c).HandsOver .error c channel) :
    p.Touches d (result.map some) channel .error unwritten := by
  cases result with
  | error e => exact of_error hp
  | ok c => exact of_some (hp ▸ hhanded c)

theorem queryCompiled (compile : Dialect → Except Error Compiled) (d : Dialect) :
    (Statement.queryCompiled compile : Program μ (List Row)).Touches d ((compile d).map some) .rows
      .error none :=
  have hprogram : (Statement.queryCompiled compile : Program μ (List Row)).inDialect d =
      (ofExcept (compile d)).bind fun c => Program.rows c.sql c.values := rfl
  of_inDialect_some hprogram fun _ => .rows ends_ofExcept fun _ => rfl

theorem executeCompiled (compile : Dialect → Except Error (Option Compiled)) {d : Dialect}
    {unwritten : Option Nat} (hskipped : compile d = .ok none → unwritten = some 0) :
    (Statement.executeCompiled compile : Program μ Nat).Touches d (compile d) .affected .error
      unwritten := by
  have hprogram : (Statement.executeCompiled compile : Program μ Nat).inDialect d =
      (ofExcept (compile d)).bind
        (Option.elim · (.done 0) fun c => Program.affected c.sql c.values) := by
    change (ofExcept (compile d)).bind _ = _
    congr 1
    funext compiled
    cases compiled <;> rfl
  exact of_inDialect hprogram (fun hnone => ⟨0, hskipped hnone, rfl⟩)
    fun c => .affected ends_ofExcept fun _ => rfl

theorem executeCompiled_some (compile : Dialect → Except Error Compiled) (d : Dialect) :
    (Statement.executeCompiled fun d => some <$> compile d : Program μ Nat).Touches d
      ((compile d).map some) .affected .error none :=
  executeCompiled (fun d => some <$> compile d) fun hnone => absurd hnone (map_some_ne_none _)

/-- What is read before anything is compiled may fail, without a call. -/
theorem ofExcept_bind (x : Except Error δ) {compile : δ → Except Error (Option Compiled)}
    {next : δ → Program μ α}
    (hnext : ∀ a, (next a).Touches d (compile a) channel .error unwritten) :
    ((ofExcept x).bind next).Touches d (x.bind compile) channel .error unwritten := by
  cases x with
  | error e => exact of_error rfl
  | ok a => exact hnext a

end Touches

end Program

/-- What a work compiles in a dialect, if it compiles anything. -/
def Work.compile (d : Dialect) : Work → Except Error (Option Compiled)
  | .nothing => .ok none
  | .get s => Statement.Form.get.compile d s
  | .list s => Statement.Form.select.compile d s
  | .insert s record => (Statement.Form.insert record).compile d s
  | .update s record => (Statement.Form.update record).compile d s
  | .assign s => Statement.Form.assign.compile d s
  | .delete s => Statement.Form.delete.compile d s
  | .count s => Statement.Form.count.compile d s
  | .sum s column => (Statement.Form.sum column).compile d s
  | .exec sql arguments => .ok (some ⟨d.finish sql, arguments⟩)

namespace Statement

/-- A terminal call of a statement, or the work of a step, by the type of its answer. -/
inductive Terminal (α β ρ : Type) : Type → Type
  | find (s : Statement) (decode : Row.Decoder α) : Terminal α β ρ (Option α)
  | findOne (s : Statement) (decode : Row.Decoder α) : Terminal α β ρ α
  | list (s : Statement) (decode : Row.Decoder α) : Terminal α β ρ (List α)
  | findBy (decode : Row.Decoder α) (table column : String) (value : Value) :
    Terminal α β ρ (Option α)
  | insert (s : Statement) (item : ρ) : Terminal α β ρ Nat
  | update (s : Statement) (item : ρ) : Terminal α β ρ Nat
  | updateAssigned (s : Statement) : Terminal α β ρ Nat
  | delete (s : Statement) : Terminal α β ρ Unit
  | count (s : Statement) : Terminal α β ρ Int64
  | sum (s : Statement) (column : String) : Terminal α β ρ Binary64
  | iterate (s : Statement) (decode : Row.Decoder α) (visit : Nat → α → β → β × Bool) (state : β) :
    Terminal α β ρ (β × Except Error Unit)
  | cursor (s : Statement) (decode : Row.Decoder α) : Terminal α β ρ (Cursor α)
  | work (w : Work) : Terminal α β ρ StepResult

namespace Terminal

def program [ToRecord ρ] : Terminal α β ρ γ → Program μ γ
  | .find s decode => s.find decode
  | .findOne s decode => s.findOne decode
  | .list s decode => s.list decode
  | .findBy decode table column value => Statement.findBy decode table column value
  | .insert s item => s.insert item
  | .update s item => s.update item
  | .updateAssigned s => s.updateAssigned
  | .delete s => s.delete
  | .count s => s.count
  | .sum s column => s.sum column
  | .iterate s decode visit state => s.iterate decode visit state
  | .cursor s decode => s.cursor decode
  | .work w => w.execute

/-- What the terminal call compiles in a dialect, behind what it makes a record of. -/
def compile [ToRecord ρ] (d : Dialect) : Terminal α β ρ γ → Except Error (Option Compiled)
  | .find s _ | .findOne s _ => Form.get.compile d s
  | .list s _ | .iterate s _ _ _ | .cursor s _ => Form.select.compile d s
  | .findBy _ table column value => Form.get.compile d ((on table).filter (.eq column value))
  | .insert s item => (toRecord item).bind fun record => (Form.insert record).compile d s
  | .update s item => (toRecord item).bind fun record => (Form.update record).compile d s
  | .updateAssigned s => Form.assign.compile d s
  | .delete s => Form.delete.compile d s
  | .count s => Form.count.compile d s
  | .sum s column => (Form.sum column).compile d s
  | .work w => w.compile d

/-- The kind of call that the terminal call makes. -/
def channel : Terminal α β ρ γ → Channel
  | .insert _ _ | .update _ _ | .updateAssigned _ | .delete _ => .affected
  | .work (.insert _ _) | .work (.update _ _) | .work (.assign _) | .work (.delete _)
  | .work (.exec _ _) => .affected
  | .iterate _ _ _ _ | .cursor _ _ => .stream
  | _ => .rows

/-- How the terminal call ends with an error. Visits keep what they made of their state. -/
def failure : Terminal α β ρ γ → Error → Outcome γ
  | .iterate _ _ _ state, e => .ok (state, .error e)
  | _, e => .error e

/-- The answer where nothing would be written. -/
def unwritten : Terminal α β ρ γ → Option γ
  | .update _ _ | .updateAssigned _ => some 0
  | .work (.update _ _) | .work (.assign _) => some (.affected 0)
  | .work .nothing => some .nothing
  | _ => none

variable {d : Dialect}

theorem touches_findRow (s : Statement) :
    (s.findRow : Program μ (Option Row)).Touches d (Form.get.compile d s) .rows .error none :=
  (Program.Touches.queryCompiled (fun d => s.compileGet d) d).bind
    (fun rows => Program.ends_done rows.head?) fun _ h => nomatch h

theorem touches_find (s : Statement) (decode : Row.Decoder α) :
    (s.find decode : Program μ (Option α)).Touches d (Form.get.compile d s) .rows .error none := by
  refine (touches_findRow s).bind ?_ fun _ h => nomatch h
  intro row?
  cases row? with
  | none => exact Program.ends_done none
  | some row => exact (Program.ends_ofExcept (decode row)).bind fun a => Program.ends_done (some a)

theorem touches_findOne (s : Statement) (decode : Row.Decoder α) :
    (s.findOne decode : Program μ α).Touches d (Form.get.compile d s) .rows .error none := by
  refine (touches_find s decode).bind ?_ fun _ h => nomatch h
  intro found
  cases found with
  | none => exact ⟨.error (.notFound ("no row in " ++ s.table)), rfl⟩
  | some a => exact Program.ends_done a

theorem touches_listRows (s : Statement) :
    (s.listRows : Program μ (List Row)).Touches d (Form.select.compile d s) .rows .error none :=
  Program.Touches.queryCompiled (fun d => s.compileSelect d) d

theorem touches_list (s : Statement) (decode : Row.Decoder α) :
    (s.list decode : Program μ (List α)).Touches d (Form.select.compile d s) .rows .error none :=
  (touches_listRows s).bind (fun rows => Program.ends_ofExcept (rows.mapM decode))
    fun _ h => nomatch h

theorem touches_insert [ToRecord ρ] (s : Statement) (item : ρ) :
    (s.insert item : Program μ Nat).Touches d
      ((toRecord item).bind fun record => (Form.insert record).compile d s) .affected .error none :=
  Program.Touches.ofExcept_bind _ fun record =>
    Program.Touches.executeCompiled_some (fun d => s.compileInsert d record) d

theorem touches_update [ToRecord ρ] (s : Statement) (item : ρ) :
    (s.update item : Program μ Nat).Touches d
      ((toRecord item).bind fun record => (Form.update record).compile d s) .affected .error
      (some 0) :=
  Program.Touches.ofExcept_bind _ fun record =>
    Program.Touches.executeCompiled (fun d => s.compileUpdate d record) fun _ => rfl

theorem touches_updateAssigned (s : Statement) :
    (s.updateAssigned : Program μ Nat).Touches d (Form.assign.compile d s) .affected .error
      (some 0) :=
  Program.Touches.executeCompiled (fun d => .ok (s.compileAssignments d)) fun _ => rfl

theorem touches_delete (s : Statement) :
    (s.delete : Program μ Unit).Touches d (Form.delete.compile d s) .affected .error none :=
  (Program.Touches.executeCompiled_some (fun d => s.compileDelete d) d).map fun _ => ()

theorem touches_count (s : Statement) :
    (s.count : Program μ Int64).Touches d (Form.count.compile d s) .rows .error none := by
  refine (Program.Touches.queryCompiled (fun d => s.compileCount d) d).bind ?_ fun _ h => nomatch h
  intro rows
  cases rows.head? with
  | none => exact Program.ends_done 0
  | some row => exact Program.ends_ofExcept (row.getAt Value.readInt64 0)

theorem touches_sum (s : Statement) (column : String) :
    (s.sum column : Program μ Binary64).Touches d ((Form.sum column).compile d s) .rows .error
      none := by
  refine (Program.Touches.queryCompiled (fun d => s.compileSum d column) d).bind ?_
    fun _ h => nomatch h
  intro rows
  cases rows.head? with
  | none => exact Program.ends_done Binary64.zero
  | some row =>
      exact (Program.ends_ofExcept (row.getAt (Value.readOptional Value.readDouble) 0)).bind
        fun total => Program.ends_done (total.getD Binary64.zero)

theorem touches_cursor (s : Statement) (decode : Row.Decoder α) :
    (s.cursor decode : Program μ (Cursor α)).Touches d (Form.select.compile d s) .stream .error
      none := by
  have hprogram : (s.cursor decode : Program μ (Cursor α)).inDialect d =
      (Program.ofExcept (s.compileSelect d)).bind fun c =>
        (Program.rowStream c.sql c.values).bind fun stream => .done (.on decode stream) := rfl
  refine .of_inDialect_some hprogram fun c => ?_
  exact Program.HandsOver.bind (.stream Program.ends_ofExcept fun _ => rfl)
    fun stream => Program.ends_done (Cursor.on decode stream)

theorem touches_iterate (s : Statement) (decode : Row.Decoder α)
    (visit : Nat → α → β → β × Bool) (state : β) :
    (s.iterate decode visit state : Program μ (β × Except Error Unit)).Touches d
      (Form.select.compile d s) .stream (fun e => .ok (state, .error e)) none := by
  change Program.Touches d ((s.compileSelect d).map some) _ _ _ _
  cases hcompiled : s.compileSelect d with
  | error e =>
      have hrefused : (s.iterate decode visit state : Program μ _).inDialect d =
          .done (state, .error e) := by
        simp only [Statement.iterate, Program.askDialect, bind, Program.bind, Program.inDialect,
          hcompiled]
        rfl
      exact .of_error hrefused
  | ok c =>
      refine .of_some ?_
      simp only [Statement.iterate, Program.askDialect, bind, Program.bind, Program.inDialect,
        hcompiled]
      refine .stream (fun reply => ?_) fun e => rfl
      cases reply with
      | error e => exact ⟨.ok (state, .error e), rfl⟩
      | ok stream => exact ⟨visitAnswers decode visit 0 stream.answers state, rfl⟩

theorem touches_execute (w : Work) : (w.execute : Program μ StepResult).Touches d (w.compile d)
    (channel (.work w : Terminal α β ρ _)) .error (unwritten (.work w : Terminal α β ρ _)) := by
  cases w with
  | nothing => exact .of_none rfl rfl
  | get s => exact (touches_findRow s).map _
  | list s => exact (touches_listRows s).map _
  | insert s record => exact (touches_insert s record).map _
  | update s record => exact (touches_update s record).map _
  | assign s => exact (touches_updateAssigned s).map _
  | delete s => exact (touches_delete s).map _
  | count s => exact (touches_count s).map _
  | sum s column => exact (touches_sum s column).map _
  | exec sql arguments =>
      have hcall : (Program.affected (d.finish sql) arguments : Program μ Nat).HandsOver .error
          ⟨d.finish sql, arguments⟩ .affected := .affected Program.ends_ofExcept fun _ => rfl
      exact .of_some (hcall.bind fun n => Program.ends_done (StepResult.affected n))

/-- Each terminal call compiles in the dialect of the session and hands over what is compiled. -/
theorem touches [ToRecord ρ] (d : Dialect) (t : Terminal α β ρ γ) :
    (t.program : Program μ γ).Touches d (t.compile d) t.channel t.failure t.unwritten := by
  cases t with
  | find s decode => exact touches_find s decode
  | findOne s decode => exact touches_findOne s decode
  | list s decode => exact touches_list s decode
  | findBy decode table column value =>
      exact touches_find ((on table).filter (.eq column value)) decode
  | insert s item => exact touches_insert s item
  | update s item => exact touches_update s item
  | updateAssigned s => exact touches_updateAssigned s
  | delete s => exact touches_delete s
  | count s => exact touches_count s
  | sum s column => exact touches_sum s column
  | iterate s decode visit state => exact touches_iterate s decode visit state
  | cursor s decode => exact touches_cursor s decode
  | work w => exact touches_execute w

/-- A terminal call that does not compile ends with the error of that, and one that compiles to
nothing with the answer for it; either makes no call and leaves the session as it is. Every other
one makes one call, with what it compiles to, leaves the session as that call does, and ends with
the error of that call if it fails. -/
theorem touches_session_once [ToRecord ρ] (observe : μ → σ → σ) (session : Session σ)
    (t : Terminal α β ρ γ) (state : σ) :
    (∀ e, t.compile session.dialect = .error e →
      t.program.run observe session state = (t.failure e, state) ∧
        t.program.log observe session state = []) ∧
    (t.compile session.dialect = .ok none →
      ∃ a ∈ t.unwritten, t.program.run observe session state = (.ok a, state) ∧
        t.program.log observe session state = []) ∧
    ∀ c, t.compile session.dialect = .ok (some c) →
      t.program.log observe session state =
          [⟨t.channel.call c, (session.receive t.channel c state).1⟩] ∧
        (t.program.run observe session state).2 = (session.receive t.channel c state).2 ∧
        (∀ e, (session.receive t.channel c state).1 = .failed e →
          (t.program.run observe session state).1 = t.failure e) ∧
        ∀ p, (session.receive t.channel c state).1 = .panicked p →
          (t.program.run observe session state).1 = .panic p := by
  have htouches := t.touches (μ := μ) session.dialect
  rw [← Program.run_inDialect t.program, ← Program.log_inDialect t.program]
  refine ⟨fun e he => ?_, fun hnone => ?_, fun c hc => ?_⟩
  · rw [htouches.refused e he, Program.log, Program.run_ofOutcome, Program.run_ofOutcome]
    exact ⟨rfl, rfl⟩
  · obtain ⟨a, ha, hdone⟩ := htouches.skipped hnone
    rw [hdone]
    exact ⟨a, ha, rfl, rfl⟩
  · have hhanded := htouches.handed c hc
    exact ⟨hhanded.log observe session state, hhanded.run_snd observe session state,
      fun e he => hhanded.run_fst_of_failed he, fun p hp => hhanded.run_fst_of_panicked hp⟩

namespace TerminalWitness

def item : Record := ⟨[("id", .int 7)]⟩

/-- A session that fails to insert. -/
def session : Session Script :=
  ScriptPlan.session ⟨.postgres, ["INSERT"], [], []⟩ none

def script : Script := ⟨[], [3]⟩

def refused : Terminal Row Unit Record Unit := .delete (on "orders")

def skipped : Terminal Row Unit Record Nat := .updateAssigned (on "orders")

def failing : Terminal Row Unit Record Nat := .insert (on "orders") item

end TerminalWitness

open TerminalWitness in
theorem touches_session_once_orders :
    ((refused.program : Program Empty Unit).run (fun _ s => s) session script =
        (.error (.config (.unconditionalDelete "orders")), script) ∧
      (refused.program : Program Empty Unit).log (fun _ s => s) session script = []) ∧
    ((skipped.program : Program Empty Nat).run (fun _ s => s) session script = (.ok 0, script) ∧
      (skipped.program : Program Empty Nat).log (fun _ s => s) session script = []) ∧
    ∃ e, (failing.program : Program Empty Nat).log (fun _ s => s) session script =
        [⟨.execute "INSERT INTO \"orders\" (\"id\") VALUES ($1)" [.int 7], .failed e⟩] ∧
      ((failing.program : Program Empty Nat).run (fun _ s => s) session script).1 = .error e := by
  have hrefused := touches_session_once (μ := Empty) (fun _ s => s) session refused script
  have hskipped := touches_session_once (μ := Empty) (fun _ s => s) session skipped script
  have hfailing := touches_session_once (μ := Empty) (fun _ s => s) session failing script
  refine ⟨hrefused.1 _ rfl, ?_, ?_⟩
  · obtain ⟨a, ha, hrun, hlog⟩ := hskipped.2.1 rfl
    cases ha
    exact ⟨hrun, hlog⟩
  · let c : Compiled := ⟨"INSERT INTO \"orders\" (\"id\") VALUES ($1)", [.int 7]⟩
    have hcompile : failing.compile session.dialect = .ok (some c) := rfl
    have hfails : (session.receive failing.channel c script).1 =
        .failed (.driver ("failed: " ++ c.sql)) := by
      decide +kernel
    obtain ⟨hlog, -, hended, -⟩ := hfailing.2.2 c hcompile
    rw [hfails] at hlog
    exact ⟨_, hlog, hended _ hfails⟩

end Terminal

end Statement

end SqlPipeline
