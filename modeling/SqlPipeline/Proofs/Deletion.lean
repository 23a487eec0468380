import SqlPipeline.Proofs.Elision
import SqlPipeline.Proofs.Session.Terminal
import SqlPipeline.Session.Scripted

/-!
The guard of a delete.

A delete is refused unless one of its conditions has a leaf that says something, at any depth. Main
statement: a delete compiles just when its table is not blank and there is such a leaf, and then a
text follows its `WHERE`; a delete that is refused makes no call.
-/

namespace SqlPipeline

namespace Condition

mutual

/-- The leaves of a condition, from left to right. -/
def leaves : Condition → List Condition
  | .all children => leavesAll children
  | .any children => leavesAll children
  | .not children => leavesAll children
  | leaf => [leaf]

def leavesAll : List Condition → List Condition
  | [] => []
  | c :: rest => leaves c ++ leavesAll rest

end

/-- The leaf says something: it has a field, and values if it tests for membership; or it is a text
that is not blank. -/
def Speaks : Condition → Prop
  | .eq field _ | .op field _ _ | .eqExpr field _ | .opExpr field _ _ => field ≠ ""
  | .isIn field values | .notIn field values => field ≠ "" ∧ values ≠ []
  | .raw sql => ∃ c ∈ sql.toList, isBlank c = false
  | .all _ | .any _ | .not _ => False

theorem mem_leavesAll {leaf : Condition} {cs : List Condition} :
    leaf ∈ leavesAll cs ↔ ∃ c ∈ cs, leaf ∈ c.leaves := by
  induction cs with
  | nil => simp [leavesAll]
  | cons c rest ih => simp [leavesAll, ih]

/-- None of the conditions says anything, if each is dead just when none of its leaves speaks. -/
theorem areDead_iff_leavesAll {cs : List Condition}
    (hcs : ∀ c ∈ cs, (c.isDead = true ↔ ∀ leaf ∈ c.leaves, ¬leaf.Speaks)) :
    areDead cs = true ↔ ∀ leaf ∈ leavesAll cs, ¬leaf.Speaks := by
  rw [areDead_iff]
  constructor
  · intro h leaf hleaf
    obtain ⟨c, hc, hmem⟩ := mem_leavesAll.1 hleaf
    exact (hcs c hc).1 (h c hc) leaf hmem
  · intro h c hc
    exact (hcs c hc).2 fun leaf hleaf => h leaf (mem_leavesAll.2 ⟨c, hc, hleaf⟩)

/-- A condition is dead just when none of its leaves says anything. -/
theorem isDead_iff_leaves (c : Condition) :
    c.isDead = true ↔ ∀ leaf ∈ c.leaves, ¬leaf.Speaks := by
  induction c using Condition.induction with
  | eq field value => simp [isDead, leaves, Speaks]
  | op field operator value => simp [isDead, leaves, Speaks]
  | eqExpr field expr => simp [isDead, leaves, Speaks]
  | opExpr field operator expr => simp [isDead, leaves, Speaks]
  | isIn field values => simp [isDead, leaves, Speaks, Decidable.or_iff_not_imp_left]
  | notIn field values => simp [isDead, leaves, Speaks, Decidable.or_iff_not_imp_left]
  | raw sql => simp [isDead, leaves, Speaks, isBlankText]
  | all children ih => exact areDead_iff_leavesAll ih
  | any children ih => exact areDead_iff_leavesAll ih
  | not children ih => exact areDead_iff_leavesAll ih

end Condition

namespace Statement

variable {σ μ : Type}

theorem run_delete_of_error (observe : μ → σ → σ) (session : Session σ) {s : Statement} {e : Error}
    (h : s.compileDelete session.dialect = .error e) (state : σ) :
    s.delete.run observe session state = (.error e, state) := by
  have hcompile : Form.delete.compile session.dialect s = .error e := by
    rw [Form.compile, h]
    rfl
  rw [← Program.run_inDialect, (Terminal.touches_delete s).refused e hcompile,
    Program.run_ofOutcome]
  rfl

theorem where?_eq_none_iff_leaves (d : Dialect) (s : Statement) :
    s.where? d = none ↔ ∀ c ∈ s.conditions, ∀ leaf ∈ c.leaves, ¬leaf.Speaks := by
  rw [where?_eq_none_iff, Condition.areDead_iff]
  simp only [Condition.isDead_iff_leaves]

/-- Why a delete is refused. -/
def deleteFault (s : Statement) : ConfigFault :=
  if isBlankText s.table then .noTable else .unconditionalDelete s.table

/-- The text of a delete whose conditions have the given text. -/
def deleteText (d : Dialect) (s : Statement) (fragment : String) : String :=
  "DELETE FROM " ++ d.quotePlain s.table ++ " WHERE " ++ fragment

theorem compileDelete_of_some {d : Dialect} {s : Statement} {f : Fragment}
    (htable : isBlankText s.table = false) (hwhere : s.where? d = some f) :
    s.compileDelete d = .ok ⟨d.finish (s.deleteText d f.template.sql), f.template.values⟩ := by
  have hclause : s.whereClause d = Template.ofText " WHERE " ++ f.template := by
    rw [whereClause, hwhere]
  have hcompile :
      (Template.ofText ("DELETE FROM " ++ d.quotePlain s.table) ++ s.whereClause d).compile d =
        ⟨d.finish (s.deleteText d f.template.sql), f.template.values⟩ := by
    simp [hclause, Template.compile, Template.sql_append, Template.sql_ofText, deleteText,
      String.append_assoc]
  rw [compileDelete, withTable, hwhere, htable, ← hcompile]
  rfl

theorem compileDelete_of_refused {d : Dialect} {s : Statement}
    (h : isBlankText s.table = true ∨ s.where? d = none) :
    s.compileDelete d = .error (.config s.deleteFault) := by
  rw [compileDelete, withTable, deleteFault]
  by_cases htable : isBlankText s.table = true
  · rw [if_pos htable, if_pos htable]
    rfl
  · have hwhere := h.resolve_left htable
    rw [if_neg htable, if_neg htable, hwhere]
    rfl

/-- The table is named, and a condition has a leaf that says something, at some depth. -/
def MayDelete (s : Statement) : Prop :=
  isBlankText s.table = false ∧ ∃ c ∈ s.conditions, ∃ leaf ∈ c.leaves, leaf.Speaks

theorem not_mayDelete_iff (d : Dialect) (s : Statement) :
    ¬s.MayDelete ↔ isBlankText s.table = true ∨ s.where? d = none := by
  rw [where?_eq_none_iff_leaves, MayDelete]
  cases isBlankText s.table <;> simp

/-- A delete compiles just when the table is not blank and a leaf of the conditions says something,
at any depth; whether the statement has raw SQL, or anything else, does not count. It is then the
text of the conditions, which is not empty, behind `DELETE FROM`, the table and `WHERE`; otherwise
it is refused, and no session is called. -/
theorem delete_guarded (d : Dialect) (s : Statement) :
    ((∃ c, s.compileDelete d = .ok c) ↔ s.MayDelete) ∧
    (∀ c, s.compileDelete d = .ok c →
      ((Condition.all s.conditions).template d).sql ≠ "" ∧
      c.sql = d.finish (s.deleteText d ((Condition.all s.conditions).template d).sql) ∧
      c.values = ((Condition.all s.conditions).template d).values) ∧
    (¬s.MayDelete → s.compileDelete d = .error (.config s.deleteFault) ∧
      ∀ {σ μ : Type} (observe : μ → σ → σ) (session : Session σ) (state : σ),
        session.dialect = d →
          s.delete.run observe session state = (.error (.config s.deleteFault), state) ∧
          s.delete.log observe session state = []) := by
  by_cases hdelete : s.MayDelete
  · have htable : isBlankText s.table = false := hdelete.1
    have hsome : s.where? d ≠ none := fun hnone =>
      (s.not_mayDelete_iff d).2 (.inr hnone) hdelete
    obtain ⟨f, hwhere⟩ := Option.ne_none_iff_exists'.1 hsome
    have hcompile := compileDelete_of_some htable hwhere
    have htemplate : (Condition.all s.conditions).template d = f.template := by
      rw [Condition.template, ← where?_eq_fragment?, hwhere]
    rw [htemplate]
    refine ⟨iff_of_true ⟨_, hcompile⟩ hdelete, ?_, fun hrefused => absurd hdelete hrefused⟩
    intro c hc
    obtain rfl := Except.ok.inj (hcompile.symm.trans hc)
    refine ⟨?_, rfl, rfl⟩
    rw [where?_eq_fragment?] at hwhere
    simpa [Template.sql] using Condition.chars_ne_nil_of_fragment? d hwhere
  · have herror := compileDelete_of_refused ((s.not_mayDelete_iff d).1 hdelete)
    have hnever : ∀ c, s.compileDelete d ≠ .ok c := by
      intro c hc
      rw [herror] at hc
      cases hc
    have hnone : ¬∃ c, s.compileDelete d = .ok c := not_exists.2 hnever
    refine ⟨iff_of_false hnone hdelete, fun c hc => absurd hc (hnever c), fun _ => ⟨herror, ?_⟩⟩
    intro σ μ observe session state hdialect
    subst hdialect
    refine ⟨run_delete_of_error observe session herror state, ?_⟩
    rw [Program.log, run_delete_of_error (noted observe) session.logged herror]

namespace DeletionWitness

/-- A statement with raw SQL and with one leaf that says something, under others that do not. -/
def owned : Statement where
  table := "orders"
  raw := some ⟨"SELECT 1", []⟩
  conditions := [.isIn "id" [], .any [.raw " ", .not [.all [], .eq "owner" (.int 7)]]]

/-- The statement without the leaf. -/
def unbounded : Statement :=
  { owned with conditions := [.isIn "id" [], .any [.raw " ", .not [.all [], .eq "" (.int 7)]]] }

end DeletionWitness

open DeletionWitness in
theorem delete_guarded_orders :
    (owned.MayDelete ∧ ∃ c, owned.compileDelete .postgres = .ok c ∧
      c.sql = "DELETE FROM \"orders\" WHERE NOT (\"owner\"=$1)") ∧
    (¬unbounded.MayDelete ∧ (unbounded.delete : Program Empty Unit).log (fun _ s => s)
      ((ScriptPlan.accepting .postgres).session none) ⟨[], []⟩ = []) := by
  have hspeaks : owned.MayDelete := by
    refine ⟨by decide, _, List.mem_cons_of_mem _ List.mem_cons_self, .eq "owner" (.int 7), ?_, ?_⟩
    · simp [Condition.leaves, Condition.leavesAll]
    · simp [Condition.Speaks]
  have hsilent : ¬unbounded.MayDelete := (not_mayDelete_iff .postgres unbounded).2 (.inr rfl)
  obtain ⟨hcompiles, htext, -⟩ := delete_guarded .postgres owned
  obtain ⟨c, hc⟩ := hcompiles.2 hspeaks
  obtain ⟨-, -, hrefused⟩ := delete_guarded .postgres unbounded
  exact ⟨⟨hspeaks, c, hc, (htext c hc).2.1.trans (by decide +kernel)⟩, hsilent,
    ((hrefused hsilent).2 (fun _ s => s) ((ScriptPlan.accepting .postgres).session none)
      ⟨[], []⟩ rfl).2⟩

end Statement

end SqlPipeline
