import Mathlib.Logic.Relation
import SqlPipeline.Proofs.Verdict

/-!
Conditions that say nothing leave no trace.

Two conditions are alike when leaving out what says nothing, and putting it in, makes one of them
the other, at any depth. Main statement: alike conditions have the same text and bind the same
values, a condition has no text just when it is dead, and a statement with alike conditions compiles
to the same in every form.
-/

namespace SqlPipeline

namespace Fragment

theorem chars_grouped_ne_nil {f : Fragment} (hf : f.template.chars ≠ []) :
    f.grouped.chars ≠ [] := by
  rw [grouped]
  split
  · simp
  · exact hf

/-- Fragments with text have text under a connective. -/
theorem chars_ne_nil_of_combine {connective : String} {fs : List Fragment} {g : Fragment}
    (hfs : ∀ f ∈ fs, f.template.chars ≠ []) (h : combine connective fs = some g) :
    g.template.chars ≠ [] := by
  match fs, hfs, h with
  | [], _, h => cases h
  | [f], hfs, h =>
      cases h
      exact hfs g List.mem_cons_self
  | f :: next :: rest, hfs, h =>
      cases h
      have hfirst := chars_grouped_ne_nil (hfs f List.mem_cons_self)
      simp [Template.join, hfirst]

end Fragment

namespace Condition

/-- A combination without its children. -/
inductive Combination
  | all
  | any
  | not

namespace Combination

/-- The combination of some children. -/
def of : Combination → List Condition → Condition
  | .all, children => .all children
  | .any, children => .any children
  | .not, children => .not children

/-- The fragment of a combination whose children have the given fragments. -/
def join : Combination → List Fragment → Option Fragment
  | .all, fs => Fragment.combine " AND " fs
  | .any, fs => Fragment.combine " OR " fs
  | .not, fs => (Fragment.combine " AND " fs).map negated

theorem fragment?_of (d : Dialect) (k : Combination) (children : List Condition) :
    (k.of children).fragment? d = k.join (fragments d children) := by
  cases k <;> rfl

end Combination

/-- What says nothing is left out: a dead child of a combination, or the conjunction or disjunction
around a child that alone is not dead; at the root or in a child. -/
inductive Trims : Condition → Condition → Prop
  | drop (k : Combination) (before after : List Condition) {c : Condition}
      (hc : c.isDead = true) : Trims (k.of (before ++ c :: after)) (k.of (before ++ after))
  | unwrap (k : Combination) (hk : k ≠ .not) {before after : List Condition} {c : Condition}
      (hothers : ∀ other ∈ before ++ after, other.isDead = true) (hc : c.isDead = false) :
      Trims (k.of (before ++ c :: after)) c
  | inside (k : Combination) (before after : List Condition) {c c' : Condition}
      (h : Trims c c') : Trims (k.of (before ++ c :: after)) (k.of (before ++ c' :: after))

/-- The conditions differ in what says nothing and in nothing else: leaving it out and, the other
way round, putting it in leads from one to the other, in any number of steps. -/
def Alike : Condition → Condition → Prop :=
  Relation.EqvGen Trims

variable (d : Dialect)

theorem fragments_middle (before after : List Condition) (c : Condition) :
    fragments d (before ++ c :: after) =
      fragments d before ++ ((c.fragment? d).toList ++ fragments d after) := by
  rw [fragments_append, fragments]
  cases c.fragment? d <;> rfl

theorem fragments_of_forall_isDead {cs : List Condition} (hcs : ∀ c ∈ cs, c.isDead = true) :
    fragments d cs = [] := by
  rw [fragments_eq_filterMap, List.filterMap_eq_nil_iff]
  intro c hc
  exact (c.fragment?_eq_none_iff d).2 (hcs c hc)

variable {d}

/-- Leaving out what says nothing keeps the fragment, its need of parentheses included. -/
theorem Trims.fragment?_eq {c c' : Condition} (h : c.Trims c') :
    c.fragment? d = c'.fragment? d := by
  induction h with
  | @drop k before after c hc =>
      have hnone := (c.fragment?_eq_none_iff d).2 hc
      rw [Combination.fragment?_of, Combination.fragment?_of, fragments_middle, fragments_append,
        hnone, Option.toList_none, List.nil_append]
  | @unwrap k hk before after c hothers hc =>
      obtain ⟨hbefore, hafter⟩ := List.forall_mem_append.1 hothers
      have hsome : c.fragment? d ≠ none := by
        rw [ne_eq, fragment?_eq_none_iff, hc]
        exact Bool.false_ne_true
      obtain ⟨f, hf⟩ := Option.ne_none_iff_exists'.1 hsome
      have hfragments : fragments d (before ++ c :: after) = [f] := by
        simp [fragments_middle, fragments_of_forall_isDead d hbefore,
          fragments_of_forall_isDead d hafter, hf]
      -- A single fragment is passed on with its flag, so parentheses outside are set as before.
      rw [Combination.fragment?_of, hfragments, hf]
      cases k with
      | all => rfl
      | any => rfl
      | not => exact absurd rfl hk
  | inside k before after _ ih =>
      simp [Combination.fragment?_of, fragments_middle, ih]

theorem Alike.fragment?_eq {c c' : Condition} (h : c.Alike c') :
    c.fragment? d = c'.fragment? d := by
  induction h with
  | rel c c' h => exact h.fragment?_eq
  | refl c => rfl
  | symm c c' _ ih => exact ih.symm
  | trans c c' c'' _ _ ih ih' => exact ih.trans ih'

variable (d)

theorem chars_ne_nil_of_fragments {connective : String} {cs : List Condition} {g : Fragment}
    (hcs : ∀ c ∈ cs, ∀ {f}, c.fragment? d = some f → f.template.chars ≠ [])
    (h : Fragment.combine connective (fragments d cs) = some g) : g.template.chars ≠ [] := by
  refine Fragment.chars_ne_nil_of_combine ?_ h
  intro f hf
  rw [fragments_eq_filterMap, List.mem_filterMap] at hf
  obtain ⟨c, hc, hfragment⟩ := hf
  exact hcs c hc hfragment

theorem chars_ne_nil_of_membership? {field keyword : String} {values : List Value} {f : Fragment}
    (h : membership? d field keyword values = some f) : f.template.chars ≠ [] := by
  rw [membership?] at h
  split at h <;> cases h
  simp [Fragment.leaf]

/-- What a condition says has text. -/
theorem chars_ne_nil_of_fragment? {c : Condition} {f : Fragment} (h : c.fragment? d = some f) :
    f.template.chars ≠ [] := by
  induction c using Condition.induction generalizing f with
  | eq field value | op field operator value | eqExpr field expr | opExpr field operator expr =>
      rw [fragment?] at h
      split at h <;> cases h
      simp [Fragment.leaf, Fragment.verbatim]
  | isIn field values => exact chars_ne_nil_of_membership? d h
  | notIn field values => exact chars_ne_nil_of_membership? d h
  | raw sql =>
      rw [fragment?] at h
      split at h <;> cases h
      next hblank =>
        intro hempty
        have hchars : sql.toList = [] := by simpa [Fragment.verbatim] using hempty
        exact hblank (by simp [isBlankText, hchars])
  | all children ih => exact chars_ne_nil_of_fragments d ih h
  | any children ih => exact chars_ne_nil_of_fragments d ih h
  | not children ih =>
      obtain ⟨inner, -, rfl⟩ := Option.map_eq_some_iff.1 h
      simp [negated, Fragment.leaf]

/-- The text of a condition is empty just when the condition is dead. -/
theorem sql_template_eq_empty_iff (c : Condition) :
    (c.template d).sql = "" ↔ c.isDead = true := by
  rw [← fragment?_eq_none_iff d, template, Template.sql]
  cases hfragment : c.fragment? d with
  | none => simp [Template.empty, Template.chars]
  | some f => simpa using chars_ne_nil_of_fragment? d hfragment

theorem template_of_isDead {c : Condition} (hc : c.isDead = true) : c.template d = .empty := by
  rw [template, (c.fragment?_eq_none_iff d).2 hc]

end Condition

namespace Statement

/-- The conditions of a statement say together what their conjunction says. -/
theorem where?_eq_fragment? (d : Dialect) (s : Statement) :
    s.where? d = (Condition.all s.conditions).fragment? d := rfl

/-- What a statement compiles to in any form depends on its conditions by what they say together. -/
theorem Form.compile_of_where?_eq {d : Dialect} {s : Statement} {conditions : List Condition}
    (h : { s with conditions }.where? d = s.where? d) (form : Form) :
    form.compile d { s with conditions } = form.compile d s := by
  have hclause : { s with conditions }.whereClause d = s.whereClause d := by
    rw [whereClause, whereClause, h]
  cases form with
  | select =>
      simp only [compile, compileSelect, compileWithin, selectTemplate, hclause]
      rfl
  | get =>
      simp only [compile, compileGet, compileWithin, selectTemplate, hclause]
      rfl
  | count =>
      simp only [compile, compileCount, countTemplate, hclause]
      rfl
  | sum column =>
      simp only [compile, compileSum, sumTemplate, hclause]
      rfl
  | insert record => rfl
  | update record =>
      simp only [compile, compileUpdate, updateTemplate, hclause]
      rfl
  | assign => simp only [compile, compileAssignments, updateTemplate, hclause]
  | delete =>
      simp only [compile, compileDelete, hclause, h]
      rfl

theorem sql_whereClause_eq_empty_iff (d : Dialect) (s : Statement) :
    (s.whereClause d).sql = "" ↔ ∀ c ∈ s.conditions, c.isDead = true := by
  rw [← Condition.areDead_iff, ← where?_eq_none_iff d, whereClause, Template.sql]
  cases s.where? d with
  | none => simp [Template.empty, Template.chars]
  | some f => simp

theorem whereClause_of_forall_isDead (d : Dialect) {s : Statement}
    (hs : ∀ c ∈ s.conditions, c.isDead = true) : s.whereClause d = .empty := by
  rw [whereClause, (where?_eq_none_iff d s).2 ((Condition.areDead_iff _).2 hs)]

/-- What says nothing leaves no trace. Alike conditions have the same text and bind the same values;
the text is empty just when the condition is dead, and then nothing is bound. The conditions of a
statement behave as the children of a conjunction: alike ones compile to the same in every form, and
there is no `WHERE` just when all of them are dead. -/
theorem elision_leaves_no_trace (d : Dialect) :
    (∀ c c' : Condition, c.Alike c' →
      (c.template d).sql = (c'.template d).sql ∧
        (c.template d).values = (c'.template d).values) ∧
    (∀ c : Condition, ((c.template d).sql = "" ↔ c.isDead = true) ∧
      (c.isDead = true → (c.template d).values = [])) ∧
    (∀ (s : Statement) (conditions : List Condition),
      (Condition.all s.conditions).Alike (.all conditions) → ∀ form : Form,
        form.compile d { s with conditions } = form.compile d s) ∧
    ∀ s : Statement, ((s.whereClause d).sql = "" ↔ ∀ c ∈ s.conditions, c.isDead = true) ∧
      ((∀ c ∈ s.conditions, c.isDead = true) → (s.whereClause d).values = []) := by
  refine ⟨?_, ?_, ?_, ?_⟩
  · intro c c' h
    have htemplate : c.template d = c'.template d := by
      rw [Condition.template, Condition.template, h.fragment?_eq]
    rw [htemplate]
    exact ⟨rfl, rfl⟩
  · intro c
    refine ⟨c.sql_template_eq_empty_iff d, ?_⟩
    intro hc
    rw [Condition.template_of_isDead d hc]
    rfl
  · intro s conditions h form
    apply Form.compile_of_where?_eq
    rw [where?_eq_fragment?, where?_eq_fragment?, h.fragment?_eq]
  · intro s
    refine ⟨s.sql_whereClause_eq_empty_iff d, ?_⟩
    intro hs
    rw [whereClause_of_forall_isDead d hs]
    rfl

namespace ElisionWitness

/-- A dead condition with a value. -/
def dead : Condition := .not [.eq "" (.int 3), .any []]

/-- Conditions with a raw text in a combination of its own, between others that say nothing. -/
def scattered : List Condition :=
  [dead, .any [.raw "a = 1 OR b = 2", .isIn "age" []], .eq "x" (.int 1)]

/-- The conditions that say something. -/
def gathered : List Condition := [.raw "a = 1 OR b = 2", .eq "x" (.int 1)]

theorem scattered_alike : (Condition.all scattered).Alike (.all gathered) := by
  have hdrop : (Condition.all scattered).Trims (.all scattered.tail) := .drop .all [] _ rfl
  have hothers : ∀ other ∈ [] ++ [Condition.isIn "age" []], other.isDead = true := by
    simp [Condition.isDead]
  have hunwrap : (Condition.any [.raw "a = 1 OR b = 2", .isIn "age" []]).Trims
      (.raw "a = 1 OR b = 2") :=
    .unwrap .any (by simp) hothers (by decide +kernel)
  have hinside : (Condition.all scattered.tail).Trims (.all gathered) :=
    .inside .all [] [.eq "x" (.int 1)] hunwrap
  exact .trans _ _ _ (.rel _ _ hdrop) (.rel _ _ hinside)

end ElisionWitness

open ElisionWitness in
theorem elision_scattered :
    (Condition.all scattered).Alike (.all gathered) ∧ dead.isDead = true ∧
    ((Condition.all scattered).template .sqlite).sql =
      ((Condition.all gathered).template .sqlite).sql ∧
    ((Condition.all gathered).template .sqlite).sql = "(a = 1 OR b = 2) AND \"x\"=?" ∧
    (dead.template .sqlite).values = [] ∧
    Form.delete.compile .sqlite { on "t" with conditions := gathered } =
      Form.delete.compile .sqlite { on "t" with conditions := scattered } := by
  obtain ⟨halike, hdead, hform, -⟩ := elision_leaves_no_trace .sqlite
  refine ⟨scattered_alike, rfl, (halike _ _ scattered_alike).1, by decide +kernel,
    (hdead dead).2 rfl, ?_⟩
  exact hform { on "t" with conditions := scattered } gathered scattered_alike .delete

end Statement

end SqlPipeline
