import SqlPipeline.Proofs.Alignment
import SqlPipeline.Proofs.Verdict

/-!
SQL text and bound values do not interfere.

Masking replaces each value that a statement binds by null and keeps everything else, so two
statements that look the same when masked differ in nothing but the contents of their values. Main
statement: such statements compile to the same text or fail with the same error in each form; and
one statement binds the same values, or fails with the same error, in every dialect.
-/

namespace SqlPipeline

namespace Piece

/-- The piece with null in its hole. -/
def masked : Piece → Piece
  | .text s => .text s
  | .hole _ => .hole .null

theorem chars_masked (piece : Piece) : piece.masked.chars = piece.chars := by
  cases piece <;> rfl

end Piece

namespace Template

/-- The template with null in each hole. -/
def masked (t : Template) : Template := ⟨t.pieces.map Piece.masked⟩

@[simp] theorem masked_append (t u : Template) : (t ++ u).masked = t.masked ++ u.masked :=
  congrArg mk List.map_append

@[simp] theorem masked_ofText (s : String) : (ofText s).masked = ofText s := rfl

@[simp] theorem masked_hole (v : Value) : (hole v).masked = hole .null := rfl

@[simp] theorem masked_join (separator : String) (ts : List Template) :
    (join separator ts).masked = join separator (ts.map masked) := by
  match ts with
  | [] => rfl
  | [t] => rfl
  | t :: u :: rest =>
      rw [join, masked_append, masked_append, masked_ofText, masked_join separator (u :: rest)]
      rfl

@[simp] theorem masked_holes (values : List Value) :
    (holes values).masked = holes (values.map fun _ => .null) := by
  rw [holes, holes, masked_join, List.map_map, List.map_map]
  rfl

/-- Masking keeps the text. -/
theorem sql_masked (t : Template) : t.masked.sql = t.sql := by
  have hchars : t.masked.chars = t.chars := by
    rw [chars, chars, masked, List.flatMap_map]
    exact congrArg (t.pieces.flatMap ·) (funext Piece.chars_masked)
  rw [sql, sql, hchars]

end Template

namespace Fragment

/-- The fragment with null in each hole. -/
def masked (f : Fragment) : Fragment := ⟨f.template.masked, f.compound⟩

theorem grouped_masked (f : Fragment) : f.masked.grouped = f.grouped.masked := by
  rw [grouped, grouped, masked]
  split <;> simp

theorem combine_masked (connective : String) (fs : List Fragment) :
    combine connective (fs.map masked) = (combine connective fs).map masked := by
  match fs with
  | [] => rfl
  | [f] => rfl
  | f :: g :: rest =>
      have hgrouped : ((f :: g :: rest).map masked).map grouped =
          ((f :: g :: rest).map grouped).map Template.masked := by
        rw [List.map_map, List.map_map]
        exact List.map_congr_left fun f _ => f.grouped_masked
      change some (Fragment.mk (Template.join connective
        (((f :: g :: rest).map masked).map grouped)) true) = _
      rw [hgrouped, ← Template.masked_join]
      rfl

end Fragment

namespace Condition

mutual

/-- The condition with null for each value that it binds. -/
def masked : Condition → Condition
  | .eq field _ => .eq field .null
  | .op field operator _ => .op field operator .null
  | .eqExpr field expr => .eqExpr field expr
  | .opExpr field operator expr => .opExpr field operator expr
  | .isIn field values => .isIn field (values.map fun _ => .null)
  | .notIn field values => .notIn field (values.map fun _ => .null)
  | .raw sql => .raw sql
  | .all children => .all (maskedAll children)
  | .any children => .any (maskedAll children)
  | .not children => .not (maskedAll children)

def maskedAll : List Condition → List Condition
  | [] => []
  | c :: rest => masked c :: maskedAll rest

end

theorem maskedAll_eq_map (cs : List Condition) : maskedAll cs = cs.map masked := by
  induction cs with
  | nil => rfl
  | cons c rest ih => rw [maskedAll, ih, List.map_cons]

variable (d : Dialect)

theorem fragments_masked {cs : List Condition}
    (hcs : ∀ c ∈ cs, c.masked.fragment? d = (c.fragment? d).map Fragment.masked) :
    fragments d (maskedAll cs) = (fragments d cs).map Fragment.masked := by
  rw [fragments_eq_filterMap, fragments_eq_filterMap, maskedAll_eq_map, List.filterMap_map,
    List.map_filterMap]
  exact List.filterMap_congr hcs

theorem membership?_masked (field keyword : String) (values : List Value) :
    membership? d field keyword (values.map fun _ => .null) =
      (membership? d field keyword values).map Fragment.masked := by
  rw [membership?, membership?, List.isEmpty_map]
  split
  · rfl
  · simp [Fragment.leaf, Fragment.masked]

/-- The fragment of a masked condition is the fragment of the condition, masked. -/
theorem fragment?_masked (c : Condition) :
    c.masked.fragment? d = (c.fragment? d).map Fragment.masked := by
  induction c using Condition.induction with
  | eq field value =>
      rw [masked, fragment?, fragment?]
      split <;> rfl
  | op field operator value =>
      rw [masked, fragment?, fragment?]
      split <;> rfl
  | eqExpr field expr =>
      rw [masked, fragment?]
      split <;> rfl
  | opExpr field operator expr =>
      rw [masked, fragment?]
      split <;> rfl
  | isIn field values => exact membership?_masked d field "IN" values
  | notIn field values => exact membership?_masked d field "NOT IN" values
  | raw sql =>
      rw [masked, fragment?]
      split <;> rfl
  | all children ih =>
      rw [masked, fragment?, fragment?, fragments_masked d ih, Fragment.combine_masked]
  | any children ih =>
      rw [masked, fragment?, fragment?, fragments_masked d ih, Fragment.combine_masked]
  | not children ih =>
      rw [masked, fragment?, fragment?, fragments_masked d ih, Fragment.combine_masked,
        Option.map_map, Option.map_map]
      congr 1
      funext f
      simp [negated, Fragment.leaf, Fragment.masked]

theorem areDead_maskedAll (cs : List Condition) : areDead (maskedAll cs) = areDead cs := by
  have hdead : ∀ c : Condition, c.masked.isDead = c.isDead := by
    intro c
    rw [Bool.eq_iff_iff, ← fragment?_eq_none_iff default, ← fragment?_eq_none_iff default,
      fragment?_masked, Option.map_eq_none_iff]
  rw [Bool.eq_iff_iff, areDead_iff, areDead_iff, maskedAll_eq_map, List.forall_mem_map]
  simp only [hdead]

end Condition

/-- The assignment with null for the value that it binds. -/
def Assignment.masked : Assignment → Assignment
  | .value field _ => .value field .null
  | .expr field text => .expr field text

theorem Assignment.effective_masked (sets : List Assignment) :
    effective (sets.map masked) = (effective sets).map masked := by
  have hfield : ∀ a : Assignment, a.masked.field = a.field := by
    intro a
    cases a <;> rfl
  rw [effective, effective, List.filter_map]
  simp only [Function.comp_def, hfield]

theorem Assignment.listTemplate_masked (d : Dialect) (sets : List Assignment) :
    listTemplate d (sets.map masked) = (listTemplate d sets).masked := by
  rw [listTemplate, listTemplate, effective_masked, Template.masked_join, List.map_map,
    List.map_map]
  congr 2
  funext a
  cases a <;> simp [template, masked]

namespace Record

/-- The record with null in each column. -/
def masked (r : Record) : Record := ⟨r.fields.map fun field => (field.1, .null)⟩

theorem isEmpty_masked (r : Record) : r.masked.isEmpty = r.isEmpty := List.isEmpty_map

theorem columns_masked (r : Record) : r.masked.columns = r.columns := by
  rw [columns, columns, masked, List.map_map]
  rfl

theorem only_masked (r : Record) (columns : List String) :
    r.masked.only columns = (r.only columns).masked := by
  rw [only, only]
  split
  · rfl
  · rw [masked, masked, List.filter_map]
    rfl

end Record

namespace Statement

/-- The statement with null for each value that it binds, and no arguments for its raw SQL. -/
def masked (s : Statement) : Statement :=
  { s with
    conditions := Condition.maskedAll s.conditions
    assignments := s.assignments.map Assignment.masked
    raw := s.raw.map fun raw => ⟨raw.sql, []⟩ }

theorem whereClause_masked (d : Dialect) (s : Statement) :
    s.masked.whereClause d = (s.whereClause d).masked := by
  have hwhere : s.masked.where? d = (s.where? d).map Fragment.masked := by
    rw [where?, where?, ← Fragment.combine_masked]
    exact congrArg _ (Condition.fragments_masked d fun c _ => c.fragment?_masked d)
  rw [whereClause, whereClause, hwhere]
  cases s.where? d with
  | none => rfl
  | some f => exact (Template.masked_append (Template.ofText " WHERE ") f.template).symm

theorem updateTemplate_masked (d : Dialect) (s : Statement) (assignments : Template) :
    s.masked.updateTemplate d assignments.masked = (s.updateTemplate d assignments).masked := by
  rw [updateTemplate, updateTemplate, whereClause_masked, Template.masked_append,
    Template.masked_append]
  rfl

namespace Form

/-- The form with null in each column of its record. -/
def masked : Form → Form
  | .insert record => .insert record.masked
  | .update record => .update record.masked
  | form => form

variable (d : Dialect) (s : Statement) (form : Form)

/-- A masked form assembles the template of the form, masked. -/
theorem template_masked : form.masked.template d s.masked = (form.template d s).masked := by
  cases form with
  | select =>
      change s.masked.selectTemplate d s.window = (s.selectTemplate d s.window).masked
      rw [selectTemplate, selectTemplate, whereClause_masked, Template.masked_append,
        Template.masked_append]
      rfl
  | get =>
      change s.masked.selectTemplate d (some ⟨1, s.lookupOffset⟩) =
        (s.selectTemplate d (some ⟨1, s.lookupOffset⟩)).masked
      rw [selectTemplate, selectTemplate, whereClause_masked, Template.masked_append,
        Template.masked_append]
      rfl
  | count =>
      change s.masked.countTemplate d = (s.countTemplate d).masked
      rw [countTemplate, countTemplate, whereClause_masked]
      change (if s.groups.isEmpty then _ else _) = _
      split <;> simp only [Template.masked_append] <;> rfl
  | sum column =>
      change s.masked.sumTemplate d column = (s.sumTemplate d column).masked
      rw [sumTemplate, sumTemplate, whereClause_masked, Template.masked_append]
      rfl
  | insert record =>
      change s.masked.insertTemplate d record.masked = (s.insertTemplate d record).masked
      have hvalues : record.masked.fields.map Prod.snd =
          (record.fields.map Prod.snd).map fun _ => .null := by
        rw [Record.masked, List.map_map, List.map_map]
        rfl
      rw [insertTemplate, insertTemplate, Record.columns_masked, hvalues, Template.masked_append,
        Template.masked_append, Template.masked_holes]
      rfl
  | update record =>
      have hassignments : Template.join ","
          ((record.only s.columns).masked.fields.map (fieldTemplate d)) =
            (Template.join "," ((record.only s.columns).fields.map (fieldTemplate d))).masked := by
        rw [Template.masked_join, Record.masked, List.map_map, List.map_map]
        rfl
      change s.masked.updateTemplate d (Template.join ","
        ((record.masked.only s.columns).fields.map (fieldTemplate d))) = _
      rw [Record.only_masked, hassignments, updateTemplate_masked]
      rfl
  | assign =>
      change s.masked.updateTemplate d (Assignment.listTemplate d (s.assignments.map _)) = _
      rw [Assignment.listTemplate_masked, updateTemplate_masked]
      rfl
  | delete =>
      change Template.ofText ("DELETE FROM " ++ d.quotePlain s.table) ++ s.masked.whereClause d = _
      rw [whereClause_masked]
      exact (Template.masked_append (Template.ofText _) (s.whereClause d)).symm

/-- The verdict on a form does not look at values. -/
theorem verdict_masked : form.masked.verdict s.masked = form.verdict s := by
  have hraw : s.masked.raw.isSome = s.raw.isSome := Option.isSome_map
  have htable : ∀ verdict, onTable s.masked verdict = onTable s verdict := fun _ => rfl
  cases form with
  | select | get | count =>
      change (if s.masked.raw.isSome then Except.ok true else onTable s (.ok true)) = _
      rw [hraw]
      rfl
  | sum column => rfl
  | insert record => rw [masked, verdict, verdict, Record.isEmpty_masked, htable]
  | update record =>
      change onTable s (.ok !(record.masked.only s.columns).isEmpty) = _
      rw [Record.only_masked, Record.isEmpty_masked, verdict]
  | assign =>
      change Except.ok (!(isBlankText s.table ||
        (Assignment.effective (s.assignments.map Assignment.masked)).isEmpty)) = _
      rw [Assignment.effective_masked, List.isEmpty_map, verdict]
  | delete =>
      change onTable s (if Condition.areDead (Condition.maskedAll s.conditions) then _ else _) = _
      rw [Condition.areDead_maskedAll, verdict]
      rfl

/-- What a form writes has the same text when it is masked. -/
theorem sql_written_masked : (form.masked.written d s.masked).sql = (form.written d s).sql := by
  have hraw : form.masked.raw? s.masked = (form.raw? s).map fun raw => ⟨raw.sql, []⟩ := by
    cases form <;> rfl
  have hcount : ∀ sql, form.masked.rawText sql = form.rawText sql := by
    cases form <;> exact fun _ => rfl
  rw [written, written, hraw]
  cases form.raw? s with
  | some raw => exact congrArg d.finish (hcount raw.sql)
  | none => exact congrArg d.finish (by rw [template_masked, Template.sql_masked])

end Form

end Statement

namespace Condition

variable (d d' : Dialect)

/-- Which values a membership test binds is decided by the test and not by the dialect. -/
theorem values_membershipBindings (field keyword : String) (values : List Value) :
    (membershipBindings d field keyword values).map Binding.value =
      (membershipBindings d' field keyword values).map Binding.value := by
  rw [membershipBindings, membershipBindings]
  split
  · rfl
  · rw [map_value_listedBindings, map_value_listedBindings]

theorem values_bindingsAll {cs : List Condition}
    (hcs : ∀ c ∈ cs, (c.bindings d).map Binding.value = (c.bindings d').map Binding.value) :
    (bindingsAll d cs).map Binding.value = (bindingsAll d' cs).map Binding.value := by
  induction cs with
  | nil => rfl
  | cons c rest ih =>
      rw [bindingsAll, bindingsAll, List.map_append, List.map_append, hcs c List.mem_cons_self,
        ih fun other hother => hcs other (List.mem_cons_of_mem c hother)]

/-- A condition binds the same values in every dialect. -/
theorem values_bindings (c : Condition) :
    (c.bindings d).map Binding.value = (c.bindings d').map Binding.value := by
  induction c using Condition.induction with
  | eq field value =>
      rw [bindings, bindings]
      split <;> rfl
  | op field operator value =>
      rw [bindings, bindings]
      split <;> rfl
  | eqExpr field expr => rfl
  | opExpr field operator expr => rfl
  | isIn field values => exact values_membershipBindings d d' field "IN" values
  | notIn field values => exact values_membershipBindings d d' field "NOT IN" values
  | raw sql => rfl
  | all children ih => exact values_bindingsAll d d' ih
  | any children ih => exact values_bindingsAll d d' ih
  | not children ih => exact values_bindingsAll d d' ih

end Condition

namespace Statement

namespace Form

/-- A form binds the same values in every dialect. -/
theorem values_bindings (d d' : Dialect) (s : Statement) (form : Form) :
    (form.bindings d s).map Binding.value = (form.bindings d' s).map Binding.value := by
  have hconditions := @Condition.values_bindingsAll d d' s.conditions
    fun c _ => c.values_bindings d d'
  cases form with
  | select => exact hconditions
  | get => exact hconditions
  | count => exact hconditions
  | sum column => exact hconditions
  | insert record =>
      rw [bindings, bindings, map_value_listedBindings, map_value_listedBindings]
  | update record =>
      rw [bindings, bindings, List.map_append, List.map_append, hconditions, List.map_map,
        List.map_map]
      rfl
  | assign =>
      have hassignment : ∀ a : Assignment,
          (a.bindings d).map Binding.value = (a.bindings d').map Binding.value := by
        intro a
        cases a <;> rfl
      rw [bindings, bindings, List.map_append, List.map_append, hconditions, List.map_flatMap,
        List.map_flatMap]
      simp only [hassignment]
  | delete => exact hconditions

/-- What a form writes has the same values in every dialect. -/
theorem values_written (d d' : Dialect) (s : Statement) (form : Form) :
    (form.written d s).values = (form.written d' s).values := by
  rw [written, written]
  cases form.raw? s with
  | some raw => rfl
  | none =>
      change (form.template d s).values = (form.template d' s).values
      rw [(form.binds_template d s).values_eq, (form.binds_template d' s).values_eq,
        values_bindings d d']

theorem map_compile {α : Type} (view : Compiled → α) (d : Dialect) (s : Statement) (form : Form) :
    (form.compile d s).map (Option.map view) =
      (form.verdict s).map fun writes =>
        if writes then some (view (form.written d s)) else none := by
  rw [compile_eq]
  rcases form.verdict s with e | writes
  · rfl
  · cases writes <;> rfl

end Form

/-- Text and values of compiled statements do not interfere. Two statements that differ in nothing
but the contents of their values compile to the same text, to nothing, or fail with the same error,
in each form and with records of the same columns; and one statement binds the same values, writes
nothing, or fails with the same error in every dialect. -/
theorem text_and_values_independent :
    (∀ (d : Dialect) (s s' : Statement) (form form' : Form), s.masked = s'.masked →
      form.masked = form'.masked →
      (form.compile d s).map (Option.map Compiled.sql) =
        (form'.compile d s').map (Option.map Compiled.sql)) ∧
    ∀ (d d' : Dialect) (s : Statement) (form : Form),
      (form.compile d s).map (Option.map Compiled.values) =
        (form.compile d' s).map (Option.map Compiled.values) := by
  refine ⟨?_, ?_⟩
  · intro d s s' form form' hs hform
    have hmasked : ∀ (form : Form) (s : Statement),
        (form.compile d s).map (Option.map Compiled.sql) =
          (form.masked.compile d s.masked).map (Option.map Compiled.sql) := by
      intro form s
      rw [Form.map_compile, Form.map_compile, Form.verdict_masked, Form.sql_written_masked]
    rw [hmasked form s, hmasked form' s', hs, hform]
  · intro d d' s form
    rw [Form.map_compile, Form.map_compile, Form.values_written d d']

namespace InterferenceWitness

/-- A statement with an owner and a note in its conditions and its `SET`. -/
def stored (owner note : String) : Statement where
  table := "accounts"
  assignments := [.value "note" (.text note), .expr "seen" "now()"]
  conditions := [.any [.eq "owner" (.text owner), .isIn "id" [.text note, .null]]]

/-- Writes a record with a note. -/
def insertion (note : String) : Statement.Form :=
  .insert ⟨[("owner", .null), ("note", .text note)]⟩

end InterferenceWitness

open InterferenceWitness in
theorem independent_of_injection :
    (stored "ann" "none").masked = (stored "' OR ''='" "'; DROP TABLE accounts --").masked ∧
    (insertion "none").masked = (insertion "?, $1), ('x'").masked ∧
    ((insertion "none").compile .mysql (stored "ann" "none")).map (Option.map Compiled.sql) =
      ((insertion "?, $1), ('x'").compile .mysql
        (stored "' OR ''='" "'; DROP TABLE accounts --")).map (Option.map Compiled.sql) ∧
    (Form.assign.compile .mysql (stored "ann" "none")).map (Option.map Compiled.values) =
      (Form.assign.compile .postgres (stored "ann" "none")).map (Option.map Compiled.values) :=
  ⟨rfl, rfl, text_and_values_independent.1 .mysql _ _ _ _ rfl rfl,
    text_and_values_independent.2 .mysql .postgres _ _⟩

end Statement

end SqlPipeline
