import SqlPipeline.Proofs.Column.Distinct

/-!
Updates from a record and updates from assignments.

A record is written by assigning its fields one after the other, those of the columns that the
statement lists or, if it lists none, all of them. Main statement: an update from a record is the
update that makes these assignments, in text, numbering and values; nothing is written by the one
just when nothing is by the other, and a column that is not listed is never written.
-/

namespace SqlPipeline

namespace Record

/-- The fields that are kept, said of each field. -/
theorem fields_only (r : Record) (columns : List String) :
    (r.only columns).fields =
      r.fields.filter fun field => decide (columns = [] ∨ field.1 ∈ columns) := by
  cases columns with
  | nil => simp [only]
  | cons column rest => simp [only]

theorem mem_columns_only {r : Record} {columns : List String} {column : String} :
    column ∈ (r.only columns).columns ↔
      column ∈ r.columns ∧ (columns = [] ∨ column ∈ columns) := by
  rw [Record.columns, Record.columns, fields_only]
  simp only [List.mem_map, List.mem_filter, decide_eq_true_eq]
  constructor
  · rintro ⟨field, ⟨hfield, hlisted⟩, rfl⟩
    exact ⟨⟨field, hfield, rfl⟩, hlisted⟩
  · rintro ⟨⟨field, hfield, rfl⟩, hlisted⟩
    exact ⟨field, ⟨hfield, hlisted⟩, rfl⟩

theorem isEmpty_iff_columns (r : Record) : r.isEmpty = true ↔ ∀ column, column ∉ r.columns := by
  rw [isEmpty, List.isEmpty_iff, ← List.eq_nil_iff_forall_not_mem, columns, List.map_eq_nil_iff]

end Record

namespace Assignment

/-- Assignments that all name a field are all made. -/
theorem effective_eq_self {sets : List Assignment} (hsets : ∀ a ∈ sets, a.field ≠ "") :
    effective sets = sets := by
  rw [effective, List.filter_eq_self]
  intro a ha
  simpa using hsets a ha

end Assignment

namespace Statement

/-- The assignments of the fields of a record, in record order: of those fields whose columns the
statement lists, or of all of them if it lists none. -/
def assignmentsOf (s : Statement) (r : Record) : List Assignment :=
  (r.fields.filter fun field => decide (s.columns = [] ∨ field.1 ∈ s.columns)).map
    fun field => .value field.1 field.2

/-- The statement whose assignments are those of a record. -/
def assigning (s : Statement) (r : Record) : Statement :=
  { s with assignments := s.assignmentsOf r }

variable {d : Dialect} {s : Statement} {r : Record}

theorem assignmentsOf_eq (s : Statement) (r : Record) :
    s.assignmentsOf r =
      (r.only s.columns).fields.map fun field => Assignment.value field.1 field.2 := by
  rw [assignmentsOf, Record.fields_only]

theorem map_field_assignmentsOf (s : Statement) (r : Record) :
    (s.assignmentsOf r).map Assignment.field = (r.only s.columns).columns := by
  rw [assignmentsOf_eq, List.map_map]
  rfl

/-- The assignments of a record are its fields as an update writes them. -/
theorem map_template_assignmentsOf (d : Dialect) (s : Statement) (r : Record) :
    (s.assignmentsOf r).map (Assignment.template d) =
      (r.only s.columns).fields.map (fieldTemplate d) := by
  rw [assignmentsOf_eq, List.map_map]
  rfl

/-- The values that an update binds for the assignments of a record are those of the fields whose
column is not empty. -/
theorem values_listTemplate_assignmentsOf (d : Dialect) (s : Statement) (r : Record) :
    (Assignment.listTemplate d (s.assignmentsOf r)).values =
      ((r.only s.columns).fields.filter fun field => !field.1.isEmpty).map Prod.snd := by
  rw [assignmentsOf_eq, Assignment.listTemplate, Assignment.effective, List.filter_map,
    List.map_map, Template.values_join, List.flatMap_map]
  exact List.map_eq_flatMap.symm

theorem compileAssignments_assigning (htable : isBlankText s.table = false)
    (hcolumns : ∀ column ∈ (r.only s.columns).columns, column ≠ "") :
    (s.assigning r).compileAssignments d =
      if (r.only s.columns).isEmpty then none
      else some ((s.updateTemplate d
        (Template.join "," ((r.only s.columns).fields.map (fieldTemplate d)))).compile d) := by
  have hsets : Assignment.effective (s.assignmentsOf r) = s.assignmentsOf r := by
    apply Assignment.effective_eq_self
    intro a ha
    apply hcolumns
    rw [← map_field_assignmentsOf]
    exact List.mem_map_of_mem ha
  have hempty : (s.assignmentsOf r).isEmpty = (r.only s.columns).isEmpty := by
    rw [assignmentsOf_eq, List.isEmpty_map, Record.isEmpty]
  change (if isBlankText s.table || (Assignment.effective (s.assignmentsOf r)).isEmpty then none
    else some ((s.updateTemplate d
      (Assignment.listTemplate d (s.assignmentsOf r))).compile d)) = _
  rw [Assignment.listTemplate, hsets, htable, hempty, map_template_assignmentsOf, Bool.false_or]

theorem compileUpdate_of_table (htable : isBlankText s.table = false) :
    s.compileUpdate d r =
      .ok (if (r.only s.columns).isEmpty then none
        else some ((s.updateTemplate d
          (Template.join "," ((r.only s.columns).fields.map (fieldTemplate d)))).compile d)) := by
  rw [compileUpdate, withTable, htable]
  rfl

theorem compileUpdate_of_blank (htable : isBlankText s.table = true) :
    s.compileUpdate d r = .error (.config .noTable) := by
  rw [compileUpdate, withTable, htable]
  rfl

theorem values_of_compileAssignments {c : Compiled} (h : s.compileAssignments d = some c) :
    c.values = (Assignment.listTemplate d s.assignments).values ++ (s.whereClause d).values := by
  rw [compileAssignments] at h
  split at h
  · cases h
  · cases h
    simp [Template.compile, updateTemplate]

/-- An update from a record is the update that makes its assignments just when there is a table and
no column that is written is empty: an assignment to the empty field is not made. -/
theorem compileUpdate_eq_compileAssignments_iff :
    s.compileUpdate d r = .ok ((s.assigning r).compileAssignments d) ↔
      isBlankText s.table = false ∧ ∀ column ∈ (r.only s.columns).columns, column ≠ "" := by
  constructor
  · intro h
    have htable : isBlankText s.table = false := by
      by_contra hblank
      rw [compileUpdate_of_blank (by simpa using hblank)] at h
      cases h
    refine ⟨htable, ?_⟩
    rintro column hcolumn rfl
    obtain ⟨field, hfield, hempty⟩ := List.mem_map.1 hcolumn
    have hwritten : (r.only s.columns).isEmpty = false := by
      rw [Bool.eq_false_iff, ne_eq, Record.isEmpty_iff_columns]
      exact fun hnone => hnone _ hcolumn
    rw [compileUpdate_eq htable hwritten] at h
    -- The update binds a value for the empty column, the assignments do not.
    have hvalues := values_of_compileAssignments (Except.ok.inj h).symm
    have hlength := congrArg List.length hvalues
    have hclause : (s.assigning r).whereClause d = s.whereClause d := rfl
    have hassignments : (s.assigning r).assignments = s.assignmentsOf r := rfl
    rw [hclause, hassignments, values_listTemplate_assignmentsOf] at hlength
    have hless : ((r.only s.columns).fields.filter fun field => !field.1.isEmpty).length <
        (r.only s.columns).fields.length :=
      List.length_filter_lt_length_iff_exists.2 ⟨field, hfield, by simp [hempty]⟩
    simp only [List.length_append, List.length_map] at hlength
    omega
  · rintro ⟨htable, hcolumns⟩
    rw [compileUpdate_of_table htable, compileAssignments_assigning htable hcolumns]

theorem compileUpdate_eq_none_iff (htable : isBlankText s.table = false) :
    s.compileUpdate d r = .ok none ↔
      ∀ column ∈ r.columns, s.columns ≠ [] ∧ column ∉ s.columns := by
  have hempty : (r.only s.columns).isEmpty = true ↔
      ∀ column ∈ r.columns, s.columns ≠ [] ∧ column ∉ s.columns := by
    rw [Record.isEmpty_iff_columns]
    simp only [Record.mem_columns_only, not_and, not_or, ne_eq]
  rw [← hempty, compileUpdate_of_table htable]
  cases (r.only s.columns).isEmpty <;> simp

/-- An update from a record is the update that makes the assignments of its fields, in record order:
of the fields whose columns the statement lists, or of all of them if it lists none. Nothing is
written just when no field is left. What is written names the fields of the assignments and no
other, and binds their values, before those of the conditions. -/
theorem update_makes_assignments (d : Dialect) (s : Statement) (r : Record)
    (htable : isBlankText s.table = false) (hcolumns : ∀ column ∈ r.columns, column ≠ "") :
    s.compileUpdate d r = .ok ((s.assigning r).compileAssignments d) ∧
    ((s.assigning r).compileAssignments d = none ↔
      ∀ column ∈ r.columns, s.columns ≠ [] ∧ column ∉ s.columns) ∧
    ∀ c, (s.assigning r).compileAssignments d = some c →
      c.sql = d.finish (s.updateText d
        (((s.assignmentsOf r).map Assignment.field).map d.quoteField)) ∧
      c.values = (r.only s.columns).fields.map Prod.snd ++ (s.whereClause d).values ∧
      ∀ column, column ∈ (s.assignmentsOf r).map Assignment.field ↔
        column ∈ r.columns ∧ (s.columns = [] ∨ column ∈ s.columns) := by
  have hagree : s.compileUpdate d r = .ok ((s.assigning r).compileAssignments d) := by
    refine compileUpdate_eq_compileAssignments_iff.2 ⟨htable, ?_⟩
    intro column hcolumn
    exact hcolumns column (Record.mem_columns_only.1 hcolumn).1
  refine ⟨hagree, ?_, ?_⟩
  · rw [← compileUpdate_eq_none_iff (d := d) htable, hagree, Except.ok.injEq]
  · intro c hc
    rw [hc] at hagree
    obtain ⟨-, hwritten⟩ := of_compileUpdate_eq_ok hagree
    rw [compileUpdate_eq htable hwritten] at hagree
    obtain rfl := Option.some.inj (Except.ok.inj hagree)
    rw [map_field_assignmentsOf]
    exact ⟨rfl, rfl, fun column => Record.mem_columns_only⟩

namespace AllowedWitness

/-- A statement that may write two columns, and a record with a third one. -/
def people : Statement where
  table := "people"
  columns := ["age", "name"]
  conditions := [.eq "id" (.int 7)]

def ann : Record :=
  Record.empty.set "id" (.int 8) |>.set "name" (.text "ann") |>.set "age" (.int 30)

end AllowedWitness

open AllowedWitness in
theorem update_makes_assignments_people :
    isBlankText people.table = false ∧ (∀ column ∈ ann.columns, column ≠ "") ∧
    people.compileUpdate .postgres ann = .ok ((people.assigning ann).compileAssignments .postgres) ∧
    (people.assigning ann).assignments = [.value "name" (.text "ann"), .value "age" (.int 30)] ∧
    ∃ c, (people.assigning ann).compileAssignments .postgres = some c ∧
      c.sql = "UPDATE \"people\" SET \"name\"=$1,\"age\"=$2 WHERE \"id\"=$3" ∧
      c.values = [.text "ann", .int 30, .int 7] := by
  have htable : isBlankText people.table = false := by decide
  have hcolumns : ∀ column ∈ ann.columns, column ≠ "" := by
    have hnames : ann.columns = ["id", "name", "age"] := by decide +kernel
    rw [hnames]
    decide
  obtain ⟨hagree, -, hwritten⟩ := update_makes_assignments .postgres people ann htable hcolumns
  obtain ⟨c, hc⟩ : ∃ c, (people.assigning ann).compileAssignments .postgres = some c :=
    Option.isSome_iff_exists.1 (by decide +kernel)
  obtain ⟨hsql, hvalues, -⟩ := hwritten c hc
  exact ⟨htable, hcolumns, hagree, rfl, c, hc, hsql.trans (by decide +kernel), hvalues⟩

end Statement

end SqlPipeline
