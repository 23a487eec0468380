import Mathlib.Data.List.Induction
import SqlPipeline.Proofs.Column.Allowed

/-!
The order of columns.

A history is a list of writes, each of a value under a column. A record remembers a history when it
has the columns of the history, each once and in the order of their first appearance, and under each
of them the value that was written last. Main statement: what writes make of a record with distinct
columns is the one record that remembers its fields and then the writes; leaving columns out keeps
the order of the others, and it does not matter when or in which order it is done.
-/

namespace SqlPipeline

/-! ### Names without repetitions -/

theorem eraseDups_of_nodup {names : List String} (h : names.Nodup) : names.eraseDups = names := by
  induction names with
  | nil => rfl
  | cons name rest ih =>
      obtain ⟨hname, hrest⟩ := List.nodup_cons.1 h
      have hkept : rest.filter (fun other => !other == name) = rest := by
        refine List.filter_eq_self.2 ?_
        intro other hother
        have hne : other ≠ name := fun heq => hname (heq ▸ hother)
        simpa using hne
      rw [List.eraseDups_cons, hkept, ih hrest]

/-- One more name comes last, unless it is there already. -/
theorem eraseDups_concat (names : List String) (name : String) :
    (names ++ [name]).eraseDups =
      if name ∈ names then names.eraseDups else names.eraseDups ++ [name] := by
  rw [List.eraseDups_append]
  by_cases hname : name ∈ names <;> simp [List.removeAll, hname, List.eraseDups_cons]

theorem nodup_eraseDups (names : List String) : names.eraseDups.Nodup := by
  induction names using List.reverseRecOn with
  | nil => exact List.nodup_nil
  | append_singleton names name ih =>
      rw [eraseDups_concat]
      by_cases hname : name ∈ names
      · rwa [if_pos hname]
      · have hnew : name ∉ names.eraseDups := fun hmem => hname (List.mem_eraseDups.1 hmem)
        rw [if_neg hname, ← List.concat_eq_append]
        exact ih.concat hnew

namespace Record

/-- Among fields with distinct columns a lookup finds just the field of the column. -/
theorem lookup_eq_some_iff_mem {fields : List (String × Value)}
    (h : (fields.map Prod.fst).Nodup) {column : String} {value : Value} :
    fields.lookup column = some value ↔ (column, value) ∈ fields := by
  constructor
  · intro hfound
    obtain ⟨before, after, rfl, -⟩ := List.lookup_eq_some_iff.1 hfound
    simp
  · intro hmem
    obtain ⟨before, after, rfl⟩ := List.append_of_mem hmem
    refine List.lookup_eq_some_iff.2 ⟨before, after, rfl, ?_⟩
    intro field hfield
    rw [List.map_append, List.nodup_append] at h
    have hne := h.2.2 field.1 (List.mem_map_of_mem hfield) column (by simp)
    simpa using hne.symm

/-! ### Histories -/

/-- Sets columns one after the other. -/
def setAll (r : Record) (writes : List (String × Value)) : Record :=
  writes.foldl (fun r w => r.set w.1 w.2) r

/-- The record lists each column of a history of writes once, in the order of first appearance, with
the value that was written last. -/
structure Remembers (r : Record) (history : List (String × Value)) : Prop where
  columns : r.columns = (history.map Prod.fst).eraseDups
  values : ∀ field ∈ r.fields, history.reverse.lookup field.1 = some field.2

variable {r r' : Record} {history : List (String × Value)}

theorem Remembers.nodup_columns (h : r.Remembers history) : r.columns.Nodup := by
  rw [h.columns]
  exact nodup_eraseDups _

/-- A record with distinct columns remembers its own fields. -/
theorem remembers_fields (hr : r.columns.Nodup) : r.Remembers r.fields where
  columns := (eraseDups_of_nodup hr).symm
  values := by
    intro field hfield
    have hdistinct : (r.fields.reverse.map Prod.fst).Nodup := by
      rw [List.map_reverse]
      exact List.nodup_reverse.2 hr
    exact (lookup_eq_some_iff_mem hdistinct).2 (List.mem_reverse.2 hfield)

/-- One more write is remembered after the others. -/
theorem Remembers.set (h : r.Remembers history) (column : String) (value : Value) :
    (r.set column value).Remembers (history ++ [(column, value)]) where
  columns := by
    have hmem : column ∈ r.columns ↔ column ∈ history.map Prod.fst := by
      rw [h.columns, List.mem_eraseDups]
    rw [columns_set, List.map_append, List.map_singleton, eraseDups_concat, ← h.columns]
    simp only [hmem]
  values := by
    intro field hfield
    have hdistinct : (r.set column value).columns.Nodup :=
      nodup_columns_set h.nodup_columns column value
    have hfound := (lookup_eq_some_iff_mem hdistinct).2 hfield
    rw [Record.set, lookup_putField] at hfound
    rw [List.reverse_append, List.reverse_singleton, List.singleton_append, List.lookup_cons]
    by_cases hcolumn : field.1 = column
    · rw [if_pos hcolumn] at hfound
      rw [beq_iff_eq.2 hcolumn]
      exact hfound
    · rw [if_neg hcolumn] at hfound
      rw [beq_false_of_ne hcolumn]
      exact h.values field ((lookup_eq_some_iff_mem h.nodup_columns).1 hfound)

/-- Any number of writes are remembered after the others. -/
theorem Remembers.setAll (h : r.Remembers history) (writes : List (String × Value)) :
    (r.setAll writes).Remembers (history ++ writes) := by
  induction writes generalizing r history with
  | nil => rwa [List.append_nil]
  | cons w rest ih =>
      -- The history grows by one write at a time, so the record after it is the one to go on from.
      rw [List.append_cons]
      exact ih (h.set w.1 w.2)

/-- The fields of a record that remembers a history, read off the history. -/
theorem Remembers.map_fields (h : r.Remembers history) :
    r.fields.map (fun field => (field.1, some field.2)) =
      (history.map Prod.fst).eraseDups.map fun column =>
        (column, history.reverse.lookup column) := by
  rw [← h.columns, Record.columns, List.map_map]
  refine List.map_congr_left ?_
  intro field hfield
  rw [Function.comp_apply, h.values field hfield]

theorem Remembers.unique (h : r.Remembers history) (h' : r'.Remembers history) : r = r' := by
  have hfields := h.map_fields.trans h'.map_fields.symm
  have hinjective : Function.Injective fun field : String × Value => (field.1, some field.2) := by
    rintro ⟨column, value⟩ ⟨column', value'⟩ heq
    simpa using heq
  exact congrArg Record.mk (List.map_injective_iff.2 hinjective hfields)

/-! ### Columns that are left out -/

theorem only_comm (r : Record) (columns columns' : List String) :
    (r.only columns).only columns' = (r.only columns').only columns := by
  have hfields : ((r.only columns).only columns').fields =
      ((r.only columns').only columns).fields := by
    simp only [fields_only, List.filter_filter, Bool.and_comm]
  exact congrArg Record.mk hfields

/-- A field that is put among others is kept just when its column is. -/
theorem filter_putField (keeps : String → Bool) (column : String) (value : Value)
    (fields : List (String × Value)) :
    (putField column value fields).filter (fun field => keeps field.1) =
      if keeps column then putField column value (fields.filter fun field => keeps field.1)
      else fields.filter fun field => keeps field.1 := by
  induction fields with
  | nil => cases hkept : keeps column <;> simp [putField, hkept]
  | cons field rest ih =>
      obtain ⟨name, old⟩ := field
      rw [putField]
      by_cases hname : name = column
      · subst hname
        cases hkept : keeps name <;> simp [putField, hkept]
      · rw [if_neg hname, List.filter_cons, List.filter_cons, ih]
        cases keeps column <;> cases keeps name <;> simp [putField, hname]

theorem only_set (r : Record) (column : String) (value : Value) (columns : List String) :
    (r.set column value).only columns =
      if columns = [] ∨ column ∈ columns then (r.only columns).set column value
      else r.only columns := by
  have hfields : ((r.set column value).only columns).fields =
      if columns = [] ∨ column ∈ columns then putField column value (r.only columns).fields
      else (r.only columns).fields := by
    rw [fields_only, fields_only, Record.set,
      filter_putField fun name => decide (columns = [] ∨ name ∈ columns)]
    simp only [decide_eq_true_eq]
  by_cases hkept : columns = [] ∨ column ∈ columns
  · rw [if_pos hkept] at hfields ⊢
    exact congrArg Record.mk hfields
  · rw [if_neg hkept] at hfields ⊢
    exact congrArg Record.mk hfields

/-- Columns are left out after the writes, or before them and among them. -/
theorem only_setAll (r : Record) (writes : List (String × Value)) (columns : List String) :
    (r.setAll writes).only columns =
      (r.only columns).setAll
        (writes.filter fun w => decide (columns = [] ∨ w.1 ∈ columns)) := by
  induction writes generalizing r with
  | nil => rfl
  | cons w rest ih =>
      change ((r.set w.1 w.2).setAll rest).only columns = _
      rw [ih, only_set, List.filter_cons]
      by_cases hkept : columns = [] ∨ w.1 ∈ columns
      · rw [if_pos hkept, if_pos (decide_eq_true hkept)]
        rfl
      · rw [if_neg hkept, if_neg (by simpa using hkept)]

/-- Columns stand in the order of their first appearance. What any writes make of a record with
distinct columns is the one record that remembers its fields and then the writes: the columns that
were there keep their places, the new ones follow in the order in which they were first written, and
each has the value that was written last. Leaving columns out keeps the fields of the others as they
are; it may be done in any order, and before the writes as well as after them. An empty list of
columns leaves nothing out. -/
theorem columns_in_order (r : Record) :
    (r.columns.Nodup → ∀ writes : List (String × Value),
      (∀ r' : Record, r'.Remembers (r.fields ++ writes) ↔ r' = r.setAll writes) ∧
      (r.setAll writes).columns =
        r.columns ++ ((writes.map Prod.fst).removeAll r.columns).eraseDups) ∧
    ∀ columns : List String,
      (r.only columns).fields =
        r.fields.filter (fun field => decide (columns = [] ∨ field.1 ∈ columns)) ∧
      (∀ columns', (r.only columns).only columns' = (r.only columns').only columns) ∧
      ∀ writes, (r.setAll writes).only columns =
        (r.only columns).setAll
          (writes.filter fun w => decide (columns = [] ∨ w.1 ∈ columns)) := by
  constructor
  · intro hr writes
    have hwritten := (remembers_fields hr).setAll writes
    refine ⟨?_, ?_⟩
    · intro r'
      constructor
      · intro h
        exact h.unique hwritten
      · rintro rfl
        exact hwritten
    · rw [hwritten.columns, List.map_append, List.eraseDups_append, ← Record.columns,
        eraseDups_of_nodup hr]
  · intro columns
    exact ⟨r.fields_only columns, r.only_comm columns, fun writes => r.only_setAll writes columns⟩

namespace OrderWitness

def ann : Record := ⟨[("id", .int 7), ("name", .text "ann")]⟩

/-- A column that is there, two new ones, and one of these again. -/
def writes : List (String × Value) :=
  [("city", .text "Bern"), ("name", .text "anna"), ("age", .int 30), ("city", .text "Basel")]

end OrderWitness

open OrderWitness in
theorem columns_in_order_moved :
    ann.columns.Nodup ∧ (ann.setAll writes).Remembers (ann.fields ++ writes) ∧
    (ann.setAll writes).columns = ["id", "name", "city", "age"] ∧
    (ann.setAll writes).fields.lookup "city" = some (.text "Basel") ∧
    ((ann.setAll writes).only ["age", "id"]).columns = ["id", "age"] ∧
    (ann.setAll writes).only ["age", "id"] =
      (ann.only ["age", "id"]).setAll [("age", .int 30)] := by
  have hnodup : ann.columns.Nodup := by decide
  obtain ⟨hwrites, honly⟩ := ann.columns_in_order
  obtain ⟨hremembers, hcolumns⟩ := hwrites hnodup writes
  obtain ⟨-, -, hcommutes⟩ := honly ["age", "id"]
  refine ⟨hnodup, (hremembers _).2 rfl, ?_, by rfl, by rfl, hcommutes writes⟩
  rw [hcolumns]
  decide

end Record

end SqlPipeline
