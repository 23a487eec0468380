import Mathlib.Data.List.Nodup
import SqlPipeline.Proofs.Column.Naming
import SqlPipeline.Proofs.Document.Members
import SqlPipeline.Proofs.Identifier
import SqlPipeline.Row

/-!
Columns that are written once.

Setting a column, leaving columns out and reading a document keep the columns of a record distinct;
a row is taken over with all of its columns. Main statement: records have distinct columns just when
the rows that they are made of have; an update from such a record writes distinct names, and so does
an insert, unless a plain column stands beside its own quotation.
-/

namespace SqlPipeline

namespace Record

/-- The records that are built from nothing, from documents and from rows of the given kind, by
setting columns and by leaving columns out. -/
inductive Built (rows : Row → Prop) : Record → Prop
  | empty : Built rows .empty
  | set {r : Record} (column : String) (value : Value) (hr : Built rows r) :
      Built rows (r.set column value)
  | only {r : Record} (columns : List String) (hr : Built rows r) : Built rows (r.only columns)
  | ofJson {members : List (String × Json)} {r : Record} (hmembers : Json.Ascending members)
      (hr : Record.ofJson (.object members) = .ok r) : Built rows r
  | ofRow {row : Row} (hrow : rows row) : Built rows row.toRecord

theorem nodup_columns_set {r : Record} (hr : r.columns.Nodup) (column : String) (value : Value) :
    (r.set column value).columns.Nodup := by
  rw [columns_set]
  by_cases hmem : column ∈ r.columns
  · rwa [if_pos hmem]
  · rw [if_neg hmem, ← List.concat_eq_append]
    exact hr.concat hmem

theorem columns_only_sublist (r : Record) (columns : List String) :
    (r.only columns).columns.Sublist r.columns := by
  rw [only]
  split
  · exact List.Sublist.refl _
  · exact List.filter_sublist.map Prod.fst

theorem nodup_columns_ofJson {members : List (String × Json)} {r : Record}
    (hmembers : Json.Ascending members) (hr : Record.ofJson (.object members) = .ok r) :
    r.columns.Nodup := by
  obtain rfl := Except.ok.inj hr
  have hnames : members.Pairwise fun m n => m.1 ≠ n.1 := hmembers.imp ne_of_lt
  simpa [columns, List.Nodup, List.pairwise_map] using hnames

/-- Records have distinct columns, if the rows that they are made of have. -/
theorem Built.nodup_columns {rows : Row → Prop} {r : Record}
    (hrows : ∀ row, rows row → (row.fields.map Prod.fst).Nodup) (hr : Built rows r) :
    r.columns.Nodup := by
  induction hr with
  | empty => exact List.nodup_nil
  | set column value _ ih => exact nodup_columns_set ih column value
  | only columns _ ih => exact ih.sublist (columns_only_sublist _ columns)
  | ofJson hmembers hr => exact nodup_columns_ofJson hmembers hr
  | ofRow hrow => exact hrows _ hrow

end Record

namespace Dialect

variable (d : Dialect)

section Quote

variable (hquote : isQuote d.quote = true)
include hquote

theorem isPlain_wrap (name : String) : isPlain (d.wrap name) = false := by
  by_contra hplain
  have hchar : isPlainChar d.quote = true :=
    isPlainChar_of_mem (by simpa using hplain) (by simp [wrap])
  simp only [isQuote, Bool.or_eq_true, beq_iff_eq] at hquote
  rcases hquote with (hq | hq) | hq
  · exact absurd (hq ▸ hchar) (by decide)
  · exact absurd (hq ▸ hchar) (by decide)
  · exact absurd (hq ▸ hchar) (by decide)

/-- An update writes different fields differently. -/
theorem quoteField_injective : Function.Injective d.quoteField := by
  have hdot : '.' ≠ d.quote := by
    intro h
    rw [← h] at hquote
    exact absurd hquote (by decide)
  have hmem : ∀ name : String, '.' ∈ (d.wrap name).toList ↔ '.' ∈ name.toList := by
    intro name
    simp [wrap, mem_doubled, hdot]
  intro name name' h
  by_cases hname : '.' ∈ name.toList
  · by_cases hname' : '.' ∈ name'.toList
    · simpa [quoteField, hname, hname'] using h
    · have hwrap : name = d.wrap name' := by simpa [quoteField, hname, hname'] using h
      exact absurd ((hmem name').1 (hwrap ▸ hname)) hname'
  · by_cases hname' : '.' ∈ name'.toList
    · have hwrap : d.wrap name = name' := by simpa [quoteField, hname, hname'] using h
      exact absurd ((hmem name).1 (hwrap ▸ hname')) hname
    · exact d.wrap_injective (by simpa [quoteField, hname, hname'] using h)

/-- An insert writes different columns differently, unless one of them is plain and another one is
its quotation. -/
theorem nodup_map_quotePlain_iff {columns : List String} (hcolumns : columns.Nodup) :
    (columns.map d.quotePlain).Nodup ↔
      ∀ column ∈ columns, isPlain column = true → d.wrap column ∉ columns := by
  rw [List.nodup_map_iff_inj_on hcolumns]
  constructor
  -- The quotation of a plain column is not plain, so it is copied as it is.
  · intro h column hcolumn hplain hwrap
    have hsame : column = d.wrap column :=
      h column hcolumn _ hwrap (by simp [quotePlain, hplain, d.isPlain_wrap hquote])
    have hlength := d.length_lt_wrap column
    rw [← hsame] at hlength
    exact lt_irrefl _ hlength
  · intro h column hcolumn other hother hwritten
    by_cases hplain : isPlain column = true
    · by_cases hplain' : isPlain other = true
      · exact d.wrap_injective (by simpa [quotePlain, hplain, hplain'] using hwritten)
      · have hwrap : d.wrap column = other := by
          simpa [quotePlain, hplain, hplain'] using hwritten
        exact absurd (hwrap ▸ hother) (h column hcolumn hplain)
    · by_cases hplain' : isPlain other = true
      · have hwrap : column = d.wrap other := by
          simpa [quotePlain, hplain, hplain'] using hwritten
        exact absurd (hwrap ▸ hcolumn) (h other hother hplain')
      · simpa [quotePlain, hplain, hplain'] using hwritten

end Quote

end Dialect

namespace Statement

variable {d : Dialect} {s : Statement} {r : Record}

theorem of_compileInsert_eq_ok {c : Compiled} (h : s.compileInsert d r = .ok c) :
    isBlankText s.table = false ∧ r.isEmpty = false := by
  rw [compileInsert, withTable] at h
  by_cases htable : isBlankText s.table = true
  · rw [if_pos htable] at h
    cases h
  · rw [if_neg htable] at h
    by_cases hrecord : r.isEmpty = true
    · rw [hrecord] at h
      cases h
    · simp [htable, hrecord]

theorem of_compileUpdate_eq_ok {u : Compiled} (h : s.compileUpdate d r = .ok (some u)) :
    isBlankText s.table = false ∧ (r.only s.columns).isEmpty = false := by
  rw [compileUpdate, withTable] at h
  by_cases htable : isBlankText s.table = true
  · rw [if_pos htable] at h
    cases h
  · rw [if_neg htable] at h
    by_cases hrecord : (r.only s.columns).isEmpty = true
    · rw [hrecord] at h
      cases h
    · simp [htable, hrecord]

/-- Whatever a record is made of, its columns are distinct just when those of the rows are. An
update from a record with distinct columns writes distinct names; an insert does so too, unless a
plain column stands beside its own quotation. -/
theorem columns_written_once (hquote : isQuote d.quote = true) :
    (∀ rows : Row → Prop, (∀ r, Record.Built rows r → r.columns.Nodup) ↔
      ∀ row, rows row → (row.fields.map Prod.fst).Nodup) ∧
    ∀ (s : Statement) (r : Record), r.columns.Nodup →
      (∀ u, s.compileUpdate d r = .ok (some u) →
        u.sql = d.finish (s.updateText d (updateNames d s r)) ∧ (updateNames d s r).Nodup) ∧
      (∀ c, s.compileInsert d r = .ok c →
        c.sql = d.finish (s.insertText d (insertNames d r) (questionMarks c.values.length)) ∧
        ((insertNames d r).Nodup ↔
          ∀ column ∈ r.columns, Dialect.isPlain column = true → d.wrap column ∉ r.columns)) := by
  refine ⟨?_, ?_⟩
  · intro rows
    constructor
    · intro h row hrow
      exact h row.toRecord (.ofRow hrow)
    · intro hrows r hr
      exact hr.nodup_columns hrows
  · intro s r hr
    refine ⟨?_, ?_⟩
    · intro u hu
      obtain ⟨htable, hwritten⟩ := of_compileUpdate_eq_ok hu
      rw [compileUpdate_eq htable hwritten] at hu
      obtain rfl := Option.some.inj (Except.ok.inj hu)
      refine ⟨rfl, ?_⟩
      exact (hr.sublist (r.columns_only_sublist s.columns)).map (d.quoteField_injective hquote)
    · intro c hc
      obtain ⟨htable, hrecord⟩ := of_compileInsert_eq_ok hc
      rw [compileInsert_eq htable hrecord] at hc
      obtain rfl := Except.ok.inj hc
      refine ⟨?_, d.nodup_map_quotePlain_iff hquote hr⟩
      rw [List.length_map]

namespace DistinctWitness

/-- The row of a person, and that of a person joined with an account. -/
def person : Row := ⟨["id", "name"], [.int 1, .text "ann"]⟩

def joined : Row := ⟨["id", "name", "id"], [.int 1, .text "ann", .int 2]⟩

/-- A record made of the row, with a column more and one less. -/
def moved : Record := (person.toRecord.set "city" (.text "Bern")).only ["id", "city"]

/-- A column beside its quotation. -/
def quoted : Record := Record.empty.set "id" (.int 1) |>.set "\"id\"" (.int 2)

end DistinctWitness

open DistinctWitness in
theorem columns_written_once_moved :
    isQuote Dialect.postgres.quote = true ∧ Record.Built (· = person) moved ∧
    moved.columns = ["id", "city"] ∧ moved.columns.Nodup ∧
    ∃ c, (on "people").compileInsert .postgres moved = .ok c ∧
      c.sql = "INSERT INTO \"people\" (\"id\",\"city\") VALUES ($1,$2)" ∧
      (insertNames .postgres moved).Nodup := by
  have hbuilt : Record.Built (· = person) moved := .only _ (.set _ _ (.ofRow rfl))
  have hcolumns : moved.columns = ["id", "city"] := by decide +kernel
  have hplain : ∀ column ∈ moved.columns, Dialect.isPlain column = true →
      Dialect.postgres.wrap column ∉ moved.columns := by
    rw [hcolumns]
    decide +kernel
  obtain ⟨hrecords, hwritten⟩ := columns_written_once (d := .postgres) rfl
  have hnodup : moved.columns.Nodup := by
    refine (hrecords (· = person)).2 ?_ moved hbuilt
    rintro row rfl
    decide +kernel
  have hcompile := compileInsert_eq (d := .postgres) (s := on "people") (r := moved)
    (by decide +kernel) (by decide +kernel)
  obtain ⟨-, hinsert⟩ := hwritten (on "people") moved hnodup
  obtain ⟨-, hnames⟩ := hinsert _ hcompile
  exact ⟨rfl, hbuilt, hcolumns, hnodup, _, hcompile, by decide +kernel, hnames.2 hplain⟩

open DistinctWitness in
/-- A joined row with a column twice is inserted, and updated from, with that column twice. A plain
column and its quotation are two columns of a record, and one name in an insert. -/
theorem columns_repeated_joined :
    Record.Built (· = joined) joined.toRecord ∧ ¬joined.toRecord.columns.Nodup ∧
    insertNames .postgres joined.toRecord = ["\"id\"", "\"name\"", "\"id\""] ∧
    updateNames .postgres (on "people") joined.toRecord = ["\"id\"", "\"name\"", "\"id\""] ∧
    (on "people").compileInsert .postgres joined.toRecord =
      .ok ⟨"INSERT INTO \"people\" (\"id\",\"name\",\"id\") VALUES ($1,$2,$3)",
        [.int 1, .text "ann", .int 2]⟩ ∧
    Record.Built (fun _ => False) quoted ∧ quoted.columns.Nodup ∧
    insertNames .postgres quoted = ["\"id\"", "\"id\""] := by
  have hsql : Dialect.postgres.finish ((on "people").insertText .postgres
      (insertNames .postgres joined.toRecord) (questionMarks joined.toRecord.fields.length)) =
        "INSERT INTO \"people\" (\"id\",\"name\",\"id\") VALUES ($1,$2,$3)" := by decide +kernel
  have hcompile := compileInsert_eq (d := .postgres) (s := on "people") (r := joined.toRecord)
    (by decide +kernel) rfl
  rw [hsql] at hcompile
  exact ⟨.ofRow rfl, by decide +kernel, by decide +kernel, by decide +kernel, hcompile,
    .set _ _ (.set _ _ .empty), by decide +kernel, by decide +kernel⟩

end Statement

end SqlPipeline
