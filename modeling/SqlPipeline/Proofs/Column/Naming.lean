import SqlPipeline.Proofs.Alignment

/-!
How an insert and an update name their columns.

An insert quotes the columns that are plain and copies the others; an update quotes all that are not
qualified. Main statement: an insert is, text for text, the one that names its columns as an update
does just when each of them is plain or qualified. If all are plain, then its placeholders are
those of its values; otherwise the quotes and question marks of the copied names count too.
-/

namespace SqlPipeline

/-- So many question marks in a list. -/
def questionMarks (count : Nat) : String :=
  ",".intercalate (List.replicate count "?")

namespace Template

theorem sql_hole (v : Value) : (hole v).sql = "?" := rfl

theorem sql_join (separator : String) (ts : List Template) :
    (join separator ts).sql = separator.intercalate (ts.map sql) := by
  induction ts with
  | nil => rfl
  | cons t rest ih =>
      cases rest with
      | nil => simp [join]
      | cons u rest => simp [join, sql_append, sql_ofText, ih]

theorem values_join (separator : String) (ts : List Template) :
    (join separator ts).values = ts.flatMap values := by
  induction ts with
  | nil => rfl
  | cons t rest ih =>
      cases rest with
      | nil => simp [join]
      | cons u rest => simp [join, ih]

theorem sql_holes (values : List Value) :
    (holes values).sql = questionMarks values.length := by
  rw [holes, sql_join, List.map_map, questionMarks, ← List.map_const']
  rfl

theorem values_holes (values : List Value) : (holes values).values = values := by
  simp [holes, values_join, List.flatMap_map]

end Template

theorem toList_questionMarks_add_two (count : Nat) :
    (questionMarks (count + 2)).toList = '?' :: ',' :: (questionMarks (count + 1)).toList := by
  simp [questionMarks, List.replicate_succ]

theorem isQuote_of_mem_questionMarks {count : Nat} {c : Char}
    (hc : c ∈ (questionMarks count).toList) : isQuote c = false := by
  match count with
  | 0 => simp [questionMarks] at hc
  | 1 =>
      obtain rfl : c = '?' := by simpa [questionMarks] using hc
      decide
  | count + 2 =>
      rw [toList_questionMarks_add_two, List.mem_cons, List.mem_cons] at hc
      rcases hc with rfl | rfl | hrest
      · decide
      · decide
      · exact isQuote_of_mem_questionMarks hrest

/-- A list of question marks is scanned outside quotes. -/
theorem scan_questionMarks (count : Nat) :
    quotationThrough none (questionMarks count).toList = none ∧
      placeholdersFrom none (questionMarks count).toList = count := by
  match count with
  | 0 => exact ⟨rfl, rfl⟩
  | 1 => decide
  | count + 2 =>
      obtain ⟨hclosed, hcount⟩ := scan_questionMarks (count + 1)
      rw [toList_questionMarks_add_two]
      exact ⟨hclosed, congrArg (· + 1) hcount⟩

namespace Dialect

variable (d : Dialect)

theorem length_lt_wrap (name : String) : name.length < (d.wrap name).length := by
  have hle : ∀ cs : List Char, cs.length ≤ (d.doubled cs).length := by
    intro cs
    induction cs with
    | nil => simp
    | cons c cs ih =>
        by_cases hc : c = d.quote
        · simp [doubled, hc] at ih ⊢
          omega
        · simp [doubled, hc] at ih ⊢
          omega
  have hname := hle name.toList
  rw [String.length_toList] at hname
  simp [wrap]
  omega

/-- A plain or qualified name is written alike in an insert and in an update. -/
theorem quotePlain_eq_quoteField {name : String} (hname : isPlain name = true ∨ '.' ∈ name.toList) :
    d.quotePlain name = d.quoteField name := by
  by_cases hplain : isPlain name = true
  · simp [quotePlain, quoteField, hplain, not_mem_of_isPlain hplain]
  · simp [quotePlain, quoteField, hplain, hname.resolve_left hplain]

/-- Any other name is written shorter in an insert. -/
theorem length_quotePlain_lt {name : String} (hname : ¬(isPlain name = true ∨ '.' ∈ name.toList)) :
    (d.quotePlain name).length < (d.quoteField name).length := by
  obtain ⟨hplain, hdot⟩ := not_or.1 hname
  simpa [quotePlain, quoteField, hplain, hdot] using d.length_lt_wrap name

theorem length_quotePlain_le (name : String) :
    (d.quotePlain name).length ≤ (d.quoteField name).length := by
  by_cases hname : isPlain name = true ∨ '.' ∈ name.toList
  · exact Nat.le_of_eq (congrArg String.length (d.quotePlain_eq_quoteField hname))
  · exact Nat.le_of_lt (d.length_quotePlain_lt hname)

theorem length_intercalate_quotePlain_le (separator : String) (names : List String) :
    (separator.intercalate (names.map d.quotePlain)).length ≤
      (separator.intercalate (names.map d.quoteField)).length := by
  induction names with
  | nil => simp
  | cons name rest ih =>
      have hname := d.length_quotePlain_le name
      cases rest with
      | nil => simpa using hname
      | cons next rest =>
          simp at ih ⊢
          omega

/-- A list of names is written alike in an insert and in an update just when each name is: where one
is not, the text of the insert is shorter. -/
theorem intercalate_quotePlain_eq_iff (separator : String) (names : List String) :
    separator.intercalate (names.map d.quotePlain) =
        separator.intercalate (names.map d.quoteField) ↔
      ∀ name ∈ names, isPlain name = true ∨ '.' ∈ name.toList := by
  constructor
  · intro h
    induction names with
    | nil => simp
    | cons name rest ih =>
        have hlength := congrArg String.length h
        cases rest with
        | nil =>
            have hname : isPlain name = true ∨ '.' ∈ name.toList := by
              by_contra hother
              have hlt := d.length_quotePlain_lt hother
              simp at hlength
              omega
            simpa using hname
        | cons next rest =>
            -- No later name of the insert can make up for a shorter one.
            have hle := d.length_intercalate_quotePlain_le separator (next :: rest)
            have hname : isPlain name = true ∨ '.' ∈ name.toList := by
              by_contra hother
              have hlt := d.length_quotePlain_lt hother
              simp at hlength hle
              omega
            have hrest := ih (by simpa [d.quotePlain_eq_quoteField hname] using h)
            exact List.forall_mem_cons.2 ⟨hname, hrest⟩
  · intro h
    rw [List.map_congr_left fun name hname => d.quotePlain_eq_quoteField (h name hname)]

/-- The placeholders of the first so many values, as the dialect writes them in a list. -/
def marks (count : Nat) : String :=
  ",".intercalate ((List.range' 1 count).map fun n => String.ofList (d.mark n))

theorem finishFrom_mark (count : Nat) : d.finishFrom none count ['?'] = d.mark (count + 1) := by
  rw [finishFrom, mark]
  cases d.placeholder with
  | question => rfl
  | numbered => simp [numberFrom, isPlaceholder]

/-- A list of question marks, in the form of the dialect. -/
theorem finishFrom_questionMarks (before count : Nat) :
    d.finishFrom none before (questionMarks count).toList =
      [','].intercalate ((List.range' (before + 1) count).map d.mark) := by
  match count with
  | 0 => exact d.finishFrom_of_unmarked rfl before
  | 1 => simpa [questionMarks] using d.finishFrom_mark before
  | count + 2 =>
      have hrest := finishFrom_questionMarks (before + 1) (count + 1)
      have hcomma : d.finishFrom none (before + 1) [','] = [','] :=
        d.finishFrom_of_unmarked rfl (before + 1)
      have hmark : quotationThrough none ['?'] = none ∧ placeholdersFrom none ['?'] = 1 := by
        decide
      have hseparator : quotationThrough none [','] = none ∧ placeholdersFrom none [','] = 0 := by
        decide
      have hchars : (questionMarks (count + 2)).toList =
          ['?'] ++ ([','] ++ (questionMarks (count + 1)).toList) :=
        toList_questionMarks_add_two count
      rw [hchars, finishFrom_append, finishFrom_mark, hmark.1, hmark.2, finishFrom_append, hcomma,
        hseparator.1, hseparator.2, Nat.add_zero, hrest]
      simp [List.range'_succ]

theorem toList_marks (count : Nat) :
    (d.marks count).toList = [','].intercalate ((List.range' 1 count).map d.mark) := by
  simp [marks, String.toList_intercalate, Function.comp_def]

end Dialect

namespace Statement

variable (d : Dialect) (s : Statement)

/-- What stands behind the columns of an insert with the given placeholders. -/
def valuesText (marks : String) : String :=
  ") VALUES (" ++ marks ++ ")"

/-- An insert into columns with the given names and with the given placeholders. -/
def insertText (names : List String) (marks : String) : String :=
  "INSERT INTO " ++ d.quotePlain s.table ++ " (" ++ ",".intercalate names ++ valuesText marks

/-- An update of columns with the given names, with a question mark for each of them. -/
def updateText (names : List String) : String :=
  "UPDATE " ++ d.quotePlain s.table ++ " SET " ++
    ",".intercalate (names.map fun name => name ++ "=?") ++ (s.whereClause d).sql

/-- The names that an insert of a record writes. -/
def insertNames (r : Record) : List String :=
  r.columns.map d.quotePlain

/-- The names that an update from a record writes. -/
def updateNames (r : Record) : List String :=
  (r.only s.columns).columns.map d.quoteField

variable {d s}

theorem insertText_eq_iff {names names' : List String} (marks : String) :
    s.insertText d names marks = s.insertText d names' marks ↔
      ",".intercalate names = ",".intercalate names' := by
  rw [insertText, insertText, String.append_left_inj, String.append_right_inj]

theorem compileInsert_eq {r : Record} (htable : isBlankText s.table = false)
    (hr : r.isEmpty = false) :
    s.compileInsert d r =
      .ok ⟨d.finish (s.insertText d (insertNames d r) (questionMarks r.fields.length)),
        r.fields.map Prod.snd⟩ := by
  have hsql : (s.insertTemplate d r).sql =
      s.insertText d (insertNames d r) (questionMarks r.fields.length) := by
    rw [insertTemplate, Template.sql_append, Template.sql_append, Template.sql_ofText,
      Template.sql_ofText, Template.sql_holes, List.length_map, insertText, valuesText,
      ← String.append_assoc, ← String.append_assoc, insertNames]
  have hvalues : (s.insertTemplate d r).values = r.fields.map Prod.snd := by
    simp [insertTemplate, Template.values_holes]
  have hcompile : (s.insertTemplate d r).compile d =
      ⟨d.finish (s.insertText d (insertNames d r) (questionMarks r.fields.length)),
        r.fields.map Prod.snd⟩ := by
    rw [Template.compile, hsql, hvalues]
  rw [compileInsert, withTable, htable, hr, ← hcompile]
  rfl

theorem compileUpdate_eq {r : Record} (htable : isBlankText s.table = false)
    (hr : (r.only s.columns).isEmpty = false) :
    s.compileUpdate d r = .ok (some ⟨d.finish (s.updateText d (updateNames d s r)),
      (r.only s.columns).fields.map Prod.snd ++ (s.whereClause d).values⟩) := by
  let assignments := Template.join "," ((r.only s.columns).fields.map (fieldTemplate d))
  have hsql : (s.updateTemplate d assignments).sql = s.updateText d (updateNames d s r) := by
    simp [assignments, updateTemplate, updateText, updateNames, fieldTemplate, Record.columns,
      Template.sql_append, Template.sql_ofText, Template.sql_hole, Template.sql_join,
      String.append_assoc, Function.comp_def]
  have hvalues : (s.updateTemplate d assignments).values =
      (r.only s.columns).fields.map Prod.snd ++ (s.whereClause d).values := by
    simp [assignments, updateTemplate, fieldTemplate, Template.values_join, List.flatMap_map]
    exact List.map_eq_flatMap.symm
  have hcompile : (s.updateTemplate d assignments).compile d =
      ⟨d.finish (s.updateText d (updateNames d s r)),
        (r.only s.columns).fields.map Prod.snd ++ (s.whereClause d).values⟩ := by
    rw [Template.compile, hsql, hvalues]
  rw [compileUpdate, withTable, htable, hr, ← hcompile]
  rfl

theorem isQuote_of_mem_valuesText {count : Nat} {c : Char}
    (hc : c ∈ (valuesText (questionMarks count)).toList) : isQuote c = false := by
  have hfront : ∀ c ∈ ") VALUES (".toList, isQuote c = false := by simp [isQuote]
  have hback : ∀ c ∈ ")".toList, isQuote c = false := by simp [isQuote]
  rw [valuesText, String.toList_append, String.toList_append, List.mem_append,
    List.mem_append] at hc
  rcases hc with (hc | hc) | hc
  · exact hfront c hc
  · exact isQuote_of_mem_questionMarks hc
  · exact hback c hc

/-- Behind the names of an insert there is one placeholder for each value, or none if a quotation is
left open. -/
theorem placeholdersFrom_valuesText {open? : Option Char} (hopen : ∀ q ∈ open?, isQuote q = true)
    (count : Nat) :
    placeholdersFrom open? (valuesText (questionMarks count)).toList =
      if open? = none then count else 0 := by
  cases open? with
  | none =>
      have hfront : Inert ") VALUES (".toList := by decide
      obtain ⟨hclosed, hcount⟩ := scan_questionMarks count
      rw [valuesText, String.toList_append, String.toList_append, placeholdersFrom_append,
        placeholdersFrom_append, quotationThrough_append, hfront.closed, hfront.unmarked, hclosed,
        hcount, Nat.zero_add, if_pos rfl]
      rfl
  | some q =>
      have hq : q ∉ (valuesText (questionMarks count)).toList := by
        intro hmem
        simpa [hopen q rfl] using isQuote_of_mem_valuesText hmem
      rw [placeholdersFrom_of_open hq, if_neg (by simp)]

theorem finish_valuesText (d : Dialect) (count : Nat) :
    d.finish (valuesText (questionMarks count)) = valuesText (d.marks count) := by
  have hfront : Inert ") VALUES (".toList := by decide
  have hclosing : ∀ open? count, d.finishFrom open? count ")".toList = ")".toList :=
    fun open? count => d.finishFrom_of_not_mem (by decide) open? count
  rw [← String.toList_inj, Dialect.toList_finish_text, valuesText, valuesText,
    String.toList_append, String.toList_append, Dialect.finishFrom_append,
    Dialect.finishFrom_append, hclosing, hfront.closed, hfront.unmarked,
    d.finishFrom_of_unmarked hfront.unmarked, Dialect.finishFrom_questionMarks,
    String.toList_append, String.toList_append, Dialect.toList_marks]

section Plain

variable (hquote : isQuote d.quote = true) (htable : Dialect.isPlain s.table = true)
include hquote htable

theorem inert_insertLead : Inert ("INSERT INTO " ++ d.quotePlain s.table ++ " (").toList := by
  have htext : Inert (d.quotePlain s.table).toList :=
    d.inert_quotePlain hquote fun hcopied => by simp [htable] at hcopied
  exact (Inert.concat (by decide) htext).concat (by decide)

/-- The placeholders of an insert are those in its names and, unless the names end in a quotation,
one for each value. -/
theorem countPlaceholders_insertText (names : List String) (count : Nat) :
    countPlaceholders (s.insertText d names (questionMarks count)) =
      countPlaceholders (",".intercalate names) +
        if quotationThrough none (",".intercalate names).toList = none then count else 0 := by
  have hlead := inert_insertLead hquote htable
  rw [insertText, countPlaceholders, String.toList_append, String.toList_append,
    placeholdersFrom_append, placeholdersFrom_append, quotationThrough_append, hlead.closed,
    hlead.unmarked, Nat.zero_add,
    placeholdersFrom_valuesText fun q hq => isQuote_of_quotationThrough hq]
  rfl

/-- With plain names the final text of an insert shows them as an update writes them, and behind
them the placeholders of its values. -/
theorem finish_insertText_of_isPlain {r : Record}
    (hplain : ∀ column ∈ r.columns, Dialect.isPlain column = true) (count : Nat) :
    d.finish (s.insertText d (insertNames d r) (questionMarks count)) =
      s.insertText d (r.columns.map d.quoteField) (d.marks count) := by
  have hnames : insertNames d r = r.columns.map d.quoteField :=
    List.map_congr_left fun column hcolumn =>
      d.quotePlain_eq_quoteField (.inl (hplain column hcolumn))
  have hcopied : ∀ text ∈ r.columns.flatMap copiedName, Inert text.toList := by
    intro text htext
    obtain ⟨column, hcolumn, hmem⟩ := List.mem_flatMap.1 htext
    simp [copiedName, hplain column hcolumn] at hmem
  have hfront : Inert ("INSERT INTO " ++ d.quotePlain s.table ++ " (" ++
      ",".intercalate (insertNames d r)).toList :=
    (inert_insertLead hquote htable).concat (inert_names hquote (by decide) hcopied)
  rw [insertText, insertText, d.finish_append_of_inert hfront, finish_valuesText, ← hnames]

/-- An insert is, text for text, the one that names its columns as an update does just when each of
them is plain or qualified. Its placeholders are those in its names and, unless the names end in a
quotation, one for each value. If all columns are plain, then the final text shows the names that an
update writes, and behind them one placeholder for each value, in their order. -/
theorem insert_columns_named {r : Record} (hr : r.isEmpty = false) :
    ∃ c, s.compileInsert d r = .ok c ∧ c.values = r.fields.map Prod.snd ∧
      c.sql = d.finish (s.insertText d (insertNames d r) (questionMarks c.values.length)) ∧
      (s.insertText d (insertNames d r) (questionMarks c.values.length) =
          s.insertText d (r.columns.map d.quoteField) (questionMarks c.values.length) ↔
        ∀ column ∈ r.columns, Dialect.isPlain column = true ∨ '.' ∈ column.toList) ∧
      countPlaceholders (s.insertText d (insertNames d r) (questionMarks c.values.length)) =
        countPlaceholders (",".intercalate (insertNames d r)) +
          (if quotationThrough none (",".intercalate (insertNames d r)).toList = none then
            c.values.length else 0) ∧
      ((∀ column ∈ r.columns, Dialect.isPlain column = true) →
        c.sql = s.insertText d (r.columns.map d.quoteField) (d.marks c.values.length)) ∧
      ((r.only s.columns).isEmpty = false → ∃ u, s.compileUpdate d r = .ok (some u) ∧
        u.sql = d.finish (s.updateText d ((r.only s.columns).columns.map d.quoteField))) := by
  have hblank := Dialect.isBlankText_of_isPlain htable
  have hlength : (r.fields.map Prod.snd).length = r.fields.length := List.length_map ..
  refine ⟨_, compileInsert_eq hblank hr, rfl, ?_, ?_, ?_, ?_, ?_⟩
  · rw [hlength]
  · rw [← d.intercalate_quotePlain_eq_iff ",", insertText_eq_iff, insertNames]
  · exact countPlaceholders_insertText hquote htable _ _
  · intro hplain
    rw [hlength]
    exact finish_insertText_of_isPlain hquote htable hplain _
  · intro hwritten
    exact ⟨_, compileUpdate_eq hblank hwritten, rfl⟩

end Plain

namespace NamingWitness

/-- A record whose columns are plain, and one with a column that is not. -/
def order : Record := ⟨[("id", .int 1), ("kind_2", .text "box")]⟩

def flagged : Record := ⟨[("ok?", .bool true)]⟩

end NamingWitness

open NamingWitness in
theorem insert_columns_order :
    isQuote Dialect.postgres.quote = true ∧ Dialect.isPlain (on "orders").table = true ∧
    order.isEmpty = false ∧
    ∃ c, (on "orders").compileInsert .postgres order = .ok c ∧
      c.sql = "INSERT INTO \"orders\" (\"id\",\"kind_2\") VALUES ($1,$2)" ∧
      countPlaceholders ((on "orders").insertText .postgres (insertNames .postgres order)
        (questionMarks c.values.length)) = c.values.length := by
  have htable : Dialect.isPlain (on "orders").table = true := by decide +kernel
  have hplain : ∀ column ∈ order.columns, Dialect.isPlain column = true := by decide +kernel
  obtain ⟨c, hc, hvalues, -, -, hcount, hsql, -⟩ :=
    insert_columns_named (d := .postgres) rfl htable (r := order) rfl
  have hlength : c.values.length = 2 := congrArg List.length hvalues
  refine ⟨rfl, htable, rfl, c, hc, ?_, ?_⟩
  · rw [hsql hplain, hlength]
    decide +kernel
  · have hclosed : quotationThrough none
        (",".intercalate (insertNames .postgres order)).toList = none := by decide +kernel
    have hunmarked : countPlaceholders (",".intercalate (insertNames .postgres order)) = 0 := by
      decide +kernel
    rw [hcount, if_pos hclosed, hunmarked, Nat.zero_add]

open NamingWitness in
/-- A column with a question mark is copied into an insert, which then has two placeholders for its
one value; an update quotes it. -/
theorem insert_columns_flagged :
    (on "orders").compileInsert .postgres flagged =
        .ok ⟨"INSERT INTO \"orders\" (ok$1) VALUES ($2)", [.bool true]⟩ ∧
    (on "orders").compileUpdate .postgres flagged =
        .ok (some ⟨"UPDATE \"orders\" SET \"ok?\"=$1", [.bool true]⟩) ∧
    insertNames .postgres flagged ≠ flagged.columns.map Dialect.postgres.quoteField ∧
    countPlaceholders ((on "orders").insertText .postgres (insertNames .postgres flagged)
      (questionMarks 1)) = 2 := by
  have htable : isBlankText (on "orders").table = false := by decide +kernel
  rw [compileInsert_eq htable rfl, compileUpdate_eq htable rfl]
  have hinsert : Dialect.postgres.finish
      ((on "orders").insertText .postgres (insertNames .postgres flagged)
        (questionMarks flagged.fields.length)) =
          "INSERT INTO \"orders\" (ok$1) VALUES ($2)" := by decide +kernel
  have hupdate : Dialect.postgres.finish
      ((on "orders").updateText .postgres (updateNames .postgres (on "orders") flagged)) =
        "UPDATE \"orders\" SET \"ok?\"=$1" := by decide +kernel
  rw [hinsert, hupdate]
  exact ⟨rfl, rfl, by decide +kernel, by decide +kernel⟩

end Statement

end SqlPipeline
