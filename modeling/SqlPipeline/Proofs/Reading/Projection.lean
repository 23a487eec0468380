import SqlPipeline.Proofs.Reading.Source
import SqlPipeline.Proofs.TableName

/-!
What a query of joined tables reads when nothing is selected.

It reads all columns of each table, which its projection refers to by name. Main statement: where
each table is a plain identifier, alone or with an alias, the projection has one such name for each
table of the `FROM`, in their order, and PostgreSQL takes the name of a table for what the `FROM`
exposes it under if and only if its alias has no blank character or, without an alias, the table has
no capital letter.
-/

namespace SqlPipeline

/-- A select list begins with all columns of the tables with the given names, and with no others. -/
inductive SelectsAll : List (List Char) → List Char → List Char → Prop
  | last {cs name rest : List Char} (hname : readName cs = some (name, '.' :: '*' :: rest))
      (hrest : rest.head? ≠ some ',') : SelectsAll [name] cs rest
  | cons {cs name next rest : List Char} {names : List (List Char)}
      (hname : readName cs = some (name, '.' :: '*' :: ',' :: ' ' :: next))
      (hnext : SelectsAll names next rest) : SelectsAll (name :: names) cs rest

theorem inert_of_nameOf? {cs name : List Char} (h : nameOf? cs = some name) : Inert cs := by
  obtain ⟨hbare, -⟩ | rfl := nameOf?_cases h
  · apply Inert.of_all
    intro c hc
    have hname := hbare.isNameChar c hc
    constructor
    · rw [Bool.eq_false_iff]
      intro hquote
      simp only [isQuote, Bool.or_eq_true, beq_iff_eq] at hquote
      rcases hquote with (rfl | rfl) | rfl <;> exact absurd hname (by decide)
    · rintro rfl
      exact absurd hname (by decide)
  · exact Lexeme.inert_quoted (by decide) name

namespace TableReference

/-- The item of a projection that reads all columns of the table. -/
def item (r : TableReference) : String :=
  referenceName r.text ++ ".*"

theorem inert_item {r : TableReference} (h : r.Resolves) : Inert r.item.toList :=
  Inert.concat (inert_of_nameOf? (r.nameOf?_referenceName_iff.mpr h)) (by decide)

/-- An item is read as the name under which its table is exposed. -/
theorem readName_item {r : TableReference} (h : r.Resolves) (rest : List Char) :
    readName (r.item.toList ++ rest) = some (r.exposed, '.' :: '*' :: rest) := by
  have hdot : EndsName ('.' :: '*' :: rest) := by
    rintro c ⟨⟩
    decide
  have hitem : r.item.toList ++ rest = (referenceName r.text).toList ++ '.' :: '*' :: rest := by
    rw [item, String.toList_append, List.append_assoc]
    rfl
  rw [hitem]
  exact readName_append (r.nameOf?_referenceName_iff.mpr h) hdot (by simp)

theorem selectsAll_items {refs : List TableReference} (hsome : refs ≠ [])
    (hresolve : ∀ r ∈ refs, r.Resolves) {rest : List Char} (hrest : rest.head? ≠ some ',') :
    SelectsAll (refs.map exposed) ((", ".intercalate (refs.map item)).toList ++ rest) rest := by
  rw [String.toList_intercalate]
  induction refs with
  | nil => exact absurd rfl hsome
  | cons r refs ih =>
    have hr := hresolve r List.mem_cons_self
    cases refs with
    | nil =>
      have hitem := readName_item hr rest
      simpa using SelectsAll.last hitem hrest
    | cons next refs =>
      have htail := ih (by simp) fun other hother => hresolve other (List.mem_cons_of_mem r hother)
      simp only [List.map_cons, List.intercalate_cons_cons, List.append_assoc] at htail ⊢
      exact .cons (readName_item hr _) htail

end TableReference

namespace Statement

open Dialect

/-- The tables of a query in the order in which they are joined. -/
def tables (s : Statement) : List String :=
  s.table :: s.joins.map Join.table

/-- What follows the joins in the query. -/
def afterJoins (s : Statement) : String :=
  (s.whereClause postgres).sql ++ Query.list.trail postgres s

/-- The query joins the tables and says nothing of what it reads. -/
structure JoinsAll (s : Statement) (refs : List TableReference) : Prop where
  joined : s.joins ≠ []
  noSelection : s.selection = none
  noColumns : s.columns = []
  tables_eq : s.tables = refs.map TableReference.text

namespace JoinsAll

variable {s : Statement} {refs : List TableReference}

theorem projection_eq (h : s.JoinsAll refs) (d : Dialect) :
    s.projection d = ", ".intercalate (refs.map TableReference.item) := by
  have hitems : (s.tables.map fun t => referenceName t ++ ".*") = refs.map TableReference.item := by
    rw [h.tables_eq, List.map_map]
    rfl
  rw [projection, h.noSelection, h.noColumns]
  dsimp only
  rw [if_neg (by simp), if_pos (by simp [h.joined])]
  exact congrArg _ hitems

theorem refs_ne_nil (h : s.JoinsAll refs) : refs ≠ [] := by
  rintro rfl
  cases h.tables_eq

theorem isBlankText_table (h : s.JoinsAll refs) : isBlankText s.table = false := by
  have htable : s.table ∈ refs.map TableReference.text := by
    rw [← h.tables_eq, tables]
    exact List.mem_cons_self
  obtain ⟨r, -, hr⟩ := List.mem_map.mp htable
  rw [← hr, r.isBlankText_text]

theorem compileSelect_eq (h : s.JoinsAll refs) (hraw : s.raw = none) :
    s.compileSelect postgres = .ok (Query.list.overSource postgres s) := by
  have hverdict : Query.list.form.verdict s = .ok true := by
    simp [Query.form, Form.verdict, Form.onTable, hraw, h.isBlankText_table]
  have hcompile := Query.compile_of_source (d := postgres) (q := .list) fun _ => hraw
  rw [hverdict] at hcompile
  exact hcompile

theorem sql_overSource (h : s.JoinsAll refs) :
    (Query.list.overSource postgres s).sql =
      postgres.finish ("SELECT " ++ ", ".intercalate (refs.map TableReference.item) ++
        (s.fromClause postgres ++ s.afterJoins)) := by
  simp [Query.overSource, Query.lead, source, afterJoins, h.projection_eq, Template.sql_append,
    Template.sql_ofText, String.append_assoc]

theorem head?_finish_fromClause (s : Statement) :
    (postgres.finish (s.fromClause postgres ++ s.afterJoins)).toList.head? ≠ some ',' := by
  have hlead : Inert " FROM ".toList := by decide
  rw [fromClause, String.append_assoc, String.append_assoc, postgres.finish_append_of_inert hlead,
    String.toList_append]
  have hblank : " FROM ".toList = ' ' :: "FROM ".toList := by decide
  simp [hblank]

/-- Where all tables resolve, the projection is copied as it stands. -/
theorem finish_items (hresolve : ∀ r ∈ refs, r.Resolves) (rest : String) :
    postgres.finish ("SELECT " ++ ", ".intercalate (refs.map TableReference.item) ++ rest) =
      "SELECT " ++ (", ".intercalate (refs.map TableReference.item) ++ postgres.finish rest) := by
  have hitems : Inert (", ".intercalate (refs.map TableReference.item)).toList := by
    rw [String.toList_intercalate]
    apply Inert.intercalate (by decide)
    intro item hitem
    simp only [List.map_map, List.mem_map, Function.comp_apply] at hitem
    obtain ⟨r, hr, rfl⟩ := hitem
    exact r.inert_item (hresolve r hr)
  rw [postgres.finish_append_of_inert (Inert.concat (by decide) hitems), String.append_assoc]

end JoinsAll

/-- The projection of a query of joined tables that says nothing of what it reads. Unless it is raw
SQL, the query is compiled with one item for each table of its `FROM`, in their order; each table is
exposed there under its alias, or under its own name exactly; and the name of its item stands for
that identifier if and only if the table resolves. Where all tables do, the select list reads all
columns of just the tables that the `FROM` exposes. -/
theorem projection_names_tables {s : Statement} {refs : List TableReference}
    (h : s.JoinsAll refs) :
    (∀ raw, s.raw = some raw →
      s.compileSelect postgres = .ok ⟨postgres.finish raw.sql, raw.arguments⟩) ∧
    (s.raw = none → ∃ c, s.compileSelect postgres = .ok c ∧
      c.sql = postgres.finish ("SELECT " ++ ", ".intercalate (refs.map TableReference.item) ++
        (s.fromClause postgres ++ s.afterJoins)) ∧
      ((∀ r ∈ refs, r.Resolves) → ∃ selected : String, c.sql = "SELECT " ++ selected ∧
        SelectsAll (refs.map TableReference.exposed) selected.toList
          (postgres.finish (s.fromClause postgres ++ s.afterJoins)).toList)) ∧
    ∀ r ∈ refs, exposedName? (postgres.quotePlain r.text).toList = some r.exposed ∧
      (nameOf? (referenceName r.text).toList = some r.exposed ↔ r.Resolves) := by
  refine ⟨fun raw hraw => ?_, fun hraw => ?_, fun r _ => ?_⟩
  · exact Query.compile_of_raw (d := postgres) (q := .list) rfl hraw
  · refine ⟨_, h.compileSelect_eq hraw, h.sql_overSource, fun hresolve => ?_⟩
    refine ⟨_, h.sql_overSource.trans (JoinsAll.finish_items hresolve _), ?_⟩
    rw [String.toList_append]
    exact TableReference.selectsAll_items h.refs_ne_nil hresolve
      (JoinsAll.head?_finish_fromClause s)
  · exact ⟨r.exposedName?_quotePlain, r.nameOf?_referenceName_iff⟩

namespace ProjectionWitness

theorem isGap_blank : IsGap [' '] := ⟨by decide, List.forall_mem_singleton.mpr rfl⟩

/-- An alias that is quoted because of its capital letter. -/
def quotedAlias : TableAlias where
  link := " AS ".toList
  text := "\"U\"".toList
  name := ['U']
  isLink := @IsLink.as [' '] ['A', 'S'] [' '] isGap_blank (by decide) isGap_blank
  named := by decide
  notAs := by decide

def aliased : TableReference := ⟨"users", some quotedAlias, by decide +kernel⟩

def alone : TableReference := ⟨"orders", none, by decide +kernel⟩

/-- The orders of users. -/
def purchases : Statement :=
  (on "users AS \"U\"").join .left "orders" "orders.user_id = \"U\".id"

/-- Users whose table has a capital letter, with their orders. -/
def capital : Statement :=
  (on "Users").join .inner "orders o" "o.user_id = \"Users\".id"

end ProjectionWitness

open ProjectionWitness in
theorem projection_names_tables_quoted :
    purchases.JoinsAll [aliased, alone] ∧ purchases.raw = none ∧
    (∀ r ∈ [aliased, alone], r.Resolves) ∧
    exposedName? "users AS \"U\"".toList = some ['U'] ∧
    ∃ c, purchases.compileSelect postgres = .ok c ∧
      ∃ selected : String, c.sql = "SELECT " ++ selected ∧
        SelectsAll [['U'], "orders".toList] selected.toList
          (postgres.finish (purchases.fromClause postgres ++ purchases.afterJoins)).toList := by
  have hjoins : purchases.JoinsAll [aliased, alone] := ⟨by simp [purchases, join], rfl, rfl, rfl⟩
  have hresolve : ∀ r ∈ [aliased, alone], r.Resolves := by
    have haliased : aliased.Resolves := by
      have hunbroken : (quotedAlias.text.all fun c => !isBlank c) = true := by decide
      simpa [TableReference.Resolves, aliased] using hunbroken
    have halone : alone.Resolves := show folded "orders".toList = "orders".toList by decide
    simp [haliased, halone]
  obtain ⟨-, hcompile, hnames⟩ := projection_names_tables hjoins
  obtain ⟨c, hc, -, hselected⟩ := hcompile rfl
  have halias := (hnames aliased List.mem_cons_self).1
  exact ⟨hjoins, rfl, hresolve, halias, c, hc, hselected hresolve⟩

open ProjectionWitness in
/-- The `FROM` exposes a table with a capital letter exactly, and the projection refers to another
identifier, the one in small letters. -/
theorem projection_misses_capital :
    (∃ c, capital.compileSelect postgres = .ok c ∧
      c.sql = "SELECT Users.*, o.* FROM \"Users\" INNER JOIN orders o " ++
        "ON o.user_id = \"Users\".id") ∧
    readName "Users.*, o.*".toList = some ("users".toList, ".*, o.*".toList) ∧
    exposedName? "\"Users\"".toList = some "Users".toList ∧
    "users".toList ≠ "Users".toList := by
  refine ⟨⟨_, rfl, by decide +kernel⟩, by decide +kernel, by decide +kernel, by decide +kernel⟩

end Statement

end SqlPipeline
