import SqlPipeline.Proofs.Quotation
import SqlPipeline.Proofs.Verdict

/-!
What the queries of a statement read.

A list, a lookup, a count and a sum each read the source of the statement, which is its `FROM` with
its `WHERE`; for the first three raw SQL may stand in for it. Main statement: over raw SQL these
three are that text in the dialect, or the count of it, with its arguments, whatever else the
statement holds; and over the source all four are one text with one list of values between what is
read of it and what is made of it. A sum is never over raw SQL.
-/

namespace SqlPipeline

namespace Statement

variable (d : Dialect) (s : Statement)

/-- The `FROM` with the joins, and the `WHERE`. -/
def source : Template :=
  Template.ofText (s.fromClause d) ++ s.whereClause d

/-- A query of a statement. -/
inductive Query
  | list
  | lookup
  | count
  | sum (column : String)

namespace Form

/-- Raw SQL is brought into the dialect before or after it is read. -/
theorem finish_rawText (form : Form) (sql : String) :
    d.finish (form.rawText sql) = form.rawText (d.finish sql) := by
  cases form with
  | count =>
      have hlead : Inert "SELECT COUNT(*) FROM (".toList := by decide +kernel
      have htrail : '?' ∉ ") AS dbx_count".toList := by decide +kernel
      have hwrapped : d.finish (sql ++ ") AS dbx_count") = d.finish sql ++ ") AS dbx_count" := by
        rw [← String.toList_inj, String.toList_append, d.toList_finish_text, d.toList_finish_text,
          String.toList_append, d.finishFrom_append, d.finishFrom_of_not_mem htrail]
      change d.finish ("SELECT COUNT(*) FROM (" ++ sql ++ ") AS dbx_count") = _
      rw [String.append_assoc, d.finish_append_of_inert hlead, hwrapped, ← String.append_assoc]
      rfl
  | _ => rfl

end Form

namespace Query

def form : Query → Form
  | .list => .select
  | .lookup => .get
  | .count => .count
  | .sum column => .sum column

def compile : Query → Except Error Compiled
  | .list => s.compileSelect d
  | .lookup => s.compileGet d
  | .count => s.compileCount d
  | .sum column => s.compileSum d column

/-- What is read of the source. -/
def lead : Query → String
  | .list | .lookup => "SELECT " ++ s.projection d
  | .count => if s.groups.isEmpty then "SELECT COUNT(*)" else "SELECT COUNT(*) FROM (SELECT 1"
  | .sum column => "SELECT " ++ sumExpression d column

/-- What is made of the rows of the source. -/
def trail : Query → String
  | .list => s.groupClause d ++ s.orderClause d ++ windowClause s.window
  | .lookup => s.groupClause d ++ s.orderClause d ++ windowClause (some ⟨1, s.lookupOffset⟩)
  | .count => if s.groups.isEmpty then "" else s.groupClause d ++ ") AS dbx_count"
  | .sum _ => ""

/-- The query over the source. -/
def overSource (q : Query) : Compiled :=
  ⟨d.finish (q.lead d s ++ (s.source d).sql ++ q.trail d s), (s.source d).values⟩

theorem form_compile (q : Query) : q.form.compile d s = (q.compile d s).map some := by
  cases q <;> rfl

/-- The query with a window is the source between what it projects and what follows its `WHERE`. -/
theorem sql_selectTemplate_source (window : Option Window) :
    (s.selectTemplate d window).sql = "SELECT " ++ s.projection d ++ (s.source d).sql ++
      (s.groupClause d ++ s.orderClause d ++ windowClause window) := by
  simp [selectTemplate, source, Template.sql_append, Template.sql_ofText, String.append_assoc]

theorem values_selectTemplate_source (window : Option Window) :
    (s.selectTemplate d window).values = (s.source d).values := by
  simp [selectTemplate, source]

theorem compile_template (q : Query) : (q.form.template d s).compile d = q.overSource d s := by
  cases q with
  | list =>
      rw [form, Form.template, Template.compile, sql_selectTemplate_source,
        values_selectTemplate_source, overSource, lead, trail]
  | lookup =>
      rw [form, Form.template, Template.compile, sql_selectTemplate_source,
        values_selectTemplate_source, overSource, lead, trail]
  | count =>
      rw [overSource, lead, trail, form, Form.template, countTemplate, source]
      split <;> simp [Template.compile, Template.sql_append, Template.sql_ofText,
        String.append_assoc]
  | sum column =>
      simp [overSource, lead, trail, form, Form.template, sumTemplate, source, Template.compile,
        Template.sql_append, Template.sql_ofText, String.append_assoc]

variable {d s}

/-- Raw SQL stands in for the source of every query but a sum. -/
theorem readsRaw_form_iff (q : Query) : q.form.readsRaw = true ↔ ∀ column, q ≠ .sum column := by
  cases q <;> simp [form, Form.readsRaw]

/-- A query that compiles writes something. -/
theorem verdict_form_ne_false (q : Query) : q.form.verdict s ≠ .ok false := by
  have htable : Form.onTable s (.ok true) ≠ .ok false := by
    rw [Form.onTable]
    split <;> simp
  have hraw : (if s.raw.isSome then .ok true else Form.onTable s (.ok true)) ≠ .ok false := by
    split
    · simp
    · exact htable
  cases q with
  | list => exact hraw
  | lookup => exact hraw
  | count => exact hraw
  | sum column =>
      rw [form, Form.verdict]
      split
      · simp
      · exact htable

theorem compile_of_raw {q : Query} {raw : RawSql} (hreads : q.form.readsRaw = true)
    (hraw : s.raw = some raw) :
    q.compile d s = .ok ⟨q.form.rawText (d.finish raw.sql), raw.arguments⟩ := by
  have hwithin : ∀ window, s.compileWithin d window = .ok (RawSql.compile d raw raw.sql) := by
    intro window
    rw [compileWithin, hraw]
  cases q with
  | list => exact hwithin s.window
  | lookup => exact hwithin (some ⟨1, s.lookupOffset⟩)
  | count =>
      rw [← Form.finish_rawText, compile, compileCount, hraw]
      rfl
  | sum column => cases hreads

/-- Where no raw SQL stands in for the source, a query compiles to what it is over the source, or
not at all. -/
theorem compile_of_source {q : Query} (hraw : q.form.readsRaw = true → s.raw = none) :
    q.compile d s = (q.form.verdict s).map fun _ => q.overSource d s := by
  have hnone : q.form.raw? s = none := by
    rw [Form.raw?]
    split
    · exact hraw ‹_›
    · rfl
  have hwritten : q.form.written d s = q.overSource d s := by
    rw [Form.written, hnone]
    exact compile_template d s q
  have hform := q.form.compile_eq d s
  rw [form_compile, hwritten] at hform
  rcases hverdict : q.form.verdict s with e | writes
  · rw [hverdict] at hform
    cases hcompile : q.compile d s <;> rw [hcompile] at hform <;> cases hform
    rfl
  · cases writes with
    | true =>
      rw [hverdict] at hform
      exact Form.eq_some_of_map_some hform
    | false => exact absurd hverdict (verdict_form_ne_false q)

end Query

/-- A list, a lookup and a count over raw SQL are that text in the dialect, or the count of it, with
its arguments, and nothing else of the statement matters. Over the source, all queries have its text
between their own and bind its values, or do not compile. A sum is always over the source. -/
theorem queries_share_source (d : Dialect) (s : Statement) :
    (∀ raw, s.raw = some raw → ∀ q : Query, (∀ column, q ≠ .sum column) →
      q.compile d s = .ok ⟨q.form.rawText (d.finish raw.sql), raw.arguments⟩ ∧
        ∀ s' : Statement, s'.raw = s.raw → q.compile d s' = q.compile d s) ∧
    (∀ q : Query, (s.raw = none ∨ ∃ column, q = .sum column) →
      q.compile d s = (q.form.verdict s).map fun _ =>
        ⟨d.finish (q.lead d s ++ (s.source d).sql ++ q.trail d s), (s.source d).values⟩) ∧
    ∀ s' : Statement, s'.table = s.table → s'.joins = s.joins → s'.conditions = s.conditions →
      s'.source d = s.source d ∧ ∀ column, s'.compileSum d column = s.compileSum d column := by
  refine ⟨fun raw hraw q hsum => ?_, fun q hsource => ?_, fun s' htable hjoins hconditions => ?_⟩
  · have hreads : q.form.readsRaw = true := (Query.readsRaw_form_iff q).2 hsum
    refine ⟨Query.compile_of_raw hreads hraw, fun s' hs' => ?_⟩
    rw [Query.compile_of_raw hreads hraw, Query.compile_of_raw hreads (hs'.trans hraw)]
  · refine Query.compile_of_source fun hreads => hsource.resolve_right ?_
    rintro ⟨column, rfl⟩
    cases hreads
  · have hsame : s'.source d = s.source d := by
      simp only [source, fromClause, whereClause, where?, htable, hjoins, hconditions]
    refine ⟨hsame, fun column => ?_⟩
    have hover : ∀ s : Statement, (Query.sum column).compile d s =
        ((Form.sum column).verdict s).map fun _ => (Query.sum column).overSource d s :=
      fun s => Query.compile_of_source fun hreads => nomatch hreads
    change (Query.sum column).compile d s' = (Query.sum column).compile d s
    rw [hover, hover]
    simp only [Form.verdict, Form.onTable, Query.overSource, Query.lead, Query.trail, hsame, htable]

namespace SourceWitness

def joined : Statement :=
  ((on "orders o").join .left "users u" "u.id=o.user_id").filter (.eq "owner" (.int 7))

def totals : RawSql := ⟨"SELECT total FROM orders WHERE user_id = ?", [.int 8]⟩

/-- The raw SQL beside a table, a join and a condition. -/
def replaced : Statement := { joined with raw := some totals }

/-- The raw SQL alone. -/
def bare : Statement := { raw := some totals }

end SourceWitness

open SourceWitness in
theorem queries_share_source_orders :
    (∃ c, replaced.compileCount .postgres = .ok c ∧ c.values = [.int 8] ∧
        c.sql =
          "SELECT COUNT(*) FROM (SELECT total FROM orders WHERE user_id = $1) AS dbx_count") ∧
      bare.compileCount .postgres = replaced.compileCount .postgres ∧
    (joined.source .mysql).sql =
        " FROM orders o LEFT JOIN users u ON u.id=o.user_id WHERE `owner`=?" ∧
      (∃ c, joined.compileGet .mysql = .ok c ∧ c.values = [.int 7] ∧
        c.sql = "SELECT o.*, u.* FROM orders o LEFT JOIN users u ON u.id=o.user_id " ++
          "WHERE `owner`=? LIMIT 1") ∧
      replaced.compileSum .mysql "total" = joined.compileSum .mysql "total" := by
  obtain ⟨hraw, -, -⟩ := queries_share_source .postgres replaced
  obtain ⟨-, hsource, hsum⟩ := queries_share_source .mysql joined
  obtain ⟨hcount, hbare⟩ := hraw totals rfl .count (by simp)
  have hlookup := hsource .lookup (.inl rfl)
  exact ⟨⟨_, hcount, rfl, by decide +kernel⟩, hbare bare rfl, by decide +kernel,
    ⟨_, hlookup.trans rfl, rfl, by decide +kernel⟩, (hsum replaced rfl rfl rfl).2 "total"⟩

open SourceWitness in
/-- Neither of two statements with one raw SQL sums it: one sums its own table and binds its own
values, and the other has no table. -/
theorem sum_misses_raw :
    replaced.raw = some totals ∧ bare.raw = some totals ∧
      (∃ c, replaced.compileSum .mysql "total" = .ok c ∧
        c.sql = "SELECT COALESCE(SUM(`total`),0) FROM orders o LEFT JOIN users u " ++
          "ON u.id=o.user_id WHERE `owner`=?" ∧ c.values = [.int 7]) ∧
      bare.compileSum .mysql "total" = .error (.config .noTable) :=
  ⟨rfl, rfl, ⟨_, rfl, by decide +kernel, rfl⟩, rfl⟩

end Statement

end SqlPipeline
