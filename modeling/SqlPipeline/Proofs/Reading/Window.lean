import Mathlib.Tactic.SplitIfs
import SqlPipeline.Proofs.Quotation
import SqlPipeline.Session.Program
import SqlPipeline.Statement.Execute

/-!
Point lookups and the window of a statement.

A query is its text without a window and, behind it, a clause that says how many of the rows are
skipped and how many are kept. Main statement: a lookup and a list of one statement are one text
with one list of values and a clause each, or cannot be compiled for the same reason; against a
database that skips and keeps what the clause says, the lookup finds the first row of the list.
-/

namespace SqlPipeline

variable {μ σ α : Type}

/-- What may stand behind a query: how many rows to keep, and how many to skip before them. -/
inductive LimitClause
  | absent
  | limit (count : Nat)
  | limitOffset (count skipped : Nat)

theorem not_mem_natDigits {c : Char} (hc : c.isDigit = false) (n : Nat) : c ∉ natDigits n := by
  intro hmem
  have hdigit : c.isDigit = true := Nat.isDigit_of_mem_toDigits (by decide) (by decide) hmem
  rw [hc] at hdigit
  cases hdigit

theorem intText_of_pos {i : Int} (h : 0 < i) : intText i = natText i.toNat := by
  have hsign : ¬i < 0 := by omega
  have hvalue : i.natAbs = i.toNat := by omega
  rw [intText, intDigits, if_neg hsign, hvalue, natText]

namespace LimitClause

def text : LimitClause → String
  | .absent => ""
  | .limit count => " LIMIT " ++ natText count
  | .limitOffset count skipped => " LIMIT " ++ natText count ++ " OFFSET " ++ natText skipped

/-- What the clause leaves of the rows. -/
def keep : LimitClause → List α → List α
  | .absent, rows => rows
  | .limit count, rows => rows.take count
  | .limitOffset count skipped, rows => (rows.drop skipped).take count

/-- The clause of a window. Without a positive count there is none. -/
def ofWindow : Option Window → LimitClause
  | some w =>
    if 0 < w.count then
      if 0 < w.offset then .limitOffset w.count.toNat w.offset.toNat else .limit w.count.toNat
    else .absent
  | none => .absent

/-- The number of rows that are skipped before those of a window. -/
def skippedBy : Option Window → Nat
  | some w => if 0 < w.count then w.offset.toNat else 0
  | none => 0

theorem not_mem_text (clause : LimitClause) : '?' ∉ clause.text.toList := by
  have hdigits : ∀ n, '?' ∉ natDigits n := not_mem_natDigits (by decide)
  cases clause <;> simp [text, natText, hdigits]

theorem text_ofWindow (window : Option Window) : (ofWindow window).text = windowClause window := by
  cases window with
  | none => rfl
  | some w =>
      rw [ofWindow, windowClause]
      split_ifs with hcount hoffset
      · rw [text, intText_of_pos hcount, intText_of_pos hoffset, String.append_assoc]
      · rw [text, intText_of_pos hcount, String.append_empty]
      · rfl

example : windowClause (some ⟨5, -1⟩) = " LIMIT 5" := by decide +kernel

/-- The first row that is kept is the one behind those that are skipped. -/
theorem head?_keep_ofWindow (window : Option Window) (rows : List α) :
    ((ofWindow window).keep rows).head? = rows[skippedBy window]? := by
  cases window with
  | none => exact List.head?_eq_getElem?
  | some w =>
      rw [ofWindow, skippedBy]
      split_ifs with hcount hoffset
      · have hkept : w.count.toNat ≠ 0 := by omega
        rw [keep, List.head?_take, if_neg hkept, List.head?_drop]
      · have hkept : w.count.toNat ≠ 0 := by omega
        have hskipped : w.offset.toNat = 0 := by omega
        rw [keep, List.head?_take, if_neg hkept, hskipped, List.head?_eq_getElem?]
      · exact List.head?_eq_getElem?

end LimitClause

/-- A clause has no placeholder, and behind a text it keeps its form in every dialect. -/
theorem Dialect.finish_append_clause (d : Dialect) (sql : String) (clause : LimitClause) :
    d.finish (sql ++ clause.text) = d.finish sql ++ clause.text := by
  rw [← String.toList_inj, String.toList_append, toList_finish_text, toList_finish_text,
    String.toList_append, finishFrom_append, finishFrom_of_not_mem d clause.not_mem_text]

/-- The compiled query with a clause behind it. -/
def Compiled.within (base : Compiled) (clause : LimitClause) : Compiled :=
  { base with sql := base.sql ++ clause.text }

theorem Compiled.within_absent (base : Compiled) : base.within .absent = base := by
  rw [within, LimitClause.text, String.append_empty]

/-- What the session answers to the query with a clause behind it is what the clause leaves of the
rows that it answers to the query. -/
def Session.Windows (session : Session σ) (base : Compiled) : Prop :=
  ∀ (clause : LimitClause) (state : σ),
    (session.query (base.within clause).sql base.values state).1 =
      (session.query base.sql base.values state).1.map clause.keep

namespace Statement

variable (d : Dialect) (s : Statement)

/-- The clause of a window, which is left out where raw SQL stands in for the statement. -/
def clauseOf (window : Option Window) : LimitClause :=
  if s.raw.isSome then .absent else .ofWindow window

theorem sql_selectTemplate (window : Option Window) :
    (s.selectTemplate d window).sql =
      (s.selectTemplate d none).sql ++ (LimitClause.ofWindow window).text := by
  simp only [selectTemplate, Template.sql_append, Template.sql_ofText, windowClause,
    LimitClause.text_ofWindow, String.append_assoc, String.append_empty]

theorem values_selectTemplate (window : Option Window) :
    (s.selectTemplate d window).values = (s.selectTemplate d none).values := by
  simp only [selectTemplate, Template.values_append, Template.values_ofText]

/-- A window adds its clause to the query and changes nothing else. -/
theorem compileWithin_eq_map (window : Option Window) :
    s.compileWithin d window =
      (s.compileWithin d none).map fun base => base.within (s.clauseOf window) := by
  rw [compileWithin, compileWithin, clauseOf]
  cases s.raw with
  -- Raw SQL has no window: its clause is absent, which is no text.
  | some raw => exact congrArg Except.ok (RawSql.compile d raw raw.sql).within_absent.symm
  | none =>
      have htemplate : (s.selectTemplate d window).compile d =
          ((s.selectTemplate d none).compile d).within (.ofWindow window) := by
        rw [Template.compile, sql_selectTemplate, d.finish_append_clause, values_selectTemplate]
        rfl
      dsimp only
      rw [withTable, withTable]
      split
      · rfl
      · exact congrArg Except.ok htemplate

theorem skippedBy_lookup : LimitClause.skippedBy (some ⟨1, s.lookupOffset⟩) =
    LimitClause.skippedBy s.window := by
  rw [LimitClause.skippedBy, if_pos Int.one_pos, lookupOffset]
  cases s.window with
  | none => rfl
  | some w =>
      rw [LimitClause.skippedBy]
      dsimp only
      split <;> rfl

/-- The clauses of a lookup and of a list leave the same first row. -/
theorem head?_keep_lookup (rows : List α) :
    ((s.clauseOf (some ⟨1, s.lookupOffset⟩)).keep rows).head? =
      ((s.clauseOf s.window).keep rows).head? := by
  rw [clauseOf, clauseOf]
  split
  · rfl
  · rw [LimitClause.head?_keep_ofWindow, LimitClause.head?_keep_ofWindow, skippedBy_lookup]

/-- A lookup and a list are one query with a clause each, or neither compiles. -/
theorem compileGet_compileSelect :
    (∃ e, s.compileGet d = .error e ∧ s.compileSelect d = .error e) ∨
      ∃ base, s.compileWithin d none = .ok base ∧
        s.compileGet d = .ok (base.within (s.clauseOf (some ⟨1, s.lookupOffset⟩))) ∧
        s.compileSelect d = .ok (base.within (s.clauseOf s.window)) := by
  rw [compileGet, compileSelect, compileWithin_eq_map d s (some _),
    compileWithin_eq_map d s s.window]
  cases s.compileWithin d none with
  | error e => exact .inl ⟨e, rfl, rfl⟩
  | ok base => exact .inr ⟨base, rfl, rfl, rfl⟩

variable {s} {session : Session σ}

/-- The queries of a lookup and of a list answer rows with the same first one, or fail alike. -/
theorem head?_queries (observe : μ → σ → σ) (hwindows : s.raw = none →
      ∀ base, s.compileWithin session.dialect none = .ok base → session.Windows base) (state : σ) :
    ((queryCompiled fun d => s.compileGet d).run observe session state).1.map List.head? =
      ((queryCompiled fun d => s.compileSelect d).run observe session state).1.map List.head? := by
  rw [run_queryCompiled, run_queryCompiled]
  obtain ⟨e, hget, hselect⟩ | ⟨base, hbase, hget, hselect⟩ :=
    s.compileGet_compileSelect session.dialect
  · rw [hget, hselect]
  · rw [hget, hselect]
    cases hraw : s.raw with
    | some raw => simp only [clauseOf, hraw, Option.isSome_some, if_true]
    | none =>
        have hwindow := hwindows hraw base hbase
        change Outcome.map _ (session.query (base.within _).sql base.values state).1 =
          Outcome.map _ (session.query (base.within _).sql base.values state).1
        rw [hwindow, hwindow]
        cases (session.query base.sql base.values state).1 with
        | ok rows => exact congrArg Outcome.ok (s.head?_keep_lookup rows)
        | error e => rfl
        | panic p => rfl

/-- A lookup finds the head of the list. In every dialect the two fail with one error or compile to
one text with one list of values, behind which stand their clauses, and none behind raw SQL. Against
a database that answers what the clause leaves of the rows of the query, the lookup finds the first
row of the list, whatever the window of the statement is; it finds none just when the list is
empty. -/
theorem lookup_finds_head (observe : μ → σ → σ) (session : Session σ) (s : Statement) (state : σ)
    (hwindows : s.raw = none →
      ∀ base, s.compileWithin session.dialect none = .ok base → session.Windows base) :
    (∀ d, (∃ e, s.compileGet d = .error e ∧ s.compileSelect d = .error e) ∨
      ∃ base clause clause', s.compileWithin d none = .ok base ∧
        s.compileGet d = .ok (base.within clause) ∧
        s.compileSelect d = .ok (base.within clause') ∧
        (s.raw.isSome = true → clause = .absent ∧ clause' = .absent)) ∧
    (s.findRow.run observe session state).1 =
      (s.listRows.run observe session state).1.map List.head? ∧
    ((s.findRow.run observe session state).1 = .ok none ↔
      (s.listRows.run observe session state).1 = .ok []) := by
  have hfound : (s.findRow.run observe session state).1 =
      (s.listRows.run observe session state).1.map List.head? := by
    have hrun : s.findRow.run observe session =
        List.head? <$> (queryCompiled fun d => s.compileGet d).run observe session :=
      Program.run_map observe session List.head? _
    rw [hrun, Action.map_eq]
    exact head?_queries observe hwindows state
  refine ⟨?_, hfound, ?_⟩
  · intro d
    obtain hfails | ⟨base, hbase, hget, hselect⟩ := s.compileGet_compileSelect d
    · exact .inl hfails
    · refine .inr ⟨base, _, _, hbase, hget, hselect, ?_⟩
      intro hraw
      simp [clauseOf, hraw]
  · rw [hfound]
    cases (s.listRows.run observe session state).1 <;> simp [Outcome.map]

namespace WindowWitness

/-- The clause that is written in the text. -/
def readClause (cs : List Char) : LimitClause :=
  match cs.splitOn ' ' with
  | [_, _, count] => .limit (digitsFrom 0 count)
  | [_, _, count, _, skipped] => .limitOffset (digitsFrom 0 count) (digitsFrom 0 skipped)
  | _ => .absent

theorem readClause_text (clause : LimitClause) : readClause clause.text.toList = clause := by
  have hdigits : ∀ n, ' ' ∉ natDigits n := not_mem_natDigits (by decide)
  have hread : ∀ words : List (List Char), words ≠ [] → (∀ word ∈ words, ' ' ∉ word) →
      clause.text.toList = [' '].intercalate words → clause.text.toList.splitOn ' ' = words := by
    intro words hwords hblank htext
    rw [htext, List.splitOn_intercalate ' ' hblank hwords]
  cases clause with
  | absent => rfl
  | limit count =>
      have hwords := hread [[], "LIMIT".toList, natDigits count] (by simp)
        (by simp [hdigits]) (by simp [LimitClause.text, natText, List.intercalate])
      simp only [readClause, hwords, digitsFrom_natDigits]
  | limitOffset count skipped =>
      have hwords := hread [[], "LIMIT".toList, natDigits count, "OFFSET".toList, natDigits skipped]
        (by simp) (by simp [hdigits])
        (by simp [LimitClause.text, natText, List.intercalate])
      simp only [readClause, hwords, digitsFrom_natDigits]

def rows : List Row :=
  [⟨["id"], [.int 1]⟩, ⟨["id"], [.int 2]⟩, ⟨["id"], [.int 3]⟩, ⟨["id"], [.int 4]⟩]

/-- A database that knows the rows of one query, and reads what stands behind it as a clause. -/
def database (base : Compiled) : Session Unit where
  dialect := .postgres
  query sql _ := .pure ((readClause (sql.toList.drop base.sql.toList.length)).keep rows)
  execute _ _ := .pure 0
  stream _ _ := .fail (.driver "no streams")

theorem database_query (base : Compiled) (clause : LimitClause) (params : List Value) :
    ((database base).query (base.within clause).sql params ()).1 = .ok (clause.keep rows) := by
  change Outcome.ok _ = Outcome.ok _
  rw [Compiled.within, String.toList_append, List.drop_left, readClause_text]

theorem database_windows (base : Compiled) : (database base).Windows base := by
  intro clause state
  have hbare := database_query base .absent base.values
  rw [base.within_absent] at hbare
  rw [database_query, hbare]
  rfl

/-- Two users behind the first one. -/
def page : Statement := ((on "users").orderBy false ["id"]).setWindow 2 1

def users : Compiled := ⟨"SELECT * FROM \"users\" ORDER BY \"id\" ASC", []⟩

theorem compile_page : page.compileWithin .postgres none = .ok users := rfl

end WindowWitness

open WindowWitness in
theorem lookup_finds_head_page :
    (∀ base, page.compileWithin .postgres none = .ok base → (database users).Windows base) ∧
    ((page.listRows : Program Empty (List Row)).run (fun _ s => s) (database users) ()).1 =
      .ok [⟨["id"], [.int 2]⟩, ⟨["id"], [.int 3]⟩] ∧
    ((page.findRow : Program Empty (Option Row)).run (fun _ s => s) (database users) ()).1 =
      .ok (some ⟨["id"], [.int 2]⟩) := by
  have hwindows : ∀ base, page.compileWithin .postgres none = .ok base →
      (database users).Windows base := by
    intro base hbase
    rw [compile_page] at hbase
    cases hbase
    exact database_windows users
  have hselect : page.compileSelect .postgres = .ok (users.within (.limitOffset 2 1)) := by
    rw [compileSelect, compileWithin_eq_map, compile_page]
    rfl
  have hlisted : ((page.listRows : Program Empty (List Row)).run (fun _ s => s) (database users)
      ()).1 = .ok [⟨["id"], [.int 2]⟩, ⟨["id"], [.int 3]⟩] := by
    have hdialect : (database users).dialect = .postgres := rfl
    rw [listRows, run_queryCompiled, hdialect, hselect]
    exact database_query users (.limitOffset 2 1) _
  obtain ⟨-, hfound, -⟩ := lookup_finds_head (fun _ s => s) (database users) page ()
    fun _ => hwindows
  rw [hlisted] at hfound
  exact ⟨hwindows, hlisted, hfound⟩

end Statement

end SqlPipeline
