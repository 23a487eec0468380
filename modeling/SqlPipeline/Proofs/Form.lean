import SqlPipeline.Statement.Compile

/-!
The forms in which a statement is compiled, and the template that each of them assembles.

Main statement: what a form compiles to is its template in the dialect, unless raw SQL stands in for
the statement.
-/

namespace SqlPipeline

namespace Statement

/-- A form in which a statement is compiled. -/
inductive Form
  | select
  | get
  | count
  | sum (column : String)
  | insert (record : Record)
  | update (record : Record)
  /-- The update from the statement's assignments. -/
  | assign
  | delete

namespace Form

variable (d : Dialect) (s : Statement)

/-- The compiled form, or none when it would write nothing. -/
def compile : Form → Except Error (Option Compiled)
  | .select => (s.compileSelect d).map some
  | .get => (s.compileGet d).map some
  | .count => (s.compileCount d).map some
  | .sum column => (s.compileSum d column).map some
  | .insert record => (s.compileInsert d record).map some
  | .update record => s.compileUpdate d record
  | .assign => .ok (s.compileAssignments d)
  | .delete => (s.compileDelete d).map some

/-- The template that the form assembles. -/
def template : Form → Template
  | .select => s.selectTemplate d s.window
  | .get => s.selectTemplate d (some ⟨1, s.lookupOffset⟩)
  | .count => s.countTemplate d
  | .sum column => s.sumTemplate d column
  | .insert record => s.insertTemplate d record
  | .update record =>
    s.updateTemplate d
      (Template.join "," ((record.only s.columns).fields.map (fieldTemplate d)))
  | .assign => s.updateTemplate d (Assignment.listTemplate d s.assignments)
  | .delete => Template.ofText ("DELETE FROM " ++ d.quotePlain s.table) ++ s.whereClause d

/-- Raw SQL stands in for the statement in this form. -/
def readsRaw : Form → Bool
  | .select | .get | .count => true
  | _ => false

variable {d s}

/-- What goes on behind the check of the table goes on with the template itself. -/
theorem of_bind_withTable {α : Type} {t : Template} {f : Template → Except Error α} {a : α}
    (h : (s.withTable t >>= f) = .ok a) : f t = .ok a := by
  rw [withTable] at h
  split at h
  · cases h
  · exact h

theorem eq_of_map_withTable {t : Template} {c : Compiled}
    (h : (s.withTable t).map (Template.compile d) = .ok c) : c = t.compile d := by
  rw [withTable] at h
  split at h
  · cases h
  · cases h
    rfl

theorem eq_of_compileWithin {window : Option Window} {c : Compiled} (hraw : s.raw = none)
    (h : s.compileWithin d window = .ok c) : c = (s.selectTemplate d window).compile d := by
  rw [compileWithin, hraw] at h
  exact eq_of_map_withTable h

theorem eq_some_of_map_some {x : Except Error Compiled} {c : Compiled}
    (h : x.map some = .ok (some c)) : x = .ok c := by
  cases x with
  | error e => cases h
  | ok a =>
      cases h
      rfl

/-- A form that compiles is its template in the dialect. -/
theorem eq_compile_template {form : Form} (hraw : form.readsRaw = true → s.raw = none)
    {c : Compiled} (h : form.compile d s = .ok (some c)) :
    c = (form.template d s).compile d := by
  cases form with
  | select => exact eq_of_compileWithin (hraw rfl) (eq_some_of_map_some h)
  | get => exact eq_of_compileWithin (hraw rfl) (eq_some_of_map_some h)
  | count =>
      have hcount := eq_some_of_map_some h
      rw [compileCount, hraw rfl] at hcount
      exact eq_of_map_withTable hcount
  | sum column =>
      have hsum := eq_some_of_map_some h
      rw [compileSum] at hsum
      split at hsum
      · cases hsum
      · exact eq_of_map_withTable hsum
  | insert record =>
      have hinsert := of_bind_withTable (eq_some_of_map_some h)
      split at hinsert
      · cases hinsert
      · cases hinsert
        rfl
  | update record =>
      have hupdate := of_bind_withTable h
      simp only [pure, Except.pure] at hupdate
      split at hupdate
      · cases hupdate
      · cases hupdate
        rfl
  | assign =>
      change Except.ok (s.compileAssignments d) = .ok (some c) at h
      rw [compileAssignments] at h
      split at h
      · cases h
      · cases h
        rfl
  | delete =>
      have hdelete := of_bind_withTable (eq_some_of_map_some h)
      split at hdelete
      · cases hdelete
      · cases hdelete
        rfl

end Form

end Statement

end SqlPipeline
