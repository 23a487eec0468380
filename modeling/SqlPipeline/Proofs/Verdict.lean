import SqlPipeline.Proofs.Form

/-!
Whether a form of a statement compiles.

A condition is dead when nothing in it can say anything: its leaves have no field, no values or no
text. The verdict on a form is an error, or whether something is written at all. Main statements: a
condition compiles to nothing just when it is dead; and a form compiles as its verdict says, which
looks at the texts of the statement and neither at its values nor at the dialect.
-/

namespace SqlPipeline

namespace Condition

mutual

/-- The condition says nothing. -/
def isDead : Condition → Bool
  | .eq field _ => field.isEmpty
  | .op field _ _ => field.isEmpty
  | .eqExpr field _ => field.isEmpty
  | .opExpr field _ _ => field.isEmpty
  | .isIn field values => field.isEmpty || values.isEmpty
  | .notIn field values => field.isEmpty || values.isEmpty
  | .raw sql => isBlankText sql
  | .all children => areDead children
  | .any children => areDead children
  | .not children => areDead children

/-- None of the conditions says anything. -/
def areDead : List Condition → Bool
  | [] => true
  | c :: rest => isDead c && areDead rest

end

theorem areDead_iff (cs : List Condition) : areDead cs = true ↔ ∀ c ∈ cs, c.isDead = true := by
  induction cs with
  | nil => simp [areDead]
  | cons c rest ih => simp [areDead, ih]

theorem combine_eq_none_iff (connective : String) (fs : List Fragment) :
    Fragment.combine connective fs = none ↔ fs = [] := by
  match fs with
  | [] => simp [Fragment.combine]
  | [f] => simp [Fragment.combine]
  | f :: g :: rest => simp [Fragment.combine]

/-- Conditions under a connective say nothing together just when each of them is dead. -/
theorem combine_fragments_eq_none_iff (d : Dialect) (connective : String) {cs : List Condition}
    (hcs : ∀ c ∈ cs, (c.fragment? d = none ↔ c.isDead = true)) :
    Fragment.combine connective (fragments d cs) = none ↔ areDead cs = true := by
  rw [combine_eq_none_iff, fragments_eq_filterMap, List.filterMap_eq_nil_iff, areDead_iff]
  exact forall₂_congr hcs

theorem membership?_eq_none_iff (d : Dialect) (field keyword : String) (values : List Value) :
    membership? d field keyword values = none ↔ (field.isEmpty || values.isEmpty) = true := by
  rw [membership?]
  split <;> simp_all

/-- A condition compiles to nothing just when it is dead. -/
theorem fragment?_eq_none_iff (d : Dialect) (c : Condition) :
    c.fragment? d = none ↔ c.isDead = true := by
  induction c using Condition.induction with
  | eq field value => simp [fragment?, isDead]
  | op field operator value => simp [fragment?, isDead]
  | eqExpr field expr => simp [fragment?, isDead]
  | opExpr field operator expr => simp [fragment?, isDead]
  | isIn field values => exact membership?_eq_none_iff d field "IN" values
  | notIn field values => exact membership?_eq_none_iff d field "NOT IN" values
  | raw sql => simp [fragment?, isDead]
  | all children ih => exact combine_fragments_eq_none_iff d " AND " ih
  | any children ih => exact combine_fragments_eq_none_iff d " OR " ih
  | not children ih =>
      rw [fragment?, Option.map_eq_none_iff]
      exact combine_fragments_eq_none_iff d " AND " ih

end Condition

namespace Statement

/-- The conditions of a statement say nothing just when each of them is dead. -/
theorem where?_eq_none_iff (d : Dialect) (s : Statement) :
    s.where? d = none ↔ Condition.areDead s.conditions = true :=
  Condition.combine_fragments_eq_none_iff d " AND " fun c _ => c.fragment?_eq_none_iff d

namespace Form

/-- The verdict of a form that needs a table. -/
def onTable (s : Statement) (verdict : Except Error Bool) : Except Error Bool :=
  if isBlankText s.table then .error (.config .noTable) else verdict

/-- The raw SQL that stands in for the statement in the form. -/
def raw? (s : Statement) (form : Form) : Option RawSql :=
  if form.readsRaw then s.raw else none

/-- Why the form does not compile, or whether it writes anything. -/
def verdict (s : Statement) : Form → Except Error Bool
  | .select | .get | .count => if s.raw.isSome then .ok true else onTable s (.ok true)
  | .sum column =>
    if isBlankText column then .error (.config .noSumColumn) else onTable s (.ok true)
  | .insert record =>
    onTable s (if record.isEmpty then .error (.config .noInsertColumns) else .ok true)
  | .update record => onTable s (.ok !(record.only s.columns).isEmpty)
  | .assign => .ok !(isBlankText s.table || (Assignment.effective s.assignments).isEmpty)
  | .delete =>
    onTable s (if Condition.areDead s.conditions
      then .error (.config (.unconditionalDelete s.table)) else .ok true)

/-- Raw SQL as the form reads it. -/
def rawText (sql : String) : Form → String
  | .count => "SELECT COUNT(*) FROM (" ++ sql ++ ") AS dbx_count"
  | _ => sql

/-- What the form writes, if it writes anything. -/
def written (d : Dialect) (s : Statement) (form : Form) : Compiled :=
  match form.raw? s with
  | some raw => RawSql.compile d raw (form.rawText raw.sql)
  | none => (form.template d s).compile d

variable (d : Dialect) (s : Statement)

theorem map_withTable (t : Template) :
    ((s.withTable t).map (Template.compile d)).map some =
      (onTable s (.ok true)).map fun written => if written then some (t.compile d) else none := by
  rw [withTable, onTable]
  split <;> rfl

theorem compileWithin_eq (window : Option Window) :
    (s.compileWithin d window).map some =
      (if s.raw.isSome then .ok true else onTable s (.ok true)).map fun written =>
        if written then some (match s.raw with
          | some raw => RawSql.compile d raw raw.sql
          | none => (s.selectTemplate d window).compile d) else none := by
  rw [compileWithin]
  cases s.raw with
  | some raw => rfl
  | none => exact map_withTable d s (s.selectTemplate d window)

/-- A form compiles as its verdict says, and then to what it writes. -/
theorem compile_eq (form : Form) :
    form.compile d s =
      (form.verdict s).map fun writes => if writes then some (form.written d s) else none := by
  cases form with
  | select => exact compileWithin_eq d s s.window
  | get => exact compileWithin_eq d s (some ⟨1, s.lookupOffset⟩)
  | count =>
      rw [compile, compileCount, verdict, written, raw?]
      cases s.raw with
      | some raw => rfl
      | none => exact map_withTable d s (s.countTemplate d)
  | sum column =>
      rw [compile, compileSum, verdict]
      split
      · rfl
      · exact map_withTable d s (s.sumTemplate d column)
  | insert record =>
      rw [compile, compileInsert, verdict, withTable, onTable]
      split
      · rfl
      · change Except.map some (if record.isEmpty then _ else _) = _
        cases record.isEmpty <;> rfl
  | update record =>
      rw [compile, compileUpdate, verdict, onTable, withTable]
      split
      · rfl
      · change Except.ok (if (record.only s.columns).isEmpty then _ else _) = _
        cases (record.only s.columns).isEmpty <;> rfl
  | assign =>
      rw [compile, compileAssignments, verdict]
      cases (isBlankText s.table || (Assignment.effective s.assignments).isEmpty) <;> rfl
  | delete =>
      have hdead : (s.where? d).isNone = Condition.areDead s.conditions := by
        rw [Bool.eq_iff_iff, Option.isNone_iff_eq_none, where?_eq_none_iff]
      rw [compile, compileDelete, verdict, withTable, onTable, hdead]
      split
      · rfl
      · change Except.map some (if Condition.areDead s.conditions then _ else _) = _
        cases Condition.areDead s.conditions <;> rfl

end Form

end Statement

end SqlPipeline
