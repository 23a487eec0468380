import SqlPipeline.Dialect
import SqlPipeline.Template
import SqlPipeline.Text.Blank

/-!
Conditions of a `WHERE` clause.

A condition is a tree of comparisons under `AND`, `OR` and `NOT`. It compiles to a fragment of SQL,
or to nothing: a comparison without a field, a membership test without values and a blank text say
nothing, and a combination says nothing when none of its members does. What says nothing leaves no
trace in the fragment around it.
-/

namespace SqlPipeline

/-- A condition on the rows of a table. -/
inductive Condition
  | eq (field : String) (value : Value)
  | op (field operator : String) (value : Value)
  /-- The field equals an expression, given as SQL text. -/
  | eqExpr (field expr : String)
  /-- The field compares with an expression by an operator. -/
  | opExpr (field operator expr : String)
  | isIn (field : String) (values : List Value)
  | notIn (field : String) (values : List Value)
  | raw (sql : String)
  /-- All of the conditions hold. -/
  | all (children : List Condition)
  /-- One of the conditions holds. -/
  | any (children : List Condition)
  /-- Not all of the conditions hold. -/
  | not (children : List Condition)

/-- Induction on a condition: what holds of a combination may use that it holds of each child. -/
@[elab_as_elim]
theorem Condition.induction {motive : Condition → Prop}
    (eq : ∀ field value, motive (.eq field value))
    (op : ∀ field operator value, motive (.op field operator value))
    (eqExpr : ∀ field expr, motive (.eqExpr field expr))
    (opExpr : ∀ field operator expr, motive (.opExpr field operator expr))
    (isIn : ∀ field values, motive (.isIn field values))
    (notIn : ∀ field values, motive (.notIn field values))
    (raw : ∀ sql, motive (.raw sql))
    (all : ∀ children, (∀ c ∈ children, motive c) → motive (.all children))
    (any : ∀ children, (∀ c ∈ children, motive c) → motive (.any children))
    (not : ∀ children, (∀ c ∈ children, motive c) → motive (.not children))
    (c : Condition) : motive c :=
  c.rec (motive_2 := fun children => ∀ c ∈ children, motive c) eq op eqExpr opExpr isIn notIn raw
    all any not (fun _ h => nomatch h) fun _ _ hhead htail => List.forall_mem_cons.2 ⟨hhead, htail⟩

/-- The SQL of a condition. A compound fragment needs parentheses beside another one. -/
structure Fragment where
  template : Template
  compound : Bool

namespace Fragment

/-- A fragment that stands on its own beside others. -/
def leaf (template : Template) : Fragment := ⟨template, false⟩

/-- A fragment whose text may hold connectives of its own. -/
def verbatim (sql : String) : Fragment := ⟨sql, true⟩

/-- The fragment as a member of a combination of several. -/
def grouped (f : Fragment) : Template :=
  if f.compound then Template.ofText "(" ++ f.template ++ Template.ofText ")" else f.template

/-- The fragments under one connective: nothing for none, the fragment itself for one. -/
def combine (connective : String) : List Fragment → Option Fragment
  | [] => none
  | [f] => some f
  | f :: g :: rest => some ⟨Template.join connective ((f :: g :: rest).map grouped), true⟩

end Fragment

namespace Condition

/-- A comparison with an operator. `IN` and `NOT IN`, in letters of either case and with blanks
around them, are membership tests; a list then stands for its items. -/
def compare (field operator : String) (value : Value) : Condition :=
  let name := lowerAscii (trim operator)
  if name = "in" then .isIn field (Arguments.value value).values
  else if name = "not in" then .notIn field (Arguments.value value).values
  else .op field operator value

variable (d : Dialect)

/-- The fragment of a membership test. -/
def membership? (field keyword : String) (values : List Value) : Option Fragment :=
  if field.isEmpty || values.isEmpty then none
  else some (.leaf (Template.ofText (d.quoteField field ++ " " ++ keyword ++ " (") ++
    Template.holes values ++ Template.ofText ")"))

/-- The fragment around what several conditions say together. -/
def negated (inner : Fragment) : Fragment :=
  .leaf (Template.ofText "NOT (" ++ inner.template ++ Template.ofText ")")

mutual

/-- The fragment of a condition, or none when the condition says nothing. -/
def fragment? : Condition → Option Fragment
  | .eq field value =>
    if field.isEmpty then none
    else some (.leaf (Template.ofText (d.quoteField field ++ "=") ++ Template.hole value))
  | .op field operator value =>
    if field.isEmpty then none
    else some (.leaf (Template.ofText (d.quoteField field ++ " " ++ trim operator ++ " ") ++
      Template.hole value))
  | .eqExpr field expr =>
    if field.isEmpty then none else some (.verbatim (d.quoteField field ++ "=" ++ expr))
  | .opExpr field operator expr =>
    if field.isEmpty then none
    else some (.verbatim (d.quoteField field ++ " " ++ trim operator ++ " " ++ expr))
  | .isIn field values => membership? d field "IN" values
  | .notIn field values => membership? d field "NOT IN" values
  | .raw sql => if isBlankText sql then none else some (.verbatim sql)
  | .all children => Fragment.combine " AND " (fragments children)
  | .any children => Fragment.combine " OR " (fragments children)
  | .not children => (Fragment.combine " AND " (fragments children)).map negated

/-- The fragments of those conditions that say something. -/
def fragments : List Condition → List Fragment
  | [] => []
  | c :: rest =>
    match fragment? c with
    | some f => f :: fragments rest
    | none => fragments rest

end

theorem fragments_eq_filterMap (cs : List Condition) :
    fragments d cs = cs.filterMap (fragment? d) := by
  induction cs with
  | nil => rfl
  | cons c rest ih =>
    rw [fragments, List.filterMap_cons, ih]
    cases fragment? d c <;> rfl

theorem fragments_append (cs ds : List Condition) :
    fragments d (cs ++ ds) = fragments d cs ++ fragments d ds := by
  simp only [fragments_eq_filterMap, List.filterMap_append]

/-- The SQL of a condition with a hole for each value; empty when the condition says nothing. -/
def template (c : Condition) : Template :=
  match c.fragment? d with
  | some f => f.template
  | none => .empty

end Condition

end SqlPipeline
