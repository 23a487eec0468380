import Mathlib.Data.List.Forall2
import SqlPipeline.Proofs.Boolean.Grammar
import SqlPipeline.Proofs.Verdict

/-!
The meaning of conditions.

A condition has a truth value of its own, in which each leaf is read from its own field, operator
and expression, and combinations by what they say: all, one, or not all of the children that are not
dead. Main statement: the fragment of a condition whose leaves are well formed is read by the
grammar of SQL as a formula with that truth value, whatever truth values the predicates of the
leaves have.
-/

namespace SqlPipeline

/-- A question mark for each value, with commas between them. -/
def marks : List Value → List Char
  | [] => []
  | [_] => ['?']
  | _ :: v :: rest => '?' :: ',' :: marks (v :: rest)

theorem Template.chars_holes (values : List Value) : (holes values).chars = marks values := by
  match values with
  | [] => rfl
  | [v] => rfl
  | v :: w :: rest =>
      rw [holes, List.map_cons, List.map_cons, join, chars_append, chars_append, marks]
      change '?' :: ',' :: (holes (w :: rest)).chars = _
      rw [chars_holes (w :: rest)]

namespace Condition

variable (d : Dialect)

/-- The text of a membership test, with a question mark for each value. -/
def membershipText (field keyword : String) (values : List Value) : List Char :=
  (d.quoteField field).toList ++ ' ' :: (keyword.toList ++ ' ' :: '(' :: (marks values ++ [')']))

/-- What a leaf says by itself: its field, its operator and its expression, with a question mark for
each value. -/
def ownText : Condition → List Char
  | .eq field _ => (d.quoteField field).toList ++ '=' :: ['?']
  | .op field operator _ =>
    (d.quoteField field).toList ++ ' ' :: ((trim operator).toList ++ ' ' :: ['?'])
  | .eqExpr field expr => (d.quoteField field).toList ++ '=' :: expr.toList
  | .opExpr field operator expr =>
    (d.quoteField field).toList ++ ' ' :: ((trim operator).toList ++ ' ' :: expr.toList)
  | .isIn field values => membershipText d field "IN" values
  | .notIn field values => membershipText d field "NOT IN" values
  | .raw sql => sql.toList
  | .all _ | .any _ | .not _ => []

/-- The condition is no combination of others. -/
def isLeaf : Condition → Bool
  | .all _ | .any _ | .not _ => false
  | _ => true

/-- The leaf is an expression in the words of the caller, who may have used connectives. -/
def isExpression : Condition → Bool
  | .eqExpr _ _ | .opExpr _ _ _ | .raw _ => true
  | _ => false

/-- The formula of a leaf: what the grammar reads in an expression, and else one predicate. -/
def ownFormula (c : Condition) : Formula :=
  let predicate := Formula.predicate (d.tokens (c.ownText d))
  if c.isExpression then (parse (d.tokens (c.ownText d))).getD predicate else predicate

variable (ρ : Nat → List Token → Bool)

mutual

/-- The truth value of a condition, and the number of the predicate behind its own. -/
def truth (c : Condition) (k : Nat) : Bool × Nat :=
  match c with
  | .all children =>
    let (bs, k) := truths children k
    (bs.all id, k)
  | .any children =>
    let (bs, k) := truths children k
    (bs.any id, k)
  | .not children =>
    let (bs, k) := truths children k
    (!bs.all id, k)
  | c => ((c.ownFormula d).truth ρ k, k + (c.ownFormula d).size)

/-- The truth values of those conditions that are not dead. -/
def truths (cs : List Condition) (k : Nat) : List Bool × Nat :=
  match cs with
  | [] => ([], k)
  | c :: rest =>
    if c.isDead then truths rest k
    else
      let (b, k) := truth c k
      let (bs, k) := truths rest k
      (b :: bs, k)

end

end Condition

/-- The field is a reference to a column as it is written in a condition. A name that the dialect
quotes always is, unless the quote has a meaning of its own. -/
def Dialect.Refers (d : Dialect) (field : String) : Prop :=
  field.toList.contains '.' = true ∨ isMark d.quote = true →
    IsColumn (d.tokens (d.quoteField field).toList)

/-- The texts of the caller in a condition are SQL: fields are columns, operators make single
predicates, and the texts of expressions and raw conditions are Boolean expressions. -/
inductive Condition.WellFormed (d : Dialect) : Condition → Prop
  | eq {field value} (hfield : field.isEmpty = false → d.Refers field) :
      WellFormed d (.eq field value)
  | op {field operator value}
      (hpredicate : field.isEmpty = false →
        IsPredicate (d.tokens (ownText d (.op field operator value)))) :
      WellFormed d (.op field operator value)
  | eqExpr {field expr}
      (hparse : field.isEmpty = false →
        (parse (d.tokens (ownText d (.eqExpr field expr)))).isSome) :
      WellFormed d (.eqExpr field expr)
  | opExpr {field operator expr}
      (hparse : field.isEmpty = false →
        (parse (d.tokens (ownText d (.opExpr field operator expr)))).isSome) :
      WellFormed d (.opExpr field operator expr)
  | isIn {field values} (hfield : field.isEmpty = false → d.Refers field) :
      WellFormed d (.isIn field values)
  | notIn {field values} (hfield : field.isEmpty = false → d.Refers field) :
      WellFormed d (.notIn field values)
  | raw {sql} (hparse : isBlankText sql = false → (parse (d.tokens sql.toList)).isSome) :
      WellFormed d (.raw sql)
  | all {children} (h : ∀ c ∈ children, WellFormed d c) : WellFormed d (.all children)
  | any {children} (h : ∀ c ∈ children, WellFormed d c) : WellFormed d (.any children)
  | not {children} (h : ∀ c ∈ children, WellFormed d c) : WellFormed d (.not children)

/-- A connective between the members of a combination. -/
inductive Connective
  | and
  | or

namespace Connective

def text : Connective → String
  | .and => " AND "
  | .or => " OR "

def token : Connective → Token
  | .and => .and
  | .or => .or

/-- The level on which members are connected. -/
def level : Connective → Level
  | .and => .conjunction
  | .or => .disjunction

def formula : Connective → Formula → Formula → Formula
  | .and => .and
  | .or => .or

/-- The truth value of the combination. -/
def truth : Connective → List Bool → Bool
  | .and, bs => bs.all id
  | .or, bs => bs.any id

/-- A factor goes on a combination. -/
theorem reads (k : Connective) {l r : List Token} {f g : Formula} (hl : Reads k.level l f)
    (hr : Reads .factor r g) : Reads k.level (l ++ k.token :: r) (k.formula f g) := by
  cases k with
  | and => exact .and hl hr
  | or => exact .or hl (.conjunction hr)

theorem reads_foldl (k : Connective) {l : List Token} {f : Formula} (hl : Reads k.level l f)
    {tss : List (List Token)} {gs : List Formula} (h : List.Forall₂ (Reads .factor) tss gs) :
    Reads k.level (l ++ tss.flatMap (k.token :: ·)) (gs.foldl k.formula f) := by
  induction h generalizing l f with
  | nil => simpa using hl
  | @cons ts g tss gs hts _ ih =>
      have hnext := ih (k.reads hl hts)
      rwa [List.append_assoc] at hnext

theorem truth_foldl (k : Connective) (ρ : Nat → List Token → Bool) (f : Formula)
    (gs : List Formula) (n : Nat) :
    (gs.foldl k.formula f).truth ρ n = k.truth (Formula.truths ρ (f :: gs) n) := by
  induction gs generalizing f with
  | nil => cases k <;> simp [truth, Formula.truths]
  | cons g gs ih =>
      rw [List.foldl_cons, ih]
      cases k <;> simp [truth, formula, Formula.truths, Formula.truth, Formula.size,
        Bool.and_assoc, Bool.or_assoc, Nat.add_assoc]

theorem size_foldl (k : Connective) (f : Formula) (gs : List Formula) :
    (gs.foldl k.formula f).size = Formula.sizes (f :: gs) := by
  induction gs generalizing f with
  | nil => simp [Formula.sizes]
  | cons g gs ih =>
      rw [List.foldl_cons, ih]
      cases k <;> simp [formula, Formula.sizes, Formula.size, Nat.add_assoc]

/-- The tokens of a joint text are those of the members with the connective between them. -/
theorem tokens_join (k : Connective) (d : Dialect) {t : Template} {ts : List Template}
    (h : ∀ u ∈ t :: ts, Token.broken ∉ d.tokens u.chars) :
    d.tokens (Template.join k.text (t :: ts)).chars =
      d.tokens t.chars ++ (ts.map fun u => d.tokens u.chars).flatMap (k.token :: ·) := by
  induction ts generalizing t with
  | nil => simp [Template.join]
  | cons u ts ih =>
      have hrest := ih fun v hv => h v (List.mem_cons_of_mem t hv)
      have hjoin : (Template.join k.text (t :: u :: ts)).chars =
          t.chars ++ (k.text.toList ++ (Template.join k.text (u :: ts)).chars) := by
        rw [Template.join]
        simp
      have hseparated : d.tokens (k.text.toList ++ (Template.join k.text (u :: ts)).chars) =
          k.token :: d.tokens (Template.join k.text (u :: ts)).chars := by
        cases k <;> rfl
      have hspace : ∃ cs, k.text.toList = ' ' :: cs := by
        cases k
        · exact ⟨['A', 'N', 'D', ' '], rfl⟩
        · exact ⟨['O', 'R', ' '], rfl⟩
      obtain ⟨cs, hcs⟩ := hspace
      rw [hjoin, List.map_cons, List.flatMap_cons, List.cons_append, ← hrest, ← hseparated, hcs]
      exact d.tokens_append_cons (h t List.mem_cons_self) (by decide) _

end Connective

namespace Reads

/-- No quotation and no comment is open behind what the rules read. -/
theorem broken_not_mem {level : Level} {ts : List Token} {f : Formula} (h : Reads level ts f) :
    Token.broken ∉ ts := by
  have hbalanced := h.balanced
  intro hmem
  obtain ⟨xs, ys, rfl⟩ := List.append_of_mem hmem
  rw [Nesting.through_append, Nesting.through] at hbalanced
  have hnone : (Nesting.through (some .outside) xs).bind (·.after .broken) = none := by
    cases Nesting.through (some .outside) xs <;> rfl
  rw [hnone, Nesting.through_none] at hbalanced
  cases hbalanced

/-- A text between parentheses is a group. -/
theorem parenthesized {d : Dialect} {t : Template} {level : Level} {f : Formula}
    (h : Reads level (d.tokens t.chars) f) :
    Reads .factor
      (d.tokens (Template.ofText "(" ++ t ++ Template.ofText ")").chars) f := by
  have hclose := d.tokens_append_cons h.broken_not_mem (c := ')') (by decide) []
  have htokens : d.tokens (Template.ofText "(" ++ t ++ Template.ofText ")").chars =
      .openParen :: (d.tokens t.chars ++ [.closeParen]) := by
    rw [Template.chars_append, Template.chars_append, Template.chars_ofText, Template.chars_ofText]
    change Token.openParen :: d.tokens (t.chars ++ [')']) = _
    rw [hclose]
    rfl
  rw [htokens]
  refine .group ?_
  cases level with
  | disjunction => exact h
  | conjunction => exact .disjunction h
  | factor => exact h.of_factor

end Reads

/-- Factors with a connective between them are read as their combination. -/
theorem Connective.reads_join (k : Connective) {d : Dialect} {F : Fragment} {Fs : List Fragment}
    {f : Formula} {fs : List Formula} (hF : Reads .factor (d.tokens F.grouped.chars) f)
    (hFs : List.Forall₂ (fun F f => Reads .factor (d.tokens F.grouped.chars) f) Fs fs) :
    Reads .disjunction (d.tokens (Template.join k.text ((F :: Fs).map Fragment.grouped)).chars)
      (fs.foldl k.formula f) := by
  have hclosed : ∀ t ∈ (F :: Fs).map Fragment.grouped, Token.broken ∉ d.tokens t.chars := by
    rw [List.forall_mem_map]
    refine List.forall_mem_cons.2 ⟨hF.broken_not_mem, ?_⟩
    induction hFs with
    | nil => exact List.forall_mem_nil _
    | cons hG _ ih => exact List.forall_mem_cons.2 ⟨hG.broken_not_mem, ih⟩
  have hfactors : List.Forall₂ (Reads .factor)
      ((Fs.map Fragment.grouped).map fun t => d.tokens t.chars) fs := by
    rw [List.map_map, List.forall₂_map_left_iff]
    exact hFs
  rw [List.map_cons, k.tokens_join d hclosed]
  have hreads := k.reads_foldl hF.of_factor hfactors
  cases k with
  | and => exact .disjunction hreads
  | or => exact hreads

namespace Fragment

/-- The level on which the text of a fragment stands. -/
def level (f : Fragment) : Level :=
  if f.compound then .disjunction else .factor

variable {d : Dialect}

theorem reads_grouped {F : Fragment} {f : Formula}
    (h : Reads F.level (d.tokens F.template.chars) f) :
    Reads .factor (d.tokens F.grouped.chars) f := by
  rw [level] at h
  rw [grouped]
  split
  · exact h.parenthesized
  · next hcompound => rwa [if_neg hcompound] at h

/-- Fragments under a connective are read as the combination of their formulas. -/
theorem reads_combine (k : Connective) {Fs : List Fragment} {fs : List Formula}
    (h : List.Forall₂ (fun F f => Reads F.level (d.tokens F.template.chars) f) Fs fs) :
    (combine k.text Fs = none ∧ fs = []) ∨
      ∃ F f, combine k.text Fs = some F ∧
        Reads F.level (d.tokens F.template.chars) f ∧ f.size = Formula.sizes fs ∧
        ∀ ρ n, f.truth ρ n = k.truth (Formula.truths ρ fs n) := by
  cases h with
  | nil => exact .inl ⟨rfl, rfl⟩
  | @cons F f Fs fs hF hrest =>
      refine .inr ?_
      cases hrest with
      | nil =>
          exact ⟨F, f, rfl, hF, k.size_foldl f [],
            fun ρ n => k.truth_foldl ρ f [] n⟩
      | @cons G g Fs fs hG hrest =>
          refine ⟨_, (g :: fs).foldl k.formula f, rfl, ?_,
            k.size_foldl f (g :: fs), fun ρ n => k.truth_foldl ρ f (g :: fs) n⟩
          exact k.reads_join (reads_grouped hF) (.cons (reads_grouped hG)
            (hrest.imp fun _ _ => reads_grouped))

end Fragment

namespace Condition

variable {d : Dialect}

/-- A field is read as a reference to a column, as it is written in a condition. -/
theorem isColumn_quoteField {field : String} (h : d.Refers field) :
    IsColumn (d.tokens (d.quoteField field).toList) := by
  by_cases hcase : field.toList.contains '.' = true ∨ isMark d.quote = true
  · exact h hcase
  · rw [not_or, Bool.not_eq_true, Bool.not_eq_true] at hcase
    rw [Dialect.quoteField, hcase.1]
    exact d.isColumn_wrap hcase.2 field

theorem isText_of_mem_marks (values : List Value) :
    ∀ t ∈ d.tokens (marks values), t.isText = true := by
  match values with
  | [] => exact nofun
  | [v] =>
      intro t ht
      cases List.mem_singleton.1 ht
      rfl
  | v :: w :: rest =>
      have hmark : Token.broken ∉ d.tokens ['?'] := nofun
      have htokens : d.tokens (marks (v :: w :: rest)) =
          .text ['?'] :: .text [','] :: d.tokens (marks (w :: rest)) := by
        change d.tokens (['?'] ++ ',' :: marks (w :: rest)) = _
        rw [d.tokens_append_cons hmark (by decide), d.tokens_sign (.inr rfl)]
        rfl
      rw [htokens]
      exact List.forall_mem_cons.2 ⟨rfl, List.forall_mem_cons.2 ⟨rfl,
        isText_of_mem_marks (w :: rest)⟩⟩

/-- A comparison with a value is a predicate. -/
theorem isPredicate_marked {field : String}
    (h : IsColumn (d.tokens (d.quoteField field).toList)) (value : Value) :
    IsPredicate (d.tokens (ownText d (.eq field value))) := by
  rw [ownText, d.tokens_append_cons (broken_not_mem_of_isText h.texts) (by decide),
    d.tokens_sign (.inl rfl)]
  have hsigns : ∀ u ∈ [Token.text ['='], Token.text ['?']], u.isQuiet = true := by decide
  exact h.isPredicate_append hsigns

/-- A membership test is a predicate. -/
theorem isPredicate_membership {field keyword : String}
    (h : IsColumn (d.tokens (d.quoteField field).toList)) {words : List Token}
    (hquiet : ∀ t ∈ words, t.isQuiet = true)
    (hkeyword : ∀ rest, d.tokens (' ' :: (keyword.toList ++ ' ' :: '(' :: rest)) =
      words ++ .openParen :: d.tokens rest) (values : List Value) :
    IsPredicate (d.tokens (membershipText d field keyword values)) := by
  have hmarks := isText_of_mem_marks (d := d) values
  rw [membershipText, d.tokens_append_cons (broken_not_mem_of_isText h.texts) (by decide), hkeyword,
    d.tokens_append_cons (broken_not_mem_of_isText hmarks) (by decide)]
  exact h.isPredicate_append_group hquiet fun u hu => Token.isQuiet_of_isText (hmarks u hu)

/-- The fragment of a condition, if there is one, is read as a formula with the truth value of the
condition. -/
def Meant (d : Dialect) (c : Condition) : Prop :=
  ∀ F, c.fragment? d = some F → ∃ f, Reads F.level (d.tokens F.template.chars) f ∧
    ∀ ρ k, c.truth d ρ k = (f.truth ρ k, k + f.size)

/-- The fragment of a leaf is what the leaf says by itself. -/
theorem chars_of_leaf {c : Condition} {F : Fragment} (hleaf : c.isLeaf = true)
    (hF : c.fragment? d = some F) :
    F.template.chars = c.ownText d ∧ F.compound = c.isExpression := by
  cases c with
  | all children | any children | not children => cases hleaf
  | eq field value | op field operator value | eqExpr field expr | opExpr field operator expr
  | raw sql =>
      rw [fragment?, Option.ite_none_left_eq_some] at hF
      obtain rfl := Option.some.inj hF.2
      simp [Fragment.leaf, Fragment.verbatim, ownText, isExpression]
  | isIn field values | notIn field values =>
      rw [fragment?, membership?, Option.ite_none_left_eq_some] at hF
      obtain rfl := Option.some.inj hF.2
      simp [Fragment.leaf, ownText, membershipText, isExpression, Template.chars_holes]

theorem truth_leaf {c : Condition} (hleaf : c.isLeaf = true) (ρ : Nat → List Token → Bool)
    (k : Nat) : c.truth d ρ k = ((c.ownFormula d).truth ρ k, k + (c.ownFormula d).size) := by
  cases c with
  | all children | any children | not children => cases hleaf
  | _ => rfl

theorem isDead_eq_false_of_fragment? {c : Condition} {F : Fragment} (hF : c.fragment? d = some F) :
    c.isDead = false := by
  rw [← Bool.not_eq_true, ← c.fragment?_eq_none_iff d, hF]
  exact Option.some_ne_none F

/-- A leaf that says nothing but one predicate. -/
theorem meant_of_isPredicate {c : Condition} (hleaf : c.isLeaf = true)
    (hpredicate : c.isExpression = false)
    (h : c.isDead = false → IsPredicate (d.tokens (c.ownText d))) : c.Meant d := by
  intro F hF
  obtain ⟨hchars, hcompound⟩ := chars_of_leaf hleaf hF
  have hformula : c.ownFormula d = .predicate (d.tokens (c.ownText d)) := by
    rw [ownFormula, hpredicate]
    rfl
  refine ⟨c.ownFormula d, ?_, truth_leaf hleaf⟩
  rw [Fragment.level, hcompound, hpredicate, hchars, hformula]
  exact .predicate (h (isDead_eq_false_of_fragment? hF))

/-- A leaf in the words of the caller. -/
theorem meant_of_parse {c : Condition} (hleaf : c.isLeaf = true)
    (hexpression : c.isExpression = true)
    (h : c.isDead = false → (parse (d.tokens (c.ownText d))).isSome) : c.Meant d := by
  intro F hF
  obtain ⟨hchars, hcompound⟩ := chars_of_leaf hleaf hF
  obtain ⟨f, hf⟩ := Option.isSome_iff_exists.1 (h (isDead_eq_false_of_fragment? hF))
  have hformula : c.ownFormula d = f := by
    rw [ownFormula, hexpression, hf]
    rfl
  refine ⟨c.ownFormula d, ?_, truth_leaf hleaf⟩
  rw [Fragment.level, hcompound, hexpression, hchars, hformula]
  exact parse_eq_some_iff.1 hf

/-- The fragments of conditions are read as formulas with the truth values of those conditions that
are not dead. -/
theorem exists_formulas {cs : List Condition} (h : ∀ c ∈ cs, c.Meant d) :
    ∃ fs, List.Forall₂ (fun F f => Reads (Fragment.level F) (d.tokens F.template.chars) f)
        (fragments d cs) fs ∧
      ∀ ρ k, truths d ρ cs k = (Formula.truths ρ fs k, k + Formula.sizes fs) := by
  induction cs with
  | nil => exact ⟨[], .nil, fun _ _ => rfl⟩
  | cons c rest ih =>
      obtain ⟨fs, hreads, htruths⟩ := ih fun b hb => h b (List.mem_cons_of_mem c hb)
      rw [fragments]
      cases hF : c.fragment? d with
      | none =>
          refine ⟨fs, hreads, ?_⟩
          intro ρ k
          rw [truths, if_pos ((c.fragment?_eq_none_iff d).1 hF)]
          exact htruths ρ k
      | some F =>
          obtain ⟨f, hf, htruth⟩ := h c List.mem_cons_self F hF
          refine ⟨f :: fs, .cons hf hreads, ?_⟩
          intro ρ k
          rw [truths, isDead_eq_false_of_fragment? hF, if_neg Bool.false_ne_true, htruth,
            Formula.sizes, ← Nat.add_assoc]
          dsimp only
          rw [htruths]
          rfl

/-- A combination of children under a connective. -/
theorem meant_combine (k : Connective) {c : Condition} {children : List Condition}
    (hfragment : c.fragment? d = Fragment.combine k.text (fragments d children))
    (htruth : ∀ ρ n, c.truth d ρ n =
      (k.truth (truths d ρ children n).1, (truths d ρ children n).2))
    (h : ∀ b ∈ children, b.Meant d) : c.Meant d := by
  obtain ⟨fs, hreads, htruths⟩ := exists_formulas h
  intro F hF
  rw [hfragment] at hF
  rcases Fragment.reads_combine k hreads with ⟨hnone, -⟩ | ⟨G, f, hG, hf, hsize, hf'⟩
  · exact nomatch hF.symm.trans hnone
  · obtain rfl := Option.some.inj (hF.symm.trans hG)
    refine ⟨f, hf, ?_⟩
    intro ρ n
    rw [htruth, htruths, hf', hsize]

/-- A negation of children that hold together. -/
theorem meant_not {children : List Condition} (h : (Condition.all children).Meant d) :
    (Condition.not children).Meant d := by
  intro F hF
  rw [fragment?, Option.map_eq_some_iff] at hF
  obtain ⟨G, hG, rfl⟩ := hF
  obtain ⟨f, hf, htruth⟩ := h G (by rw [fragment?, hG])
  have htokens : d.tokens (negated G).template.chars =
      .not :: d.tokens (Template.ofText "(" ++ G.template ++ Template.ofText ")").chars := by
    simp only [negated, Fragment.leaf, Template.chars_append, Template.chars_ofText]
    rfl
  have hnot : Reads (negated G).level (d.tokens (negated G).template.chars) (.not f) := by
    rw [htokens]
    exact .not hf.parenthesized
  have hvalue : ∀ ρ k, (Condition.not children).truth d ρ k =
      (!((Condition.all children).truth d ρ k).1, ((Condition.all children).truth d ρ k).2) := by
    intro ρ k
    rw [truth, truth]
  refine ⟨.not f, hnot, ?_⟩
  intro ρ k
  rw [hvalue, htruth]
  rfl

theorem isPredicate_of_refers {field keyword : String} {values : List Value}
    (hlive : (field.isEmpty || values.isEmpty) = false)
    (hfield : field.isEmpty = false → d.Refers field) {words : List Token}
    (hquiet : ∀ t ∈ words, t.isQuiet = true)
    (hkeyword : ∀ rest, d.tokens (' ' :: (keyword.toList ++ ' ' :: '(' :: rest)) =
      words ++ .openParen :: d.tokens rest) :
    IsPredicate (d.tokens (membershipText d field keyword values)) := by
  rw [Bool.or_eq_false_iff] at hlive
  exact isPredicate_membership (isColumn_quoteField (hfield hlive.1)) hquiet hkeyword values

/-- A well-formed condition means what its fragment says. -/
theorem WellFormed.meant {c : Condition} (h : c.WellFormed d) : c.Meant d := by
  induction h with
  | @eq field value hfield =>
      exact meant_of_isPredicate rfl rfl fun hlive =>
        isPredicate_marked (isColumn_quoteField (hfield hlive)) value
  | op hpredicate => exact meant_of_isPredicate rfl rfl hpredicate
  | eqExpr hparse => exact meant_of_parse rfl rfl hparse
  | opExpr hparse => exact meant_of_parse rfl rfl hparse
  | raw hparse => exact meant_of_parse rfl rfl hparse
  | isIn hfield =>
      have hquiet : ∀ t ∈ [Token.text ['I', 'N']], t.isQuiet = true := by decide
      exact meant_of_isPredicate rfl rfl fun hlive =>
        isPredicate_of_refers hlive hfield hquiet fun _ => rfl
  | notIn hfield =>
      have hquiet : ∀ t ∈ [Token.not, Token.text ['I', 'N']], t.isQuiet = true := by decide
      exact meant_of_isPredicate rfl rfl fun hlive =>
        isPredicate_of_refers hlive hfield hquiet fun _ => rfl
  | all _ ih => exact meant_combine .and (by rw [fragment?]; rfl) (fun ρ n => by rw [truth]; rfl) ih
  | any _ ih => exact meant_combine .or (by rw [fragment?]; rfl) (fun ρ n => by rw [truth]; rfl) ih
  | not _ ih =>
      exact meant_not
        (meant_combine .and (by rw [fragment?]; rfl) (fun ρ n => by rw [truth]; rfl) ih)

end Condition

end SqlPipeline
