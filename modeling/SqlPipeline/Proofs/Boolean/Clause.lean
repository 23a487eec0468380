import SqlPipeline.Proofs.Boolean.Meaning
import SqlPipeline.Proofs.Boolean.Numbering
import SqlPipeline.Proofs.Form

/-!
The meaning of conditions in compiled SQL.

Main statement: in every dialect, the fragment of a well-formed condition is read by the grammar of
SQL with the truth value of the condition; and the final text of every statement that compiles is
what its form writes first, a `WHERE` with an expression that has the truth value of the conjunction
of its conditions, and then nothing, or a clause that no expression goes on with.
-/

namespace SqlPipeline

namespace Dialect

variable (d : Dialect)

/-- The form of the dialect changes no token but texts. -/
theorem kinds_finishFrom (open? : Option Char) (count : Nat) (cs : List Char) :
    (d.tokens (d.finishFrom open? count cs)).map Token.kind = (d.tokens cs).map Token.kind := by
  rw [finishFrom]
  cases d.placeholder with
  | question => rfl
  | numbered =>
      have hfree : Lexing.Alike .free .free := .same rfl
      exact Lexing.kinds_numberFrom d hfree open? count cs

end Dialect

/-- What can stand behind the expression of a `WHERE`: nothing, or a clause with a word of its own,
by which the expression has ended. -/
def EndsExpression (rest : List Char) : Prop :=
  rest = [] ∨ ∃ word ∈ [" GROUP BY ", " ORDER BY ", " LIMIT "], word.toList <+: rest

namespace EndsExpression

variable {xs ys : List Char}

theorem append_of_ne_nil (hxs : EndsExpression xs) (hne : xs ≠ []) (ys : List Char) :
    EndsExpression (xs ++ ys) := by
  obtain rfl | ⟨word, hword, hprefix⟩ := hxs
  · exact absurd rfl hne
  · exact .inr ⟨word, hword, hprefix.trans (List.prefix_append xs ys)⟩

theorem append (hxs : EndsExpression xs) (hys : EndsExpression ys) : EndsExpression (xs ++ ys) := by
  by_cases hnil : xs = []
  · rwa [hnil]
  · exact hxs.append_of_ne_nil hnil ys

/-- The words hold no placeholder, so that the form of a dialect keeps them. -/
theorem finishFrom (h : EndsExpression xs) (d : Dialect) (open? : Option Char) (count : Nat) :
    EndsExpression (d.finishFrom open? count xs) := by
  obtain rfl | ⟨word, hword, rest, rfl⟩ := h
  · exact .inl (d.finishFrom_of_not_mem List.not_mem_nil _ _)
  · have hunmarked : '?' ∉ word.toList := by
      simp only [List.mem_cons, List.not_mem_nil, or_false] at hword
      rcases hword with rfl | rfl | rfl <;> decide
    rw [d.finishFrom_append, d.finishFrom_of_not_mem hunmarked]
    exact .inr ⟨word, hword, List.prefix_append _ _⟩

theorem eq_nil_or_blank (h : EndsExpression xs) : xs = [] ∨ ∃ rest, xs = ' ' :: rest := by
  obtain rfl | ⟨word, hword, rest, rfl⟩ := h
  · exact .inl rfl
  · simp only [List.mem_cons, List.not_mem_nil, or_false] at hword
    rcases hword with rfl | rfl | rfl <;> exact .inr ⟨_, rfl⟩

theorem tokens_append (h : EndsExpression xs) {d : Dialect} {text : List Char}
    (htext : Token.broken ∉ d.tokens text) :
    d.tokens (text ++ xs) = d.tokens text ++ d.tokens xs := by
  obtain rfl | ⟨rest, rfl⟩ := h.eq_nil_or_blank
  · rw [List.append_nil]
    exact (List.append_nil _).symm
  · exact d.tokens_append_cons htext (by decide) rest

end EndsExpression

theorem endsExpression_word {word : String} (h : word ∈ [" GROUP BY ", " ORDER BY ", " LIMIT "])
    (text : String) : EndsExpression (word ++ text).toList := by
  rw [String.toList_append]
  exact .inr ⟨word, h, List.prefix_append _ _⟩

/-- The text of a `WHERE` says what a condition does: it is empty when the condition is dead, and
otherwise it is the word and an expression with the truth value of the condition, whose tokens are
the same with and without the text behind it. -/
def Condition.SaidBy (d : Dialect) (c : Condition) (clause rest : List Char) : Prop :=
  (c.isDead = true ∧ clause = []) ∨
    c.isDead = false ∧ ∃ text f, clause = " WHERE ".toList ++ text ∧
      d.tokens (text ++ rest) = d.tokens text ++ d.tokens rest ∧
      parse (d.tokens text) = some f ∧
      ∀ ρ : Nat → Bool, c.truth d (fun k _ => ρ k) 0 = (f.truth (fun k _ => ρ k) 0, f.size)

theorem endsExpression_windowClause (window : Option Window) :
    EndsExpression (windowClause window).toList := by
  cases window with
  | none => exact .inl rfl
  | some w =>
      rw [windowClause]
      split
      · rw [String.append_assoc]
        exact endsExpression_word (by decide) _
      · exact .inl rfl

namespace Statement

variable (d : Dialect) (s : Statement)

theorem endsExpression_groupClause : EndsExpression (s.groupClause d).toList := by
  rw [groupClause]
  split
  · exact .inl rfl
  · exact endsExpression_word (by decide) _

theorem endsExpression_orderClause : EndsExpression (s.orderClause d).toList := by
  rw [orderClause]
  split
  · exact .inl rfl
  · exact endsExpression_word (by decide) _

/-- What a form writes in front of the `WHERE` of a statement and behind it. An insert has none. -/
def Form.around : Form → Option (Template × Template)
  | .select =>
    some (.ofText ("SELECT " ++ s.projection d ++ s.fromClause d),
      .ofText (s.groupClause d ++ s.orderClause d ++ windowClause s.window))
  | .get =>
    some (.ofText ("SELECT " ++ s.projection d ++ s.fromClause d),
      .ofText (s.groupClause d ++ s.orderClause d ++ windowClause (some ⟨1, s.lookupOffset⟩)))
  | .count =>
    if s.groups.isEmpty then some (.ofText ("SELECT COUNT(*)" ++ s.fromClause d), .empty)
    else some (.ofText ("SELECT COUNT(*) FROM (SELECT 1" ++ s.fromClause d),
      .ofText (s.groupClause d ++ ") AS dbx_count"))
  | .sum column => some (.ofText ("SELECT " ++ sumExpression d column ++ s.fromClause d), .empty)
  | .insert _ => none
  | .update record =>
    some (.ofText ("UPDATE " ++ d.quotePlain s.table ++ " SET ") ++
      Template.join "," ((record.only s.columns).fields.map (fieldTemplate d)), .empty)
  | .assign =>
    some (.ofText ("UPDATE " ++ d.quotePlain s.table ++ " SET ") ++
      Assignment.listTemplate d s.assignments, .empty)
  | .delete => some (.ofText ("DELETE FROM " ++ d.quotePlain s.table), .empty)

/-- The `WHERE` of the statement in the form of the dialect, behind what a form writes first. -/
def whereText (head : Template) : List Char :=
  d.finishFrom (quotationThrough none head.chars) (placeholdersFrom none head.chars)
    (s.whereClause d).chars

/-- What a form writes behind the `WHERE`, in the form of the dialect. -/
def tailText (head tail : Template) : List Char :=
  d.finishFrom (quotationThrough none (head.chars ++ (s.whereClause d).chars))
    (placeholdersFrom none (head.chars ++ (s.whereClause d).chars)) tail.chars

variable {d s}

theorem Form.chars_template {form : Form} {head tail : Template}
    (h : form.around d s = some (head, tail)) :
    (form.template d s).chars = head.chars ++ ((s.whereClause d).chars ++ tail.chars) := by
  have hempty : Template.empty.chars = [] := rfl
  cases form with
  | insert record => cases h
  | count =>
      rw [around] at h
      rw [template, countTemplate]
      split at h <;> cases h
      · rw [if_pos ‹_›, Template.chars_append, hempty, List.append_nil]
      · rw [if_neg ‹_›, Template.chars_append, Template.chars_append, List.append_assoc]
  | select =>
      cases h
      rw [template, selectTemplate, Template.chars_append, Template.chars_append,
        List.append_assoc]
  | get =>
      cases h
      rw [template, selectTemplate, Template.chars_append, Template.chars_append,
        List.append_assoc]
  | sum column =>
      cases h
      rw [template, sumTemplate, Template.chars_append, hempty, List.append_nil]
  | update record =>
      cases h
      rw [template, updateTemplate, Template.chars_append, hempty, List.append_nil]
  | assign =>
      cases h
      rw [template, updateTemplate, Template.chars_append, hempty, List.append_nil]
  | delete =>
      cases h
      rw [template, Template.chars_append, hempty, List.append_nil]

/-- A compiled form is what it writes first, the `WHERE` of the statement, and what it writes
then. -/
theorem Form.toList_compiled {form : Form} {head tail : Template} {c : Compiled}
    (haround : form.around d s = some (head, tail)) (hraw : form.readsRaw = true → s.raw = none)
    (hcompile : form.compile d s = .ok (some c)) :
    c.sql.toList =
      d.finishFrom none 0 head.chars ++ (s.whereText d head ++ s.tailText d head tail) := by
  rw [Form.eq_compile_template hraw hcompile, Template.compile, Template.sql, d.toList_finish,
    Form.chars_template haround, ← List.append_assoc, d.finishFrom_append, d.finishFrom_append,
    Nat.zero_add, Nat.zero_add, List.append_assoc]
  rfl

/-- What a form writes behind the `WHERE` begins no expression and goes on with none. -/
theorem Form.endsExpression_tail {form : Form} {head tail : Template}
    (h : form.around d s = some (head, tail)) : EndsExpression tail.chars := by
  have hwindow : ∀ window, EndsExpression
      (Template.ofText (s.groupClause d ++ s.orderClause d ++ windowClause window)).chars := by
    intro window
    rw [Template.chars_ofText, String.toList_append, String.toList_append]
    exact ((endsExpression_groupClause d s).append (endsExpression_orderClause d s)).append
      (endsExpression_windowClause window)
  have hempty : EndsExpression Template.empty.chars := .inl rfl
  cases form with
  | insert record => cases h
  | select | get =>
      cases h
      exact hwindow _
  | count =>
      rw [around] at h
      split at h <;> cases h
      · exact hempty
      · next hgroups =>
        rw [Template.chars_ofText, groupClause, if_neg hgroups, String.append_assoc]
        exact endsExpression_word (by decide) _
  | sum column | update record | assign | delete =>
      cases h
      exact hempty

theorem endsExpression_tailText {form : Form} {head tail : Template}
    (haround : form.around d s = some (head, tail)) : EndsExpression (s.tailText d head tail) :=
  (Form.endsExpression_tail haround).finishFrom d _ _

/-- The `WHERE` of a statement says what its conditions say together. -/
theorem said_whereText (hconditions : ∀ b ∈ s.conditions, b.WellFormed d) (head : Template)
    {rest : List Char} (hrest : EndsExpression rest) :
    (Condition.all s.conditions).SaidBy d (s.whereText d head) rest := by
  have hmeant := (Condition.WellFormed.all hconditions).meant
  have hfragment : (Condition.all s.conditions).fragment? d = s.where? d := by
    rw [Condition.fragment?, where?]
  rw [whereText, whereClause]
  cases hF : s.where? d with
  | none =>
      refine .inl ⟨?_, d.finishFrom_of_not_mem (by decide) _ _⟩
      rw [← Condition.fragment?_eq_none_iff d, hfragment, hF]
  | some F =>
      rw [hF] at hfragment
      obtain ⟨f, hf, htruth⟩ := hmeant F hfragment
      refine .inr ⟨Condition.isDead_eq_false_of_fragment? hfragment, ?_⟩
      dsimp only
      rw [Template.chars_append, Template.chars_ofText, d.finishFrom_append,
        d.finishFrom_of_not_mem (by decide)]
      obtain ⟨f', hf', hsize, htruth'⟩ := hf.of_kinds (d.kinds_finishFrom _ _ F.template.chars)
      refine ⟨_, f', rfl, hrest.tokens_append hf'.broken_not_mem, hf'.parse_eq, ?_⟩
      intro ρ
      rw [htruth, htruth', hsize, Nat.zero_add]

end Statement

namespace MeaningWitness

/-- A text with an `OR` of its own beside other conditions, one of which says nothing. -/
def tenant : Condition :=
  .all [.eq "tenant" (.int 1), .raw "a = 1 OR b = 2",
    .not [.isIn "o.kind" [.int 3, .int 4], .eq "" .null], .op "rank" " >= " (.int 5)]

def ranking : Statement where
  table := "orders"
  conditions := [tenant]
  orders := [⟨"rank", true⟩]
  window := some ⟨10, 0⟩

/-- What is written in front of the conditions, and behind them. -/
def head : Template := .ofText "SELECT * FROM \"orders\""

def tail : Template := .ofText " ORDER BY \"rank\" DESC LIMIT 10"

/-- What the statement compiles to. -/
def compiled : Compiled where
  sql := "SELECT * FROM \"orders\" WHERE \"tenant\"=$1 AND (a = 1 OR b = 2)" ++
    " AND NOT (o.kind IN ($2,$3)) AND \"rank\" >= $4 ORDER BY \"rank\" DESC LIMIT 10"
  values := [.int 1, .int 3, .int 4, .int 5]

theorem parse_raw : (parse (Dialect.postgres.tokens "a = 1 OR b = 2".toList)).isSome := by
  have htokens : Dialect.postgres.tokens "a = 1 OR b = 2".toList =
      [.text ['a'], .text ['='], .text ['1']] ++
        .or :: [.text ['b'], .text ['='], .text ['2']] := by decide +kernel
  have hleft : IsPredicate [.text ['a'], .text ['='], .text ['1']] := by decide
  have hright : IsPredicate [.text ['b'], .text ['='], .text ['2']] := by decide
  have hreads := Reads.or (Reads.predicate hleft).of_factor (Reads.predicate hright).of_factor
  rw [htokens, hreads.parse_eq]
  rfl

theorem tenant_wellFormed : tenant.WellFormed .postgres := by
  have hunmarked : ∀ {field : String}, field.toList.contains '.' = false →
      Dialect.postgres.Refers field := by
    rintro field hfield (hdot | hmark)
    · exact absurd (hfield.symm.trans hdot) Bool.false_ne_true
    · exact absurd hmark (by decide)
  apply Condition.WellFormed.all
  intro c hc
  simp only [List.mem_cons, List.not_mem_nil, or_false] at hc
  rcases hc with rfl | rfl | rfl | rfl
  · exact .eq fun _ => hunmarked (by decide +kernel)
  · exact .raw fun _ => parse_raw
  · apply Condition.WellFormed.not
    intro c hc
    simp only [List.mem_cons, List.not_mem_nil, or_false] at hc
    rcases hc with rfl | rfl
    · exact .isIn fun _ _ => by decide +kernel
    · exact .eq nofun
  · exact .op fun _ => by decide +kernel

end MeaningWitness

end SqlPipeline
