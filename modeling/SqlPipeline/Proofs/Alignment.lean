import SqlPipeline.Proofs.Binding
import SqlPipeline.Proofs.Form

/-!
Placeholders and values of compiled statements.

What a record or the assignments of a statement bind comes first, then what its conditions bind.
Main statement: if the texts of the caller that a form copies close their quotes and hold no
placeholder, then the form has one placeholder for each value; the placeholders stand in the order
of the bindings, each behind the text of its own writer, and the final text numbers them so.
-/

namespace SqlPipeline

namespace Assignment

/-- The texts of the caller that are copied into an assignment. -/
def copied : Assignment → List String
  | .value field _ => copiedField field
  | .expr field text => copiedField field ++ [text]

/-- What an assignment binds. -/
def bindings (d : Dialect) : Assignment → List Binding
  | .value field v => [⟨d.quoteField field ++ "=", v⟩]
  | .expr _ _ => []

theorem binds_template (d : Dialect) (a : Assignment) : (a.template d).Binds (a.bindings d) := by
  cases a with
  | value field v => exact Template.Binds.marked _ v
  | expr field text => exact Template.Binds.ofText _

theorem inert_template {d : Dialect} (hquote : isQuote d.quote = true) {a : Assignment}
    (ha : ∀ text ∈ a.copied, Inert text.toList) : (a.template d).Inert := by
  cases a with
  | value field v =>
      exact (Template.Inert.ofText ((Condition.inert_field hquote ha).concat (by decide))).append
        (Template.Inert.hole v)
  | expr field text =>
      obtain ⟨hfield, htext⟩ := List.forall_mem_append.1 ha
      exact Template.Inert.ofText (((Condition.inert_field hquote hfield).concat
        (by decide)).concat (htext text List.mem_cons_self))

end Assignment

namespace Statement

variable (d : Dialect) (s : Statement)

/-- The texts of the caller that are copied into the projection. Where each table of a join is read,
its last word is copied. -/
def copiedProjection : List String :=
  match s.selection with
  | some selection => [selection]
  | none =>
    if !s.columns.isEmpty then s.columns.flatMap copiedName
    else if !s.joins.isEmpty then (s.table :: s.joins.map Join.table).map referenceName
    else []

/-- The texts of the caller that are copied into the `FROM`. -/
def copiedSource : List String :=
  copiedName s.table ++ s.joins.flatMap fun j => copiedName j.table ++ [j.on]

/-- What a field of a record binds. -/
def fieldBinding (field : String × Value) : Binding :=
  ⟨d.quoteField field.1 ++ "=", field.2⟩

namespace Form

/-- The texts of the caller that the form copies as they are. -/
def copied : Form → List String
  | .select | .get =>
    s.copiedProjection ++ s.copiedSource ++ Condition.copiedAll s.conditions ++
      (s.groups.flatMap copiedName ++ s.orders.flatMap fun o => copiedName o.field)
  | .count => s.copiedSource ++ Condition.copiedAll s.conditions ++ s.groups.flatMap copiedName
  | .sum column => copiedName column ++ s.copiedSource ++ Condition.copiedAll s.conditions
  | .insert record => copiedName s.table ++ record.columns.flatMap copiedName
  | .update record =>
    copiedName s.table ++ (record.only s.columns).columns.flatMap copiedField ++
      Condition.copiedAll s.conditions
  | .assign =>
    copiedName s.table ++ (Assignment.effective s.assignments).flatMap Assignment.copied ++
      Condition.copiedAll s.conditions
  | .delete => copiedName s.table ++ Condition.copiedAll s.conditions

/-- What the form binds: the record or the assignments first, then the conditions. The values of an
insert stand in the order of its columns. -/
def bindings : Form → List Binding
  | .insert record =>
    listedBindings ("INSERT INTO " ++ d.quotePlain s.table ++ " (" ++
      ",".intercalate (record.columns.map d.quotePlain) ++ ") VALUES (")
      (record.fields.map Prod.snd)
  | .update record =>
    (record.only s.columns).fields.map (fieldBinding d) ++ Condition.bindingsAll d s.conditions
  | .assign =>
    (Assignment.effective s.assignments).flatMap (Assignment.bindings d) ++
      Condition.bindingsAll d s.conditions
  | _ => Condition.bindingsAll d s.conditions

end Form

theorem binds_whereClause : (s.whereClause d).Binds (Condition.bindingsAll d s.conditions) := by
  have hwhere : (Fragment.optional (s.where? d)).Binds (Condition.bindingsAll d s.conditions) :=
    Condition.binds_fragments d " AND " fun c _ => Condition.binds_fragment d c
  rw [whereClause]
  cases hfragment : s.where? d with
  | none =>
      rw [hfragment] at hwhere
      exact hwhere
  | some f =>
      rw [hfragment] at hwhere
      exact Template.Binds.text_append " WHERE " hwhere

theorem binds_updateTemplate {assignments : Template} {bs : List Binding}
    (h : assignments.Binds bs) :
    (s.updateTemplate d assignments).Binds (bs ++ Condition.bindingsAll d s.conditions) :=
  (Template.Binds.text_append _ h).append (s.binds_whereClause d)

/-- The template of a form binds the form's bindings. -/
theorem Form.binds_template (form : Form) : (form.template d s).Binds (form.bindings d s) := by
  have hwhere := s.binds_whereClause d
  cases form with
  | select => exact (Template.Binds.text_append _ hwhere).append_text _
  | get => exact (Template.Binds.text_append _ hwhere).append_text _
  | count =>
      change (s.countTemplate d).Binds _
      rw [countTemplate]
      split
      · exact Template.Binds.text_append _ hwhere
      · exact (Template.Binds.text_append _ hwhere).append_text _
  | sum column => exact Template.Binds.text_append _ hwhere
  | insert record => exact (Template.Binds.listed _ _).append_text ")"
  | update record =>
      refine s.binds_updateTemplate d ?_
      rw [List.map_eq_flatMap (f := fieldBinding d)]
      exact Template.Binds.join_map "," fun (field : String × Value) _ =>
        Template.Binds.marked _ field.2
  | assign =>
      refine s.binds_updateTemplate d ?_
      exact Template.Binds.join_map "," fun a _ => a.binds_template d
  | delete => exact Template.Binds.text_append _ hwhere

variable {d s}

section Inert

variable (hquote : isQuote d.quote = true)
include hquote

theorem inert_names {separator : String} (hseparator : Inert separator.toList)
    {names : List String} (hnames : ∀ text ∈ names.flatMap copiedName, Inert text.toList) :
    Inert (separator.intercalate (names.map d.quotePlain)).toList := by
  rw [String.toList_intercalate]
  apply Inert.intercalate hseparator
  intro text htext
  simp only [List.map_map, List.mem_map, Function.comp_apply] at htext
  obtain ⟨name, hname, rfl⟩ := htext
  exact Condition.inert_name hquote fun copy hcopy =>
    hnames copy (List.mem_flatMap.2 ⟨name, hname, hcopy⟩)

theorem inert_projection (h : ∀ text ∈ s.copiedProjection, Inert text.toList) :
    Inert (s.projection d).toList := by
  rw [copiedProjection] at h
  rw [projection]
  cases hselection : s.selection with
  | some selection =>
      rw [hselection] at h
      exact h selection List.mem_cons_self
  | none =>
      rw [hselection] at h
      dsimp only at h ⊢
      split
      · next hcolumns =>
          rw [if_pos hcolumns] at h
          exact inert_names hquote (by decide) h
      · next hcolumns =>
          rw [if_neg hcolumns] at h
          split
          · next hjoins =>
              rw [if_pos hjoins] at h
              rw [String.toList_intercalate]
              apply Inert.intercalate (by decide)
              intro text htext
              simp only [List.map_map, List.mem_map, Function.comp_apply] at htext
              obtain ⟨table, htable, rfl⟩ := htext
              exact (h _ (List.mem_map_of_mem htable)).concat (by decide)
          · decide

theorem inert_fromClause (h : ∀ text ∈ s.copiedSource, Inert text.toList) :
    Inert (s.fromClause d).toList := by
  obtain ⟨htable, hjoins⟩ := List.forall_mem_append.1 h
  have hlead : Inert (" FROM " ++ d.quotePlain s.table).toList :=
    Inert.concat (by decide) (Condition.inert_name hquote htable)
  rw [fromClause]
  apply hlead.concat
  rw [String.toList_join, List.flatMap_map]
  apply Inert.flatMap
  intro j hj
  obtain ⟨hname, hon⟩ := List.forall_mem_append.1 fun text htext =>
    hjoins text (List.mem_flatMap.2 ⟨j, hj, htext⟩)
  have hkeyword : Inert j.kind.keyword.toList := by
    cases j.kind <;> decide
  exact (((((Inert.concat (by decide) hkeyword).concat (by decide)).concat
    (Condition.inert_name hquote hname)).concat (by decide)).concat
    (hon j.on List.mem_cons_self))

theorem inert_whereClause (h : ∀ text ∈ Condition.copiedAll s.conditions, Inert text.toList) :
    (s.whereClause d).Inert := by
  have hwhere : (Fragment.optional (s.where? d)).Inert :=
    Condition.inert_fragments (by decide) fun c hc =>
      Condition.inert_fragment hquote c fun text htext =>
        h text (Condition.mem_copiedAll hc htext)
  rw [whereClause]
  cases hfragment : s.where? d with
  | none => exact Template.Inert.empty
  | some f =>
      rw [hfragment] at hwhere
      exact (Template.Inert.ofText (by decide)).append hwhere

theorem inert_groupClause (h : ∀ text ∈ s.groups.flatMap copiedName, Inert text.toList) :
    Inert (s.groupClause d).toList := by
  rw [groupClause]
  split
  · decide
  · exact Inert.concat (by decide) (inert_names hquote (by decide) h)

theorem inert_orderClause
    (h : ∀ text ∈ s.orders.flatMap fun o => copiedName o.field, Inert text.toList) :
    Inert (s.orderClause d).toList := by
  rw [orderClause]
  split
  · decide
  · apply Inert.concat (by decide)
    rw [String.toList_intercalate]
    apply Inert.intercalate (by decide)
    intro text htext
    simp only [List.map_map, List.mem_map, Function.comp_apply] at htext
    obtain ⟨o, ho, rfl⟩ := htext
    apply (Condition.inert_name hquote fun copy hcopy =>
      h copy (List.mem_flatMap.2 ⟨o, ho, hcopy⟩)).concat
    split <;> decide

theorem inert_selectTemplate (window : Option Window)
    (h : ∀ text ∈ Form.select.copied s, Inert text.toList) :
    (s.selectTemplate d window).Inert := by
  obtain ⟨hfront, hback⟩ := List.forall_mem_append.1 h
  obtain ⟨hread, hconditions⟩ := List.forall_mem_append.1 hfront
  obtain ⟨hprojection, hsource⟩ := List.forall_mem_append.1 hread
  obtain ⟨hgroups, horders⟩ := List.forall_mem_append.1 hback
  have hwindow : Inert (windowClause window).toList := by
    unfold windowClause
    split
    · split
      · apply Inert.concat (Inert.concat (by decide) (inert_intText _))
        split
        · exact Inert.concat (by decide) (inert_intText _)
        · decide
      · decide
    · decide
  exact ((Template.Inert.ofText ((Inert.concat (by decide)
    (inert_projection hquote hprojection)).concat (inert_fromClause hquote hsource))).append
    (inert_whereClause hquote hconditions)).append
    (Template.Inert.ofText (((inert_groupClause hquote hgroups).concat
      (inert_orderClause hquote horders)).concat hwindow))

theorem inert_updateTemplate {assignments : Template} (hassignments : assignments.Inert)
    (htable : ∀ text ∈ copiedName s.table, Inert text.toList)
    (hconditions : ∀ text ∈ Condition.copiedAll s.conditions, Inert text.toList) :
    (s.updateTemplate d assignments).Inert :=
  ((Template.Inert.ofText ((Inert.concat (by decide)
    (Condition.inert_name hquote htable)).concat (by decide))).append hassignments).append
    (inert_whereClause hquote hconditions)

/-- The template of a form is inert, if the texts that it copies are. -/
theorem Form.inert_template {form : Form} (h : ∀ text ∈ form.copied s, Inert text.toList) :
    (form.template d s).Inert := by
  cases form with
  | select => exact inert_selectTemplate hquote _ h
  | get => exact inert_selectTemplate hquote _ h
  | count =>
      obtain ⟨hfront, hgroups⟩ := List.forall_mem_append.1 h
      obtain ⟨hsource, hconditions⟩ := List.forall_mem_append.1 hfront
      have hwhere := inert_whereClause hquote hconditions
      have hfrom := inert_fromClause hquote hsource
      change (s.countTemplate d).Inert
      rw [countTemplate]
      split
      · exact (Template.Inert.ofText (Inert.concat (by decide) hfrom)).append hwhere
      · exact ((Template.Inert.ofText (Inert.concat (by decide) hfrom)).append hwhere).append
          (Template.Inert.ofText ((inert_groupClause hquote hgroups).concat (by decide)))
  | sum column =>
      obtain ⟨hfront, hconditions⟩ := List.forall_mem_append.1 h
      obtain ⟨hcolumn, hsource⟩ := List.forall_mem_append.1 hfront
      have hsum : Inert (sumExpression d column).toList := by
        have hinner : Inert ("COALESCE(SUM(" ++ d.quotePlain column ++ "),0)").toList :=
          (Inert.concat (by decide) (Condition.inert_name hquote hcolumn)).concat (by decide)
        rw [sumExpression]
        cases d.placeholder with
        | numbered => exact (Inert.concat (by decide) hinner).concat (by decide)
        | question => exact hinner
      exact (Template.Inert.ofText ((Inert.concat (by decide) hsum).concat
        (inert_fromClause hquote hsource))).append (inert_whereClause hquote hconditions)
  | insert record =>
      obtain ⟨htable, hcolumns⟩ := List.forall_mem_append.1 h
      have hlead : Inert ("INSERT INTO " ++ d.quotePlain s.table ++ " (" ++
          ",".intercalate (record.columns.map d.quotePlain) ++ ") VALUES (").toList :=
        (((Inert.concat (by decide) (Condition.inert_name hquote htable)).concat
          (by decide)).concat (inert_names hquote (by decide) hcolumns)).concat (by decide)
      exact ((Template.Inert.ofText hlead).append (Template.Inert.holes _)).append
        (Template.Inert.ofText (by decide))
  | update record =>
      obtain ⟨hfront, hconditions⟩ := List.forall_mem_append.1 h
      obtain ⟨htable, hcolumns⟩ := List.forall_mem_append.1 hfront
      apply inert_updateTemplate hquote _ htable hconditions
      apply Template.Inert.join (by decide)
      intro t ht
      obtain ⟨field, hfield, rfl⟩ := List.mem_map.1 ht
      have hcopied : ∀ text ∈ copiedField field.1, Inert text.toList := fun text htext =>
        hcolumns text (List.mem_flatMap.2 ⟨field.1, List.mem_map_of_mem hfield, htext⟩)
      exact (Template.Inert.ofText ((Condition.inert_field hquote hcopied).concat
        (by decide))).append (Template.Inert.hole field.2)
  | assign =>
      obtain ⟨hfront, hconditions⟩ := List.forall_mem_append.1 h
      obtain ⟨htable, hassignments⟩ := List.forall_mem_append.1 hfront
      apply inert_updateTemplate hquote _ htable hconditions
      apply Template.Inert.join (by decide)
      intro t ht
      obtain ⟨a, ha, rfl⟩ := List.mem_map.1 ht
      exact Assignment.inert_template hquote fun text htext =>
        hassignments text (List.mem_flatMap.2 ⟨a, ha, htext⟩)
  | delete =>
      obtain ⟨htable, hconditions⟩ := List.forall_mem_append.1 h
      exact (Template.Inert.ofText (Inert.concat (by decide)
        (Condition.inert_name hquote htable))).append (inert_whereClause hquote hconditions)

end Inert

end Statement

/-- The compiled text renders a text in which each binding, in their order, has written one
placeholder: the `i`-th binding the `i`-th placeholder outside quotes, behind its own text, which
the final text shows with its number. The values are those of the bindings. -/
structure Compiled.Aligned (c : Compiled) (d : Dialect) (assembled : String)
    (bs : List Binding) : Prop where
  rendered : c.sql = d.finish assembled
  count : countPlaceholders assembled = c.values.length
  values : c.values = bs.map Binding.value
  placed : ∀ i b, bs[i]? = some b → ∃ before after,
    assembled.toList = before ++ '?' :: after ∧
    quotationThrough none before = none ∧
    placeholdersFrom none before = i ∧
    b.lead.toList <:+ before ∧
    ∃ rest, c.sql.toList =
      (d.finish (String.ofList before)).toList ++ d.mark (i + 1) ++ rest

/-- An inert template and the bindings that write its slots compile to aligned text and values. -/
theorem Template.aligned_compile {t : Template} {bs : List Binding} (hbinds : t.Binds bs)
    (hinert : t.Inert) (d : Dialect) : (t.compile d).Aligned d t.sql bs where
  rendered := rfl
  count := countPlaceholders_sql hinert
  values := hbinds.values_eq
  placed := by
    intro i b hb
    obtain ⟨slot, hslot, hlead, -⟩ := Template.Binds.exists_slot hbinds hb
    obtain ⟨hquote, hcount, after, hafter⟩ := slotsFrom_spec hinert rfl hslot
    have hnumber : placeholdersFrom none slot.before = i := hcount.trans (Nat.zero_add i)
    have hsql : t.sql.toList = slot.before ++ '?' :: after := by
      rw [sql, String.toList_ofList]
      exact hafter
    obtain ⟨rest, hrest⟩ := d.toList_finish_mark hquote after
    rw [hnumber, ← hsql, String.ofList_toList] at hrest
    exact ⟨slot.before, after, hsql, hquote, hnumber, hlead, rest, hrest⟩

namespace Statement

/-- Placeholders and values of every compiled form agree, whatever conditions, assignments, records
and names it is made of. -/
theorem aligned_of_compile (d : Dialect) (hquote : isQuote d.quote = true) (s : Statement)
    (hraw : s.raw = none) (form : Form) (hcopied : ∀ text ∈ form.copied s, Inert text.toList)
    {c : Compiled} (hc : form.compile d s = .ok (some c)) :
    c.Aligned d (form.template d s).sql (form.bindings d s) := by
  rw [Form.eq_compile_template (fun _ => hraw) hc]
  exact Template.aligned_compile (form.binds_template d s) (Form.inert_template hquote hcopied) d

namespace AlignmentWitness

/-- An update with quotes and question marks in names and texts, and with conditions that say
nothing between those that bind. -/
def update : Statement where
  table := "order items"
  assignments :=
    [.value "na\"me?" (.int 1), .value "" .null, .expr "note" "'why?' || note",
      .value "o.total" (.int 2)]
  conditions :=
    [.any [.eq "" .null, .isIn "id" [], .not [.isIn "kind?" [.int 3, .int 4]],
        .raw "title = '?'"],
      .op "rank" " >= " (.int 5)]

/-- What the update compiles to. -/
def compiled : Compiled where
  sql := "UPDATE order items SET \"na\"\"me?\"=$1,\"note\"='why?' || note,o.total=$2" ++
    " WHERE (NOT (\"kind?\" IN ($3,$4)) OR (title = '?')) AND \"rank\" >= $5"
  values := [.int 1, .int 2, .int 3, .int 4, .int 5]

end AlignmentWitness

open AlignmentWitness in
theorem aligned_update : isQuote Dialect.postgres.quote = true ∧ update.raw = none ∧
    (∀ text ∈ Form.assign.copied update, Inert text.toList) ∧
    Form.assign.compile .postgres update = .ok (some compiled) ∧
    compiled.Aligned .postgres (Form.assign.template .postgres update).sql
      (Form.assign.bindings .postgres update) := by
  have hcopied : ∀ text ∈ Form.assign.copied update, Inert text.toList := by decide +kernel
  have hsql : ((Form.assign.template .postgres update).compile .postgres).sql = compiled.sql := by
    decide +kernel
  have hcompile : Form.assign.compile .postgres update = .ok (some compiled) :=
    congrArg (fun sql => Except.ok (some (Compiled.mk sql compiled.values))) hsql
  exact ⟨rfl, rfl, hcopied, hcompile,
    aligned_of_compile .postgres rfl update rfl .assign hcopied hcompile⟩

end Statement

end SqlPipeline
