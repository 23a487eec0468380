import SqlPipeline.Proofs.Placement

/-!
What conditions bind, and which texts of the caller they copy.

Both are listed beside the code that compiles a condition: one binding for each value, with the text
that its leaf puts in front of the placeholder, in depth-first order; and each text that stands in
the fragment as the caller wrote it. Main statements: the fragment of a condition binds what its
leaves bind, however deep they stand and whatever says nothing around them; and it is inert when the
texts that are copied into it are.
-/

namespace SqlPipeline

/-- The text of a name that is copied because it is not plain. -/
def copiedName (name : String) : List String :=
  if Dialect.isPlain name then [] else [name]

/-- The text of a field that is copied because it is qualified. -/
def copiedField (field : String) : List String :=
  if field.toList.contains '.' then [field] else []

namespace Condition

mutual

/-- The texts of the caller that are copied into the fragment of a condition. -/
def copied : Condition → List String
  | .eq field _ => if field.isEmpty then [] else copiedField field
  | .op field operator _ =>
    if field.isEmpty then [] else copiedField field ++ [trim operator]
  | .eqExpr field expr => if field.isEmpty then [] else copiedField field ++ [expr]
  | .opExpr field operator expr =>
    if field.isEmpty then [] else copiedField field ++ [trim operator, expr]
  | .isIn field values => if field.isEmpty || values.isEmpty then [] else copiedField field
  | .notIn field values => if field.isEmpty || values.isEmpty then [] else copiedField field
  | .raw sql => if isBlankText sql then [] else [sql]
  | .all children => copiedAll children
  | .any children => copiedAll children
  | .not children => copiedAll children

/-- The texts of the caller that are copied into the fragments of some conditions. -/
def copiedAll : List Condition → List String
  | [] => []
  | c :: rest => copied c ++ copiedAll rest

end

variable (d : Dialect)

/-- What a membership test binds. -/
def membershipBindings (field keyword : String) (values : List Value) : List Binding :=
  if field.isEmpty || values.isEmpty then []
  else listedBindings (d.quoteField field ++ " " ++ keyword ++ " (") values

mutual

/-- What the leaves of a condition bind, in depth-first order from left to right. -/
def bindings : Condition → List Binding
  | .eq field value => if field.isEmpty then [] else [⟨d.quoteField field ++ "=", value⟩]
  | .op field operator value =>
    if field.isEmpty then []
    else [⟨d.quoteField field ++ " " ++ trim operator ++ " ", value⟩]
  | .eqExpr _ _ => []
  | .opExpr _ _ _ => []
  | .isIn field values => membershipBindings d field "IN" values
  | .notIn field values => membershipBindings d field "NOT IN" values
  | .raw _ => []
  | .all children => bindingsAll children
  | .any children => bindingsAll children
  | .not children => bindingsAll children

/-- What the leaves of some conditions bind, from left to right. -/
def bindingsAll : List Condition → List Binding
  | [] => []
  | c :: rest => bindings c ++ bindingsAll rest

end

end Condition

namespace Fragment

/-- The template of a fragment, empty when there is none. -/
def optional : Option Fragment → Template
  | some f => f.template
  | none => .empty

theorem binds_grouped {f : Fragment} {bs : List Binding} (hf : f.template.Binds bs) :
    f.grouped.Binds bs := by
  rw [grouped]
  split
  · exact (Template.Binds.text_append "(" hf).append_text ")"
  · exact hf

theorem inert_grouped {f : Fragment} (hf : f.template.Inert) : f.grouped.Inert := by
  rw [grouped]
  split
  · exact ((Template.Inert.ofText (by decide)).append hf).append
      (Template.Inert.ofText (by decide))
  · exact hf

/-- Fragments under a connective bind what they bind one after the other. -/
theorem binds_combine (connective : String) {fs : List Fragment} {bss : List (List Binding)}
    (h : List.Forall₂ (fun f bs => f.template.Binds bs) fs bss) :
    (optional (combine connective fs)).Binds bss.flatten := by
  cases h with
  | nil => exact Template.Binds.empty
  | cons hf hrest =>
      cases hrest with
      | nil => simpa [combine, optional] using hf
      | cons hg hrest =>
          apply Template.Binds.join
          rw [List.forall₂_map_left_iff]
          exact .cons (binds_grouped hf) (.cons (binds_grouped hg)
            (hrest.imp fun _ _ => binds_grouped))

theorem inert_combine {connective : String} (hconnective : SqlPipeline.Inert connective.toList)
    {fs : List Fragment} (hfs : ∀ f ∈ fs, f.template.Inert) :
    (optional (combine connective fs)).Inert := by
  match fs, hfs with
  | [], _ => exact Template.Inert.empty
  | [f], hfs => exact hfs f List.mem_cons_self
  | f :: g :: rest, hfs =>
      apply Template.Inert.join hconnective
      intro t ht
      obtain ⟨k, hk, rfl⟩ := List.mem_map.1 ht
      exact inert_grouped (hfs k hk)

theorem binds_negated {f? : Option Fragment} {bs : List Binding} (h : (optional f?).Binds bs) :
    (optional (f?.map Condition.negated)).Binds bs := by
  cases f? with
  | none => exact h
  | some f => exact (Template.Binds.text_append "NOT (" h).append_text ")"

theorem inert_negated {f? : Option Fragment} (h : (optional f?).Inert) :
    (optional (f?.map Condition.negated)).Inert := by
  cases f? with
  | none => exact h
  | some f =>
      exact ((Template.Inert.ofText (by decide)).append h).append
        (Template.Inert.ofText (by decide))

end Fragment

namespace Condition

variable (d : Dialect)

/-- The fragments of conditions bind what the conditions bind, if each one's fragment does. -/
theorem binds_fragments (connective : String) {cs : List Condition}
    (hcs : ∀ c ∈ cs, (Fragment.optional (c.fragment? d)).Binds (c.bindings d)) :
    (Fragment.optional (Fragment.combine connective (fragments d cs))).Binds
      (bindingsAll d cs) := by
  have hsplit : ∃ bss, List.Forall₂ (fun f bs => f.template.Binds bs) (fragments d cs) bss ∧
      bss.flatten = bindingsAll d cs := by
    induction cs with
    | nil => exact ⟨[], List.Forall₂.nil, rfl⟩
    | cons c rest ih =>
        obtain ⟨bss, hbss, hflat⟩ := ih fun other hother =>
          hcs other (List.mem_cons_of_mem c hother)
        have hc := hcs c List.mem_cons_self
        rw [fragments, bindingsAll, ← hflat]
        cases hf : c.fragment? d with
        | none =>
            rw [hf] at hc
            have hnone : c.bindings d = [] := List.forall₂_nil_right_iff.1 hc
            exact ⟨bss, hbss, by rw [hnone, List.nil_append]⟩
        | some f =>
            rw [hf] at hc
            exact ⟨c.bindings d :: bss, List.Forall₂.cons hc hbss, List.flatten_cons⟩
  obtain ⟨bss, hbss, hflat⟩ := hsplit
  rw [← hflat]
  exact Fragment.binds_combine connective hbss

theorem binds_membership (field keyword : String) (values : List Value) :
    (Fragment.optional (membership? d field keyword values)).Binds
      (membershipBindings d field keyword values) := by
  rw [membership?, membershipBindings]
  split
  · exact Template.Binds.empty
  · exact (Template.Binds.listed _ values).append_text ")"

/-- The fragment of a condition binds what its leaves bind. -/
theorem binds_fragment (c : Condition) :
    (Fragment.optional (c.fragment? d)).Binds (c.bindings d) := by
  induction c using Condition.induction with
  | eq field value =>
      rw [fragment?, bindings]
      split
      · exact Template.Binds.empty
      · exact Template.Binds.marked _ value
  | op field operator value =>
      rw [fragment?, bindings]
      split
      · exact Template.Binds.empty
      · exact Template.Binds.marked _ value
  | eqExpr field expr =>
      rw [fragment?, bindings]
      split
      · exact Template.Binds.empty
      · exact Template.Binds.ofText _
  | opExpr field operator expr =>
      rw [fragment?, bindings]
      split
      · exact Template.Binds.empty
      · exact Template.Binds.ofText _
  | isIn field values => exact binds_membership d field "IN" values
  | notIn field values => exact binds_membership d field "NOT IN" values
  | raw sql =>
      rw [fragment?, bindings]
      split
      · exact Template.Binds.empty
      · exact Template.Binds.ofText _
  | all children ih => exact binds_fragments d " AND " ih
  | any children ih => exact binds_fragments d " OR " ih
  | not children ih => exact Fragment.binds_negated (binds_fragments d " AND " ih)

variable {d}

theorem mem_copiedAll {cs : List Condition} {c : Condition} (hc : c ∈ cs) {text : String}
    (htext : text ∈ c.copied) : text ∈ copiedAll cs := by
  induction cs with
  | nil => cases hc
  | cons head rest ih =>
      rw [copiedAll, List.mem_append]
      rcases List.mem_cons.1 hc with rfl | hrest
      · exact Or.inl htext
      · exact Or.inr (ih hrest)

theorem inert_field (hquote : isQuote d.quote = true) {field : String}
    (hfield : ∀ text ∈ copiedField field, Inert text.toList) :
    Inert (d.quoteField field).toList := by
  apply d.inert_quoteField hquote
  intro hdot
  exact hfield field (by rw [copiedField, if_pos hdot]; exact List.mem_cons_self)

theorem inert_name (hquote : isQuote d.quote = true) {name : String}
    (hname : ∀ text ∈ copiedName name, Inert text.toList) :
    Inert (d.quotePlain name).toList := by
  apply d.inert_quotePlain hquote
  intro hplain
  exact hname name (by simp [copiedName, hplain])

theorem inert_fragments {connective : String} (hconnective : Inert connective.toList)
    {cs : List Condition} (hcs : ∀ c ∈ cs, (Fragment.optional (c.fragment? d)).Inert) :
    (Fragment.optional (Fragment.combine connective (fragments d cs))).Inert := by
  apply Fragment.inert_combine hconnective
  intro f hf
  rw [fragments_eq_filterMap, List.mem_filterMap] at hf
  obtain ⟨c, hc, hfragment⟩ := hf
  have hinert := hcs c hc
  rwa [hfragment] at hinert

theorem inert_membership (hquote : isQuote d.quote = true) {field keyword : String}
    (hkeyword : Inert keyword.toList) {values : List Value}
    (hfield : ∀ text ∈ if field.isEmpty || values.isEmpty then [] else copiedField field,
      Inert text.toList) :
    (Fragment.optional (membership? d field keyword values)).Inert := by
  rw [membership?]
  split
  · exact Template.Inert.empty
  · next hshown =>
      rw [if_neg hshown] at hfield
      have hlead : Inert (d.quoteField field ++ " " ++ keyword ++ " (").toList :=
        (((inert_field hquote hfield).concat (by decide)).concat hkeyword).concat (by decide)
      exact ((Template.Inert.ofText hlead).append (Template.Inert.holes values)).append
        (Template.Inert.ofText (by decide))

/-- The fragment of a condition is inert, if the texts that are copied into it are. -/
theorem inert_fragment (hquote : isQuote d.quote = true) (c : Condition)
    (hc : ∀ text ∈ c.copied, Inert text.toList) :
    (Fragment.optional (c.fragment? d)).Inert := by
  induction c using Condition.induction with
  | eq field value =>
      rw [copied] at hc
      rw [fragment?]
      split
      · exact Template.Inert.empty
      · next hshown =>
          rw [if_neg hshown] at hc
          exact (Template.Inert.ofText ((inert_field hquote hc).concat (by decide))).append
            (Template.Inert.hole value)
  | op field operator value =>
      rw [copied] at hc
      rw [fragment?]
      split
      · exact Template.Inert.empty
      · next hshown =>
          rw [if_neg hshown] at hc
          obtain ⟨hfield, hoperator⟩ := List.forall_mem_append.1 hc
          have htext := hoperator (trim operator) List.mem_cons_self
          exact (Template.Inert.ofText ((((inert_field hquote hfield).concat
            (by decide)).concat htext).concat (by decide))).append (Template.Inert.hole value)
  | eqExpr field expr =>
      rw [copied] at hc
      rw [fragment?]
      split
      · exact Template.Inert.empty
      · next hshown =>
          rw [if_neg hshown] at hc
          obtain ⟨hfield, hexpr⟩ := List.forall_mem_append.1 hc
          have htext := hexpr expr List.mem_cons_self
          exact Template.Inert.ofText
            (((inert_field hquote hfield).concat (by decide)).concat htext)
  | opExpr field operator expr =>
      rw [copied] at hc
      rw [fragment?]
      split
      · exact Template.Inert.empty
      · next hshown =>
          rw [if_neg hshown] at hc
          obtain ⟨hfield, hrest⟩ := List.forall_mem_append.1 hc
          obtain ⟨htext, hexpr⟩ := List.forall_mem_cons.1 hrest
          exact Template.Inert.ofText (((((inert_field hquote hfield).concat
            (by decide)).concat htext).concat (by decide)).concat
            (hexpr expr List.mem_cons_self))
  | isIn field values => exact inert_membership hquote (by decide) hc
  | notIn field values => exact inert_membership hquote (by decide) hc
  | raw sql =>
      rw [copied] at hc
      rw [fragment?]
      split
      · exact Template.Inert.empty
      · next hshown =>
          rw [if_neg hshown] at hc
          exact Template.Inert.ofText (hc sql List.mem_cons_self)
  | all children ih =>
      exact inert_fragments (by decide) fun c hchild =>
        ih c hchild fun text htext => hc text (mem_copiedAll hchild htext)
  | any children ih =>
      exact inert_fragments (by decide) fun c hchild =>
        ih c hchild fun text htext => hc text (mem_copiedAll hchild htext)
  | not children ih =>
      exact Fragment.inert_negated (inert_fragments (by decide) fun c hchild =>
        ih c hchild fun text htext => hc text (mem_copiedAll hchild htext))

end Condition

end SqlPipeline
