import SqlPipeline.Proofs.Boolean.Grammar
import SqlPipeline.Proofs.Quotation

/-!
Boolean expressions whose placeholders are numbered.

A placeholder has the same part in an expression as a question mark and as a number. Main statement:
a text and the text with its placeholders numbered, wherever the scan for them begins, are read as
formulas with the same predicates in the same places.
-/

namespace SqlPipeline

/-- What the token is, without the characters of a text. -/
def Token.kind : Token → Token
  | .text _ => .text []
  | t => t

theorem Token.kind_eq_iff {t u : Token} (ht : t.isText = false) : u.kind = t.kind ↔ u = t := by
  cases t <;> cases u <;> simp_all [kind, isText]

namespace Lexing

/-- The characters hold a placeholder, as a question mark or as a number. -/
def Marked (cs : List Char) : Prop :=
  '?' ∈ cs ∨ '$' ∈ cs

/-- The scan stands in a quotation. -/
def isQuoted : Lexing → Bool
  | .quoted _ _ => true
  | _ => false

/-- Scans that stand in the same place, except for the text of a word with a placeholder or of a
quotation. -/
inductive Alike : Lexing → Lexing → Prop
  | same {st} (h : st.isQuoted = false) : Alike st st
  | word {cs cs'} (h : Marked cs) (h' : Marked cs') : Alike (.word cs) (.word cs')
  | quoted {q cs cs'} (hq : isMark q = false) : Alike (.quoted q cs) (.quoted q cs')

/-- Scans that stand in the same place behind a placeholder. -/
inductive Held : Lexing → Lexing → Prop
  | word {cs cs'} (h : Marked cs) (h' : Marked cs') : Held (.word cs) (.word cs')
  | quoted {q cs cs'} (hq : isMark q = false) : Held (.quoted q cs) (.quoted q cs')
  | lineComment : Held .lineComment .lineComment
  | blockComment : Held .blockComment .blockComment

theorem Held.alike {st st' : Lexing} (h : Held st st') : Alike st st' := by
  cases h with
  | word h h' => exact .word h h'
  | quoted hq => exact .quoted hq
  | lineComment => exact .same rfl
  | blockComment => exact .same rfl

/-- A word with a placeholder is no keyword. -/
theorem isText_wordToken {cs : List Char} (h : Marked cs) : (wordToken cs).isText = true := by
  have hmem : '?' ∈ cs.map Char.toLower ∨ '$' ∈ cs.map Char.toLower :=
    h.imp (fun h => List.mem_map.2 ⟨_, h, by decide⟩) fun h => List.mem_map.2 ⟨_, h, by decide⟩
  rw [wordToken]
  split <;> first | rfl | simp_all

variable (d : Dialect)

theorem start_alike (c : Char) : Alike (start d c).2 (start d c).2 := by
  unfold start
  split
  · exact .same rfl
  · split
    · exact .same rfl
    · split
      · exact .same rfl
      · split
        · exact .same rfl
        · split
          · next hopens =>
              refine .quoted ?_
              rw [Dialect.opens, Bool.or_eq_true, Bool.and_eq_true, Bool.not_eq_true'] at hopens
              rcases hopens with hquote | hname
              · simp only [isQuote, Bool.or_eq_true, beq_iff_eq] at hquote
                rcases hquote with (rfl | rfl) | rfl <;> decide
              · exact hname.2
          · split
            · exact .same rfl
            · split <;> exact .same rfl

theorem kind_wordToken {cs : List Char} (h : Marked cs) : (wordToken cs).kind = .text [] := by
  have htext := isText_wordToken h
  cases hw : wordToken cs <;> rw [hw] at htext <;> first | rfl | cases htext

theorem flush_alike {st st' : Lexing} (h : Alike st st') :
    st.flush.map Token.kind = st'.flush.map Token.kind := by
  cases h with
  | same _ => rfl
  | word h h' => rw [flush, flush, List.map_singleton, List.map_singleton, kind_wordToken h,
      kind_wordToken h']
  | quoted _ => rfl

/-- The same character leads scans that stand in the same place to the same place. -/
theorem step_alike {st st' : Lexing} (h : Alike st st') (c : Char) :
    (st.step d c).1.map Token.kind = (st'.step d c).1.map Token.kind ∧
      Alike (st.step d c).2 (st'.step d c).2 := by
  cases h with
  | same h =>
      refine ⟨rfl, ?_⟩
      cases st <;> rw [step]
      · exact start_alike d c
      · split
        · exact .same rfl
        · exact start_alike d c
      · cases h
      · split
        · exact .same rfl
        · exact start_alike d c
      · split
        · exact .same rfl
        · exact start_alike d c
      · split <;> exact .same rfl
      · split <;> exact .same rfl
      · split
        · exact .same rfl
        · split <;> exact .same rfl
  | word h h' =>
      rw [step, step]
      split
      · exact ⟨rfl, .word (h.imp (List.mem_append_left _) (List.mem_append_left _))
          (h'.imp (List.mem_append_left _) (List.mem_append_left _))⟩
      · refine ⟨?_, start_alike d c⟩
        rw [restart, restart, List.map_append, List.map_append, List.map_singleton,
          List.map_singleton, kind_wordToken h, kind_wordToken h']
  | quoted hq =>
      rw [step, step]
      split
      · exact ⟨rfl, .same rfl⟩
      · exact ⟨rfl, .quoted hq⟩

/-- A question mark and a dollar sign lead scans that stand in the same place to the same place. -/
theorem step_mark {st st' : Lexing} (h : Alike st st') :
    (st.step d '?').1.map Token.kind = (st'.step d '$').1.map Token.kind ∧
      Held (st.step d '?').2 (st'.step d '$').2 := by
  have hmark : Marked ['?'] := .inl (by decide)
  have hsign : Marked ['$'] := .inr (by decide)
  cases h with
  | same h =>
      cases st with
      | free => exact ⟨rfl, .word hmark hsign⟩
      | word cs => exact ⟨rfl, .word (.inl (by simp)) (.inr (by simp))⟩
      | quoted q cs => cases h
      | dash => exact ⟨rfl, .word hmark hsign⟩
      | slash => exact ⟨rfl, .word hmark hsign⟩
      | lineComment => exact ⟨rfl, .lineComment⟩
      | blockComment => exact ⟨rfl, .blockComment⟩
      | blockStar => exact ⟨rfl, .blockComment⟩
  | word h h' => exact ⟨rfl, .word (.inl (by simp)) (.inr (by simp))⟩
  | quoted hq =>
      have hne : ∀ c, isMark c = true → c ≠ _ := fun c hc heq => by
        rw [heq, hq] at hc
        cases hc
      rw [step, step, if_neg (hne '?' (by decide)), if_neg (hne '$' (by decide))]
      exact ⟨rfl, .quoted hq⟩

/-- A digit leaves a scan behind a placeholder. -/
theorem step_digit {st st' : Lexing} (h : Held st st') {c : Char} (hc : c.isDigit = true) :
    (st'.step d c).1 = [] ∧ Held st (st'.step d c).2 := by
  have hword : isWordChar c = true := by simp [isWordChar, Char.isAlphanum, hc]
  have hmark : isMark c = true := by simp [isMark, hword]
  have hne : ∀ {q : Char}, q.isDigit = false → c ≠ q := by
    rintro q hq rfl
    exact Bool.false_ne_true (hq.symm.trans hc)
  cases h with
  | word h h' =>
      rw [step, if_pos hword]
      exact ⟨rfl, .word h (h'.imp (List.mem_append_left _) (List.mem_append_left _))⟩
  | @quoted q cs cs' hq =>
      have hquote : c ≠ q := by
        rintro rfl
        exact Bool.false_ne_true (hq.symm.trans hmark)
      rw [step, if_neg hquote]
      exact ⟨rfl, .quoted hq⟩
  | lineComment =>
      rw [step, if_neg (hne (by decide))]
      exact ⟨rfl, .lineComment⟩
  | blockComment =>
      rw [step, if_neg (hne (by decide))]
      exact ⟨rfl, .blockComment⟩

theorem tokensFrom_digits {st st' : Lexing} (h : Held st st') {digits : List Char}
    (hdigits : ∀ c ∈ digits, c.isDigit = true) (cs : List Char) :
    ∃ st'', Held st st'' ∧ d.tokensFrom st' (digits ++ cs) = d.tokensFrom st'' cs := by
  induction digits generalizing st' with
  | nil => exact ⟨st', h, rfl⟩
  | cons c rest ih =>
      obtain ⟨hnone, hheld⟩ := step_digit d h (hdigits c List.mem_cons_self)
      obtain ⟨st'', hst'', heq⟩ := ih hheld fun b hb => hdigits b (List.mem_cons_of_mem c hb)
      refine ⟨st'', hst'', ?_⟩
      rw [List.cons_append, Dialect.tokensFrom, hnone, List.nil_append]
      exact heq

/-- Numbering the placeholders of a text changes no token but texts. -/
theorem kinds_numberFrom {st st' : Lexing} (h : Alike st st') (open? : Option Char) (count : Nat)
    (cs : List Char) :
    (d.tokensFrom st' (numberFrom open? count cs)).map Token.kind =
      (d.tokensFrom st cs).map Token.kind := by
  induction cs generalizing st st' open? count with
  | nil => exact (flush_alike h).symm
  | cons c cs ih =>
      rw [numberFrom]
      split
      · next hplaceholder =>
          have hc : c = '?' := by
            rw [isPlaceholder, Bool.and_eq_true, beq_iff_eq] at hplaceholder
            exact hplaceholder.2
          subst hc
          obtain ⟨hkinds, hheld⟩ := step_mark d h
          have hdigits : ∀ c ∈ natDigits (count + 1), c.isDigit = true := fun c hc =>
            Nat.isDigit_of_mem_toDigits (by decide) (by decide) hc
          obtain ⟨st'', hst'', heq⟩ := tokensFrom_digits d hheld hdigits
            (numberFrom open? (count + 1) cs)
          rw [List.cons_append, Dialect.tokensFrom, Dialect.tokensFrom, List.map_append,
            List.map_append, heq, hkinds, ih hst''.alike]
      · obtain ⟨hkinds, halike⟩ := step_alike d h c
        rw [Dialect.tokensFrom, Dialect.tokensFrom, List.map_append, List.map_append, hkinds,
          ih halike]

end Lexing

section Kinds

variable {ts ts' : List Token}

theorem after_kind (n? : Option Nesting) {t t' : Token} (h : t'.kind = t.kind) :
    n?.bind (·.after t') = n?.bind (·.after t) := by
  cases n? with
  | none => rfl
  | some n =>
      cases t <;> cases t' <;> first | rfl | cases h

theorem through_kinds (h : ts'.map Token.kind = ts.map Token.kind) (n? : Option Nesting) :
    Nesting.through n? ts' = Nesting.through n? ts := by
  induction ts generalizing ts' n? with
  | nil =>
      rw [List.map_eq_nil_iff.1 h]
  | cons t ts ih =>
      obtain ⟨t', rest, rfl, ht, hrest⟩ := List.map_eq_cons_iff.1 h
      rw [Nesting.through, Nesting.through, after_kind n? ht]
      exact ih hrest _

theorem splitLast_kinds (h : ts'.map Token.kind = ts.map Token.kind) {t : Token}
    (ht : t.isText = false) {n? : Option Nesting} (hnone : splitLast t n? ts = none) :
    splitLast t n? ts' = none := by
  induction ts generalizing ts' n? with
  | nil =>
      rw [List.map_eq_nil_iff.1 h]
      rfl
  | cons x xs ih =>
      obtain ⟨x', rest, rfl, hx, hrest⟩ := List.map_eq_cons_iff.1 h
      rw [splitLast_cons_eq_none] at hnone ⊢
      refine ⟨after_kind n? hx ▸ ih hrest hnone.1, fun heq => hnone.2 ⟨?_, heq.2⟩⟩
      rw [heq.1] at hx
      exact (Token.kind_eq_iff ht).1 hx.symm

theorem eq_group_of_kinds
    (h : ts'.map Token.kind = (Token.openParen :: (ts ++ [.closeParen])).map Token.kind) :
    ∃ us, ts' = .openParen :: (us ++ [.closeParen]) ∧ us.map Token.kind = ts.map Token.kind := by
  obtain ⟨t, rest, rfl, ht, hrest⟩ := List.map_eq_cons_iff.1 h
  rw [List.map_append] at hrest
  obtain ⟨us, vs, rfl, hus, hvs⟩ := List.map_eq_append_iff.1 hrest
  obtain ⟨v, ws, rfl, hv, hws⟩ := List.map_eq_cons_iff.1 hvs
  cases List.map_eq_nil_iff.1 hws
  rw [(Token.kind_eq_iff rfl).1 ht, (Token.kind_eq_iff rfl).1 hv]
  exact ⟨us, rfl, hus⟩

theorem eq_append_of_kinds {t : Token} (ht : t.isText = false) {us : List Token}
    (h : ts'.map Token.kind = (ts ++ t :: us).map Token.kind) :
    ∃ ts₁ us₁, ts' = ts₁ ++ t :: us₁ ∧ ts₁.map Token.kind = ts.map Token.kind ∧
      us₁.map Token.kind = us.map Token.kind := by
  rw [List.map_append] at h
  obtain ⟨ts₁, rest, rfl, hts, hrest⟩ := List.map_eq_append_iff.1 h
  obtain ⟨u, us₁, rfl, hu, hus⟩ := List.map_eq_cons_iff.1 hrest
  rw [(Token.kind_eq_iff ht).1 hu]
  exact ⟨ts₁, us₁, rfl, hts, hus⟩

theorem IsPredicate.of_kinds (h : ts'.map Token.kind = ts.map Token.kind)
    (hts : IsPredicate ts) : IsPredicate ts' where
  nonempty := by
    rintro rfl
    exact hts.nonempty (List.map_eq_nil_iff.1 h.symm)
  positive := by
    intro hnot
    have hhead : ts.head?.map Token.kind = some .not := by
      rw [← List.head?_map, ← h, List.head?_map, hnot]
      rfl
    obtain ⟨t, ht, hkind⟩ := Option.map_eq_some_iff.1 hhead
    exact hts.positive (ht.trans (congrArg some ((Token.kind_eq_iff rfl).1 hkind)))
  balanced := (through_kinds h _).trans hts.balanced
  noOr := splitLast_kinds h rfl hts.noOr
  noAnd := splitLast_kinds h rfl hts.noAnd
  open? := by
    cases hopen : enclosed? ts' with
    | none => rfl
    | some inner =>
        obtain ⟨rfl, hinner⟩ := enclosed_eq_some_iff.1 hopen
        obtain ⟨us, rfl, hus⟩ := eq_group_of_kinds h.symm
        have hgroup := enclosed_eq_some_iff.2 ⟨rfl, (through_kinds hus _).trans hinner⟩
        exact absurd (hts.open?.symm.trans hgroup) nofun

/-- What is read as a formula is read as one with the same predicates in the same places, whatever
its texts are. -/
theorem Reads.of_kinds {level : Level} {f : Formula} (hreads : Reads level ts f)
    (h : ts'.map Token.kind = ts.map Token.kind) :
    ∃ f', Reads level ts' f' ∧ f'.size = f.size ∧ ∀ (ρ : Nat → Bool) n,
      f'.truth (fun k _ => ρ k) n = f.truth (fun k _ => ρ k) n := by
  induction hreads generalizing ts' with
  | or _ _ ihl ihr =>
      obtain ⟨l, r, rfl, hl, hr⟩ := eq_append_of_kinds rfl h
      obtain ⟨f₁, hf₁, hsize₁, htruth₁⟩ := ihl hl
      obtain ⟨f₂, hf₂, hsize₂, htruth₂⟩ := ihr hr
      refine ⟨.or f₁ f₂, .or hf₁ hf₂, ?_, ?_⟩
      · rw [Formula.size, Formula.size, hsize₁, hsize₂]
      · intro ρ n
        rw [Formula.truth, Formula.truth, htruth₁, htruth₂, hsize₁]
  | and _ _ ihl ihr =>
      obtain ⟨l, r, rfl, hl, hr⟩ := eq_append_of_kinds rfl h
      obtain ⟨f₁, hf₁, hsize₁, htruth₁⟩ := ihl hl
      obtain ⟨f₂, hf₂, hsize₂, htruth₂⟩ := ihr hr
      refine ⟨.and f₁ f₂, .and hf₁ hf₂, ?_, ?_⟩
      · rw [Formula.size, Formula.size, hsize₁, hsize₂]
      · intro ρ n
        rw [Formula.truth, Formula.truth, htruth₁, htruth₂, hsize₁]
  | disjunction _ ih =>
      obtain ⟨f', hf', halike⟩ := ih h
      exact ⟨f', .disjunction hf', halike⟩
  | conjunction _ ih =>
      obtain ⟨f', hf', halike⟩ := ih h
      exact ⟨f', .conjunction hf', halike⟩
  | not _ ih =>
      obtain ⟨t, us, rfl, ht, hus⟩ := List.map_eq_cons_iff.1 h
      cases (Token.kind_eq_iff rfl).1 ht
      obtain ⟨f', hf', hsize, htruth⟩ := ih hus
      refine ⟨.not f', .not hf', hsize, ?_⟩
      intro ρ n
      rw [Formula.truth, Formula.truth, htruth]
  | group _ ih =>
      obtain ⟨us, rfl, hus⟩ := eq_group_of_kinds h
      obtain ⟨f', hf', halike⟩ := ih hus
      exact ⟨f', .group hf', halike⟩
  | predicate hts => exact ⟨_, .predicate (hts.of_kinds h), rfl, fun _ _ => rfl⟩

end Kinds

end SqlPipeline
