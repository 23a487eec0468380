import SqlPipeline.Dialect

/-!
Scanning SQL text for quotations.

A text is inert when it closes every quotation that it opens and has no placeholder, so that a scan
goes on after it as if it were not there. Main statements: scanning two texts in a row is scanning
the second in the quotation in which the first ends; inert texts add up to inert texts; a name
between quotes is inert, whatever characters it holds.
-/

namespace SqlPipeline

/-- The quotation in which a text goes on after some characters. -/
def quotationThrough (open? : Option Char) (cs : List Char) : Option Char :=
  cs.foldl quotationAfter open?

@[simp] theorem quotationThrough_nil (open? : Option Char) :
    quotationThrough open? [] = open? := rfl

@[simp] theorem quotationThrough_cons (open? : Option Char) (c : Char) (cs : List Char) :
    quotationThrough open? (c :: cs) = quotationThrough (quotationAfter open? c) cs := rfl

@[simp] theorem quotationThrough_append (open? : Option Char) (xs ys : List Char) :
    quotationThrough open? (xs ++ ys) =
      quotationThrough (quotationThrough open? xs) ys := by
  simp [quotationThrough]

theorem ne_mark_of_isQuote {c : Char} (hquote : isQuote c = true) : c ≠ '?' := by
  rintro rfl
  exact absurd hquote (by decide)

/-- A placeholder opens and closes nothing. -/
theorem quotationAfter_of_isPlaceholder {open? : Option Char} {c : Char}
    (hmark : isPlaceholder open? c = true) : quotationAfter open? c = open? := by
  cases open? with
  | some q => simp [isPlaceholder] at hmark
  | none =>
      have hc : c = '?' := by simpa [isPlaceholder] using hmark
      subst hc
      decide

theorem placeholdersFrom_append (open? : Option Char) (xs ys : List Char) :
    placeholdersFrom open? (xs ++ ys) =
      placeholdersFrom open? xs + placeholdersFrom (quotationThrough open? xs) ys := by
  induction xs generalizing open? with
  | nil => simp [placeholdersFrom]
  | cons c cs ih =>
      by_cases hmark : isPlaceholder open? c = true
      · simp only [List.cons_append, placeholdersFrom, hmark, if_true, ih,
          quotationThrough_cons, quotationAfter_of_isPlaceholder hmark]
        omega
      · simp only [List.cons_append, placeholdersFrom, hmark, ih,
          quotationThrough_cons]
        rfl

theorem placeholdersFrom_of_not_mem {cs : List Char} (h : '?' ∉ cs) (open? : Option Char) :
    placeholdersFrom open? cs = 0 := by
  induction cs generalizing open? with
  | nil => rfl
  | cons c cs ih =>
      rw [List.mem_cons, not_or] at h
      have hmark : isPlaceholder open? c = false := by
        simp [isPlaceholder, Ne.symm h.1]
      rw [placeholdersFrom, hmark, if_neg Bool.false_ne_true, ih h.2]

theorem numberFrom_append (open? : Option Char) (count : Nat) (xs ys : List Char) :
    numberFrom open? count (xs ++ ys) = numberFrom open? count xs ++
      numberFrom (quotationThrough open? xs) (count + placeholdersFrom open? xs) ys := by
  induction xs generalizing open? count with
  | nil => simp [placeholdersFrom, numberFrom]
  | cons c cs ih =>
      by_cases hmark : isPlaceholder open? c = true
      · simp only [List.cons_append, numberFrom, placeholdersFrom, hmark, if_true, ih,
          quotationThrough_cons, quotationAfter_of_isPlaceholder hmark,
          List.append_assoc, Nat.add_assoc, Nat.add_comm 1]
      · simp only [List.cons_append, numberFrom, placeholdersFrom, hmark, ih,
          quotationThrough_cons]
        rfl

/-- Where there are no placeholders there is nothing to number. -/
theorem numberFrom_of_unmarked {open? : Option Char} {cs : List Char}
    (h : placeholdersFrom open? cs = 0) (count : Nat) : numberFrom open? count cs = cs := by
  induction cs generalizing open? with
  | nil => rfl
  | cons c cs ih =>
      rw [placeholdersFrom] at h
      by_cases hmark : isPlaceholder open? c = true
      · simp [hmark] at h
      · rw [if_neg hmark] at h
        rw [numberFrom, if_neg hmark, ih h]

/-- A quotation in which a text ends that begins outside quotes has been opened by a quote. -/
theorem isQuote_of_quotationThrough {cs : List Char} {q : Char}
    (h : quotationThrough none cs = some q) : isQuote q = true := by
  have hopened : ∀ open? : Option Char, (∀ c ∈ open?, isQuote c = true) →
      ∀ c ∈ quotationThrough open? cs, isQuote c = true := by
    clear h
    induction cs with
    | nil => simp
    | cons c cs ih =>
        intro open? hopen
        apply ih
        intro after hafter
        cases open? with
        | none =>
            by_cases hc : isQuote c = true
            · obtain rfl : c = after := by simpa [quotationAfter, hc] using hafter
              exact hc
            · simp [quotationAfter, hc] at hafter
        | some q =>
            by_cases hc : c = q
            · simp [quotationAfter, hc] at hafter
            · obtain rfl : q = after := by simpa [quotationAfter, hc] using hafter
              exact hopen q rfl
  exact hopened none (by simp) q h

/-- In a quotation that stays open nothing is a placeholder. -/
theorem placeholdersFrom_of_open {q : Char} {cs : List Char} (h : q ∉ cs) :
    placeholdersFrom (some q) cs = 0 := by
  induction cs with
  | nil => rfl
  | cons c cs ih =>
      rw [List.mem_cons, not_or] at h
      simp [placeholdersFrom, isPlaceholder, quotationAfter, Ne.symm h.1, ih h.2]

/-- The text closes every quotation that it opens and has no placeholder. -/
structure Inert (cs : List Char) : Prop where
  closed : quotationThrough none cs = none
  unmarked : placeholdersFrom none cs = 0

instance (cs : List Char) : Decidable (Inert cs) :=
  decidable_of_iff (quotationThrough none cs = none ∧ placeholdersFrom none cs = 0)
    ⟨fun h => ⟨h.1, h.2⟩, fun h => ⟨h.closed, h.unmarked⟩⟩

namespace Inert

theorem nil : Inert [] := ⟨rfl, rfl⟩

theorem append {xs ys : List Char} (hxs : Inert xs) (hys : Inert ys) : Inert (xs ++ ys) where
  closed := by rw [quotationThrough_append, hxs.closed, hys.closed]
  unmarked := by
    rw [placeholdersFrom_append, hxs.closed, hxs.unmarked, hys.unmarked]

theorem concat {s t : String} (hs : Inert s.toList) (ht : Inert t.toList) :
    Inert (s ++ t).toList := by
  rw [String.toList_append]
  exact hs.append ht

theorem flatMap {α : Type} {f : α → List Char} {items : List α}
    (hitems : ∀ item ∈ items, Inert (f item)) : Inert (items.flatMap f) := by
  induction items with
  | nil => exact nil
  | cons item rest ih =>
      rw [List.flatMap_cons]
      exact (hitems item List.mem_cons_self).append
        (ih fun other hother => hitems other (List.mem_cons_of_mem item hother))

theorem intercalate {separator : List Char} {texts : List (List Char)}
    (hseparator : Inert separator) (htexts : ∀ text ∈ texts, Inert text) :
    Inert (separator.intercalate texts) := by
  induction texts with
  | nil => exact nil
  | cons text rest ih =>
      have htext := htexts text List.mem_cons_self
      have hrest := ih fun other hother => htexts other (List.mem_cons_of_mem text hother)
      cases rest with
      | nil => simpa using htext
      | cons next rest =>
          rw [List.intercalate_cons_cons]
          exact (htext.append hseparator).append hrest

/-- Characters that are neither quotes nor question marks leave a scan as it is. -/
theorem of_all {cs : List Char} (hcs : ∀ c ∈ cs, isQuote c = false ∧ c ≠ '?') : Inert cs := by
  induction cs with
  | nil => exact nil
  | cons c cs ih =>
      obtain ⟨hquote, hmark⟩ := hcs c List.mem_cons_self
      have hrest := ih fun other hother => hcs other (List.mem_cons_of_mem c hother)
      have hc : Inert [c] := by
        constructor <;> simp [quotationAfter, placeholdersFrom, isPlaceholder, hquote, hmark]
      exact hc.append hrest

end Inert

/-- The digits of a number hold neither quotes nor question marks. -/
theorem inert_natDigits (n : Nat) : Inert (natDigits n) := by
  apply Inert.of_all
  intro c hc
  have hdigit : c.isDigit = true := Nat.isDigit_of_mem_toDigits (by decide) (by decide) hc
  constructor
  · cases hquote : isQuote c with
    | false => rfl
    | true =>
        simp only [isQuote, Bool.or_eq_true, beq_iff_eq] at hquote
        rcases hquote with (rfl | rfl) | rfl <;> exact absurd hdigit (by decide)
  · rintro rfl
    exact absurd hdigit (by decide)

theorem inert_intText (i : Int) : Inert (intText i).toList := by
  have hsign : Inert ['-'] := by decide
  rw [intText, String.toList_ofList, intDigits]
  split
  · exact hsign.append (inert_natDigits i.natAbs)
  · exact inert_natDigits i.natAbs

namespace Dialect

variable (d : Dialect)

theorem mem_doubled {c : Char} {name : List Char} : c ∈ d.doubled name ↔ c ∈ name := by
  rw [doubled, List.mem_flatMap]
  constructor
  · rintro ⟨a, ha, hc⟩
    by_cases hquote : a = d.quote
    · simp_all
    · simp_all
  · intro hc
    refine ⟨c, hc, ?_⟩
    split <;> simp

/-- Inside a quoted name a scan stays there: a doubled quote closes the quotation and opens it
again. -/
theorem quotationThrough_doubled (hquote : isQuote d.quote = true) (name : List Char) :
    quotationThrough (some d.quote) (d.doubled name) = some d.quote := by
  induction name with
  | nil => rfl
  | cons c cs ih =>
      by_cases hc : c = d.quote
      · simp_all [doubled, quotationAfter]
      · simp_all [doubled, quotationAfter]

theorem placeholdersFrom_doubled (hquote : isQuote d.quote = true) (name : List Char) :
    placeholdersFrom (some d.quote) (d.doubled name) = 0 := by
  have hmark := ne_mark_of_isQuote hquote
  induction name with
  | nil => rfl
  | cons c cs ih =>
      by_cases hc : c = d.quote
      · simp_all [doubled, placeholdersFrom, isPlaceholder, quotationAfter]
      · simp_all [doubled, placeholdersFrom, isPlaceholder, quotationAfter]

/-- A name between quotes is inert, also when it holds quotes or question marks. -/
theorem inert_wrap (hquote : isQuote d.quote = true) (name : String) :
    Inert (d.wrap name).toList := by
  have hopen : quotationThrough none [d.quote] = some d.quote := by
    simp [quotationAfter, hquote]
  have hunmarked : placeholdersFrom none [d.quote] = 0 := by
    simp [placeholdersFrom, isPlaceholder, ne_mark_of_isQuote hquote]
  rw [wrap, String.toList_ofList, ← List.singleton_append]
  constructor
  · rw [quotationThrough_append, quotationThrough_append, hopen,
      quotationThrough_doubled d hquote]
    simp [quotationAfter]
  · rw [placeholdersFrom_append, placeholdersFrom_append, quotationThrough_append, hopen,
      quotationThrough_doubled d hquote, placeholdersFrom_doubled d hquote, hunmarked]
    simp [placeholdersFrom, isPlaceholder]

/-- A field is inert as it is written, if it is inert where it is copied. -/
theorem inert_quoteField (hquote : isQuote d.quote = true) {field : String}
    (hfield : field.toList.contains '.' = true → Inert field.toList) :
    Inert (d.quoteField field).toList := by
  rw [quoteField]
  split
  · exact hfield ‹_›
  · exact d.inert_wrap hquote field

/-- A table or a column is inert as it is written, if it is inert where it is copied. -/
theorem inert_quotePlain (hquote : isQuote d.quote = true) {name : String}
    (hname : isPlain name = false → Inert name.toList) :
    Inert (d.quotePlain name).toList := by
  rw [quotePlain]
  split
  · exact d.inert_wrap hquote name
  · exact hname (by simpa using ‹¬ isPlain name = true›)

/-- The text in the form of the dialect, behind a text that ends in the given quotation and has the
given number of placeholders. -/
def finishFrom (open? : Option Char) (count : Nat) (cs : List Char) : List Char :=
  match d.placeholder with
  | .question => cs
  | .numbered => numberFrom open? count cs

theorem toList_finish (cs : List Char) :
    (d.finish (String.ofList cs)).toList = d.finishFrom none 0 cs := by
  rw [finish, finishFrom]
  cases d.placeholder with
  | question => exact String.toList_ofList
  | numbered =>
      change (String.ofList _).toList = _
      rw [String.toList_ofList, String.toList_ofList]

theorem finishFrom_append (open? : Option Char) (count : Nat) (xs ys : List Char) :
    d.finishFrom open? count (xs ++ ys) = d.finishFrom open? count xs ++
      d.finishFrom (quotationThrough open? xs) (count + placeholdersFrom open? xs) ys := by
  rw [finishFrom, finishFrom, finishFrom]
  cases d.placeholder with
  | question => rfl
  | numbered => exact numberFrom_append open? count xs ys

/-- A text without placeholders keeps its form. -/
theorem finishFrom_of_unmarked {open? : Option Char} {cs : List Char}
    (h : placeholdersFrom open? cs = 0) (count : Nat) : d.finishFrom open? count cs = cs := by
  rw [finishFrom]
  cases d.placeholder with
  | question => rfl
  | numbered => exact numberFrom_of_unmarked h count

theorem finishFrom_of_not_mem {cs : List Char} (h : '?' ∉ cs) (open? : Option Char) (count : Nat) :
    d.finishFrom open? count cs = cs :=
  d.finishFrom_of_unmarked (placeholdersFrom_of_not_mem h open?) count

theorem toList_finish_text (text : String) :
    (d.finish text).toList = d.finishFrom none 0 text.toList := by
  rw [← d.toList_finish, String.ofList_toList]

/-- An inert text keeps its form and does not change that of the text behind it. -/
theorem finish_append_of_inert {s t : String} (hs : Inert s.toList) :
    d.finish (s ++ t) = s ++ d.finish t := by
  rw [← String.toList_inj, String.toList_append, toList_finish_text, toList_finish_text,
    String.toList_append, finishFrom_append, hs.closed, hs.unmarked,
    d.finishFrom_of_unmarked hs.unmarked]

end Dialect

end SqlPipeline
