import SqlPipeline.Proofs.Lexeme

/-!
Quoted identifiers.

An identifier opens with the quote of the dialect, a quote that is written twice stands for one in
its name, and a single one closes it. Main statement: a field without a dot is read back as one
identifier with the field as its name, whatever characters it holds and whatever text comes behind
it, so that different fields are written differently; and it does not count for the placeholders
behind it.
-/

namespace SqlPipeline

/-- The name of the identifier with which a text begins, and the text behind it. -/
def readIdentifier (q : Char) : List Char → Option (List Char × List Char)
  | [] => none
  | c :: cs =>
    if c = q then
      match readQuotation q cs with
      | (name, some rest) => some (name, rest)
      | (_, none) => none
    else none

/-- A text begins with an identifier just when it begins with a quoted name behind which no other
quote stands; there is only one way to read it. -/
theorem readIdentifier_eq_some_iff {q : Char} {cs name rest : List Char} :
    readIdentifier q cs = some (name, rest) ↔
      rest.head? ≠ some q ∧ cs = q :: escaped q name ++ q :: rest := by
  constructor
  · intro h
    cases cs with
    | nil => cases h
    | cons c cs =>
        rw [readIdentifier] at h
        split at h
        · next hc =>
          obtain ⟨held, after, hread, hafter, hcs⟩ | ⟨held, hread, -⟩ := readQuotation_cases q cs
          · rw [hread] at h
            cases h
            exact ⟨hafter, by rw [hc, hcs]; rfl⟩
          · rw [hread] at h
            cases h
        · cases h
  · rintro ⟨hrest, rfl⟩
    rw [List.cons_append, readIdentifier, if_pos rfl, readQuotation_escaped name hrest]

namespace Dialect

variable (d : Dialect)

theorem toList_wrap (name : String) :
    (d.wrap name).toList = (Lexeme.quoted d.quote name.toList).chars :=
  String.toList_ofList

/-- A quoted name is read back, whatever comes behind it. -/
theorem readIdentifier_wrap (name : String) {rest : List Char} (hrest : rest.head? ≠ some d.quote) :
    readIdentifier d.quote ((d.wrap name).toList ++ rest) = some (name.toList, rest) := by
  rw [readIdentifier_eq_some_iff, toList_wrap, Lexeme.chars_quoted_append]
  exact ⟨hrest, rfl⟩

theorem wrap_injective : Function.Injective d.wrap := by
  intro name other h
  have hend : ([] : List Char).head? ≠ some d.quote := by simp
  have hname := d.readIdentifier_wrap name hend
  rw [h, d.readIdentifier_wrap other hend] at hname
  have hsame : other.toList = name.toList := by simpa using hname
  exact (String.toList_inj.1 hsame).symm

theorem quoteField_of_not_mem {field : String} (h : '.' ∉ field.toList) :
    d.quoteField field = d.wrap field := by
  simp [quoteField, h]

/-- A field without a dot is written as one identifier, and its name is the field: it is read back
as such before any text that does not begin with the quote of the dialect. Different fields are
written differently. Where the quote of the dialect is one of SQL, the field is one lexeme of the
text, and finishing the text copies it and numbers the placeholders behind it as if it were not
there. -/
theorem quoteField_reads_back (d : Dialect) (field : String) (hfield : '.' ∉ field.toList) :
    (∀ rest : String, rest.toList.head? ≠ some d.quote →
      readIdentifier d.quote (d.quoteField field ++ rest).toList =
        some (field.toList, rest.toList)) ∧
    (∀ other : String, '.' ∉ other.toList → d.quoteField field = d.quoteField other →
      field = other) ∧
    (isQuote d.quote = true →
      (∀ rest : String, rest.toList.head? ≠ some d.quote →
        lexemes (d.quoteField field ++ rest).toList =
          .quoted d.quote field.toList :: lexemes rest.toList) ∧
      ∀ rest : String, d.finish (d.quoteField field ++ rest) =
        d.quoteField field ++ d.finish rest) := by
  rw [d.quoteField_of_not_mem hfield]
  refine ⟨?_, ?_, ?_⟩
  · intro rest hrest
    rw [String.toList_append]
    exact d.readIdentifier_wrap field hrest
  · intro other hother h
    rw [d.quoteField_of_not_mem hother] at h
    exact d.wrap_injective h
  · intro hquote
    constructor
    · intro rest hrest
      rw [String.toList_append, toList_wrap, Lexeme.chars_quoted_append]
      exact Lexeme.lexemes_quoted hquote field.toList hrest
    · intro rest
      exact d.finish_append_of_inert (d.inert_wrap hquote field)

namespace IdentifierWitness

/-- A name that tries to leave its quotes and to add a placeholder. -/
def hostile : String := "\"=? OR '1"

end IdentifierWitness

open IdentifierWitness in
theorem quoteField_reads_back_hostile :
    '.' ∉ hostile.toList ∧ isQuote postgres.quote = true ∧
    ("=?" : String).toList.head? ≠ some postgres.quote ∧
    postgres.quoteField hostile = "\"\"\"=? OR '1\"" ∧
    readIdentifier postgres.quote "\"\"\"=? OR '1\"=?".toList =
      some (hostile.toList, "=?".toList) ∧
    postgres.quoteField "=? OR '1" ≠ postgres.quoteField hostile ∧
    postgres.finish "\"\"\"=? OR '1\"=?" = "\"\"\"=? OR '1\"=$1" := by
  have hfield : '.' ∉ hostile.toList := by decide +kernel
  have hquote : isQuote postgres.quote = true := rfl
  have hrest : ("=?" : String).toList.head? ≠ some postgres.quote := by decide +kernel
  have hwritten : postgres.quoteField hostile = "\"\"\"=? OR '1\"" := by decide +kernel
  obtain ⟨hread, hinjective, hscan⟩ := quoteField_reads_back postgres hostile hfield
  have hdiffer : postgres.quoteField "=? OR '1" ≠ postgres.quoteField hostile := by
    intro h
    exact absurd (hinjective "=? OR '1" (by decide +kernel) h.symm) (by decide +kernel)
  have hfinish := (hscan hquote).2 "=?"
  have hidentifier := hread "=?" hrest
  rw [hwritten] at hfinish hidentifier
  exact ⟨hfield, hquote, hrest, hwritten, hidentifier, hdiffer, hfinish⟩

end Dialect

end SqlPipeline
