import SqlPipeline.Proofs.Quotation

/-!
Lexemes of SQL text.

A quotation opens at a single quote, a double quote or a backtick. Inside it a quote that is written
twice stands for one, a single one closes the quotation, and without one the quotation runs to the
end of the text. Main statement: a text is spelled by one list of lexemes only; the placeholders of
the text are the question marks outside its quotations, and numbering them changes nothing else.
-/

namespace SqlPipeline

/-- The characters with each quote written twice. -/
def escaped (q : Char) (cs : List Char) : List Char :=
  cs.flatMap fun c => if c = q then [c, c] else [c]

/-- What a quotation holds that is open where the text begins, and the text behind its close, if it
is closed. -/
def readQuotation (q : Char) : List Char → List Char × Option (List Char)
  | [] => ([], none)
  | c :: cs =>
    if c = q then
      match cs with
      | c' :: rest =>
        if c' = q then (readQuotation q rest).map (q :: ·) id else ([], some (c' :: rest))
      | [] => ([], some [])
    else (readQuotation q cs).map (c :: ·) id

section Quotation

variable {q c : Char} {cs held rest : List Char}

theorem escaped_cons_quote : escaped q (q :: cs) = q :: q :: escaped q cs := by
  simp [escaped]

theorem escaped_cons_of_ne (h : c ≠ q) : escaped q (c :: cs) = c :: escaped q cs := by
  simp [escaped, h]

theorem readQuotation_cons_of_ne (h : c ≠ q) :
    readQuotation q (c :: cs) = (readQuotation q cs).map (c :: ·) id := by
  cases cs <;> simp [readQuotation, h]

theorem readQuotation_close (h : rest.head? ≠ some q) :
    readQuotation q (q :: rest) = ([], some rest) := by
  cases rest with
  | nil => simp [readQuotation]
  | cons c rest =>
      have hc : c ≠ q := by simpa using h
      simp [readQuotation, hc]

/-- A text that is held between quotes is read back, whatever comes behind. -/
theorem readQuotation_escaped (held : List Char) (h : rest.head? ≠ some q) :
    readQuotation q (escaped q held ++ q :: rest) = (held, some rest) := by
  induction held with
  | nil => exact readQuotation_close h
  | cons c cs ih =>
      by_cases hc : c = q
      · rw [hc, escaped_cons_quote]
        simp [readQuotation, ih]
      · rw [escaped_cons_of_ne hc, List.cons_append, readQuotation_cons_of_ne hc, ih]
        rfl

theorem readQuotation_escaped_unclosed (held : List Char) :
    readQuotation q (escaped q held) = (held, none) := by
  induction held with
  | nil => rfl
  | cons c cs ih =>
      by_cases hc : c = q
      · rw [hc, escaped_cons_quote]
        simp [readQuotation, ih]
      · rw [escaped_cons_of_ne hc, readQuotation_cons_of_ne hc, ih]
        rfl

/-- A quotation that is read is closed where no second quote of its kind follows, or it is not
closed at all; what it holds is written with each quote twice. -/
theorem readQuotation_cases (q : Char) (cs : List Char) :
    (∃ held rest, readQuotation q cs = (held, some rest) ∧ rest.head? ≠ some q ∧
      cs = escaped q held ++ q :: rest) ∨
    ∃ held, readQuotation q cs = (held, none) ∧ cs = escaped q held := by
  induction cs using readQuotation.induct q with
  | case1 => exact .inr ⟨[], rfl, rfl⟩
  | case2 rest ih =>
      obtain ⟨held, after, hread, hafter, hrest⟩ | ⟨held, hread, hrest⟩ := ih
      · refine .inl ⟨q :: held, after, by simp [readQuotation, hread], hafter, ?_⟩
        rw [escaped_cons_quote, hrest]
        rfl
      · refine .inr ⟨q :: held, by simp [readQuotation, hread], ?_⟩
        rw [escaped_cons_quote, hrest]
  | case3 c' rest hc =>
      have hnext : (c' :: rest).head? ≠ some q := by simpa using hc
      exact .inl ⟨[], c' :: rest, readQuotation_close hnext, hnext, rfl⟩
  | case4 => exact .inl ⟨[], [], readQuotation_close (by simp), by simp, rfl⟩
  | case5 c cs hc ih =>
      obtain ⟨held, after, hread, hafter, hrest⟩ | ⟨held, hread, hrest⟩ := ih
      · refine .inl ⟨c :: held, after, by rw [readQuotation_cons_of_ne hc, hread]; rfl, hafter, ?_⟩
        rw [escaped_cons_of_ne hc, hrest]
        rfl
      · refine .inr ⟨c :: held, by rw [readQuotation_cons_of_ne hc, hread]; rfl, ?_⟩
        rw [escaped_cons_of_ne hc, hrest]

theorem eq_of_readQuotation_closed (h : readQuotation q cs = (held, some rest)) :
    rest.head? ≠ some q ∧ cs = escaped q held ++ q :: rest := by
  obtain ⟨held', rest', hread, hrest, hcs⟩ | ⟨held', hread, -⟩ := readQuotation_cases q cs
  · cases h.symm.trans hread
    exact ⟨hrest, hcs⟩
  · cases h.symm.trans hread

theorem eq_of_readQuotation_unclosed (h : readQuotation q cs = (held, none)) :
    cs = escaped q held := by
  obtain ⟨held', rest', hread, -, -⟩ | ⟨held', hread, hcs⟩ := readQuotation_cases q cs
  · cases h.symm.trans hread
  · cases h.symm.trans hread
    exact hcs

theorem length_lt_of_readQuotation (h : readQuotation q cs = (held, some rest)) :
    rest.length < cs.length := by
  obtain ⟨-, hcs⟩ := eq_of_readQuotation_closed h
  rw [hcs, List.length_append, List.length_cons]
  omega

end Quotation

/-- A piece of SQL text. -/
inductive Lexeme
  /-- A character outside quotations. -/
  | bare (c : Char)
  | quoted (q : Char) (held : List Char)
  /-- A quotation that runs to the end of the text. -/
  | unclosed (q : Char) (held : List Char)

namespace Lexeme

/-- The characters with which the lexeme is written. -/
def chars : Lexeme → List Char
  | .bare c => [c]
  | .quoted q held => q :: escaped q held ++ [q]
  | .unclosed q held => q :: escaped q held

/-- The lexeme is a question mark outside quotations. -/
def isMark : Lexeme → Bool
  | .bare c => c == '?'
  | _ => false

/-- The text is spelled by the lexemes: no character outside quotations is a quote, no closed
quotation stands before a quote of its kind, and only the last one may be unclosed. -/
inductive Spells : List Lexeme → List Char → Prop
  | nil : Spells [] []
  | bare {c : Char} {ls : List Lexeme} {cs : List Char} (hc : isQuote c = false)
      (hls : Spells ls cs) : Spells (.bare c :: ls) (c :: cs)
  | quoted {q : Char} {held : List Char} {ls : List Lexeme} {cs : List Char}
      (hq : isQuote q = true) (hnext : cs.head? ≠ some q) (hls : Spells ls cs) :
      Spells (.quoted q held :: ls) (q :: escaped q held ++ q :: cs)
  | unclosed {q : Char} {held : List Char} (hq : isQuote q = true) :
      Spells [.unclosed q held] (q :: escaped q held)

end Lexeme

/-- The lexemes of a text. -/
def lexemes : List Char → List Lexeme
  | [] => []
  | c :: cs =>
    if isQuote c then
      match _hread : readQuotation c cs with
      | (held, some rest) => .quoted c held :: lexemes rest
      | (held, none) => [.unclosed c held]
    else .bare c :: lexemes cs
termination_by cs => cs.length
decreasing_by
  · exact Nat.lt_succ_of_lt (length_lt_of_readQuotation _hread)
  · exact Nat.lt_succ_self _

namespace Lexeme

variable {q : Char} {ls : List Lexeme} {cs : List Char}

theorem chars_quoted_append (q : Char) (held cs : List Char) :
    (quoted q held).chars ++ cs = q :: escaped q held ++ q :: cs := by
  simp [chars]

theorem lexemes_bare {c : Char} (hc : isQuote c = false) (cs : List Char) :
    lexemes (c :: cs) = .bare c :: lexemes cs := by
  rw [lexemes, hc, if_neg Bool.false_ne_true]

theorem lexemes_quoted (hq : isQuote q = true) (held : List Char) (h : cs.head? ≠ some q) :
    lexemes (q :: escaped q held ++ q :: cs) = .quoted q held :: lexemes cs := by
  rw [List.cons_append, lexemes, if_pos hq]
  split <;> simp_all [readQuotation_escaped held h]

theorem lexemes_unclosed (hq : isQuote q = true) (held : List Char) :
    lexemes (q :: escaped q held) = [.unclosed q held] := by
  rw [lexemes, if_pos hq]
  split <;> simp_all [readQuotation_escaped_unclosed held]

theorem spells_lexemes (cs : List Char) : Spells (lexemes cs) cs := by
  induction cs using lexemes.induct with
  | case1 =>
      rw [lexemes]
      exact .nil
  | case2 c cs hc held rest hread ih =>
      obtain ⟨hrest, rfl⟩ := eq_of_readQuotation_closed hread
      rw [← List.cons_append, lexemes_quoted hc held hrest]
      exact .quoted hc hrest ih
  | case3 c cs hc held hread =>
      obtain rfl := eq_of_readQuotation_unclosed hread
      rw [lexemes_unclosed hc]
      exact .unclosed hc
  | case4 c cs hc ih =>
      have hbare : isQuote c = false := by simpa using hc
      rw [lexemes_bare hbare]
      exact .bare hbare ih

theorem Spells.flatMap_chars (h : Spells ls cs) : ls.flatMap chars = cs := by
  induction h with
  | nil => rfl
  | bare _ _ ih => rw [List.flatMap_cons, ih]; rfl
  | quoted _ _ _ ih => rw [List.flatMap_cons, ih, chars_quoted_append]
  | unclosed _ => simp [chars]

/-- A text is spelled by its lexemes, and by no others. -/
theorem spells_iff : Spells ls cs ↔ ls = lexemes cs := by
  constructor
  · intro h
    induction h with
    | nil => rw [lexemes]
    | bare hc _ ih => rw [lexemes_bare hc, ih]
    | quoted hq hnext _ ih => rw [lexemes_quoted hq _ hnext, ih]
    | unclosed hq => rw [lexemes_unclosed hq]
  · rintro rfl
    exact spells_lexemes cs

/-- A closed quotation has no placeholder, and a scan is outside quotes behind it. -/
theorem inert_quoted (hq : isQuote q = true) (held : List Char) : Inert (quoted q held).chars := by
  have hwrap := Dialect.inert_wrap ⟨q, .numbered⟩ hq (String.ofList held)
  simpa [Dialect.wrap, Dialect.doubled, chars, escaped] using hwrap

theorem placeholdersFrom_unclosed (hq : isQuote q = true) (held : List Char) :
    placeholdersFrom none (unclosed q held).chars = 0 := by
  have hheld : placeholdersFrom (some q) (escaped q held) = 0 :=
    Dialect.placeholdersFrom_doubled ⟨q, .numbered⟩ hq held
  simpa [chars, placeholdersFrom, isPlaceholder, ne_mark_of_isQuote hq, quotationAfter, hq]
    using hheld

/-- The lexeme in a text with numbered placeholders, if it is the last of so many marks or none. -/
def written (marks : Nat) (l : Lexeme) : List Char :=
  if l.isMark then '$' :: natDigits marks else l.chars

/-- The text with its placeholders numbered, behind so many marks: each lexeme is written with the
number of the marks up to it. -/
def numbered (count : Nat) (ls : List Lexeme) : List Char :=
  (ls.mapIdx fun i l => l.written (count + (ls.take (i + 1)).countP isMark)).flatten

theorem numbered_cons (count : Nat) (l : Lexeme) (ls : List Lexeme) :
    numbered count (l :: ls) = l.written (count + [l].countP isMark) ++
      numbered (count + [l].countP isMark) ls := by
  simp only [numbered, List.mapIdx_cons, List.flatten_cons, List.take_succ_cons, List.take_zero,
    List.countP_cons, List.countP_nil, Nat.zero_add]
  congr 3
  funext i l'
  rw [Nat.add_assoc, Nat.add_comm (List.countP _ _)]

/-- The placeholders of a text are the marks among its lexemes. -/
theorem placeholdersFrom_of_spells (h : Spells ls cs) :
    placeholdersFrom none cs = ls.countP isMark := by
  induction h with
  | nil => rfl
  | @bare c ls cs hc _ ih =>
      by_cases hmark : c = '?'
      · simp [placeholdersFrom, isPlaceholder, isMark, hmark, ih]
      · simp [placeholdersFrom, isPlaceholder, isMark, hmark, quotationAfter, hc, ih]
  | @quoted q held ls cs hq _ _ ih =>
      have hinert := inert_quoted hq held
      rw [← chars_quoted_append, placeholdersFrom_append, hinert.closed, hinert.unmarked, ih]
      simp [isMark]
  | @unclosed q held hq => exact placeholdersFrom_unclosed hq held

/-- Numbering writes each mark with its number, and every other lexeme as it stands. -/
theorem numberFrom_of_spells (h : Spells ls cs) (count : Nat) :
    numberFrom none count cs = numbered count ls := by
  induction h generalizing count with
  | nil => rfl
  | @bare c ls cs hc _ ih =>
      rw [numbered_cons]
      by_cases hmark : c = '?'
      · simp [numberFrom, isPlaceholder, written, isMark, hmark, ih]
      · simp [numberFrom, isPlaceholder, written, isMark, hmark, quotationAfter, hc, ih, chars]
  | @quoted q held ls cs hq _ _ ih =>
      have hinert := inert_quoted hq held
      rw [numbered_cons, ← chars_quoted_append, numberFrom_append, hinert.closed, hinert.unmarked,
        numberFrom_of_unmarked hinert.unmarked, ih]
      rfl
  | @unclosed q held hq =>
      have hunmarked := placeholdersFrom_unclosed hq held
      have hwritten : (unclosed q held).chars = numbered count [unclosed q held] := by
        simp [numbered, written, isMark]
      rw [← hwritten]
      exact numberFrom_of_unmarked hunmarked count

end Lexeme

/-- A text with numbered placeholders has no placeholder that is not numbered. -/
theorem placeholdersFrom_numberFrom (open? : Option Char) (count : Nat) (cs : List Char) :
    placeholdersFrom open? (numberFrom open? count cs) = 0 := by
  induction cs generalizing open? count with
  | nil => rfl
  | cons c cs ih =>
      by_cases hmark : isPlaceholder open? c = true
      · cases open? with
        | some q => simp [isPlaceholder] at hmark
        | none =>
            have hdollar : Inert ['$'] := by decide
            have hnumber : Inert ('$' :: natDigits (count + 1)) :=
              hdollar.append (inert_natDigits (count + 1))
            rw [numberFrom, if_pos hmark, placeholdersFrom_append, hnumber.closed, hnumber.unmarked,
              ih]
      · rw [numberFrom, if_neg hmark, placeholdersFrom, if_neg hmark, ih]

namespace Dialect

variable (d : Dialect)

theorem finish_finish (sql : String) : d.finish (d.finish sql) = d.finish sql := by
  rw [← String.toList_inj, toList_finish_text, toList_finish_text]
  cases hstyle : d.placeholder with
  | question => simp [finishFrom, hstyle]
  | numbered =>
      have hunmarked := placeholdersFrom_numberFrom none 0 sql.toList
      simp only [finishFrom, hstyle]
      exact numberFrom_of_unmarked hunmarked 0

/-- The placeholders of a text are those of its lexemes that are question marks outside quotations.
Where placeholders are numbered, the finished text has each of them written with the number of those
up to it, and every other lexeme as it stands; elsewhere it is the text itself. Finishing it again
changes nothing. The lexemes are the only ones that spell the text. -/
theorem finish_numbers_marks (d : Dialect) (sql : String) :
    (∀ ls, Lexeme.Spells ls sql.toList ↔ ls = lexemes sql.toList) ∧
    (lexemes sql.toList).flatMap Lexeme.chars = sql.toList ∧
    countPlaceholders sql = (lexemes sql.toList).countP Lexeme.isMark ∧
    (d.placeholder = .numbered →
      (d.finish sql).toList = Lexeme.numbered 0 (lexemes sql.toList)) ∧
    (d.placeholder = .question → d.finish sql = sql) ∧
    d.finish (d.finish sql) = d.finish sql := by
  have hspells := Lexeme.spells_lexemes sql.toList
  refine ⟨fun _ => Lexeme.spells_iff, hspells.flatMap_chars,
    Lexeme.placeholdersFrom_of_spells hspells, ?_, ?_, d.finish_finish sql⟩
  · intro hstyle
    rw [toList_finish_text, finishFrom, hstyle]
    exact Lexeme.numberFrom_of_spells hspells 0
  · intro hstyle
    rw [finish, hstyle]

namespace LexemeWitness

/-- Quotations of two kinds among placeholders: one that holds its own quote, and one that is not
closed. -/
def mixed : String := "?'?''?'?\"'?"

def mixedLexemes : List Lexeme :=
  [.bare '?', .quoted '\'' ['?', '\'', '?'], .bare '?', .unclosed '"' ['\'', '?']]

theorem mixed_spelled : Lexeme.Spells mixedLexemes mixed.toList := by
  have hspells : Lexeme.Spells mixedLexemes (mixedLexemes.flatMap Lexeme.chars) :=
    .bare rfl (.quoted rfl (by decide) (.bare rfl (.unclosed rfl)))
  exact hspells

end LexemeWitness

open LexemeWitness in
theorem finish_numbers_marks_mixed :
    postgres.placeholder = .numbered ∧ mysql.placeholder = .question ∧
    lexemes mixed.toList = mixedLexemes ∧ countPlaceholders mixed = 2 ∧
    postgres.finish mixed = "$1'?''?'$2\"'?" ∧ mysql.finish mixed = mixed := by
  obtain ⟨hunique, -, hcount, hnumbered, -, -⟩ := finish_numbers_marks postgres mixed
  obtain ⟨-, -, -, -, hkept, -⟩ := finish_numbers_marks mysql mixed
  have hlexemes : mixedLexemes = lexemes mixed.toList := (hunique mixedLexemes).1 mixed_spelled
  rw [← hlexemes] at hcount hnumbered
  refine ⟨rfl, rfl, hlexemes.symm, hcount, ?_, hkept rfl⟩
  rw [← String.toList_inj, hnumbered rfl]
  decide +kernel

end Dialect

end SqlPipeline
