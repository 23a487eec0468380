import SqlPipeline.Dialect
import SqlPipeline.Text.Blank

/-!
The tokens of a Boolean expression in SQL.

Characters are read one by one into words, quotations, comments and signs. A quotation ends at the
next character of its kind, and a placeholder counts as a letter, so that a word that holds one is
no keyword, whether it is a question mark or numbered. Main statements: a text that ends outside of
quotations and comments has the tokens it has on its own, before any sign that ends a word; and a
name between quotes is read as one or more quotations.
-/

namespace SqlPipeline

/-- A token, as far as the structure of Boolean expressions depends on it. -/
inductive Token
  | and
  | or
  | not
  | between
  | openParen
  | closeParen
  | caseWord
  | endWord
  /-- Any other word, sign or quotation. -/
  | text (cs : List Char)
  /-- A quotation or a comment without an end. -/
  | broken
  deriving DecidableEq

/-- A character of a word, placeholders included. -/
def isWordChar (c : Char) : Bool :=
  c.isAlphanum || ['_', '.', '$', '?'].contains c || 128 ≤ c.toNat && !isBlank c

/-- A character with a meaning of its own outside of quotations, which can quote no name. -/
def isMark (c : Char) : Bool :=
  isWordChar c || isBlank c || ['(', ')', '=', ',', '-', '/', '*'].contains c

/-- The token is neither a keyword nor a parenthesis. -/
def Token.isText : Token → Bool
  | .text _ => true
  | _ => false

/-- The tokens of a reference to a column, qualified or not. -/
structure IsColumn (ts : List Token) : Prop where
  nonempty : ts ≠ []
  texts : ∀ t ∈ ts, t.isText = true

instance (ts : List Token) : Decidable (IsColumn ts) :=
  decidable_of_iff (ts ≠ [] ∧ ∀ t ∈ ts, t.isText = true)
    ⟨fun h => ⟨h.1, h.2⟩, fun h => ⟨h.nonempty, h.texts⟩⟩

/-- No quotation and no comment is open behind texts. -/
theorem broken_not_mem_of_isText {ts : List Token} (h : ∀ t ∈ ts, t.isText = true) :
    Token.broken ∉ ts :=
  fun hmem => Bool.false_ne_true (h _ hmem)

/-- The character opens a quotation in the dialect. -/
def Dialect.opens (d : Dialect) (c : Char) : Bool :=
  isQuote c || c == d.quote && !isMark c

/-- The token of a word, a keyword in letters of either case. -/
def wordToken (cs : List Char) : Token :=
  match cs.map Char.toLower with
  | ['a', 'n', 'd'] => .and
  | ['o', 'r'] => .or
  | ['n', 'o', 't'] => .not
  | ['b', 'e', 't', 'w', 'e', 'e', 'n'] => .between
  | ['c', 'a', 's', 'e'] => .caseWord
  | ['e', 'n', 'd'] => .endWord
  | _ => .text cs

/-- Where a scan of characters stands. -/
inductive Lexing
  | free
  | word (cs : List Char)
  | quoted (q : Char) (cs : List Char)
  /-- Behind a sign that may begin a comment. -/
  | dash
  | slash
  | lineComment
  | blockComment
  /-- In a comment, behind a sign that may end it. -/
  | blockStar
  deriving DecidableEq

namespace Lexing

/-- The tokens that end when the text does. -/
def flush : Lexing → List Token
  | .free => []
  | .word cs => [wordToken cs]
  | .dash => [.text ['-']]
  | .slash => [.text ['/']]
  | .quoted _ _ | .lineComment | .blockComment | .blockStar => [.broken]

variable (d : Dialect)

/-- Reads a character that continues nothing. -/
def start (c : Char) : List Token × Lexing :=
  if isWordChar c then ([], .word [c])
  else if isBlank c then ([], .free)
  else if c = '(' then ([.openParen], .free)
  else if c = ')' then ([.closeParen], .free)
  else if d.opens c then ([], .quoted c [c])
  else if c = '-' then ([], .dash)
  else if c = '/' then ([], .slash)
  else ([.text [c]], .free)

/-- Reads a character that continues nothing, behind tokens that it ends. -/
def restart (ended : List Token) (c : Char) : List Token × Lexing :=
  (ended ++ (start d c).1, (start d c).2)

/-- Reads a character: the tokens that it ends, and where the scan stands then. -/
def step (c : Char) : Lexing → List Token × Lexing
  | .free => start d c
  | .word cs =>
    if isWordChar c then ([], .word (cs ++ [c])) else restart d [wordToken cs] c
  | .quoted q cs =>
    if c = q then ([.text (cs ++ [c])], .free) else ([], .quoted q (cs ++ [c]))
  | .dash => if c = '-' then ([], .lineComment) else restart d [.text ['-']] c
  | .slash => if c = '*' then ([], .blockComment) else restart d [.text ['/']] c
  | .lineComment => if c = '\n' then ([], .free) else ([], .lineComment)
  | .blockComment => if c = '*' then ([], .blockStar) else ([], .blockComment)
  | .blockStar =>
    if c = '/' then ([], .free) else if c = '*' then ([], .blockStar) else ([], .blockComment)

end Lexing

namespace Dialect

variable (d : Dialect)

/-- The tokens of a text from where a scan stands. -/
def tokensFrom : Lexing → List Char → List Token
  | st, [] => st.flush
  | st, c :: cs => (st.step d c).1 ++ tokensFrom (st.step d c).2 cs

/-- The tokens of a text. -/
def tokens (cs : List Char) : List Token :=
  d.tokensFrom .free cs

/-- The character ends a word and begins no comment. -/
def isBreak (c : Char) : Bool :=
  !isWordChar c && c != '-' && c != '*'

theorem tokensFrom_append_cons {st : Lexing} {cs : List Char}
    (h : Token.broken ∉ d.tokensFrom st cs) {c : Char} (hc : isBreak c = true) (rest : List Char) :
    d.tokensFrom st (cs ++ c :: rest) = d.tokensFrom st cs ++ d.tokens (c :: rest) := by
  simp only [isBreak, Bool.and_eq_true, Bool.not_eq_true', bne_iff_ne] at hc
  obtain ⟨⟨hword, hdash⟩, hstar⟩ := hc
  induction cs generalizing st with
  | nil =>
      cases st <;>
        simp_all [tokens, tokensFrom, Lexing.step, Lexing.flush, Lexing.restart]
  | cons x xs ih =>
      rw [tokensFrom, List.mem_append, not_or] at h
      rw [List.cons_append, tokensFrom, tokensFrom, ih h.2, List.append_assoc]

/-- A text that ends outside of quotations and comments has the tokens it has on its own, before a
character that ends a word. -/
theorem tokens_append_cons {cs : List Char} (h : Token.broken ∉ d.tokens cs) {c : Char}
    (hc : isBreak c = true) (rest : List Char) :
    d.tokens (cs ++ c :: rest) = d.tokens cs ++ d.tokens (c :: rest) :=
  d.tokensFrom_append_cons h hc rest

/-- The signs that are written between a field and its value, and between values. -/
theorem tokens_sign {c : Char} (hc : c = '=' ∨ c = ',') (rest : List Char) :
    d.tokens (c :: rest) = .text [c] :: d.tokens rest := by
  have hopens : d.opens c = false := by
    have hmark : isMark c = true := by rcases hc with rfl | rfl <;> decide
    have hquote : isQuote c = false := by rcases hc with rfl | rfl <;> decide
    simp [opens, hmark, hquote]
  have hstart : Lexing.start d c = ([.text [c]], .free) := by
    rcases hc with rfl | rfl <;> simp [Lexing.start, hopens] <;> decide
  rw [tokens, tokensFrom, Lexing.step, hstart]
  rfl

section Quotation

variable (hquote : isMark d.quote = false)
include hquote

theorem start_quote : Lexing.start d d.quote = ([], .quoted d.quote [d.quote]) := by
  have hopens : d.opens d.quote = true := by simp [opens, hquote]
  simp only [isMark, Bool.or_eq_false_iff] at hquote
  obtain ⟨⟨hword, hblank⟩, hsigns⟩ := hquote
  simp only [List.contains_cons, Bool.or_eq_false_iff, beq_eq_false_iff_ne] at hsigns
  simp [Lexing.start, hword, hblank, hsigns.1, hsigns.2.1, hopens]

/-- Behind an opened quote, a name with its quotes doubled and a quote are quotations. -/
theorem isColumn_doubled (name opened : List Char) :
    IsColumn (d.tokensFrom (.quoted d.quote opened) (d.doubled name ++ [d.quote])) := by
  induction name generalizing opened with
  | nil =>
      refine ⟨?_, fun t ht => ?_⟩
      · simp [doubled, tokensFrom, Lexing.step]
      · simp_all [doubled, tokensFrom, Lexing.step, Lexing.flush, Token.isText]
  | cons c cs ih =>
      by_cases hc : c = d.quote
      · have hcons : d.doubled (c :: cs) ++ [d.quote] =
            d.quote :: d.quote :: (d.doubled cs ++ [d.quote]) := by simp [doubled, hc]
        rw [hcons, tokensFrom, tokensFrom, Lexing.step, if_pos rfl, Lexing.step,
          start_quote d hquote]
        refine ⟨by simp, ?_⟩
        intro t ht
        rcases List.mem_cons.1 ht with rfl | ht
        · rfl
        · exact (ih [d.quote]).texts t ht
      · have hcons : d.doubled (c :: cs) ++ [d.quote] = c :: (d.doubled cs ++ [d.quote]) := by
          simp [doubled, hc]
        rw [hcons, tokensFrom, Lexing.step, if_neg hc]
        exact ih (opened ++ [c])

/-- A name between quotes is read as quotations, whatever characters it holds. -/
theorem isColumn_wrap (name : String) : IsColumn (d.tokens (d.wrap name).toList) := by
  rw [wrap, String.toList_ofList, List.cons_append, tokens, tokensFrom, Lexing.step,
    start_quote d hquote]
  exact d.isColumn_doubled hquote name.toList [d.quote]

end Quotation

end Dialect

end SqlPipeline
