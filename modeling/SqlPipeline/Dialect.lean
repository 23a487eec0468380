import SqlPipeline.Placeholders
import SqlPipeline.Text.Blank

/-!
Dialects of SQL: how identifiers are quoted and how placeholders are written.

Statements are assembled with question marks; `finish` brings them into the dialect's form once, at
the end.
-/

namespace SqlPipeline

/-- How a dialect writes placeholders. -/
inductive PlaceholderStyle
  /-- `?` -/
  | question
  /-- `$1`, `$2`, … -/
  | numbered
  deriving DecidableEq

/-- How a database quotes identifiers and writes placeholders. -/
structure Dialect where
  quote : Char
  placeholder : PlaceholderStyle
  deriving DecidableEq

namespace Dialect

def mysql : Dialect := ⟨'\x60', .question⟩

def postgres : Dialect := ⟨'"', .numbered⟩

def sqlite : Dialect := ⟨'"', .question⟩

instance : Inhabited Dialect := ⟨mysql⟩

variable (d : Dialect)

/-- The characters of a name with each quote written twice. -/
def doubled (name : List Char) : List Char :=
  name.flatMap fun c => if c = d.quote then [c, c] else [c]

/-- A name between quotes. -/
def wrap (name : String) : String :=
  String.ofList (d.quote :: d.doubled name.toList ++ [d.quote])

/-- A field of a condition or an assignment: quoted, unless a dot shows that it is qualified. -/
def quoteField (field : String) : String :=
  if field.toList.contains '.' then field else d.wrap field

/-- A character of a plain identifier. -/
def isPlainChar (c : Char) : Bool :=
  c.isAlphanum || c == '_'

/-- The text is an identifier and no expression: ASCII letters, digits and underscores, the first
of them no digit. -/
def isPlain (name : String) : Bool :=
  match name.toList with
  | [] => false
  | c :: cs => !isDigit c && (c :: cs).all isPlainChar

/-- A table or a column where an expression may stand too: quoted if it is plain. -/
def quotePlain (name : String) : String :=
  if isPlain name then d.wrap name else name

/-- The SQL text with its placeholders in the form of the dialect. -/
def finish (sql : String) : String :=
  match d.placeholder with
  | .question => sql
  | .numbered => numberPlaceholders sql

/-! ### Plain identifiers -/

theorem toNat_of_isPlainChar {c : Char} (hc : isPlainChar c = true) :
    48 ≤ c.toNat ∧ c.toNat ≤ 122 := by
  delta isPlainChar Char.isAlphanum Char.isAlpha Char.isUpper Char.isLower Char.isDigit at hc
  simp [UInt32.le_iff_toNat_le] at hc
  rcases hc with ((hc | hc) | hc) | rfl
  · omega
  · omega
  · omega
  · decide

theorem isBlank_of_isPlainChar {c : Char} (hc : isPlainChar c = true) : isBlank c = false := by
  have hrange := toNat_of_isPlainChar hc
  simp [isBlank, blankRanges]
  omega

theorem isPlainChar_of_mem {name : String} (hname : isPlain name = true) {c : Char}
    (hc : c ∈ name.toList) : isPlainChar c = true := by
  rw [isPlain] at hname
  split at hname
  · simp at hname
  · next first rest heq =>
      rw [heq] at hc
      simp only [Bool.and_eq_true, List.all_eq_true] at hname
      exact hname.2 c hc

theorem isBlankText_of_isPlain {name : String} (hname : isPlain name = true) :
    isBlankText name = false := by
  cases hchars : name.toList with
  | nil => simp [isPlain, hchars] at hname
  | cons c cs =>
      have hmem : c ∈ name.toList := by simp [hchars]
      simp [isBlankText, hchars, isBlank_of_isPlainChar (isPlainChar_of_mem hname hmem)]

/-- A plain name is not qualified. -/
theorem not_mem_of_isPlain {name : String} (hname : isPlain name = true) : '.' ∉ name.toList := by
  intro hmem
  exact absurd (isPlainChar_of_mem hname hmem) (by decide)

end Dialect

example : Dialect.postgres.quotePlain "users" = "\"users\"" := by decide +kernel

end SqlPipeline
