import SqlPipeline.Value.Basic

/-!
SQL text with holes.

A template is SQL text in pieces, with a bound value in each hole. Its text has a question mark in
each hole, and its values are those of the holes from left to right; so text and values are always
assembled together. Main statements: text and values of two templates in a row are those of the
first followed by those of the second.
-/

namespace SqlPipeline

/-- A piece of a template. -/
inductive Piece
  | text (s : String)
  | hole (v : Value)

/-- The characters of a piece; a hole is a question mark. -/
def Piece.chars : Piece → List Char
  | .text s => s.toList
  | .hole _ => ['?']

/-- The value in a piece, if it is a hole. -/
def Piece.value? : Piece → Option Value
  | .text _ => none
  | .hole v => some v

/-- SQL text with a value in each hole. -/
structure Template where
  pieces : List Piece

namespace Template

/-- No text and no hole. -/
def empty : Template := ⟨[]⟩

/-- A text without a hole. -/
def ofText (s : String) : Template := ⟨[.text s]⟩

/-- A hole without text. -/
def hole (v : Value) : Template := ⟨[.hole v]⟩

instance : Append Template := ⟨fun s t => ⟨s.pieces ++ t.pieces⟩⟩

instance : Coe String Template := ⟨ofText⟩

/-- Templates one after the other with a separator between them. -/
def join (separator : String) : List Template → Template
  | [] => empty
  | [t] => t
  | t :: u :: rest => t ++ ofText separator ++ join separator (u :: rest)

/-- One hole for each value, with commas between them. -/
def holes (values : List Value) : Template :=
  join "," (values.map hole)

/-- The characters of a template. -/
def chars (t : Template) : List Char :=
  t.pieces.flatMap Piece.chars

/-- The SQL text of a template, with a question mark in each hole. -/
def sql (t : Template) : String :=
  String.ofList t.chars

/-- The values in the holes of a template, from left to right. -/
def values (t : Template) : List Value :=
  t.pieces.filterMap Piece.value?

@[simp] theorem chars_append (s t : Template) : (s ++ t).chars = s.chars ++ t.chars := by
  change (s.pieces ++ t.pieces).flatMap Piece.chars = _
  simp [chars]

@[simp] theorem values_append (s t : Template) : (s ++ t).values = s.values ++ t.values := by
  change (s.pieces ++ t.pieces).filterMap Piece.value? = _
  simp [values]

@[simp] theorem chars_ofText (s : String) : (ofText s).chars = s.toList := by
  simp [ofText, chars, Piece.chars]

@[simp] theorem values_ofText (s : String) : (ofText s).values = [] := rfl

@[simp] theorem chars_hole (v : Value) : (hole v).chars = ['?'] := rfl

@[simp] theorem values_hole (v : Value) : (hole v).values = [v] := rfl

theorem sql_append (s t : Template) : (s ++ t).sql = s.sql ++ t.sql := by
  simp [sql, String.ofList_append]

theorem sql_ofText (s : String) : (ofText s).sql = s := by
  simp [sql]

end Template

end SqlPipeline
