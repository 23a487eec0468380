import SqlPipeline.Text.Hex

/-!
The UTF-8 bytes of a text, and the text of valid UTF-8 bytes.
-/

namespace SqlPipeline

/-- The UTF-8 bytes of a text. -/
def utf8 (s : String) : Bytes :=
  s.toUTF8.data.toList

/-- The text of some bytes, when they are valid UTF-8. -/
def ofUtf8? (bytes : Bytes) : Option String :=
  String.fromUTF8? ⟨bytes.toArray⟩

theorem ofUtf8?_utf8 (s : String) : ofUtf8? (utf8 s) = some s := by
  rw [ofUtf8?, utf8, Array.toArray_toList]
  exact dif_pos s.isValidUTF8

end SqlPipeline
