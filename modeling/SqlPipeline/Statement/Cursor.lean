import SqlPipeline.Session.Basic

/-!
Cursors: rows pulled one by one.

A cursor maps the rows of a stream as they are asked for. It is closed by its holder or by the end
of the stream, and a closed cursor yields nothing and pulls nothing.
-/

namespace SqlPipeline

/-- A stream that is mapped row by row, or no stream once the cursor is closed. -/
structure Cursor (α : Type) where
  stream : Option RowStream
  decode : Row.Decoder α

namespace Cursor

variable {α : Type}

def on (decode : Row.Decoder α) (stream : RowStream) : Cursor α := ⟨some stream, decode⟩

def isClosed (c : Cursor α) : Bool :=
  c.stream.isNone

/-- Releases the stream. -/
def close (c : Cursor α) : Cursor α := { c with stream := none }

/-- The next item, or none at the end and after it. An error or a panic closes nothing. -/
def next (c : Cursor α) : Option (Outcome α) × Cursor α :=
  match c.stream with
  | none => (none, c)
  | some stream =>
    match stream.pull with
    | (none, _) => (none, c.close)
    | (some item, stream) => (some (item.andThen c.decode), { c with stream := some stream })

end Cursor

end SqlPipeline
