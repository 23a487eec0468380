import SqlPipeline.Text.BigEndian

/-!
The wire form of an array of one dimension.

It is the number of dimensions, a mark whether an element is null, the type of the elements, the
length and the first index of the dimension, and for each element its length and its bytes, a
negative length standing for null. An array without a dimension has no element. Main statement: the
elements are read back from the wire form if it can say their number and their lengths.
-/

namespace SqlPipeline.Postgres

/-- A value on the wire: its bytes, or null. -/
abbrev Cell := Option Bytes

/-- The greatest length that four bytes with a sign can say. -/
def maxLength : Nat := 2147483647

/-- The number of bytes of a value; null has none. -/
def cellLength : Cell → Nat
  | none => 0
  | some bytes => bytes.length

/-- The bytes of an integer of four bytes. -/
def wireInt (i : Int) : Bytes :=
  signedBigEndian 4 i

/-- The bytes of an element with its length before them. -/
def cellBytes : Cell → Bytes
  | none => wireInt (-1)
  | some bytes => wireInt bytes.length ++ bytes

/-- The wire form of an array with the given elements. -/
def arrayBytes (elementType : Nat) (firstIndex : Int) (cells : List Cell) : Bytes :=
  wireInt 1 ++ wireInt (if cells.any Option.isNone then 1 else 0) ++ bigEndian 4 elementType ++
    wireInt cells.length ++ wireInt firstIndex ++ cells.flatMap cellBytes

/-- The integer of the first four bytes, and what follows them. -/
def takeInt? (bytes : Bytes) : Option (Int × Bytes) :=
  if bytes.length < 4 then none
  else some (ofSignedBigEndian (bytes.take 4), bytes.drop 4)

/-- The first element, and what follows it. -/
def takeCell? (bytes : Bytes) : Option (Cell × Bytes) := do
  let (length, rest) ← takeInt? bytes
  if length < 0 then some (none, rest)
  else if rest.length < length.toNat then none
  else some (some (rest.take length.toNat), rest.drop length.toNat)

/-- A number of elements, after which nothing follows. -/
def cells? : Nat → Bytes → Option (List Cell)
  | 0, bytes => if bytes.isEmpty then some [] else none
  | count + 1, bytes => do
    let (cell, rest) ← takeCell? bytes
    let cells ← cells? count rest
    return cell :: cells

/-- The elements of the wire form of an array of at most one dimension. -/
def arrayCells? (bytes : Bytes) : Option (List Cell) := do
  let (dimensions, rest) ← takeInt? bytes
  let (_, rest) ← takeInt? rest
  let (_, rest) ← takeInt? rest
  if dimensions = 0 then cells? 0 rest
  else if dimensions = 1 then
    let (length, rest) ← takeInt? rest
    let (_, rest) ← takeInt? rest
    if length < 0 then none else cells? length.toNat rest
  else none

theorem length_wireInt (i : Int) : (wireInt i).length = 4 :=
  length_signedBigEndian 4 i

theorem takeInt?_append {head : Bytes} (hlength : head.length = 4) (rest : Bytes) :
    takeInt? (head ++ rest) = some (ofSignedBigEndian head, rest) := by
  have henough : ¬ (head ++ rest).length < 4 := by
    rw [List.length_append, hlength]
    omega
  rw [takeInt?, if_neg henough, List.take_left' hlength, List.drop_left' hlength]

theorem takeInt?_wireInt {i : Int} (hlow : -1 ≤ i) (hhigh : i ≤ maxLength) (rest : Bytes) :
    takeInt? (wireInt i ++ rest) = some (i, rest) := by
  have hmodulus : twoTo (8 * 4) = 4294967296 := rfl
  have hmax : maxLength = 2147483647 := rfl
  have hvalue : ofSignedBigEndian (wireInt i) = i :=
    ofSignedBigEndian_signedBigEndian (by omega) (by omega)
  rw [takeInt?_append (length_wireInt i), hvalue]

/-- An element is read back from its bytes, whatever follows them. -/
theorem takeCell?_cellBytes {cell : Cell} (hlength : cellLength cell ≤ maxLength) (rest : Bytes) :
    takeCell? (cellBytes cell ++ rest) = some (cell, rest) := by
  cases cell with
  | none =>
    rw [cellBytes, takeCell?, takeInt?_wireInt (by decide) (by decide)]
    rfl
  | some bytes =>
    change bytes.length ≤ maxLength at hlength
    have hnonneg : ¬ (bytes.length : Int) < 0 := by omega
    have henough : ¬ (bytes ++ rest).length < bytes.length := by
      rw [List.length_append]
      omega
    rw [cellBytes, takeCell?, List.append_assoc, takeInt?_wireInt (by omega) (by omega)]
    simp only [Option.bind_eq_bind, Option.bind_some, if_neg hnonneg, Int.toNat_natCast,
      if_neg henough, List.take_left, List.drop_left]

theorem cells?_flatMap {cells : List Cell}
    (hlengths : ∀ cell ∈ cells, cellLength cell ≤ maxLength) :
    cells? cells.length (cells.flatMap cellBytes) = some cells := by
  induction cells with
  | nil => rfl
  | cons cell cells ih =>
    have hcell := takeCell?_cellBytes (hlengths cell List.mem_cons_self) (cells.flatMap cellBytes)
    have hcells := ih fun other hother => hlengths other (List.mem_cons_of_mem cell hother)
    rw [List.flatMap_cons, List.length_cons, cells?, hcell]
    simp only [Option.bind_eq_bind, Option.bind_some, hcells]
    rfl

/-- The elements of an array are read back from its wire form, nulls among them. -/
theorem arrayCells?_arrayBytes {cells : List Cell} (hcount : cells.length ≤ maxLength)
    (hlengths : ∀ cell ∈ cells, cellLength cell ≤ maxLength) (elementType : Nat)
    (firstIndex : Int) : arrayCells? (arrayBytes elementType firstIndex cells) = some cells := by
  have hdimensions := takeInt?_wireInt (i := 1) (by decide) (by decide)
  have hmark := takeInt?_append (length_wireInt (if cells.any Option.isNone then 1 else 0))
  have htype := takeInt?_append (length_bigEndian 4 elementType)
  have hnumber := takeInt?_wireInt (i := cells.length) (by omega) (by omega)
  have hindex := takeInt?_append (length_wireInt firstIndex)
  have hnonneg : ¬ (cells.length : Int) < 0 := by omega
  simp only [arrayCells?, arrayBytes, List.append_assoc, Option.bind_eq_bind, hdimensions, hmark,
    htype, hnumber, hindex, Option.bind_some, if_neg hnonneg, Int.toNat_natCast,
    cells?_flatMap hlengths]
  rfl

example : arrayCells? (arrayBytes 23 1 [some [7], none]) = some [some [7], none] := by decide

end SqlPipeline.Postgres
