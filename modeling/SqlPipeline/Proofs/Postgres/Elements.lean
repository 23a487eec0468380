import SqlPipeline.Proofs.Postgres.Scalar
import Mathlib.Data.List.Forall2

/-!
Lists in columns of arrays.

A list is written element by element, null elements among them, and is read back by the reader of
the element type, which takes no null. Main statement: a list has a wire form if and only if its
elements have one and the lengths can be said, and then it reads back element by element if and only
if no element is null; with a null the column cannot be decoded.
-/

namespace SqlPipeline.Postgres

/-- The plain types of the elements of arrays that can be read. -/
def elementTypes : List Scalar :=
  [.bool, .int2, .int4, .int8, .float8, .text, .varchar, .uuid]

theorem mem_plainTypes_of_element {t : Scalar} (ht : t ∈ elementTypes) : t ∈ plainTypes := by
  revert t
  decide

/-- The wire form of a value as an element. -/
def IsElement (t : ColumnType) (v : Value) (cell : Cell) : Prop :=
  encode v t = .ok cell ∧ cellLength cell ≤ maxLength

theorem checkLength_of_le {length : Nat} (h : length ≤ maxLength) : checkLength length = .ok () :=
  if_pos h

theorem checkLength_of_lt {length : Nat} (h : maxLength < length) :
    checkLength length = .error .wrongType :=
  if_neg (Nat.not_le_of_lt h)

/-! ### Writing -/

theorem encodeItems_cons {t : ColumnType} {v : Value} {cell : Cell} (h : IsElement t v cell)
    (items : List Value) :
    encodeItems (v :: items) t = (cell :: ·) <$> encodeItems items t := by
  rw [encodeItems, h.1]
  change (checkLength (cellLength cell)).bind _ = _
  rw [checkLength_of_le h.2]
  cases encodeItems items t <;> rfl

/-- A value that is no element of the type ends the elements before it. -/
theorem encodeItems_cons_of_none {t : ColumnType} {v : Value} (h : ∀ cell, ¬ IsElement t v cell)
    (items : List Value) : ∃ fault, encodeItems (v :: items) t = .error fault := by
  cases hcell : encode v t with
  | error fault => exact ⟨fault, by rw [encodeItems, hcell]; rfl⟩
  | ok cell =>
    have hlong : maxLength < cellLength cell := by
      by_contra hshort
      exact h cell ⟨hcell, Nat.le_of_not_lt hshort⟩
    refine ⟨.wrongType, ?_⟩
    rw [encodeItems, hcell]
    change (checkLength (cellLength cell)).bind _ = _
    rw [checkLength_of_lt hlong]
    rfl

theorem encodeItems_of_elements {t : ColumnType} {items : List Value} {cells : List Cell}
    (h : List.Forall₂ (IsElement t) items cells) : encodeItems items t = .ok cells := by
  induction h with
  | nil => rfl
  | cons hcell _ ih =>
    rw [encodeItems_cons hcell, ih]
    rfl

theorem elements_of_encodeItems {t : ColumnType} {items : List Value} {cells : List Cell}
    (h : encodeItems items t = .ok cells) : List.Forall₂ (IsElement t) items cells := by
  induction items generalizing cells with
  | nil =>
    obtain rfl : [] = cells := Except.ok.inj h
    exact .nil
  | cons v items ih =>
    by_cases hv : ∃ cell, IsElement t v cell
    · obtain ⟨cell, hcell⟩ := hv
      rw [encodeItems_cons hcell] at h
      cases hitems : encodeItems items t with
      | error fault =>
        rw [hitems] at h
        cases h
      | ok written =>
        rw [hitems] at h
        obtain rfl : cell :: written = cells := Except.ok.inj h
        exact .cons hcell (ih hitems)
    · obtain ⟨fault, hfault⟩ := encodeItems_cons_of_none (not_exists.mp hv) items
      rw [hfault] at h
      cases h

/-- A list is written as an array if and only if its values are elements, and neither they nor the
list is too long. -/
theorem encode_list_eq_ok_iff {t : Scalar} {items : List Value} {cell : Cell} :
    encode (.list items) (.array (.scalar t)) = .ok cell ↔
      items.length ≤ maxLength ∧ ∃ cells, List.Forall₂ (IsElement (.scalar t)) items cells ∧
        cell = some (arrayBytes t.objectId 1 cells) := by
  rw [encode]
  change (checkLength items.length).bind (fun _ => (encodeItems items (.scalar t)).bind _) = _ ↔ _
  constructor
  · intro h
    by_cases hcount : items.length ≤ maxLength
    · rw [checkLength_of_le hcount] at h
      cases hitems : encodeItems items (.scalar t) with
      | error fault =>
        rw [hitems] at h
        cases h
      | ok cells =>
        rw [hitems] at h
        exact ⟨hcount, cells, elements_of_encodeItems hitems, (Except.ok.inj h).symm⟩
    · rw [checkLength_of_lt (Nat.lt_of_not_le hcount)] at h
      cases h
  · rintro ⟨hcount, cells, hcells, rfl⟩
    rw [checkLength_of_le hcount, encodeItems_of_elements hcells]
    rfl

/-! ### Reading -/

theorem some_map_ne_none (written : Except EncodeFault Bytes) : some <$> written ≠ .ok none := by
  cases written <;> nofun

/-- Null alone is written as null. -/
theorem encode_eq_none_iff {t : Scalar} {v : Value} :
    encode v (.scalar t) = .ok none ↔ v = .null := by
  constructor
  · intro h
    cases v with
    | null => rfl
    | list items => cases h
    | _ => exact absurd h (some_map_ne_none _)
  · rintro rfl
    rfl

theorem mapM_of_reads {reader : PlainReader} {cells : List Cell} {values : List Value}
    (h : List.Forall₂ (fun cell w => cell.bind reader = some w) cells values) :
    cells.mapM (fun cell => cell.bind reader) = some values := by
  induction h with
  | nil => rfl
  | cons hread _ ih => simp [List.mapM_cons, hread, ih]

theorem mapM_of_null {reader : PlainReader} {cells : List Cell} (h : none ∈ cells) :
    cells.mapM (fun cell => cell.bind reader) = none := by
  induction cells with
  | nil => cases h
  | cons cell cells ih =>
    rw [List.mapM_cons]
    obtain rfl | h := List.mem_cons.mp h
    · rfl
    · rw [ih h]
      cases cell.bind reader <;> rfl

theorem decodeField_of_unread {arithmetic : Arithmetic} {type : ColumnType} {reader : PlainReader}
    {bytes : Bytes} (hreader : fieldReader? arithmetic type = some (plain reader))
    (hread : reader bytes = none) (name : String) :
    decodeField arithmetic ⟨name, type⟩ (some bytes) =
      .error (.decode name (.malformed type.catalogName)) := by
  simp only [decodeField, hreader, plain, hread]

theorem exists_reader {t : Scalar} (ht : t ∈ elementTypes) :
    ∃ reader, plainReader? t = some reader ∧
      ∀ arithmetic, fieldReader? arithmetic (.array (.scalar t)) =
        some (plain fun bytes => (readElements reader bytes).map .list) := by
  simp only [elementTypes, List.mem_cons, List.not_mem_nil, or_false] at ht
  rcases ht with rfl | rfl | rfl | rfl | rfl | rfl | rfl | rfl <;> exact ⟨_, rfl, fun _ => rfl⟩

theorem reader_of_decodeField {arithmetic : Arithmetic} {t : Scalar} {reader : PlainReader}
    {bytes : Bytes} {w : Value} {name : String} (hreader : plainReader? t = some reader)
    (hread : decodeField arithmetic ⟨name, .scalar t⟩ (some bytes) = .ok w) :
    reader bytes = some w := by
  have hfield : fieldReader? arithmetic (.scalar t) = some (plain reader) :=
    scalarReader?_of_plain hreader arithmetic
  cases hbytes : reader bytes with
  | none =>
    rw [decodeField_of_unread hfield hbytes] at hread
    cases hread
  | some read =>
    rw [decodeField_of_reader hfield hbytes] at hread
    rw [Outcome.ok.inj hread]

section Cells

variable {t : Scalar} {items : List Value} {cells : List Cell}

/-- An element that is not null is read by the reader of its type as it is from a column. -/
theorem exists_value {reader : PlainReader} {v : Value} {cell : Cell} (ht : t ∈ plainTypes)
    (hreader : plainReader? t = some reader) (hcell : IsElement (.scalar t) v cell)
    (hnull : v ≠ .null) : ∃ w, cell.bind reader = some w ∧ ReadsBack (.scalar t) v w := by
  obtain ⟨w, -, hread⟩ := decodeField_of_encode ht hcell.1
  cases cell with
  | none => exact absurd (encode_eq_none_iff.mp hcell.1) hnull
  | some bytes =>
    exact ⟨w, reader_of_decodeField hreader (hread .checked ""), some bytes, hcell.1, hread⟩

theorem exists_values {reader : PlainReader} (ht : t ∈ plainTypes)
    (hreader : plainReader? t = some reader)
    (hcells : List.Forall₂ (IsElement (.scalar t)) items cells) (hnull : .null ∉ items) :
    ∃ values, List.Forall₂ (fun cell w => cell.bind reader = some w) cells values ∧
      List.Forall₂ (ReadsBack (.scalar t)) items values := by
  induction hcells with
  | nil => exact ⟨[], .nil, .nil⟩
  | cons hcell _ ih =>
    rw [List.mem_cons, not_or] at hnull
    obtain ⟨w, hread, hback⟩ := exists_value ht hreader hcell (Ne.symm hnull.1)
    obtain ⟨values, hreads, hbacks⟩ := ih hnull.2
    exact ⟨w :: values, .cons hread hreads, .cons hback hbacks⟩

theorem none_mem_cells (hcells : List.Forall₂ (IsElement (.scalar t)) items cells)
    (hnull : .null ∈ items) : none ∈ cells := by
  induction hcells with
  | nil => cases hnull
  | @cons v cell items cells hcell _ ih =>
    obtain rfl | hnull := List.mem_cons.mp hnull
    · obtain rfl : cell = none := Except.ok.inj (hcell.1.symm.trans rfl)
      exact List.mem_cons_self
    · exact List.mem_cons_of_mem cell (ih hnull)

theorem cellLength_le (hcells : List.Forall₂ (IsElement (.scalar t)) items cells) :
    ∀ cell ∈ cells, cellLength cell ≤ maxLength := by
  induction hcells with
  | nil => nofun
  | cons hcell _ ih => exact List.forall_mem_cons.mpr ⟨hcell.2, ih⟩

theorem readElements_arrayBytes (reader : PlainReader) (hcount : items.length ≤ maxLength)
    (hcells : List.Forall₂ (IsElement (.scalar t)) items cells) :
    readElements reader (arrayBytes t.objectId 1 cells) =
      cells.mapM fun cell => cell.bind reader := by
  rw [hcells.length_eq] at hcount
  rw [readElements, arrayCells?_arrayBytes hcount (cellLength_le hcells)]
  rfl

theorem exists_cells_iff :
    (∃ cells, List.Forall₂ (IsElement (.scalar t)) items cells) ↔
      ∀ v ∈ items, ∃ cell, IsElement (.scalar t) v cell := by
  constructor
  · rintro ⟨cells, hcells⟩
    induction hcells with
    | nil => nofun
    | cons hcell _ ih => exact List.forall_mem_cons.mpr ⟨⟨_, hcell⟩, ih⟩
  · intro hvalues
    induction items with
    | nil => exact ⟨[], .nil⟩
    | cons v items ih =>
      obtain ⟨⟨cell, hcell⟩, hrest⟩ := List.forall_mem_cons.mp hvalues
      obtain ⟨cells, hcells⟩ := ih hrest
      exact ⟨cell :: cells, .cons hcell hcells⟩

theorem encodes_list_iff :
    Encodes (.list items) (.array (.scalar t)) ↔
      items.length ≤ maxLength ∧ ∀ v ∈ items, ∃ cell, IsElement (.scalar t) v cell := by
  rw [← exists_cells_iff]
  constructor
  · rintro ⟨cell, hcell⟩
    obtain ⟨hcount, cells, hcells, -⟩ := encode_list_eq_ok_iff.mp hcell
    exact ⟨hcount, cells, hcells⟩
  · rintro ⟨hcount, cells, hcells⟩
    exact ⟨_, encode_list_eq_ok_iff.mpr ⟨hcount, cells, hcells, rfl⟩⟩

end Cells

/-- Lists in columns of arrays. A list has a wire form if and only if its values are elements and
the lengths can be said. A list without null then reads back value by value; one with a null, at
whatever place, makes the column one that cannot be decoded. -/
theorem lists_read_back {t : Scalar} (ht : t ∈ elementTypes) (arithmetic : Arithmetic)
    (name : String) (items : List Value) :
    (Encodes (.list items) (.array (.scalar t)) ↔
      items.length ≤ maxLength ∧ ∀ v ∈ items, ∃ cell, IsElement (.scalar t) v cell) ∧
    ∀ cell, encode (.list items) (.array (.scalar t)) = .ok cell →
      (.null ∉ items → ∃ values,
        decodeField arithmetic ⟨name, .array (.scalar t)⟩ cell = .ok (.list values) ∧
          List.Forall₂ (ReadsBack (.scalar t)) items values) ∧
      (.null ∈ items → decodeField arithmetic ⟨name, .array (.scalar t)⟩ cell =
        .error (.decode name (.malformed ("_" ++ t.catalogName)))) := by
  refine ⟨encodes_list_iff, fun cell hcell => ?_⟩
  obtain ⟨hcount, cells, hcells, rfl⟩ := encode_list_eq_ok_iff.mp hcell
  obtain ⟨reader, hreader, harray⟩ := exists_reader ht
  have helements := readElements_arrayBytes reader hcount hcells
  constructor
  · intro hnull
    obtain ⟨values, hreads, hbacks⟩ :=
      exists_values (mem_plainTypes_of_element ht) hreader hcells hnull
    refine ⟨values, decodeField_of_reader (harray arithmetic) ?_ name, hbacks⟩
    rw [helements, mapM_of_reads hreads, Option.map_some]
  · intro hnull
    refine decodeField_of_unread (harray arithmetic) ?_ name
    rw [helements, mapM_of_null (none_mem_cells hcells hnull), Option.map_none]

namespace ElementsWitness

/-- Truth values, one of them as an integer. -/
def flags : List Value := [.int 2, .bool false]

def flagBytes : Bytes :=
  wireInt 1 ++ wireInt 0 ++ wireInt 16 ++ wireInt 2 ++ wireInt 1 ++ wireInt 1 ++ [1] ++
    wireInt 1 ++ [0]

/-- Integers, one of them missing. -/
def tags : List Value := [.int 1, .null]

def tagBytes : Bytes :=
  wireInt 1 ++ wireInt 1 ++ wireInt 23 ++ wireInt 2 ++ wireInt 1 ++ wireInt 4 ++ wireInt 1 ++
    wireInt (-1)

end ElementsWitness

open ElementsWitness in
theorem lists_read_back_flags :
    .bool ∈ elementTypes ∧ .null ∉ flags ∧
    encode (.list flags) (.array (.scalar .bool)) = .ok (some flagBytes) ∧
    ∃ values, decodeField .checked ⟨"flags", .array (.scalar .bool)⟩ (some flagBytes) =
      .ok (.list values) ∧ List.Forall₂ (ReadsBack (.scalar .bool)) flags values := by
  have helement : .bool ∈ elementTypes := by decide
  have hnull : .null ∉ flags := by simp [flags]
  have hcell : encode (.list flags) (.array (.scalar .bool)) = .ok (some flagBytes) := by rfl
  obtain ⟨-, hread⟩ := lists_read_back helement .checked "flags" flags
  exact ⟨helement, hnull, hcell, (hread _ hcell).1 hnull⟩

open ElementsWitness in
/-- A null that was written among integers keeps the list from being read, whereas a null that was
written alone is read as null. -/
theorem list_unread_with_null :
    encode (.list tags) (.array (.scalar .int4)) = .ok (some tagBytes) ∧
    decodeField .checked ⟨"tags", .array (.scalar .int4)⟩ (some tagBytes) =
      .error (.decode "tags" (.malformed "_int4")) ∧
    ReadsBack (.scalar .int4) .null .null := by
  have hcells : arrayCells? tagBytes = some [some [0, 0, 0, 1], none] := by decide
  have hunread : (readElements (readInteger 4) tagBytes).map Value.list = none := by
    rw [readElements, hcells]
    rfl
  exact ⟨by rfl, decodeField_of_unread rfl hunread "tags", readsBack_null (by decide)⟩

end SqlPipeline.Postgres
