import SqlPipeline.Proofs.Document.Members
import SqlPipeline.Row

/-!
Reading a row by the name of a column, and as a document.

The typed read goes to the first column of a name, and the document keeps the last one. Main
statement: a row has a value under a name exactly when its document has a member of that name, with
any number of columns and values; and the member is the value's document where the name stands over
one value only.
-/

namespace SqlPipeline
namespace Row

variable (row : Row) (c : String)

/-- The value of a column is that of the first field of that name. A first column without a value
has no later one with a value, since the values run out from the end. -/
theorem value?_eq_lookup : row.value? c = row.fields.lookup c := by
  obtain ⟨columns, values⟩ := row
  change (columns.idxOf? c).bind (values[·]?) = (columns.zip values).lookup c
  induction columns generalizing values with
  | nil => rfl
  | cons column rest ih =>
      rw [List.idxOf?_cons]
      cases values with
      | nil =>
          rw [List.zip_nil_right, List.lookup_nil]
          split <;> simp
      | cons v values =>
          rw [List.zip_cons_cons]
          by_cases hcolumn : column = c
          · simp [hcolumn]
          · rw [if_neg (by simpa using hcolumn), Option.bind_map, List.lookup_cons,
              beq_false_of_ne (Ne.symm hcolumn), ← ih values]
            rfl

theorem lookup_map_toJson (fields : List (String × Value)) :
    (fields.map fun field => (field.1, field.2.toJson)).lookup c =
      (fields.lookup c).map Value.toJson := by
  induction fields with
  | nil => rfl
  | cons field rest ih =>
      obtain ⟨name, value⟩ := field
      rw [List.map_cons, List.lookup_cons, List.lookup_cons, ih]
      cases c == name <;> rfl

/-- The document of a row has under a name the last field of that name. -/
theorem get?_toJson : row.toJson.get? c = (row.fields.reverse.lookup c).map Value.toJson := by
  rw [toJson, Json.get?_ofMembers, ← List.map_reverse, lookup_map_toJson]

theorem isSome_lookup_reverse (fields : List (String × Value)) :
    (fields.reverse.lookup c).isSome = (fields.lookup c).isSome := by
  rw [Bool.eq_iff_iff, List.lookup_isSome_iff, List.lookup_isSome_iff]
  simp only [List.mem_reverse]

theorem lookup_reverse_eq_none {fields : List (String × Value)}
    (hc : c ∉ fields.map Prod.fst) : fields.reverse.lookup c = none := by
  refine List.lookup_eq_none_iff.2 ?_
  intro field hfield
  have hname : field.1 ∈ fields.map Prod.fst :=
    List.mem_map_of_mem (List.mem_reverse.1 hfield)
  exact bne_iff_ne.2 fun h => hc (h ▸ hname)

/-- The first field of a name is the last one where there is only one. -/
theorem lookup_reverse_of_count_le_one {fields : List (String × Value)}
    (honce : (fields.map Prod.fst).count c ≤ 1) : fields.reverse.lookup c = fields.lookup c := by
  induction fields with
  | nil => rfl
  | cons field rest ih =>
      obtain ⟨name, value⟩ := field
      rw [List.map_cons] at honce
      rw [List.reverse_cons, List.lookup_append]
      by_cases hname : name = c
      · subst hname
        rw [List.count_cons_self] at honce
        have hrest : name ∉ rest.map Prod.fst := List.count_eq_zero.1 (by omega)
        rw [lookup_reverse_eq_none name hrest, Option.none_or]
        exact List.lookup_cons_self.trans List.lookup_cons_self.symm
      · rw [List.count_cons_of_ne hname] at honce
        rw [ih honce, List.lookup_cons, List.lookup_cons, beq_false_of_ne (Ne.symm hname)]
        exact Option.or_none

/-- The document of a row is an object, and both readings of the row by a name find a column or
neither does: the typed one its first field, the document its last. They give the same where the
name stands over one value only. -/
theorem readings_by_name :
    (∃ members, row.toJson = .object members ∧ Json.Ascending members) ∧ ∀ c : String,
      ((row.toJson.get? c).isSome ↔ (row.value? c).isSome) ∧
      row.value? c = row.fields.lookup c ∧
      row.toJson.get? c = (row.fields.reverse.lookup c).map Value.toJson ∧
      ((row.fields.map Prod.fst).count c ≤ 1 →
        row.toJson.get? c = (row.value? c).map Value.toJson) := by
  refine ⟨Json.exists_ascending_ofMembers _, ?_⟩
  intro c
  refine ⟨?_, row.value?_eq_lookup c, row.get?_toJson c, ?_⟩
  · rw [get?_toJson, Option.isSome_map, isSome_lookup_reverse, value?_eq_lookup]
  · intro honce
    rw [get?_toJson, lookup_reverse_of_count_le_one c honce, value?_eq_lookup]

namespace ColumnsWitness

/-- A row with the columns of two joined tables and a value too few. -/
def joined : Row := ⟨["id", "name", "id", "note"], [.int 1, .text "ann", .int 2]⟩

end ColumnsWitness

open ColumnsWitness in
theorem readings_by_name_joined :
    (joined.fields.map Prod.fst).count "name" ≤ 1 ∧
    joined.toJson.get? "name" = (joined.value? "name").map Value.toJson ∧
    joined.toJson.get? "name" = some (.string "ann") :=
  have honce : (joined.fields.map Prod.fst).count "name" ≤ 1 := by decide
  ⟨honce, (joined.readings_by_name.2 "name").2.2.2 honce, rfl⟩

open ColumnsWitness in
/-- The column of both tables reads differently. -/
theorem readings_differ_joined :
    joined.value? "id" = some (.int 1) ∧
    joined.toJson.get? "id" = some (.number (.int (.ofInt64 2))) ∧
    joined.toJson.get? "id" ≠ (joined.value? "id").map Value.toJson := by
  refine ⟨rfl, rfl, ?_⟩
  intro h
  have hnumber : JsonNumber.int (.ofInt64 2) = .int (.ofInt64 1) :=
    Json.number.inj (Option.some.inj h)
  exact absurd hnumber (by decide)

end Row
end SqlPipeline
