import SqlPipeline.Proofs.Document.Members
import SqlPipeline.Proofs.Number.Nearest
import SqlPipeline.Row

/-!
Documents as values, and back.

An object is a value as it is, and the integers of a value are those of a signed word. Main
statement: the columns of an object make a row whose document is the object again, and a document
read as a value and back is the same document, with each greater integer outside of their objects
turned into a double next to it.
-/

namespace SqlPipeline

namespace Json

/-- Induction on a document: what holds of an array may use that it holds of each item. -/
@[elab_as_elim]
theorem induction {motive : Json → Prop} (null : motive .null) (bool : ∀ b, motive (.bool b))
    (number : ∀ n, motive (.number n)) (string : ∀ s, motive (.string s))
    (array : ∀ items, (∀ x ∈ items, motive x) → motive (.array items))
    (object : ∀ members, motive (.object members)) (x : Json) : motive x :=
  x.rec (motive_2 := fun items => ∀ x ∈ items, motive x) (motive_3 := fun _ => True)
    (motive_4 := fun _ => True) null bool number string array (fun members _ => object members)
    (fun _ h => nomatch h) (fun _ _ hhead htail => List.forall_mem_cons.2 ⟨hhead, htail⟩) trivial
    (fun _ _ _ _ => trivial) fun _ _ _ => trivial

mutual

/-- The integers of a document outside of its objects. -/
def outerInts : Json → List JsonInt
  | .number (.int i) => [i]
  | .number (.float _ _) => []
  | .array items => outerIntsAll items
  | .null | .bool _ | .string _ | .object _ => []

def outerIntsAll : List Json → List JsonInt
  | [] => []
  | x :: rest => outerInts x ++ outerIntsAll rest

end

theorem mem_outerIntsAll {i : JsonInt} {items : List Json} :
    i ∈ outerIntsAll items ↔ ∃ x ∈ items, i ∈ x.outerInts := by
  induction items with
  | nil => simp [outerIntsAll]
  | cons x rest ih => rw [outerIntsAll, List.mem_append, ih, List.exists_mem_cons_iff]

/-- The integers of the document outside of its objects are those of signed words. -/
def Signed (x : Json) : Prop :=
  ∀ i ∈ x.outerInts, i.val < 9223372036854775808

theorem signed_array {items : List Json} : (array items).Signed ↔ ∀ x ∈ items, x.Signed := by
  constructor
  · intro h x hx i hi
    exact h i (mem_outerIntsAll.2 ⟨x, hx, hi⟩)
  · intro h i hi
    obtain ⟨x, hx, hi⟩ := mem_outerIntsAll.1 hi
    exact h x hx i hi

mutual

/-- The document with each integer outside of its objects that no signed word holds turned into a
double. -/
def rounded : Json → Json
  | .number (.int i) =>
    if i.val < 9223372036854775808 then .number (.int i) else ofDouble (Binary64.ofInt i.val)
  | .number (.float x finite) => .number (.float x finite)
  | .array items => .array (roundedAll items)
  | .null => .null
  | .bool b => .bool b
  | .string s => .string s
  | .object members => .object members

def roundedAll : List Json → List Json
  | [] => []
  | x :: rest => rounded x :: roundedAll rest

end

theorem roundedAll_eq_map (items : List Json) : roundedAll items = items.map rounded := by
  induction items with
  | nil => rfl
  | cons x rest ih => rw [roundedAll, ih, List.map_cons]

theorem ofDouble_ne_int (x : Binary64) (i : JsonInt) : ofDouble x ≠ .number (.int i) := by
  rw [ofDouble]
  split <;> nofun

/-- Rounding keeps a document exactly when its outer integers are those of signed words. -/
theorem rounded_eq_self_iff (x : Json) : x.rounded = x ↔ x.Signed := by
  induction x using Json.induction with
  | null | bool _ | string _ | object _ => exact iff_of_true rfl (List.forall_mem_nil _)
  | number n =>
      cases n with
      | float x finite => exact iff_of_true rfl (List.forall_mem_nil _)
      | int i =>
          rw [rounded, Signed, outerInts, List.forall_mem_singleton]
          split
          · next hsigned => exact iff_of_true rfl hsigned
          · next hwide => exact iff_of_false (ofDouble_ne_int _ i) hwide
  | array items ih =>
      rw [rounded, roundedAll_eq_map, Json.array.injEq, signed_array]
      constructor
      · intro h x hx
        have hmap : items.map rounded = items.map id := h.trans items.map_id.symm
        exact (ih x hx).1 (List.map_inj_left.1 hmap x hx)
      · intro h
        have hmap : items.map rounded = items.map id :=
          List.map_congr_left fun x hx => (ih x hx).2 (h x hx)
        exact hmap.trans items.map_id

/-- An integer that no signed word holds becomes a finite double at most 1024 away. -/
theorem rounded_wide (i : JsonInt) (hwide : 9223372036854775808 ≤ i.val) :
    ∃ x finite n, (number (.int i)).rounded = .number (.float x finite) ∧ x.IsNat n ∧
      ((n : Int) - i.val).natAbs ≤ 1024 := by
  obtain ⟨n, hnat, hnear⟩ := @Binary64.ofInt_near i.val 11 hwide i.upper (by decide)
  refine ⟨Binary64.ofInt i.val, hnat.1, n, ?_, hnat, by omega⟩
  rw [rounded, if_neg (Int.not_lt.2 hwide), ofDouble, dif_pos hnat.1]

end Json

namespace Value

theorem toJsons_eq_map (values : List Value) : toJsons values = values.map toJson := by
  induction values with
  | nil => rfl
  | cons v rest ih => rw [toJsons, ih, List.map_cons]

theorem ofJsons_eq_map (items : List Json) : ofJsons items = items.map ofJson := by
  induction items with
  | nil => rfl
  | cons x rest ih => rw [ofJsons, ih, List.map_cons]

/-- The signed word of an integer stands for the integer. -/
theorem ofInt64_ofInt {i : JsonInt} (hsigned : i.val < 9223372036854775808) :
    JsonInt.ofInt64 (Int64.ofInt i.val) = i := by
  have hval : (Int64.ofInt i.val).toInt = i.val := Int64.toInt_ofInt_of_le i.lower hsigned
  cases i
  exact JsonInt.mk.injEq .. ▸ hval

/-- A document read as a value and back is the document with its wide integers rounded. -/
theorem toJson_ofJson (x : Json) : (ofJson x).toJson = x.rounded := by
  induction x using Json.induction with
  | null | bool _ | string _ | object _ => rfl
  | number n =>
      cases n with
      | float x finite => exact dif_pos finite
      | int i =>
          rw [Json.rounded, ofJson, JsonInt.toInt64?]
          by_cases hsigned : i.val < 9223372036854775808
          · rw [if_pos hsigned, if_pos hsigned, toJson, ofInt64_ofInt hsigned]
          · rw [if_neg hsigned, if_neg hsigned, toJson]
  | array items ih =>
      rw [ofJson, toJson, Json.rounded, toJsons_eq_map, ofJsons_eq_map, Json.roundedAll_eq_map,
        List.map_map]
      exact congrArg Json.array (List.map_congr_left ih)

end Value

theorem Row.fields_ofPairs (pairs : List (String × Value)) : (Row.ofPairs pairs).fields = pairs :=
  (List.zip_of_prod rfl rfl).symm

namespace Json

variable {members : List (String × Json)}

/-- The members of an object become columns of a row, whose document has the same names. -/
theorem toJson_row_of_ascending (h : Ascending members) :
    (Row.ofPairs (members.map fun m => (m.1, Value.ofJson m.2))).toJson =
      .object (members.map fun m => (m.1, m.2.rounded)) := by
  have hrounded : Ascending (members.map fun m => (m.1, m.2.rounded)) := List.pairwise_map.2 h
  rw [Row.toJson, Row.fields_ofPairs, List.map_map, ← ofMembers_of_ascending hrounded]
  congr 2
  funext m
  exact congrArg (Prod.mk m.1) (Value.toJson_ofJson m.2)

theorem map_rounded_eq_self_iff :
    (members.map fun m => (m.1, m.2.rounded)) = members ↔ ∀ m ∈ members, m.2.Signed := by
  constructor
  · intro h m hm
    have hmap := h.trans members.map_id.symm
    exact (rounded_eq_self_iff m.2).1 (congrArg Prod.snd (List.map_inj_left.1 hmap m hm))
  · intro h
    refine Eq.trans (List.map_congr_left ?_) members.map_id
    intro m hm
    exact congrArg (Prod.mk m.1) ((rounded_eq_self_iff m.2).2 (h m hm))

/-- Documents and objects are read back. A document comes back from its value, and an object from
the row of its columns, with each integer that no signed word holds rounded to a finite double at
most 1024 away, outside of the value's and of the columns' objects; it comes back as it was exactly
when there is no such integer. -/
theorem read_back :
    (∀ x : Json, (Value.ofJson x).toJson = x.rounded ∧
      ((Value.ofJson x).toJson = x ↔ x.Signed)) ∧
    (∀ members, Ascending members → ∃ record, Record.ofJson (.object members) = .ok record ∧
      (Row.ofPairs record.fields).toJson = .object (members.map fun m => (m.1, m.2.rounded)) ∧
      ((Row.ofPairs record.fields).toJson = .object members ↔ ∀ m ∈ members, m.2.Signed)) ∧
    ∀ i : JsonInt, 9223372036854775808 ≤ i.val → ∃ x finite n,
      (number (.int i)).rounded = .number (.float x finite) ∧ x.IsNat n ∧
        ((n : Int) - i.val).natAbs ≤ 1024 := by
  refine ⟨?_, ?_, rounded_wide⟩
  · intro x
    rw [Value.toJson_ofJson]
    exact ⟨rfl, rounded_eq_self_iff x⟩
  · intro members hascending
    refine ⟨_, rfl, toJson_row_of_ascending hascending, ?_⟩
    rw [toJson_row_of_ascending hascending, object.injEq, map_rounded_eq_self_iff]

namespace MarshalingWitness

/-- The greatest integer of a document. -/
def greatest : JsonInt := ⟨18446744073709551615, by decide, by decide⟩

/-- The double after it. -/
def next : Binary64 := ⟨0x43f0000000000000⟩

/-- The members of an order, with the greatest integer in an object and outside. -/
def order : List (String × Json) :=
  [("lines", .array [.string "a", .null]), ("note", .object [("n", .number (.int greatest))]),
    ("total", .number (.int greatest))]

end MarshalingWitness

open MarshalingWitness in
theorem read_back_order :
    Ascending order ∧ 9223372036854775808 ≤ greatest.val ∧
    (∃ record, Record.ofJson (.object order) = .ok record ∧
      (Row.ofPairs record.fields).toJson = .object (order.map fun m => (m.1, m.2.rounded)) ∧
      ((Row.ofPairs record.fields).toJson = .object order ↔ ∀ m ∈ order, m.2.Signed)) ∧
    ∃ x finite n, (number (.int greatest)).rounded = .number (.float x finite) ∧ x.IsNat n ∧
      ((n : Int) - greatest.val).natAbs ≤ 1024 := by
  have hascending : Ascending order := by
    unfold Ascending
    decide +kernel
  have hwide : 9223372036854775808 ≤ greatest.val := by decide
  exact ⟨hascending, hwide, read_back.2.1 order hascending, read_back.2.2 greatest hwide⟩

open MarshalingWitness in
/-- The greatest integer does not come back, neither by itself nor in the row of an object. -/
theorem greatest_not_read_back :
    (Value.ofJson (.number (.int greatest))).toJson = ofDouble next ∧
    (Value.ofJson (.number (.int greatest))).toJson ≠ .number (.int greatest) ∧
    ∃ record, Record.ofJson (.object [("n", .number (.int greatest))]) = .ok record ∧
      (Row.ofPairs record.fields).toJson ≠ .object [("n", .number (.int greatest))] := by
  have hnext : Binary64.ofInt greatest.val = next := by decide +kernel
  have hwide : ¬(number (.int greatest)).Signed := by
    intro h
    exact absurd (h greatest List.mem_cons_self) (by decide)
  refine ⟨congrArg ofDouble hnext, ?_, _, rfl, ?_⟩
  · rw [Value.toJson_ofJson, ne_eq, rounded_eq_self_iff]
    exact hwide
  · have hascending : Ascending [("n", .number (.int greatest))] := List.pairwise_singleton _ _
    rw [toJson_row_of_ascending hascending, ne_eq, object.injEq, map_rounded_eq_self_iff]
    exact fun h => hwide (h _ List.mem_cons_self)

end Json

end SqlPipeline
