import SqlPipeline.Postgres.Field
import SqlPipeline.Postgres.Parameter

/-!
Scalars in columns.

The wire form of a value is chosen by the kind of the value and the type of the column, and is read
by the type alone. Main statement: a value that has a wire form as one of the plain types reads back
as its normal form in that type, and an integer has one as a type of integers if and only if it is
an integer of that type.
-/

namespace SqlPipeline.Postgres

/-- The types whose columns hold one scalar without a calendar, a document or a rounding. -/
def plainTypes : List Scalar :=
  [.bool, .int2, .int4, .int8, .oid, .float8, .text, .varchar, .bytea, .uuid]

/-- The plain types that hold integers. -/
def integerTypes : List Scalar :=
  [.int2, .int4, .int8, .oid]

/-- The integer, if it lies within bounds. -/
def within? (low high : Int) (i : Int64) : Option Value :=
  if low ≤ i.toInt ∧ i.toInt ≤ high then some (.int i) else none

/-- The normal form of a value in a plain type, if the type holds the value: the value itself in its
own types, the truth, the text or the nearest double of an integer, and the identifier of a text. -/
def normalForm? : Value → Scalar → Option Value
  | .null, _ => some .null
  | .bool b, .bool => some (.bool b)
  | .int i, .int2 => within? (-32768) 32767 i
  | .int i, .int4 => within? (-2147483648) 2147483647 i
  | .int i, .oid => within? 0 4294967295 i
  | .int i, .int8 => some (.int i)
  | .int i, .float8 => some (.float (Binary64.ofInt i.toInt))
  | .int i, .bool => some (.bool (i != 0))
  | .int i, .text => some (.text (intText i.toInt))
  | .int i, .varchar => some (.text (intText i.toInt))
  | .float x, .float8 => some (.float x)
  | .text s, .text => some (.text s)
  | .text s, .varchar => some (.text s)
  | .text s, .uuid => (Uuid.read? s).map .uuid
  | .bytes octets, .bytea => some (.bytes octets)
  | .uuid u, .uuid => some (.uuid u)
  | _, _ => none

/-- The value has a wire form as the type. -/
def Encodes (v : Value) (t : ColumnType) : Prop :=
  ∃ cell, encode v t = .ok cell

/-- A value that is written as the type reads back as another one, in any build. -/
def ReadsBack (t : ColumnType) (v w : Value) : Prop :=
  ∃ cell, encode v t = .ok cell ∧ ∀ arithmetic name, decodeField arithmetic ⟨name, t⟩ cell = .ok w

theorem scalarReader?_of_plain {t : Scalar} {reader : PlainReader}
    (hreader : plainReader? t = some reader) (arithmetic : Arithmetic) :
    scalarReader? arithmetic t = some (plain reader) := by
  have hinterval : t ≠ .interval := by
    rintro rfl
    cases hreader
  rw [scalarReader?, if_neg hinterval, hreader, Option.map_some]

theorem decodeField_of_reader {arithmetic : Arithmetic} {type : ColumnType} {reader : PlainReader}
    {bytes : Bytes} {w : Value} (hreader : fieldReader? arithmetic type = some (plain reader))
    (hread : reader bytes = some w) (name : String) :
    decodeField arithmetic ⟨name, type⟩ (some bytes) = .ok w := by
  simp only [decodeField, hreader, plain, hread]

theorem readsBack_of_reader {t : Scalar} {reader : PlainReader} {bytes : Bytes} {v w : Value}
    (hreader : plainReader? t = some reader) (hencode : encode v (.scalar t) = .ok (some bytes))
    (hread : reader bytes = some w) : ReadsBack (.scalar t) v w :=
  ⟨some bytes, hencode, fun arithmetic =>
    decodeField_of_reader (scalarReader?_of_plain hreader arithmetic) hread⟩

/-! ### Readers -/

theorem readTruth_truth (b : Bool) : readTruth [if b then 1 else 0] = some (.bool b) := by
  cases b <;> rfl

theorem readInteger_signedBigEndian {width : Nat} {i : Int64}
    (hlow : -(twoTo (8 * width) : Int) ≤ 2 * i.toInt) (hhigh : 2 * i.toInt < twoTo (8 * width)) :
    readInteger width (signedBigEndian width i.toInt) = some (.int i) := by
  rw [readInteger, if_pos (length_signedBigEndian width i.toInt),
    ofSignedBigEndian_signedBigEndian hlow hhigh, Int64.ofInt_toInt]

theorem readObjectId_signedBigEndian {i : Int64} (hbounds : 0 ≤ i.toInt ∧ i.toInt ≤ 4294967295) :
    readObjectId (signedBigEndian 4 i.toInt) = some (.int i) := by
  have hmodulus : twoTo (8 * 4) = 4294967296 := rfl
  have hnumber : ofBigEndian (signedBigEndian 4 i.toInt) = i.toInt.toNat := by
    rw [signedBigEndian, hmodulus, Int.emod_eq_of_lt hbounds.1 (by omega)]
    exact ofBigEndian_of_lt (by omega)
  have hword : Int64.ofNat i.toInt.toNat = i := by
    rw [← Int64.ofInt_eq_ofNat, Int.toNat_of_nonneg hbounds.1, Int64.ofInt_toInt]
  rw [readObjectId, if_pos (length_signedBigEndian 4 i.toInt), hnumber, hword]

theorem readDoubleField_doubleBytes (x : Binary64) :
    readDoubleField (doubleBytes x) = some (.float x) := by
  have hlength : (doubleBytes x).length = 8 := length_bigEndian 8 _
  have hbits : ofBigEndian (doubleBytes x) = x.bits.toNat := ofBigEndian_of_lt x.bits.toNat_lt
  rw [readDoubleField, if_pos hlength, hbits, UInt64.ofNat_toNat]

theorem readTextField_utf8 (s : String) : readTextField (utf8 s) = some (.text s) := by
  rw [readTextField, ofUtf8?_utf8, Option.map_some]

theorem readUuidField_bytes (u : Uuid) : readUuidField u.bytes = some (.uuid u) := by
  rw [readUuidField, Uuid.ofBytes?, dif_pos u.length_eq, Option.map_some]

/-! ### Kinds of values -/

theorem readsBack_null {t : Scalar} (ht : t ∈ plainTypes) : ReadsBack (.scalar t) .null .null := by
  refine ⟨none, rfl, fun arithmetic name => ?_⟩
  simp only [plainTypes, List.mem_cons, List.not_mem_nil, or_false] at ht
  rcases ht with rfl | rfl | rfl | rfl | rfl | rfl | rfl | rfl | rfl | rfl <;> rfl

theorem within?_eq_some_iff {low high : Int} {i : Int64} {w : Value} :
    within? low high i = some w ↔ (low ≤ i.toInt ∧ i.toInt ≤ high) ∧ .int i = w := by
  rw [within?, Option.ite_none_right_eq_some, Option.some.injEq]

/-- An integer within the bounds of its type is written with the width of the type. -/
theorem readsBack_within {t : Scalar} {reader : PlainReader} {low high : Int} {width : Nat}
    {i : Int64} {w : Value} (hreader : plainReader? t = some reader)
    (hencode : encodeInt i (.scalar t) = encodeWithin low high width i.toInt)
    (hread : low ≤ i.toInt ∧ i.toInt ≤ high →
      reader (signedBigEndian width i.toInt) = some (.int i))
    (hwithin : within? low high i = some w) : ReadsBack (.scalar t) (.int i) w := by
  obtain ⟨hbounds, rfl⟩ := within?_eq_some_iff.mp hwithin
  refine readsBack_of_reader hreader ?_ (hread hbounds)
  rw [encode, hencode, encodeWithin, if_pos hbounds]
  rfl

theorem encodeInt_bool (i : Int64) :
    encodeInt i (.scalar .bool) = .ok [if (i != 0) = true then 1 else 0] := by
  by_cases hzero : i = 0
  · subst hzero
    rfl
  · rw [encodeInt, if_neg hzero, if_pos (bne_iff_ne.mpr hzero)]

/-- What a plain type holds of a value is read back from it. -/
theorem readsBack_of_normalForm {v w : Value} {t : Scalar} (ht : t ∈ plainTypes)
    (h : normalForm? v t = some w) : ReadsBack (.scalar t) v w := by
  revert h
  fun_cases normalForm? v t with
  | case1 =>
    rintro ⟨⟩
    exact readsBack_null ht
  | case2 b =>
    rintro ⟨⟩
    exact readsBack_of_reader rfl rfl (readTruth_truth b)
  | case3 i =>
    intro h
    refine readsBack_within rfl rfl (fun hbounds => readInteger_signedBigEndian ?_ ?_) h
    all_goals
      have hmodulus : twoTo (8 * 2) = 65536 := rfl
      omega
  | case4 i =>
    intro h
    refine readsBack_within rfl rfl (fun hbounds => readInteger_signedBigEndian ?_ ?_) h
    all_goals
      have hmodulus : twoTo (8 * 4) = 4294967296 := rfl
      omega
  | case5 i => exact readsBack_within rfl rfl readObjectId_signedBigEndian
  | case6 i =>
    rintro ⟨⟩
    refine readsBack_of_reader rfl rfl (readInteger_signedBigEndian ?_ ?_)
    all_goals
      have hmodulus : twoTo (8 * 8) = 18446744073709551616 := rfl
      have hlow := i.le_toInt
      have hhigh := i.toInt_lt
      omega
  | case7 i =>
    rintro ⟨⟩
    exact readsBack_of_reader rfl rfl (readDoubleField_doubleBytes _)
  | case8 i =>
    rintro ⟨⟩
    exact readsBack_of_reader rfl (congrArg (some <$> ·) (encodeInt_bool i)) (readTruth_truth _)
  | case9 i =>
    rintro ⟨⟩
    exact readsBack_of_reader rfl rfl (readTextField_utf8 _)
  | case10 i =>
    rintro ⟨⟩
    exact readsBack_of_reader rfl rfl (readTextField_utf8 _)
  | case11 x =>
    rintro ⟨⟩
    exact readsBack_of_reader rfl rfl (readDoubleField_doubleBytes x)
  | case12 s =>
    rintro ⟨⟩
    exact readsBack_of_reader rfl rfl (readTextField_utf8 s)
  | case13 s =>
    rintro ⟨⟩
    exact readsBack_of_reader rfl rfl (readTextField_utf8 s)
  | case14 s =>
    intro h
    obtain ⟨u, hread, rfl⟩ := Option.map_eq_some_iff.mp h
    refine readsBack_of_reader rfl ?_ (readUuidField_bytes u)
    simp only [encode, encodeText, hread]
    rfl
  | case15 octets =>
    rintro ⟨⟩
    exact readsBack_of_reader rfl rfl rfl
  | case16 u =>
    rintro ⟨⟩
    exact readsBack_of_reader rfl rfl (readUuidField_bytes u)
  | case17 => rintro ⟨⟩

/-! ### What a plain type does not hold -/

theorem encodeInt_of_outside {t : Scalar} {low high : Int} {width : Nat} {i : Int64}
    (hencode : encodeInt i (.scalar t) = encodeWithin low high width i.toInt)
    (h : within? low high i = none) : ¬ Encodes (.int i) (.scalar t) := by
  have houtside : ¬ (low ≤ i.toInt ∧ i.toInt ≤ high) := by
    intro hbounds
    rw [within?, if_pos hbounds] at h
    cases h
  rintro ⟨cell, hcell⟩
  rw [encode, hencode, encodeWithin, if_neg houtside] at hcell
  cases hcell

theorem encodeText_of_no_identifier {s : String} (h : (Uuid.read? s).map Value.uuid = none) :
    ¬ Encodes (.text s) (.scalar .uuid) := by
  rw [Option.map_eq_none_iff] at h
  rintro ⟨cell, hcell⟩
  simp only [encode, encodeText, h] at hcell
  cases hcell

/-- A value without a normal form in a plain type has no wire form as it. -/
theorem not_encodes_of_no_normalForm {v : Value} {t : Scalar} (ht : t ∈ plainTypes)
    (h : normalForm? v t = none) : ¬ Encodes v (.scalar t) := by
  rintro ⟨cell, hcell⟩
  simp only [plainTypes, List.mem_cons, List.not_mem_nil, or_false] at ht
  -- A kind of value is refused outright but for the bounds of integers and the text of identifiers.
  cases v <;> rcases ht with rfl | rfl | rfl | rfl | rfl | rfl | rfl | rfl | rfl | rfl <;>
    first
    | exact encodeInt_of_outside rfl h ⟨cell, hcell⟩
    | exact encodeText_of_no_identifier h ⟨cell, hcell⟩
    | cases h; done
    | cases hcell

/-! ### Round trips -/

theorem encodes_iff {v : Value} {t : Scalar} (ht : t ∈ plainTypes) :
    Encodes v (.scalar t) ↔ (normalForm? v t).isSome = true := by
  constructor
  · intro hencodes
    rw [← Option.ne_none_iff_isSome]
    intro hnone
    exact not_encodes_of_no_normalForm ht hnone hencodes
  · intro hsome
    obtain ⟨w, hnormal⟩ := Option.isSome_iff_exists.mp hsome
    obtain ⟨cell, hcell, -⟩ := readsBack_of_normalForm ht hnormal
    exact ⟨cell, hcell⟩

theorem decodeField_of_encode {v : Value} {t : Scalar} {cell : Cell} (ht : t ∈ plainTypes)
    (hcell : encode v (.scalar t) = .ok cell) :
    ∃ w, normalForm? v t = some w ∧
      ∀ arithmetic name, decodeField arithmetic ⟨name, .scalar t⟩ cell = .ok w := by
  obtain ⟨w, hnormal⟩ := Option.isSome_iff_exists.mp ((encodes_iff ht).mp ⟨cell, hcell⟩)
  obtain ⟨written, hwritten, hread⟩ := readsBack_of_normalForm ht hnormal
  obtain rfl : cell = written := Except.ok.inj (hcell.symm.trans hwritten)
  exact ⟨w, hnormal, hread⟩

theorem mem_plainTypes_of_integer {t : Scalar} (ht : t ∈ integerTypes) : t ∈ plainTypes := by
  revert t
  decide

theorem normalForm?_integer {i : Int64} {t : Scalar} {w : Value} (ht : t ∈ integerTypes)
    (h : normalForm? (.int i) t = some w) : w = .int i := by
  simp only [integerTypes, List.mem_cons, List.not_mem_nil, or_false] at ht
  rcases ht with rfl | rfl | rfl | rfl
  · exact (within?_eq_some_iff.mp h).2.symm
  · exact (within?_eq_some_iff.mp h).2.symm
  · exact (Option.some.inj h).symm
  · exact (within?_eq_some_iff.mp h).2.symm

theorem encodes_within_iff {i : Int64} {t : Scalar} {low high : Int} (ht : t ∈ plainTypes)
    (hnormal : normalForm? (.int i) t = within? low high i) :
    Encodes (.int i) (.scalar t) ↔ low ≤ i.toInt ∧ i.toInt ≤ high := by
  rw [encodes_iff ht, hnormal, within?, Option.isSome_ite]

/-- Scalars in columns of the plain types. A value has a wire form as such a type if and only if it
has a normal form in the type, and its wire form reads back as that. An integer reads back from the
types of integers unchanged, and it has a wire form as one exactly within the bounds of the type. -/
theorem scalars_read_back :
    (∀ t ∈ plainTypes, ∀ v,
      (Encodes v (.scalar t) ↔ (normalForm? v t).isSome = true) ∧
      ∀ cell, encode v (.scalar t) = .ok cell →
        ∃ w, normalForm? v t = some w ∧
          ∀ arithmetic name, decodeField arithmetic ⟨name, .scalar t⟩ cell = .ok w) ∧
    (∀ t ∈ integerTypes, ∀ i cell, encode (.int i) (.scalar t) = .ok cell →
      ∀ arithmetic name, decodeField arithmetic ⟨name, .scalar t⟩ cell = .ok (.int i)) ∧
    ∀ i : Int64,
      (Encodes (.int i) (.scalar .int2) ↔ -32768 ≤ i.toInt ∧ i.toInt ≤ 32767) ∧
      (Encodes (.int i) (.scalar .int4) ↔ -2147483648 ≤ i.toInt ∧ i.toInt ≤ 2147483647) ∧
      (Encodes (.int i) (.scalar .oid) ↔ 0 ≤ i.toInt ∧ i.toInt ≤ 4294967295) ∧
      Encodes (.int i) (.scalar .int8) := by
  refine ⟨fun t ht v => ⟨encodes_iff ht, fun cell => decodeField_of_encode ht⟩, ?_, fun i => ?_⟩
  · intro t ht i cell hcell
    obtain ⟨w, hnormal, hread⟩ := decodeField_of_encode (mem_plainTypes_of_integer ht) hcell
    rwa [normalForm?_integer ht hnormal] at hread
  · exact ⟨encodes_within_iff (by decide) rfl, encodes_within_iff (by decide) rfl,
      encodes_within_iff (by decide) rfl, (encodes_iff (by decide)).mpr rfl⟩

/-- The greatest object identifier, which has no wire form as a signed integer of four bytes. -/
theorem scalars_read_back_greatest :
    .oid ∈ plainTypes ∧ .oid ∈ integerTypes ∧
    encode (.int 4294967295) (.scalar .oid) = .ok (some [255, 255, 255, 255]) ∧
    decodeField .checked ⟨"id", .scalar .oid⟩ (some [255, 255, 255, 255]) =
      .ok (.int 4294967295) ∧
    ¬ Encodes (.int 4294967295) (.scalar .int4) := by
  have hplain : .oid ∈ plainTypes := by decide
  have hinteger : .oid ∈ integerTypes := by decide
  have hcell : encode (.int 4294967295) (.scalar .oid) = .ok (some [255, 255, 255, 255]) := by rfl
  obtain ⟨hread, hunchanged, hbounds⟩ := scalars_read_back
  refine ⟨hplain, hinteger, hcell, hunchanged _ hinteger _ _ hcell _ _, ?_⟩
  rw [(hbounds 4294967295).2.1]
  decide

end SqlPipeline.Postgres
