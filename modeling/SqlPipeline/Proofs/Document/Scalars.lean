import SqlPipeline.Proofs.Calendar.Text
import SqlPipeline.Value.Json

/-!
Scalars in documents.

An identifier and an instant become their text in a document, and come back only because the read
of their type takes the text too. Main statement: a truth value, an integer, a finite double, a
text, an identifier and an instant of the years 0 to 9999 are each read back from their document.
-/

namespace SqlPipeline
namespace Value

/-- The scalar is read back, as its type, from the value of its document. -/
def Survives {α : Type} [ToValue α] (read : Reader α) (x : α) : Prop :=
  read (ofJson (toValue x).toJson) = .ok x

theorem survives_int64 (i : Int64) : Survives readInt64 i := by
  have hsigned : (JsonInt.ofInt64 i).val < 9223372036854775808 := i.toInt_lt
  have hword : (JsonInt.ofInt64 i).toInt64? = some i := by
    rw [JsonInt.toInt64?, if_pos hsigned]
    exact congrArg some i.ofInt_toInt
  change readInt64 (ofJson (.number (.int (JsonInt.ofInt64 i)))) = _
  rw [ofJson, hword]
  rfl

theorem survives_double {x : Binary64} (hfinite : x.isFinite = true) : Survives readDouble x := by
  change readDouble (ofJson (Json.ofDouble x)) = _
  rw [Json.ofDouble, dif_pos hfinite]
  rfl

theorem survives_uuid (u : Uuid) : Survives readUuid u := by
  change readUuid (.text u.text) = _
  rw [readUuid, u.read?_text]

theorem survives_timestamp {t : Timestamp} (hyear : 0 ≤ t.date.year ∧ t.date.year ≤ 9999) :
    Survives readTimestamp t := by
  change readTimestamp (.text t.text) = _
  rw [readTimestamp, Timestamp.read?_text hyear]

/-- Each scalar is read back from its document: a truth value, an integer of 64 bits, a double that
is finite, a text, an identifier, and an instant of the years of four digits with its nanoseconds,
also within a leap second. -/
theorem scalars_survive :
    (∀ b : Bool, Survives readBool b) ∧ (∀ i : Int64, Survives readInt64 i) ∧
    (∀ x : Binary64, x.isFinite = true → Survives readDouble x) ∧
    (∀ s : String, Survives readText s) ∧ (∀ u : Uuid, Survives readUuid u) ∧
    ∀ t : Timestamp, 0 ≤ t.date.year ∧ t.date.year ≤ 9999 → Survives readTimestamp t :=
  ⟨fun _ => rfl, survives_int64, fun _ => survives_double, fun _ => rfl, survives_uuid,
    fun _ => survives_timestamp⟩

namespace ScalarsWitness

/-- The least double above zero. -/
def tiny : Binary64 := ⟨1⟩

/-- Within the leap second at the end of the year 2016. -/
def leap : Timestamp := ⟨1483228799, 1123456789, by decide, by decide⟩

end ScalarsWitness

open ScalarsWitness in
theorem scalars_survive_leap :
    tiny.isFinite = true ∧ (0 ≤ leap.date.year ∧ leap.date.year ≤ 9999) ∧
    leap.text = "2016-12-31T23:59:60.123456789Z" ∧
    readDouble (ofJson (Value.float tiny).toJson) = .ok tiny ∧
    readTimestamp (ofJson (Value.timestamp leap).toJson) = .ok leap := by
  have hfinite : tiny.isFinite = true := by decide
  have hyear : 0 ≤ leap.date.year ∧ leap.date.year ≤ 9999 := by decide
  have htext : leap.text = "2016-12-31T23:59:60.123456789Z" := by decide +kernel
  obtain ⟨-, -, hdouble, -, -, htimestamp⟩ := scalars_survive
  exact ⟨hfinite, hyear, htext, hdouble tiny hfinite, htimestamp leap hyear⟩

end Value
end SqlPipeline
