import SqlPipeline.Number.Binary

/-!
JSON documents.

A number is an integer of a signed or an unsigned 64-bit word, or a finite double. The members of an
object are kept in ascending order of their names, each name once; writing a name again replaces its
value.
-/

namespace SqlPipeline

/-- The integers of a JSON document: those of a signed or an unsigned 64-bit word. -/
structure JsonInt where
  val : Int
  lower : -9223372036854775808 ≤ val
  upper : val < 18446744073709551616
  deriving DecidableEq

namespace JsonInt

/-- The integer, if it is one of a JSON document. -/
def of? (i : Int) : Option JsonInt :=
  if h : -9223372036854775808 ≤ i ∧ i < 18446744073709551616 then some ⟨i, h.1, h.2⟩ else none

/-- The integer of a signed word. -/
def ofInt64 (i : Int64) : JsonInt :=
  ⟨i.toInt, i.le_toInt, by have := i.toInt_lt; omega⟩

/-- The integer of a byte. -/
def ofByte (b : UInt8) : JsonInt :=
  ⟨b.toNat, by omega, by have := b.toNat_lt; omega⟩

/-- The signed word of the same value, if there is one. -/
def toInt64? (i : JsonInt) : Option Int64 :=
  if i.val < 9223372036854775808 then some (Int64.ofInt i.val) else none

end JsonInt

/-- A number of a JSON document. -/
inductive JsonNumber
  | int (i : JsonInt)
  | float (x : Binary64) (finite : x.isFinite = true)
  deriving DecidableEq

/-- A JSON document. -/
inductive Json
  | null
  | bool (b : Bool)
  | number (n : JsonNumber)
  | string (s : String)
  | array (items : List Json)
  | object (members : List (String × Json))

namespace Json

/-- Puts a member into members in ascending order of their names. -/
def putMember (name : String) (value : Json) : List (String × Json) → List (String × Json)
  | [] => [(name, value)]
  | (n, v) :: rest =>
    if name < n then (name, value) :: (n, v) :: rest
    else if name = n then (name, value) :: rest
    else (n, v) :: putMember name value rest

/-- The object with the given members, the last of equal names taking the place of the others. -/
def ofMembers (members : List (String × Json)) : Json :=
  .object (members.foldl (fun acc m => putMember m.1 m.2 acc) [])

/-- The number as a document, and null when it is infinite or not a number. -/
def ofDouble (x : Binary64) : Json :=
  if h : x.isFinite = true then .number (.float x h) else .null

/-- The value of a member. -/
def member? (name : String) : List (String × Json) → Option Json
  | [] => none
  | (n, v) :: rest => if name = n then some v else member? name rest

end Json

end SqlPipeline
