import SqlPipeline.Text.BigEndian
import SqlPipeline.Text.Digits

/-!
Internet addresses and their text.

An address of four bytes is written as four decimal numbers with points between them. One of
sixteen bytes is eight groups of hexadecimal digits with colons between them, the first of the
longest runs of two or more zero groups being written as a double colon; an address that carries
one of four bytes is written with that one after `::ffff:`.
-/

namespace SqlPipeline.Postgres

/-- An internet address. -/
inductive Inet
  | v4 (bytes : Bytes)
  | v6 (bytes : Bytes)
  deriving DecidableEq

namespace Inet

/-- The characters of some parts with a separator between them. -/
def joined (separator : Char) (parts : List (List Char)) : List Char :=
  [separator].intercalate parts

/-- The characters of an address of four bytes. -/
def v4Digits (bytes : Bytes) : List Char :=
  joined '.' (bytes.map fun b => natDigits b.toNat)

/-- The groups of two bytes. -/
def groups : Bytes → List Nat
  | high :: low :: rest => ofBigEndian [high, low] :: groups rest
  | _ => []

/-- The number of zero groups from an index on. -/
def zerosFrom (groups : List Nat) (index : Nat) : Nat :=
  ((groups.drop index).takeWhile (· == 0)).length

/-- The index and the length of the first of the longest runs of zero groups. -/
def longestZeros (groups : List Nat) : Nat × Nat :=
  (List.range groups.length).foldl
    (fun best i => if best.2 < zerosFrom groups i then (i, zerosFrom groups i) else best) (0, 0)

/-- The characters of some groups. -/
def groupDigits (groups : List Nat) : List Char :=
  joined ':' (groups.map natHex)

/-- The characters of an address of sixteen bytes. -/
def v6Digits (bytes : Bytes) : List Char :=
  if bytes.take 12 = List.replicate 10 0 ++ [255, 255] then
    "::ffff:".toList ++ v4Digits (bytes.drop 12)
  else
    let all := groups bytes
    let (start, length) := longestZeros all
    if 1 < length then
      groupDigits (all.take start) ++ [':', ':'] ++ groupDigits (all.drop (start + length))
    else groupDigits all

/-- The text of an address. -/
def text : Inet → String
  | .v4 bytes => String.ofList (v4Digits bytes)
  | .v6 bytes => String.ofList (v6Digits bytes)

/-- The address of its wire form: the family, the bits of the network, a mark that is not looked
at, the number of bytes and the bytes. -/
def ofBytes? : Bytes → Option Inet
  | family :: bits :: _ :: size :: address =>
    if address.length ≠ size.toNat then none
    else if family = 2 ∧ bits ≤ 32 ∧ size = 4 then some (.v4 address)
    else if family = 3 ∧ bits ≤ 128 ∧ size = 16 then some (.v6 address)
    else none
  | _ => none

end Inet

example : (Inet.v6 (List.replicate 15 0 ++ [1])).text = "::1" := by decide +kernel

end SqlPipeline.Postgres
