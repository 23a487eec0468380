import SqlPipeline.Text.Blank
import SqlPipeline.Text.Hex

/-!
Universally unique identifiers: sixteen bytes, and their text.

An identifier is written as 32 small hexadecimal digits in groups of 8, 4, 4, 4 and 12 with hyphens
between them. The reader takes digits of either case, and also the digits without hyphens, the
groups in braces, and the groups after `urn:uuid:`. Main statement: an identifier is read back from
its text.
-/

namespace SqlPipeline

structure Uuid where
  bytes : Bytes
  length_eq : bytes.length = 16
  deriving DecidableEq

namespace Uuid

/-- The identifier with the given bytes, if they are sixteen. -/
def ofBytes? (bytes : Bytes) : Option Uuid :=
  if h : bytes.length = 16 then some ⟨bytes, h⟩ else none

/-- The digits in groups of 8, 4, 4, 4 and 12. -/
def grouped (digits : List Char) : List Char :=
  digits.take 8 ++ '-' :: (digits.drop 8).take 4 ++ '-' :: (digits.drop 12).take 4 ++
    '-' :: (digits.drop 16).take 4 ++ '-' :: digits.drop 20

/-- The text of an identifier. -/
def text (u : Uuid) : String :=
  String.ofList (grouped (hexDigits u.bytes))

/-- The digits of a text in groups; there are 36 characters, and a hyphen between the groups. -/
def ungrouped? (cs : List Char) : Option (List Char) :=
  if cs.length = 36 ∧ cs[8]? = some '-' ∧ cs[13]? = some '-' ∧ cs[18]? = some '-' ∧
      cs[23]? = some '-' then
    some (cs.take 8 ++ (cs.drop 9).take 4 ++ (cs.drop 14).take 4 ++ (cs.drop 19).take 4 ++
      cs.drop 24)
  else none

/-- The groups of digits without what may stand around them. -/
def unwrapped (cs : List Char) : List Char :=
  if cs.length = 38 ∧ cs.head? = some '\x7b' ∧ cs.getLast? = some '\x7d' then
    (cs.drop 1).take 36
  else if cs.length = 45 ∧ lowerAscii (String.ofList (cs.take 9)) = "urn:uuid:" then cs.drop 9
  else cs

/-- The identifier that a text stands for. -/
def read? (s : String) : Option Uuid := do
  let cs := s.toList
  let digits ← if cs.length = 32 then some cs else ungrouped? (unwrapped cs)
  let bytes ← hexBytes? digits
  ofBytes? bytes

/-- The groups of some digits, with hyphens between them. -/
theorem grouped_append {a b c d e : List Char} (ha : a.length = 8) (hb : b.length = 4)
    (hc : c.length = 4) (hd : d.length = 4) :
    grouped (a ++ (b ++ (c ++ (d ++ e)))) =
      a ++ '-' :: (b ++ '-' :: (c ++ '-' :: (d ++ '-' :: e))) := by
  simp (disch := omega) [grouped, List.drop_append, List.drop_eq_nil_of_le, ha, hb, hc]

/-- Digits are read from their groups. -/
theorem ungrouped?_append {a b c d e : List Char} (ha : a.length = 8) (hb : b.length = 4)
    (hc : c.length = 4) (hd : d.length = 4) (he : e.length = 12) :
    ungrouped? (a ++ '-' :: (b ++ '-' :: (c ++ '-' :: (d ++ '-' :: e)))) =
      some (a ++ (b ++ (c ++ (d ++ e)))) := by
  simp (disch := omega) [ungrouped?, List.drop_append, List.drop_eq_nil_of_le,
    List.getElem?_append_right, ha, hb, hc, hd, he]
  exact ⟨rfl, rfl, rfl, rfl⟩

theorem exists_groups {digits : List Char} (h : digits.length = 32) :
    ∃ a b c d e : List Char, a.length = 8 ∧ b.length = 4 ∧ c.length = 4 ∧ d.length = 4 ∧
      e.length = 12 ∧ digits = a ++ (b ++ (c ++ (d ++ e))) := by
  have hstep : ∀ n, (digits.drop n).take 4 ++ digits.drop (n + 4) = digits.drop n := by
    intro n
    rw [← List.drop_drop, List.take_append_drop]
  refine ⟨digits.take 8, (digits.drop 8).take 4, (digits.drop 12).take 4,
    (digits.drop 16).take 4, digits.drop 20, by simp [h], by simp [h], by simp [h], by simp [h],
    by simp [h], ?_⟩
  rw [hstep 16, hstep 12, hstep 8, List.take_append_drop]

/-- An identifier is read back from its text. -/
theorem read?_text (u : Uuid) : read? u.text = some u := by
  have hdigits : (hexDigits u.bytes).length = 32 := by rw [length_hexDigits, u.length_eq]
  obtain ⟨a, b, c, d, e, ha, hb, hc, hd, he, hgroups⟩ := exists_groups hdigits
  have hlist : u.text.toList = a ++ '-' :: (b ++ '-' :: (c ++ '-' :: (d ++ '-' :: e))) := by
    rw [text, String.toList_ofList, hgroups, grouped_append ha hb hc hd]
  have hlength : u.text.toList.length = 36 := by simp [hlist, ha, hb, hc, hd, he]
  have hunwrapped : unwrapped u.text.toList = u.text.toList := by
    rw [unwrapped, if_neg (by omega), if_neg (by omega)]
  have hread : ungrouped? u.text.toList = some (hexDigits u.bytes) := by
    rw [hlist, ungrouped?_append ha hb hc hd he, hgroups]
  have hof : ofBytes? u.bytes = some u := dif_pos u.length_eq
  simp only [read?, hunwrapped, if_neg (show ¬u.text.toList.length = 32 by omega), hread,
    hexBytes?_hexDigits, hof, Option.bind_eq_bind, Option.bind_some]

end Uuid

end SqlPipeline
