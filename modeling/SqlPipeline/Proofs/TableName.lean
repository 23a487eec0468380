import SqlPipeline.Proofs.Identifier
import SqlPipeline.Statement.Compile

/-!
Names of tables as PostgreSQL reads them.

A bare name stands for itself in small letters, a quoted one exactly for what it holds. A table that
a query reads from is exposed under its alias, or under its own name. Main statements: a plain table
that is written between quotes, alone or before an alias, exposes the name that it should; the name
by which a projection refers to the table stands for the same identifier if and only if the alias
has no blank character or, without an alias, the name of the table has no capital letter.
-/

namespace SqlPipeline

/-- A character with which a bare name begins; every character beyond ASCII is one. -/
def isNameStart (c : Char) : Bool :=
  c.isAlpha || c == '_' || 128 ≤ c.toNat

/-- A character with which a bare name goes on. -/
def isNameChar (c : Char) : Bool :=
  isNameStart c || isDigit c || c == '$'

/-- White space between the words of a query. -/
def isGapChar (c : Char) : Bool :=
  c == ' ' || (9 ≤ c.toNat && c.toNat ≤ 13)

/-- The characters with capital letters made small. -/
def folded (cs : List Char) : List Char :=
  cs.map Char.toLower

/-- The identifier that the bare name stands for with which a text begins, and the text behind. -/
def readBareName : List Char → Option (List Char × List Char)
  | [] => none
  | c :: cs =>
    if isNameStart c then
      some (folded ((c :: cs).takeWhile isNameChar), (c :: cs).dropWhile isNameChar)
    else none

/-- The identifier that the name stands for with which a text begins, and the text behind. -/
def readName (cs : List Char) : Option (List Char × List Char) :=
  if cs.head? = some '"' then readIdentifier '"' cs else readBareName cs

/-- The identifier that a text stands for which is one name. -/
def nameOf? (cs : List Char) : Option (List Char) :=
  match readName cs with
  | some (name, []) => some name
  | _ => none

/-- The identifier of an alias, before which `AS` may stand. -/
def aliasOf? (cs : List Char) : Option (List Char) :=
  match readBareName cs with
  | some (['a', 's'], rest) => nameOf? (rest.dropWhile isGapChar)
  | _ => nameOf? cs

/-- The identifier under which a table of a `FROM` is exposed: that of its alias, or its own. -/
def exposedName? (cs : List Char) : Option (List Char) :=
  match readName cs with
  | some (name, []) => some name
  | some (_, rest) => aliasOf? (rest.dropWhile isGapChar)
  | none => none

/-! ### Characters -/

/-- What holds of the 128 characters of ASCII holds of each of them. -/
theorem of_ascii {p : Char → Prop} (h : ∀ n < 128, p (Char.ofNat n)) {c : Char}
    (hc : c.toNat < 128) : p c := by
  have hnumber := h c.toNat hc
  rwa [Char.ofNat_toNat] at hnumber

theorem toLower_of_not_ascii {c : Char} (hc : 128 ≤ c.toNat) : c.toLower = c := by
  have hletter : ¬ (c.val ≥ 'A'.val ∧ c.val ≤ 'Z'.val) := by
    rintro ⟨-, hcapital⟩
    have hsmall : c.toNat ≤ 90 := hcapital
    omega
  exact dif_neg hletter

theorem isBlank_toLower (c : Char) : isBlank c.toLower = isBlank c := by
  by_cases hc : c.toNat < 128
  · exact of_ascii (p := fun c => isBlank c.toLower = isBlank c) (by decide) hc
  · rw [toLower_of_not_ascii (Nat.le_of_not_lt hc)]

theorem isNameStart_toLower (c : Char) : isNameStart c.toLower = isNameStart c := by
  by_cases hc : c.toNat < 128
  · exact of_ascii (p := fun c => isNameStart c.toLower = isNameStart c) (by decide) hc
  · rw [toLower_of_not_ascii (Nat.le_of_not_lt hc)]

theorem lt_of_isPlainChar {c : Char} (h : Dialect.isPlainChar c = true) : c.toNat < 128 :=
  Nat.lt_of_le_of_lt (Dialect.toNat_of_isPlainChar h).2 (by decide)

theorem lt_of_isGapChar {c : Char} (h : isGapChar c = true) : c.toNat < 128 := by
  simp only [isGapChar, Bool.or_eq_true, beq_iff_eq, Bool.and_eq_true, decide_eq_true_eq] at h
  obtain rfl | h := h
  · decide
  · omega

theorem isNameChar_of_isPlainChar {c : Char} (h : Dialect.isPlainChar c = true) :
    isNameChar c = true :=
  of_ascii (p := fun c => Dialect.isPlainChar c = true → isNameChar c = true) (by decide)
    (lt_of_isPlainChar h) h

theorem isNameStart_of_isPlainChar {c : Char} (h : Dialect.isPlainChar c = true)
    (hdigit : isDigit c = false) : isNameStart c = true :=
  of_ascii (p := fun c => Dialect.isPlainChar c = true → isDigit c = false → isNameStart c = true)
    (by decide) (lt_of_isPlainChar h) h hdigit

theorem isBlank_of_isGapChar {c : Char} (h : isGapChar c = true) : isBlank c = true :=
  of_ascii (p := fun c => isGapChar c = true → isBlank c = true) (by decide) (lt_of_isGapChar h) h

theorem isGapChar_of_isNameChar {c : Char} (h : isNameChar c = true) : isGapChar c = false := by
  rw [Bool.eq_false_iff]
  intro hgap
  have hname := of_ascii (p := fun c => isGapChar c = true → isNameChar c = false) (by decide)
    (lt_of_isGapChar hgap) hgap
  rw [h] at hname
  cases hname

theorem isNameChar_of_isNameStart {c : Char} (h : isNameStart c = true) : isNameChar c = true := by
  rw [isNameChar, h, Bool.true_or, Bool.true_or]

theorem ne_quote_of_isNameChar {c : Char} (h : isNameChar c = true) : c ≠ '"' := by
  rintro rfl
  exact absurd h (by decide)

/-! ### Names -/

/-- The characters are a bare name. -/
inductive IsBareName : List Char → Prop
  | intro {c : Char} {cs : List Char} (hc : isNameStart c = true)
      (hcs : ∀ c' ∈ cs, isNameChar c' = true) : IsBareName (c :: cs)

/-- Behind a name there is no character that would belong to it. -/
def EndsName (rest : List Char) : Prop :=
  ∀ c ∈ rest.head?, isNameChar c = false

theorem endsName_nil : EndsName [] := nofun

theorem IsBareName.isNameChar {cs : List Char} (h : IsBareName cs) :
    ∀ c ∈ cs, isNameChar c = true := by
  cases h with
  | intro hc hcs => exact List.forall_mem_cons.mpr ⟨isNameChar_of_isNameStart hc, hcs⟩

theorem EndsName.takeWhile {rest : List Char} (h : EndsName rest) :
    rest.takeWhile SqlPipeline.isNameChar = [] := by
  cases rest with
  | nil => rfl
  | cons c rest =>
    have hc := h c rfl
    simp [hc]

theorem EndsName.dropWhile {rest : List Char} (h : EndsName rest) :
    rest.dropWhile SqlPipeline.isNameChar = rest := by
  cases rest with
  | nil => rfl
  | cons c rest =>
    have hc := h c rfl
    simp [hc]

theorem readBareName_append {cs rest : List Char} (hcs : IsBareName cs) (hrest : EndsName rest) :
    readBareName (cs ++ rest) = some (folded cs, rest) := by
  have hall := hcs.isNameChar
  cases hcs with
  | @intro c cs hc hcs =>
    rw [List.cons_append, readBareName, if_pos hc, ← List.cons_append,
      List.takeWhile_append_of_pos hall, List.dropWhile_append_of_pos hall, hrest.takeWhile,
      hrest.dropWhile, List.append_nil]

theorem readBareName_cases {cs name rest : List Char} (h : readBareName cs = some (name, rest)) :
    ∃ bare, IsBareName bare ∧ name = folded bare ∧ cs = bare ++ rest := by
  cases cs with
  | nil => cases h
  | cons c cs =>
    rw [readBareName] at h
    split at h
    · next hc =>
      obtain ⟨rfl, rfl⟩ := Prod.mk.inj (Option.some.inj h)
      refine ⟨_, ?_, rfl, List.takeWhile_append_dropWhile.symm⟩
      rw [List.takeWhile_cons_of_pos (isNameChar_of_isNameStart hc)]
      exact .intro hc fun c' hc' => List.all_eq_true.mp List.all_takeWhile c' hc'
    · cases h

theorem head?_ne_quote {cs : List Char} (h : IsBareName cs) (rest : List Char) :
    (cs ++ rest).head? ≠ some '"' := by
  cases h with
  | intro hc _ =>
    intro hhead
    exact ne_quote_of_isNameChar (isNameChar_of_isNameStart hc) (Option.some.inj hhead)

theorem readName_bare {cs rest : List Char} (hcs : IsBareName cs) (hrest : EndsName rest) :
    readName (cs ++ rest) = some (folded cs, rest) := by
  rw [readName, if_neg (head?_ne_quote hcs rest), readBareName_append hcs hrest]

theorem readName_quoted (name : List Char) {rest : List Char} (hrest : rest.head? ≠ some '"') :
    readName ('"' :: escaped '"' name ++ '"' :: rest) = some (name, rest) := by
  rw [readName, List.cons_append, if_pos List.head?_cons, ← List.cons_append]
  exact readIdentifier_eq_some_iff.mpr ⟨hrest, rfl⟩

/-- A text that is one name is a bare one or a quoted one. -/
theorem nameOf?_cases {cs name : List Char} (h : nameOf? cs = some name) :
    (IsBareName cs ∧ name = folded cs) ∨ cs = '"' :: escaped '"' name ++ ['"'] := by
  rw [nameOf?] at h
  split at h
  · next read hread =>
    obtain rfl := Option.some.inj h
    rw [readName] at hread
    split at hread
    · exact .inr (readIdentifier_eq_some_iff.mp hread).2
    · obtain ⟨bare, hbare, rfl, rfl⟩ := readBareName_cases hread
      rw [List.append_nil]
      exact .inl ⟨hbare, rfl⟩
  · cases h

theorem nameOf?_bare {cs : List Char} (h : IsBareName cs) : nameOf? cs = some (folded cs) := by
  have hread := readName_bare h endsName_nil
  rw [List.append_nil] at hread
  rw [nameOf?, hread]

/-- A name is read before any text that does not go on with it. -/
theorem readName_append {cs name rest : List Char} (h : nameOf? cs = some name)
    (hrest : EndsName rest) (hquote : rest.head? ≠ some '"') :
    readName (cs ++ rest) = some (name, rest) := by
  obtain ⟨hbare, rfl⟩ | rfl := nameOf?_cases h
  · exact readName_bare hbare hrest
  · rw [List.append_assoc]
    exact readName_quoted name hquote

theorem mem_escaped {q c : Char} {cs : List Char} : c ∈ escaped q cs ↔ c ∈ cs :=
  Dialect.mem_doubled ⟨q, .question⟩

/-- A name has a blank character if and only if its identifier has one. -/
theorem isBlank_name_iff {cs name : List Char} (h : nameOf? cs = some name) :
    (∀ c ∈ name, isBlank c = false) ↔ ∀ c ∈ cs, isBlank c = false := by
  obtain ⟨-, rfl⟩ | rfl := nameOf?_cases h
  · simp [folded, isBlank_toLower]
  · have hquote : isBlank '"' = false := by decide
    simp [hquote, mem_escaped, or_imp, forall_and]

/-! ### References to tables -/

/-- The characters are white space between two words. -/
structure IsGap (cs : List Char) : Prop where
  ne_nil : cs ≠ []
  all : ∀ c ∈ cs, isGapChar c = true

/-- What stands between a table and its alias: white space, in which `AS` may stand. -/
inductive IsLink : List Char → Prop
  | gap {before : List Char} (hbefore : IsGap before) : IsLink before
  | as {before keyword after : List Char} (hbefore : IsGap before)
      (hkeyword : folded keyword = ['a', 's']) (hafter : IsGap after) :
      IsLink (before ++ keyword ++ after)

/-- An alias behind a table: a bare name other than `AS`, or a quoted name. -/
structure TableAlias where
  link : List Char
  text : List Char
  name : List Char
  isLink : IsLink link
  named : nameOf? text = some name
  notAs : folded text ≠ ['a', 's']

/-- A table of a query: a plain identifier, alone or with an alias behind it. -/
structure TableReference where
  table : String
  alias? : Option TableAlias
  plain : Dialect.isPlain table = true

namespace TableReference

/-- The text that a statement holds for the table. -/
def text (r : TableReference) : String :=
  match r.alias? with
  | none => r.table
  | some a => String.ofList (r.table.toList ++ (a.link ++ a.text))

/-- The identifier under which the table is known: that of the alias, or the table exactly. -/
def exposed (r : TableReference) : List Char :=
  match r.alias? with
  | none => r.table.toList
  | some a => a.name

/-- The alias has no blank character; without an alias, the table has no capital letter. -/
def Resolves (r : TableReference) : Prop :=
  match r.alias? with
  | none => folded r.table.toList = r.table.toList
  | some a => ∀ c ∈ a.text, isBlank c = false

end TableReference

section Reference

variable {cs rest : List Char}

theorem isBareName_of_isPlain {s : String} (h : Dialect.isPlain s = true) :
    IsBareName s.toList := by
  have hall := fun c => @Dialect.isPlainChar_of_mem s h c
  rw [Dialect.isPlain] at h
  cases hs : s.toList with
  | nil => simp [hs] at h
  | cons c cs =>
    simp only [hs, Bool.and_eq_true, Bool.not_eq_true'] at h
    rw [hs] at hall
    refine .intro (isNameStart_of_isPlainChar (hall c List.mem_cons_self) h.1) ?_
    intro c' hc'
    exact isNameChar_of_isPlainChar (hall c' (List.mem_cons_of_mem c hc'))

/-- A text that begins with a name begins with no white space. -/
theorem dropWhile_gap_append {name : List Char} (h : nameOf? cs = some name) (rest : List Char) :
    (cs ++ rest).dropWhile isGapChar = cs ++ rest := by
  obtain ⟨hbare, -⟩ | rfl := nameOf?_cases h
  · cases hbare with
    | intro hc _ =>
      exact List.dropWhile_cons_of_neg
        (Bool.eq_false_iff.mp (isGapChar_of_isNameChar (isNameChar_of_isNameStart hc)))
  · exact List.dropWhile_cons_of_neg (by decide)

theorem dropWhile_gap_name {name : List Char} (h : nameOf? cs = some name) :
    cs.dropWhile isGapChar = cs := by
  have hnone := dropWhile_gap_append h []
  rwa [List.append_nil] at hnone

theorem IsGap.dropWhile (h : IsGap cs) (rest : List Char) :
    (cs ++ rest).dropWhile isGapChar = rest.dropWhile isGapChar :=
  List.dropWhile_append_of_pos h.all

theorem IsGap.exists_head (h : IsGap cs) (rest : List Char) :
    ∃ c tail, cs ++ rest = c :: tail ∧ isGapChar c = true := by
  cases cs with
  | nil => exact absurd rfl h.ne_nil
  | cons c cs => exact ⟨c, cs ++ rest, rfl, h.all c List.mem_cons_self⟩

theorem endsName_of_isGapChar {c : Char} (hc : isGapChar c = true) (tail : List Char) :
    EndsName (c :: tail) := by
  intro c' hc'
  obtain rfl : c = c' := Option.some.inj hc'
  rw [Bool.eq_false_iff]
  intro hname
  rw [isGapChar_of_isNameChar hname] at hc
  cases hc

theorem IsGap.endsName (h : IsGap cs) (rest : List Char) : EndsName (cs ++ rest) := by
  obtain ⟨c, tail, hcs, hc⟩ := h.exists_head rest
  rw [hcs]
  exact endsName_of_isGapChar hc tail

theorem isBareName_as (h : folded cs = ['a', 's']) : IsBareName cs := by
  have hstart : ∀ c ∈ cs, isNameStart c = true := by
    intro c hc
    have hletter : c.toLower ∈ ['a', 's'] := h ▸ List.mem_map_of_mem hc
    rw [← isNameStart_toLower]
    simp only [List.mem_cons, List.not_mem_nil, or_false] at hletter
    obtain hletter | hletter := hletter <;> rw [hletter] <;> decide
  cases cs with
  | nil => cases h
  | cons c cs =>
    refine .intro (hstart c List.mem_cons_self) fun c' hc' => ?_
    exact isNameChar_of_isNameStart (hstart c' (List.mem_cons_of_mem c hc'))

theorem aliasOf?_name {name : List Char} (h : nameOf? cs = some name)
    (hnot : folded cs ≠ ['a', 's']) : aliasOf? cs = some name := by
  rw [aliasOf?]
  split
  · next after hread =>
    obtain ⟨hbare, -⟩ | rfl := nameOf?_cases h
    · have hwhole := readBareName_append hbare endsName_nil
      rw [List.append_nil, hread] at hwhole
      exact absurd (congrArg Prod.fst (Option.some.inj hwhole)).symm hnot
    · cases hread
  · exact h

theorem aliasOf?_as {keyword after name : List Char} (hkeyword : folded keyword = ['a', 's'])
    (hafter : IsGap after) (h : nameOf? cs = some name) :
    aliasOf? (keyword ++ (after ++ cs)) = some name := by
  rw [aliasOf?, readBareName_append (isBareName_as hkeyword) (hafter.endsName cs), hkeyword]
  change nameOf? ((after ++ cs).dropWhile isGapChar) = _
  rw [hafter.dropWhile, dropWhile_gap_name h, h]

theorem IsGap.exists_last (h : IsGap cs) : ∃ before c, cs = before ++ [c] ∧ isGapChar c = true :=
  ⟨cs.dropLast, cs.getLast h.ne_nil, (List.dropLast_concat_getLast h.ne_nil).symm,
    h.all _ (List.getLast_mem h.ne_nil)⟩

/-- A link begins and ends with white space. -/
theorem IsLink.ends (h : IsLink cs) :
    (∀ rest, ∃ c tail, cs ++ rest = c :: tail ∧ isGapChar c = true) ∧
      ∃ before c, cs = before ++ [c] ∧ isGapChar c = true := by
  cases h with
  | gap hbefore => exact ⟨hbefore.exists_head, hbefore.exists_last⟩
  | @as before keyword after hbefore hkeyword hafter =>
    obtain ⟨init, c, rfl, hc⟩ := hafter.exists_last
    refine ⟨fun rest => ?_, before ++ keyword ++ init, c, by simp, hc⟩
    rw [List.append_assoc, List.append_assoc]
    exact hbefore.exists_head _

theorem aliasOf?_link (a : TableAlias) :
    aliasOf? ((a.link ++ a.text).dropWhile isGapChar) = some a.name := by
  obtain ⟨link, text, name, hlink, hnamed, hnot⟩ := a
  cases hlink with
  | gap hbefore =>
    rw [hbefore.dropWhile, dropWhile_gap_name hnamed]
    exact aliasOf?_name hnamed hnot
  | @as before keyword after hbefore hkeyword hafter =>
    have hword := nameOf?_bare (isBareName_as hkeyword)
    rw [List.append_assoc, List.append_assoc, hbefore.dropWhile, dropWhile_gap_append hword]
    exact aliasOf?_as hkeyword hafter hnamed

end Reference

namespace TableReference

open Dialect

variable (r : TableReference)

theorem nameOf?_table : nameOf? r.table.toList = some (folded r.table.toList) :=
  nameOf?_bare (isBareName_of_isPlain r.plain)

/-- A table with an alias is no plain identifier. -/
theorem quotePlain_aliased {a : TableAlias} (d : Dialect) (h : r.alias? = some a) :
    d.quotePlain r.text = r.text := by
  have hplain : isPlain r.text = false := by
    rw [Bool.eq_false_iff]
    intro hplain
    obtain ⟨-, before, c, hlast, hc⟩ := a.isLink.ends
    have hmem : c ∈ r.text.toList := by simp [text, h, hlast]
    have hblank := isBlank_of_isPlainChar (isPlainChar_of_mem hplain hmem)
    rw [isBlank_of_isGapChar hc] at hblank
    cases hblank
  rw [quotePlain, hplain, if_neg Bool.false_ne_true]

/-- A table is exposed as it should be: its name is quoted if it stands alone. -/
theorem exposedName?_quotePlain :
    exposedName? (postgres.quotePlain r.text).toList = some r.exposed := by
  cases halias : r.alias? with
  | none =>
    have hwritten : postgres.quotePlain r.text = postgres.wrap r.table := by
      rw [text, halias, quotePlain, if_pos r.plain]
    have hread : readName ('"' :: escaped '"' r.table.toList ++ ['"']) =
        some (r.table.toList, []) := readName_quoted r.table.toList (by simp)
    have hchars : (postgres.wrap r.table).toList = '"' :: escaped '"' r.table.toList ++ ['"'] :=
      toList_wrap postgres r.table
    rw [hwritten, exposedName?, hchars, hread, exposed, halias]
  | some a =>
    obtain ⟨c, tail, hrest, hc⟩ := a.isLink.ends.1 a.text
    have hread : readName r.text.toList = some (folded r.table.toList, c :: tail) := by
      rw [text, halias, String.toList_ofList, hrest]
      exact readName_bare (isBareName_of_isPlain r.plain) (endsName_of_isGapChar hc tail)
    rw [r.quotePlain_aliased postgres halias, exposedName?, hread, exposed, halias]
    change aliasOf? ((c :: tail).dropWhile isGapChar) = some a.name
    rw [← hrest, aliasOf?_link]

theorem isBlank_table : ∀ c ∈ r.table.toList, isBlank c = false := fun _ hc =>
  isBlank_of_isPlainChar (isPlainChar_of_mem r.plain hc)

/-- The text for a table begins with its name. -/
theorem exists_first : ∃ c rest, r.text.toList = c :: rest ∧ isBlank c = false := by
  have hblank := r.isBlank_table
  cases htable : r.table.toList with
  | nil => cases htable ▸ (isBareName_of_isPlain r.plain)
  | cons c cs =>
    have hc : isBlank c = false := hblank c (by simp [htable])
    rw [text]
    split
    · exact ⟨c, cs, htable, hc⟩
    · exact ⟨c, _, by rw [String.toList_ofList, htable]; rfl, hc⟩

theorem isBlankText_text : isBlankText r.text = false := by
  obtain ⟨c, rest, htext, hc⟩ := r.exists_first
  rw [isBlankText, htext, List.all_cons, hc, Bool.false_and]

/-- The name by which a projection refers to the table has no blank character. -/
theorem isBlank_referenceName : ∀ c ∈ (referenceName r.text).toList, isBlank c = false := by
  obtain ⟨c, rest, htext, hc⟩ := r.exists_first
  exact fun c' hc' => isBlank_of_mem_lastWord htext hc hc'

theorem referenceName_alone (h : r.alias? = none) : referenceName r.text = r.table := by
  have hsome : r.table.toList ≠ [] := by
    intro hnil
    cases hnil ▸ (isBareName_of_isPlain r.plain)
  rw [text, h]
  exact lastWord_of_one r.isBlank_table hsome

theorem referenceName_aliased {a : TableAlias} (h : r.alias? = some a)
    (hunbroken : ∀ c ∈ a.text, isBlank c = false) :
    referenceName r.text = String.ofList a.text := by
  obtain ⟨before, c, hlink, hc⟩ := a.isLink.ends.2
  have hsome : a.text ≠ [] := by
    intro hnil
    cases hnil ▸ a.named
  have htext : r.text = String.ofList (r.table.toList ++ before ++ c :: a.text) := by
    simp [text, h, hlink]
  rw [htext]
  exact lastWord_of_unbroken (isBlank_of_isGapChar hc) hunbroken hsome

/-- The name by which a projection refers to the table stands for the identifier under which the
table is known if and only if the table resolves. -/
theorem nameOf?_referenceName_iff :
    nameOf? (referenceName r.text).toList = some r.exposed ↔ r.Resolves := by
  cases halias : r.alias? with
  | none =>
    rw [r.referenceName_alone halias, r.nameOf?_table, Option.some.injEq, exposed, Resolves, halias]
  | some a =>
    rw [exposed, Resolves, halias]
    constructor
    · intro h
      have hname := (isBlank_name_iff h).mpr r.isBlank_referenceName
      exact (isBlank_name_iff a.named).mp hname
    · intro hunbroken
      rw [r.referenceName_aliased halias hunbroken, String.toList_ofList, a.named]

end TableReference

end SqlPipeline
