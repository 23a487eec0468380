/-!
Blank characters and the words between them.

A character is blank when Unicode gives it the property `White_Space`; the ranges below are that
property, in ascending order. `trim` cuts the blank characters off both ends of a text and `words`
lists the maximal runs of other characters. Main statement: the last word of a text is what stands
behind its last blank character.
-/

namespace SqlPipeline

/-- The code points with the property `White_Space`, as ascending closed ranges. -/
def blankRanges : List (Nat × Nat) :=
  [(0x09, 0x0d), (0x20, 0x20), (0x85, 0x85), (0xa0, 0xa0), (0x1680, 0x1680), (0x2000, 0x200a),
    (0x2028, 0x2029), (0x202f, 0x202f), (0x205f, 0x205f), (0x3000, 0x3000)]

/-- The character is white space. -/
def isBlank (c : Char) : Bool :=
  blankRanges.any fun range => range.1 ≤ c.toNat && c.toNat ≤ range.2

/-- The characters without the blank ones at either end. -/
def trimChars (cs : List Char) : List Char :=
  ((cs.dropWhile isBlank).reverse.dropWhile isBlank).reverse

/-- The text without the blank characters at either end. -/
def trim (s : String) : String :=
  String.ofList (trimChars s.toList)

/-- The text holds nothing but blank characters. -/
def isBlankText (s : String) : Bool :=
  s.toList.all isBlank

/-- The words of a text whose first word begins with the characters in `current`. -/
def wordsFrom (current : List Char) : List Char → List (List Char)
  | [] => if current.isEmpty then [] else [current]
  | c :: cs =>
    if isBlank c then
      if current.isEmpty then wordsFrom [] cs else current :: wordsFrom [] cs
    else wordsFrom (current ++ [c]) cs

/-- The maximal runs of characters that are not blank, from left to right. -/
def words (cs : List Char) : List (List Char) :=
  wordsFrom [] cs

/-- The last word of a text, or the text itself when it has no word. -/
def lastWord (s : String) : String :=
  match (words s.toList).getLast? with
  | some word => String.ofList word
  | none => s

/-- The text in which each letter `A` to `Z` is replaced by its small form. -/
def lowerAscii (s : String) : String :=
  String.ofList (s.toList.map Char.toLower)

/-- The words before and after a blank character are those of the two parts. -/
theorem wordsFrom_append_blank {c : Char} (hc : isBlank c = true) (current cs rest : List Char) :
    wordsFrom current (cs ++ c :: rest) = wordsFrom current cs ++ words rest := by
  induction cs generalizing current with
  | nil =>
    rw [List.nil_append]
    simp only [wordsFrom, hc, if_true]
    split <;> rfl
  | cons c' cs ih =>
    rw [List.cons_append, wordsFrom, wordsFrom]
    split
    · split
      · exact ih []
      · rw [ih [], List.cons_append]
    · exact ih (current ++ [c'])

theorem wordsFrom_of_unbroken {current cs : List Char} (hcs : ∀ c ∈ cs, isBlank c = false)
    (hsome : current ++ cs ≠ []) : wordsFrom current cs = [current ++ cs] := by
  induction cs generalizing current with
  | nil =>
    rw [List.append_nil] at hsome
    rw [wordsFrom, List.isEmpty_eq_false_iff.mpr hsome, List.append_nil, if_neg Bool.false_ne_true]
  | cons c cs ih =>
    have hc : isBlank c = false := hcs c List.mem_cons_self
    have hrest : ∀ c' ∈ cs, isBlank c' = false := fun c' hc' => hcs c' (List.mem_cons_of_mem c hc')
    rw [wordsFrom, if_neg (by rw [hc]; exact Bool.false_ne_true), ih hrest (by simp)]
    simp

theorem isBlank_of_mem_wordsFrom {current cs word : List Char} {c : Char}
    (hcurrent : ∀ c ∈ current, isBlank c = false) (hword : word ∈ wordsFrom current cs)
    (hc : c ∈ word) : isBlank c = false := by
  induction cs generalizing current with
  | nil =>
    rw [wordsFrom] at hword
    split at hword
    · cases hword
    · rw [List.mem_singleton.mp hword] at hc
      exact hcurrent c hc
  | cons c' cs ih =>
    rw [wordsFrom] at hword
    split at hword
    · split at hword
      · exact ih (by simp) hword
      · obtain rfl | hword := List.mem_cons.mp hword
        · exact hcurrent c hc
        · exact ih (by simp) hword
    · next hblank =>
      refine ih ?_ hword
      intro c'' hc''
      obtain hc'' | hc'' := List.mem_append.mp hc''
      · exact hcurrent c'' hc''
      · rw [List.mem_singleton.mp hc'']
        exact Bool.eq_false_iff.mpr hblank

theorem wordsFrom_ne_nil {current : List Char} (hcurrent : current ≠ []) (cs : List Char) :
    wordsFrom current cs ≠ [] := by
  induction cs generalizing current with
  | nil =>
    rw [wordsFrom, List.isEmpty_eq_false_iff.mpr hcurrent]
    simp
  | cons c cs ih =>
    rw [wordsFrom, List.isEmpty_eq_false_iff.mpr hcurrent]
    split
    · simp
    · exact ih (by simp)

/-- The last word is what stands behind the last blank character. -/
theorem lastWord_of_unbroken {before word : List Char} {c : Char} (hc : isBlank c = true)
    (hword : ∀ c' ∈ word, isBlank c' = false) (hsome : word ≠ []) :
    lastWord (String.ofList (before ++ c :: word)) = String.ofList word := by
  have hwords : words word = [word] := wordsFrom_of_unbroken hword hsome
  rw [lastWord, String.toList_ofList, words, wordsFrom_append_blank hc, hwords,
    List.getLast?_concat]

/-- A text of one word is its last word. -/
theorem lastWord_of_one {s : String} (hs : ∀ c ∈ s.toList, isBlank c = false)
    (hsome : s.toList ≠ []) : lastWord s = s := by
  have hwords : words s.toList = [s.toList] := wordsFrom_of_unbroken hs hsome
  rw [lastWord, hwords, List.getLast?_singleton]
  exact String.ofList_toList

/-- A text that begins with a word has no blank character in its last word. -/
theorem isBlank_of_mem_lastWord {s : String} {first c : Char} {rest : List Char}
    (hs : s.toList = first :: rest) (hfirst : isBlank first = false)
    (hc : c ∈ (lastWord s).toList) : isBlank c = false := by
  have hwords : words s.toList = wordsFrom [first] rest := by
    rw [hs, words, wordsFrom, hfirst]
    rfl
  have hsome : words s.toList ≠ [] := by
    rw [hwords]
    exact wordsFrom_ne_nil (by simp) rest
  rw [lastWord, List.getLast?_eq_some_getLast hsome, String.toList_ofList] at hc
  exact isBlank_of_mem_wordsFrom (by simp) (List.getLast_mem hsome) hc

example : blankRanges.foldl (fun n range => n + (range.2 - range.1 + 1)) 0 = 25 := by decide

example : words " a  bc ".toList = [['a'], ['b', 'c']] := by decide

end SqlPipeline
