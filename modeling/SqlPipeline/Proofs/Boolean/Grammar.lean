import SqlPipeline.Proofs.Boolean.Token

/-!
The grammar of Boolean expressions in SQL.

`NOT` binds tighter than `AND`, and `AND` tighter than `OR`; parentheses group. The grammar is given
as rules and as a parser, which divides an expression at its last `OR` outside of parentheses, else
at its last such `AND`, else behind a leading `NOT` or between parentheses. An `AND` that belongs to
a `BETWEEN` connects nothing. Main statement: the parser reads a list of tokens as a formula just
when the rules do.
-/

namespace SqlPipeline

/-- A Boolean expression over predicates, each given by its tokens. -/
inductive Formula
  | predicate (ts : List Token)
  | not (f : Formula)
  | and (f g : Formula)
  | or (f g : Formula)
  deriving DecidableEq

namespace Formula

/-- The number of predicates. -/
def size : Formula → Nat
  | .predicate _ => 1
  | .not f => f.size
  | .and f g => f.size + g.size
  | .or f g => f.size + g.size

variable (ρ : Nat → List Token → Bool)

/-- The truth value when the predicates have those of an assignment, which may tell predicates apart
that are written alike. The first predicate has the given number. -/
def truth : Formula → Nat → Bool
  | .predicate ts, k => ρ k ts
  | .not f, k => !f.truth k
  | .and f g, k => f.truth k && g.truth (k + f.size)
  | .or f g, k => f.truth k || g.truth (k + f.size)

/-- The truth values of formulas one after the other. -/
def truths : List Formula → Nat → List Bool
  | [], _ => []
  | f :: fs, k => f.truth ρ k :: truths fs (k + f.size)

/-- The number of predicates of some formulas. -/
def sizes : List Formula → Nat
  | [] => 0
  | f :: fs => f.size + sizes fs

end Formula

/-- How deep a scan of tokens is in parentheses, and how many `BETWEEN`s outside of them wait for
their `AND`. -/
structure Nesting where
  groups : Nat
  ranges : Nat
  deriving DecidableEq

namespace Nesting

/-- Outside of everything. -/
def outside : Nesting := ⟨0, 0⟩

/-- The nesting behind a token, unless no expression goes on like this. -/
def after (n : Nesting) : Token → Option Nesting
  | .openParen | .caseWord => some ⟨n.groups + 1, n.ranges⟩
  | .closeParen | .endWord => if n.groups = 0 then none else some ⟨n.groups - 1, n.ranges⟩
  | .between => if n.groups = 0 then some ⟨0, n.ranges + 1⟩ else some n
  | .and => if n.groups = 0 then some ⟨0, n.ranges - 1⟩ else some n
  | .or => if n.groups = 0 ∧ n.ranges ≠ 0 then none else some n
  | .not | .text _ => some n
  | .broken => none

/-- The nesting behind some tokens. -/
def through : Option Nesting → List Token → Option Nesting
  | n?, [] => n?
  | n?, t :: ts => through (n?.bind (·.after t)) ts

theorem through_append (n? : Option Nesting) (xs ys : List Token) :
    through n? (xs ++ ys) = through (through n? xs) ys := by
  induction xs generalizing n? with
  | nil => rfl
  | cons x xs ih => exact ih _

theorem through_none (ts : List Token) : through none ts = none := by
  induction ts with
  | nil => rfl
  | cons t ts ih => exact ih

end Nesting

/-- What stands before and behind the last token of a kind outside of everything. -/
def splitLast (t : Token) : Option Nesting → List Token → Option (List Token × List Token)
  | _, [] => none
  | n?, x :: xs =>
    match splitLast t (n?.bind (·.after x)) xs with
    | some (left, right) => some (x :: left, right)
    | none => if x = t ∧ n? = some .outside then some ([], xs) else none

/-- What stands between parentheses that enclose all tokens. -/
def enclosed? : List Token → Option (List Token)
  | .openParen :: ts =>
    if ts.getLast? = some .closeParen ∧
        Nesting.through (some .outside) ts.dropLast = some .outside then
      some ts.dropLast
    else none
  | _ => none

/-- The tokens make a predicate: they are balanced, and nothing in them is left for the rules of
connectives and parentheses. -/
structure IsPredicate (ts : List Token) : Prop where
  nonempty : ts ≠ []
  positive : ts.head? ≠ some .not
  balanced : Nesting.through (some .outside) ts = some .outside
  noOr : splitLast .or (some .outside) ts = none
  noAnd : splitLast .and (some .outside) ts = none
  open? : enclosed? ts = none

instance (ts : List Token) : Decidable (IsPredicate ts) :=
  decidable_of_iff (ts ≠ [] ∧ ts.head? ≠ some .not ∧
      Nesting.through (some .outside) ts = some .outside ∧
      splitLast .or (some .outside) ts = none ∧ splitLast .and (some .outside) ts = none ∧
      enclosed? ts = none)
    ⟨fun ⟨h₁, h₂, h₃, h₄, h₅, h₆⟩ => ⟨h₁, h₂, h₃, h₄, h₅, h₆⟩,
      fun ⟨h₁, h₂, h₃, h₄, h₅, h₆⟩ => ⟨h₁, h₂, h₃, h₄, h₅, h₆⟩⟩

/-- The levels of the grammar, the loosest first. -/
inductive Level
  | disjunction
  | conjunction
  | factor

/-- The rules of the grammar: the tokens are read as the formula on the level. -/
inductive Reads : Level → List Token → Formula → Prop
  | or {l r f g} (hleft : Reads .disjunction l f) (hright : Reads .conjunction r g) :
      Reads .disjunction (l ++ .or :: r) (.or f g)
  | disjunction {ts f} (h : Reads .conjunction ts f) : Reads .disjunction ts f
  | and {l r f g} (hleft : Reads .conjunction l f) (hright : Reads .factor r g) :
      Reads .conjunction (l ++ .and :: r) (.and f g)
  | conjunction {ts f} (h : Reads .factor ts f) : Reads .conjunction ts f
  | not {ts f} (h : Reads .factor ts f) : Reads .factor (.not :: ts) (.not f)
  | group {ts f} (h : Reads .disjunction ts f) :
      Reads .factor (.openParen :: (ts ++ [.closeParen])) f
  | predicate {ts} (h : IsPredicate ts) : Reads .factor ts (.predicate ts)

theorem eq_of_splitLast {t : Token} {n? : Option Nesting} {ts l r : List Token}
    (h : splitLast t n? ts = some (l, r)) : ts = l ++ t :: r := by
  induction ts generalizing n? l with
  | nil => cases h
  | cons x xs ih =>
      rw [splitLast] at h
      split at h
      · next left right hrest =>
          cases h
          rw [ih hrest, List.cons_append]
      · split at h
        · next hx =>
            cases h
            rw [hx.1, List.nil_append]
        · cases h

theorem length_of_enclosed {ts inner : List Token} (h : enclosed? ts = some inner) :
    inner.length < ts.length := by
  unfold enclosed? at h
  split at h
  · split at h
    · cases h
      rw [List.length_dropLast, List.length_cons]
      omega
    · cases h
  · cases h

theorem length_of_splitLast {t : Token} {n? : Option Nesting} {ts l r : List Token}
    (h : splitLast t n? ts = some (l, r)) : l.length < ts.length ∧ r.length < ts.length := by
  have hlength := congrArg List.length (eq_of_splitLast h)
  rw [List.length_append, List.length_cons] at hlength
  omega

/-- Reads tokens as a formula. -/
def parse (ts : List Token) : Option Formula :=
  match _hor : splitLast .or (some .outside) ts with
  | some (l, r) => (parse l).bind fun f => (parse r).map (.or f)
  | none =>
    match _hand : splitLast .and (some .outside) ts with
    | some (l, r) => (parse l).bind fun f => (parse r).map (.and f)
    | none =>
      match _hgroup : enclosed? ts with
      | some inner => parse inner
      | none =>
        match ts with
        | .not :: rest => (parse rest).map .not
        | ts => if IsPredicate ts then some (.predicate ts) else none
termination_by ts.length
decreasing_by
  · exact (length_of_splitLast _hor).1
  · exact (length_of_splitLast _hor).2
  · exact (length_of_splitLast _hand).1
  · exact (length_of_splitLast _hand).2
  · exact length_of_enclosed _hgroup
  · exact Nat.lt_succ_self _

section Parse

variable {ts l r : List Token}

theorem parse_or (hor : splitLast .or (some .outside) ts = some (l, r)) :
    parse ts = (parse l).bind fun f => (parse r).map (.or f) := by
  rw [parse]
  split
  · next hl => cases hor.symm.trans hl; rfl
  · next hl => cases hor.symm.trans hl

theorem parse_and (hor : splitLast .or (some .outside) ts = none)
    (hand : splitLast .and (some .outside) ts = some (l, r)) :
    parse ts = (parse l).bind fun f => (parse r).map (.and f) := by
  rw [parse]
  split
  · next hl => cases hor.symm.trans hl
  · split
    · next hl => cases hand.symm.trans hl; rfl
    · next hl => cases hand.symm.trans hl

theorem parse_group (hor : splitLast .or (some .outside) ts = none)
    (hand : splitLast .and (some .outside) ts = none) (hgroup : enclosed? ts = some l) :
    parse ts = parse l := by
  rw [parse]
  split
  · next hl => cases hor.symm.trans hl
  · split
    · next hl => cases hand.symm.trans hl
    · split
      · next hl => cases hgroup.symm.trans hl; rfl
      · next hl => cases hgroup.symm.trans hl

theorem parse_not (hor : splitLast .or (some .outside) (.not :: ts) = none)
    (hand : splitLast .and (some .outside) (.not :: ts) = none) :
    parse (.not :: ts) = (parse ts).map .not := by
  rw [parse]
  split
  · next hl => cases hor.symm.trans hl
  · split
    · next hl => cases hand.symm.trans hl
    · rfl

theorem parse_predicate (h : IsPredicate ts) : parse ts = some (.predicate ts) := by
  rw [parse]
  split
  · next hl => cases h.noOr.symm.trans hl
  · split
    · next hl => cases h.noAnd.symm.trans hl
    · split
      · next hl => cases h.open?.symm.trans hl
      · split
        · exact absurd rfl h.positive
        · exact if_pos h

end Parse

namespace Nesting

/-- Inside more parentheses tokens nest as they do outside, and no range begins or ends. -/
theorem after_deeper {n m : Nesting} {t : Token} (h : n.after t = some m) (k q : Nat) :
    after ⟨n.groups + k + 1, q⟩ t = some ⟨m.groups + k + 1, q⟩ := by
  cases t <;> simp only [after] at h ⊢ <;> (try split at h) <;> cases h <;> simp <;> omega

theorem through_deeper {n m : Nesting} {ts : List Token} (h : through (some n) ts = some m)
    (k q : Nat) : through (some ⟨n.groups + k + 1, q⟩) ts = some ⟨m.groups + k + 1, q⟩ := by
  induction ts generalizing n with
  | nil =>
      cases h
      rfl
  | cons t ts ih =>
      rw [through, Option.bind_some] at h ⊢
      cases hafter : n.after t with
      | none =>
          rw [hafter, through_none] at h
          cases h
      | some n' =>
          rw [hafter] at h
          rw [after_deeper hafter]
          exact ih h

end Nesting

section SplitLast

variable {t x : Token} {n? : Option Nesting} {xs ys : List Token}

theorem splitLast_cons_eq_none :
    splitLast t n? (x :: xs) = none ↔
      splitLast t (n?.bind (·.after x)) xs = none ∧ ¬ (x = t ∧ n? = some .outside) := by
  rw [splitLast]
  cases splitLast t (n?.bind (·.after x)) xs with
  | some p => simp
  | none => simp

theorem splitLast_append_eq_none :
    splitLast t n? (xs ++ ys) = none ↔
      splitLast t n? xs = none ∧ splitLast t (Nesting.through n? xs) ys = none := by
  induction xs generalizing n? with
  | nil => simp [splitLast, Nesting.through]
  | cons x xs ih =>
      rw [List.cons_append, splitLast_cons_eq_none, splitLast_cons_eq_none, ih, Nesting.through]
      exact and_right_comm

/-- A connective that is the last of its kind outside of everything is where tokens are divided. -/
theorem splitLast_append_cons (hconnective : t = .or ∨ t = .and)
    (hleft : Nesting.through n? xs = some .outside)
    (hright : splitLast t (some .outside) ys = none) :
    splitLast t n? (xs ++ t :: ys) = some (xs, ys) := by
  induction xs generalizing n? with
  | nil =>
      cases hleft
      have hafter : (some Nesting.outside).bind (·.after t) = some .outside := by
        rcases hconnective with rfl | rfl <;> rfl
      rw [List.nil_append, splitLast, hafter, hright]
      simp
  | cons x xs ih => rw [List.cons_append, splitLast, ih hleft]

theorem divided_of_splitLast (hconnective : t = .or ∨ t = .and) {zs : List Token}
    (h : splitLast t n? zs = some (xs, ys)) :
    Nesting.through n? xs = some .outside ∧ splitLast t (some .outside) ys = none := by
  induction zs generalizing n? xs with
  | nil => cases h
  | cons z zs ih =>
      rw [splitLast] at h
      split at h
      · next left right hrest =>
          cases h
          obtain ⟨houtside, hlast⟩ := ih hrest
          exact ⟨houtside, hlast⟩
      · next hrest =>
          split at h
          · next hz =>
              cases h
              obtain ⟨rfl, rfl⟩ := hz
              refine ⟨rfl, ?_⟩
              rcases hconnective with rfl | rfl <;> exact hrest
          · cases h

/-- Inside parentheses nothing stands outside of everything. -/
theorem splitLast_deeper {n m : Nesting} (h : Nesting.through (some n) xs = some m) (k q : Nat) :
    splitLast t (some ⟨n.groups + k + 1, q⟩) xs = none := by
  induction xs generalizing n with
  | nil => rfl
  | cons x xs ih =>
      rw [Nesting.through, Option.bind_some] at h
      cases hafter : n.after x with
      | none =>
          rw [hafter, Nesting.through_none] at h
          cases h
      | some n' =>
          rw [hafter] at h
          rw [splitLast_cons_eq_none, Option.bind_some, Nesting.after_deeper hafter]
          refine ⟨ih h, ?_⟩
          intro houtside
          simp [Nesting.outside] at houtside

end SplitLast

theorem enclosed_eq_some_iff {ts inner : List Token} :
    enclosed? ts = some inner ↔ ts = .openParen :: (inner ++ [.closeParen]) ∧
      Nesting.through (some .outside) inner = some .outside := by
  constructor
  · intro h
    unfold enclosed? at h
    split at h
    · next ts =>
        split at h
        · next hclosed =>
            cases h
            obtain ⟨inner, rfl⟩ := List.getLast?_eq_some_iff.1 hclosed.1
            rw [List.dropLast_concat] at hclosed ⊢
            exact ⟨rfl, hclosed.2⟩
        · cases h
    · cases h
  · rintro ⟨rfl, hinner⟩
    simp [enclosed?, hinner]

/-- Nothing is left to divide for a level above this one. -/
def Level.Undivided : Level → List Token → Prop
  | .disjunction, _ => True
  | .conjunction, ts => splitLast .or (some .outside) ts = none
  | .factor, ts =>
    splitLast .or (some .outside) ts = none ∧ splitLast .and (some .outside) ts = none

/-- Between parentheses that enclose balanced tokens nothing is left to divide. -/
theorem undivided_group {inner : List Token}
    (h : Nesting.through (some .outside) inner = some .outside) :
    Level.Undivided .factor (.openParen :: (inner ++ [.closeParen])) := by
  have hinner := Nesting.through_deeper h 0 0
  have hnone : ∀ t, t = .or ∨ t = .and →
      splitLast t (some .outside) (.openParen :: (inner ++ [.closeParen])) = none := by
    intro t ht
    have hdeeper : splitLast t (some ⟨1, 0⟩) inner = none := splitLast_deeper h 0 0
    have hclose : splitLast t (Nesting.through (some ⟨1, 0⟩) inner) [.closeParen] = none := by
      rcases ht with rfl | rfl <;> simp [splitLast]
    rw [splitLast_cons_eq_none]
    refine ⟨splitLast_append_eq_none.2 ⟨hdeeper, hclose⟩, ?_⟩
    rcases ht with rfl | rfl <;> simp
  exact ⟨hnone .or (.inl rfl), hnone .and (.inr rfl)⟩

/-- The token neither nests nor connects. -/
def Token.isQuiet (t : Token) : Bool :=
  t.isText || t == .not

theorem Token.isQuiet_of_isText {t : Token} (h : t.isText = true) : t.isQuiet = true := by
  rw [isQuiet, h]
  rfl

section Quiet

variable {ts : List Token} (hquiet : ∀ t ∈ ts, t.isQuiet = true)
include hquiet

theorem through_quiet (n? : Option Nesting) : Nesting.through n? ts = n? := by
  induction ts with
  | nil => rfl
  | cons t ts ih =>
      have hafter : n?.bind (·.after t) = n? := by
        have ht := hquiet t List.mem_cons_self
        cases n? <;> cases t <;> first | rfl | cases ht
      rw [Nesting.through, hafter]
      exact ih fun u hu => hquiet u (List.mem_cons_of_mem t hu)

theorem splitLast_quiet {t : Token} (ht : t.isQuiet = false) (n? : Option Nesting) :
    splitLast t n? ts = none := by
  induction ts generalizing n? with
  | nil => rfl
  | cons u us ih =>
      refine splitLast_cons_eq_none.2
        ⟨ih (fun v hv => hquiet v (List.mem_cons_of_mem u hv)) _, fun ⟨heq, _⟩ => ?_⟩
      rw [← heq, hquiet u List.mem_cons_self] at ht
      cases ht

end Quiet

namespace IsColumn

variable {ts us : List Token}

/-- Balanced tokens that begin with a column, and in which nothing is left to divide, make a
predicate. -/
theorem isPredicate (h : IsColumn ts)
    (hbalanced : Nesting.through (some .outside) (ts ++ us) = some .outside)
    (hundivided : Level.Undivided .factor (ts ++ us)) : IsPredicate (ts ++ us) := by
  obtain ⟨hnonempty, htexts⟩ := h
  cases ts with
  | nil => exact absurd rfl hnonempty
  | cons t ts =>
      have ht := htexts t List.mem_cons_self
      refine ⟨List.cons_ne_nil _ _, ?_, hbalanced, hundivided.1, hundivided.2, ?_⟩
      · intro hnot
        cases Option.some.inj hnot
        cases ht
      · cases t <;> first | rfl | cases ht

theorem quiet_append (h : IsColumn ts) (hus : ∀ u ∈ us, u.isQuiet = true) :
    ∀ u ∈ ts ++ us, u.isQuiet = true :=
  List.forall_mem_append.2 ⟨fun u hu => Token.isQuiet_of_isText (h.texts u hu), hus⟩

/-- What neither nests nor connects makes a predicate behind a column. -/
theorem isPredicate_append (h : IsColumn ts) (hus : ∀ u ∈ us, u.isQuiet = true) :
    IsPredicate (ts ++ us) := by
  have hquiet := h.quiet_append hus
  exact h.isPredicate (through_quiet hquiet _)
    ⟨splitLast_quiet hquiet rfl _, splitLast_quiet hquiet rfl _⟩

/-- So it does before a list between parentheses. -/
theorem isPredicate_append_group (h : IsColumn ts) (hus : ∀ u ∈ us, u.isQuiet = true)
    {inner : List Token} (hinner : ∀ u ∈ inner, u.isQuiet = true) :
    IsPredicate (ts ++ (us ++ .openParen :: (inner ++ [.closeParen]))) := by
  have hquiet := h.quiet_append hus
  have hthrough := through_quiet hquiet (some .outside)
  have hgroup := undivided_group (through_quiet hinner (some .outside))
  refine h.isPredicate ?_ ⟨?_, ?_⟩ <;> rw [← List.append_assoc]
  · rw [Nesting.through_append, hthrough, Nesting.through, Option.bind_some,
      Nesting.through_append, Nesting.after, through_quiet hinner]
    rfl
  · rw [splitLast_append_eq_none, hthrough]
    exact ⟨splitLast_quiet hquiet rfl _, hgroup.1⟩
  · rw [splitLast_append_eq_none, hthrough]
    exact ⟨splitLast_quiet hquiet rfl _, hgroup.2⟩

end IsColumn

namespace Reads

variable {level : Level} {ts : List Token} {f : Formula}

/-- What the rules read is balanced. -/
theorem balanced (h : Reads level ts f) :
    Nesting.through (some .outside) ts = some .outside := by
  induction h with
  | or _ _ hleft hright =>
      rw [Nesting.through_append, hleft]
      exact hright
  | and _ _ hleft hright =>
      rw [Nesting.through_append, hleft]
      exact hright
  | disjunction _ ih => exact ih
  | conjunction _ ih => exact ih
  | not _ ih => exact ih
  | group _ ih =>
      have hdeeper : Nesting.through (some ⟨1, 0⟩) _ = some ⟨1, 0⟩ := Nesting.through_deeper ih 0 0
      change Nesting.through (some ⟨1, 0⟩) _ = _
      rw [Nesting.through_append, hdeeper]
      rfl
  | predicate h => exact h.balanced

theorem undivided (h : Reads level ts f) : level.Undivided ts := by
  induction h with
  | or _ _ _ _ => trivial
  | disjunction _ _ => trivial
  | and hleft _ ihleft ihright =>
      refine splitLast_append_eq_none.2 ⟨ihleft, splitLast_cons_eq_none.2 ⟨?_, nofun⟩⟩
      rw [hleft.balanced]
      exact ihright.1
  | conjunction _ ih => exact ih.1
  | not _ ih =>
      exact ⟨splitLast_cons_eq_none.2 ⟨ih.1, nofun⟩, splitLast_cons_eq_none.2 ⟨ih.2, nofun⟩⟩
  | group h _ => exact undivided_group h.balanced
  | predicate h => exact ⟨h.noOr, h.noAnd⟩

/-- What the rules read is what the parser reads. -/
theorem parse_eq (h : Reads level ts f) : parse ts = some f := by
  induction h with
  | or hleft hright ihl ihr =>
      rw [parse_or (splitLast_append_cons (.inl rfl) hleft.balanced hright.undivided), ihl, ihr]
      rfl
  | and hleft hright ihl ihr =>
      have hor := (Reads.and hleft hright).undivided
      rw [parse_and hor (splitLast_append_cons (.inr rfl) hleft.balanced hright.undivided.2),
        ihl, ihr]
      rfl
  | disjunction _ ih => exact ih
  | conjunction _ ih => exact ih
  | not h ih =>
      have hnot := (Reads.not h).undivided
      rw [parse_not hnot.1 hnot.2, ih]
      rfl
  | group h ih =>
      have hgroup := (Reads.group h).undivided
      rw [parse_group hgroup.1 hgroup.2 (enclosed_eq_some_iff.2 ⟨rfl, h.balanced⟩), ih]
  | predicate h => exact parse_predicate h

theorem of_factor (h : Reads .factor ts f) : Reads level ts f := by
  cases level with
  | disjunction => exact .disjunction (.conjunction h)
  | conjunction => exact .conjunction h
  | factor => exact h

/-- What the parser reads is what the rules read, on each level for which nothing is left to
divide. -/
theorem of_parse (h : parse ts = some f) (hundivided : level.Undivided ts) :
    Reads level ts f := by
  fun_induction parse ts generalizing f level with
  | case1 ts l r hor ihl ihr =>
      obtain ⟨f₁, hleft, hmap⟩ := Option.bind_eq_some_iff.1 h
      obtain ⟨f₂, hright, rfl⟩ := Option.map_eq_some_iff.1 hmap
      obtain ⟨-, hlast⟩ := divided_of_splitLast (.inl rfl) hor
      have hor' : Reads .disjunction ts (.or f₁ f₂) := by
        rw [eq_of_splitLast hor]
        exact .or (ihl hleft trivial) (ihr hright hlast)
      cases level with
      | disjunction => exact hor'
      | conjunction => cases hor.symm.trans hundivided
      | factor => cases hor.symm.trans hundivided.1
  | case2 ts hor l r hand ihl ihr =>
      obtain ⟨f₁, hleft, hmap⟩ := Option.bind_eq_some_iff.1 h
      obtain ⟨f₂, hright, rfl⟩ := Option.map_eq_some_iff.1 hmap
      obtain ⟨houtside, hlast⟩ := divided_of_splitLast (.inr rfl) hand
      have heq := eq_of_splitLast hand
      rw [heq, splitLast_append_eq_none, houtside, splitLast_cons_eq_none] at hor
      have hand' : Reads .conjunction ts (.and f₁ f₂) := by
        rw [heq]
        exact .and (ihl hleft hor.1) (ihr hright ⟨hor.2.1, hlast⟩)
      cases level with
      | disjunction => exact .disjunction hand'
      | conjunction => exact hand'
      | factor => cases hand.symm.trans hundivided.2
  | case3 ts hor hand inner hgroup ih =>
      obtain ⟨rfl, -⟩ := enclosed_eq_some_iff.1 hgroup
      exact of_factor (.group (ih h trivial))
  | case4 rest hor hand hgroup ih =>
      obtain ⟨g, hg, rfl⟩ := Option.map_eq_some_iff.1 h
      rw [splitLast_cons_eq_none] at hor hand
      exact of_factor (.not (ih hg ⟨hor.1, hand.1⟩))
  | case5 ts hor hand hgroup _ hpredicate =>
      cases h
      exact of_factor (.predicate hpredicate)
  | case6 => cases h

end Reads

/-- The parser reads tokens just as the rules do. -/
theorem parse_eq_some_iff {ts : List Token} {f : Formula} :
    parse ts = some f ↔ Reads .disjunction ts f :=
  ⟨fun h => .of_parse h trivial, Reads.parse_eq⟩

end SqlPipeline
