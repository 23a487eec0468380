import Mathlib.Data.List.Forall2
import SqlPipeline.Proofs.Quotation
import SqlPipeline.Statement.Compile

/-!
Where the placeholders of a template stand in its text.

A slot is a hole of a template with the text in front of it. Main statements: in an inert template
the placeholders outside quotes are the holes, each slot has as many of them in front of it as there
are slots before it, and rendering the text in a dialect numbers them in that order. A template
binds a list of bindings when its slots, from left to right, are those that the bindings write.
-/

namespace SqlPipeline

/-- A hole of a template: the text in front of it and the value in it. -/
structure Slot where
  before : List Char
  value : Value

/-- What writes a placeholder: the text that it puts right in front, and the value that it binds. -/
structure Binding where
  lead : String
  value : Value

/-- The slot has the value of the binding, and the binding's own text in front of it. -/
def Binding.Fills (b : Binding) (slot : Slot) : Prop :=
  b.lead.toList <:+ slot.before ∧ b.value = slot.value

/-- The slot with more text in front of it. -/
def Slot.behind (text : List Char) (slot : Slot) : Slot :=
  { slot with before := text ++ slot.before }

theorem Binding.Fills.behind {b : Binding} {slot : Slot} (h : b.Fills slot) (text : List Char) :
    b.Fills (slot.behind text) :=
  ⟨h.1.trans (List.suffix_append text slot.before), h.2⟩

/-- The bindings of a list of values with commas between them. -/
def listedBindings (lead : String) : List Value → List Binding
  | [] => []
  | v :: rest => ⟨lead, v⟩ :: listedBindings (lead ++ "?,") rest

@[simp] theorem map_value_listedBindings (lead : String) (values : List Value) :
    (listedBindings lead values).map Binding.value = values := by
  induction values generalizing lead with
  | nil => rfl
  | cons v rest ih => simp [listedBindings, ih]

namespace Template

/-- The slots of some pieces that stand behind a text. -/
def slotsFrom (before : List Char) : List Piece → List Slot
  | [] => []
  | .text s :: rest => slotsFrom (before ++ s.toList) rest
  | .hole v :: rest => ⟨before, v⟩ :: slotsFrom (before ++ ['?']) rest

/-- The slots of a template from left to right. -/
def slots (t : Template) : List Slot :=
  slotsFrom [] t.pieces

theorem slotsFrom_behind (text before : List Char) (pieces : List Piece) :
    slotsFrom (text ++ before) pieces = (slotsFrom before pieces).map (Slot.behind text) := by
  induction pieces generalizing before with
  | nil => rfl
  | cons piece rest ih =>
      cases piece with
      | text s => simp only [slotsFrom, List.append_assoc, ih]
      | hole v => simp only [slotsFrom, List.append_assoc, ih, List.map_cons, Slot.behind]

theorem slotsFrom_append (before : List Char) (ps qs : List Piece) :
    slotsFrom before (ps ++ qs) =
      slotsFrom before ps ++ slotsFrom (before ++ ps.flatMap Piece.chars) qs := by
  induction ps generalizing before with
  | nil => simp [slotsFrom]
  | cons piece rest ih =>
      cases piece with
      | text s => simp [slotsFrom, ih, Piece.chars]
      | hole v => simp [slotsFrom, ih, Piece.chars]

@[simp] theorem slots_append (s t : Template) :
    (s ++ t).slots = s.slots ++ t.slots.map (Slot.behind s.chars) := by
  change slotsFrom [] (s.pieces ++ t.pieces) = _
  have hbehind := slotsFrom_behind s.chars [] t.pieces
  rw [List.append_nil] at hbehind
  rw [slotsFrom_append, slots, slots, ← hbehind]
  rfl

@[simp] theorem slots_empty : empty.slots = [] := rfl

@[simp] theorem slots_ofText (s : String) : (ofText s).slots = [] := rfl

@[simp] theorem slots_hole (v : Value) : (hole v).slots = [⟨[], v⟩] := rfl

theorem values_eq_map_slots (t : Template) : t.values = t.slots.map Slot.value := by
  have hfrom : ∀ (pieces : List Piece) (before : List Char),
      pieces.filterMap Piece.value? = (slotsFrom before pieces).map Slot.value := by
    intro pieces
    induction pieces with
    | nil => intro before; rfl
    | cons piece rest ih =>
        intro before
        cases piece with
        | text s => exact ih (before ++ s.toList)
        | hole v => exact congrArg (v :: ·) (ih (before ++ ['?']))
  exact hfrom t.pieces []

/-- The slots of the template are those that the bindings write, in their order. -/
def Binds (t : Template) (bs : List Binding) : Prop :=
  List.Forall₂ Binding.Fills bs t.slots

namespace Binds

theorem values_eq {t : Template} {bs : List Binding} (h : t.Binds bs) :
    t.values = bs.map Binding.value := by
  rw [values_eq_map_slots]
  have hmap : List.Forall₂ (· = ·) (bs.map Binding.value) (t.slots.map Slot.value) := by
    rw [List.forall₂_map_left_iff, List.forall₂_map_right_iff]
    exact List.Forall₂.imp (fun _ _ hfills => hfills.2) h
  exact (List.forall₂_eq_eq_eq ▸ hmap).symm

/-- Each binding has the slot of its place. -/
theorem exists_slot {t : Template} {bs : List Binding} (h : t.Binds bs) {i : Nat} {b : Binding}
    (hb : bs[i]? = some b) : ∃ slot, t.slots[i]? = some slot ∧ b.Fills slot := by
  rw [Binds] at h
  generalize t.slots = slots at h
  induction h generalizing i with
  | nil => simp at hb
  | @cons head slot _ _ hfills _ ih =>
      cases i with
      | zero =>
          obtain rfl : head = b := by simpa using hb
          exact ⟨slot, rfl, hfills⟩
      | succ i => exact ih hb

theorem empty : Template.empty.Binds [] := List.Forall₂.nil

theorem ofText (s : String) : (Template.ofText s).Binds [] := List.Forall₂.nil

theorem append {s t : Template} {bs cs : List Binding} (hs : s.Binds bs) (ht : t.Binds cs) :
    (s ++ t).Binds (bs ++ cs) := by
  rw [Binds, slots_append]
  refine List.rel_append hs ?_
  rw [List.forall₂_map_right_iff]
  exact List.Forall₂.imp (fun _ _ hfills => hfills.behind s.chars) ht

theorem text_append {t : Template} {bs : List Binding} (s : String) (ht : t.Binds bs) :
    (Template.ofText s ++ t).Binds bs :=
  (ofText s).append ht

theorem append_text {t : Template} {bs : List Binding} (ht : t.Binds bs) (s : String) :
    (t ++ Template.ofText s).Binds bs := by
  simpa using ht.append (ofText s)

/-- A text and a hole behind it. -/
theorem marked (lead : String) (v : Value) :
    (Template.ofText lead ++ Template.hole v).Binds [⟨lead, v⟩] := by
  simp [Binds, Binding.Fills, Slot.behind]

/-- A text and a list of holes behind it. -/
theorem listed (lead : String) (values : List Value) :
    (Template.ofText lead ++ Template.holes values).Binds (listedBindings lead values) := by
  induction values generalizing lead with
  | nil => exact (ofText lead).append empty
  | cons v rest ih =>
      cases rest with
      | nil => exact marked lead v
      | cons w rest =>
          have hrest := ih (lead ++ "?,")
          have hslots : (Template.ofText lead ++ Template.holes (v :: w :: rest)).slots =
              ⟨lead.toList, v⟩ ::
                (Template.ofText (lead ++ "?,") ++ Template.holes (w :: rest)).slots := by
            simp [holes, join, Slot.behind, Function.comp_def]
          rw [Binds, hslots]
          exact List.Forall₂.cons ⟨List.suffix_rfl, rfl⟩ hrest

theorem join (separator : String) {ts : List Template} {bss : List (List Binding)}
    (h : List.Forall₂ (fun t bs => t.Binds bs) ts bss) :
    (Template.join separator ts).Binds bss.flatten := by
  induction h with
  | nil => exact empty
  | @cons t bs rest bss ht hrest ih =>
      cases hrest with
      | nil => simpa [Template.join] using ht
      | cons hu hrest => exact (ht.append_text separator).append ih

theorem join_map {α : Type} (separator : String) {items : List α} {f : α → Template}
    {g : α → List Binding} (h : ∀ item ∈ items, (f item).Binds (g item)) :
    (Template.join separator (items.map f)).Binds (items.flatMap g) := by
  rw [List.flatMap_def]
  apply join
  rw [List.forall₂_map_left_iff, List.forall₂_map_right_iff, List.forall₂_same]
  exact h

end Binds

/-- Each text of the template is inert. -/
def Inert (t : Template) : Prop :=
  ∀ s, Piece.text s ∈ t.pieces → SqlPipeline.Inert s.toList

namespace Inert

theorem empty : Template.empty.Inert := nofun

theorem hole (v : Value) : (Template.hole v).Inert := by
  simp [Template.Inert, Template.hole]

theorem ofText {s : String} (hs : SqlPipeline.Inert s.toList) : (Template.ofText s).Inert := by
  simpa [Template.Inert, Template.ofText] using hs

theorem append {s t : Template} (hs : s.Inert) (ht : t.Inert) : (s ++ t).Inert := by
  intro text htext
  change Piece.text text ∈ s.pieces ++ t.pieces at htext
  rcases List.mem_append.1 htext with hleft | hright
  · exact hs text hleft
  · exact ht text hright

theorem join {separator : String} (hseparator : SqlPipeline.Inert separator.toList)
    {ts : List Template} (hts : ∀ t ∈ ts, t.Inert) : (Template.join separator ts).Inert := by
  induction ts with
  | nil => exact empty
  | cons t rest ih =>
      have ht := hts t List.mem_cons_self
      have hrest := ih fun u hu => hts u (List.mem_cons_of_mem t hu)
      cases rest with
      | nil => exact ht
      | cons u rest => exact (ht.append (ofText hseparator)).append hrest

theorem holes (values : List Value) : (Template.holes values).Inert := by
  apply join (by decide)
  intro t ht
  obtain ⟨v, -, rfl⟩ := List.mem_map.1 ht
  exact hole v

end Inert

/-- Behind a text that ends outside quotes, an inert template has its slots outside quotes, each
with the placeholders of the text and one for each earlier slot in front of it. -/
theorem slotsFrom_spec {pieces : List Piece}
    (hpieces : ∀ s, Piece.text s ∈ pieces → SqlPipeline.Inert s.toList) {before : List Char}
    (hbefore : quotationThrough none before = none) {i : Nat} {slot : Slot}
    (hslot : (slotsFrom before pieces)[i]? = some slot) :
    quotationThrough none slot.before = none ∧
      placeholdersFrom none slot.before = placeholdersFrom none before + i ∧
      ∃ after, before ++ pieces.flatMap Piece.chars = slot.before ++ '?' :: after := by
  induction pieces generalizing before i with
  | nil => simp [slotsFrom] at hslot
  | cons piece rest ih =>
      have hrest : ∀ s, Piece.text s ∈ rest → SqlPipeline.Inert s.toList :=
        fun s hs => hpieces s (List.mem_cons_of_mem piece hs)
      cases piece with
      | text s =>
          have hs := hpieces s List.mem_cons_self
          have hnext : quotationThrough none (before ++ s.toList) = none := by
            rw [quotationThrough_append, hbefore, hs.closed]
          obtain ⟨hquote, hcount, after, hafter⟩ := ih hrest hnext hslot
          refine ⟨hquote, ?_, after, by simpa [Piece.chars] using hafter⟩
          rw [hcount, placeholdersFrom_append, hbefore, hs.unmarked, Nat.add_zero]
      | hole v =>
          cases i with
          | zero =>
              obtain rfl : ⟨before, v⟩ = slot := by simpa [slotsFrom] using hslot
              exact ⟨hbefore, rfl, rest.flatMap Piece.chars, rfl⟩
          | succ i =>
              have hnext : quotationThrough none (before ++ ['?']) = none := by
                rw [quotationThrough_append, hbefore]
                rfl
              obtain ⟨hquote, hcount, after, hafter⟩ := ih hrest hnext hslot
              refine ⟨hquote, ?_, after, by simpa [Piece.chars] using hafter⟩
              have hmark : placeholdersFrom none ['?'] = 1 := rfl
              rw [hcount, placeholdersFrom_append, hbefore, hmark]
              omega

/-- A scan over inert pieces ends outside quotes and meets one placeholder for each hole. -/
theorem scan_pieces {pieces : List Piece}
    (hpieces : ∀ s, Piece.text s ∈ pieces → SqlPipeline.Inert s.toList) :
    quotationThrough none (pieces.flatMap Piece.chars) = none ∧
      placeholdersFrom none (pieces.flatMap Piece.chars) =
        (pieces.filterMap Piece.value?).length := by
  induction pieces with
  | nil => exact ⟨rfl, rfl⟩
  | cons piece rest ih =>
      obtain ⟨hquote, hcount⟩ := ih fun s hs => hpieces s (List.mem_cons_of_mem piece hs)
      rw [List.flatMap_cons, quotationThrough_append, placeholdersFrom_append,
        List.filterMap_cons]
      cases piece with
      | text s =>
          have hs := hpieces s List.mem_cons_self
          simp [Piece.chars, Piece.value?, hs.closed, hs.unmarked, hquote, hcount]
      | hole v =>
          have hopen : quotationThrough none (Piece.hole v).chars = none := rfl
          have hmark : placeholdersFrom none (Piece.hole v).chars = 1 := rfl
          simp [Piece.value?, hopen, hmark, hquote, hcount, Nat.add_comm]

/-- An inert template has a placeholder outside quotes for each of its values, and no other. -/
theorem countPlaceholders_sql {t : Template} (ht : t.Inert) :
    countPlaceholders t.sql = t.values.length := by
  rw [countPlaceholders, sql, String.toList_ofList]
  exact (scan_pieces ht).2

end Template

/-- How a dialect writes the placeholder of a number. -/
def Dialect.mark (d : Dialect) (n : Nat) : List Char :=
  match d.placeholder with
  | .question => ['?']
  | .numbered => '$' :: natDigits n

/-- A placeholder behind a text that ends outside quotes is rendered behind the rendered text, with
the number after those of the text. -/
theorem Dialect.toList_finish_mark (d : Dialect) {before : List Char}
    (hbefore : quotationThrough none before = none) (after : List Char) :
    ∃ rest, (d.finish (String.ofList (before ++ '?' :: after))).toList =
      (d.finish (String.ofList before)).toList ++
        d.mark (placeholdersFrom none before + 1) ++ rest := by
  cases hstyle : d.placeholder with
  | question => exact ⟨after, by simp [finish, mark, hstyle]⟩
  | numbered =>
      refine ⟨numberFrom none (placeholdersFrom none before + 1) after, ?_⟩
      simp only [finish, mark, hstyle, numberPlaceholders, String.toList_ofList]
      rw [numberFrom_append, hbefore]
      simp [numberFrom, isPlaceholder]

end SqlPipeline
