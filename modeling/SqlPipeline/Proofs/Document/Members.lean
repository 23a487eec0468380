import Mathlib.Data.String.Basic
import SqlPipeline.Json.Basic

/-!
Members of an object.

Main statements: putting a member changes what is found under its name and nothing else, and keeps
the ascending order of the names; of the members that an object is built from the last one of a name
is kept; and members that stand in ascending order are kept as they are.
-/

namespace SqlPipeline
namespace Json

/-- The members stand in ascending order of their names, each name once. -/
def Ascending (members : List (String × Json)) : Prop :=
  members.Pairwise fun m n => m.1 < n.1

/-- What the document has under a name, if it is an object with a member of that name. -/
def get? (name : String) : Json → Option Json
  | .object members => member? name members
  | _ => none

variable {name : String} {value : Json} {members : List (String × Json)}

theorem member?_putMember (name key : String) (value : Json) (members : List (String × Json)) :
    member? key (putMember name value members) =
      if key = name then some value else member? key members := by
  induction members with
  | nil => rfl
  | cons m rest ih =>
      obtain ⟨n, v⟩ := m
      rw [putMember]
      by_cases hlt : name < n
      · rw [if_pos hlt, member?]
      · rw [if_neg hlt]
        by_cases heq : name = n
        · subst heq
          rw [if_pos rfl, member?, member?]
          split <;> rfl
        · rw [if_neg heq, member?, member?, ih]
          by_cases hkey : key = n
          · rw [if_pos hkey, if_pos hkey, if_neg fun h => heq (h.symm.trans hkey)]
          · rw [if_neg hkey, if_neg hkey]

theorem mem_putMember {m : String × Json} (hm : m ∈ putMember name value members) :
    m = (name, value) ∨ m ∈ members := by
  induction members with
  | nil => exact .inl (List.mem_singleton.1 hm)
  | cons first rest ih =>
      rw [putMember] at hm
      split at hm
      · exact List.mem_cons.1 hm
      · split at hm
        · exact (List.mem_cons.1 hm).imp_right (List.mem_cons_of_mem first)
        · rcases List.mem_cons.1 hm with rfl | hrest
          · exact .inr List.mem_cons_self
          · exact (ih hrest).imp_right (List.mem_cons_of_mem first)

theorem ascending_putMember (h : Ascending members) : Ascending (putMember name value members) := by
  induction members with
  | nil => exact List.pairwise_singleton _ _
  | cons first rest ih =>
      obtain ⟨hfirst, hrest⟩ := List.pairwise_cons.1 h
      rw [putMember]
      by_cases hlt : name < first.1
      · rw [if_pos hlt]
        refine List.pairwise_cons.2 ⟨?_, h⟩
        intro m hm
        rcases List.mem_cons.1 hm with rfl | hm
        · exact hlt
        · exact hlt.trans (hfirst m hm)
      · rw [if_neg hlt]
        by_cases heq : name = first.1
        · rw [if_pos heq]
          exact List.pairwise_cons.2 ⟨fun m hm => heq ▸ hfirst m hm, hrest⟩
        · rw [if_neg heq]
          refine List.pairwise_cons.2 ⟨?_, ih hrest⟩
          intro m hm
          rcases mem_putMember hm with rfl | hm
          · exact lt_of_le_of_ne (not_lt.1 hlt) (Ne.symm heq)
          · exact hfirst m hm

/-- A name greater than the others is put at the end. -/
theorem putMember_of_forall_lt (h : ∀ m ∈ members, m.1 < name) :
    putMember name value members = members ++ [(name, value)] := by
  induction members with
  | nil => rfl
  | cons first rest ih =>
      have hfirst : first.1 < name := h first List.mem_cons_self
      rw [putMember, if_neg hfirst.not_gt, if_neg hfirst.ne', List.cons_append,
        ih fun m hm => h m (List.mem_cons_of_mem first hm)]

/-- Puts members one after the other. -/
def putAll (members given : List (String × Json)) : List (String × Json) :=
  given.foldl (fun acc m => putMember m.1 m.2 acc) members

theorem putAll_cons (members : List (String × Json)) (m : String × Json)
    (given : List (String × Json)) :
    putAll members (m :: given) = putAll (putMember m.1 m.2 members) given := rfl

variable {given : List (String × Json)}

/-- Of the members that are put the last one of a name is kept. -/
theorem member?_putAll (key : String) (members given : List (String × Json)) :
    member? key (putAll members given) = (given.reverse.lookup key).or (member? key members) := by
  induction given generalizing members with
  | nil => rfl
  | cons m rest ih =>
      obtain ⟨name, value⟩ := m
      rw [putAll_cons, ih, member?_putMember, List.reverse_cons, List.lookup_append,
        Option.or_assoc]
      congr 1
      by_cases hkey : key = name
      · simp [hkey]
      · simp [hkey, List.lookup_cons, beq_false_of_ne hkey]

theorem ascending_putAll (h : Ascending members) : Ascending (putAll members given) := by
  induction given generalizing members with
  | nil => exact h
  | cons m rest ih => exact ih (ascending_putMember h)

/-- Members in ascending order are put one behind the other. -/
theorem putAll_of_ascending (h : Ascending (members ++ given)) :
    putAll members given = members ++ given := by
  induction given generalizing members with
  | nil => exact (List.append_nil members).symm
  | cons m rest ih =>
      have hlast : ∀ other ∈ members, other.1 < m.1 := fun other hother =>
        (List.pairwise_append.1 h).2.2 other hother m List.mem_cons_self
      rw [List.append_cons] at h ⊢
      rw [putAll_cons, putMember_of_forall_lt hlast, ih h]

/-- An object is built with its members in ascending order. -/
theorem exists_ascending_ofMembers (given : List (String × Json)) :
    ∃ members, ofMembers given = .object members ∧ Ascending members :=
  ⟨putAll [] given, rfl, ascending_putAll List.Pairwise.nil⟩

/-- Members in ascending order make up the object as they are. -/
theorem ofMembers_of_ascending (h : Ascending given) : ofMembers given = .object given :=
  congrArg object (@putAll_of_ascending [] given h)

/-- An object has under a name what was given last under it. -/
theorem get?_ofMembers (key : String) (given : List (String × Json)) :
    (ofMembers given).get? key = given.reverse.lookup key :=
  (member?_putAll key [] given).trans (Option.or_none)

end Json
end SqlPipeline
