import StepSequencer.Json.Value

/-!
# What an object holds under a key

Ordering the members of an object does not change what is found under a key, if of several members
with one key the last one counts (`member?_sortMembers`). So a member of the canonical form of an
object is the canonical form of a member (`member?_canonical`).
-/

set_option autoImplicit false
set_option relaxedAutoImplicit false

namespace StepSequencer.Json

section Lookup

variable {α : Type}

theorem member?_cons (key other : String) (value : α) (members : List (String × α)) :
    member? key ((other, value) :: members) =
      if other = key then some value else member? key members := by
  by_cases h : other = key
  · simp [member?, h]
  · simp [member?, h]

theorem member?_append (key : String) (first second : List (String × α)) :
    member? key (first ++ second) = (member? key first).or (member? key second) := by
  simp [member?, List.find?_append, Option.map_or]

/-- A member that is put into an object is found there, and all others stay. -/
theorem member?_insertMember (key other : String) (value : α) (members : List (String × α)) :
    member? key (insertMember other value members) =
      if other = key then some value else member? key members := by
  induction members with
  | nil => exact member?_cons key other value []
  | cons member rest ih =>
    obtain ⟨first, held⟩ := member
    rw [insertMember]
    split
    · rw [member?_cons]
    · split
      · rename_i hfirst
        subst hfirst
        rw [member?_cons, member?_cons]
        split <;> rfl
      · rename_i hfirst
        rw [member?_cons, member?_cons, ih]
        by_cases hkey : first = key
        · rw [if_pos hkey, if_pos hkey, if_neg (fun heq ↦ hfirst (heq.trans hkey.symm))]
        · rw [if_neg hkey, if_neg hkey]

/-- Under a key the ordered members hold the last value that was there. -/
theorem member?_sortMembers (key : String) (members : List (String × α)) :
    member? key (sortMembers members) = member? key members.reverse := by
  have hfold : ∀ sorted : List (String × α),
      member? key (members.foldl (fun sorted member ↦ insertMember member.1 member.2 sorted)
        sorted) = (member? key members.reverse).or (member? key sorted) := by
    induction members with
    | nil =>
      intro sorted
      rfl
    | cons member rest ih =>
      intro sorted
      rw [List.foldl_cons, ih, member?_insertMember, List.reverse_cons, member?_append,
        Option.or_assoc, member?_cons]
      split <;> rfl
  rw [sortMembers, hfold]
  exact Option.or_none

end Lookup

theorem canonicalMembers_eq_map (members : List (String × Value)) :
    canonicalMembers members = members.map fun member ↦ (member.1, member.2.canonical) := by
  induction members with
  | nil => rfl
  | cons member rest ih => rw [canonicalMembers, ih, List.map_cons]

/-- An object in its canonical form has under a key the last member that was written under it. -/
theorem member?_canonical (key : String) (members : List (String × Value)) :
    member? key (sortMembers (canonicalMembers members)) =
      (member? key members.reverse).map Value.canonical := by
  rw [member?_sortMembers, canonicalMembers_eq_map, ← List.map_reverse, member?, member?,
    List.find?_map, Option.map_map, Option.map_map]
  rfl

end StepSequencer.Json
