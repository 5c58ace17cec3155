import StepSequencer.Proofs.Outcomes
import StepSequencer.Song.Schema

/-!
# What a reader that succeeds has read

When a list or a record is read without a mismatch, so were its parts. For an array this is said
position by position. The members of an object are visited one after the other into a draft; what
only one key changes in the draft is in the end what the member of that key made of it
(`decodeMembers_of_mem`).
-/

set_option autoImplicit false
set_option relaxedAutoImplicit false

namespace StepSequencer

open Json (Value)

theorem below_eq_ok {α : Type} {step : PathStep} {outcome : Decoded α} {a : α}
    (h : below step outcome = .ok a) : outcome = .ok a := by
  cases outcome with
  | error e => cases h
  | ok b => exact h

/-! ### Arrays -/

/-- Every element of a list that was read was read by itself. -/
theorem decodeElements_getElem? {α : Type} {decode : Value → Decoded α} {start : Nat}
    {values : List Value} {list : List α} (h : decodeElements decode start values = .ok list)
    {position : Nat} {value : Value} (hvalue : values[position]? = some value) :
    ∃ a, decode value = .ok a ∧ list[position]? = some a := by
  induction values generalizing start list position with
  | nil => cases hvalue
  | cons first rest ih =>
    rw [decodeElements] at h
    obtain ⟨a, hfirst, h⟩ := bind_eq_ok h
    obtain ⟨others, hrest, h⟩ := bind_eq_ok h
    cases h
    cases position with
    | zero =>
      cases hvalue
      exact ⟨a, below_eq_ok hfirst, rfl⟩
    | succ position => exact ih hrest hvalue

/-- A list is read if every element is. -/
theorem decodeElements_of_forall {α : Type} {decode : Value → Decoded α} {values : List Value}
    (h : ∀ value ∈ values, ∃ a, decode value = .ok a) (start : Nat) :
    ∃ list, decodeElements decode start values = .ok list := by
  induction values generalizing start with
  | nil => exact ⟨[], rfl⟩
  | cons value rest ih =>
    obtain ⟨⟨a, hvalue⟩, hrest⟩ := List.forall_mem_cons.mp h
    obtain ⟨list, hlist⟩ := ih hrest (start + 1)
    refine ⟨a :: list, ?_⟩
    rw [decodeElements, hvalue, hlist]
    rfl

/-- A field that is there was read by itself. -/
theorem positional_of_getElem? {α : Type} {shape : RecordShape} {elements : List Value}
    {position : Nat} {decode : Value → Decoded α} {default? : Option α} {value : Value} {a : α}
    (h : positional shape elements position decode default? = .ok a)
    (hvalue : elements[position]? = some value) : decode value = .ok a := by
  unfold positional at h
  rw [hvalue] at h
  exact below_eq_ok h

/-! ### Objects -/

/-- What only members of a key change is not changed by others. -/
theorem decodeMembers_of_not_mem {δ γ : Type} {visit : δ → String → Value → Decoded δ}
    {get : δ → γ} {key : String}
    (hother : ∀ draft other value next, other ≠ key → visit draft other value = .ok next →
      get next = get draft)
    {members : List (String × Value)} {draft final : δ}
    (h : decodeMembers visit draft members = .ok final) (hkey : key ∉ members.map Prod.fst) :
    get final = get draft := by
  induction members generalizing draft with
  | nil =>
    cases h
    rfl
  | cons member rest ih =>
    rw [List.map_cons, List.mem_cons, not_or] at hkey
    rw [decodeMembers] at h
    obtain ⟨next, hvisit, hrest⟩ := bind_eq_ok h
    rw [ih hrest hkey.2, hother draft member.1 member.2 next (Ne.symm hkey.1) hvisit]

/-- What only members of a key change is in the end what the one member of the key made of it. -/
theorem decodeMembers_of_mem {δ γ : Type} {visit : δ → String → Value → Decoded δ}
    {get : δ → γ} {key : String}
    (hother : ∀ draft other value next, other ≠ key → visit draft other value = .ok next →
      get next = get draft)
    {members : List (String × Value)} {draft final : δ} {value : Value}
    (h : decodeMembers visit draft members = .ok final)
    (hkeys : (members.map Prod.fst).Nodup) (hmem : (key, value) ∈ members) :
    ∃ before after, visit before key value = .ok after ∧ get final = get after := by
  induction members generalizing draft with
  | nil => cases hmem
  | cons member rest ih =>
    rw [List.map_cons, List.nodup_cons] at hkeys
    rw [decodeMembers] at h
    obtain ⟨next, hvisit, hrest⟩ := bind_eq_ok h
    rcases List.mem_cons.mp hmem with rfl | hmem
    · exact ⟨draft, next, hvisit, decodeMembers_of_not_mem hother hrest hkeys.1⟩
    · exact ih hrest hkeys.2 hmem

end StepSequencer
