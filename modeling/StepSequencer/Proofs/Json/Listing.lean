import StepSequencer.Proofs.Json.Leaves

/-!
# The loop over the items of a list

The elements of an array and the members of an object are read by the same loop, `listTurn`, which
differs in how it moves to the next item (`nextElement`, `nextKey`). `Walks` says which texts lead
to an item and which to the closing bracket.

A `Layout` is what a printer puts around items: blanks at the start of a line of some level, and
behind a colon. There are none in the compact form.
-/

set_option autoImplicit false
set_option relaxedAutoImplicit false

namespace StepSequencer.Json

/-! ### Layouts -/

/-- There are only blanks. -/
def Blank (gap : List Char) : Prop :=
  ∀ c ∈ gap, Cursor.isGap c = true

/-- The blanks that a printer puts before an item at a level and behind a colon. -/
structure Layout where
  line : Nat → List Char
  colon : List Char
  blank_line : ∀ level, Blank (line level)
  blank_colon : Blank colon

namespace Layout

/-- No blanks at all. -/
def compact : Layout where
  line _ := []
  colon := []
  blank_line _ := by simp [Blank]
  blank_colon := by simp [Blank]

/-- Every item on a line of its own. -/
def pretty : Layout where
  line := newLine
  colon := [' ']
  blank_line level := by simp [Blank, newLine, Cursor.isGap]
  blank_colon := by simp [Blank, Cursor.isGap]

/-- What stands behind an opening bracket: items one level deeper, and the closing bracket. -/
def enclosed (layout : Layout) (level : Nat) (close : Char) : List (List Char) → List Char
  | [] => [close]
  | items => layout.line (level + 1) ++ separated (',' :: layout.line (level + 1)) items ++
      layout.line level ++ [close]

end Layout

/-- Behind the first text every other stands behind a separator. -/
theorem separated_cons (separator text : List Char) (texts : List (List Char)) :
    separated separator (text :: texts) = text ++ texts.flatMap (separator ++ ·) := by
  induction texts generalizing text with
  | nil => simp [separated]
  | cons next texts ih =>
    rw [separated, ih, List.flatMap_cons, List.append_assoc, List.append_assoc]

theorem separated_comma_compact (close : Char) (level : Nat) (texts : List (List Char)) :
    separated [','] texts ++ [close] = Layout.compact.enclosed level close texts := by
  cases texts with
  | nil => rfl
  | cons text texts => simp [Layout.enclosed, Layout.compact]

/-- The pretty printer encloses texts as its layout does. -/
theorem bracketed_eq (level : Nat) (left right : Char) (texts : List (List Char)) :
    bracketed level left right texts = left :: Layout.pretty.enclosed level right texts := by
  cases texts with
  | nil => rfl
  | cons text texts => simp [bracketed, Layout.enclosed, Layout.pretty]

/-! ### The loop over items -/

/-- Moves to the next item and reads it, or ends behind the closing bracket. -/
def listTurn {σ : Type} (next : Bool → Cursor → Reading Bool) (item : σ → Cursor → Reading σ)
    (first : Bool) (state : σ) (c : Cursor) : Reading (Turn σ) :=
  match next first c with
  | .error fault => .error fault
  | .ok (false, c) => .ok (.done state, c.drop 1)
  | .ok (true, c) =>
    match item state c with
    | .error fault => .error fault
    | .ok (state, c) => .ok (.more state, c)

theorem readElements_eq {σ : Type} (element : σ → Cursor → Reading σ) (state : σ) :
    readElements element state = readAll (listTurn nextElement element) state :=
  rfl

theorem readMembers_eq {σ : Type} (member : σ → Cursor → Reading σ) (state : σ) :
    readMembers member state = readAll (listTurn nextKey member) state :=
  rfl

/-- How a loop moves to its items: over blanks to the closing bracket, to the first item, and
over a comma and blanks to a later one. Items start with characters of a certain kind. -/
structure Walks (next : Bool → Cursor → Reading Bool) (close : Char) (starts : Char → Prop) :
    Prop where
  stop : ∀ (first : Bool) {gap : List Char} (rest : List Char) (offset : Nat), Blank gap →
    ∃ final, next first ⟨gap ++ close :: rest, offset⟩ = .ok (false, ⟨close :: rest, final⟩)
  start : ∀ {gap : List Char} {c : Char} (rest : List Char) (offset : Nat), Blank gap → starts c →
    ∃ final, next true ⟨gap ++ c :: rest, offset⟩ = .ok (true, ⟨c :: rest, final⟩)
  proceed : ∀ {gap : List Char} {c : Char} (rest : List Char) (offset : Nat), Blank gap →
    starts c →
    ∃ final, next false ⟨',' :: gap ++ c :: rest, offset⟩ = .ok (true, ⟨c :: rest, final⟩)
  ends : ∀ rest, Ends (close :: rest)

/-- The first character of a value: no blank and no closing bracket. -/
def StartsValue (c : Char) : Prop :=
  Cursor.isGap c = false ∧ c ≠ ']'

instance (c : Char) : Decidable (StartsValue c) :=
  inferInstanceAs (Decidable (Cursor.isGap c = false ∧ c ≠ ']'))

/-- Blanks are skipped up to the first other character. -/
theorem skipGaps_append_cons {gap : List Char} {c : Char} (hgap : Blank gap)
    (hc : Cursor.isGap c = false) (rest : List Char) (offset : Nat) :
    Cursor.skipGaps ⟨gap ++ c :: rest, offset⟩ = ⟨c :: rest, offset + gap.length⟩ :=
  skipGaps_append hgap (by simp [hc]) offset

/-- The way to the elements of an array. -/
theorem walks_nextElement : Walks nextElement ']' StartsValue where
  stop first gap rest offset hgap := by
    rw [nextElement, skipGaps_append_cons hgap (by decide)]
    exact ⟨_, rfl⟩
  start {gap c} rest offset hgap hc := by
    rw [nextElement, skipGaps_append_cons hgap hc.1]
    simp only [if_neg hc.2, if_true]
    exact ⟨_, rfl⟩
  proceed {gap c} rest offset hgap hc := by
    rw [nextElement, List.cons_append, skipGaps_cons (by decide)]
    simp only [Cursor.drop, List.drop_succ_cons, List.drop_zero]
    rw [skipGaps_append_cons hgap hc.1]
    simp [hc.2]
  ends rest := ends_cons (by decide) (by decide)

/-- The way to the keys of an object. -/
theorem walks_nextKey : Walks nextKey '}' (· = '"') where
  stop first gap rest offset hgap := by
    rw [nextKey, skipGaps_append_cons hgap (by decide)]
    exact ⟨_, rfl⟩
  start {gap c} rest offset hgap hc := by
    subst hc
    rw [nextKey, skipGaps_append_cons hgap (by decide)]
    exact ⟨_, rfl⟩
  proceed {gap c} rest offset hgap hc := by
    subst hc
    rw [nextKey, List.cons_append, skipGaps_cons (by decide)]
    simp only [Cursor.drop, List.drop_succ_cons, List.drop_zero]
    rw [skipGaps_append_cons hgap (by decide)]
    exact ⟨_, rfl⟩
  ends rest := ends_cons (by decide) (by decide)

theorem isGap_cases {c : Char} (h : Cursor.isGap c = true) :
    c = ' ' ∨ c = '\n' ∨ c = '\t' ∨ c = '\r' := by
  simpa [Cursor.isGap, or_assoc] using h

/-- Blanks end a numeral. -/
theorem ends_of_blank {gap rest : List Char} (hgap : Blank gap) (hrest : Ends rest) :
    Ends (gap ++ rest) := by
  cases gap with
  | nil => exact hrest
  | cons c gap =>
    rcases isGap_cases (hgap c List.mem_cons_self) with rfl | rfl | rfl | rfl <;>
      exact ends_cons (by decide) (by decide)

end StepSequencer.Json
