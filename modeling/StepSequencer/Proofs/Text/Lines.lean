import StepSequencer.Json.Mismatch
import StepSequencer.Text.Blank
import StepSequencer.Text.Split

/-!
# Lines, numerals and ends of a text

`lines` cuts a text at its newlines. A text that was put together from lines, each ended by a
newline, has exactly these lines (`lines_join`), provided that none of them holds a newline of
its own; so has one with newlines between the lines only, if none of them is empty
(`lines_intercalate`). A text that holds newlines is cut there as well (`split_append_cons`).
`numeral?` reads the digits of a number back (`numeral?_toDigits`), so that the numerals in a text
determine the numbers they were written for (`decimal_natCast_injective`).
`trimChars_append` says what remains when the blank characters at the ends of a text are dropped.
-/

set_option autoImplicit false
set_option relaxedAutoImplicit false

namespace StepSequencer.Text

/-! ### Cutting at a character -/

theorem split_of_not_mem {divider : Char} {text : List Char} (h : divider ∉ text) :
    split divider text = [text] := by
  induction text with
  | nil => rfl
  | cons c rest ih =>
    have hc : c ≠ divider := fun heq ↦ h (heq ▸ List.mem_cons_self)
    have hrest : divider ∉ rest := fun hmem ↦ h (List.mem_cons_of_mem _ hmem)
    rw [split, if_neg hc, ih hrest]

theorem exists_split_eq_cons (divider : Char) (text : List Char) :
    ∃ part parts, split divider text = part :: parts := by
  induction text with
  | nil => exact ⟨[], [], rfl⟩
  | cons c rest ih =>
    obtain ⟨part, parts, hrest⟩ := ih
    by_cases hc : c = divider
    · exact ⟨[], split divider rest, by rw [split, if_pos hc]⟩
    · exact ⟨c :: part, parts, by rw [split, if_neg hc, hrest]⟩

/-- A divider ends a part, whatever stands before it. -/
theorem split_append_cons (divider : Char) (front rest : List Char) :
    split divider (front ++ divider :: rest) = split divider front ++ split divider rest := by
  induction front with
  | nil => simp [split]
  | cons c front ih =>
    by_cases hc : c = divider
    · rw [List.cons_append, split, if_pos hc, ih, split, if_pos hc, List.cons_append]
    · obtain ⟨part, parts, hfront⟩ := exists_split_eq_cons divider front
      rw [List.cons_append, split, if_neg hc, ih, split, if_neg hc, hfront, List.cons_append,
        List.cons_append]

/-- What stands before the first divider goes to the first part. -/
theorem split_append_of_not_mem {divider : Char} {front : List Char} (h : divider ∉ front)
    {text part : List Char} {parts : List (List Char)}
    (htext : split divider text = part :: parts) :
    split divider (front ++ text) = (front ++ part) :: parts := by
  induction front with
  | nil => exact htext
  | cons c front ih =>
    have hc : c ≠ divider := fun heq ↦ h (heq ▸ List.mem_cons_self)
    have hfront : divider ∉ front := fun hmem ↦ h (List.mem_cons_of_mem _ hmem)
    rw [List.cons_append, split, if_neg hc, ih hfront, List.cons_append]

/-- Up to its first divider a text is its first part. -/
theorem split_append_divider {divider : Char} {part : List Char} (h : divider ∉ part)
    (rest : List Char) :
    split divider (part ++ divider :: rest) = part :: split divider rest := by
  rw [split_append_cons, split_of_not_mem h, List.singleton_append]

/-- Parts that are each followed by a divider are the parts of the whole, and nothing is left
behind the last divider. -/
theorem split_flatMap_divider {divider : Char} {parts : List (List Char)}
    (h : ∀ part ∈ parts, divider ∉ part) :
    split divider (parts.flatMap fun part ↦ part ++ [divider]) = parts ++ [[]] := by
  induction parts with
  | nil => rfl
  | cons part parts ih =>
    have hparts := ih fun other hother ↦ h other (List.mem_cons_of_mem _ hother)
    rw [List.flatMap_cons, List.append_assoc, List.singleton_append,
      split_append_divider (h part List.mem_cons_self), hparts, List.cons_append]

/-- Parts with a divider between neighbours are the parts of the whole. -/
theorem split_intercalate {divider : Char} {parts : List (List Char)} (hne : parts ≠ [])
    (h : ∀ part ∈ parts, divider ∉ part) :
    split divider ([divider].intercalate parts) = parts := by
  induction parts with
  | nil => exact absurd rfl hne
  | cons part rest ih =>
    have hpart := h part List.mem_cons_self
    cases rest with
    | nil => rw [List.intercalate_singleton, split_of_not_mem hpart]
    | cons next others =>
      have hrest := ih (List.cons_ne_nil _ _) fun other hother ↦
        h other (List.mem_cons_of_mem _ hother)
      rw [List.intercalate_cons_cons, List.append_assoc, List.singleton_append,
        split_append_divider hpart, hrest]

/-! ### Lines -/

/-- The lines of a text. A newline ends a line, and what stands behind the last newline is a
line unless it is empty. -/
def lines (text : String) : List String :=
  let parts := split '\n' text.toList
  (if parts.getLast? = some [] then parts.dropLast else parts).map String.ofList

/-- A text made of lines has these lines. -/
theorem lines_join {parts : List String} (h : ∀ part ∈ parts, '\n' ∉ part.toList) :
    lines (String.join (parts.map fun part ↦ part ++ "\n")) = parts := by
  have htext : (String.join (parts.map fun part ↦ part ++ "\n")).toList =
      (parts.map String.toList).flatMap fun part ↦ part ++ ['\n'] := by
    simp [List.flatMap_map]
  have hparts : ∀ part ∈ parts.map String.toList, '\n' ∉ part := by
    intro part hpart
    obtain ⟨line, hline, rfl⟩ := List.mem_map.mp hpart
    exact h line hline
  rw [lines, htext, split_flatMap_divider hparts]
  simp [Function.comp_def]

/-- A text with a newline at its end has the lines that its newlines divide. -/
theorem lines_append_newline (text : String) :
    lines (text ++ "\n") = (split '\n' text.toList).map String.ofList := by
  have htext : (text ++ "\n").toList = text.toList ++ '\n' :: [] := String.toList_append
  have hsplit : split '\n' (text ++ "\n").toList = split '\n' text.toList ++ [[]] := by
    rw [htext, split_append_cons]
    rfl
  rw [lines, hsplit]
  simp

/-- Lines with a newline between neighbours, none of them empty, are the lines of the whole. -/
theorem lines_intercalate {parts : List String}
    (h : ∀ part ∈ parts, '\n' ∉ part.toList ∧ part ≠ "") :
    lines ("\n".intercalate parts) = parts := by
  by_cases hne : parts = []
  · subst hne
    rfl
  · have hsplit : split '\n' ("\n".intercalate parts).toList = parts.map String.toList := by
      rw [String.toList_intercalate]
      refine split_intercalate (by simpa using hne) ?_
      intro part hpart
      obtain ⟨line, hline, rfl⟩ := List.mem_map.mp hpart
      exact (h line hline).1
    have hlast : (parts.map String.toList).getLast? ≠ some [] := by
      intro hlast
      obtain ⟨line, hline, hnil⟩ := List.mem_map.mp (List.mem_of_getLast? hlast)
      exact (h line hline).2 (String.toList_eq_nil_iff.mp hnil)
    rw [lines, hsplit, if_neg hlast, List.map_map]
    simp [Function.comp_def]

/-! ### Numerals -/

/-- The number of a decimal numeral. -/
def numeral? (text : List Char) : Option Nat :=
  if text ≠ [] ∧ text.all Char.isDigit then some (Nat.ofDigitChars 10 text 0) else none

@[simp] theorem toList_decimal_natCast (n : Nat) :
    (Json.decimal n).toList = Nat.toDigits 10 n :=
  String.toList_ofList

/-- A character that is no digit stands in no numeral. -/
theorem not_mem_toDigits {c : Char} (h : c.isDigit = false) (n : Nat) :
    c ∉ Nat.toDigits 10 n := by
  intro hmem
  have hdigit := Nat.isDigit_of_mem_toDigits (by omega) (by omega) hmem
  rw [h] at hdigit
  exact absurd hdigit (by decide)

/-- The numeral of a number is read as that number. -/
@[simp] theorem numeral?_toDigits (n : Nat) : numeral? (Nat.toDigits 10 n) = some n := by
  have hdigits : (Nat.toDigits 10 n).all Char.isDigit = true :=
    List.all_eq_true.mpr fun _ hmem ↦ Nat.isDigit_of_mem_toDigits (by omega) (by omega) hmem
  rw [numeral?, if_pos ⟨Nat.toDigits_ne_nil, hdigits⟩, Nat.ofDigitChars_ten_toDigits]

/-- Numerals tell numbers apart. -/
theorem decimal_natCast_injective {m n : Nat} (h : Json.decimal m = Json.decimal n) : m = n := by
  have hread := congrArg (fun text ↦ numeral? text.toList) h
  simpa using hread

/-! ### Ends -/

private theorem dropWhile_eq_self {α : Type} {p : α → Bool} {list : List α}
    (h : ∀ a ∈ list.head?, p a = false) : list.dropWhile p = list := by
  cases list with
  | nil => rfl
  | cons a rest => rw [List.dropWhile_cons_of_neg]; simp [h a rfl]

/-- Between blank characters at the ends, a text that neither starts nor ends in one is what
trimming leaves. -/
theorem trimChars_append {front core back : List Char} (hfront : ∀ c ∈ front, isBlank c = true)
    (hback : ∀ c ∈ back, isBlank c = true) (hhead : ∀ c ∈ core.head?, isBlank c = false)
    (hlast : ∀ c ∈ core.getLast?, isBlank c = false) :
    trimChars (front ++ (core ++ back)) = core := by
  rw [trimChars, List.dropWhile_append_of_pos hfront]
  cases core with
  | nil =>
    rw [List.nil_append, ← List.append_nil back, List.dropWhile_append_of_pos hback]
    rfl
  | cons c core =>
    have hstart : (c :: core ++ back).dropWhile isBlank = c :: core ++ back :=
      dropWhile_eq_self (by simpa using hhead)
    have hreverse : ∀ d ∈ back.reverse, isBlank d = true := by simpa using hback
    have hend : (c :: core).reverse.dropWhile isBlank = (c :: core).reverse :=
      dropWhile_eq_self (by simpa only [List.head?_reverse] using hlast)
    rw [hstart, List.reverse_append, List.dropWhile_append_of_pos hreverse, hend,
      List.reverse_reverse]

end StepSequencer.Text
