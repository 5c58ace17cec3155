import StepSequencer.Json.Listing
import StepSequencer.Json.Numeral
import StepSequencer.Json.Printer

/-!
# Strings and integers are read as they are written

`Takes` says that a reader takes a text off the front of what is left. Behind a value something
has to stand that does not carry a numeral on (`Ends`), as the comma or bracket behind an element
does; how many bytes were read before does not matter. `readString_flatMap` is for strings, with
every character that has to be escaped, and `readNumeral_toDigits` for the digits of integers of
64 bits, with or without a sign before them.
-/

set_option autoImplicit false
set_option relaxedAutoImplicit false

namespace StepSequencer.Json

/-! ### Texts at the front -/

/-- Nothing at the front would carry a numeral on. -/
def Ends (rest : List Char) : Prop :=
  ∀ c ∈ rest.head?, c.isDigit = false ∧ c ≠ '.' ∧ c ≠ 'e' ∧ c ≠ 'E'

/-- The reader takes the text off the front of what is left. -/
def Takes {α : Type} (read : Cursor → Reading α) (text : List Char) (a : α) : Prop :=
  ∀ (rest : List Char) (offset : Nat), Ends rest →
    ∃ final, read ⟨text ++ rest, offset⟩ = .ok (a, ⟨rest, final⟩)

theorem ends_nil : Ends [] := by
  intro c hc
  cases hc

/-- A character that is no digit, point or exponent ends a numeral. -/
theorem ends_cons {c : Char} {rest : List Char} (hdigit : c.isDigit = false)
    (hc : c ∉ ['.', 'e', 'E']) : Ends (c :: rest) := by
  intro d hd
  obtain rfl : c = d := Option.some.inj hd
  simp only [List.mem_cons, List.not_mem_nil, or_false, not_or] at hc
  exact ⟨hdigit, hc⟩

/-- Blanks are skipped up to the first character that is none. -/
theorem skipGaps_append {gap rest : List Char} (hgap : ∀ c ∈ gap, Cursor.isGap c = true)
    (hrest : ∀ c ∈ rest.head?, Cursor.isGap c = false) (offset : Nat) :
    Cursor.skipGaps ⟨gap ++ rest, offset⟩ = ⟨rest, offset + gap.length⟩ := by
  have hnone : rest.takeWhile Cursor.isGap = [] := by
    cases rest with
    | nil => rfl
    | cons c rest => rw [List.takeWhile_cons, hrest c rfl]; rfl
  have htake : (gap ++ rest).takeWhile Cursor.isGap = gap := by
    rw [List.takeWhile_append_of_pos hgap, hnone, List.append_nil]
  rw [Cursor.skipGaps, htake, Cursor.drop, List.drop_left]

theorem skipGaps_cons {c : Char} (hc : Cursor.isGap c = false) (rest : List Char)
    (offset : Nat) : Cursor.skipGaps ⟨c :: rest, offset⟩ = ⟨c :: rest, offset⟩ :=
  @skipGaps_append [] (c :: rest) (by simp) (by simp [hc]) offset

/-! ### Strings -/

theorem hexValue?_digitChar : ∀ digit < 16, hexValue? (Nat.digitChar digit) = some digit := by
  decide

/-- A control is read from its two hexadecimal digits. -/
theorem readEscape_control {c : Char} (hc : c.toNat < 0x20) (rest : List Char) (offset : Nat) :
    readEscape ⟨'u' :: '0' :: '0' :: Nat.digitChar (c.toNat / 16) ::
      Nat.digitChar (c.toNat % 16) :: rest, offset⟩ = .ok (c, ⟨rest, offset + 1 + 4⟩) := by
  have hunit : hexUnit? '0' '0' (Nat.digitChar (c.toNat / 16)) (Nat.digitChar (c.toNat % 16)) =
      some c.toNat := by
    have hzero : hexValue? '0' = some 0 := rfl
    rw [hexUnit?, hzero, hexValue?_digitChar _ (by omega), hexValue?_digitChar _ (by omega)]
    simp only [Option.bind_eq_bind, Option.bind_some, Option.pure_def, Option.some.injEq]
    omega
  have hlow : isLowSurrogate c.toNat = false := by
    simp only [isLowSurrogate, Bool.and_eq_false_iff, decide_eq_false_iff_not]
    omega
  have hhigh : isHighSurrogate c.toNat = false := by
    simp only [isHighSurrogate, Bool.and_eq_false_iff, decide_eq_false_iff_not]
    omega
  have hread : readUnit ⟨'0' :: '0' :: Nat.digitChar (c.toNat / 16) ::
      Nat.digitChar (c.toNat % 16) :: rest, offset + 1⟩ =
        .ok (c.toNat, ⟨rest, offset + 1 + 4⟩) := by
    rw [readUnit]
    simp only [hunit]
    rfl
  have hunicode : readUnicode ⟨'0' :: '0' :: Nat.digitChar (c.toNat / 16) ::
      Nat.digitChar (c.toNat % 16) :: rest, offset + 1⟩ = .ok (c, ⟨rest, offset + 1 + 4⟩) := by
    rw [readUnicode, hread]
    simp [bind, Except.bind, pure, Except.pure, hlow, hhigh]
  exact hunicode

/-- One turn reads one character, whether it was escaped or not. -/
theorem readStringTurn_charText (c : Char) (first : Bool) (chars rest : List Char)
    (offset : Nat) :
    ∃ final, readStringTurn first chars ⟨charText c ++ rest, offset⟩ =
      .ok (.more (c :: chars), ⟨rest, final⟩) := by
  rw [charText]
  split
  case isTrue hquote => subst hquote; exact ⟨_, rfl⟩
  split
  case isTrue _ hbackslash => subst hbackslash; exact ⟨_, rfl⟩
  split
  case isTrue _ _ hbackspace => subst hbackspace; exact ⟨_, rfl⟩
  split
  case isTrue hfeed => subst hfeed; exact ⟨_, rfl⟩
  split
  case isTrue hline => subst hline; exact ⟨_, rfl⟩
  split
  case isTrue hreturn => subst hreturn; exact ⟨_, rfl⟩
  split
  case isTrue htab => subst htab; exact ⟨_, rfl⟩
  split
  case isTrue hcontrol =>
    refine ⟨offset + 1 + 1 + 4, ?_⟩
    simp only [readStringTurn, List.cons_append, List.nil_append]
    rw [if_neg (by decide), if_pos trivial]
    have hescape := readEscape_control hcontrol rest (offset + 1)
    simp only [Cursor.drop, List.drop_succ_cons, List.drop_zero, hescape]
  case isFalse hquote hbackslash _ _ _ _ _ hcontrol =>
    refine ⟨offset + c.utf8Size, ?_⟩
    simp only [readStringTurn, List.singleton_append]
    rw [if_neg hquote, if_neg hbackslash, if_neg hcontrol]

theorem charText_ne_nil (c : Char) : charText c ≠ [] := by
  unfold charText
  repeat' split
  all_goals simp

theorem length_le_length_flatMap_charText (chars : List Char) :
    chars.length ≤ (chars.flatMap charText).length := by
  induction chars with
  | nil => exact Nat.zero_le _
  | cons c chars ih =>
    have hpos := List.length_pos_iff.mpr (charText_ne_nil c)
    rw [List.flatMap_cons, List.length_append, List.length_cons]
    omega

/-- Turn by turn, all characters up to the closing quote are read. -/
theorem readMany_readStringTurn (text chars rest : List Char) (first : Bool) (offset : Nat)
    {bound : Nat} (hbound : text.length < bound) :
    ∃ final, readMany readStringTurn bound first chars
      ⟨text.flatMap charText ++ '"' :: rest, offset⟩ =
        .ok (text.reverse ++ chars, ⟨rest, final⟩) := by
  induction text generalizing bound first chars offset with
  | nil =>
    obtain ⟨bound, rfl⟩ := Nat.exists_eq_add_one_of_ne_zero (Nat.ne_zero_of_lt hbound)
    exact ⟨offset + 1, rfl⟩
  | cons c text ih =>
    obtain ⟨bound, rfl⟩ := Nat.exists_eq_add_one_of_ne_zero (Nat.ne_zero_of_lt hbound)
    rw [List.length_cons] at hbound
    obtain ⟨next, hturn⟩ := readStringTurn_charText c first chars
      (text.flatMap charText ++ '"' :: rest) offset
    obtain ⟨final, hrest⟩ := ih (c :: chars) false next (Nat.lt_of_succ_lt_succ hbound)
    refine ⟨final, ?_⟩
    rw [List.flatMap_cons, List.append_assoc, readMany, hturn]
    simp only [hrest, List.reverse_cons, List.append_assoc, List.singleton_append]

/-- A string is read as it was written, after its opening quote. -/
theorem readString_flatMap (s : String) (rest : List Char) (offset : Nat) :
    ∃ final, readString ⟨s.toList.flatMap charText ++ '"' :: rest, offset⟩ =
      .ok (s, ⟨rest, final⟩) := by
  have hbound : s.toList.length < (s.toList.flatMap charText ++ '"' :: rest).length + 1 := by
    have hlength := length_le_length_flatMap_charText s.toList
    rw [List.length_append]
    omega
  obtain ⟨final, hread⟩ := readMany_readStringTurn s.toList [] rest true offset hbound
  refine ⟨final, ?_⟩
  rw [readString, readAll, hread]
  simp

/-! ### Integers -/

/-- Digits are taken up to the end of a numeral. -/
theorem takeWhile_isDigit_append {digits rest : List Char}
    (hdigits : ∀ c ∈ digits, c.isDigit = true) (hrest : Ends rest) :
    (digits ++ rest).takeWhile Char.isDigit = digits := by
  have hnone : rest.takeWhile Char.isDigit = [] := by
    cases rest with
    | nil => rfl
    | cons c rest => rw [List.takeWhile_cons, (hrest c rfl).1]; rfl
  rw [List.takeWhile_append_of_pos hdigits, hnone, List.append_nil]

/-- More digits never make a number smaller. -/
theorem le_ofDigitChars (digits : List Char) (word : Nat) :
    word ≤ Nat.ofDigitChars 10 digits word := by
  induction digits generalizing word with
  | nil => simp
  | cons d digits ih =>
    rw [Nat.ofDigitChars_cons]
    exact Nat.le_trans (by omega) (ih _)

/-- All digits of a number below the limit are gathered. -/
theorem gather_eq {limit word : Nat} {digits : List Char}
    (h : Nat.ofDigitChars 10 digits word < limit) :
    gather limit word digits = (Nat.ofDigitChars 10 digits word, []) := by
  induction digits generalizing word with
  | nil => rw [gather, Nat.ofDigitChars_nil]
  | cons d digits ih =>
    rw [Nat.ofDigitChars_cons] at h ⊢
    have hword : 10 * word + digitValue d < limit := Nat.lt_of_le_of_lt (le_ofDigitChars _ _) h
    rw [gather, if_pos hword]
    exact ih h

/-- A numeral starts with a zero only if it is the zero. -/
theorem head?_toDigits {n : Nat} (h : 0 < n) : (Nat.toDigits 10 n).head? ≠ some '0' := by
  induction n using Nat.strongRecOn with
  | ind n ih =>
    by_cases hlt : n < 10
    · rw [Nat.toDigits_of_lt_base hlt]
      have hcases : ∀ digit < 10, 0 < digit → [Nat.digitChar digit].head? ≠ some '0' := by decide
      exact hcases n hlt h
    · have htail := ih (n / 10) (by omega) (by omega)
      obtain ⟨d, digits, heq⟩ :=
        List.exists_cons_of_ne_nil (Nat.toDigits_ne_nil (n := n / 10) (b := 10))
      rw [Nat.toDigits_of_base_le (by omega) (by omega)]
      rw [heq] at htail ⊢
      exact htail

/-- Behind the digits of an integer that fits, the integer is complete. -/
theorem readAfterInteger_eq (negative : Bool) (word : Nat) {rest : List Char} (hrest : Ends rest)
    (offset : Nat) :
    readAfterInteger negative word 0 ⟨rest, offset⟩ = wholeNumber negative word ⟨rest, offset⟩ := by
  rw [readAfterInteger]
  cases rest with
  | nil => rfl
  | cons c rest =>
    obtain ⟨-, hpoint, hlower, hupper⟩ := hrest c rfl
    have hexponent : Cursor.atExponent ⟨c :: rest, offset⟩ = false := by
      rw [Cursor.atExponent]
      split <;> simp_all
    rw [hexponent]
    simp only [Bool.false_eq_true, if_false]
    split <;> simp_all

/-- The digits of a number of 64 bits are read to their end. -/
theorem readNumeral_toDigits (negative : Bool) {n : Nat} (hn : n < wordLimit) {rest : List Char}
    (hrest : Ends rest) (offset : Nat) :
    readNumeral negative ⟨Nat.toDigits 10 n ++ rest, offset⟩ =
      wholeNumber negative n ⟨rest, offset + (Nat.toDigits 10 n).length⟩ := by
  have hdigits : ∀ c ∈ Nat.toDigits 10 n, c.isDigit = true := fun c hc ↦
    Nat.isDigit_of_mem_toDigits (by omega) (by omega) hc
  have htake := takeWhile_isDigit_append hdigits hrest
  rcases Nat.eq_zero_or_pos n with rfl | hpos
  · rw [Nat.toDigits_zero] at htake ⊢
    rw [readNumeral]
    simp only [List.singleton_append] at htake ⊢
    rw [if_pos trivial, Cursor.digits, htake]
    exact readAfterInteger_eq negative 0 hrest (offset + 1)
  · obtain ⟨d, digits, heq⟩ := List.exists_cons_of_ne_nil (Nat.toDigits_ne_nil (n := n) (b := 10))
    have hne : d ≠ '0' := by
      intro hd
      apply head?_toDigits hpos
      rw [heq, hd, List.head?_cons]
    have hsmall : Nat.ofDigitChars 10 (Nat.toDigits 10 n) 0 < wordLimit := by
      rwa [Nat.ofDigitChars_ten_toDigits]
    have hgather := gather_eq hsmall
    rw [Nat.ofDigitChars_ten_toDigits] at hgather
    have hfirst : d.isDigit = true := hdigits d (by simp [heq])
    have hread : readNumeral negative ⟨Nat.toDigits 10 n ++ rest, offset⟩ =
        readAfterInteger negative n 0
          (Cursor.drop (Nat.toDigits 10 n).length ⟨Nat.toDigits 10 n ++ rest, offset⟩) := by
      rw [readNumeral]
      simp only [heq, List.cons_append] at htake hgather ⊢
      rw [if_neg hne, if_pos hfirst, Cursor.digits, htake, hgather]
      rfl
    rw [hread, Cursor.drop, List.drop_left]
    exact readAfterInteger_eq negative n hrest _

end StepSequencer.Json
