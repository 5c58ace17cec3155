import StepSequencer.Proofs.Json.RoundTrip
import StepSequencer.Proofs.Outcomes

/-!
# What was read once is read everywhere

A string, a numeral or a word is read from the characters that it takes and from nothing else.
`Local` says this of a reader: what it has taken off the front of one text it takes off the front of
every other one, where something of a certain kind has to follow. Inside a string anything may
follow; behind a numeral nothing may stand that carries it on (`Ends`). The main results are
`local_readString`, `local_readNumeral` and `exists_takes_of_readValue`, for all values that are
neither arrays nor objects.
-/

set_option autoImplicit false
set_option relaxedAutoImplicit false

namespace StepSequencer.Json

/-! ### Local readers -/

/-- What the reader has taken it takes off the front of every text, if something of a kind
follows. -/
def Local {α : Type} (follows : List Char → Prop) (read : Cursor → Reading α) : Prop :=
  ∀ ⦃c d : Cursor⦄ ⦃a : α⦄, read c = .ok (a, d) →
    ∃ used, c.rest = used ++ d.rest ∧
      ∀ (rest : List Char) (offset : Nat), follows rest →
        ∃ final, read ⟨used ++ rest, offset⟩ = .ok (a, ⟨rest, final⟩)

/-- Anything may follow. -/
def Anything (_ : List Char) : Prop := True

section Combination

variable {α β : Type} {follows : List Char → Prop}

theorem local_ok (a : α) : Local follows fun c ↦ .ok (a, c) := by
  intro c d b h
  cases h
  exact ⟨[], rfl, fun rest offset _ ↦ ⟨offset, rfl⟩⟩

theorem local_error (fault : Cursor → Fault) :
    Local follows fun c ↦ (.error (fault c) : Reading α) := by
  intro c d a h
  cases h

/-- A choice that does not depend on the text is local if both readers are. -/
theorem Local.ite {p : Prop} [Decidable p] {first second : Cursor → Reading α}
    (hfirst : Local follows first) (hsecond : Local follows second) :
    Local follows fun c ↦ if p then first c else second c := by
  by_cases hp : p
  · simpa only [if_pos hp] using hfirst
  · simpa only [if_neg hp] using hsecond

/-- What the first reader has taken may be followed by anything, so also by what the second one
takes. -/
theorem Local.bind {first : Cursor → Reading α} {second : α → Cursor → Reading β}
    (hfirst : Local Anything first) (hsecond : ∀ a, Local follows (second a)) :
    Local follows fun c ↦ (first c).bind fun result ↦ second result.1 result.2 := by
  intro c d b h
  dsimp only at h
  cases hread : first c with
  | error fault =>
    rw [hread] at h
    cases h
  | ok result =>
    rw [hread] at h
    obtain ⟨used, hused, htakes⟩ := hfirst hread
    obtain ⟨more, hmore, hthen⟩ := hsecond result.1 h
    refine ⟨used ++ more, by rw [hused, hmore, List.append_assoc], fun rest offset hrest ↦ ?_⟩
    obtain ⟨middle, htake⟩ := htakes (more ++ rest) offset trivial
    obtain ⟨final, hfinal⟩ := hthen rest middle hrest
    refine ⟨final, ?_⟩
    dsimp only
    rw [List.append_assoc, htake]
    exact hfinal

end Combination

/-! ### Strings -/

theorem local_readUnit : Local Anything readUnit := by
  intro c d unit h
  unfold readUnit at h
  split at h
  · rename_i w x y z tail hrest
    split at h
    · rename_i value hunit
      cases h
      refine ⟨[w, x, y, z], by rw [hrest, Cursor.drop, hrest]; rfl, fun rest offset _ ↦ ?_⟩
      refine ⟨offset + 4, ?_⟩
      simp only [readUnit, List.cons_append, List.nil_append, hunit]
      rfl
    · cases h
  · cases h

/-- A character that has to stand there may be put before a reader. -/
theorem Local.expectInPair {α : Type} (expected : Char) {read : Cursor → Reading α}
    (hread : Local Anything read) :
    Local Anything fun c ↦ (Json.expectInPair expected c).bind read := by
  intro c d a h
  dsimp only at h
  unfold Json.expectInPair at h
  split at h
  · cases h
  · rename_i first tail hrest
    split at h
    · rename_i hfirst
      obtain ⟨used, hused, htakes⟩ := hread h
      refine ⟨expected :: used, ?_, fun rest offset hfollows ↦ ?_⟩
      · rw [Cursor.drop, hrest] at hused
        rw [hrest, hfirst, List.cons_append, ← hused]
        rfl
      · obtain ⟨final, htake⟩ := htakes rest (offset + 1) hfollows
        refine ⟨final, ?_⟩
        simp only [Json.expectInPair, List.cons_append, if_pos]
        exact htake
    · cases h

/-- The second half of a surrogate pair is read whatever follows. -/
theorem local_readLowSurrogate (high : Nat) : Local Anything (readLowSurrogate high) := by
  have hlow : ∀ low, Local Anything fun c ↦
      if isLowSurrogate low = true then
        .ok (Char.ofNat (0x10000 + (high - 0xD800) * 0x400 + (low - 0xDC00)), c)
      else .error (c.here .loneSurrogate) :=
    fun _ ↦ (local_ok _).ite (local_error _)
  exact ((local_readUnit.bind hlow).expectInPair 'u').expectInPair '\\'

/-- A character given by its code units is read whatever follows. -/
theorem local_readUnicode : Local Anything readUnicode := by
  have hunit : ∀ unit, Local Anything fun c ↦
      if isLowSurrogate unit = true then .error (c.here .loneSurrogate)
      else if isHighSurrogate unit = true then readLowSurrogate unit c
      else .ok (Char.ofNat unit, c) :=
    fun unit ↦ (local_error _).ite ((local_readLowSurrogate unit).ite (local_ok _))
  exact local_readUnit.bind hunit

/-- An escape is read whatever follows. -/
theorem local_readEscape : Local Anything readEscape := by
  intro c d char h
  unfold readEscape at h
  split at h
  · cases h
  · rename_i letter tail hrest
    have hdrop : (c.drop 1).rest = tail := by rw [Cursor.drop, hrest]; rfl
    split at h
    · rename_i result hletter
      cases h
      refine ⟨[letter], by rw [hrest, hdrop]; rfl, fun rest offset _ ↦ ⟨offset + 1, ?_⟩⟩
      simp only [readEscape, List.cons_append, List.nil_append, hletter]
      rfl
    · rename_i hletter
      split at h
      · rename_i hu
        obtain ⟨used, hused, htakes⟩ := local_readUnicode h
        refine ⟨letter :: used, by rw [hrest, ← hdrop, hused]; rfl, fun rest offset _ ↦ ?_⟩
        obtain ⟨final, htake⟩ := htakes rest (offset + 1) trivial
        refine ⟨final, ?_⟩
        simp only [readEscape, List.cons_append, hletter, if_pos hu]
        exact htake
      · cases h

/-- A string is read character by character, whatever follows. -/
theorem local_readStringTurn (first : Bool) (chars : List Char) :
    Local Anything (readStringTurn first chars) := by
  intro c d turn h
  unfold readStringTurn at h
  split at h
  · cases h
  · rename_i char tail hrest
    have hdrop : (c.drop 1).rest = tail := by rw [Cursor.drop, hrest]; rfl
    split at h
    · rename_i hquote
      cases h
      refine ⟨[char], by rw [hrest, hdrop]; rfl, fun rest offset _ ↦ ⟨offset + 1, ?_⟩⟩
      simp only [readStringTurn, List.cons_append, List.nil_append, if_pos hquote]
      rfl
    · rename_i hquote
      split at h
      · rename_i hbackslash
        split at h
        · cases h
        · rename_i result next hescape
          cases h
          obtain ⟨used, hused, htakes⟩ := local_readEscape hescape
          refine ⟨char :: used, by rw [hrest, ← hdrop, hused]; rfl, fun rest offset _ ↦ ?_⟩
          obtain ⟨final, htake⟩ := htakes rest (offset + 1) trivial
          refine ⟨final, ?_⟩
          simp only [readStringTurn, List.cons_append, if_neg hquote, if_pos hbackslash]
          have hread : readEscape (Cursor.drop 1 ⟨char :: (used ++ rest), offset⟩) =
              .ok (result, ⟨rest, final⟩) := htake
          rw [hread]
      · rename_i hbackslash
        split at h
        · cases h
        · rename_i hcontrol
          cases h
          refine ⟨[char], by rw [hrest]; rfl, fun rest offset _ ↦ ⟨offset + char.utf8Size, ?_⟩⟩
          simp only [readStringTurn, List.cons_append, List.nil_append, if_neg hquote,
            if_neg hbackslash, if_neg hcontrol]

/-- Turn by turn the loop takes what it has taken, and needs no more turns than characters, because
a turn takes one at least. -/
theorem exists_used_of_readMany {σ : Type} {turn : Bool → σ → Cursor → Reading (Turn σ)}
    (hturn : ∀ first state, Local Anything (turn first state))
    (hmoves : ∀ {first state next c d}, turn first state c = .ok (.more next, d) →
      d.rest.length < c.rest.length)
    {bound : Nat} {first : Bool} {state result : σ} {c d : Cursor}
    (h : readMany turn bound first state c = .ok (result, d)) :
    ∃ used, c.rest = used ++ d.rest ∧
      ∀ (rest : List Char) (offset : Nat) {bound : Nat}, used.length < bound →
        ∃ final, readMany turn bound first state ⟨used ++ rest, offset⟩ =
          .ok (result, ⟨rest, final⟩) := by
  induction bound generalizing first state c with
  | zero => cases h
  | succ bound ih =>
    rw [readMany] at h
    split at h
    · cases h
    · rename_i last next hread
      cases h
      obtain ⟨used, hused, htakes⟩ := hturn first state hread
      refine ⟨used, hused, fun rest offset limit hlimit ↦ ?_⟩
      obtain ⟨limit, rfl⟩ := Nat.exists_eq_add_one_of_ne_zero (Nat.ne_zero_of_lt hlimit)
      obtain ⟨final, htake⟩ := htakes rest offset trivial
      exact ⟨final, by rw [readMany, htake]⟩
    · rename_i last next hread
      obtain ⟨used, hused, htakes⟩ := hturn first state hread
      obtain ⟨more, hmore, hthen⟩ := ih h
      have hlength := hmoves hread
      refine ⟨used ++ more, by rw [hused, hmore, List.append_assoc], ?_⟩
      intro rest offset limit hlimit
      obtain ⟨limit, rfl⟩ := Nat.exists_eq_add_one_of_ne_zero (Nat.ne_zero_of_lt hlimit)
      obtain ⟨middle, htake⟩ := htakes (more ++ rest) offset trivial
      have hless : more.length < limit := by
        rw [hused, List.length_append] at hlength
        rw [List.length_append] at hlimit
        omega
      obtain ⟨final, hfinal⟩ := hthen rest middle hless
      exact ⟨final, by rw [List.append_assoc, readMany, htake]; exact hfinal⟩

/-- Every character of a string takes something off the text. -/
theorem length_lt_of_readStringTurn {first : Bool} {chars next : List Char} {c d : Cursor}
    (h : readStringTurn first chars c = .ok (.more next, d)) : d.rest.length < c.rest.length := by
  unfold readStringTurn at h
  split at h
  · cases h
  · rename_i char tail hrest
    have hdrop : (c.drop 1).rest = tail := by rw [Cursor.drop, hrest]; rfl
    split at h
    · cases h
    · split at h
      · split at h
        · cases h
        · rename_i result after hescape
          cases h
          obtain ⟨used, hused, -⟩ := local_readEscape hescape
          rw [hdrop] at hused
          rw [hrest, hused, List.length_cons, List.length_append]
          omega
      · split at h
        · cases h
        · cases h
          rw [hrest]
          exact Nat.lt_succ_self tail.length

/-- A string ends at its closing quote, whatever follows. -/
theorem local_readString : Local Anything readString := by
  intro c d s h
  unfold readString readAll at h
  split at h
  · cases h
  · rename_i chars next hread
    cases h
    obtain ⟨used, hused, htakes⟩ :=
      exists_used_of_readMany local_readStringTurn length_lt_of_readStringTurn hread
    refine ⟨used, hused, fun rest offset _ ↦ ?_⟩
    have hbound : used.length < (used ++ rest).length + 1 := by
      rw [List.length_append]
      omega
    obtain ⟨final, htake⟩ := htakes rest offset hbound
    exact ⟨final, by rw [readString, readAll, htake]⟩

/-! ### Numerals -/

theorem local_scaled (negative : Bool) (word : Nat) (power : Int) :
    Local Ends (scaled negative word power) := by
  cases hnumber : Decimal.Binary64.ofDecimal negative word power with
  | none =>
    have hscaled : scaled negative word power = fun c ↦ .error (c.here .numberOutOfRange) := by
      funext c
      rw [scaled, hnumber]
    rw [hscaled]
    exact local_error _
  | some x =>
    have hscaled : scaled negative word power = fun c ↦ .ok (.float x, c) := by
      funext c
      rw [scaled, hnumber]
    rw [hscaled]
    exact local_ok _

theorem local_wholeNumber (negative : Bool) (word : Nat) :
    Local Ends (wholeNumber negative word) :=
  (local_ok _).ite ((local_scaled negative word 0).ite (local_ok _))

theorem drop_length_digits (c : Cursor) :
    (c.drop c.digits.length).rest = c.rest.dropWhile Char.isDigit := by
  have hsplit : c.rest.drop c.digits.length =
      (c.digits ++ c.rest.dropWhile Char.isDigit).drop c.digits.length := by
    rw [Cursor.digits, List.takeWhile_append_dropWhile]
  rw [Cursor.drop, hsplit, List.drop_left]

/-- Behind the digits at the front stands no digit. So if they stand before the same characters
again, and then before something that does not carry them on, they are all digits at the front. -/
theorem digits_append_append {c : Cursor} {used rest other : List Char}
    (h : (c.drop c.digits.length).rest = used ++ rest) (hother : Ends other) (offset : Nat) :
    Cursor.digits ⟨c.digits ++ used ++ other, offset⟩ = c.digits := by
  have hall : ∀ x ∈ c.digits, Char.isDigit x = true :=
    List.all_eq_true.mp List.all_takeWhile
  have hnone : (used ++ other).takeWhile Char.isDigit = [] := by
    cases used with
    | nil => exact @takeWhile_isDigit_append [] other (by simp) hother
    | cons x used =>
      have hx := List.head?_dropWhile_not Char.isDigit c.rest
      rw [← drop_length_digits, h] at hx
      rw [List.cons_append, List.takeWhile_cons_of_neg]
      simpa using hx
  show ((c.digits ++ used) ++ other).takeWhile Char.isDigit = c.digits
  rw [List.append_assoc, List.takeWhile_append_of_pos hall, hnone, List.append_nil]

/-- The digits at the front and what is taken behind them were there before. -/
theorem rest_eq_digits_append {c : Cursor} {used rest : List Char}
    (h : (c.drop c.digits.length).rest = used ++ rest) : c.rest = (c.digits ++ used) ++ rest := by
  rw [List.append_assoc, ← h, drop_length_digits, Cursor.digits, List.takeWhile_append_dropWhile]

/-- A reader that goes on behind the digits at the front. -/
theorem Local.afterDigits {α : Type} {read : List Char → Cursor → Reading α}
    (hread : ∀ digits, Local Ends (read digits)) :
    Local Ends fun c ↦ read c.digits (c.drop c.digits.length) := by
  intro c d a h
  obtain ⟨used, hused, htakes⟩ := hread c.digits h
  refine ⟨c.digits ++ used, rest_eq_digits_append hused, fun rest offset hrest ↦ ?_⟩
  obtain ⟨final, htake⟩ := htakes rest (offset + c.digits.length) hrest
  refine ⟨final, ?_⟩
  dsimp only
  rw [digits_append_append hused hrest, Cursor.drop, List.append_assoc, List.drop_left]
  exact htake

/-- A reader that goes one of two ways according to the next character. It takes the first way only
at a character that does not stand behind a numeral. -/
theorem Local.onHead {α : Type} {p : Char → Bool} {first second : Cursor → Reading α}
    (hp : ∀ rest, Ends rest → rest.head?.any p = false) (hfirst : Local Ends first)
    (hsecond : Local Ends second) :
    Local Ends fun c ↦ if c.rest.head?.any p then first (c.drop 1) else second c := by
  intro c d a h
  dsimp only at h
  split at h
  · rename_i hhead
    rcases hrest : c.rest with _ | ⟨x, tail⟩
    · rw [hrest] at hhead
      cases hhead
    · rw [hrest, List.head?_cons] at hhead
      obtain ⟨used, hused, htakes⟩ := hfirst h
      have hdrop : (c.drop 1).rest = tail := by rw [Cursor.drop, hrest]; rfl
      refine ⟨x :: used, by rw [← hdrop, hused]; rfl, fun rest offset hrest ↦ ?_⟩
      obtain ⟨final, htake⟩ := htakes rest (offset + 1) hrest
      refine ⟨final, ?_⟩
      dsimp only
      rw [List.cons_append, List.head?_cons, if_pos hhead]
      exact htake
  · rename_i hhead
    obtain ⟨used, hused, htakes⟩ := hsecond h
    refine ⟨used, hused, fun rest offset hrest ↦ ?_⟩
    obtain ⟨final, htake⟩ := htakes rest offset hrest
    refine ⟨final, ?_⟩
    have hother : (used ++ rest).head?.any p = false := by
      cases used with
      | nil => exact hp rest hrest
      | cons x used =>
        rw [hused] at hhead
        simpa using hhead
    simpa only [hother, Bool.false_eq_true, if_false] using htake

/-- Whether a reader is local depends only on what it reads, not on its faults. -/
theorem Local.of_iff {α : Type} {follows : List Char → Prop} {read other : Cursor → Reading α}
    (h : ∀ c result, read c = .ok result ↔ other c = .ok result) (hother : Local follows other) :
    Local follows read := by
  intro c d a hread
  obtain ⟨used, hused, htakes⟩ := hother ((h c _).mp hread)
  refine ⟨used, hused, fun rest offset hrest ↦ ?_⟩
  obtain ⟨final, htake⟩ := htakes rest offset hrest
  exact ⟨final, (h _ _).mpr htake⟩

theorem digits_eq_nil_iff {c : Cursor} : c.digits = [] ↔ ∀ x ∈ c.rest.head?, x.isDigit = false := by
  rcases hrest : c.rest with _ | ⟨x, tail⟩
  · simp [Cursor.digits, hrest]
  · cases hx : x.isDigit <;> simp [Cursor.digits, hrest, hx]

/-- The digits of an exponent are read up to the end of the numeral. -/
theorem local_readExponentDigits (negative : Bool) (word : Nat) (power : Int)
    (descending : Bool) : Local Ends (readExponentDigits negative word power descending) := by
  have hbehind : ∀ digits : List Char, Local Ends fun c ↦
      if digits = [] then .error (c.here .invalidNumber)
      else if (gather exponentLimit 0 digits).2.isEmpty then
        scaled negative word (if descending then power - (gather exponentLimit 0 digits).1
          else power + (gather exponentLimit 0 digits).1) c
      else if word ≠ 0 ∧ !descending then .error (c.here .numberOutOfRange)
      else .ok (.float (.zero negative), c) :=
    fun digits ↦ (local_error _).ite
      ((local_scaled negative word _).ite ((local_error _).ite (local_ok _)))
  refine (Local.afterDigits hbehind).of_iff fun c result ↦ ?_
  unfold readExponentDigits
  rcases hrest : c.rest with _ | ⟨x, tail⟩
  · simp [Cursor.digits, hrest]
  · by_cases hx : x.isDigit = true
    · have hne : c.digits ≠ [] := by simp [digits_eq_nil_iff, hrest, hx]
      simp only [hx, if_true, if_neg hne]
      by_cases hleft : (gather exponentLimit 0 c.digits).2.isEmpty = true
      · rw [if_pos hleft, if_pos hleft]
      · rw [if_neg hleft, if_neg hleft]
        by_cases hout : word ≠ 0 ∧ !descending
        · rw [if_pos hout, if_pos hout]
          simp only [reduceCtorEq]
        · rw [if_neg hout, if_neg hout]
    · have hnil : c.digits = [] := by simp [digits_eq_nil_iff, hrest, hx]
      simp [hx, hnil]

/-- An exponent has a digit. -/
theorem exists_digit_of_readExponentDigits {negative descending : Bool} {word : Nat} {power : Int}
    {c : Cursor} {result : Number × Cursor}
    (h : readExponentDigits negative word power descending c = .ok result) :
    ∃ x tail, c.rest = x :: tail ∧ x.isDigit = true := by
  unfold readExponentDigits at h
  split at h
  · cases h
  · rename_i x tail hrest
    split at h
    · rename_i hx
      exact ⟨x, tail, hrest, hx⟩
    · cases h

/-- An exponent without a sign is its digits. -/
theorem readExponent_digit (negative : Bool) (word : Nat) (power : Int) {c : Cursor} {x : Char}
    {tail : List Char} (hrest : c.rest = x :: tail) (hx : x.isDigit = true) :
    readExponent negative word power c = readExponentDigits negative word power false c := by
  unfold readExponent
  split
  · rename_i hplus
    rw [hrest] at hplus
    cases hplus
    cases hx
  · rename_i hminus
    rw [hrest] at hminus
    cases hminus
    cases hx
  · rfl

/-- An exponent is read up to the end of the numeral. If it starts with a digit there it has no sign
in any other text. -/
theorem local_readExponent (negative : Bool) (word : Nat) (power : Int) :
    Local Ends (readExponent negative word power) := by
  intro c d n h
  unfold readExponent at h
  split at h
  · rename_i tail hrest
    obtain ⟨used, hused, htakes⟩ := local_readExponentDigits _ _ _ _ h
    have hdrop : (c.drop 1).rest = tail := by rw [Cursor.drop, hrest]; rfl
    refine ⟨'+' :: used, by rw [hrest, ← hdrop, hused]; rfl, fun rest offset hends ↦ ?_⟩
    exact htakes rest (offset + 1) hends
  · rename_i tail hrest
    obtain ⟨used, hused, htakes⟩ := local_readExponentDigits _ _ _ _ h
    have hdrop : (c.drop 1).rest = tail := by rw [Cursor.drop, hrest]; rfl
    refine ⟨'-' :: used, by rw [hrest, ← hdrop, hused]; rfl, fun rest offset hends ↦ ?_⟩
    exact htakes rest (offset + 1) hends
  · obtain ⟨used, hused, htakes⟩ := local_readExponentDigits _ _ _ _ h
    refine ⟨used, hused, fun rest offset hends ↦ ?_⟩
    obtain ⟨final, htake⟩ := htakes rest offset hends
    obtain ⟨x, tail, hrest, hx⟩ := exists_digit_of_readExponentDigits htake
    exact ⟨final, by rw [readExponent_digit negative word power hrest hx, htake]⟩

/-- Whether a character is the letter of an exponent. -/
def startsExponent (x : Char) : Bool :=
  x = 'e' || x = 'E'

theorem atExponent_eq (c : Cursor) : c.atExponent = c.rest.head?.any startsExponent := by
  unfold Cursor.atExponent
  split
  · rename_i hrest
    rw [hrest]
    rfl
  · rename_i hrest
    rw [hrest]
    rfl
  · rename_i hlower hupper
    rcases hrest : c.rest with _ | ⟨x, tail⟩
    · rfl
    · have hlow : x ≠ 'e' := fun hx ↦ hlower tail (by rw [hrest, hx])
      have hup : x ≠ 'E' := fun hx ↦ hupper tail (by rw [hrest, hx])
      simp [startsExponent, hlow, hup]

theorem any_startsExponent_of_ends {rest : List Char} (h : Ends rest) :
    rest.head?.any startsExponent = false := by
  cases rest with
  | nil => rfl
  | cons x tail =>
    obtain ⟨-, -, hlower, hupper⟩ := h x rfl
    simp [startsExponent, hlower, hupper]

theorem any_point_of_ends {rest : List Char} (h : Ends rest) :
    rest.head?.any (· = '.') = false := by
  cases rest with
  | nil => rfl
  | cons x tail => simpa using (h x rfl).2.1

/-- A fraction is read up to the end of the numeral. -/
theorem local_readFraction (negative : Bool) (word : Nat) (power : Int) :
    Local Ends (readFraction negative word power) := by
  have hbehind : ∀ digits : List Char, Local Ends fun c ↦
      if digits.isEmpty then .error (c.here .invalidNumber)
      else if c.rest.head?.any startsExponent then
        readExponent negative (gather wordLimit word digits).1
          (power - (digits.length - (gather wordLimit word digits).2.length : Nat)) (c.drop 1)
      else scaled negative (gather wordLimit word digits).1
        (power - (digits.length - (gather wordLimit word digits).2.length : Nat)) c :=
    fun digits ↦ (local_error _).ite
      (.onHead (fun _ ↦ any_startsExponent_of_ends) (local_readExponent _ _ _) (local_scaled _ _ _))
  refine (Local.afterDigits hbehind).of_iff fun c result ↦ ?_
  unfold readFraction
  by_cases hnil : c.digits.isEmpty = true
  · simp only [hnil, if_true]
    simp only [reduceCtorEq]
  · simp only [hnil, Bool.false_eq_true, if_false, atExponent_eq]

/-- What comes behind the integer part is read up to the end of the numeral. -/
theorem local_readAfterInteger (negative : Bool) (word dropped : Nat) :
    Local Ends (readAfterInteger negative word dropped) := by
  have hways : Local Ends fun c ↦
      if c.rest.head?.any startsExponent then readExponent negative word dropped (c.drop 1)
      else if c.rest.head?.any (· = '.') then readFraction negative word dropped (c.drop 1)
      else if dropped = 0 then wholeNumber negative word c else scaled negative word dropped c :=
    .onHead (fun _ ↦ any_startsExponent_of_ends) (local_readExponent _ _ _)
      (.onHead (fun _ ↦ any_point_of_ends) (local_readFraction _ _ _)
        ((local_wholeNumber _ _).ite (local_scaled _ _ _)))
  refine hways.of_iff fun c result ↦ ?_
  unfold readAfterInteger
  rw [atExponent_eq]
  split
  · rfl
  · split
    · rename_i hrest
      simp [hrest]
    · rename_i hpoint
      rcases hrest : c.rest with _ | ⟨x, tail⟩
      · simp
      · have hx : x ≠ '.' := fun hx ↦ hpoint tail (by rw [hrest, hx])
        simp [hx]

/-- A numeral is read up to its end. -/
theorem local_readNumeral (negative : Bool) : Local Ends (readNumeral negative) := by
  have hbehind : ∀ digits : List Char, Local Ends fun c ↦
      if digits.head? = some '0' then
        if digits.length = 1 then readAfterInteger negative 0 0 c
        else .error (c.here .invalidNumber)
      else if digits = [] then .error (c.here .invalidNumber)
      else readAfterInteger negative (gather wordLimit 0 digits).1
        (gather wordLimit 0 digits).2.length c :=
    fun digits ↦ ((local_readAfterInteger _ _ _).ite (local_error _)).ite
      ((local_error _).ite (local_readAfterInteger _ _ _))
  refine (Local.afterDigits hbehind).of_iff fun c result ↦ ?_
  unfold readNumeral
  rcases hrest : c.rest with _ | ⟨x, tail⟩
  · simp [Cursor.digits, hrest]
  · by_cases hx : x.isDigit = true
    · have hcons : c.digits = x :: tail.takeWhile Char.isDigit := by
        rw [Cursor.digits, hrest, List.takeWhile_cons_of_pos hx]
      have hhead : c.digits.head? = some x := by rw [hcons, List.head?_cons]
      have hne : c.digits ≠ [] := by rw [hcons]; exact List.cons_ne_nil _ _
      simp only [hhead, Option.some.injEq, if_neg hne, if_pos hx]
      by_cases hzero : x = '0'
      · rw [if_pos hzero, if_pos hzero]
        by_cases hone : c.digits.length = 1
        · rw [if_pos hone, if_pos hone, hone]
        · rw [if_neg hone, if_neg hone]
          simp only [reduceCtorEq]
      · rw [if_neg hzero, if_neg hzero]
    · have hnil : c.digits = [] := by simp [digits_eq_nil_iff, hrest, hx]
      have hzero : x ≠ '0' := by
        rintro rfl
        exact hx rfl
      simp [hx, hnil, hzero]

/-- A numeral starts with a digit. -/
theorem exists_digit_of_readNumeral {negative : Bool} {c : Cursor} {result : Number × Cursor}
    (h : readNumeral negative c = .ok result) :
    ∃ x tail, c.rest = x :: tail ∧ x.isDigit = true := by
  unfold readNumeral at h
  split at h
  · cases h
  · rename_i x tail hrest
    by_cases hx : x.isDigit = true
    · exact ⟨x, tail, hrest, hx⟩
    · have hzero : x ≠ '0' := by
        rintro rfl
        exact hx rfl
      simp only [if_neg hzero, if_neg hx] at h
      cases h

/-! ### Leaves -/

/-- A word that was read was there. -/
theorem rest_eq_of_readWord {word : List Char} {c d : Cursor} (h : readWord word c = .ok d) :
    c.rest = word ++ d.rest := by
  induction word generalizing c with
  | nil =>
    cases h
    rfl
  | cons letter word ih =>
    rw [readWord] at h
    split at h
    · cases h
    · rename_i x tail hrest
      split at h
      · rename_i hx
        have htail := ih h
        rw [Cursor.drop, hrest] at htail
        rw [hrest, hx, List.cons_append, ← htail]
        rfl
      · cases h

/-- A word that was read is the same word before any other text. -/
theorem exists_takes_of_readWord {first : Char} {word tail : List Char} {offset : Nat}
    {leaf value : Value} {d : Cursor}
    (h : (readWord word ⟨tail, offset⟩).map (fun c ↦ (leaf, c)) = .ok (value, d))
    (htakes : ∀ depth, Takes (readValue depth) (first :: word) leaf) :
    ∃ used, first :: tail = used ++ d.rest ∧ ∀ depth, Takes (readValue depth) used value := by
  obtain ⟨next, hread, hresult⟩ := eq_ok_of_map_eq_ok h
  cases hresult
  refine ⟨first :: word, ?_, htakes⟩
  rw [List.cons_append, ← rest_eq_of_readWord hread]

/-- Where no value starts none is read. -/
theorem readValue_other (depth : Nat) {x : Char} (hgap : Cursor.isGap x = false)
    (hdigit : x.isDigit = false) (hx : x ∉ ['n', 't', 'f', '-', '"', '[', '{']) (tail : List Char)
    (offset : Nat) : ∃ fault, readValue depth ⟨x :: tail, offset⟩ = .error fault := by
  simp only [List.mem_cons, List.not_mem_nil, or_false, not_or] at hx
  obtain ⟨hn, ht, hf, hminus, hquote, hbracket, hbrace⟩ := hx
  rw [readValue_leaf depth hgap hbracket hbrace, readLeaf, if_neg hn, if_neg ht, if_neg hf,
    if_neg hminus, if_neg (by rw [hdigit]; decide), if_neg hquote]
  exact ⟨_, rfl⟩

/-- What was read as a value that is neither an array nor an object is read as that value
everywhere, at every depth. -/
theorem exists_takes_of_readValue {inner offset : Nat} {x : Char} {tail : List Char} {value : Value}
    {d : Cursor} (hgap : Cursor.isGap x = false) (hbracket : x ≠ '[') (hbrace : x ≠ '{')
    (h : readValue inner ⟨x :: tail, offset⟩ = .ok (value, d)) :
    ∃ used, x :: tail = used ++ d.rest ∧ ∀ depth, Takes (readValue depth) used value := by
  by_cases hdigit : x.isDigit = true
  · rw [readValue_digit inner hdigit] at h
    obtain ⟨⟨n, next⟩, hread, hresult⟩ := eq_ok_of_map_eq_ok h
    cases hresult
    obtain ⟨used, hused, htakes⟩ := local_readNumeral false hread
    refine ⟨used, hused, fun depth rest offset hrest ↦ ?_⟩
    obtain ⟨final, htake⟩ := htakes rest offset hrest
    obtain ⟨y, others, hcons, hy⟩ := exists_digit_of_readNumeral htake
    dsimp only at hcons
    refine ⟨final, ?_⟩
    rw [hcons] at htake ⊢
    rw [readValue_digit depth hy, htake]
    rfl
  · by_cases hx : x ∈ ['n', 't', 'f', '-', '"', '[', '{']
    · simp only [List.mem_cons, List.not_mem_nil, or_false, hbracket, hbrace] at hx
      rcases hx with rfl | rfl | rfl | rfl | rfl
      · rw [readValue_null] at h
        exact exists_takes_of_readWord h takes_readValue_null
      · rw [readValue_true] at h
        exact exists_takes_of_readWord h fun depth ↦ takes_readValue_bool depth true
      · rw [readValue_false] at h
        exact exists_takes_of_readWord h fun depth ↦ takes_readValue_bool depth false
      · rw [readValue_minus] at h
        obtain ⟨⟨n, next⟩, hread, hresult⟩ := eq_ok_of_map_eq_ok h
        cases hresult
        obtain ⟨used, hused, htakes⟩ := local_readNumeral true hread
        refine ⟨'-' :: used, congrArg ('-' :: ·) hused, fun depth rest offset hrest ↦ ?_⟩
        obtain ⟨final, htake⟩ := htakes rest (offset + 1) hrest
        exact ⟨final, by rw [List.cons_append, readValue_minus, htake]; rfl⟩
      · rw [readValue_quote] at h
        obtain ⟨⟨s, next⟩, hread, hresult⟩ := eq_ok_of_map_eq_ok h
        cases hresult
        obtain ⟨used, hused, htakes⟩ := local_readString hread
        refine ⟨'"' :: used, congrArg ('"' :: ·) hused, fun depth rest offset _ ↦ ?_⟩
        obtain ⟨final, htake⟩ := htakes rest (offset + 1) trivial
        exact ⟨final, by rw [List.cons_append, readValue_quote, htake]; rfl⟩
    · obtain ⟨fault, hfault⟩ := readValue_other inner hgap (by simpa using hdigit) hx tail offset
      rw [hfault] at h
      cases h

end StepSequencer.Json
