import StepSequencer.Library
import StepSequencer.Proofs.Json.Leaves
import StepSequencer.Proofs.Text.Lines

/-!
# Identifiers are read back

An identifier is an instant in decimal digits, with a sign where it is negative, and a number in
hexadecimal digits, with nothing between them. The numbers that may end an identifier have five
digits each (`length_toDigits_of_isSuffix`), so the place to cut is known: `readSongId?` cuts there
and finds the instant and the number again (`readSongId?_songId`). Identifiers therefore differ
when they were made at different instants or from different numbers (`songId_eq_iff`).
-/

set_option autoImplicit false
set_option relaxedAutoImplicit false

namespace StepSequencer

/-- A number that may end an identifier. -/
def IsSuffix (n : Nat) : Prop :=
  firstSuffix ≤ n ∧ n ≤ lastSuffix

/-- The number of digits at the end of an identifier. -/
def suffixLength : Nat := 5

/-- The number of a decimal numeral, which may have a minus sign. -/
def integer? : List Char → Option Int
  | '-' :: digits => (Text.numeral? digits).map fun n ↦ -(n : Int)
  | digits => (Text.numeral? digits).map fun n ↦ (n : Int)

/-- The number of some hexadecimal digits. -/
def hexNumeral? (digits : List Char) : Option Nat :=
  digits.foldlM (fun n c ↦ (Json.hexValue? c).map fun value ↦ 16 * n + value) 0

/-- The instant and the number that an identifier was made of. -/
def readSongId? (id : String) : Option (Int × Nat) := do
  let cut := id.toList.length - suffixLength
  let now ← integer? (id.toList.take cut)
  let suffix ← hexNumeral? (id.toList.drop cut)
  return (now, suffix)

/-! ### Numerals -/

/-- An integer is read back from its numeral. -/
theorem integer?_decimal (n : Int) : integer? (Json.decimal n).toList = some n := by
  cases n with
  | ofNat k =>
    have htext : (Json.decimal (Int.ofNat k)).toList = Nat.toDigits 10 k :=
      Text.toList_decimal_natCast k
    rw [htext]
    unfold integer?
    split
    · rename_i digits heq
      have hmem : '-' ∈ Nat.toDigits 10 k := heq ▸ List.mem_cons_self
      exact absurd hmem (Text.not_mem_toDigits (by decide) k)
    · rw [Text.numeral?_toDigits]
      rfl
  | negSucc k =>
    have htext : (Json.decimal (Int.negSucc k)).toList = '-' :: Nat.toDigits 10 (k + 1) :=
      String.toList_ofList
    rw [htext, integer?, Text.numeral?_toDigits]
    rfl

/-- A number is read back from its hexadecimal digits. -/
theorem hexNumeral?_toDigits (n : Nat) : hexNumeral? (Nat.toDigits 16 n) = some n := by
  induction n using Nat.strongRecOn with
  | ind n ih =>
    by_cases hn : n < 16
    · rw [Nat.toDigits_of_lt_base hn]
      simp [hexNumeral?, Json.hexValue?_digitChar n hn]
    · have hfront : hexNumeral? (Nat.toDigits 16 (n / 16)) = some (n / 16) := ih _ (by omega)
      have hlast := Json.hexValue?_digitChar (n % 16) (by omega)
      unfold hexNumeral? at hfront ⊢
      rw [Nat.toDigits_of_base_le (by decide) (by omega), List.foldlM_append, hfront]
      simp only [Option.bind_eq_bind, Option.bind_some, List.foldlM_cons, List.foldlM_nil, hlast,
        Option.map_some, Option.pure_def, Option.some.injEq]
      omega

/-! ### Identifiers -/

/-- The numbers that may end an identifier have the same number of digits. -/
theorem length_toDigits_of_isSuffix {n : Nat} (h : IsSuffix n) :
    (Nat.toDigits 16 n).length = suffixLength := by
  obtain ⟨hfirst, hlast⟩ := h
  unfold firstSuffix at hfirst
  unfold lastSuffix at hlast
  have hmost : (Nat.toDigits 16 n).length ≤ 5 :=
    (Nat.length_toDigits_le_iff (by decide) (by decide)).mpr (by omega)
  have hleast : ¬(Nat.toDigits 16 n).length ≤ 4 := by
    rw [Nat.length_toDigits_le_iff (by decide) (by decide)]
    omega
  unfold suffixLength
  omega

theorem toList_songId (now : Int64) (suffix : Nat) :
    (songId now suffix).toList = (Json.decimal now.toInt).toList ++ Nat.toDigits 16 suffix := by
  rw [songId, String.toList_append, String.toList_ofList]

/-- An identifier is read as the instant and the number it was made of. -/
theorem readSongId?_songId (now : Int64) {suffix : Nat} (h : IsSuffix suffix) :
    readSongId? (songId now suffix) = some (now.toInt, suffix) := by
  have hcut : (songId now suffix).toList.length - suffixLength =
      (Json.decimal now.toInt).toList.length := by
    rw [toList_songId, List.length_append, length_toDigits_of_isSuffix h, Nat.add_sub_cancel]
  unfold readSongId?
  dsimp only
  rw [hcut, toList_songId, List.take_left, List.drop_left, integer?_decimal,
    hexNumeral?_toDigits]
  rfl

/-- Identifiers are the same only if they were made at the same instant from the same number. -/
theorem songId_eq_iff {now later : Int64} {first second : Nat} (hfirst : IsSuffix first)
    (hsecond : IsSuffix second) :
    songId now first = songId later second ↔ now = later ∧ first = second := by
  constructor
  · intro heq
    have hread := congrArg readSongId? heq
    rw [readSongId?_songId now hfirst, readSongId?_songId later hsecond, Option.some.injEq,
      Prod.mk.injEq, Int64.toInt_inj] at hread
    exact hread
  · rintro ⟨rfl, rfl⟩
    rfl

/-- With fewer digits at the end, identifiers of two instants can be the same. -/
example : songId 1 0x10 = songId 11 0x0 := by decide

end StepSequencer
