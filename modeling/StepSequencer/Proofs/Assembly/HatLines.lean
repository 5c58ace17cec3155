import StepSequencer.Assembly.HatBits
import StepSequencer.Proofs.Assembly.Validity
import StepSequencer.Proofs.Text.Lines

/-!
# Hat patterns are read from their lines

The text of a hat pattern has a line for every eight entries, the last one possibly shorter
(`HatRows`). `readHats?` reads the digits of all lines, and gets the entries back with a one in
place of every entry that is not zero (`readHats?_hatText`). So the text says which entries are
zero, and nothing else (`hatText_eq_iff`); the entries of a song without errors are zeros and ones,
and all of them can be read from the text.

Pieces of eight entries are cut off one after the other, so a pattern whose length is a multiple
of eight does not mix with what follows it (`cut_append`).
-/

set_option autoImplicit false
set_option relaxedAutoImplicit false

namespace StepSequencer

/-! ### Pieces of a list -/

/-- The number of pieces is the length over the size of a piece, rounded up. -/
theorem length_cut {α : Type} (size : Nat) (list : List α) :
    (cut size list).length = (list.length + size - 1) / size := by
  rw [cut, List.length_map, List.length_range]

/-- The piece at a position is what follows the pieces before it. -/
theorem eq_of_getElem?_cut {α : Type} {size : Nat} {list piece : List α} {n : Nat}
    (h : (cut size list)[n]? = some piece) : piece = (list.drop (size * n)).take size := by
  rw [cut, List.getElem?_map] at h
  obtain ⟨m, hm, rfl⟩ := Option.map_eq_some_iff.mp h
  obtain ⟨-, rfl⟩ := List.getElem?_eq_some_iff.mp hm
  rw [List.getElem_range]

theorem cut_map {α β : Type} (f : α → β) (size : Nat) (list : List α) :
    cut size (list.map f) = (cut size list).map (List.map f) := by
  simp [cut]

/-- A list whose length is a multiple of the size is cut apart from what follows it. -/
theorem cut_append {α : Type} {size : Nat} (hpos : 0 < size) {first : List α}
    (h : size ∣ first.length) (second : List α) :
    cut size (first ++ second) = cut size first ++ cut size second := by
  obtain ⟨count, hcount⟩ := h
  have hfirst : (first.length + size - 1) / size = count := by
    rw [hcount, Nat.add_sub_assoc hpos, Nat.mul_add_div hpos, Nat.div_eq_of_lt (by omega),
      Nat.add_zero]
  have hboth : ((first ++ second).length + size - 1) / size =
      count + (second.length + size - 1) / size := by
    rw [List.length_append, hcount, Nat.add_assoc, Nat.add_sub_assoc (by omega),
      Nat.mul_add_div hpos]
  rw [cut, cut, cut, hboth, hfirst, List.range_add, List.map_append, List.map_map]
  congr 1
  · refine List.map_congr_left fun n hn ↦ ?_
    have hle : size * n + size ≤ first.length := by
      rw [hcount, ← Nat.mul_succ]
      exact Nat.mul_le_mul_left size (List.mem_range.mp hn)
    rw [List.drop_append_of_le_length (by omega), List.take_append_of_le_length]
    rw [List.length_drop]
    omega
  · refine List.map_congr_left fun n _ ↦ ?_
    rw [Function.comp_apply, Nat.mul_add, ← hcount, List.drop_length_add_append]

/-! ### Reading the lines -/

/-- An entry that is not zero counts as one. -/
def hatFlag (entry : UInt8) : UInt8 :=
  if entry = 0 then 0 else 1

/-- The start of a hat line. -/
def hatMark : List Char :=
  "    byte %".toList

/-- The entry that a digit stands for. -/
def readHatDigit? (digit : Char) : Option UInt8 :=
  if digit = '0' then some 0 else if digit = '1' then some 1 else none

/-- The entries on a line. -/
def readHatDigits? (line : String) : Option (List UInt8) :=
  if hatMark <+: line.toList then (line.toList.drop hatMark.length).mapM readHatDigit? else none

/-- The entries on all lines of a text. -/
def readHats? (text : String) : Option (List UInt8) :=
  ((Text.lines text).mapM readHatDigits?).map List.flatten

theorem mapM_map_eq_some {α β γ : Type} {f : α → β} {g : β → Option γ} {h : α → γ}
    (hg : ∀ a, g (f a) = some (h a)) (list : List α) : (list.map f).mapM g = some (list.map h) := by
  induction list with
  | nil => rfl
  | cons a rest ih => rw [List.map_cons, List.mapM_cons, hg, ih]; rfl

theorem readHatDigit?_hatDigit (entry : UInt8) :
    readHatDigit? (hatDigit entry) = some (hatFlag entry) := by
  by_cases h : entry = 0 <;> simp [readHatDigit?, hatDigit, hatFlag, h]

theorem toList_hatLine (entries : List UInt8) :
    (hatLine entries).toList = hatMark ++ entries.map hatDigit := by
  rw [hatLine, String.toList_append, String.toList_ofList]
  rfl

/-- A line is read back as the hits of its entries. -/
theorem readHatDigits?_hatLine (entries : List UInt8) :
    readHatDigits? (hatLine entries) = some (entries.map hatFlag) := by
  rw [readHatDigits?, toList_hatLine, if_pos (List.prefix_append _ _), List.drop_left,
    mapM_map_eq_some readHatDigit?_hatDigit]

theorem not_mem_hatLine (entries : List UInt8) : '\n' ∉ (hatLine entries).toList := by
  rw [toList_hatLine, List.mem_append, List.mem_map]
  rintro (hmark | ⟨entry, -, hdigit⟩)
  · exact absurd hmark (by decide)
  · by_cases h : entry = 0 <;> simp [hatDigit, h] at hdigit

/-- The lines of a hat pattern hold eight entries each, but for the last. -/
theorem lines_hatText (pattern : List UInt8) :
    Text.lines (hatText pattern) = (cut slotsPerGroup pattern).map hatLine := by
  refine Text.lines_intercalate fun line hline ↦ ?_
  obtain ⟨entries, -, rfl⟩ := List.mem_map.mp hline
  refine ⟨not_mem_hatLine entries, fun hempty ↦ ?_⟩
  have hnil := congrArg String.toList hempty
  rw [toList_hatLine] at hnil
  cases hnil

/-- The lines give the entries back, up to which number an entry is that is not zero. -/
theorem readHats?_hatText (pattern : List UInt8) :
    readHats? (hatText pattern) = some (pattern.map hatFlag) := by
  rw [readHats?, lines_hatText, mapM_map_eq_some readHatDigits?_hatLine, Option.map_some,
    ← List.map_flatten, flatten_cut (by decide)]

/-! ### What the text says -/

/-- Only whether an entry is a hit is written. -/
theorem hatText_map_hatFlag (pattern : List UInt8) :
    hatText (pattern.map hatFlag) = hatText pattern := by
  have hdigit : hatDigit ∘ hatFlag = hatDigit := by
    funext entry
    by_cases h : entry = 0 <;> simp [hatDigit, hatFlag, h]
  have hline : hatLine ∘ List.map hatFlag = hatLine := by
    funext entries
    rw [Function.comp_apply, hatLine, List.map_map, hdigit, hatLine]
  rw [hatText, cut_map, List.map_map, hline, hatText]

/-- Two entries are written alike if both are hits or both are none. -/
theorem hatFlag_eq_iff {first second : UInt8} :
    hatFlag first = hatFlag second ↔ (first = 0 ↔ second = 0) := by
  by_cases hfirst : first = 0 <;> by_cases hsecond : second = 0 <;>
    simp [hatFlag, hfirst, hsecond]

/-- Two patterns are the same up to the numbers of hits if they have the same zeros. -/
theorem map_hatFlag_eq_iff {first second : List UInt8} :
    first.map hatFlag = second.map hatFlag ↔
      first.length = second.length ∧ ∀ n : Nat, first[n]? = some 0 ↔ second[n]? = some 0 := by
  induction first generalizing second with
  | nil => cases second <;> simp
  | cons entry rest ih =>
    cases second with
    | nil => simp
    | cons other others =>
      rw [List.map_cons, List.map_cons, List.cons.injEq, ih, hatFlag_eq_iff]
      constructor
      · rintro ⟨hentry, hlength, hrest⟩
        refine ⟨by rw [List.length_cons, List.length_cons, hlength], fun n ↦ ?_⟩
        cases n with
        | zero => simpa using hentry
        | succ n => simpa using hrest n
      · rintro ⟨hlength, hall⟩
        refine ⟨by simpa using hall 0, by simpa using hlength, fun n ↦ ?_⟩
        simpa using hall (n + 1)

/-- The text of a pattern says which of its entries are zero. -/
theorem hatText_eq_iff (first second : List UInt8) :
    hatText first = hatText second ↔
      first.length = second.length ∧ ∀ n : Nat, first[n]? = some 0 ↔ second[n]? = some 0 := by
  rw [← map_hatFlag_eq_iff]
  constructor
  · intro htext
    have hread := congrArg readHats? htext
    rw [readHats?_hatText, readHats?_hatText] at hread
    exact Option.some.inj hread
  · intro hflags
    rw [← hatText_map_hatFlag first, hflags, hatText_map_hatFlag]

/-- Behind full lines a hat pattern is continued on a new line. -/
theorem hatText_append {first second : List UInt8} (hfirst : first ≠ []) (hsecond : second ≠ [])
    (hdvd : 8 ∣ first.length) :
    hatText (first ++ second) = hatText first ++ "\n" ++ hatText second := by
  have hne : ∀ {pattern : List UInt8}, pattern ≠ [] →
      (cut slotsPerGroup pattern).map hatLine ≠ [] := by
    intro pattern hpattern hnil
    rw [List.map_eq_nil_iff] at hnil
    have hpieces : (cut slotsPerGroup pattern).flatten = pattern := flatten_cut (by decide) pattern
    rw [hnil, List.flatten_nil] at hpieces
    exact hpattern hpieces.symm
  have hcut : cut slotsPerGroup (first ++ second) =
      cut slotsPerGroup first ++ cut slotsPerGroup second := cut_append (by decide) hdvd second
  rw [hatText, hcut, List.map_append,
    String.intercalate_append_of_ne_nil (hne hfirst) (hne hsecond), hatText, hatText]

/-- A line for every eight entries of a pattern, and newlines between the lines: there is none at
the end, which `Text.lines` would pass over. All lines have eight digits, but where the entries do
not fill the last one it has as many as remain. -/
structure HatRows (pattern : List UInt8) (text : String) : Prop where
  joined : "\n".intercalate (Text.lines text) = text
  count : (Text.lines text).length = (pattern.length + 7) / 8
  row : ∀ (n : Nat) (row : String), (Text.lines text)[n]? = some row →
    ∃ digits : List Char, row = "    byte %" ++ String.ofList digits ∧
      (∀ d ∈ digits, d = '0' ∨ d = '1') ∧
      digits.length =
        if n + 1 = (Text.lines text).length ∧ pattern.length % 8 ≠ 0 then pattern.length % 8 else 8

theorem hatRows_hatText (pattern : List UInt8) : HatRows pattern (hatText pattern) := by
  have hcount : (Text.lines (hatText pattern)).length = (pattern.length + 7) / 8 := by
    rw [lines_hatText, List.length_map, length_cut, slotsPerGroup]
    rfl
  refine ⟨by rw [lines_hatText, hatText], hcount, fun n row hrow ↦ ?_⟩
  have hn : n < (pattern.length + 7) / 8 := by
    rw [← hcount]
    exact (List.getElem?_eq_some_iff.mp hrow).1
  rw [hcount]
  rw [lines_hatText, List.getElem?_map] at hrow
  obtain ⟨piece, hpiece, rfl⟩ := Option.map_eq_some_iff.mp hrow
  have hlength : piece.length = min 8 (pattern.length - 8 * n) := by
    rw [eq_of_getElem?_cut hpiece, List.length_take, List.length_drop, slotsPerGroup]
  refine ⟨piece.map hatDigit, rfl, ?_, ?_⟩
  · intro digit hdigit
    obtain ⟨entry, -, rfl⟩ := List.mem_map.mp hdigit
    by_cases h : entry = 0 <;> simp [hatDigit, h]
  · rw [List.length_map, hlength]
    split <;> omega

/-! ### Songs without errors -/

/-- An entry that is zero or one is its own flag. -/
theorem hatFlag_of_not_lt {entry : UInt8} (h : ¬1 < entry) : hatFlag entry = entry := by
  by_cases hzero : entry = 0
  · rw [hatFlag, if_pos hzero, hzero]
  · rw [UInt8.lt_iff_toNat_lt, UInt8.toNat_one] at h
    rw [← UInt8.toNat_inj, UInt8.toNat_zero] at hzero
    rw [hatFlag, if_neg (by rwa [← UInt8.toNat_inj]), ← UInt8.toNat_inj, UInt8.toNat_one]
    omega

/-- The hats of a song without errors are 32 zeros and ones. -/
theorem Song.hats_of_passes {song : Song} (h : song.validate.passes = true) :
    song.hats.pattern.length = 32 ∧ song.hats.pattern.map hatFlag = song.hats.pattern := by
  have hfaults : song.hats.faults = [] := by
    rw [song.validate.passes_eq, List.isEmpty_iff, Song.errors_validate, Song.faults,
      List.append_eq_nil_iff] at h
    exact h.2
  simp only [Hats.faults, List.append_eq_nil_iff, faultIf_eq_nil_iff] at hfaults
  obtain ⟨⟨⟨hlength, hentries⟩, -⟩, -⟩ := hfaults
  have hflags : ∀ entry ∈ song.hats.pattern, hatFlag entry = entry := by
    intro entry hentry
    obtain ⟨position, hposition⟩ := forall_mem_of_flatMap_zipIdx_eq_nil hentries entry hentry
    rw [faultIf_eq_nil_iff, decide_eq_false_iff_not] at hposition
    exact hatFlag_of_not_lt hposition
  exact ⟨by simpa [hatPatternLength] using hlength,
    (List.map_congr_left hflags).trans (List.map_id' _)⟩

/-- The text of a hat pattern has a line for every eight entries, from which the entries are read
back with every hit as a one. It says which entries are zero and nothing else, and for a song
without errors it is four full lines that give all entries. Patterns of full lines can be written
one after the other. -/
theorem hatText_tells_hits (pattern : List UInt8) :
    HatRows pattern (hatText pattern) ∧
    readHats? (hatText pattern) = some (pattern.map hatFlag) ∧
    (∀ other, hatText pattern = hatText other ↔
      pattern.length = other.length ∧ ∀ n : Nat, pattern[n]? = some 0 ↔ other[n]? = some 0) ∧
    (∀ song : Song, song.hats.pattern = pattern → song.validate.passes = true →
      (Text.lines (hatText pattern)).length = 4 ∧
      (∀ row ∈ Text.lines (hatText pattern), ∃ digits : List Char,
        digits.length = 8 ∧ row = "    byte %" ++ String.ofList digits) ∧
      readHats? (hatText pattern) = some pattern) ∧
    ∀ other, pattern ≠ [] → other ≠ [] → 8 ∣ pattern.length →
      hatText (pattern ++ other) = hatText pattern ++ "\n" ++ hatText other := by
  have hrows := hatRows_hatText pattern
  have hread := readHats?_hatText pattern
  refine ⟨hrows, hread, hatText_eq_iff pattern, fun song hsong hpasses ↦ ?_,
    fun other hpattern hother hdvd ↦ hatText_append hpattern hother hdvd⟩
  obtain ⟨hlength, hflags⟩ := song.hats_of_passes hpasses
  rw [hsong] at hlength hflags
  refine ⟨by rw [hrows.count, hlength], fun row hrow ↦ ?_, by rw [hread, hflags]⟩
  obtain ⟨n, hn⟩ := List.getElem?_of_mem hrow
  obtain ⟨digits, htext, -, hdigits⟩ := hrows.row n row hn
  rw [hlength] at hdigits
  exact ⟨digits, by simpa using hdigits, htext⟩

/-- A song with a hit on every fourth entry of the hats. -/
def steadySong : Song :=
  { Song.new "a" 0 with
    hats := { pattern := [1, 0, 0, 0, 1, 0, 0, 0, 1, 0, 0, 0, 1, 0, 0, 0, 1, 0, 0, 0, 1, 0, 0, 0,
      1, 0, 0, 0, 1, 0, 0, 0] } }

/-- A song that passes has its hats read back, and an entry more stands on a line of its own. -/
theorem tells_hits_steadySong :
    steadySong.validate.passes = true ∧
    readHats? (hatText steadySong.hats.pattern) = some steadySong.hats.pattern ∧
    hatText (steadySong.hats.pattern ++ [3]) =
      hatText steadySong.hats.pattern ++ "\n" ++ hatText [3] := by
  have hpasses : steadySong.validate.passes = true := by decide +kernel
  obtain ⟨-, -, -, hsong, happend⟩ := hatText_tells_hits steadySong.hats.pattern
  exact ⟨hpasses, (hsong steadySong rfl hpasses).2.2,
    happend [3] (by decide) (by decide) (by decide)⟩

end StepSequencer
