import StepSequencer.Template.Reader

/-!
# Templates made of pieces

`filled` is the text of pieces with some text in the place of each reference. With a tag for each
reference it is the text of a template, from which the template of the pieces is read back
(`parse?_filled_tag`). With the texts that the references lead to it is what rendering gives
(`render_ofPieces`). So a rendered text is the text of its template with all tags replaced, and
nothing in the texts that replace them is read as part of the template.
-/

set_option autoImplicit false
set_option relaxedAutoImplicit false

namespace StepSequencer.Template

open Json (Value)

/-! ### Rendering -/

/-- Parts are rendered wherever they stand: places are for messages only. -/
theorem renderParts_partsOf {data : Value} {fill : String → String} {pieces : List Piece}
    (h : ∀ path, .reference path ∈ pieces → referenceText data path = .ok (fill path))
    (spot : Spot) : renderParts data (partsOf spot pieces) = .ok (filled fill pieces) := by
  induction pieces generalizing spot with
  | nil => rfl
  | cons piece rest ih =>
    have hrest := ih fun path hpath ↦ h path (List.mem_cons_of_mem _ hpath)
    cases piece with
    | text text => rw [partsOf, renderParts, hrest, filled]
    | reference path =>
      rw [partsOf, renderParts, h path List.mem_cons_self, hrest, filled]

/-- Where every reference leads to a text, rendering puts these texts into their places. -/
theorem render_ofPieces {data : Value} {fill : String → String} {pieces : List Piece}
    (h : ∀ path, .reference path ∈ pieces → referenceText data path = .ok (fill path)) :
    (ofPieces pieces).render data = .ok (filled fill pieces) :=
  renderParts_partsOf h .start

/-! ### Pieces that can be read back -/

/-- A character that stands for itself in the text of a template, whatever surrounds it. -/
def isPlain (c : Char) : Bool :=
  c ≠ '\x7b' && c ≠ '\\'

/-- A character of a path. -/
def isPathChar (c : Char) : Bool :=
  isNameChar c || c = '.'

/-- A path that can stand in a tag. -/
def isPath (path : String) : Bool :=
  path.toList.all isPathChar && !(Text.split '.' path.toList).any List.isEmpty && !isBranch path

/-- Whether the first piece is text. -/
def startsWithText : List Piece → Bool
  | .text _ :: _ => true
  | _ => false

/-- Whether pieces can be read back: no text is empty or next to another one, all its characters
are plain, and every path can stand in a tag. -/
def isLegible : List Piece → Bool
  | [] => true
  | .text text :: rest =>
    !text.isEmpty && text.toList.all isPlain && !startsWithText rest && isLegible rest
  | .reference path :: rest => isPath path && isLegible rest

/-! ### Reading text -/

theorem opens_cons_of_ne {c : Char} (h : c ≠ '\x7b') (rest : List Char) :
    opens (c :: rest) = false := by
  unfold opens
  split
  · rename_i heq
    cases heq
    exact absurd rfl h
  · rfl

/-- A plain character stands for itself. -/
theorem token_of_isPlain {c : Char} (h : isPlain c = true) (rest : List Char) :
    token c rest = .plain [c] 1 := by
  obtain ⟨hbrace, hslash⟩ : c ≠ '\x7b' ∧ c ≠ '\\' := by simpa [isPlain] using h
  unfold token
  simp [opens_cons_of_ne hbrace, hslash]

/-- Plain text is passed over and kept for the part that it will be. -/
theorem readParts?_append_of_isPlain {text : List Char} (h : ∀ c ∈ text, isPlain c = true)
    (bound : Nat) (spot : Spot) (blank : Bool) (before rest : List Char) :
    readParts? (text.length + bound) spot blank before (text ++ rest) =
      readParts? bound (spot.past text) (text.foldl blankAfter blank) (text.reverse ++ before)
        rest := by
  induction text generalizing spot blank before with
  | nil =>
    rw [List.length_nil, Nat.zero_add]
    rfl
  | cons c others ih =>
    have hothers := ih fun other hother ↦ h other (List.mem_cons_of_mem _ hother)
    rw [List.length_cons, Nat.add_right_comm, List.cons_append, readParts?,
      token_of_isPlain (h c List.mem_cons_self)]
    dsimp only
    rw [List.take_succ_cons, List.take_zero, List.drop_succ_cons, List.drop_zero, hothers]
    simp [Spot.past]

/-! ### Reading tags -/

/-- A text without a newline moves the column only. -/
theorem Spot.past_of_not_mem {text : List Char} (h : '\n' ∉ text) (spot : Spot) :
    spot.past text = ⟨spot.line, spot.column + text.length⟩ := by
  induction text generalizing spot with
  | nil => rfl
  | cons c rest ih =>
    rw [List.mem_cons, not_or] at h
    have hnext : spot.next c = ⟨spot.line, spot.column + 1⟩ := if_neg (Ne.symm h.1)
    rw [past, List.foldl_cons, hnext, ← past, ih h.2, List.length_cons, Nat.add_assoc,
      Nat.add_comm 1]

/-- What is no character of a path is none of its characters: marks, braces and blanks. -/
theorem ne_of_isPathChar {c : Char} (h : isPathChar c = true) {other : Char}
    (hother : isPathChar other = false) : c ≠ other := by
  rintro rfl
  rw [h] at hother
  cases hother

/-- A path has no blanks in it. -/
theorem isTagGap_of_isPathChar {c : Char} (h : isPathChar c = true) : isTagGap c = false := by
  by_cases hgap : isTagGap c = true
  · have hcases : ((c = ' ' ∨ c = '\t') ∨ c = '\n') ∨ c = '\r' := by simpa [isTagGap] using hgap
    rcases hcases with ((rfl | rfl) | rfl) | rfl <;> exact absurd h (by decide)
  · simpa using hgap

theorem skipTagGaps_cons {c : Char} (h : isTagGap c = false) (rest : List Char) :
    skipTagGaps (c :: rest) = c :: rest := by
  rw [skipTagGaps, List.dropWhile_cons, h]
  rfl

theorem isPath_iff {path : String} : isPath path = true ↔
    (∀ c ∈ path.toList, isPathChar c = true) ∧
      (Text.split '.' path.toList).any List.isEmpty = false ∧ isBranch path = false := by
  simp [isPath, and_assoc]

theorem exists_cons_of_isPath {path : String} (h : isPath path = true) :
    ∃ c rest, path.toList = c :: rest ∧ isPathChar c = true := by
  obtain ⟨hchars, hnames, -⟩ := isPath_iff.mp h
  cases hpath : path.toList with
  | nil =>
    rw [hpath] at hnames
    cases hnames
  | cons c rest => exact ⟨c, rest, rfl, hchars c (hpath ▸ List.mem_cons_self)⟩

/-- A path is read up to the closing braces. -/
theorem readPath?_of_isPath {path : String} (h : isPath path = true) (rest : List Char) :
    readPath? (path.toList ++ '\x7d' :: rest) = some (path, '\x7d' :: rest) := by
  obtain ⟨hchars, hnames, -⟩ := isPath_iff.mp h
  have htake : (path.toList ++ '\x7d' :: rest).takeWhile (fun c ↦ isNameChar c || c = '.') =
      path.toList := by
    show (path.toList ++ '\x7d' :: rest).takeWhile isPathChar = path.toList
    rw [List.takeWhile_append_of_pos hchars, List.takeWhile_cons]
    exact List.append_nil _
  unfold readPath?
  dsimp only
  rw [htake, hnames, List.drop_left, String.ofList_toList]
  rfl

theorem skipTagGaps_of_isPath {path : String} (h : isPath path = true) (rest : List Char) :
    skipTagGaps (path.toList ++ rest) = path.toList ++ rest := by
  obtain ⟨c, others, hpath, hc⟩ := exists_cons_of_isPath h
  rw [hpath, List.cons_append, skipTagGaps_cons (isTagGap_of_isPathChar hc)]

/-- A path with its closing braces is read. -/
theorem readClosed?_of_isPath {path : String} (h : isPath path = true) (rest : List Char) :
    readClosed? ['\x7d', '\x7d'] (path.toList ++ '\x7d' :: '\x7d' :: rest) = some (path, rest) := by
  unfold readClosed?
  rw [skipTagGaps_of_isPath h, readPath?_of_isPath h]
  rfl

/-- The inside of a tag is read as a reference without a mark before it. -/
theorem readReference?_of_isPath {path : String} (h : isPath path = true) (rest : List Char) :
    readReference? (path.toList ++ '\x7d' :: '\x7d' :: rest) = some (path, rest) := by
  obtain ⟨-, -, hbranch⟩ := isPath_iff.mp h
  obtain ⟨c, others, hpath, hc⟩ := exists_cons_of_isPath h
  have hclosed := readClosed?_of_isPath h rest
  unfold readReference?
  rw [skipTagGaps_of_isPath h]
  rw [hpath, List.cons_append] at hclosed ⊢
  split
  · rename_i heq
    exact absurd (List.cons.inj heq).1 (ne_of_isPathChar hc (by decide))
  · rename_i heq
    exact absurd (List.cons.inj heq).1 (ne_of_isPathChar hc (by decide))
  · rw [hclosed]
    simp [hbranch]

/-- A tag with a path is a reference, and no comment. -/
theorem readTag?_of_isPath {path : String} (h : isPath path = true) (rest : List Char) :
    readTag? (path.toList ++ '\x7d' :: '\x7d' :: rest) = some (.reference path, rest) := by
  obtain ⟨c, others, hpath, hc⟩ := exists_cons_of_isPath h
  have hreference := readReference?_of_isPath h rest
  unfold readTag?
  rw [hpath, List.cons_append] at hreference ⊢
  split
  · rename_i heq
    exact absurd (List.cons.inj heq).1 (ne_of_isPathChar hc (by decide))
  · rw [hreference]
    rfl

theorem length_tag (path : String) : (tag path).toList.length = path.length + 4 := by
  rw [← String.length_toList]
  simp [tag]

/-- A tag is read as its reference, behind the text before it. -/
theorem readParts?_tag {path : String} (h : isPath path = true) (bound : Nat) (spot : Spot)
    (blank : Bool) (before rest : List Char) :
    readParts? (bound + 1) spot blank before ((tag path).toList ++ rest) =
      (readParts? bound ⟨spot.line, spot.column + path.length + 4⟩ false [] rest).map
        fun parts ↦ textPart before ++ .reference path spot :: parts := by
  have htag : (tag path).toList ++ rest =
      '\x7b' :: '\x7b' :: (path.toList ++ '\x7d' :: '\x7d' :: rest) := by
    simp [tag]
  have htoken : token '\x7b' ('\x7b' :: (path.toList ++ '\x7d' :: '\x7d' :: rest)) =
      .tag (.reference path) rest := by
    have hopens : opens ('\x7b' :: '\x7b' :: (path.toList ++ '\x7d' :: '\x7d' :: rest)) = true :=
      rfl
    unfold token
    rw [if_pos hopens, List.drop_succ_cons, List.drop_zero, readTag?_of_isPath h]
  have htaken : ((tag path).toList ++ rest).take
      (((tag path).toList ++ rest).length - rest.length) = (tag path).toList := by
    rw [List.length_append, Nat.add_sub_cancel, List.take_left]
  have hline : '\n' ∉ (tag path).toList := by
    intro hmem
    have hpath : '\n' ∈ path.toList := by simpa [tag] using hmem
    exact ne_of_isPathChar ((isPath_iff.mp h).1 _ hpath) (by decide) rfl
  rw [htag] at htaken ⊢
  rw [readParts?, htoken]
  dsimp only
  rw [htaken, Spot.past_of_not_mem hline, length_tag, Nat.add_assoc]

/-! ### Reading templates -/

theorem textPart_reverse {text : String} (h : text.isEmpty = false) :
    textPart text.toList.reverse = [.text text] := by
  have hne : text.toList ≠ [] := by
    intro hnil
    rw [String.toList_eq_nil_iff.mp hnil] at h
    cases h
  simp [textPart, hne]

/-- The text of legible pieces is read as their parts. A text only becomes a part when the reference
behind it comes, so what was read before goes through the induction on the pieces. -/
theorem readParts?_filled_tag {pieces : List Piece} (h : isLegible pieces = true) {bound : Nat}
    (hbound : (filled tag pieces).toList.length ≤ bound) (spot : Spot) (blank : Bool)
    {before : List Char} (hbefore : before = [] ∨ startsWithText pieces = false) :
    readParts? bound spot blank before (filled tag pieces).toList =
      some (textPart before ++ partsOf spot pieces) := by
  induction pieces generalizing bound spot blank before with
  | nil =>
    rw [partsOf, List.append_nil]
    cases bound <;> rfl
  | cons piece rest ih =>
    cases piece with
    | text text =>
      obtain ⟨⟨⟨hnonempty, hplain⟩, hstarts⟩, hrest⟩ : ((text.isEmpty = false ∧
          ∀ c ∈ text.toList, isPlain c = true) ∧ startsWithText rest = false) ∧
            isLegible rest = true := by
        simpa [isLegible] using h
      obtain rfl : before = [] := hbefore.resolve_right (by simp [startsWithText])
      rw [filled, String.toList_append] at hbound ⊢
      rw [List.length_append] at hbound
      obtain ⟨left, rfl⟩ := Nat.exists_eq_add_of_le (Nat.le_of_add_right_le hbound)
      rw [readParts?_append_of_isPlain hplain,
        ih hrest (Nat.le_of_add_le_add_left hbound) _ _ (Or.inr hstarts),
        List.append_nil, textPart_reverse hnonempty]
      rfl
    | reference path =>
      obtain ⟨hpath, hrest⟩ : isPath path = true ∧ isLegible rest = true := by
        simpa [isLegible] using h
      rw [filled, String.toList_append] at hbound ⊢
      rw [List.length_append, length_tag] at hbound
      obtain ⟨left, rfl⟩ : ∃ left, bound = left + 1 := ⟨bound - 1, by omega⟩
      rw [readParts?_tag hpath, ih hrest (by omega) _ _ (Or.inl rfl)]
      rfl

/-- Legible pieces are read back from their text. -/
theorem parse?_filled_tag {pieces : List Piece} (h : isLegible pieces = true) :
    parse? (filled tag pieces) = some (ofPieces pieces) := by
  unfold parse?
  rw [readParts?_filled_tag h (Nat.le_of_eq String.length_toList) .start true (Or.inl rfl)]
  rfl

end StepSequencer.Template
