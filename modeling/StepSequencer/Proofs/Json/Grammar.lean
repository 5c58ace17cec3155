import StepSequencer.Proofs.Json.Locality

/-!
# The documents that the reader accepts

A `Tree` is a document without its blanks: the texts of strings, numerals and words as they are
written, and the elements and members in the order of the text. `Tree.Writes` says that a text is a
document with this tree. Every text that is read has a tree (`exists_writes_of_parse`), and a text
is read as the value of its tree, unless arrays and objects nest too deep (`parse_eq_ok_iff`).

`findsTree_readValue` goes from what was read to a tree, by induction on the depth, and
`reads_readValue` from a tree to what is read, by induction on the tree along with its elements and
members.
-/

set_option autoImplicit false
set_option relaxedAutoImplicit false

namespace StepSequencer.Json

/-! ### Trees -/

/-- The text of a value that is neither an array nor an object. -/
structure Leaf where
  text : List Char
  value : Value
  starts : ∀ c ∈ text.head?, Cursor.isGap c = false
  reads : ∃ final, readValue 0 ⟨text, 0⟩ = .ok (value, ⟨[], final⟩)

/-- The text of a key, behind its opening quote. -/
structure Key where
  text : List Char
  name : String
  reads : ∃ final, readString ⟨text, 0⟩ = .ok (name, ⟨[], final⟩)

/-- A document without the blanks between its parts. -/
inductive Tree where
  | leaf (leaf : Leaf)
  | array (elements : List Tree)
  | object (members : List (Key × Tree))

/-- A key, a colon and something, with blanks around the colon. -/
def Labelled (key : Key) (core : List Char → Prop) (text : List Char) : Prop :=
  ∃ before after middle, Blank before ∧ Blank after ∧ core middle ∧
    text = '"' :: (key.text ++ (before ++ ':' :: (after ++ middle)))

mutual

/-- The text is that of the tree, with some blanks between its parts. -/
def Tree.Spells : Tree → List Char → Prop
  | .leaf leaf, text => text = leaf.text
  | .array elements, text =>
    ∃ parts tail, ElementsSpell elements parts ∧ Enclosed ']' parts tail ∧ text = '[' :: tail
  | .object members, text =>
    ∃ parts tail, MembersSpell members parts ∧ Enclosed '}' parts tail ∧ text = '{' :: tail

/-- The parts are the texts of the elements, with blanks around them. -/
def ElementsSpell : List Tree → List (List Char) → Prop
  | [], parts => parts = []
  | tree :: rest, parts =>
    ∃ part others, Padded (fun text ↦ tree.Spells text) part ∧ ElementsSpell rest others ∧
      parts = part :: others

/-- The parts are the texts of the members, with blanks around them. -/
def MembersSpell : List (Key × Tree) → List (List Char) → Prop
  | [], parts => parts = []
  | (key, tree) :: rest, parts =>
    ∃ part others, Padded (Labelled key fun text ↦ tree.Spells text) part ∧
      MembersSpell rest others ∧ parts = part :: others

end

/-- The text is a document with this tree. -/
def Tree.Writes (tree : Tree) (text : String) : Prop :=
  Padded tree.Spells text.toList

mutual

/-- The value of a tree in which arrays and objects nest at most to a depth. -/
def Tree.value? : Nat → Tree → Option Value
  | _, .leaf leaf => some leaf.value
  | 0, .array _ => none
  | 0, .object _ => none
  | depth + 1, .array elements => (elementValues? depth elements).map .array
  | depth + 1, .object members =>
    (memberValues? depth members).map fun members ↦ .object (sortMembers members)

/-- The values of some elements. -/
def elementValues? : Nat → List Tree → Option (List Value)
  | _, [] => some []
  | depth, tree :: rest => do
    let value ← tree.value? depth
    let values ← elementValues? depth rest
    return value :: values

/-- The values of some members, with their keys. -/
def memberValues? : Nat → List (Key × Tree) → Option (List (String × Value))
  | _, [] => some []
  | depth, (key, tree) :: rest => do
    let value ← tree.value? depth
    let members ← memberValues? depth rest
    return (key.name, value) :: members

end

mutual

/-- The text of a tree without blanks. -/
def Tree.text : Tree → List Char
  | .leaf leaf => leaf.text
  | .array elements => '[' :: (separated [','] (elementTexts elements) ++ [']'])
  | .object members => '{' :: (separated [','] (memberTexts members) ++ ['}'])

/-- The texts of some elements without blanks. -/
def elementTexts : List Tree → List (List Char)
  | [] => []
  | tree :: rest => tree.text :: elementTexts rest

/-- The texts of some members without blanks. -/
def memberTexts : List (Key × Tree) → List (List Char)
  | [] => []
  | (key, tree) :: rest => ('"' :: (key.text ++ ':' :: tree.text)) :: memberTexts rest

end

mutual

/-- Every tree is that of some text. -/
theorem Tree.spells_text : ∀ tree : Tree, tree.Spells tree.text
  | .leaf _ => rfl
  | .array elements => by
    rw [Tree.text]
    exact ⟨_, _, elementsSpell_elementTexts elements, ⟨[], [], blank_nil, blank_nil, rfl⟩, rfl⟩
  | .object members => by
    rw [Tree.text]
    exact ⟨_, _, membersSpell_memberTexts members, ⟨[], [], blank_nil, blank_nil, rfl⟩, rfl⟩

theorem elementsSpell_elementTexts : ∀ elements, ElementsSpell elements (elementTexts elements)
  | [] => rfl
  | tree :: rest => by
    rw [elementTexts]
    exact ⟨_, _, padded_of_core tree.spells_text, elementsSpell_elementTexts rest, rfl⟩

theorem membersSpell_memberTexts : ∀ members, MembersSpell members (memberTexts members)
  | [] => rfl
  | (key, tree) :: rest => by
    have hlabelled : Labelled key tree.Spells ('"' :: (key.text ++ ':' :: tree.text)) :=
      ⟨[], [], tree.text, blank_nil, blank_nil, tree.spells_text, rfl⟩
    rw [memberTexts]
    exact ⟨_, _, padded_of_core hlabelled, membersSpell_memberTexts rest, rfl⟩

end

/-- A tree can be written as its own text. -/
theorem Tree.writes_text (tree : Tree) : tree.Writes (String.ofList tree.text) := by
  rw [Tree.Writes, String.toList_ofList]
  exact padded_of_core tree.spells_text

/-! ### Trees of texts that are read -/

/-- Texts of trees are the texts of elements. -/
theorem exists_elements {parts : List (List Char)}
    (h : ∀ part ∈ parts, Padded (fun text ↦ ∃ tree : Tree, tree.Spells text) part) :
    ∃ elements, ElementsSpell elements parts := by
  induction parts with
  | nil => exact ⟨[], rfl⟩
  | cons part parts ih =>
    rw [List.forall_mem_cons] at h
    obtain ⟨⟨before, middle, after, hbefore, ⟨tree, htree⟩, hafter, hpart⟩, hparts⟩ := h
    obtain ⟨elements, helements⟩ := ih hparts
    exact ⟨tree :: elements, part, parts, ⟨before, middle, after, hbefore, htree, hafter, hpart⟩,
      helements, rfl⟩

/-- Labelled texts of trees are the texts of members. -/
theorem exists_members {parts : List (List Char)}
    (h : ∀ part ∈ parts,
      Padded (fun text ↦ ∃ key, ∃ tree : Tree, Labelled key tree.Spells text) part) :
    ∃ members, MembersSpell members parts := by
  induction parts with
  | nil => exact ⟨[], rfl⟩
  | cons part parts ih =>
    rw [List.forall_mem_cons] at h
    obtain ⟨⟨before, middle, after, hbefore, ⟨key, tree, htree⟩, hafter, hpart⟩, hparts⟩ := h
    obtain ⟨members, hmembers⟩ := ih hparts
    exact ⟨(key, tree) :: members, part, parts,
      ⟨before, middle, after, hbefore, htree, hafter, hpart⟩, hmembers, rfl⟩

/-- A key that was read, and the text of it. -/
theorem exists_key {c d : Cursor} {name : String} (h : readString c = .ok (name, d)) :
    ∃ key : Key, key.name = name ∧ c.rest = key.text ++ d.rest := by
  obtain ⟨used, hused, htakes⟩ := local_readString h
  obtain ⟨final, htake⟩ := htakes [] 0 trivial
  rw [List.append_nil] at htake
  exact ⟨⟨used, name, final, htake⟩, rfl, hused⟩

/-- A colon that was read may stand behind blanks. -/
theorem exists_colon {c d : Cursor} (h : readColon c = .ok d) :
    ∃ gap, Blank gap ∧ c.rest = gap ++ ':' :: d.rest := by
  obtain ⟨gap, hgap, hrest, -⟩ := exists_gap c
  unfold readColon at h
  dsimp only at h
  rcases hx : c.skipGaps.rest with _ | ⟨x, tail⟩
  · simp only [hx] at h
    cases h
  · simp only [hx] at h
    by_cases hcolon : x = ':'
    · rw [if_pos hcolon] at h
      cases h
      refine ⟨gap, hgap, ?_⟩
      rw [hrest, hx, hcolon, Cursor.drop, hx, List.drop_succ_cons, List.drop_zero]
    · rw [if_neg hcolon] at h
      cases h

/-- What the reader has read is the text of a tree, behind some blanks. -/
def FindsTree (read : Cursor → Reading Value) : Prop :=
  ∀ ⦃c d : Cursor⦄ ⦃value : Value⦄, read c = .ok (value, d) →
    ∃ gap text, Blank gap ∧ c.rest = gap ++ (text ++ d.rest) ∧ ∃ tree : Tree, tree.Spells text

/-- What is read as an element of an array is the text of a tree. -/
theorem FindsTree.exists_element {read : Cursor → Reading Value} (hread : FindsTree read)
    {state result : List Value} {c d : Cursor} (hstarts : Starts StartsValue c.rest)
    (h : pushElement read state c = .ok (result, d)) :
    ∃ text, c.rest = text ++ d.rest ∧ ∃ tree : Tree, tree.Spells text := by
  unfold pushElement at h
  rcases htake : read c with fault | ⟨value, next⟩
  · rw [htake] at h
    cases h
  · rw [htake] at h
    cases h
    obtain ⟨gap, text, hgap, hrest, htree⟩ := hread htake
    obtain ⟨x, tail, hx, hvalue⟩ := hstarts
    cases gap with
    | nil => exact ⟨text, hrest, htree⟩
    | cons y gap =>
      rw [hx, List.cons_append] at hrest
      have hy := hgap y List.mem_cons_self
      rw [← (List.cons.inj hrest).1, hvalue.1] at hy
      cases hy

/-- What is read as a member of an object is a key, a colon and the text of a tree. -/
theorem FindsTree.exists_member {read : Cursor → Reading Value} (hread : FindsTree read)
    {state result : List (String × Value)} {c d : Cursor} (hstarts : Starts (· = '"') c.rest)
    (h : putMember read state c = .ok (result, d)) :
    ∃ text, c.rest = text ++ d.rest ∧ ∃ key, ∃ tree : Tree, Labelled key tree.Spells text := by
  unfold putMember at h
  obtain ⟨⟨name, first⟩, hname, h⟩ := bind_eq_ok h
  obtain ⟨second, hcolon, h⟩ := bind_eq_ok h
  obtain ⟨⟨value, third⟩, hvalue, h⟩ := bind_eq_ok h
  cases h
  obtain ⟨x, tail, hx, rfl⟩ := hstarts
  obtain ⟨key, -, hkey⟩ := exists_key hname
  obtain ⟨before, hbefore, hfirst⟩ := exists_colon hcolon
  obtain ⟨after, text, hafter, hsecond, tree, htree⟩ := hread hvalue
  rw [Cursor.drop, hx] at hkey
  have htail : tail = key.text ++ first.rest := hkey
  refine ⟨'"' :: (key.text ++ (before ++ ':' :: (after ++ text))), ?_, key, tree,
    before, after, text, hbefore, hafter, htree, rfl⟩
  rw [hx, htail, hfirst, hsecond]
  simp

theorem skipGaps_skipGaps (c : Cursor) : c.skipGaps.skipGaps = c.skipGaps := by
  obtain ⟨-, -, -, hhead⟩ := exists_gap c
  rcases hc : c.skipGaps with ⟨_ | ⟨x, tail⟩, offset⟩
  · rfl
  · rw [hc] at hhead
    exact skipGaps_cons (hhead x rfl) tail offset

theorem readValue_skipGaps (depth : Nat) (c : Cursor) :
    readValue depth c.skipGaps = readValue depth c :=
  readValue_congr depth (skipGaps_skipGaps c)

theorem readValue_nil (depth offset : Nat) :
    ∃ fault, readValue depth ⟨[], offset⟩ = .error fault := by
  rw [readValue.eq_def]
  exact ⟨_, rfl⟩

/-- Where an array or an object starts, nothing is read if none may be open. -/
theorem readValue_zero {x : Char} (hx : x = '[' ∨ x = '{') (tail : List Char) (offset : Nat) :
    ∃ fault, readValue 0 ⟨x :: tail, offset⟩ = .error fault := by
  rw [readValue.eq_def]
  rcases hx with rfl | rfl <;> exact ⟨_, rfl⟩

/-- A value that was read from a text that starts with no bracket is a leaf. -/
theorem exists_leaf {inner offset : Nat} {x : Char} {tail : List Char} {value : Value} {d : Cursor}
    (hgap : Cursor.isGap x = false) (hbracket : x ≠ '[') (hbrace : x ≠ '{')
    (h : readValue inner ⟨x :: tail, offset⟩ = .ok (value, d)) :
    ∃ leaf : Leaf, x :: tail = leaf.text ++ d.rest := by
  obtain ⟨used, hused, htakes⟩ := exists_takes_of_readValue hgap hbracket hbrace h
  obtain ⟨final, hread⟩ := htakes 0 [] 0 ends_nil
  rw [List.append_nil] at hread
  have hstarts : ∀ c ∈ used.head?, Cursor.isGap c = false := by
    intro c hc
    obtain ⟨others, rfl⟩ := List.head?_eq_some_iff.mp hc
    rw [← (List.cons.inj hused).1]
    exact hgap
  exact ⟨⟨used, value, hstarts, final, hread⟩, hused⟩

/-- It is enough to find the trees of arrays and objects. -/
theorem findsTree_of_brackets {depth : Nat}
    (h : ∀ {x : Char} {tail : List Char} {offset : Nat} {value : Value} {d : Cursor},
      x = '[' ∨ x = '{' → readValue depth ⟨x :: tail, offset⟩ = .ok (value, d) →
        ∃ text, x :: tail = text ++ d.rest ∧ ∃ tree : Tree, tree.Spells text) :
    FindsTree (readValue depth) := by
  intro c d value hread
  obtain ⟨gap, hgap, hrest, hhead⟩ := exists_gap c
  rw [← readValue_skipGaps] at hread
  rcases hskip : c.skipGaps with ⟨_ | ⟨x, tail⟩, offset⟩
  · obtain ⟨fault, hfault⟩ := readValue_nil depth offset
    rw [hskip, hfault] at hread
    cases hread
  · rw [hskip] at hread hrest hhead
    have htree : ∃ text, x :: tail = text ++ d.rest ∧ ∃ tree : Tree, tree.Spells text := by
      by_cases hx : x = '[' ∨ x = '{'
      · exact h hx hread
      · rw [not_or] at hx
        obtain ⟨leaf, hleaf⟩ := exists_leaf (hhead x rfl) hx.1 hx.2 hread
        exact ⟨leaf.text, hleaf, .leaf leaf, rfl⟩
    obtain ⟨text, htext, htree⟩ := htree
    exact ⟨gap, text, hgap, by rw [hrest, ← htext], htree⟩

/-- What was read as a value is the text of a tree. -/
theorem findsTree_readValue (depth : Nat) : FindsTree (readValue depth) := by
  induction depth with
  | zero =>
    refine findsTree_of_brackets fun {x tail offset value d} hx hread ↦ ?_
    obtain ⟨fault, hfault⟩ := readValue_zero hx tail offset
    rw [hfault] at hread
    cases hread
  | succ depth ih =>
    refine findsTree_of_brackets fun {x tail offset value d} hx hread ↦ ?_
    rcases hx with rfl | rfl
    · rw [readValue_bracket, readElements_eq] at hread
      obtain ⟨⟨values, next⟩, hloop, hresult⟩ := eq_ok_of_map_eq_ok hread
      cases hresult
      obtain ⟨parts, text, henclosed, htail, hparts⟩ :=
        guides_nextElement.exists_enclosed ih.exists_element hloop
      obtain ⟨elements, helements⟩ := exists_elements hparts
      refine ⟨'[' :: text, ?_, .array elements, parts, text, helements, henclosed, rfl⟩
      rw [List.cons_append, ← htail]
    · rw [readValue_brace, readMembers_eq] at hread
      obtain ⟨⟨values, next⟩, hloop, hresult⟩ := eq_ok_of_map_eq_ok hread
      cases hresult
      obtain ⟨parts, text, henclosed, htail, hparts⟩ :=
        guides_nextKey.exists_enclosed ih.exists_member hloop
      obtain ⟨members, hmembers⟩ := exists_members hparts
      refine ⟨'{' :: text, ?_, .object members, parts, text, hmembers, henclosed, rfl⟩
      rw [List.cons_append, ← htail]

/-! ### Reading the text of a tree -/

theorem Leaf.starts_text (leaf : Leaf) : Starts StartsValue leaf.text := by
  obtain ⟨final, hread⟩ := leaf.reads
  rcases htext : leaf.text with _ | ⟨x, tail⟩
  · obtain ⟨fault, hfault⟩ := readValue_nil 0 0
    rw [htext, hfault] at hread
    cases hread
  · have hgap := leaf.starts x (by rw [htext]; rfl)
    refine ⟨x, tail, rfl, hgap, ?_⟩
    rintro rfl
    obtain ⟨fault, hfault⟩ := readValue_other 0 hgap (by decide) (by decide) tail 0
    rw [htext, hfault] at hread
    cases hread

/-- The text of a leaf is read as its value. -/
theorem Leaf.takes (leaf : Leaf) (depth : Nat) :
    Takes (readValue depth) leaf.text leaf.value := by
  obtain ⟨final, hread⟩ := leaf.reads
  obtain ⟨x, tail, htext, hgap, -⟩ := leaf.starts_text
  rw [htext] at hread
  have hopen : ¬ (x = '[' ∨ x = '{') := by
    intro hx
    obtain ⟨fault, hfault⟩ := readValue_zero hx tail 0
    rw [hfault] at hread
    cases hread
  rw [not_or] at hopen
  obtain ⟨used, hused, htakes⟩ := exists_takes_of_readValue hgap hopen.1 hopen.2 hread
  rw [List.append_nil] at hused
  rw [htext, hused]
  exact htakes depth

/-- The text of a key is read as its name. -/
theorem Key.takes (key : Key) (rest : List Char) (offset : Nat) :
    ∃ final, readString ⟨key.text ++ rest, offset⟩ = .ok (key.name, ⟨rest, final⟩) := by
  obtain ⟨final, hread⟩ := key.reads
  obtain ⟨used, hused, htakes⟩ := local_readString hread
  rw [List.append_nil] at hused
  have htext : key.text = used := hused
  rw [htext]
  exact htakes rest offset trivial

/-- A text of a tree starts like a value. -/
theorem Tree.starts_of_spells {tree : Tree} {text : List Char} (h : tree.Spells text) :
    Starts StartsValue text := by
  cases tree with
  | leaf leaf =>
    rw [Tree.Spells] at h
    rw [h]
    exact leaf.starts_text
  | array elements =>
    obtain ⟨parts, tail, -, -, rfl⟩ := h
    exact ⟨'[', tail, rfl, by decide⟩
  | object members =>
    obtain ⟨parts, tail, -, -, rfl⟩ := h
    exact ⟨'{', tail, rfl, by decide⟩

theorem readColon_append {gap : List Char} (hgap : Blank gap) (rest : List Char) (offset : Nat) :
    readColon ⟨gap ++ ':' :: rest, offset⟩ = .ok ⟨rest, offset + gap.length + 1⟩ := by
  rw [readColon, skipGaps_append_cons hgap (by decide)]
  rfl

/-- A member is read as its value under its key, with blanks around the colon. -/
theorem reads_putMember {read : Cursor → Reading Value} {key : Key} {text : List Char}
    {result : Option Value}
    (h : Labelled key (fun middle ↦ ∀ gap, Blank gap → Reads read (gap ++ middle) result) text)
    (state : List (String × Value)) :
    Reads (putMember read state) text (result.map (insertMember key.name · state)) := by
  obtain ⟨before, after, middle, hbefore, hafter, hread, rfl⟩ := h
  intro rest offset hrest
  obtain ⟨named, hname⟩ := key.takes (before ++ ':' :: (after ++ middle ++ rest)) (offset + 1)
  have hcolon := readColon_append hbefore (after ++ middle ++ rest) named
  have hreturns := hread after hafter rest (named + before.length + 1) hrest
  have htext : '"' :: (key.text ++ (before ++ ':' :: (after ++ middle))) ++ rest =
      '"' :: (key.text ++ (before ++ ':' :: (after ++ middle ++ rest))) := by simp
  have hdrop : Cursor.drop 1 ⟨'"' :: (key.text ++ (before ++ ':' :: (after ++ middle ++ rest))),
      offset⟩ = ⟨key.text ++ (before ++ ':' :: (after ++ middle ++ rest)), offset + 1⟩ := rfl
  rw [htext, putMember, hdrop, hname]
  cases result with
  | none =>
    obtain ⟨fault, hfault⟩ := hreturns
    exact ⟨fault, by simp only [bind, Except.bind, hcolon, hfault]⟩
  | some value =>
    obtain ⟨final, hfinal⟩ := hreturns
    refine ⟨final, ?_⟩
    simp only [bind, Except.bind, hcolon, hfinal]
    rfl

/-- Blanks before a value are passed over. -/
theorem reads_blank_append {depth : Nat} {text : List Char} {result : Option Value}
    (h : Reads (readValue depth) text result) {gap : List Char} (hgap : Blank gap) :
    Reads (readValue depth) (gap ++ text) result := by
  intro rest offset hrest
  rw [List.append_assoc, readValue_append hgap]
  exact h rest (offset + gap.length) hrest

mutual

/-- The text of a tree is read as the value of the tree. -/
theorem reads_readValue (depth : Nat) :
    ∀ (tree : Tree) {text : List Char}, tree.Spells text →
      Reads (readValue depth) text (tree.value? depth)
  | .leaf leaf, text, h => by
    rw [Tree.Spells] at h
    rw [h, Tree.value?]
    exact leaf.takes depth
  | .array elements, text, h => by
    obtain ⟨parts, tail, helements, henclosed, rfl⟩ := h
    intro rest offset hrest
    cases depth with
    | zero => exact readValue_zero (Or.inl rfl) (tail ++ rest) offset
    | succ depth =>
      have hreturns := guides_nextElement.reads_enclosed
        (runsOver_elements depth elements helements []) henclosed rest (offset + 1) hrest
      rw [List.cons_append, readValue_bracket, readElements_eq, Tree.value?]
      cases hvalues : elementValues? depth elements with
      | none =>
        rw [hvalues] at hreturns
        obtain ⟨fault, hfault⟩ := hreturns
        exact ⟨fault, by rw [hfault]; rfl⟩
      | some values =>
        rw [hvalues] at hreturns
        obtain ⟨final, hfinal⟩ := hreturns
        exact ⟨final, by rw [hfinal]; simp [Except.map]⟩
  | .object members, text, h => by
    obtain ⟨parts, tail, hmembers, henclosed, rfl⟩ := h
    intro rest offset hrest
    cases depth with
    | zero => exact readValue_zero (Or.inr rfl) (tail ++ rest) offset
    | succ depth =>
      have hreturns := guides_nextKey.reads_enclosed
        (runsOver_members depth members hmembers []) henclosed rest (offset + 1) hrest
      rw [List.cons_append, readValue_brace, readMembers_eq, Tree.value?]
      cases hvalues : memberValues? depth members with
      | none =>
        rw [hvalues] at hreturns
        obtain ⟨fault, hfault⟩ := hreturns
        exact ⟨fault, by rw [hfault]; rfl⟩
      | some values =>
        rw [hvalues] at hreturns
        obtain ⟨final, hfinal⟩ := hreturns
        exact ⟨final, by rw [hfinal]; rfl⟩

/-- The texts of elements are read one by one as their values, or up to the first that has none. -/
theorem runsOver_elements (depth : Nat) :
    ∀ (elements : List Tree) {parts : List (List Char)}, ElementsSpell elements parts →
      ∀ state : List Value, RunsOver (pushElement (readValue depth)) StartsValue state parts
        ((elementValues? depth elements).map fun values ↦ values.reverse ++ state)
  | [], parts, h, state => by
    rw [ElementsSpell] at h
    subst h
    exact .nil state
  | tree :: rest, parts, h, state => by
    obtain ⟨part, others, ⟨before, middle, after, hbefore, htree, hafter, hpart⟩, hothers, rfl⟩ := h
    have hstarts := tree.starts_of_spells htree
    have hread := reads_pushElement (reads_readValue depth tree htree) state
    rw [elementValues?]
    cases hvalue : tree.value? depth with
    | none =>
      rw [hvalue] at hread
      exact .fails others ⟨before, middle, after, hbefore, ⟨hstarts, hread⟩, hafter, hpart⟩
    | some value =>
      rw [hvalue] at hread
      have hrest := runsOver_elements depth rest hothers (value :: state)
      refine .takes ⟨before, middle, after, hbefore, ⟨hstarts, hread⟩, hafter, hpart⟩ ?_
      cases hvalues : elementValues? depth rest with
      | none =>
        rw [hvalues] at hrest
        exact hrest
      | some values =>
        rw [hvalues] at hrest
        simpa using hrest

/-- The texts of members are read one by one into the object, of which later ones replace earlier
ones, or up to the first that has no value. -/
theorem runsOver_members (depth : Nat) :
    ∀ (members : List (Key × Tree)) {parts : List (List Char)}, MembersSpell members parts →
      ∀ state : List (String × Value), RunsOver (putMember (readValue depth)) (· = '"') state parts
        ((memberValues? depth members).map fun values ↦
          values.foldl (fun sorted member ↦ insertMember member.1 member.2 sorted) state)
  | [], parts, h, state => by
    rw [MembersSpell] at h
    subst h
    exact .nil state
  | (key, tree) :: rest, parts, h, state => by
    obtain ⟨part, others, ⟨before, middle, after, hbefore, hlabelled, hafter, hpart⟩, hothers,
      rfl⟩ := h
    have hstarts : Starts (· = '"') middle := by
      obtain ⟨_, _, _, -, -, -, rfl⟩ := hlabelled
      exact ⟨'"', _, rfl, rfl⟩
    have hread : Reads (putMember (readValue depth) state) middle
        ((tree.value? depth).map (insertMember key.name · state)) := by
      obtain ⟨gap, inner, text, hgap, hinner, htree, htext⟩ := hlabelled
      exact reads_putMember ⟨gap, inner, text, hgap, hinner,
        fun _ hblank ↦ reads_blank_append (reads_readValue depth tree htree) hblank, htext⟩ state
    rw [memberValues?]
    cases hvalue : tree.value? depth with
    | none =>
      rw [hvalue] at hread
      exact .fails others ⟨before, middle, after, hbefore, ⟨hstarts, hread⟩, hafter, hpart⟩
    | some value =>
      rw [hvalue] at hread
      have hrest := runsOver_members depth rest hothers (insertMember key.name value state)
      refine .takes ⟨before, middle, after, hbefore, ⟨hstarts, hread⟩, hafter, hpart⟩ ?_
      cases hvalues : memberValues? depth rest with
      | none =>
        rw [hvalues] at hrest
        exact hrest
      | some values =>
        rw [hvalues] at hrest
        exact hrest

end

/-! ### Documents -/

theorem readEnd_eq_ok_iff (c : Cursor) : readEnd c = .ok () ↔ Blank c.rest := by
  obtain ⟨gap, hgap, hrest, hhead⟩ := exists_gap c
  unfold readEnd
  dsimp only
  rcases hskip : c.skipGaps.rest with _ | ⟨x, tail⟩
  · rw [hskip, List.append_nil] at hrest
    rw [hrest]
    exact ⟨fun _ ↦ hgap, fun _ ↦ rfl⟩
  · have hx : Cursor.isGap x = false := hhead x (by rw [hskip]; rfl)
    have hmem : x ∈ c.rest := by
      rw [hrest, hskip]
      exact List.mem_append_right gap List.mem_cons_self
    constructor
    · intro h
      cases h
    · intro h
      rw [h x hmem] at hx
      cases hx

/-- A text is accepted if a value is read from it with nothing but blanks behind. -/
theorem parse_eq_ok_iff_readValue {text : String} {value : Value} :
    parse text = .ok value ↔
      ∃ c, readValue maxDepth ⟨text.toList, 0⟩ = .ok (value, c) ∧ Blank c.rest := by
  constructor
  · intro h
    obtain ⟨⟨result, c⟩, hread, h⟩ := bind_eq_ok h
    obtain ⟨_, hend, h⟩ := bind_eq_ok h
    cases h
    exact ⟨c, hread, (readEnd_eq_ok_iff c).mp hend⟩
  · rintro ⟨c, hread, hblank⟩
    rw [parse, Cursor.ofString, hread]
    show (readEnd c >>= fun _ ↦ pure value) = .ok value
    rw [(readEnd_eq_ok_iff c).mpr hblank]
    rfl

/-- Every text that is read has a tree. -/
theorem exists_writes_of_parse {text : String} {value : Value} (h : parse text = .ok value) :
    ∃ tree : Tree, tree.Writes text := by
  obtain ⟨c, hread, hblank⟩ := parse_eq_ok_iff_readValue.mp h
  obtain ⟨gap, middle, hgap, hrest, tree, htree⟩ := findsTree_readValue maxDepth hread
  exact ⟨tree, gap, middle, c.rest, hgap, htree, hblank, hrest⟩

/-- A text is read as the value of its tree. -/
theorem parse_eq_ok_iff {tree : Tree} {text : String} (h : tree.Writes text) (value : Value) :
    parse text = .ok value ↔ tree.value? maxDepth = some value := by
  obtain ⟨before, middle, after, hbefore, htree, hafter, htext⟩ := h
  have hends : Ends after := by
    have hends := ends_of_blank hafter ends_nil
    rwa [List.append_nil] at hends
  have hreads := reads_blank_append (reads_readValue maxDepth tree htree) hbefore
  have hreturns := hreads after 0 hends
  rw [List.append_assoc, ← htext] at hreturns
  rw [parse_eq_ok_iff_readValue]
  cases hvalue : tree.value? maxDepth with
  | none =>
    rw [hvalue] at hreturns
    obtain ⟨fault, hfault⟩ := hreturns
    rw [hfault]
    exact ⟨nofun, nofun⟩
  | some result =>
    rw [hvalue] at hreturns
    obtain ⟨final, hfinal⟩ := hreturns
    rw [hfinal]
    constructor
    · rintro ⟨c, hc, -⟩
      cases hc
      rfl
    · rintro hresult
      cases hresult
      exact ⟨⟨after, final⟩, rfl, hafter⟩

end StepSequencer.Json
