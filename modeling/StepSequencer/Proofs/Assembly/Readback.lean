import StepSequencer.Assembly.Arrangement
import StepSequencer.Proofs.Text.Lines

/-!
# Reading the compiled texts back

A player sees the five texts of a song and nothing else. `readSequence`, `readTable` and
`readBlocks` are what it can make of them, line by line: the values of a sequence, the labels
and the index of every entry of a table, and the eight codes and accents under every label. They
refuse a text in which any line has another form. Blanks inside a line do not count.

Each reader gives back what was written: `readSequence_renderSequence`, `readTable_render` and
`readBlocks_render`. Because a group can be read back, its text determines its codes and accents
(`map_heard_eq_of_groupText_eq`), even without the blanks at its ends (`IsGroup.eq_of_trim_eq`).
-/

set_option autoImplicit false
set_option relaxedAutoImplicit false

namespace StepSequencer

open Json (decimal)

namespace Readback

open Text (lines split numeral?)

/-! ### Lines -/

/-- What stands behind a given start of a line, without blanks. -/
def behind (start line : String) : Option (List Char) :=
  if start.toList.isPrefixOf line.toList then
    some ((line.toList.drop start.toList.length).filter fun c ↦ c ≠ ' ')
  else none

/-- The value on a line of a sequence. -/
def readValue (line : String) : Option Nat :=
  (behind byteLine line).bind numeral?

/-- The values of a sequence. -/
def readSequence (text : String) : Option (List Nat) :=
  (lines text).mapM readValue

/-- An entry of a table as it is written: four labels and an index. -/
structure Row where
  labels : List String
  index : Nat
deriving DecidableEq, Repr

/-- The labels and the index on a line of a table. -/
def readRow (line : String) : Option Row := do
  let rest ← behind "    word " line
  match split ';' rest with
  | [labels, index] => return ⟨(split ',' labels).map String.ofList, ← numeral? index⟩
  | _ => none

/-- The entries of a table. -/
def readTable (text : String) : Option (List Row) :=
  (lines text).mapM readRow

/-- The codes on a line of two. -/
def readPair (line : String) : Option (List Nat) := do
  let rest ← behind byteLine line
  match split ',' rest with
  | [first, second] => return [← numeral? first, ← numeral? second]
  | _ => none

/-- The accent of a digit. -/
def readDigit (digit : Char) : Option Bool :=
  if digit = '1' then some true else if digit = '0' then some false else none

/-- The accents on a line of digits. -/
def readAccents (line : String) : Option (List Bool) := do
  let rest ← behind (byteLine ++ "%") line
  rest.mapM readDigit

/-- The codes and accents of a group: four lines of two codes, an empty line, a line of eight
accents, and an empty line. -/
def readGroup (first second third fourth gap accents last : String) :
    Option (List (Nat × Bool)) := do
  let codes ← [first, second, third, fourth].mapM readPair
  let flags ← readAccents accents
  if gap = "" ∧ last = "" ∧ flags.length = slotsPerGroup then return codes.flatten.zip flags
  else none

/-- The labels and the groups under them. -/
def readBlockLines : List String → Option (List (String × List (Nat × Bool)))
  | [] => some []
  | label :: first :: second :: third :: fourth :: gap :: accents :: last :: rest => do
    let group ← readGroup first second third fourth gap accents last
    let others ← readBlockLines rest
    return (label, group) :: others
  | _ => none

/-- The labels of a text of blocks, and the groups under them. -/
def readBlocks (text : String) : Option (List (String × List (Nat × Bool))) :=
  readBlockLines (lines text)

/-! ### Starts of lines -/

/-- Behind the start of a line comes its rest, without blanks. -/
theorem behind_append (start rest : String) :
    behind start (start ++ rest) = some (rest.toList.filter fun c ↦ c ≠ ' ') := by
  rw [behind, String.toList_append, if_pos (List.isPrefixOf_iff_prefix.mpr ⟨_, rfl⟩),
    List.drop_left]

theorem filter_toDigits (n : Nat) :
    (Nat.toDigits 10 n).filter (fun c ↦ c ≠ ' ') = Nat.toDigits 10 n := by
  refine List.filter_eq_self.mpr fun c hc ↦ ?_
  have hne : c ≠ ' ' := fun heq ↦ Text.not_mem_toDigits (by decide) n (heq ▸ hc)
  simpa using hne

theorem mapM_eq_some_of_map_eq {α β : Type} {read : α → Option β} {list : List α} {results : List β}
    (h : list.map read = results.map some) : list.mapM read = some results := by
  induction list generalizing results with
  | nil => cases results <;> simp_all
  | cons a list ih =>
    cases results with
    | nil => simp at h
    | cons b results =>
      simp only [List.map_cons, List.cons.injEq] at h
      rw [List.mapM_cons, h.1, ih h.2]
      rfl

/-! ### Sequences -/

/-- The line of a value of a sequence. -/
def valueLine (value : Nat) : String :=
  byteLine ++ decimal value

theorem readValue_valueLine (value : Nat) : readValue (valueLine value) = some value := by
  rw [readValue, valueLine, behind_append, Text.toList_decimal_natCast, filter_toDigits,
    Option.bind_some, Text.numeral?_toDigits]

theorem not_mem_valueLine (value : Nat) : '\n' ∉ (valueLine value).toList := by
  have hdigits := Text.not_mem_toDigits (c := '\n') (by decide) value
  simp [valueLine, byteLine, hdigits]

/-- The lines of a sequence are its values. -/
theorem lines_renderSequence (values : List Nat) :
    lines (Arrangement.renderSequence values) = values.map valueLine := by
  have htext : Arrangement.renderSequence values =
      String.join ((values.map valueLine).map fun line ↦ line ++ "\n") := by
    rw [List.map_map]
    rfl
  rw [htext, Text.lines_join]
  intro line hline
  obtain ⟨value, -, rfl⟩ := List.mem_map.mp hline
  exact not_mem_valueLine value

/-- A sequence is read back from its text. -/
theorem readSequence_renderSequence (values : List Nat) :
    readSequence (Arrangement.renderSequence values) = some values := by
  rw [readSequence, lines_renderSequence]
  apply mapM_eq_some_of_map_eq
  rw [List.map_map]
  exact List.map_congr_left fun value _ ↦ readValue_valueLine value

/-! ### Tables -/

/-- A label has no characters but digits and those of its word. -/
theorem not_mem_blockLabel {c : Char} (hdigit : c.isDigit = false) (hword : c ∉ "Pattern".toList)
    (position : Nat) : c ∉ (blockLabel position).toList := by
  have hdigits := Text.not_mem_toDigits hdigit (position + 1)
  rw [blockLabel, String.toList_append, Text.toList_decimal_natCast, List.mem_append]
  exact fun h ↦ h.elim hword hdigits

/-- Labels tell positions apart. -/
theorem blockLabel_injective {first second : Nat} (h : blockLabel first = blockLabel second) :
    first = second := by
  have hdecimal : decimal (first + 1 : Nat) = decimal (second + 1 : Nat) := by
    apply String.toList_injective
    have hlist := congrArg String.toList h
    simpa only [blockLabel, String.toList_append, List.append_cancel_left_eq] using hlist
  have hsucc := Text.decimal_natCast_injective hdecimal
  omega

/-- Labels with commas and blanks between are read as the labels. -/
theorem split_filter_intercalate {positions : List Nat} (h : positions ≠ []) :
    split ',' ((", ".intercalate (positions.map blockLabel)).toList.filter fun c ↦ c ≠ ' ') =
      positions.map fun position ↦ (blockLabel position).toList := by
  have hlabel : ∀ position, (blockLabel position).toList.filter (fun c ↦ c ≠ ' ') =
      (blockLabel position).toList := by
    intro position
    refine List.filter_eq_self.mpr fun c hc ↦ ?_
    have hne : c ≠ ' ' := fun heq ↦
      not_mem_blockLabel (by decide) (by decide) position (heq ▸ hc)
    simpa using hne
  have hcomma : ∀ position, ',' ∉ (blockLabel position).toList :=
    not_mem_blockLabel (by decide) (by decide)
  induction positions with
  | nil => exact absurd rfl h
  | cons position rest ih =>
    cases rest with
    | nil =>
      rw [List.map_singleton, String.intercalate_singleton, hlabel,
        Text.split_of_not_mem (hcomma position), List.map_singleton]
    | cons next rest =>
      have hrest := ih (by simp)
      have hseparator : ", ".toList.filter (fun c ↦ c ≠ ' ') = [','] := by decide
      rw [List.map_cons, String.intercalate_cons_of_ne_nil (by simp), String.toList_append,
        String.toList_append, List.filter_append, List.filter_append, hlabel, hseparator,
        List.append_assoc, List.singleton_append, Text.split_append_divider (hcomma position),
        hrest]
      rfl

/-- Labels in a row have no characters but their own and those between them. -/
theorem not_mem_intercalate_blockLabel {c : Char} (hdigit : c.isDigit = false)
    (hword : c ∉ "Pattern".toList) (hseparator : c ∉ ", ".toList) (positions : List Nat) :
    c ∉ (", ".intercalate (positions.map blockLabel)).toList := by
  have hlabel := not_mem_blockLabel hdigit hword
  induction positions with
  | nil => simp
  | cons position rest ih =>
    cases rest with
    | nil =>
      rw [List.map_singleton, String.intercalate_singleton]
      exact hlabel position
    | cons next rest =>
      rw [List.map_cons, String.intercalate_cons_of_ne_nil (by simp), String.toList_append,
        String.toList_append, List.mem_append, List.mem_append]
      rintro ((hmem | hmem) | hmem)
      · exact hlabel position hmem
      · exact hseparator hmem
      · exact ih hmem

/-- The line of an entry of a table. -/
def rowLine (entry : Entry) : String :=
  "    word " ++ (", ".intercalate (entry.blocks.map blockLabel) ++ " ; " ++ decimal entry.index)

/-- An entry as a reader of the table sees it. -/
def rowOf (entry : Entry) : Row :=
  ⟨entry.blocks.map blockLabel, entry.index⟩

/-- A row is read back from its line. -/
theorem readRow_rowLine {entry : Entry} (h : entry.blocks ≠ []) :
    readRow (rowLine entry) = some (rowOf entry) := by
  have hlabels := split_filter_intercalate h
  have hsemicolon : ';' ∉ (", ".intercalate (entry.blocks.map blockLabel)).toList.filter
      fun c ↦ c ≠ ' ' := fun hmem ↦
    not_mem_intercalate_blockLabel (by decide) (by decide) (by decide) entry.blocks
      (List.mem_filter.mp hmem).1
  have hrest : (", ".intercalate (entry.blocks.map blockLabel) ++ " ; " ++
      decimal entry.index).toList.filter (fun c ↦ c ≠ ' ') =
      (", ".intercalate (entry.blocks.map blockLabel)).toList.filter (fun c ↦ c ≠ ' ') ++
        ';' :: Nat.toDigits 10 entry.index := by
    have hseparator : " ; ".toList.filter (fun c ↦ c ≠ ' ') = [';'] := by decide
    rw [String.toList_append, String.toList_append, List.filter_append, List.filter_append,
      hseparator, Text.toList_decimal_natCast, filter_toDigits, List.append_assoc,
      List.singleton_append]
  have hindex : split ';' (Nat.toDigits 10 entry.index) = [Nat.toDigits 10 entry.index] :=
    Text.split_of_not_mem (Text.not_mem_toDigits (by decide) entry.index)
  rw [readRow, rowLine, behind_append, hrest]
  simp only [Option.bind_eq_bind, Option.bind_some, Text.split_append_divider hsemicolon,
    hindex, hlabels, Text.numeral?_toDigits]
  simp [rowOf, Function.comp_def]

theorem not_mem_rowLine (entry : Entry) : '\n' ∉ (rowLine entry).toList := by
  have hlabels := not_mem_intercalate_blockLabel (c := '\n') (by decide) (by decide) (by decide)
    entry.blocks
  have hdigits := Text.not_mem_toDigits (c := '\n') (by decide) entry.index
  rw [rowLine, String.toList_append, String.toList_append, String.toList_append,
    Text.toList_decimal_natCast, List.mem_append, List.mem_append, List.mem_append]
  rintro (hmem | (hmem | hmem) | hmem)
  · exact absurd hmem (by decide)
  · exact hlabels hmem
  · exact absurd hmem (by decide)
  · exact hdigits hmem

/-- The labels of a store by their positions. -/
theorem getD_labels {store : BlockStore} {position : Nat} (h : position < store.size) :
    store.labels.getD position "" = blockLabel position := by
  simp [BlockStore.labels, List.getD_eq_getElem?_getD, h]

/-- The lines of a table that names blocks of the store only. -/
theorem render_eq {table : EntryTable} {store : BlockStore}
    (h : ∀ entry ∈ table.entries, ∀ position ∈ entry.blocks, position < store.size) :
    table.render store.labels =
      String.join (table.entries.map fun entry ↦ rowLine entry ++ "\n") := by
  refine congrArg String.join (List.map_congr_left fun entry hentry ↦ ?_)
  have hlabels : entry.blocks.map (fun position ↦ store.labels.getD position "") =
      entry.blocks.map blockLabel :=
    List.map_congr_left fun position hposition ↦ getD_labels (h entry hentry position hposition)
  rw [EntryTable.entryLine, hlabels]
  simp [rowLine, String.append_assoc]

/-- A table has a line for each entry, if its positions have labels. -/
theorem lines_render {table : EntryTable} {store : BlockStore}
    (h : ∀ entry ∈ table.entries, ∀ position ∈ entry.blocks, position < store.size) :
    lines (table.render store.labels) = table.entries.map rowLine := by
  have htext : table.render store.labels =
      String.join ((table.entries.map rowLine).map fun line ↦ line ++ "\n") := by
    rw [render_eq h, List.map_map]
    rfl
  rw [htext, Text.lines_join]
  intro line hline
  obtain ⟨entry, -, rfl⟩ := List.mem_map.mp hline
  exact not_mem_rowLine entry

/-- A table whose entries have labels is read back entry by entry. -/
theorem readTable_render {table : EntryTable} {store : BlockStore}
    (hne : ∀ entry ∈ table.entries, entry.blocks ≠ [])
    (h : ∀ entry ∈ table.entries, ∀ position ∈ entry.blocks, position < store.size) :
    readTable (table.render store.labels) = some (table.entries.map rowOf) := by
  rw [readTable, lines_render h]
  apply mapM_eq_some_of_map_eq
  rw [List.map_map, List.map_map]
  exact List.map_congr_left fun entry hentry ↦ readRow_rowLine (hne entry hentry)

/-! ### Groups -/

/-- What a reader of the texts learns about a slot. -/
def heard (slot : Slot) : Nat × Bool :=
  (slot.byte.toNat, slot.accent)

/-- The line of two codes. -/
def pairLine (first second : Slot) : String :=
  byteLine ++ (decimal first.byte.toNat ++ ", " ++ decimal second.byte.toNat)

/-- The line of accents. -/
def accentLine (slots : List Slot) : String :=
  byteLine ++ "%" ++ String.ofList (slots.map Slot.digit)

/-- The lines of a group. -/
def groupLines (slots : List Slot) : List String :=
  pairs slots ++ ["", accentLine slots, ""]
where
  /-- The lines of codes of a group. -/
  pairs : List Slot → List String
    | first :: second :: rest => pairLine first second :: pairs rest
    | _ => []

theorem pairLines_eq (slots : List Slot) :
    pairLines slots = String.join ((groupLines.pairs slots).map fun line ↦ line ++ "\n") := by
  fun_induction pairLines slots with
  | case1 first second rest ih => simp [groupLines.pairs, ih, pairLine, String.append_assoc]
  | case2 slots hslots => rw [groupLines.pairs]; simp; exact hslots

/-- The text of a group is its lines, each ended by a newline. -/
theorem groupText_eq (slots : List Slot) :
    groupText slots = String.join ((groupLines slots).map fun line ↦ line ++ "\n") := by
  simp [groupText, groupLines, accentLine, pairLines_eq, String.append_assoc]

/-- Two values are read back from their line. -/
theorem readPair_pairLine (first second : Slot) :
    readPair (pairLine first second) = some [first.byte.toNat, second.byte.toNat] := by
  have hrest : (decimal first.byte.toNat ++ ", " ++ decimal second.byte.toNat).toList.filter
      (fun c ↦ c ≠ ' ') =
      Nat.toDigits 10 first.byte.toNat ++ ',' :: Nat.toDigits 10 second.byte.toNat := by
    have hseparator : ", ".toList.filter (fun c ↦ c ≠ ' ') = [','] := by decide
    rw [String.toList_append, String.toList_append, List.filter_append, List.filter_append,
      hseparator, Text.toList_decimal_natCast, Text.toList_decimal_natCast, filter_toDigits,
      filter_toDigits, List.append_assoc, List.singleton_append]
  have hcomma := Text.not_mem_toDigits (c := ',') (by decide)
  rw [readPair, pairLine, behind_append, hrest]
  simp only [Option.bind_eq_bind, Option.bind_some, Text.split_append_divider (hcomma _),
    Text.split_of_not_mem (hcomma _), Text.numeral?_toDigits, Option.pure_def]

theorem readDigit_digit (slot : Slot) : readDigit slot.digit = some slot.accent := by
  rw [Slot.digit]
  cases slot.accent <;> decide

/-- Accents are read back from their line. -/
theorem readAccents_accentLine (slots : List Slot) :
    readAccents (accentLine slots) = some (slots.map Slot.accent) := by
  have hdigits : (slots.map Slot.digit).filter (fun c ↦ c ≠ ' ') = slots.map Slot.digit := by
    refine List.filter_eq_self.mpr fun c hc ↦ ?_
    obtain ⟨slot, -, rfl⟩ := List.mem_map.mp hc
    rw [Slot.digit]
    cases slot.accent <;> decide
  rw [readAccents, accentLine, behind_append, String.toList_ofList, hdigits]
  simp only [Option.bind_eq_bind, Option.bind_some]
  apply mapM_eq_some_of_map_eq
  rw [List.map_map, List.map_map]
  exact List.map_congr_left fun slot _ ↦ readDigit_digit slot

/-- No line of a group holds a newline. -/
theorem not_mem_groupLines {slots : List Slot} {line : String} (h : line ∈ groupLines slots) :
    '\n' ∉ line.toList := by
  have hdigits := Text.not_mem_toDigits (c := '\n') (by decide)
  have hpairs : ∀ slots : List Slot, ∀ line ∈ groupLines.pairs slots, '\n' ∉ line.toList := by
    intro slots
    fun_induction groupLines.pairs slots with
    | case1 first second rest ih =>
      intro line hline
      rcases List.mem_cons.mp hline with rfl | hline
      · simp [pairLine, byteLine, hdigits]
      · exact ih line hline
    | case2 => simp
  have haccents : '\n' ∉ (accentLine slots).toList := by
    have hdigit : ∀ slot : Slot, slot.digit ≠ '\n' := by
      intro slot
      rw [Slot.digit]
      cases slot.accent <;> decide
    simp [accentLine, byteLine, hdigit]
  rcases List.mem_append.mp h with hline | hline
  · exact hpairs slots line hline
  · simp only [List.mem_cons, List.not_mem_nil, or_false] at hline
    rcases hline with rfl | rfl | rfl
    · decide
    · exact haccents
    · decide

/-- A list of eight elements, element by element. -/
theorem exists_eight {α : Type} {list : List α} (h : list.length = slotsPerGroup) :
    ∃ a b c d e f g i, list = [a, b, c, d, e, f, g, i] := by
  match list, h with
  | [a, b, c, d, e, f, g, i], _ => exact ⟨a, b, c, d, e, f, g, i, rfl⟩

/-- The lines of a labelled group are read as its label and its slots, before any other lines. -/
theorem readBlockLines_append {slots : List Slot} (h : slots.length = slotsPerGroup)
    (label : String) (rest : List String) :
    readBlockLines (label :: groupLines slots ++ rest) =
      (readBlockLines rest).map fun others ↦ (label, slots.map heard) :: others := by
  have haccents := readAccents_accentLine slots
  obtain ⟨a, b, c, d, e, f, g, i, rfl⟩ := exists_eight h
  simp only [groupLines, groupLines.pairs, List.cons_append, List.nil_append, readBlockLines,
    readGroup, List.mapM_cons, List.mapM_nil, readPair_pairLine, haccents, Option.pure_def,
    Option.bind_eq_bind, Option.bind_some]
  cases readBlockLines rest <;> rfl

/-- The text of blocks is read back label by label. -/
theorem readBlocks_render {store : BlockStore} {groups : List (List Slot)}
    (htext : store.blocks.map Block.text = groups.map groupText)
    (hlength : ∀ group ∈ groups, group.length = slotsPerGroup) :
    readBlocks store.render =
      some (groups.zipIdx.map fun entry ↦ (blockLabel entry.2, entry.1.map heard)) := by
  have hgroups : store.render = String.join (groups.zipIdx.map fun entry ↦
      blockLabel entry.2 ++ "\n" ++ groupText entry.1) := by
    have hzip := congrArg (fun texts ↦ String.join (texts.zipIdx.map fun entry ↦
      blockLabel entry.2 ++ "\n" ++ entry.1)) htext
    simp only [List.zipIdx_map, List.map_map] at hzip
    exact hzip
  have hjoin : store.render = String.join ((groups.zipIdx.flatMap fun entry ↦
      blockLabel entry.2 :: groupLines entry.1).map fun line ↦ line ++ "\n") := by
    rw [hgroups]
    generalize groups.zipIdx = entries
    induction entries with
    | nil => rfl
    | cons entry entries ih =>
      rw [List.map_cons, String.join_cons, ih, groupText_eq, List.flatMap_cons, List.map_append,
        String.join_append, List.map_cons, String.join_cons]
  have hlines : lines store.render = groups.zipIdx.flatMap fun entry ↦
      blockLabel entry.2 :: groupLines entry.1 := by
    rw [hjoin, Text.lines_join]
    intro line hline
    obtain ⟨entry, -, hline⟩ := List.mem_flatMap.mp hline
    rcases List.mem_cons.mp hline with rfl | hline
    · exact not_mem_blockLabel (by decide) (by decide) entry.2
    · exact not_mem_groupLines hline
  have hentries : ∀ entry ∈ groups.zipIdx, entry.1.length = slotsPerGroup := fun entry hentry ↦
    hlength entry.1 (List.fst_mem_of_mem_zipIdx hentry)
  rw [readBlocks, hlines]
  generalize groups.zipIdx = entries at hentries
  induction entries with
  | nil => rfl
  | cons entry entries ih =>
    rw [List.flatMap_cons, readBlockLines_append (hentries entry List.mem_cons_self),
      ih fun other hother ↦ hentries other (List.mem_cons_of_mem _ hother)]
    rfl

/-! ### The text of a group determines the group -/

/-- Groups of eight slots with the same text have the same codes and accents. -/
theorem map_heard_eq_of_groupText_eq {first second : List Slot}
    (hfirst : first.length = slotsPerGroup) (hsecond : second.length = slotsPerGroup)
    (h : groupText first = groupText second) : first.map heard = second.map heard := by
  have hread : ∀ slots : List Slot, slots.length = slotsPerGroup →
      readBlockLines ("" :: lines (groupText slots)) = some [("", slots.map heard)] := by
    intro slots hslots
    have hlines : lines (groupText slots) = groupLines slots := by
      rw [groupText_eq, Text.lines_join]
      exact fun line hline ↦ not_mem_groupLines hline
    have happend := readBlockLines_append hslots "" []
    rw [List.append_nil] at happend
    rw [hlines, happend]
    rfl
  have hboth := (hread first hfirst).symm.trans (h ▸ hread second hsecond)
  simpa using hboth

/-- What a reader learns about a slot determines it, unless it plays the code for a rest. -/
theorem eq_of_heard_eq {first second : Slot} (hfirst : first.code ≠ some restCode)
    (hsecond : second.code ≠ some restCode) (h : heard first = heard second) :
    first = second := by
  obtain ⟨hbyte, haccent⟩ := Prod.mk.inj h
  have hbyte : first.byte = second.byte := UInt8.toNat_inj.mp hbyte
  have hcode : first.code = second.code := by
    rw [Slot.byte, Slot.byte] at hbyte
    cases hone : first.code with
    | none =>
      cases htwo : second.code with
      | none => rfl
      | some code =>
        rw [hone, htwo] at hbyte
        rw [htwo] at hsecond
        exact absurd (congrArg some hbyte.symm) hsecond
    | some code =>
      cases htwo : second.code with
      | none =>
        rw [hone, htwo] at hbyte
        rw [hone] at hfirst
        exact absurd (congrArg some hbyte) hfirst
      | some other =>
        rw [hone, htwo] at hbyte
        exact congrArg some hbyte
  cases first
  cases second
  simp_all

/-- A group is a text between four blanks and two newlines that trimming removes. What stands
between starts with a word and ends with the last accent. -/
theorem groupText_eq_trim {slots : List Slot} (h : slots.length = slotsPerGroup) :
    groupText slots = "    " ++ Text.trim (groupText slots) ++ "\n\n" := by
  obtain ⟨a, b, c, d, e, f, g, i, rfl⟩ := exists_eight h
  have hdigit : ∀ slot : Slot, Text.isBlank slot.digit = false := by
    intro slot
    rw [Slot.digit]
    cases slot.accent <;> decide
  obtain ⟨core, htext⟩ : ∃ core, (groupText [a, b, c, d, e, f, g, i]).toList =
      "    ".toList ++ ('b' :: (core ++ [i.digit]) ++ "\n\n".toList) := by
    refine ⟨("yte " ++ decimal a.byte.toNat ++ ", " ++ decimal b.byte.toNat ++ "\n" ++
      pairLines [c, d, e, f, g, i] ++ "\n" ++ byteLine ++ "%").toList ++
      [a, b, c, d, e, f, g].map Slot.digit, ?_⟩
    rw [groupText, pairLines]
    simp [byteLine]
  have htrim : Text.trimChars (groupText [a, b, c, d, e, f, g, i]).toList =
      'b' :: (core ++ [i.digit]) := by
    have hspace : Text.isBlank ' ' = true := by decide
    have hnewline : Text.isBlank '\n' = true := by decide
    rw [htext]
    refine Text.trimChars_append (by simp [hspace]) (by simp [hnewline]) ?_ ?_
    · intro start hstart
      cases hstart
      decide
    · intro last hlast
      rw [← List.cons_append, List.getLast?_append, List.getLast?_singleton, Option.some_or,
        Option.mem_some_iff] at hlast
      exact hlast ▸ hdigit i
  apply String.toList_injective
  rw [Text.trim, htrim, htext]
  simp

/-- Groups whose trimmed texts are equal have equal texts. -/
theorem groupText_eq_of_trim_eq {first second : List Slot} (hfirst : first.length = slotsPerGroup)
    (hsecond : second.length = slotsPerGroup)
    (h : Text.trim (groupText first) = Text.trim (groupText second)) :
    groupText first = groupText second := by
  rw [groupText_eq_trim hfirst, groupText_eq_trim hsecond, h]

end Readback

/-! ### Groups that can be played -/

/-- A group that can be played: eight slots, none of which plays the code for a rest. -/
structure IsGroup (slots : List Slot) : Prop where
  length : slots.length = slotsPerGroup
  code : ∀ slot ∈ slots, slot.code ≠ some restCode

/-- Of groups that can be played, the codes and accents determine the group. -/
theorem IsGroup.eq_of_map_heard_eq {first second : List Slot} (hfirst : IsGroup first)
    (hsecond : IsGroup second) (h : first.map Readback.heard = second.map Readback.heard) :
    first = second := by
  have hlength : first.length = second.length := hfirst.length.trans hsecond.length.symm
  refine List.ext_getElem hlength fun place hone htwo ↦ ?_
  have hheard := List.getElem_of_eq h (by simpa using hone)
  rw [List.getElem_map, List.getElem_map] at hheard
  exact Readback.eq_of_heard_eq (hfirst.code _ (List.getElem_mem hone))
    (hsecond.code _ (List.getElem_mem htwo)) hheard

/-- Groups that can be played and have the same text, blanks at the ends apart, are the same. -/
theorem IsGroup.eq_of_trim_eq {first second : List Slot} (hfirst : IsGroup first)
    (hsecond : IsGroup second)
    (h : Text.trim (groupText first) = Text.trim (groupText second)) : first = second :=
  hfirst.eq_of_map_heard_eq hsecond (Readback.map_heard_eq_of_groupText_eq hfirst.length
    hsecond.length (Readback.groupText_eq_of_trim_eq hfirst.length hsecond.length h))

end StepSequencer
