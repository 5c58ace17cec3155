import StepSequencer.Json.Reader
import StepSequencer.Proofs.Json.Parts
import StepSequencer.Proofs.Outcomes

/-!
# Values are read as they are written

`Layout.text` is the text of a value in a layout; the compact and the pretty text are two cases of
it (`compactText_eq`, `prettyText_eq`). `takes_readValue` reads such a text back, by induction on
the value along with its elements and members. What comes back is the canonical form of the value,
because the reader keeps the members of an object in increasing order of the key.
`readLeaf` is what the reader does, at every depth, with a value that is neither an array nor an
object (`readValue_leaf`).

A value can be read back if its integers have 64 bits and its arrays and objects do not nest too
deep (`Value.Within`).
-/

set_option autoImplicit false
set_option relaxedAutoImplicit false

namespace StepSequencer.Json

/-! ### Texts in a layout -/

mutual

/-- The text of a value in a layout, at a level. -/
def Layout.text (layout : Layout) (level : Nat) : Value → List Char
  | .null => nullText
  | .bool b => boolText b
  | .number n => numberText n
  | .string s => stringText s
  | .array elements => '[' :: layout.enclosed level ']' (layout.elementTexts (level + 1) elements)
  | .object members => '{' :: layout.enclosed level '}' (layout.memberTexts (level + 1) members)

/-- The texts of some values. -/
def Layout.elementTexts (layout : Layout) (level : Nat) : List Value → List (List Char)
  | [] => []
  | value :: rest => layout.text level value :: layout.elementTexts level rest

/-- The texts of some members. -/
def Layout.memberTexts (layout : Layout) (level : Nat) :
    List (String × Value) → List (List Char)
  | [] => []
  | (key, value) :: rest =>
    (stringText key ++ ':' :: (layout.colon ++ layout.text level value)) ::
      layout.memberTexts level rest

end

mutual

/-- The compact printer writes values in the compact layout. -/
theorem compactText_eq (level : Nat) :
    ∀ value, compactText value = Layout.compact.text level value
  | .null => rfl
  | .bool _ => rfl
  | .number _ => rfl
  | .string _ => rfl
  | .array elements => by
    rw [compactText, Layout.text, compactElements_eq (level + 1) elements, List.cons_append,
      separated_comma_compact]
  | .object members => by
    rw [compactText, Layout.text, compactMembers_eq (level + 1) members, List.cons_append,
      separated_comma_compact]

theorem compactElements_eq (level : Nat) :
    ∀ elements, compactElements elements = Layout.compact.elementTexts level elements
  | [] => rfl
  | value :: rest => by
    rw [compactElements, Layout.elementTexts, compactText_eq level value,
      compactElements_eq level rest]

theorem compactMembers_eq (level : Nat) :
    ∀ members, compactMembers members = Layout.compact.memberTexts level members
  | [] => rfl
  | (key, value) :: rest => by
    rw [compactMembers, Layout.memberTexts, compactText_eq level value,
      compactMembers_eq level rest]
    rfl

end

mutual

/-- The pretty printer writes values in the pretty layout. -/
theorem prettyText_eq (level : Nat) :
    ∀ value, prettyText level value = Layout.pretty.text level value
  | .null => rfl
  | .bool _ => rfl
  | .number _ => rfl
  | .string _ => rfl
  | .array elements => by
    rw [prettyText, Layout.text, prettyElements_eq (level + 1) elements, bracketed_eq]
  | .object members => by
    rw [prettyText, Layout.text, prettyMembers_eq (level + 1) members, bracketed_eq]

theorem prettyElements_eq (level : Nat) :
    ∀ elements, prettyElements level elements = Layout.pretty.elementTexts level elements
  | [] => rfl
  | value :: rest => by
    rw [prettyElements, Layout.elementTexts, prettyText_eq level value,
      prettyElements_eq level rest]

theorem prettyMembers_eq (level : Nat) :
    ∀ members, prettyMembers level members = Layout.pretty.memberTexts level members
  | [] => rfl
  | (key, value) :: rest => by
    rw [prettyMembers, Layout.memberTexts, prettyText_eq level value,
      prettyMembers_eq level rest]
    rfl

end

/-! ### Values that can be read back -/

mutual

/-- The integers have 64 bits, no number is a fraction, and arrays and objects nest at most to a
depth. -/
def Value.Within (depth : Nat) : Value → Prop
  | .number (.integer n) => -0x8000000000000000 ≤ n ∧ n < 0x10000000000000000
  | .number (.float _) => False
  | .array elements => 0 < depth ∧ ElementsWithin (depth - 1) elements
  | .object members => 0 < depth ∧ MembersWithin (depth - 1) members
  | _ => True

/-- All elements can be read back. -/
def ElementsWithin (depth : Nat) : List Value → Prop
  | [] => True
  | value :: rest => value.Within depth ∧ ElementsWithin depth rest

/-- The values of all members can be read back. -/
def MembersWithin (depth : Nat) : List (String × Value) → Prop
  | [] => True
  | (_, value) :: rest => value.Within depth ∧ MembersWithin depth rest

end

theorem elementsWithin_iff {depth : Nat} {elements : List Value} :
    ElementsWithin depth elements ↔ ∀ value ∈ elements, value.Within depth := by
  induction elements with
  | nil => simp [ElementsWithin]
  | cons value rest ih => rw [ElementsWithin, ih, List.forall_mem_cons]

theorem membersWithin_iff {depth : Nat} {members : List (String × Value)} :
    MembersWithin depth members ↔ ∀ member ∈ members, member.2.Within depth := by
  induction members with
  | nil => simp [MembersWithin]
  | cons member rest ih => rw [MembersWithin, ih, List.forall_mem_cons]

/-! ### Reading values -/

theorem ne_of_isDigit {c d : Char} (hc : c.isDigit = true) (hd : d.isDigit = false) : c ≠ d := by
  rintro rfl
  rw [hc] at hd
  cases hd

theorem exists_toDigits_eq_cons (n : Nat) :
    ∃ d digits, Nat.toDigits 10 n = d :: digits ∧ d.isDigit = true := by
  obtain ⟨d, digits, heq⟩ := List.exists_cons_of_ne_nil (Nat.toDigits_ne_nil (n := n) (b := 10))
  have hmem : d ∈ Nat.toDigits 10 n := heq ▸ List.mem_cons_self
  exact ⟨d, digits, heq, Nat.isDigit_of_mem_toDigits (by omega) (by omega) hmem⟩

/-- Blanks before a value are skipped. -/
theorem readValue_congr (depth : Nat) {c d : Cursor} (h : c.skipGaps = d.skipGaps) :
    readValue depth c = readValue depth d := by
  rw [readValue.eq_def, readValue.eq_def]
  simp only [h]

/-- Blanks before a value are skipped. -/
theorem readValue_append {gap : List Char} (hgap : Blank gap) (depth : Nat) (rest : List Char)
    (offset : Nat) :
    readValue depth ⟨gap ++ rest, offset⟩ = readValue depth ⟨rest, offset + gap.length⟩ :=
  readValue_congr depth (skipGaps_blank_append hgap rest offset)

/-- Reads a value that a character starts which opens neither an array nor an object. -/
def readLeaf (x : Char) (c : Cursor) : Reading Value :=
  if x = 'n' then (readWord ['u', 'l', 'l'] (c.drop 1)).map fun c ↦ (.null, c)
  else if x = 't' then (readWord ['r', 'u', 'e'] (c.drop 1)).map fun c ↦ (.bool true, c)
  else if x = 'f' then (readWord ['a', 'l', 's', 'e'] (c.drop 1)).map fun c ↦ (.bool false, c)
  else if x = '-' then
    (readNumeral true (c.drop 1)).map fun result ↦ (.number result.1, result.2)
  else if x.isDigit then (readNumeral false c).map fun result ↦ (.number result.1, result.2)
  else if x = '"' then (readString (c.drop 1)).map fun result ↦ (.string result.1, result.2)
  else .error (c.ahead .expectedValue)

/-- Such a value is read at every depth alike. -/
theorem readValue_leaf (depth : Nat) {x : Char} (hgap : Cursor.isGap x = false)
    (hbracket : x ≠ '[') (hbrace : x ≠ '{') (tail : List Char) (offset : Nat) :
    readValue depth ⟨x :: tail, offset⟩ = readLeaf x ⟨x :: tail, offset⟩ := by
  rw [readValue.eq_def]
  simp only [skipGaps_cons hgap, if_neg hbracket, if_neg hbrace, readLeaf, map_eq_bind]
  rfl

theorem readValue_null (depth : Nat) (tail : List Char) (offset : Nat) :
    readValue depth ⟨'n' :: tail, offset⟩ =
      (readWord ['u', 'l', 'l'] ⟨tail, offset + 1⟩).map fun c ↦ (.null, c) :=
  readValue_leaf depth (by decide) (by decide) (by decide) tail offset

theorem readValue_true (depth : Nat) (tail : List Char) (offset : Nat) :
    readValue depth ⟨'t' :: tail, offset⟩ =
      (readWord ['r', 'u', 'e'] ⟨tail, offset + 1⟩).map fun c ↦ (.bool true, c) :=
  readValue_leaf depth (by decide) (by decide) (by decide) tail offset

theorem readValue_false (depth : Nat) (tail : List Char) (offset : Nat) :
    readValue depth ⟨'f' :: tail, offset⟩ =
      (readWord ['a', 'l', 's', 'e'] ⟨tail, offset + 1⟩).map fun c ↦ (.bool false, c) :=
  readValue_leaf depth (by decide) (by decide) (by decide) tail offset

theorem takes_readValue_null (depth : Nat) : Takes (readValue depth) nullText .null := by
  intro rest offset _
  rw [nullText, List.cons_append, readValue_null]
  exact ⟨_, rfl⟩

theorem takes_readValue_bool (depth : Nat) (b : Bool) :
    Takes (readValue depth) (boolText b) (.bool b) := by
  intro rest offset _
  cases b with
  | true =>
    rw [boolText, if_pos rfl, List.cons_append, readValue_true]
    exact ⟨_, rfl⟩
  | false =>
    rw [boolText, if_neg (by decide), List.cons_append, readValue_false]
    exact ⟨_, rfl⟩

/-- A string is read as it was written, with both quotes. -/
theorem readString_stringText (s : String) (rest : List Char) (offset : Nat) :
    ∃ final, readString (Cursor.drop 1 ⟨stringText s ++ rest, offset⟩) =
      .ok (s, ⟨rest, final⟩) := by
  obtain ⟨final, hread⟩ := readString_flatMap s rest (offset + 1)
  refine ⟨final, ?_⟩
  rw [← hread, stringText]
  simp [Cursor.drop]

theorem readValue_quote (depth : Nat) (tail : List Char) (offset : Nat) :
    readValue depth ⟨'"' :: tail, offset⟩ =
      (readString ⟨tail, offset + 1⟩).map fun result ↦ (.string result.1, result.2) :=
  readValue_leaf depth (by decide) (by decide) (by decide) tail offset

/-- A string is read back from its text. -/
theorem takes_readValue_string (depth : Nat) (s : String) :
    Takes (readValue depth) (stringText s) (.string s) := by
  intro rest offset _
  obtain ⟨final, hread⟩ := readString_flatMap s rest (offset + 1)
  refine ⟨final, ?_⟩
  rw [stringText, List.cons_append, List.cons_append, List.append_assoc, List.singleton_append,
    readValue_quote, hread]
  rfl

theorem readValue_minus (depth : Nat) (tail : List Char) (offset : Nat) :
    readValue depth ⟨'-' :: tail, offset⟩ =
      (readNumeral true ⟨tail, offset + 1⟩).map fun result ↦ (.number result.1, result.2) :=
  readValue_leaf depth (by decide) (by decide) (by decide) tail offset

/-- A numeral without a sign is read where a digit stands. -/
theorem readValue_digit (depth : Nat) {d : Char} (hd : d.isDigit = true) (tail : List Char)
    (offset : Nat) :
    readValue depth ⟨d :: tail, offset⟩ =
      (readNumeral false ⟨d :: tail, offset⟩).map fun result ↦ (.number result.1, result.2) := by
  have hgap : Cursor.isGap d = false := by
    simp [Cursor.isGap, ne_of_isDigit hd]
  have hne : ∀ e : Char, e.isDigit = false → ¬ d = e := fun e he ↦ ne_of_isDigit hd he
  rw [readValue_leaf depth hgap (hne '[' (by decide)) (hne '{' (by decide)), readLeaf,
    if_neg (hne 'n' (by decide)), if_neg (hne 't' (by decide)), if_neg (hne 'f' (by decide)),
    if_neg (hne '-' (by decide)), if_pos hd]

/-- An integer of 64 bits is read back from its numeral. -/
theorem takes_readValue_integer (depth : Nat) {n : Int}
    (hn : -0x8000000000000000 ≤ n ∧ n < 0x10000000000000000) :
    Takes (readValue depth) (intText n) (.number (.integer n)) := by
  intro rest offset hrest
  cases n with
  | ofNat n =>
    have hlimit : n < wordLimit := Int.ofNat_lt.mp hn.2
    have hread := readNumeral_toDigits false hlimit hrest offset
    obtain ⟨d, digits, heq, hd⟩ := exists_toDigits_eq_cons n
    rw [intText, heq, List.cons_append, readValue_digit depth hd, ← List.cons_append, ← heq, hread]
    exact ⟨_, rfl⟩
  | negSucc n =>
    have hlow : n + 1 ≤ 0x8000000000000000 := by omega
    have hlimit : n + 1 < wordLimit := Nat.lt_of_le_of_lt hlow (by decide)
    have hread := readNumeral_toDigits true hlimit hrest (offset + 1)
    have hwhole : ∀ c, wholeNumber true (n + 1) c = .ok (.integer (.negSucc n), c) := by
      intro c
      rw [wholeNumber, if_neg (by decide), if_neg (by omega)]
      rfl
    rw [hwhole] at hread
    rw [intText, List.cons_append, readValue_minus, hread]
    exact ⟨_, rfl⟩

/-! ### Arrays and objects -/

theorem startsValue_of_isDigit {c : Char} (hc : c.isDigit = true) : StartsValue c := by
  constructor
  · simp [Cursor.isGap, ne_of_isDigit hc]
  · exact ne_of_isDigit hc (by decide)

/-- A text starts with a character that starts a value. -/
theorem Layout.starts_text (layout : Layout) (level : Nat) {depth : Nat} {value : Value}
    (h : value.Within depth) : Starts StartsValue (layout.text level value) := by
  cases value with
  | null => exact ⟨_, _, rfl, by decide⟩
  | bool b => cases b <;> exact ⟨_, _, rfl, by decide⟩
  | string s => exact ⟨_, _, rfl, by decide⟩
  | array elements => exact ⟨_, _, rfl, by decide⟩
  | object members => exact ⟨_, _, rfl, by decide⟩
  | number n =>
    cases n with
    | float x => cases h
    | integer n =>
      cases n with
      | negSucc n => exact ⟨_, _, rfl, by decide⟩
      | ofNat n =>
        obtain ⟨d, digits, heq, hd⟩ := exists_toDigits_eq_cons n
        exact ⟨d, digits, heq, startsValue_of_isDigit hd⟩

theorem readValue_bracket (depth : Nat) (tail : List Char) (offset : Nat) :
    readValue (depth + 1) ⟨'[' :: tail, offset⟩ =
      (readElements (pushElement (readValue depth)) [] ⟨tail, offset + 1⟩).map fun result ↦
        (.array result.1.reverse, result.2) := by
  rw [readValue.eq_def, map_eq_bind]
  rfl

theorem readValue_brace (depth : Nat) (tail : List Char) (offset : Nat) :
    readValue (depth + 1) ⟨'{' :: tail, offset⟩ =
      (readMembers (putMember (readValue depth)) [] ⟨tail, offset + 1⟩).map fun result ↦
        (.object result.1, result.2) := by
  rw [readValue.eq_def, map_eq_bind]
  rfl

/-- An element is read and put before those read so far. -/
theorem reads_pushElement {α : Type} {item : Cursor → Reading α} {text : List Char}
    {result : Option α} (h : Reads item text result) (elements : List α) :
    Reads (pushElement item elements) text (result.map (· :: elements)) := by
  intro rest offset hrest
  have hreturns := h rest offset hrest
  cases result with
  | none =>
    obtain ⟨fault, hread⟩ := hreturns
    exact ⟨fault, by rw [pushElement, hread]⟩
  | some a =>
    obtain ⟨final, hread⟩ := hreturns
    exact ⟨final, by rw [pushElement, hread]⟩

theorem readColon_cons (rest : List Char) (offset : Nat) :
    readColon ⟨':' :: rest, offset⟩ = .ok ⟨rest, offset + 1⟩ := by
  rw [readColon, skipGaps_cons (by decide)]
  rfl

/-- A member is read as a key, a colon and what the reader of its value takes. -/
theorem takes_putMember {α : Type} {item : Cursor → Reading α} {text : List Char} {a : α}
    (h : Takes item text a) (key : String) (members : List (String × α)) :
    Takes (putMember item members) (stringText key ++ ':' :: text)
      (insertMember key a members) := by
  intro rest offset hrest
  obtain ⟨middle, hkey⟩ := readString_stringText key (':' :: text ++ rest) offset
  obtain ⟨final, hread⟩ := h rest (middle + 1) hrest
  refine ⟨final, ?_⟩
  rw [List.append_assoc, putMember, hkey]
  simp only [bind, Except.bind, List.cons_append, readColon_cons, hread]
  rfl

mutual

/-- A value is read as it was written, with the members of its objects in order. Elements are read
with the last one first and members into their place among those before, so what was read before
is a parameter of both inductions. -/
theorem takes_readValue (layout : Layout) (level depth : Nat) :
    ∀ value : Value, value.Within depth →
      Takes (readValue depth) (layout.text level value) value.canonical
  | .null, _ => takes_readValue_null depth
  | .bool b, _ => takes_readValue_bool depth b
  | .string s, _ => takes_readValue_string depth s
  | .number (.integer _), h => takes_readValue_integer depth h
  | .number (.float _), h => h.elim
  | .array elements, h => by
    obtain ⟨inner, rfl⟩ := Nat.exists_eq_add_one_of_ne_zero (Nat.ne_zero_of_lt h.1)
    have hruns := runsOver_elementTexts layout (level + 1) inner elements h.2 []
    intro rest offset hrest
    obtain ⟨final, hread⟩ := guides_nextElement.reads_enclosed hruns
      (layout.enclosed_eq level ']' _) rest (offset + 1) hrest
    refine ⟨final, ?_⟩
    rw [Layout.text, List.cons_append, readValue_bracket, readElements_eq, hread]
    simp [Except.map, Value.canonical]
  | .object members, h => by
    obtain ⟨inner, rfl⟩ := Nat.exists_eq_add_one_of_ne_zero (Nat.ne_zero_of_lt h.1)
    have hruns := runsOver_memberTexts layout (level + 1) inner members h.2 []
    intro rest offset hrest
    obtain ⟨final, hread⟩ := guides_nextKey.reads_enclosed hruns
      (layout.enclosed_eq level '}' _) rest (offset + 1) hrest
    refine ⟨final, ?_⟩
    rw [Layout.text, List.cons_append, readValue_brace, readMembers_eq, hread]
    rfl

/-- The elements of an array are read back one after the other. -/
theorem runsOver_elementTexts (layout : Layout) (level depth : Nat) :
    ∀ elements : List Value, ElementsWithin depth elements → ∀ before : List Value,
      RunsOver (pushElement (readValue depth)) StartsValue before
        ((layout.elementTexts level elements).map (layout.line level ++ ·))
        (some ((canonicalAll elements).reverse ++ before))
  | [], _, before => .nil before
  | value :: rest, h, before => by
    have htakes : Reads (readValue depth) (layout.text level value) (some value.canonical) :=
      takes_readValue layout level depth value h.1
    have hvalue := reads_pushElement htakes before
    have hrest := runsOver_elementTexts layout level depth rest h.2 (value.canonical :: before)
    rw [Layout.elementTexts, List.map_cons, canonicalAll, List.reverse_cons, List.append_assoc,
      List.singleton_append]
    exact .takes (layout.padded_line level ⟨layout.starts_text level h.1, hvalue⟩) hrest

/-- The members of an object are read back one after the other, into their canonical order. -/
theorem runsOver_memberTexts (layout : Layout) (level depth : Nat) :
    ∀ members : List (String × Value), MembersWithin depth members →
      ∀ before : List (String × Value),
        RunsOver (putMember (readValue depth)) (· = '"') before
          ((layout.memberTexts level members).map (layout.line level ++ ·))
          (some ((canonicalMembers members).foldl
            (fun sorted member ↦ insertMember member.1 member.2 sorted) before))
  | [], _, before => .nil before
  | (key, value) :: rest, h, before => by
    have hvalue := takes_readValue layout level depth value h.1
    have hgapped : Takes (readValue depth) (layout.colon ++ layout.text level value)
        value.canonical := by
      intro after offset hafter
      rw [List.append_assoc, readValue_append layout.blank_colon]
      exact hvalue after _ hafter
    have hmember := takes_putMember hgapped key before
    have hrest := runsOver_memberTexts layout level depth rest h.2
      (insertMember key value.canonical before)
    exact .takes (layout.padded_line level ⟨⟨'"', _, rfl, rfl⟩, hmember⟩) hrest

end

/-! ### Documents -/

/-- The text of a value in any layout is read as the canonical form of the value. -/
theorem parse_text (layout : Layout) {value : Value} (h : value.Within maxDepth) :
    parse (String.ofList (layout.text 0 value)) = .ok value.canonical := by
  obtain ⟨final, hread⟩ := takes_readValue layout 0 maxDepth value h [] 0 ends_nil
  rw [List.append_nil] at hread
  have hstart : Cursor.ofString (String.ofList (layout.text 0 value)) =
      ⟨layout.text 0 value, 0⟩ := by
    rw [Cursor.ofString, String.toList_ofList]
  rw [parse, hstart, hread]
  rfl

/-- A value is read back from its compact text, in its canonical form. -/
theorem parse_compact {value : Value} (h : value.Within maxDepth) :
    parse value.compact = .ok value.canonical := by
  rw [Value.compact, compactText_eq 0]
  exact parse_text .compact h

/-- A value is read back from its pretty text, in its canonical form. -/
theorem parse_pretty {value : Value} (h : value.Within maxDepth) :
    parse value.pretty = .ok value.canonical := by
  rw [Value.pretty, prettyText_eq 0]
  exact parse_text .pretty h

end StepSequencer.Json
