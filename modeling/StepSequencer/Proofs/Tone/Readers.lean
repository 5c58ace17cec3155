import StepSequencer.Proofs.Json.RoundTrip
import StepSequencer.Proofs.Text.Lines
import StepSequencer.Tone.Json

/-!
# Readers that work on the text

A reader of one type moves over blanks and then over the text of a value. `ReadsBack` says that it
gives back what a value was made from, in a layout and at every level. There is one lemma for each
reader of bytes, texts and lists, and `ReadsBack.ofObject` is for readers of objects, which go from
member to member with a state (`RunsOver`).
-/

set_option autoImplicit false
set_option relaxedAutoImplicit false

namespace StepSequencer

open Json (Value Cursor Reading Layout Takes Ends Blank Starts StartsValue RunsOver stringText)

/-- The reader takes the text of the value, with blanks before it, and gives back an `a`. -/
structure ReadsBack {α : Type} (layout : Layout) (read : Cursor → Reading α) (value : Value)
    (a : α) : Prop where
  starts : ∀ level, Starts StartsValue (layout.text level value)
  takes : ∀ (level : Nat) {gap : List Char}, Blank gap →
    Takes read (gap ++ layout.text level value) a

section Readers

variable {α σ : Type} {layout : Layout}

/-- A reader that starts with skipping blanks does so whatever blanks there are. -/
theorem ReadsBack.ofSkipping {read : Cursor → Reading α} {value : Value} {a : α}
    (hskips : ∀ {c d : Cursor}, c.skipGaps = d.skipGaps → read c = read d)
    (hstarts : ∀ level, Starts StartsValue (layout.text level value))
    (htakes : ∀ level, Takes read (layout.text level value) a) :
    ReadsBack layout read value a := by
  refine ⟨hstarts, fun level gap hgap rest offset hrest ↦ ?_⟩
  obtain ⟨final, hfinal⟩ := htakes level rest (offset + gap.length) hrest
  refine ⟨final, ?_⟩
  rw [List.append_assoc, hskips (Json.skipGaps_blank_append hgap _ offset), hfinal]

/-! ### Bytes, texts and lists -/

/-- The digits of a byte are read as the byte. -/
theorem takes_readByte (n : UInt8) : Takes readByte (Nat.toDigits 10 n.toNat) n := by
  intro rest offset hrest
  have hbyte : n.toNat < 256 := n.toNat_lt
  have hlimit : n.toNat < Json.wordLimit := Nat.lt_trans hbyte (by decide)
  have hread := Json.readNumeral_toDigits false hlimit hrest offset
  obtain ⟨d, digits, heq, hdigit⟩ := Json.exists_toDigits_eq_cons n.toNat
  refine ⟨offset + (Nat.toDigits 10 n.toNat).length, ?_⟩
  rw [heq] at hread ⊢
  rw [List.cons_append] at hread ⊢
  have hgap := (Json.startsValue_of_isDigit hdigit).1
  have hminus : d ≠ '-' := Json.ne_of_isDigit hdigit (by decide)
  rw [readByte, Json.skipGaps_cons hgap]
  simp only [hminus, hdigit, or_true, if_true, if_false, decide_false, hread, Json.wholeNumber,
    Bool.not_false, bind, Except.bind]
  rw [if_pos (by omega)]
  simp [pure, Except.pure]

/-- A byte is read back from its number. -/
theorem readsBack_readByte (n : UInt8) : ReadsBack layout readByte (byteValue n) n := by
  refine .ofSkipping (fun h ↦ by rw [readByte, readByte, h]) (fun level ↦ ?_)
    fun level ↦ takes_readByte n
  obtain ⟨d, digits, heq, hdigit⟩ := Json.exists_toDigits_eq_cons n.toNat
  exact ⟨d, digits, heq, Json.startsValue_of_isDigit hdigit⟩

/-- A text is read back from its string. -/
theorem readsBack_readText (s : String) : ReadsBack layout readText (.string s) s := by
  refine .ofSkipping (fun h ↦ by rw [readText, readText, h])
    (fun level ↦ ⟨_, _, rfl, by decide⟩) ?_
  intro level rest offset _
  obtain ⟨final, hread⟩ := Json.readString_stringText s rest offset
  exact ⟨final, hread⟩

/-- The elements of an array are read one after the other, the last one first. -/
theorem runsOver_pushElement {item : Cursor → Reading α} (encode : α → Value) (level : Nat)
    (items : List α) (h : ∀ a ∈ items, ReadsBack layout item (encode a) a) (before : List α) :
    RunsOver (Json.pushElement item) StartsValue before
      ((layout.elementTexts level (items.map encode)).map (layout.line level ++ ·))
      (some (items.reverse ++ before)) := by
  induction items generalizing before with
  | nil => exact .nil before
  | cons a items ih =>
    have hback := h a List.mem_cons_self
    have htakes : Json.Reads item (layout.text level (encode a)) (some a) :=
      hback.takes level Json.blank_nil
    have hrest := ih (fun b hb ↦ h b (List.mem_cons_of_mem a hb)) (a :: before)
    rw [List.reverse_cons, List.append_assoc, List.singleton_append]
    exact .takes (layout.padded_line level
      ⟨hback.starts level, Json.reads_pushElement htakes before⟩) hrest

/-- A list is read back if every item is. -/
theorem readsBack_readList {item : Cursor → Reading α} {encode : α → Value} {items : List α}
    (h : ∀ a ∈ items, ReadsBack layout item (encode a) a) :
    ReadsBack layout (readList item) (.array (items.map encode)) items := by
  refine .ofSkipping (fun h ↦ by rw [readList, readList, h])
    (fun level ↦ ⟨_, _, rfl, by decide⟩) ?_
  intro level rest offset hrest
  have hruns := runsOver_pushElement encode (level + 1) items h []
  obtain ⟨final, hread⟩ := Json.guides_nextElement.reads_enclosed hruns
    (layout.enclosed_eq level ']' _) rest (offset + 1) hrest
  refine ⟨final, ?_⟩
  have hopen : ∀ tail, readList item ⟨'[' :: tail, offset⟩ =
      (Json.readElements (Json.pushElement item) [] ⟨tail, offset + 1⟩).map fun result ↦
        (result.1.reverse, result.2) := fun tail ↦ (map_eq_bind _ _).symm
  rw [Layout.text, List.cons_append, hopen, Json.readElements_eq, hread]
  simp [Except.map]

/-! ### Members of an object -/

/-- The text of a member in a layout. -/
def memberText (layout : Layout) (level : Nat) (key : String) (value : Value) : List Char :=
  stringText key ++ ':' :: (layout.colon ++ layout.text level value)

/-- A field that was not given before is read behind its key. -/
theorem takes_readNewField {item : Cursor → Reading α} {value : Value} {a : α}
    (h : ReadsBack layout item value a) (name : String) (level : Nat) :
    Takes (readNewField name none item) (':' :: (layout.colon ++ layout.text level value))
      (some a) := by
  intro rest offset hrest
  obtain ⟨final, hread⟩ := h.takes level layout.blank_colon rest (offset + 1) hrest
  refine ⟨final, ?_⟩
  rw [readNewField, List.cons_append, Json.readColon_cons]
  simp only [Option.isSome_none, Bool.false_eq_true, if_false, bind, Except.bind, hread]
  rfl

/-- A member whose key leads to a field that was not given before. -/
theorem takes_newField {member : Cursor → Reading σ} {next : σ} {item : Cursor → Reading α}
    {key : String} {value : Value} {a : α} {level : Nat} (h : ReadsBack layout item value a)
    (hmember : ∀ c d e : Cursor, Json.readString (c.drop 1) = .ok (key, d) →
      readNewField key none item d = .ok (some a, e) → member c = .ok (next, e)) :
    Takes member (memberText layout level key value) next := by
  intro rest offset hrest
  rw [memberText, List.append_assoc]
  obtain ⟨middle, hkey⟩ := Json.readString_stringText key
    (':' :: (layout.colon ++ layout.text level value) ++ rest) offset
  obtain ⟨final, hfield⟩ := takes_readNewField h key level rest middle hrest
  exact ⟨final, hmember _ _ _ hkey hfield⟩

theorem runsOver_member {member : σ → Cursor → Reading σ} {state next : σ} {key : String}
    {value : Value} {level : Nat} {rest : List (String × Value)} {result : Option σ}
    (hmember : Takes (member state) (memberText layout level key value) next)
    (hrest : RunsOver member (· = '"') next
      ((layout.memberTexts level rest).map (layout.line level ++ ·)) result) :
    RunsOver member (· = '"') state
      ((layout.memberTexts level ((key, value) :: rest)).map (layout.line level ++ ·)) result :=
  .takes (layout.padded_line level ⟨⟨'"', _, rfl, rfl⟩, hmember⟩) hrest

/-- A reader that goes from member to member and then gives back what the last state stands for. -/
theorem ReadsBack.ofObject {read : Cursor → Reading α} {member : σ → Cursor → Reading σ}
    {state last : σ} {members : List (String × Value)} {a : α}
    (hskips : ∀ {c d : Cursor}, c.skipGaps = d.skipGaps → read c = read d)
    (hruns : ∀ level, RunsOver member (· = '"') state
      ((layout.memberTexts level members).map (layout.line level ++ ·)) (some last))
    (hread : ∀ {tail : List Char} {offset : Nat} {c : Cursor},
      Json.readMembers member state ⟨tail, offset + 1⟩ = .ok (last, c) →
        read ⟨'{' :: tail, offset⟩ = .ok (a, c)) :
    ReadsBack layout read (.object members) a := by
  refine .ofSkipping hskips (fun level ↦ ⟨_, _, rfl, by decide⟩) ?_
  intro level rest offset hrest
  obtain ⟨final, hfinal⟩ := Json.guides_nextKey.reads_enclosed (hruns (level + 1))
    (layout.enclosed_eq level '}' _) rest (offset + 1) hrest
  refine ⟨final, ?_⟩
  rw [Layout.text, List.cons_append]
  exact hread hfinal

end Readers

end StepSequencer
