import Mathlib.Data.List.Sort
import StepSequencer.Proofs.Tone.Readers

/-!
# Note tables are read as they are written

The readers of a tone, of percussion codes and of a table each give back what was written, in
every layout: a record is read field by field, and percussion codes come in increasing order of
their sounds, so each one is put behind those before it (`insertEntry_of_forall_lt`).

A sound stands in the text as its decimal numeral, and the sounds stand in increasing order:
`entries_eq_filterMap` finds the entries by looking up one sound after the other.
-/

set_option autoImplicit false
set_option relaxedAutoImplicit false

namespace StepSequencer

open Json (Value Cursor Reading Layout Takes RunsOver stringText)

/-! ### Percussion codes by their sounds -/

/-- A code for a sound behind all others is put at the end. -/
theorem insertEntry_of_forall_lt {sound code : UInt8} {entries : List (UInt8 × UInt8)}
    (h : ∀ entry ∈ entries, entry.1 < sound) :
    insertEntry sound code entries = entries ++ [(sound, code)] := by
  induction entries with
  | nil => rfl
  | cons entry rest ih =>
    have hlt : entry.1 < sound := h entry List.mem_cons_self
    have hrest := ih fun other hother ↦ h other (List.mem_cons_of_mem entry hother)
    rw [insertEntry, if_neg (UInt8.lt_asymm hlt), if_neg (UInt8.ne_of_lt hlt).symm, hrest,
      List.cons_append]

namespace Percussion

theorem get?_eq_some_iff (percussion : Percussion) (sound code : UInt8) :
    percussion.get? sound = some code ↔ (sound, code) ∈ percussion.entries := by
  obtain ⟨entries, hincreasing⟩ := percussion
  rw [get?]
  induction entries with
  | nil => simp
  | cons entry rest ih =>
    obtain ⟨hentry, hrest⟩ := List.pairwise_cons.mp hincreasing
    by_cases hsound : entry.1 = sound
    · have hlater : (sound, code) ∉ rest := by
        intro hmem
        have hlt := hentry (sound, code) hmem
        exact UInt8.ne_of_lt hlt hsound
      rw [List.find?_cons_of_pos (by simpa using hsound), List.mem_cons,
        or_iff_left hlater, Option.map_some, Option.some.injEq, Prod.ext_iff]
      exact ⟨fun hcode ↦ ⟨hsound.symm, hcode.symm⟩, fun heq ↦ heq.2.symm⟩
    · have hne : (sound, code) ≠ entry := fun heq ↦ hsound (heq ▸ rfl)
      rw [List.find?_cons_of_neg (by simpa using hsound), ih hrest, List.mem_cons,
        or_iff_right hne]

/-- The entries are what is found when the sounds are looked up from 0 to 255. -/
theorem entries_eq_filterMap (percussion : Percussion) :
    percussion.entries = (List.range 256).filterMap fun sound ↦
      (percussion.get? (.ofNat sound)).map fun code ↦ (.ofNat sound, code) := by
  have hfound : ((List.range 256).filterMap fun sound ↦
      (percussion.get? (.ofNat sound)).map fun code ↦ (UInt8.ofNat sound, code)).Pairwise
        fun first second ↦ first.1 < second.1 := by
    rw [List.pairwise_filterMap]
    refine List.pairwise_lt_range.imp_of_mem fun {first second} _ hsecond hlt entry hentry
      later hlater ↦ ?_
    rw [Option.map_eq_some_iff] at hentry hlater
    obtain ⟨_, -, rfl⟩ := hentry
    obtain ⟨_, -, rfl⟩ := hlater
    have hbyte : second < UInt8.size := List.mem_range.mp hsecond
    rw [UInt8.lt_iff_toNat_lt, UInt8.toNat_ofNat_of_lt' (Nat.lt_trans hlt hbyte),
      UInt8.toNat_ofNat_of_lt' hbyte]
    exact hlt
  have hirrefl : Std.Irrefl fun first second : UInt8 × UInt8 ↦ first.1 < second.1 :=
    ⟨fun entry ↦ UInt8.lt_irrefl entry.1⟩
  have hantisymm : Std.Antisymm fun first second : UInt8 × UInt8 ↦ first.1 < second.1 :=
    ⟨fun _ _ hlt hgt ↦ absurd hgt (UInt8.lt_asymm hlt)⟩
  refine percussion.increasing.eq_of_mem_iff hfound fun entry ↦ ?_
  simp only [List.mem_filterMap, List.mem_range, Option.map_eq_some_iff, get?_eq_some_iff]
  constructor
  · intro hmem
    refine ⟨entry.1.toNat, entry.1.toNat_lt, entry.2, ?_, ?_⟩ <;> simp [hmem]
  · rintro ⟨sound, -, code, hmem, rfl⟩
    exact hmem

/-- The members of the object of percussion codes: for each sound from 0 to 255 that has a code,
the sound in quotes and the code. -/
def memberTexts (percussion : Percussion) : List String :=
  (List.range 256).filterMap fun sound ↦
    (percussion.get? (.ofNat sound)).map fun code ↦
      "\"" ++ Nat.repr sound ++ "\":" ++ Nat.repr code.toNat

end Percussion

/-! ### Sounds as keys -/

theorem charText_of_isDigit {c : Char} (h : c.isDigit = true) : Json.charText c = [c] := by
  have hne : ∀ d : Char, d.isDigit = false → c ≠ d := fun d hd ↦ Json.ne_of_isDigit h hd
  have hcode : ¬c.toNat < 0x20 := by
    have hzero : 48 ≤ c.toNat := (Char.isDigit_iff_toNat.mp h).1
    omega
  rw [Json.charText, if_neg (hne _ (by decide)), if_neg (hne _ (by decide)),
    if_neg (hne _ (by decide)), if_neg (hne _ (by decide)), if_neg (hne _ (by decide)),
    if_neg (hne _ (by decide)), if_neg (hne _ (by decide)), if_neg hcode]

/-- A numeral in quotes has nothing to escape. -/
theorem stringText_decimal (n : Nat) :
    stringText (Json.decimal n) = '"' :: (Nat.toDigits 10 n ++ ['"']) := by
  have hplain : (Nat.toDigits 10 n).flatMap Json.charText = Nat.toDigits 10 n := by
    have hchars : ∀ c ∈ Nat.toDigits 10 n, Json.charText c = [c] := fun c hc ↦
      charText_of_isDigit (Nat.isDigit_of_mem_toDigits (by omega) (by omega) hc)
    rw [List.flatMap_congr hchars, List.flatMap_singleton']
  rw [stringText, Text.toList_decimal_natCast, hplain, List.cons_append]

theorem compactMembers_eq_map (members : List (String × Value)) :
    Json.compactMembers members =
      members.map fun member ↦ stringText member.1 ++ ':' :: Json.compactText member.2 := by
  induction members with
  | nil => rfl
  | cons member rest ih => rw [Json.compactMembers, ih, List.map_cons]

theorem separated_eq_intercalate (separator : List Char) (texts : List (List Char)) :
    Json.separated separator texts = separator.intercalate texts := by
  induction texts with
  | nil => rfl
  | cons text rest ih =>
    cases rest with
    | nil => simp [Json.separated, List.intercalate]
    | cons next rest =>
      rw [Json.separated, ih]
      simp [List.intercalate]

namespace Percussion

/-- The members of a percussion table are its entries, in order. -/
theorem memberTexts_eq_map (percussion : Percussion) :
    percussion.memberTexts = percussion.entries.map fun entry ↦
      "\"" ++ Nat.repr entry.1.toNat ++ "\":" ++ Nat.repr entry.2.toNat := by
  rw [entries_eq_filterMap, List.map_filterMap, memberTexts]
  refine List.filterMap_congr fun sound hsound ↦ ?_
  have hbyte : sound < UInt8.size := List.mem_range.mp hsound
  simp only [Option.map_map, Function.comp_def, UInt8.toNat_ofNat_of_lt' hbyte]

/-- The text of a percussion table is its members between braces. -/
theorem compactText_encode (percussion : Percussion) :
    Json.compactText percussion.encode =
      '{' :: List.intercalate [','] (percussion.memberTexts.map String.toList) ++ ['}'] := by
  have htexts : Json.compactMembers (percussion.entries.map fun entry ↦
      (Json.decimal entry.1.toNat, byteValue entry.2)) =
        percussion.memberTexts.map String.toList := by
    rw [compactMembers_eq_map, memberTexts_eq_map, List.map_map, List.map_map]
    refine List.map_congr_left fun entry _ ↦ ?_
    simp [stringText_decimal, byteValue, Value.ofInt, Json.compactText, Json.numberText,
      Json.intText, Nat.repr]
  rw [encode, Json.compactText, htexts, separated_eq_intercalate]

end Percussion

/-! ### Reading percussion codes -/

variable {layout : Layout}

namespace Percussion

/-- A sound is read back from its key. -/
theorem readKey_decimal (sound : UInt8) (rest : List Char) (offset : Nat) :
    ∃ final, readKey ⟨stringText (Json.decimal sound.toNat) ++ rest, offset⟩ =
      .ok (sound, ⟨rest, final⟩) := by
  obtain ⟨final, hread⟩ := takes_readByte sound ('"' :: rest) (offset + 1)
    (Json.ends_cons (by decide) (by decide))
  obtain ⟨d, digits, heq, hdigit⟩ := Json.exists_toDigits_eq_cons sound.toNat
  refine ⟨final + 1, ?_⟩
  rw [heq] at hread
  have htext : stringText (Json.decimal sound.toNat) ++ rest =
      '"' :: (d :: digits ++ '"' :: rest) := by
    rw [stringText_decimal, heq]
    simp
  have hdrop : Cursor.drop 1 ⟨'"' :: (d :: digits ++ '"' :: rest), offset⟩ =
      ⟨d :: digits ++ '"' :: rest, offset + 1⟩ := rfl
  rw [htext, readKey, hdrop]
  simp only [List.cons_append] at hread ⊢
  rw [if_pos (.inr hdigit), hread]
  rfl

/-- A member is read and put into the table. -/
theorem takes_readMember (percussion : Percussion) (sound code : UInt8) (level : Nat) :
    Takes percussion.readMember
      (memberText layout level (Json.decimal sound.toNat) (byteValue code))
      (percussion.insert sound code) := by
  intro rest offset hrest
  rw [memberText, List.append_assoc, List.cons_append]
  obtain ⟨middle, hkey⟩ := readKey_decimal sound
    (':' :: (layout.colon ++ layout.text level (byteValue code) ++ rest)) offset
  have hback : ReadsBack layout readByte (byteValue code) code := readsBack_readByte code
  obtain ⟨final, hcode⟩ := hback.takes level layout.blank_colon rest (middle + 1) hrest
  refine ⟨final, ?_⟩
  rw [readMember, hkey]
  simp only [bind, Except.bind, Json.readColon_cons, hcode]
  rfl

/-- Codes in increasing order of their sounds are put one behind the other. The codes read so far go
along in the induction, because the next sound has to be behind all of theirs. -/
theorem runsOver_readMember (level : Nat) (rest : List (UInt8 × UInt8)) (percussion : Percussion)
    (h : (percussion.entries ++ rest).Pairwise fun first second ↦ first.1 < second.1) :
    RunsOver readMember (· = '"') percussion
      ((layout.memberTexts level (rest.map fun entry ↦
        (Json.decimal entry.1.toNat, byteValue entry.2))).map (layout.line level ++ ·))
      (some ⟨percussion.entries ++ rest, h⟩) := by
  induction rest generalizing percussion with
  | nil =>
    simp only [List.append_nil]
    exact .nil percussion
  | cons entry rest ih =>
    have hentries : (percussion.insert entry.1 entry.2).entries = percussion.entries ++ [entry] :=
      insertEntry_of_forall_lt fun earlier hearlier ↦
        (List.pairwise_append.mp h).2.2 earlier hearlier entry List.mem_cons_self
    have hlist : (percussion.insert entry.1 entry.2).entries ++ rest =
        percussion.entries ++ entry :: rest := by
      rw [hentries, List.append_assoc, List.singleton_append]
    have hrest := ih (percussion.insert entry.1 entry.2) (hlist ▸ h)
    simp only [hlist] at hrest
    exact runsOver_member (takes_readMember percussion entry.1 entry.2 level) hrest

theorem readsBack_read (percussion : Percussion) :
    ReadsBack layout read percussion.encode percussion := by
  refine .ofObject (fun h ↦ by rw [read, read, h])
    (fun level ↦ runsOver_readMember level percussion.entries {} percussion.increasing) ?_
  intro tail offset c hread
  exact hread

end Percussion

/-! ### Reading tones and tables -/

namespace Tone

/-- The fields of a tone come one after the other, and none comes twice. -/
theorem runsOver_read (tone : Tone) (level : Nat) :
    RunsOver Draft.read (· = '"') {}
      ((layout.memberTexts level [("sound", byteValue tone.sound), ("note", .string tone.note),
        ("octave", byteValue tone.octave), ("code", byteValue tone.code)]).map
          (layout.line level ++ ·))
      (some ⟨some tone.sound, some tone.note, some tone.octave, some tone.code⟩) := by
  have hfields :
      Takes (Draft.read {}) (memberText layout level "sound" (byteValue tone.sound))
        ⟨some tone.sound, none, none, none⟩ ∧
      Takes (Draft.read ⟨some tone.sound, none, none, none⟩)
        (memberText layout level "note" (.string tone.note))
        ⟨some tone.sound, some tone.note, none, none⟩ ∧
      Takes (Draft.read ⟨some tone.sound, some tone.note, none, none⟩)
        (memberText layout level "octave" (byteValue tone.octave))
        ⟨some tone.sound, some tone.note, some tone.octave, none⟩ ∧
      Takes (Draft.read ⟨some tone.sound, some tone.note, some tone.octave, none⟩)
        (memberText layout level "code" (byteValue tone.code))
        ⟨some tone.sound, some tone.note, some tone.octave, some tone.code⟩ := by
    refine ⟨takes_newField (readsBack_readByte _) ?_, takes_newField (readsBack_readText _) ?_,
      takes_newField (readsBack_readByte _) ?_, takes_newField (readsBack_readByte _) ?_⟩
    all_goals
      intro c d e hkey hfield
      simp only [Draft.read, bind, Except.bind, hkey, hfield]
      rfl
  obtain ⟨hsound, hnote, hoctave, hcode⟩ := hfields
  exact runsOver_member hsound (runsOver_member hnote (runsOver_member hoctave
    (runsOver_member hcode (.nil _))))

theorem readsBack_read (tone : Tone) : ReadsBack layout read tone.encode tone := by
  refine .ofObject (fun h ↦ by rw [read, read, readRecord, readRecord, h])
    (runsOver_read tone) fun hread ↦ ?_
  have hobject : ∀ (tail : List Char) (offset : Nat),
      read ⟨'{' :: tail, offset⟩ = readObject ⟨tail, offset + 1⟩ := fun _ _ ↦ rfl
  rw [hobject, readObject, hread]
  rfl

end Tone

namespace NoteTable

/-- Tunings are read back from their arrays. -/
theorem readsBack_readTunings (tunings : List (List Tone)) :
    ReadsBack layout readTunings
      (.array (tunings.map fun tones ↦ .array (tones.map Tone.encode))) tunings :=
  readsBack_readList fun _ _ ↦ readsBack_readList fun tone _ ↦ tone.readsBack_read

/-- The members of a note table are read back one after the other. -/
theorem runsOver_read (table : NoteTable) (level : Nat) :
    RunsOver Draft.read (· = '"') {}
      ((layout.memberTexts level [("percussion", table.percussion.encode),
        ("tunings", .array (table.tunings.map fun tones ↦ .array (tones.map Tone.encode)))]).map
          (layout.line level ++ ·))
      (some ⟨some table.percussion, some table.tunings⟩) := by
  have hfields :
      Takes (Draft.read {}) (memberText layout level "percussion" table.percussion.encode)
        ⟨some table.percussion, none⟩ ∧
      Takes (Draft.read ⟨some table.percussion, none⟩)
        (memberText layout level "tunings"
          (.array (table.tunings.map fun tones ↦ .array (tones.map Tone.encode))))
        ⟨some table.percussion, some table.tunings⟩ := by
    refine ⟨takes_newField table.percussion.readsBack_read ?_,
      takes_newField (readsBack_readTunings table.tunings) ?_⟩
    all_goals
      intro c d e hkey hfield
      simp only [Draft.read, bind, Except.bind, hkey, hfield]
      rfl
  obtain ⟨hpercussion, htunings⟩ := hfields
  exact runsOver_member hpercussion (runsOver_member htunings (.nil _))

/-- A note table is read back as an object. -/
theorem readsBack_readRecord (table : NoteTable) :
    ReadsBack layout (readRecord "NoteTable" readObject readArray) table.encodeTable table := by
  refine .ofObject (fun h ↦ by rw [readRecord, readRecord, h])
    (runsOver_read table) fun hread ↦ ?_
  have hobject : ∀ (tail : List Char) (offset : Nat),
      readRecord "NoteTable" readObject readArray ⟨'{' :: tail, offset⟩ =
        readObject ⟨tail, offset + 1⟩ := fun _ _ ↦ rfl
  rw [hobject, readObject, hread]
  rfl

/-- The text of a table in any layout is read as the table. -/
theorem ofJson_text (layout : Layout) (table : NoteTable) :
    ofJson (String.ofList (layout.text 0 table.encodeTable)) = .ok table := by
  have hback : ReadsBack layout (readRecord "NoteTable" readObject readArray) table.encodeTable
      table := table.readsBack_readRecord
  obtain ⟨final, hread⟩ := hback.takes 0 Json.blank_nil [] 0 Json.ends_nil
  rw [List.append_nil, List.nil_append] at hread
  have hstart : Cursor.ofString (String.ofList (layout.text 0 table.encodeTable)) =
      ⟨layout.text 0 table.encodeTable, 0⟩ := by
    rw [Cursor.ofString, String.toList_ofList]
  rw [ofJson, hstart, hread]
  rfl

/-! ### The text of a table -/

/-- The text of a note table: its percussion with the sounds as keys, and its tunings. -/
theorem toJson_eq (table : NoteTable) :
    table.toJson = "\x7b\"percussion\":\x7b" ++
      String.intercalate "," table.percussion.memberTexts ++ "\x7d,\"tunings\":" ++
      (Value.array (table.tunings.map fun tones ↦ .array (tones.map Tone.encode))).compact ++
      "\x7d" := by
  have hkeys : stringText "percussion" = "\"percussion\"".toList ∧
      stringText "tunings" = "\"tunings\"".toList := by decide
  rw [toJson, encodeTable, Value.compact, Value.compact, ← String.toList_inj]
  simp only [Json.compactText, Json.compactMembers, Json.separated, String.toList_append,
    String.toList_ofList, String.toList_intercalate, hkeys, Percussion.compactText_encode]
  simp

/-- A note table survives being written and read, in every layout, and so do the codes that it
gives to the steps. The sounds with a percussion code stand in its text as decimal strings, in
increasing order. -/
theorem reload_text (table : NoteTable) :
    ofJson table.toJson = .ok table ∧
    (ofJson table.toJson).map encode = .ok table.encode ∧
    (∀ layout : Layout, ofJson (String.ofList (layout.text 0 table.encodeTable)) = .ok table) ∧
    table.toJson = "\x7b\"percussion\":\x7b" ++
      String.intercalate "," table.percussion.memberTexts ++ "\x7d,\"tunings\":" ++
      (Value.array (table.tunings.map fun tones ↦ .array (tones.map Tone.encode))).compact ++
      "\x7d" := by
  have hreload : ofJson table.toJson = .ok table := by
    rw [toJson, Value.compact, Json.compactText_eq 0]
    exact ofJson_text .compact table
  refine ⟨hreload, ?_, fun layout ↦ ofJson_text layout table, toJson_eq table⟩
  rw [hreload]
  rfl

end NoteTable

end StepSequencer
