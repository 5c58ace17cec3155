import StepSequencer.Song.Basic

/-!
# Note tables

A note table gives the playback code of a step. A sound with a percussion code has that code
whatever its note; any other sound is looked up together with its note and octave among the
tones of the song's tuning, where the first match counts. A step without a sound, or without a
match, has no code.
-/

set_option autoImplicit false
set_option relaxedAutoImplicit false

namespace StepSequencer

/-- A tone of a tuning: what names it, and its code. -/
structure Tone where
  sound : UInt8
  note : String
  octave : UInt8
  code : UInt8
deriving DecidableEq, Repr

/-- The codes of percussion sounds, in increasing order of the sound. -/
structure Percussion where
  entries : List (UInt8 × UInt8) := []
  increasing : entries.Pairwise (fun first second ↦ first.1 < second.1) := by simp
deriving DecidableEq, Repr

/-- Puts a code among entries in increasing order of the sound; of two for the same sound the
new one stays. -/
def insertEntry (sound code : UInt8) : List (UInt8 × UInt8) → List (UInt8 × UInt8)
  | [] => [(sound, code)]
  | entry :: rest =>
    if sound < entry.1 then (sound, code) :: entry :: rest
    else if sound = entry.1 then (sound, code) :: rest
    else entry :: insertEntry sound code rest

/-- A sound in the list after an insertion is the new one or was there before. -/
theorem fst_of_mem_insertEntry {sound code : UInt8} {entries : List (UInt8 × UInt8)}
    {entry : UInt8 × UInt8} (h : entry ∈ insertEntry sound code entries) :
    entry.1 = sound ∨ entry ∈ entries := by
  induction entries with
  | nil => simp_all [insertEntry]
  | cons head rest ih =>
    unfold insertEntry at h
    split at h
    · rcases List.mem_cons.1 h with rfl | h
      · exact .inl rfl
      · exact .inr h
    · split at h
      · rcases List.mem_cons.1 h with rfl | h
        · exact .inl rfl
        · exact .inr (List.mem_cons_of_mem _ h)
      · rcases List.mem_cons.1 h with rfl | h
        · exact .inr (List.mem_cons_self ..)
        · exact (ih h).imp_right (List.mem_cons_of_mem _)

/-- Insertion keeps the increasing order. -/
theorem increasing_insertEntry (sound code : UInt8) {entries : List (UInt8 × UInt8)}
    (h : entries.Pairwise fun first second ↦ first.1 < second.1) :
    (insertEntry sound code entries).Pairwise fun first second ↦ first.1 < second.1 := by
  induction entries with
  | nil => simp [insertEntry]
  | cons head rest ih =>
    have hhead := (List.pairwise_cons.1 h).1
    have hrest := (List.pairwise_cons.1 h).2
    unfold insertEntry
    split
    case isTrue hlt =>
      refine List.pairwise_cons.2 ⟨fun entry hentry ↦ ?_, h⟩
      rcases List.mem_cons.1 hentry with rfl | hentry
      · exact hlt
      · exact UInt8.lt_trans hlt (hhead entry hentry)
    case isFalse hnlt =>
      split
      case isTrue heq =>
        exact List.pairwise_cons.2 ⟨fun entry hentry ↦ heq ▸ hhead entry hentry, hrest⟩
      case isFalse hne =>
        refine List.pairwise_cons.2 ⟨fun entry hentry ↦ ?_, ih hrest⟩
        rcases fst_of_mem_insertEntry hentry with hsound | hmem
        · have hle : head.1 ≤ sound := UInt8.not_lt.1 hnlt
          exact hsound ▸ UInt8.lt_of_le_of_ne hle fun heq ↦ hne heq.symm
        · exact hhead entry hmem

namespace Percussion

/-- The codes with one more, which replaces an earlier one for the same sound. -/
def insert (percussion : Percussion) (sound code : UInt8) : Percussion :=
  ⟨insertEntry sound code percussion.entries,
    increasing_insertEntry sound code percussion.increasing⟩

/-- The code of a sound. -/
def get? (percussion : Percussion) (sound : UInt8) : Option UInt8 :=
  (percussion.entries.find? fun entry ↦ entry.1 == sound).map Prod.snd

end Percussion

/-- Percussion codes, and the tones of each tuning. -/
structure NoteTable where
  percussion : Percussion := {}
  tunings : List (List Tone) := []
deriving DecidableEq, Repr

/-- A way to give the steps of a song their codes under a tuning. -/
abbrev Encoder : Type :=
  UInt8 → Step → Option UInt8

namespace NoteTable

/-- Whether a sound has a percussion code. -/
def isPercussive (table : NoteTable) (sound : UInt8) : Bool :=
  (table.percussion.get? sound).isSome

/-- Whether a tone is the one a step names. -/
def names (sound : UInt8) (note : String) (octave : UInt8) (tone : Tone) : Bool :=
  tone.sound == sound && tone.octave == octave && tone.note == note

/-- The code of a step that is no percussion. -/
def toneCode (table : NoteTable) (tuning sound : UInt8) (step : Step) : Option UInt8 := do
  let note ← step.note
  let octave ← step.octave
  let tones ← table.tunings[tuning.toNat]?
  let tone ← tones.find? (names sound note octave)
  return tone.code

/-- The code of a step under a tuning. -/
def encode (table : NoteTable) : Encoder := fun tuning step ↦ do
  let sound ← step.sound
  match table.percussion.get? sound with
  | some code => return code
  | none => table.toneCode tuning sound step

end NoteTable

end StepSequencer
