import StepSequencer.Assembly.Voice

/-!
# Tables and sequences

Every compiled channel becomes an entry of one of two tables: full volume from index 0, low
volume from index 128. The sequence of a physical channel lists the entries it plays, each by
one more than its index. Adding to a full table, or to a third channel, changes nothing.
-/

set_option autoImplicit false
set_option relaxedAutoImplicit false

namespace StepSequencer

open Json (decimal)

/-- An entry of a table: its index, and the positions of its blocks. -/
structure Entry where
  index : Nat
  blocks : List Nat
deriving DecidableEq, Repr

/-- A table of entries. -/
structure EntryTable where
  kind : TableKind
  entries : List Entry := []
deriving DecidableEq, Repr

namespace EntryTable

/-- Adds an entry; one more than its index, and the table in any case. -/
def push (table : EntryTable) (blocks : List Nat) : Except AssemblyError Nat × EntryTable :=
  if table.kind.capacity ≤ table.entries.length then (.error (.tableFull table.kind), table)
  else
    let index := table.kind.base + table.entries.length
    (.ok (index + 1), { table with entries := table.entries ++ [⟨index, blocks⟩] })

/-- The line of an entry, given the labels of all blocks by their positions. -/
def entryLine (labels : List String) (entry : Entry) : String :=
  "    word " ++ ", ".intercalate (entry.blocks.map fun position ↦ labels.getD position "") ++
    " ; " ++ decimal entry.index ++ "\n"

/-- The lines of a table, given the labels of all blocks by their positions. -/
def render (table : EntryTable) (labels : List String) : String :=
  String.join (table.entries.map (entryLine labels))

end EntryTable

/-- The two tables, and the sequences of the two physical channels. -/
structure Arrangement where
  high : EntryTable := ⟨.high, []⟩
  low : EntryTable := ⟨.low, []⟩
  sequence1 : List Nat := []
  sequence2 : List Nat := []
deriving DecidableEq, Repr

namespace Arrangement

/-- The table of a kind. -/
def table (arrangement : Arrangement) : TableKind → EntryTable
  | .high => arrangement.high
  | .low => arrangement.low

/-- The arrangement with another table of a kind. -/
def withTable (arrangement : Arrangement) (kind : TableKind) (table : EntryTable) :
    Arrangement :=
  match kind with
  | .high => { arrangement with high := table }
  | .low => { arrangement with low := table }

/-- The sequence of a physical channel; there are two. -/
def sequence (arrangement : Arrangement) : Nat → List Nat
  | 0 => arrangement.sequence1
  | 1 => arrangement.sequence2
  | _ => []

/-- The arrangement with one more value in the sequence of a physical channel. -/
def record (arrangement : Arrangement) (channel value : Nat) : Arrangement :=
  if channel = 0 then { arrangement with sequence1 := arrangement.sequence1 ++ [value] }
  else { arrangement with sequence2 := arrangement.sequence2 ++ [value] }

/-- Adds a compiled channel for a physical channel; its value in the sequence, and the
arrangement in any case. -/
def add (arrangement : Arrangement) (channel : Nat) (voice : Voice) :
    Except AssemblyError Nat × Arrangement :=
  if channelsPerPattern ≤ channel then (.error (.channelOutOfRange channel), arrangement)
  else
    let kind := TableKind.ofAttenuation voice.attenuate
    match (arrangement.table kind).push voice.blocks with
    | (.error e, table) => (.error e, arrangement.withTable kind table)
    | (.ok value, table) => (.ok value, (arrangement.withTable kind table).record channel value)

/-- The lines of a sequence. -/
def renderSequence (values : List Nat) : String :=
  String.join (values.map fun (value : Nat) ↦ byteLine ++ decimal value ++ "\n")

end Arrangement

/-- The texts that a document is made of. -/
structure Fragments where
  patterns : String
  highTable : String
  lowTable : String
  sequence1 : String
  sequence2 : String
deriving DecidableEq, Repr

/-- The blocks and the arrangement of a song's patterns. -/
structure Compilation where
  store : BlockStore := {}
  arrangement : Arrangement := {}
deriving DecidableEq, Repr

namespace Compilation

/-- The texts of a compilation. Blocks are labelled now, when all of them are there. -/
def fragments (compilation : Compilation) : Fragments where
  patterns := compilation.store.render
  highTable := compilation.arrangement.high.render compilation.store.labels
  lowTable := compilation.arrangement.low.render compilation.store.labels
  sequence1 := Arrangement.renderSequence compilation.arrangement.sequence1
  sequence2 := Arrangement.renderSequence compilation.arrangement.sequence2

/-- Compiles a channel and adds it for a physical channel. -/
def addChannel (encoder : Encoder) (tuning steps : UInt8) (compilation : Compilation)
    (position : Nat) (channel : Channel) : Except AssemblyError Compilation :=
  match compileChannel encoder tuning steps channel compilation.store with
  | (.error e, _) => .error e
  | (.ok voice, store) =>
    match compilation.arrangement.add position voice with
    | (.error e, _) => .error e
    | (.ok _, arrangement) => .ok ⟨store, arrangement⟩

/-- Compiles the channels of a pattern from a position on. -/
def addChannels (encoder : Encoder) (tuning steps : UInt8) :
    Compilation → Nat → List Channel → Except AssemblyError Compilation
  | compilation, _, [] => .ok compilation
  | compilation, position, channel :: rest =>
    match compilation.addChannel encoder tuning steps position channel with
    | .error e => .error e
    | .ok compilation => addChannels encoder tuning steps compilation (position + 1) rest

/-- Compiles patterns from a position on. -/
def addPatterns (encoder : Encoder) (tuning : UInt8) :
    Compilation → Nat → List Pattern → Except AssemblyError Compilation
  | compilation, _, [] => .ok compilation
  | compilation, position, pattern :: rest =>
    if pattern.channels.length ≠ channelsPerPattern then
      .error (.wrongChannelCount position pattern.channels.length)
    else
      match addChannels encoder tuning pattern.steps compilation 0 pattern.channels with
      | .error e => .error e
      | .ok compilation => addPatterns encoder tuning compilation (position + 1) rest

end Compilation

/-- Compiles the patterns of a song, in order, each channel by channel. -/
def compile (encoder : Encoder) (tuning : UInt8) (patterns : List Pattern) :
    Except AssemblyError Compilation :=
  Compilation.addPatterns encoder tuning {} 0 patterns

/-- The texts of a song's patterns. -/
def compilePatterns (encoder : Encoder) (tuning : UInt8) (patterns : List Pattern) :
    Except AssemblyError Fragments :=
  (compile encoder tuning patterns).map Compilation.fragments

end StepSequencer
