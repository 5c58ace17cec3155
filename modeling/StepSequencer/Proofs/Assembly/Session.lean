import StepSequencer.Proofs.Assembly.Additions
import StepSequencer.Proofs.Assembly.AnyStore
import StepSequencer.Proofs.Assembly.Playback

/-!
# A store and an arrangement in step

A session works on one store and one arrangement in any order: it stores texts, compiles channels,
with an encoder of their own each, and adds voices that were compiled before, as often as it
likes. Stored texts and failed compilations leave blocks behind that no voice names, and between
the compilation of a voice and its addition anything may happen.

`Sound` is the invariant: the voices compiled so far name the groups of their channels, and the
arrangement is the one of the voices that were added. The three kinds of calls keep it, because
the store only grows. So the labels that a table looks up are always there, and they are the
labels of the groups of the channel that was compiled for the entry.
-/

set_option autoImplicit false
set_option relaxedAutoImplicit false

namespace StepSequencer

open Json (decimal)

/-- A channel with all that compiling it takes. -/
structure Request where
  encoder : Encoder
  tuning : UInt8
  steps : UInt8
  channel : Channel

namespace Request

/-- Compiles the channel. -/
def compile (request : Request) (store : BlockStore) : Except AssemblyError Voice × BlockStore :=
  compileChannel request.encoder request.tuning request.steps request.channel store

/-- The groups of the channel. -/
def groups (request : Request) : List (List Slot) :=
  channelGroups request.encoder request.tuning request.steps request.channel

/-- The texts of the slots of the channel, eight at a time. -/
def texts (request : Request) : List String :=
  channelTexts request.encoder request.tuning request.steps request.channel

end Request

/-- A call of a session. A voice that is added is given by its number among those compiled. -/
inductive SessionCall where
  | insert (text : String)
  | compile (request : Request)
  | add (channel number : Nat)

/-- A compilation under way: its store and its arrangement, the voices compiled so far, and those
that were added, each with the request it was compiled for and the physical channel. -/
structure Session extends Compilation where
  compiled : List (Request × Voice) := []
  added : List (Nat × Request × Voice) := []

namespace Session

/-- The session after a call. -/
def step (session : Session) : SessionCall → Session
  | .insert text => { session with store := (session.store.insert text).2 }
  | .compile request =>
    match request.compile session.store with
    | (.error _, store) => { session with store := store }
    | (.ok voice, store) =>
      { session with store := store, compiled := session.compiled ++ [(request, voice)] }
  | .add channel number =>
    match session.compiled[number]? with
    | none => session
    | some (request, voice) =>
      match session.arrangement.add channel voice with
      | (.error _, arrangement) => { session with arrangement := arrangement }
      | (.ok _, arrangement) =>
        { session with
          arrangement := arrangement
          added := session.added ++ [(channel, request, voice)] }

/-- The session after some calls, starting with nothing. -/
def run (calls : List SessionCall) : Session :=
  calls.foldl step {}

/-- The voices that were added, each with its physical channel. -/
def voices (session : Session) : List (Nat × Voice) :=
  session.added.map fun item ↦ (item.1, item.2.2)

/-- The requests that the entries of a table were compiled for, in the order of the entries. -/
def requests (session : Session) (kind : TableKind) : List Request :=
  (session.added.filter fun item ↦ item.2.1.channel.kind = kind).map fun item ↦ item.2.1

/-! ### The invariant -/

/-- A voice keeps the attenuation of its channel and names its groups. -/
def Fulfils (store : BlockStore) (item : Request × Voice) : Prop :=
  item.2.attenuate = item.1.channel.attenuate ∧ store.Names item.2.blocks item.1.groups

/-- The voices compiled so far name the groups of their channels, and the arrangement is the one
of those that were added. -/
structure Sound (session : Session) : Prop where
  compiled : ∀ item ∈ session.compiled, Fulfils session.store item
  added : ∀ item ∈ session.added, item.2 ∈ session.compiled
  places : session.arrangement.Places session.voices

theorem sound_nil : Sound {} where
  compiled := by simp
  added := by simp
  places := Arrangement.places_nil

/-- More blocks behind do not matter. -/
theorem Sound.grow {session : Session} (h : session.Sound) {store : BlockStore}
    (hgrows : session.store.blocks <+: store.blocks) :
    Sound { session with store := store } where
  compiled := by
    intro item hitem
    obtain ⟨hattenuate, hnames⟩ := h.compiled item hitem
    exact ⟨hattenuate, hnames.mono hgrows⟩
  added := h.added
  places := h.places

/-- A stored text keeps the invariant, because the store only grows. -/
theorem Sound.insert {session : Session} (h : session.Sound) (text : String) :
    (session.step (.insert text)).Sound :=
  h.grow (session.store.prefix_insert text)

/-- Compiling a channel keeps the invariant. If it fails the store has grown, and if it succeeds
there is one more voice, which names the groups of its channel. -/
theorem Sound.compile {session : Session} (h : session.Sound) (request : Request) :
    (session.step (.compile request)).Sound := by
  have hgrows := prefix_compileChannel request.encoder request.tuning request.steps
    request.channel session.store
  rw [step]
  split
  · rename_i fault store hcompile
    rw [Request.compile] at hcompile
    rw [hcompile] at hgrows
    exact h.grow hgrows
  · rename_i voice store hcompile
    rw [Request.compile] at hcompile
    rw [hcompile] at hgrows
    have hsound := h.grow hgrows
    refine ⟨?_, ?_, hsound.places⟩
    · intro item hitem
      rcases List.mem_append.mp hitem with hbefore | hlast
      · exact hsound.compiled item hbefore
      · rw [List.mem_singleton.mp hlast]
        exact names_of_compileChannel hcompile
    · intro item hitem
      exact List.mem_append_left _ (hsound.added item hitem)

/-- Adding a voice keeps the invariant. If there is no room for it nothing has changed. -/
theorem Sound.add {session : Session} (h : session.Sound) (channel number : Nat) :
    (session.step (.add channel number)).Sound := by
  rw [step]
  split
  · exact h
  · rename_i request voice hcompiled
    split
    · rename_i fault arrangement hadd
      rw [h.places.add_error hadd]
      exact h
    · rename_i value arrangement hadd
      refine ⟨h.compiled, ?_, ?_⟩
      · intro item hitem
        rcases List.mem_append.mp hitem with hbefore | hlast
        · exact h.added item hbefore
        · rw [List.mem_singleton.mp hlast]
          exact List.mem_of_getElem? hcompiled
      · have hplaces := h.places.add_ok hadd
        rw [voices] at hplaces ⊢
        rw [List.map_append]
        exact hplaces

/-- Every call keeps the invariant. -/
theorem Sound.step {session : Session} (h : session.Sound) (call : SessionCall) :
    (session.step call).Sound := by
  cases call with
  | insert text => exact h.insert text
  | compile request => exact h.compile request
  | add channel number => exact h.add channel number

/-- The invariant holds after any calls. -/
theorem sound_run (calls : List SessionCall) : (run calls).Sound :=
  List.foldlRecOn calls _ sound_nil fun _ hsound call _ ↦ hsound.step call

/-! ### Entries and their requests -/

/-- A voice that was added still names the groups of its channel. -/
theorem Sound.fulfils {session : Session} (h : session.Sound) {item : Nat × Request × Voice}
    (hitem : item ∈ session.added) : Fulfils session.store item.2 :=
  h.compiled item.2 (h.added item hitem)

/-- The blocks in a table are those of the voices whose channels belong to it, in order. -/
theorem Sound.map_blocks {session : Session} (h : session.Sound) (kind : TableKind) :
    (session.arrangement.table kind).entries.map Entry.blocks =
      (session.added.filter fun item ↦ item.2.1.channel.kind = kind).map fun item ↦
        item.2.2.blocks := by
  rw [h.places.entries_eq, map_blocks_tableEntries, voices, List.filter_map, List.map_map]
  refine congrArg _ (List.filter_congr fun item hitem ↦ ?_)
  have hkind : item.2.2.kind = item.2.1.channel.kind :=
    congrArg TableKind.ofAttenuation (h.fulfils hitem).1
  exact decide_eq_decide.mpr (by rw [hkind])

/-- Every entry has the number of its place, and its blocks name the groups of its request. -/
theorem Sound.exists_request {session : Session} (h : session.Sound) {kind : TableKind}
    {number : Nat} {entry : Entry}
    (hentry : (session.arrangement.table kind).entries[number]? = some entry) :
    ∃ request, (session.requests kind)[number]? = some request ∧
      entry.index = kind.base + number ∧ session.store.Names entry.blocks request.groups := by
  have hblocks := congrArg (fun list ↦ list[number]?) (h.map_blocks kind)
  simp only [List.getElem?_map, hentry, Option.map_some] at hblocks
  obtain ⟨item, hitem, hsame⟩ := Option.map_eq_some_iff.mp hblocks.symm
  refine ⟨item.2.1, ?_, ?_, ?_⟩
  · rw [requests, List.getElem?_map, hitem, Option.map_some]
  · have hindex := map_index_tableEntries kind session.voices
    rw [← h.places.entries_eq] at hindex
    have hnumber := congrArg (fun list ↦ list[number]?) hindex
    simp only [List.getElem?_map, hentry, Option.map_some] at hnumber
    obtain ⟨hlt, hget⟩ := List.getElem?_eq_some_iff.mp hnumber.symm
    rw [← hget, List.getElem_range', Nat.one_mul]
  · rw [← hsame]
    exact (h.fulfils (List.mem_filter.mp (List.mem_of_getElem? hitem)).1).2

/-- No table names a block that is not there. -/
theorem Sound.lt_size {session : Session} (h : session.Sound) {kind : TableKind} {entry : Entry}
    (hentry : entry ∈ (session.arrangement.table kind).entries) {position : Nat}
    (hposition : position ∈ entry.blocks) : position < session.store.size := by
  obtain ⟨number, hnumber⟩ := List.getElem?_of_mem hentry
  obtain ⟨request, -, -, hnames⟩ := h.exists_request hnumber
  exact hnames.lt_size hposition

/-- The tables of a session can be written, and say what they should: every position in an entry
has a label, every entry has a line, and the labels on it belong to blocks with the texts of the
slots, eight at a time, of the channel that was compiled for the entry. -/
structure Legible (session : Session) : Prop where
  lt_size : ∀ kind, ∀ entry ∈ (session.arrangement.table kind).entries,
    ∀ position ∈ entry.blocks, position < session.store.size
  label : ∀ kind, ∀ entry ∈ (session.arrangement.table kind).entries,
    ∀ position ∈ entry.blocks,
      session.store.labels[position]? = some ("Pattern" ++ decimal (position + 1 : Nat))
  length_lines : ∀ kind, (Text.lines (session.fragments.table kind)).length =
    (session.arrangement.table kind).entries.length
  line : ∀ (kind : TableKind) (number : Nat) (entry : Entry),
    (session.arrangement.table kind).entries[number]? = some entry →
      ∃ request, (session.requests kind)[number]? = some request ∧
        (Text.lines (session.fragments.table kind))[number]? = some ("    word " ++
          ", ".intercalate (entry.blocks.map fun position ↦
            "Pattern" ++ decimal (position + 1 : Nat)) ++ " ; " ++ decimal entry.index) ∧
        entry.index = kind.base + number ∧
        entry.blocks.length = 4 ∧
        entry.blocks.map (fun position ↦ (session.store.get? position).map Block.canonical) =
          request.texts.map fun text ↦ some (Text.trim text)

/-- Whatever is stored, compiled and added, in any order and with any failures between, the tables
of the session can be written and name the groups of their channels. -/
theorem legible_run (calls : List SessionCall) : (run calls).Legible := by
  have hsound := sound_run calls
  generalize run calls = session at hsound
  have hlines : ∀ kind, Text.lines (session.fragments.table kind) =
      (session.arrangement.table kind).entries.map Readback.rowLine := by
    intro kind
    rw [Compilation.table_fragments,
      Readback.lines_render fun entry hentry position ↦ hsound.lt_size hentry]
  constructor
  case lt_size =>
    intro kind entry hentry position hposition
    exact hsound.lt_size hentry hposition
  case label =>
    intro kind entry hentry position hposition
    simp [BlockStore.labels, hsound.lt_size hentry hposition, blockLabel]
  case length_lines =>
    intro kind
    rw [hlines, List.length_map]
  case line =>
    intro kind number entry hentry
    obtain ⟨request, hrequest, hindex, hnames⟩ := hsound.exists_request hentry
    refine ⟨request, hrequest, ?_, hindex, ?_, hnames.map_canonical⟩
    · rw [hlines, List.getElem?_map, hentry, Option.map_some, Readback.rowLine]
      simp only [String.append_assoc]
      rfl
    · rw [hnames.length_eq, Request.groups, length_channelGroups]
      rfl

/-- A channel of two steps, of which the first has an accent. -/
def accentedChannel : Channel :=
  ⟨true, [(Step.percussion 7).accented, {}]⟩

/-- The channel is compiled twice, between texts that no voice names: with an encoder that knows the
reserved code only, which fails, and with one for its sounds. It is added at the end. -/
def interleavedCalls : List SessionCall :=
  [.insert "x", .compile ⟨fun _ _ ↦ some 255, 0, 2, accentedChannel⟩,
    .compile ⟨fun _ step ↦ step.sound, 0, 2, accentedChannel⟩, .insert "y", .add 0 0]

/-- The entry that the channel gets names the block of its accented step and three times the one of
its rests, both of which come behind a text that was stored before. -/
theorem legible_run_interleaved :
    ((run interleavedCalls).arrangement.table .low).entries = [⟨128, [1, 2, 2, 2]⟩] ∧
    (Text.lines ((run interleavedCalls).fragments.table .low))[0]? =
      some "    word Pattern2, Pattern3, Pattern3, Pattern3 ; 128" ∧
    [1, 2, 2, 2].map (fun position ↦
        ((run interleavedCalls).store.get? position).map Block.canonical) =
      (channelTexts (fun _ step ↦ step.sound) 0 2 accentedChannel).map fun text ↦
        some (Text.trim text) := by
  have hrun : ((run interleavedCalls).arrangement.table .low).entries =
        [⟨128, [1, 2, 2, 2]⟩] ∧
      ((run interleavedCalls).requests .low).map Request.texts =
        [channelTexts (fun _ step ↦ step.sound) 0 2 accentedChannel] := by
    decide +kernel
  obtain ⟨hentries, hrequests⟩ := hrun
  have hentry : ((run interleavedCalls).arrangement.table .low).entries[0]? =
      some ⟨128, [1, 2, 2, 2]⟩ := by
    rw [hentries]
    rfl
  obtain ⟨request, hrequest, hline, -, -, htexts⟩ :=
    (legible_run interleavedCalls).line .low 0 _ hentry
  have hown := congrArg (fun list ↦ list[0]?) hrequests
  simp only [List.getElem?_map, hrequest, Option.map_some] at hown
  rw [Option.some.inj hown] at htexts
  exact ⟨hentries, hline, htexts⟩

end Session

end StepSequencer
