import StepSequencer.Proofs.Song.DocumentShapes

/-!
# Members that are no fields

A record that is read has no member but its fields, so that nothing in a document is left out
silently: a song into which a member of another key is put, at any object and at any place in it,
is no longer read. Down to the patterns the error names the member; a channel tries two layouts,
and the error names the channel as a whole, for a member of the channel and for one of a step in it
(`Role.reported`).
-/

set_option autoImplicit false
set_option relaxedAutoImplicit false

namespace StepSequencer

open Json (Value Mismatch)

/-- A member that is no field is the error of a record that is read without it. -/
theorem ReadsFields.ofValue_unknown {α : Type} {decode : Value → Decoded α} {shape : RecordShape}
    {checks : List (String × FieldCheck)} (h : ReadsFields decode shape checks)
    {front back : List (String × Value)} {a : α} (hok : decode (.object (front ++ back)) = .ok a)
    {key : String} (hkey : key ∉ shape.fields) (value : Value) :
    decode (.object (front ++ (key, value) :: back)) =
      .error ⟨[.key key], .unknownField key shape.fields⟩ := by
  have hnone := h.childFault?_eq_none hok
  rw [childFault?, List.findSome?_append, Option.or_eq_none_iff] at hnone
  have hlookup : checks.lookup key = none := by
    rw [List.lookup_eq_none_iff]
    intro entry hentry
    rw [bne_iff_ne]
    rintro rfl
    exact hkey (h.names ▸ List.mem_map_of_mem hentry)
  refine h.child ?_
  rw [childFault?, List.findSome?_append, hnone.1, List.findSome?_cons, memberFault?, hlookup]
  rfl

namespace Role

/-- The path of the error for an unknown member of a node: that of the member, or that of the
channel that the node is or is in. -/
def reported (context : List Frame) (key : String) : Role → List PathStep
  | channel => wayTo context
  | step outer => wayTo outer
  | _ => wayTo context ++ [.key key]

/-- What is wrong for an unknown member. -/
def complaint (key : String) : Role → Mismatch
  | channel => .noLayout "RawChannel"
  | step _ => .noLayout "RawChannel"
  | role => .unknownField key role.shape.fields

end Role

/-- Only a member of the song itself can have a path that is written like the root. -/
theorem Stands.renderPath_reported {role : Role} {context : List Frame} {node : Value}
    (h : Stands role context node) (key : String) :
    SchemaError.renderPath (role.reported context key) = "." ↔ context = [] ∧ key = "." := by
  cases h with
  | song =>
    show SchemaError.renderPath [.key key] = "." ↔ _
    rw [SchemaError.renderPath_key]
    simp
  | info hfield => exact iff_of_false (hfield.renderPath_ne (by decide) _) (by simp)
  | hats hfield => exact iff_of_false (hfield.renderPath_ne (by decide) _) (by simp)
  | pattern hfield => exact iff_of_false (hfield.renderPath_ne (by decide) _) (by simp)
  | channel houter _ =>
    cases houter with
    | pattern hfield => exact iff_of_false (hfield.renderPath_ne (by decide) _) (by simp)
  | step houter _ =>
    cases houter with
    | channel houter _ =>
      cases houter with
      | pattern hfield => exact iff_of_false (hfield.renderPath_ne (by decide) _) (by simp)

/-- A channel with an unknown member has no layout. -/
theorem StoredChannel.ofValue_unknown {front back : List (String × Value)}
    {stored : StoredChannel} (hok : StoredChannel.ofValue (.object (front ++ back)) = .ok stored)
    {key : String} (hkey : key ∉ shape.fields) (value : Value) :
    StoredChannel.ofValue (.object (front ++ (key, value) :: back)) =
      .error ⟨[], .noLayout "RawChannel"⟩ := by
  obtain ⟨channel, hobject⟩ | ⟨steps, hlist⟩ := exists_object_or_list hok
  · exact ofValue_of_errors (readsFields.ofValue_unknown hobject hkey value) rfl
  · cases hlist

/-- An unknown member of a step is reported at its key. -/
theorem Step.decodeOption_unknown {front back : List (String × Value)} {step : Option Step}
    (hok : decodeOption Step.ofValue (.object (front ++ back)) = .ok step)
    {key : String} (hkey : key ∉ shape.fields) (value : Value) :
    decodeOption Step.ofValue (.object (front ++ (key, value) :: back)) =
      .error ⟨[.key key], .unknownField key shape.fields⟩ := by
  obtain ⟨read, hread, -⟩ := eq_ok_of_map_eq_ok (show (Step.ofValue _).map some = _ from hok)
  show (Step.ofValue _).map some = _
  rw [readsFields.ofValue_unknown hread hkey value]
  rfl

theorem StepPlace.object {inner : List Frame} {members : List (String × Value)}
    (h : StepPlace inner (.object members)) (others : List (String × Value)) :
    StepPlace inner (.object others) := by
  cases h with
  | underKey => exact .underKey
  | behindFlag => exact .behindFlag
  | @inList front back _ hhead =>
    refine .inList fun flag ↦ ?_
    cases front with
    | nil => simp
    | cons first front => exact hhead flag

/-- The error for an unknown member, at a node that stands for some part of a song. -/
theorem Stands.ofValue_unknown {role : Role} {context : List Frame}
    {front back : List (String × Value)} {song : Song}
    (h : Stands role context (.object (front ++ back)))
    (hok : Song.ofValue (plug context (.object (front ++ back))) = .ok song)
    {key : String} (hkey : key ∉ role.shape.fields) (value : Value) :
    Song.ofValue (plug context (.object (front ++ (key, value) :: back))) =
      .error ⟨role.reported context key, role.complaint key⟩ := by
  cases role with
  | song =>
    cases h
    exact Song.readsFields.ofValue_unknown hok hkey value
  | info =>
    obtain ⟨info, hinfo⟩ := h.relays_info.exists_ok hok
    exact h.relays_info hok (Meta.readsFields.ofValue_unknown hinfo hkey value)
  | hats =>
    obtain ⟨hats, hhats⟩ := h.relays_hats.exists_ok hok
    exact h.relays_hats hok (Hats.readsFields.ofValue_unknown hhats hkey value)
  | pattern =>
    obtain ⟨pattern, hpattern⟩ := h.relays_pattern.exists_ok hok
    exact h.relays_pattern hok (Pattern.readsFields.ofValue_unknown hpattern hkey value)
  | channel =>
    obtain ⟨stored, hstored⟩ := h.relays_channel.exists_ok hok
    have herror := h.relays_channel hok (StoredChannel.ofValue_unknown hstored hkey value)
    rwa [List.append_nil] at herror
  | step outer =>
    cases h with
    | step houter hplace =>
      rw [plug_append] at hok ⊢
      obtain ⟨stored, hstored⟩ := houter.relays_channel.exists_ok hok
      obtain ⟨step, hstep⟩ := hplace.exists_ok hstored
      have hchannel := hplace.ofValue_eq_error (hplace.object _) hstored
        (Step.decodeOption_unknown hstep hkey value)
      have herror := houter.relays_channel hok hchannel
      rwa [List.append_nil] at herror

/-- Every object in a song that is read stands for a part of the song, and with a member that is no
field of that part, anywhere in the object, the song is no longer read. The error names the member,
or the channel that the object is or is in; only a member of the song itself with a point for a
key is reported as the song. -/
theorem Song.ofValue_unknownMember {context : List Frame} {front back : List (String × Value)}
    {song : Song} (hok : Song.ofValue (plug context (.object (front ++ back))) = .ok song) :
    (∃ role, Stands role context (.object (front ++ back))) ∧
      ∀ role, Stands role context (.object (front ++ back)) →
        ∀ key, key ∉ role.shape.fields → ∀ value, ∃ e,
          Song.ofValue (plug context (.object (front ++ (key, value) :: back))) = .error e ∧
          e.path = role.reported context key ∧ e.mismatch = role.complaint key ∧
          e.pathText = if context.isEmpty ∧ key = "." then "song"
            else SchemaError.renderPath (role.reported context key) := by
  refine ⟨Song.exists_stands hok, fun role hrole key hkey value ↦ ?_⟩
  refine ⟨_, hrole.ofValue_unknown hok hkey value, rfl, rfl, ?_⟩
  simp only [SchemaError.pathText, hrole.renderPath_reported key, List.isEmpty_iff]

/-- An unknown member of a step is reported at its channel, because a channel is read in one of two
layouts and neither fits. -/
theorem ofValue_unknownMember_rowsStep :
    (∃ song, Song.ofValue (plug (rowsChannel ++ [.element [] []]) (.object [])) = .ok song) ∧
      Stands (.step rowsChannel) (rowsChannel ++ [.element [] []]) (.object []) ∧
      "pitch" ∉ Step.shape.fields ∧
      ∃ e, Song.ofValue (plug (rowsChannel ++ [.element [] []])
          (.object [("pitch", .null)])) = .error e ∧
        e.path = wayTo rowsChannel ∧ e.mismatch = .noLayout "RawChannel" ∧
        e.pathText = SchemaError.renderPath (wayTo rowsChannel) := by
  have hstands : Stands (.step rowsChannel) (rowsChannel ++ [.element [] []]) (.object []) :=
    .step (.channel (stands_rowsPattern _) rfl) (.inList (by simp))
  have hunknown : "pitch" ∉ Step.shape.fields := by decide
  exact ⟨⟨_, rfl⟩, hstands, hunknown,
    (@Song.ofValue_unknownMember _ [] [] _ rfl).2 _ hstands _ hunknown .null⟩

end StepSequencer
