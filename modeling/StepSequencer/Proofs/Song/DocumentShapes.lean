import StepSequencer.Proofs.Song.Nodes

/-!
# Shapes of documents

A song, what is known about it, its hats and its patterns are described as objects, a channel as
an object with a list of steps or as a bare list, and a step as an object or a null
(`Role.Describes`). What is read is more: every record may be an array of its fields as well
(`Role.Admits`), at every node of a document, and nothing else may be. `rowsDocument` is a song
all of whose records are arrays.

There are no objects but those that stand for a part of a song (`Song.exists_stands`). The other
readers take no object, however deep it is in the value (`TakesNoObject`).
-/

set_option autoImplicit false
set_option relaxedAutoImplicit false

namespace StepSequencer

open Json (Value)

/-! ### Described and admitted shapes -/

/-- The node is an object with a list of steps, or an array. -/
def IsChannel (node : Value) : Prop :=
  (∃ members steps, node = .object members ∧ ("steps", .array steps) ∈ members) ∨
    ∃ elements, node = .array elements

namespace Role

/-- The node has a shape that is described. -/
def Describes : Role → Value → Prop
  | channel, node => IsChannel node
  | step _, node => node = .null ∨ ∃ members, node = .object members
  | _, node => ∃ members, node = .object members

/-- The node has a shape that can be read. -/
def Admits : Role → Value → Prop
  | channel, node => IsChannel node
  | step _, node => node = .null ∨ IsRecord Step.shape node
  | role, node => IsRecord role.shape node

theorem describes_or_array_of_isRecord {shape : RecordShape} {node : Value}
    (h : IsRecord shape node) :
    (∃ members, node = .object members) ∨ ∃ elements, node = .array elements :=
  h.imp_right fun ⟨elements, hnode, _⟩ ↦ ⟨elements, hnode⟩

/-- What is admitted in a role describes it or is an array. -/
theorem Admits.describes_or_array {role : Role} {node : Value} (h : role.Admits node) :
    role.Describes node ∨ ∃ elements, node = .array elements := by
  cases role with
  | channel => exact Or.inl h
  | step outer =>
    rcases h with hnull | hrecord
    · exact Or.inl (Or.inl hnull)
    · exact (describes_or_array_of_isRecord hrecord).imp_left Or.inr
  | song => exact describes_or_array_of_isRecord h
  | info => exact describes_or_array_of_isRecord h
  | hats => exact describes_or_array_of_isRecord h
  | pattern => exact describes_or_array_of_isRecord h

end Role

/-! ### What is read has an admitted shape -/

theorem decodeOption_eq_ok {α : Type} {decode : Value → Decoded α} {value : Value} {a : Option α}
    (h : decodeOption decode value = .ok a) : value = .null ∨ ∃ b, decode value = .ok b := by
  unfold decodeOption at h
  split at h
  · exact Or.inl rfl
  · obtain ⟨b, hb, -⟩ := eq_ok_of_map_eq_ok h
    exact Or.inr ⟨b, hb⟩

theorem decodeList_eq_ok {α : Type} {decode : Value → Decoded α} {value : Value} {list : List α}
    (h : decodeList decode value = .ok list) : ∃ elements, value = .array elements := by
  cases value with
  | array elements => exact ⟨elements, rfl⟩
  | _ => cases h

theorem Step.listOfValue_eq_ok {value : Value} {steps : List Step}
    (h : Step.listOfValue value = .ok steps) : ∃ elements, value = .array elements := by
  obtain ⟨list, hlist, -⟩ := eq_ok_of_map_eq_ok h
  exact decodeList_eq_ok hlist

namespace StoredChannel

theorem Draft.steps_of_visit {draft next : Draft} {key : String} {value : Value}
    (hkey : key ≠ "steps") (h : draft.visit key value = .ok next) : next.steps = draft.steps := by
  unfold Draft.visit at h
  split at h
  · obtain ⟨flag, -, h⟩ := bind_eq_ok h
    cases h
    rfl
  · exact absurd rfl hkey
  · cases h

/-- A channel object has its steps, as a list. -/
theorem exists_steps_of_objectOfValue {members : List (String × Value)} {channel : Channel}
    (h : objectOfValue (.object members) = .ok channel) :
    ∃ steps, ("steps", .array steps) ∈ members := by
  obtain ⟨draft, hdraft, hfinish⟩ := bind_eq_ok (show ofMembers members = .ok channel from h)
  have hmem : "steps" ∈ members.map Prod.fst := by
    refine Decidable.byContradiction fun hnot ↦ ?_
    have hsteps : draft.steps = none :=
      decodeMembers_of_not_mem (fun _ _ _ _ ↦ Draft.steps_of_visit) hdraft hnot
    rw [Draft.finish, hsteps] at hfinish
    cases hfinish
  obtain ⟨⟨key, value⟩, hmember, rfl⟩ := List.mem_map.mp hmem
  obtain ⟨front, back, rfl⟩ := List.append_of_mem hmember
  have hfield : (Frame.member front "steps" back).Holds shape "steps" := rfl
  obtain ⟨steps, hread⟩ := (readsFields.relays hfield rfl).exists_ok h
  obtain ⟨elements, rfl⟩ := Step.listOfValue_eq_ok hread
  exact ⟨elements, hmember⟩

/-- What is read as a channel is an object with steps or an array. -/
theorem isChannel_of_ofValue {value : Value} {stored : StoredChannel}
    (h : StoredChannel.ofValue value = .ok stored) : IsChannel value := by
  obtain ⟨channel, hobject⟩ | ⟨steps, hlist⟩ := exists_object_or_list h
  · rcases readsFields.record hobject with ⟨members, rfl⟩ | ⟨elements, rfl, -⟩
    · obtain ⟨steps, hsteps⟩ := exists_steps_of_objectOfValue hobject
      exact Or.inl ⟨members, steps, rfl, hsteps⟩
    · exact Or.inr ⟨elements, rfl⟩
  · exact Or.inr (Step.listOfValue_eq_ok hlist)

end StoredChannel

/-- Every node of a song that is read has a shape that its role admits, so that it has a shape
described for it or is an array. -/
theorem Song.admits_of_ofValue {role : Role} {context : List Frame} {node : Value} {song : Song}
    (hok : Song.ofValue (plug context node) = .ok song) (h : Stands role context node) :
    role.Admits node ∧ (role.Describes node ∨ ∃ elements, node = .array elements) := by
  suffices hadmits : role.Admits node from ⟨hadmits, hadmits.describes_or_array⟩
  cases role with
  | song =>
    cases h
    exact Song.readsFields.record hok
  | info =>
    obtain ⟨info, hinfo⟩ := h.relays_info.exists_ok hok
    exact Meta.readsFields.record hinfo
  | hats =>
    obtain ⟨hats, hhats⟩ := h.relays_hats.exists_ok hok
    exact Hats.readsFields.record hhats
  | pattern =>
    obtain ⟨pattern, hpattern⟩ := h.relays_pattern.exists_ok hok
    exact Pattern.readsFields.record hpattern
  | channel =>
    obtain ⟨stored, hstored⟩ := h.relays_channel.exists_ok hok
    exact StoredChannel.isChannel_of_ofValue hstored
  | step outer =>
    cases h with
    | step houter hplace =>
      rw [plug_append] at hok
      obtain ⟨stored, hstored⟩ := houter.relays_channel.exists_ok hok
      obtain ⟨step, hstep⟩ := hplace.exists_ok hstored
      exact (decodeOption_eq_ok hstep).imp_right fun ⟨_, hread⟩ ↦ Step.readsFields.record hread

/-- What is known about a song, as an array of the fields. -/
def rowsInfo : Value :=
  .array [.string "t", .string "a", .number (.integer 1)]

/-- Hats as an array of their fields. -/
def rowsHats : Value :=
  .array [.number (.integer 255), .number (.integer 5), .number (.integer 0),
    .number (.integer 8), .array []]

/-- A step as an array of the fields up to the last that is given. -/
def rowsStep : Value :=
  .array [.number (.integer 3)]

/-- A channel object with a step of no fields. -/
def rowsOther : Value :=
  .object [("steps", .array [.array []])]

/-- A song of one pattern with two channels, in which all records but one channel are arrays. -/
def rowsDocument : Value :=
  .array [.null, rowsInfo,
    .array [.array [.number (.integer 1), .array [.array [rowsStep], rowsOther]]], rowsHats]

/-- The frames around the pattern. -/
def rowsPattern : List Frame :=
  [.element [.null, rowsInfo] [rowsHats], .element [] []]

/-- The frames around the first channel. -/
def rowsChannel : List Frame :=
  rowsPattern ++ [.element [.number (.integer 1)] [], .element [] [rowsOther]]

theorem stands_rowsPattern (node : Value) : Stands .pattern rowsPattern node :=
  .pattern rfl

theorem stands_rowsStep : Stands (.step rowsChannel) (rowsChannel ++ [.element [] []]) rowsStep :=
  .step (.channel (stands_rowsPattern _) rfl) (.inList (by simp [rowsStep]))

/-- A step that is an array of its fields is admitted. -/
theorem admits_rowsStep :
    ∃ song, Song.ofValue (plug (rowsChannel ++ [.element [] []]) rowsStep) = .ok song ∧
      Stands (.step rowsChannel) (rowsChannel ++ [.element [] []]) rowsStep ∧
      (Role.step rowsChannel).Admits rowsStep ∧
      ((Role.step rowsChannel).Describes rowsStep ∨ ∃ elements, rowsStep = .array elements) :=
  ⟨_, rfl, stands_rowsStep, Song.admits_of_ofValue rfl stands_rowsStep⟩

/-- A document of arrays is read as a song, although nothing in it is described by an object. -/
theorem exists_not_describes_rowsDocument :
    (∃ song, Song.ofValue rowsDocument = .ok song) ∧
      ∀ role ∈ [Role.song, .info, .hats, .pattern, .step rowsChannel], ∃ context node,
        rowsDocument = plug context node ∧ Stands role context node ∧ ¬ role.Describes node := by
  have hlist : ∀ elements, ¬ ∃ members, Value.array elements = .object members := by simp
  refine ⟨⟨_, rfl⟩, fun role hrole ↦ ?_⟩
  simp only [List.mem_cons, List.not_mem_nil, or_false] at hrole
  rcases hrole with rfl | rfl | rfl | rfl | rfl
  · exact ⟨[], rowsDocument, rfl, .song, hlist _⟩
  · exact ⟨[.element [.null] _], rowsInfo, rfl, .info rfl, hlist _⟩
  · exact ⟨[.element [.null, rowsInfo, _] []], rowsHats, rfl, .hats rfl, hlist _⟩
  · exact ⟨rowsPattern, _, rfl, stands_rowsPattern _, hlist _⟩
  · exact ⟨_, rowsStep, rfl, stands_rowsStep, by simp [Role.Describes, rowsStep]⟩

/-! ### Where objects are -/

/-- The check passes no value that is an object or has one in it. -/
def TakesNoObject (check : FieldCheck) : Prop :=
  ∀ context members, check (plug context (.object members)) ≠ none

/-- A reader of plain values finds no object below its value. -/
theorem takesNoObject_of_scalar {α : Type} {decode : Value → Decoded α}
    (hobject : ∀ members, ∃ e, decode (.object members) = .error e)
    (harray : ∀ elements, ∃ e, decode (.array elements) = .error e) :
    TakesNoObject (checkOf decode) := by
  intro context members hnone
  obtain ⟨a, hok⟩ := checkOf_eq_none_iff.mp hnone
  have herror : ∃ e, decode (plug context (.object members)) = .error e := by
    cases context with
    | nil => exact hobject members
    | cons frame context =>
      cases frame with
      | member front key back => exact hobject _
      | element front back => exact harray _
  obtain ⟨e, herror⟩ := herror
  rw [hok] at herror
  cases herror

theorem takesNoObject_byte : TakesNoObject (checkOf decodeByte) :=
  takesNoObject_of_scalar (fun _ ↦ ⟨_, rfl⟩) fun _ ↦ ⟨_, rfl⟩

theorem takesNoObject_instant : TakesNoObject (checkOf decodeInstant) :=
  takesNoObject_of_scalar (fun _ ↦ ⟨_, rfl⟩) fun _ ↦ ⟨_, rfl⟩

theorem takesNoObject_bool : TakesNoObject (checkOf decodeBool) :=
  takesNoObject_of_scalar (fun _ ↦ ⟨_, rfl⟩) fun _ ↦ ⟨_, rfl⟩

theorem takesNoObject_string : TakesNoObject (checkOf decodeString) :=
  takesNoObject_of_scalar (fun _ ↦ ⟨_, rfl⟩) fun _ ↦ ⟨_, rfl⟩

theorem plug_object_ne_null (context : List Frame) (members : List (String × Value)) :
    plug context (.object members) ≠ .null := by
  cases context with
  | nil => simp
  | cons frame context => cases frame <;> simp [Frame.plug]

theorem takesNoObject_decodeOption {α : Type} {decode : Value → Decoded α}
    (h : TakesNoObject (checkOf decode)) : TakesNoObject (checkOf (decodeOption decode)) := by
  intro context members hnone
  obtain ⟨a, hok⟩ := checkOf_eq_none_iff.mp hnone
  obtain hnull | hread := decodeOption_eq_ok hok
  · exact plug_object_ne_null context members hnull
  · exact h context members (checkOf_eq_none_iff.mpr hread)

/-- An object in a list that is read is in one of the elements. -/
theorem exists_element_of_decodeList {α : Type} {decode : Value → Decoded α}
    {context : List Frame} {members : List (String × Value)} {list : List α}
    (hok : decodeList decode (plug context (.object members)) = .ok list) :
    ∃ front back rest a, context = .element front back :: rest ∧
      decode (plug rest (.object members)) = .ok a := by
  cases context with
  | nil => cases hok
  | cons frame rest =>
    cases frame with
    | member front key back => cases hok
    | element front back =>
      obtain ⟨a, ha⟩ := (relays_decodeList decode front back).exists_ok hok
      exact ⟨front, back, rest, a, rfl, ha⟩

/-- A list has no object in it if its elements have none. -/
theorem takesNoObject_decodeList {α : Type} {decode : Value → Decoded α}
    (h : TakesNoObject (checkOf decode)) : TakesNoObject (checkOf (decodeList decode)) := by
  intro context members hnone
  obtain ⟨list, hok⟩ := checkOf_eq_none_iff.mp hnone
  obtain ⟨front, back, rest, a, -, ha⟩ := exists_element_of_decodeList hok
  exact h rest members (checkOf_eq_none_iff.mpr ⟨a, ha⟩)

section Fields

variable {α : Type} {decode : Value → Decoded α} {shape : RecordShape}
  {checks : List (String × FieldCheck)}

theorem exists_split_of_lt_length {position : Nat} (h : position < checks.length) :
    ∃ first entry rest, checks = first ++ entry :: rest ∧ first.length = position := by
  refine ⟨checks.take position, checks[position], checks.drop (position + 1), ?_,
    List.length_take_of_le (Nat.le_of_lt h)⟩
  rw [List.getElem_cons_drop, List.take_append_drop]

/-- What is in a record that is read is in one of its fields, and the check of the field passes
it. -/
theorem ReadsFields.exists_field (h : ReadsFields decode shape checks) {frame : Frame}
    {value : Value} {a : α} (hok : decode (frame.plug value) = .ok a) :
    ∃ name check, (name, check) ∈ checks ∧ frame.Holds shape name ∧ check value = none := by
  have hnone := h.childFault?_eq_none hok
  cases frame with
  | member front key back =>
    rw [Frame.plug, childFault?, List.findSome?_append, List.findSome?_cons,
      Option.or_eq_none_iff] at hnone
    cases hlookup : checks.lookup key with
    | none =>
      rw [memberFault?, hlookup] at hnone
      cases hnone.2
    | some check =>
      rw [memberFault?_of_lookup hlookup] at hnone
      obtain ⟨first, rest, rfl, -⟩ := exists_split_of_lookup hlookup
      refine ⟨key, check, by simp, rfl, ?_⟩
      cases hcheck : check value with
      | none => rfl
      | some e =>
        rw [hcheck] at hnone
        cases hnone.2
  | element front back =>
    obtain ⟨members, hmembers⟩ | ⟨elements, helements, hlength⟩ := h.record hok
    · cases hmembers
    · cases helements
      have hlt : front.length < checks.length := by
        rw [← List.length_map Prod.fst, h.names]
        simp only [List.length_append, List.length_cons] at hlength
        omega
      obtain ⟨first, ⟨name, check⟩, rest, rfl, hfirst⟩ := exists_split_of_lt_length hlt
      rw [Frame.plug, childFault?, elementsFault?_append hfirst, Option.or_eq_none_iff,
        Option.or_eq_none_iff, Option.map_eq_none_iff] at hnone
      exact ⟨name, check, by simp, h.holds_element hfirst back, hnone.2.1⟩

/-- A record whose fields take no object has no object in it. -/
theorem ReadsFields.context_eq_nil (h : ReadsFields decode shape checks)
    (hchecks : ∀ entry ∈ checks, TakesNoObject entry.2) {context : List Frame}
    {members : List (String × Value)} {a : α}
    (hok : decode (plug context (.object members)) = .ok a) : context = [] := by
  cases context with
  | nil => rfl
  | cons frame context =>
    obtain ⟨name, check, hmem, -, hnone⟩ := h.exists_field hok
    exact absurd hnone (hchecks (name, check) hmem context members)

end Fields

theorem Step.takesNoObject_of_mem : ∀ entry ∈ checks, TakesNoObject entry.2 := by
  simp [checks, takesNoObject_decodeOption, takesNoObject_byte, takesNoObject_string,
    takesNoObject_bool]

theorem Meta.takesNoObject_of_mem : ∀ entry ∈ checks, TakesNoObject entry.2 := by
  simp [checks, takesNoObject_decodeOption, takesNoObject_byte, takesNoObject_string,
    takesNoObject_instant]

theorem Hats.takesNoObject_of_mem : ∀ entry ∈ checks, TakesNoObject entry.2 := by
  simp [checks, takesNoObject_decodeList, takesNoObject_byte]

/-- An object in a list of steps is one of its elements. -/
theorem Step.exists_context_of_listOfValue {context : List Frame}
    {members : List (String × Value)} {steps : List Step}
    (hok : Step.listOfValue (plug context (.object members)) = .ok steps) :
    ∃ front back, context = [.element front back] := by
  obtain ⟨list, hlist, -⟩ := eq_ok_of_map_eq_ok hok
  obtain ⟨front, back, rest, a, rfl, ha⟩ := exists_element_of_decodeList hlist
  obtain hnull | ⟨step, hstep⟩ := decodeOption_eq_ok ha
  · exact absurd hnull (plug_object_ne_null rest members)
  · cases Step.readsFields.context_eq_nil Step.takesNoObject_of_mem hstep
    exact ⟨front, back, rfl⟩

/-- A list of steps does not start with a truth value. -/
theorem Step.head?_of_listOfValue {elements : List Value} {steps : List Step}
    (h : Step.listOfValue (.array elements) = .ok steps) (flag : Bool) :
    elements.head? ≠ some (.bool flag) := by
  intro hhead
  obtain ⟨rest, rfl⟩ := List.head?_eq_some_iff.mp hhead
  cases h

/-- An object in a channel, other than the channel, is one of its steps: the only other field is the
attenuation, which is a truth value. -/
theorem StoredChannel.stepPlace_of_ofValue {frame : Frame} {context : List Frame}
    {members : List (String × Value)} {stored : StoredChannel}
    (hok : StoredChannel.ofValue (plug (frame :: context) (.object members)) = .ok stored) :
    StepPlace (frame :: context) (.object members) := by
  obtain ⟨channel, hobject⟩ | ⟨steps, hlist⟩ := exists_object_or_list hok
  · obtain ⟨name, check, hmem, hfield, hnone⟩ := readsFields.exists_field hobject
    simp only [checks, List.mem_cons, Prod.mk.injEq, List.not_mem_nil, or_false] at hmem
    obtain ⟨rfl, rfl⟩ | ⟨rfl, rfl⟩ := hmem
    · exact absurd hnone (takesNoObject_bool context members)
    · obtain ⟨steps, hsteps⟩ := checkOf_eq_none_iff.mp hnone
      obtain ⟨front, back, rfl⟩ := Step.exists_context_of_listOfValue hsteps
      cases frame with
      | member first key last =>
        cases hfield
        exact .underKey
      | element first last =>
        obtain ⟨flag, rfl⟩ := List.length_eq_one_iff.mp (show first.length = 1 from hfield)
        cases flag with
        | bool flag => exact .behindFlag
        | _ => cases hobject
  · obtain ⟨front, back, heq⟩ := Step.exists_context_of_listOfValue hlist
    cases heq
    exact .inList (Step.head?_of_listOfValue hlist)

/-- An object in a pattern, other than the pattern, is one of its channels or in one. -/
theorem Pattern.exists_channel_of_ofValue {frame : Frame} {context : List Frame}
    {members : List (String × Value)} {pattern : Pattern}
    (hok : Pattern.ofValue (plug (frame :: context) (.object members)) = .ok pattern) :
    ∃ front back inner stored, context = .element front back :: inner ∧
      frame.Holds shape "channels" ∧
      StoredChannel.ofValue (plug inner (.object members)) = .ok stored := by
  obtain ⟨name, check, hmem, hfield, hnone⟩ := readsFields.exists_field hok
  simp only [checks, List.mem_cons, Prod.mk.injEq, List.not_mem_nil, or_false] at hmem
  obtain ⟨rfl, rfl⟩ | ⟨rfl, rfl⟩ | ⟨rfl, rfl⟩ | ⟨rfl, rfl⟩ := hmem
  · exact absurd hnone (takesNoObject_byte context members)
  · obtain ⟨channels, hchannels⟩ := checkOf_eq_none_iff.mp hnone
    obtain ⟨front, back, inner, stored, heq, hstored⟩ := exists_element_of_decodeList hchannels
    exact ⟨front, back, inner, stored, heq, hfield, hstored⟩
  · exact absurd hnone (takesNoObject_decodeOption takesNoObject_bool context members)
  · exact absurd hnone (takesNoObject_decodeOption takesNoObject_bool context members)

/-- An object in a pattern of a song stands for the pattern, a channel or a step. -/
theorem Pattern.exists_stands {outer context : List Frame} {members : List (String × Value)}
    {pattern : Pattern} (houter : Stands .pattern outer (plug context (.object members)))
    (hok : Pattern.ofValue (plug context (.object members)) = .ok pattern) :
    ∃ role, Stands role (outer ++ context) (.object members) := by
  cases context with
  | nil =>
    rw [List.append_nil]
    exact ⟨.pattern, houter⟩
  | cons field context =>
    obtain ⟨front, back, inner, stored, rfl, hfield, hstored⟩ := exists_channel_of_ofValue hok
    have hchannel : Stands .channel (outer ++ [field, .element front back])
        (plug inner (.object members)) := .channel houter hfield
    have hcontext : outer ++ field :: .element front back :: inner =
        (outer ++ [field, .element front back]) ++ inner := by
      rw [List.append_assoc]
      rfl
    rw [hcontext]
    cases inner with
    | nil =>
      rw [List.append_nil]
      exact ⟨.channel, hchannel⟩
    | cons frame inner =>
      exact ⟨.step _, .step hchannel (StoredChannel.stepPlace_of_ofValue hstored)⟩

/-- Every object in a song that is read stands for a part of the song. -/
theorem Song.exists_stands {context : List Frame} {members : List (String × Value)} {song : Song}
    (hok : Song.ofValue (plug context (.object members)) = .ok song) :
    ∃ role, Stands role context (.object members) := by
  cases context with
  | nil => exact ⟨.song, .song⟩
  | cons field context =>
    obtain ⟨name, check, hmem, hfield, hnone⟩ := readsFields.exists_field hok
    simp only [checks, List.mem_cons, Prod.mk.injEq, List.not_mem_nil, or_false] at hmem
    obtain ⟨rfl, rfl⟩ | ⟨rfl, rfl⟩ | ⟨rfl, rfl⟩ | ⟨rfl, rfl⟩ := hmem
    · exact absurd hnone (takesNoObject_decodeOption takesNoObject_string context members)
    · obtain ⟨info, hinfo⟩ := checkOf_eq_none_iff.mp hnone
      cases Meta.readsFields.context_eq_nil Meta.takesNoObject_of_mem hinfo
      exact ⟨.info, .info hfield⟩
    · obtain ⟨patterns, hpatterns⟩ := checkOf_eq_none_iff.mp hnone
      obtain ⟨front, back, rest, pattern, rfl, hpattern⟩ := exists_element_of_decodeList hpatterns
      exact Pattern.exists_stands (.pattern hfield) hpattern
    · obtain ⟨hats, hhats⟩ := checkOf_eq_none_iff.mp hnone
      cases Hats.readsFields.context_eq_nil Hats.takesNoObject_of_mem hhats
      exact ⟨.hats, .hats hfield⟩

end StepSequencer
