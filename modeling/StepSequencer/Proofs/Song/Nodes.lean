import StepSequencer.Proofs.Song.PathTexts
import StepSequencer.Proofs.Song.Records

/-!
# Nodes of a document

A `Frame` is an object or an array with a place for one value, and a list of frames, from the root
down, is all of a document but one node. `Stands` says what a node stands for: the song, what is
known about it, the hats, a pattern, a channel or a step. Records may be arrays of their fields, so
a field is found under its key or at its position.

A reader `Relays` the errors of a node if it reads the node with a reader of its own and reports
the mismatches of that one, with the way to the node before their paths. All readers of a song do
so down to the channels. A channel tries two layouts and keeps the mismatches inside to itself
(`StepPlace.ofValue_eq_error`).
-/

set_option autoImplicit false
set_option relaxedAutoImplicit false

namespace StepSequencer

open Json (Value)

/-! ### Frames -/

/-- An object or an array with a place for one value. -/
inductive Frame where
  | member (front : List (String × Value)) (key : String) (back : List (String × Value))
  | element (front back : List Value)

namespace Frame

/-- The object or array with a value in its place. -/
def plug : Frame → Value → Value
  | member front key back, value => .object (front ++ (key, value) :: back)
  | element front back, value => .array (front ++ value :: back)

/-- The step down to the place. -/
def step : Frame → PathStep
  | member _ key _ => .key key
  | element front _ => .index front.length

/-- The place is the one of a field: it is under the key of the field or, in an array, at the
position of the field. -/
def Holds (shape : RecordShape) (name : String) : Frame → Prop
  | member _ key _ => key = name
  | element front _ => front.length = shape.fields.idxOf name

end Frame

/-- The document that has a value in the place that some frames leave, given from the root down. -/
def plug (context : List Frame) (value : Value) : Value :=
  context.foldr Frame.plug value

/-- The way from the root to the place. -/
def wayTo (context : List Frame) : List PathStep :=
  context.map Frame.step

@[simp] theorem plug_nil (value : Value) : plug [] value = value :=
  rfl

@[simp] theorem plug_cons (frame : Frame) (context : List Frame) (value : Value) :
    plug (frame :: context) value = frame.plug (plug context value) :=
  rfl

@[simp] theorem plug_append (context inner : List Frame) (value : Value) :
    plug (context ++ inner) value = plug context (plug inner value) :=
  List.foldr_append

@[simp] theorem wayTo_append (context inner : List Frame) :
    wayTo (context ++ inner) = wayTo context ++ wayTo inner :=
  List.map_append

/-- The path of a node in a field of the song is not written like the root. -/
theorem Frame.Holds.renderPath_ne {field : Frame} {name : String}
    (h : field.Holds Song.shape name) (hname : name ∈ Song.shape.fields) (rest : List PathStep) :
    SchemaError.renderPath (field.step :: rest) ≠ "." := by
  have hletter : ∀ field ∈ Song.shape.fields, ∃ c, field.toList.head? = some c ∧ c ≠ '.' := by
    simp [Song.shape]
  cases field with
  | member front key back =>
    cases h
    obtain ⟨c, hc, hne⟩ := hletter name hname
    refine SchemaError.renderPath_ne_point ?_ hne
    rw [Frame.step, SchemaError.toList_renderStep_key, String.toList_empty, List.nil_append, hc]
  | element front back =>
    refine SchemaError.renderPath_ne_point (c := '[') ?_ (by decide)
    rw [Frame.step, SchemaError.toList_renderStep_index, List.head?_cons]

/-! ### What nodes stand for -/

/-- What a node stands for; a step belongs to the channel in a context. -/
inductive Role where
  | song
  | info
  | hats
  | pattern
  | channel
  | step (channel : List Frame)

/-- The name and the fields of the record that the node is. -/
def Role.shape : Role → RecordShape
  | song => Song.shape
  | info => Meta.shape
  | hats => Hats.shape
  | pattern => Pattern.shape
  | channel => StoredChannel.shape
  | step _ => Step.shape

/-- A step in a channel: in the list under its key, in the list behind the attenuation, or in a
channel that is a list of steps. A list that starts with a truth value is not one of steps. -/
inductive StepPlace : List Frame → Value → Prop
  | underKey {first last : List (String × Value)} {front back : List Value} {node : Value} :
    StepPlace [.member first "steps" last, .element front back] node
  | behindFlag {flag : Bool} {rest front back : List Value} {node : Value} :
    StepPlace [.element [.bool flag] rest, .element front back] node
  | inList {front back : List Value} {node : Value}
      (h : ∀ flag, (front ++ node :: back).head? ≠ some (.bool flag)) :
    StepPlace [.element front back] node

/-- A node of a document stands for a part of a song. -/
inductive Stands : Role → List Frame → Value → Prop
  | song {node : Value} : Stands .song [] node
  | info {field : Frame} {node : Value} (h : field.Holds Song.shape "meta") :
    Stands .info [field] node
  | hats {field : Frame} {node : Value} (h : field.Holds Song.shape "hats") :
    Stands .hats [field] node
  | pattern {field : Frame} {front back : List Value} {node : Value}
      (h : field.Holds Song.shape "patterns") :
    Stands .pattern [field, .element front back] node
  | channel {outer : List Frame} {field : Frame} {front back : List Value} {node : Value}
      (houter : Stands .pattern outer (plug [field, .element front back] node))
      (h : field.Holds Pattern.shape "channels") :
    Stands .channel (outer ++ [field, .element front back]) node
  | step {outer inner : List Frame} {node : Value}
      (houter : Stands .channel outer (plug inner node)) (h : StepPlace inner node) :
    Stands (.step outer) (outer ++ inner) node

/-! ### Readers that relay errors -/

section Relays

variable {α β γ : Type}

/-- Where the document is read, the node is read with another reader, and the errors of that one
are reported with the way to the node. -/
def Relays (outer : Value → Decoded α) (context : List Frame) (inner : Value → Decoded β) :
    Prop :=
  ∀ ⦃value other : Value⦄ ⦃a : α⦄ ⦃e : SchemaError⦄, outer (plug context value) = .ok a →
    inner other = .error e →
      outer (plug context other) = .error ⟨wayTo context ++ e.path, e.mismatch⟩

/-- Where the whole is read the part is read. -/
theorem Relays.exists_ok {outer : Value → Decoded α} {context : List Frame}
    {inner : Value → Decoded β} (h : Relays outer context inner) {value : Value} {a : α}
    (hok : outer (plug context value) = .ok a) : ∃ b, inner value = .ok b := by
  cases hvalue : inner value with
  | ok b => exact ⟨b, rfl⟩
  | error e =>
    have herror := h hok hvalue
    rw [hok] at herror
    cases herror

/-- Errors are passed on through several contexts. -/
theorem Relays.append {outer : Value → Decoded α} {middle : Value → Decoded β}
    {inner : Value → Decoded γ} {context deeper : List Frame} (houter : Relays outer context middle)
    (hinner : Relays middle deeper inner) : Relays outer (context ++ deeper) inner := by
  intro value other a e hok herror
  rw [plug_append] at hok ⊢
  obtain ⟨b, hmiddle⟩ := houter.exists_ok hok
  rw [houter hok (hinner hmiddle herror), wayTo_append, List.append_assoc]

/-- An element that is refused makes the list refused at its position. -/
theorem decodeElements_of_error {decode : Value → Decoded α} {front back : List Value}
    {value other : Value} {start : Nat} {list : List α} {e : SchemaError}
    (hok : decodeElements decode start (front ++ value :: back) = .ok list)
    (herror : decode other = .error e) :
    decodeElements decode start (front ++ other :: back) =
      .error ⟨.index (start + front.length) :: e.path, e.mismatch⟩ := by
  induction front generalizing start list with
  | nil => rw [List.nil_append, decodeElements, herror]; rfl
  | cons first front ih =>
    rw [List.cons_append, decodeElements] at hok
    obtain ⟨a, hfirst, hok⟩ := bind_eq_ok hok
    obtain ⟨others, hothers, -⟩ := bind_eq_ok hok
    rw [List.cons_append, decodeElements, hfirst, ih hothers, List.length_cons,
      Nat.add_right_comm, ← Nat.add_assoc]
    rfl

/-- A list passes on the errors of its elements. -/
theorem relays_decodeList (decode : Value → Decoded α) (front back : List Value) :
    Relays (decodeList decode) [.element front back] decode := by
  intro value other a e hok herror
  have hlist := decodeElements_of_error hok herror
  rw [Nat.zero_add] at hlist
  exact hlist

theorem Relays.map {outer : Value → Decoded α} {context : List Frame} {inner : Value → Decoded β}
    (h : Relays outer context inner) (f : α → γ) :
    Relays (fun value ↦ (outer value).map f) context inner := by
  intro value other c e hok herror
  obtain ⟨a, ha, -⟩ := eq_ok_of_map_eq_ok hok
  simp only [h ha herror]
  rfl

end Relays

/-! ### Fields of records -/

theorem exists_split_of_lookup {checks : List (String × FieldCheck)} {name : String}
    {check : FieldCheck} (h : checks.lookup name = some check) :
    ∃ first rest, checks = first ++ (name, check) :: rest ∧
      first.length = (checks.map Prod.fst).idxOf name := by
  induction checks with
  | nil => cases h
  | cons other checks ih =>
    obtain ⟨key, otherCheck⟩ := other
    rw [List.lookup_cons] at h
    by_cases hkey : name = key
    · subst hkey
      rw [beq_self_eq_true] at h
      cases h
      exact ⟨[], checks, rfl, by simp⟩
    · rw [beq_false_of_ne hkey] at h
      obtain ⟨first, rest, hsplit, hlength⟩ := ih h
      refine ⟨(key, otherCheck) :: first, rest, by rw [hsplit]; rfl, ?_⟩
      simp [List.idxOf_cons, beq_false_of_ne (Ne.symm hkey), hlength]

/-- The first fault of an array is in the front, at the element, or behind it. -/
theorem elementsFault?_append {first rest : List (String × FieldCheck)} {name : String}
    {check : FieldCheck} {front back : List Value} (hlength : first.length = front.length)
    (position : Nat) (value : Value) :
    elementsFault? position (first ++ (name, check) :: rest) (front ++ value :: back) =
      (elementsFault? position first front).or
        (((check value).map (SchemaError.under (.index (position + front.length)))).or
          (elementsFault? (position + front.length + 1) rest back)) := by
  induction first generalizing front position with
  | nil =>
    cases front with
    | nil => rfl
    | cons other front => cases hlength
  | cons other first ih =>
    cases front with
    | nil => cases hlength
    | cons element front =>
      obtain ⟨key, otherCheck⟩ := other
      rw [List.length_cons, List.length_cons, Nat.succ.injEq] at hlength
      rw [List.cons_append, List.cons_append, elementsFault?, elementsFault?, ih hlength,
        Option.or_assoc, List.length_cons, Nat.add_right_comm, ← Nat.add_assoc]

section Fields

variable {α β : Type} {decode : Value → Decoded α} {shape : RecordShape}
  {checks : List (String × FieldCheck)}

/-- A record that is read has no fault in its fields. -/
theorem ReadsFields.childFault?_eq_none (h : ReadsFields decode shape checks) {value : Value}
    {a : α} (hok : decode value = .ok a) : childFault? shape checks value = none := by
  cases hfault : childFault? shape checks value with
  | none => rfl
  | some e =>
    rw [h.child hfault] at hok
    cases hok

/-- The check of a position in an array is that of the field at this position. -/
theorem ReadsFields.holds_element {first rest : List (String × FieldCheck)} {name : String}
    {check : FieldCheck} (h : ReadsFields decode shape (first ++ (name, check) :: rest))
    {front : List Value} (hlength : first.length = front.length) (back : List Value) :
    (Frame.element front back).Holds shape name := by
  have hnodup := h.nodup
  rw [Frame.Holds]
  rw [← h.names, List.map_append, List.map_cons] at hnodup ⊢
  have hnot : name ∉ first.map Prod.fst := fun hmem ↦
    (List.nodup_append.mp hnodup).2.2 name hmem name List.mem_cons_self rfl
  rw [List.idxOf_append, if_neg hnot, List.idxOf_cons_self, List.length_map, Nat.zero_add,
    hlength]

/-- The errors of a field are relayed. -/
theorem ReadsFields.relays (h : ReadsFields decode shape checks) {frame : Frame} {name : String}
    {inner : Value → Decoded β} (hframe : frame.Holds shape name)
    (hlookup : checks.lookup name = some (checkOf inner)) : Relays decode [frame] inner := by
  intro value other a e hok herror
  have hnone := h.childFault?_eq_none hok
  have hother : checkOf inner other = some e := by rw [checkOf, herror]; rfl
  refine h.child ?_
  cases frame with
  | member front key back =>
    cases hframe
    simp only [plug_cons, plug_nil, Frame.plug, childFault?, List.findSome?_append,
      Option.or_eq_none_iff] at hnone ⊢
    rw [hnone.1, List.findSome?_cons, memberFault?_of_lookup hlookup, hother]
    rfl
  | element front back =>
    obtain ⟨first, rest, rfl, hlength⟩ := exists_split_of_lookup hlookup
    rw [h.names, ← hframe] at hlength
    simp only [plug_cons, plug_nil, Frame.plug, childFault?, elementsFault?_append hlength,
      Option.or_eq_none_iff] at hnone ⊢
    rw [hnone.1, hother, Nat.zero_add]
    rfl

end Fields

/-! ### From the song down to its channels -/

theorem Stands.relays_info {context : List Frame} {node : Value}
    (h : Stands .info context node) : Relays Song.ofValue context Meta.ofValue := by
  cases h with
  | info h => exact Song.readsFields.relays h rfl

theorem Stands.relays_hats {context : List Frame} {node : Value}
    (h : Stands .hats context node) : Relays Song.ofValue context Hats.ofValue := by
  cases h with
  | hats h => exact Song.readsFields.relays h rfl

theorem Stands.relays_pattern {context : List Frame} {node : Value}
    (h : Stands .pattern context node) : Relays Song.ofValue context Pattern.ofValue := by
  cases h with
  | pattern h => exact (Song.readsFields.relays h rfl).append (relays_decodeList _ _ _)

/-- A song passes on the errors of its channels. -/
theorem Stands.relays_channel {context : List Frame} {node : Value}
    (h : Stands .channel context node) : Relays Song.ofValue context StoredChannel.ofValue := by
  cases h with
  | channel houter h =>
    exact houter.relays_pattern.append
      ((Pattern.readsFields.relays h rfl).append (relays_decodeList _ _ _))

/-! ### Steps in a channel -/

namespace StoredChannel

theorem ofValue_of_errors {value : Value} {e e' : SchemaError}
    (hobject : objectOfValue value = .error e) (hlist : Step.listOfValue value = .error e') :
    StoredChannel.ofValue value = .error ⟨[], .noLayout "RawChannel"⟩ := by
  rw [StoredChannel.ofValue, hobject, hlist]
  rfl

/-- What is read as a channel is read as an object or as a list of steps. -/
theorem exists_object_or_list {value : Value} {stored : StoredChannel}
    (h : StoredChannel.ofValue value = .ok stored) :
    (∃ channel, objectOfValue value = .ok channel) ∨
      ∃ steps, Step.listOfValue value = .ok steps := by
  cases hobject : objectOfValue value with
  | ok channel => exact Or.inl ⟨channel, rfl⟩
  | error e =>
    cases hlist : Step.listOfValue value with
    | ok steps => exact Or.inr ⟨steps, rfl⟩
    | error e' =>
      rw [ofValue_of_errors hobject hlist] at h
      cases h

/-- An array that does not start with a truth value has no attenuation and so is no channel
object. -/
theorem exists_objectOfValue_eq_error {elements : List Value}
    (h : ∀ flag, elements.head? ≠ some (.bool flag)) :
    ∃ e, objectOfValue (.array elements) = .error e := by
  cases elements with
  | nil => exact ⟨_, rfl⟩
  | cons first rest =>
    cases first with
    | bool flag => exact absurd rfl (h flag)
    | _ => exact ⟨_, rfl⟩

end StoredChannel

theorem Step.relays_listOfValue (front back : List Value) :
    Relays Step.listOfValue [.element front back] (decodeOption Step.ofValue) :=
  (relays_decodeList (decodeOption Step.ofValue) front back).map _

theorem StoredChannel.relays_steps {field : Frame} (h : field.Holds shape "steps")
    (front back : List Value) :
    Relays objectOfValue [field, .element front back] (decodeOption Step.ofValue) :=
  (readsFields.relays h rfl).append (Step.relays_listOfValue front back)

/-- A channel of which a step cannot be read has neither layout. A list of steps starts with no
truth value, so it is no channel object either. -/
theorem StepPlace.ofValue_eq_error {inner : List Frame} {node other : Value}
    {stored : StoredChannel} {e : SchemaError} (hnode : StepPlace inner node)
    (hother : StepPlace inner other) (hok : StoredChannel.ofValue (plug inner node) = .ok stored)
    (herror : decodeOption Step.ofValue other = .error e) :
    StoredChannel.ofValue (plug inner other) = .error ⟨[], .noLayout "RawChannel"⟩ := by
  have hlayouts := StoredChannel.exists_object_or_list hok
  cases hnode with
  | @underKey first last =>
    have hfield : (Frame.member first "steps" last).Holds StoredChannel.shape "steps" := rfl
    obtain ⟨channel, hobject⟩ | ⟨steps, hlist⟩ := hlayouts
    · exact StoredChannel.ofValue_of_errors
        (StoredChannel.relays_steps hfield _ _ hobject herror) rfl
    · cases hlist
  | @behindFlag flag rest =>
    have hfield : (Frame.element [.bool flag] rest).Holds StoredChannel.shape "steps" := rfl
    obtain ⟨channel, hobject⟩ | ⟨steps, hlist⟩ := hlayouts
    · exact StoredChannel.ofValue_of_errors
        (StoredChannel.relays_steps hfield _ _ hobject herror) rfl
    · cases hlist
  | inList hhead =>
    cases hother with
    | inList hheadOther =>
      obtain ⟨e', hnot⟩ := StoredChannel.exists_objectOfValue_eq_error hhead
      obtain ⟨e'', hobject⟩ := StoredChannel.exists_objectOfValue_eq_error hheadOther
      obtain ⟨channel, hchannel⟩ | ⟨steps, hlist⟩ := hlayouts
      · exact absurd (hchannel.symm.trans hnot) (by simp)
      · exact StoredChannel.ofValue_of_errors hobject
          (Step.relays_listOfValue _ _ hlist herror)

/-- In a channel that is read every step is read. -/
theorem StepPlace.exists_ok {inner : List Frame} {node : Value} {stored : StoredChannel}
    (h : StepPlace inner node) (hok : StoredChannel.ofValue (plug inner node) = .ok stored) :
    ∃ step, decodeOption Step.ofValue node = .ok step := by
  cases hstep : decodeOption Step.ofValue node with
  | ok step => exact ⟨step, rfl⟩
  | error e =>
    rw [h.ofValue_eq_error h hok hstep] at hok
    cases hok

end StepSequencer
