import StepSequencer.Proofs.Song.Accepted

/-!
# How records are read

Every record of a song is read in the same way. The members of an object are checked in turn, each
by the reader of its field, and a member that is no field is a fault; the elements of an array are
checked by the readers of the fields in their order. The first fault that is found so is the error
that is reported, with the step down to the field before its path. Only if there is none the record
itself can be at fault, for a field that is missing or an array that is too long.

`ReadsFields` says this of a reader and a list of checks, one for each field in the order of the
declaration. All later statements about records use it and not the readers themselves.
-/

set_option autoImplicit false
set_option relaxedAutoImplicit false

namespace StepSequencer

open Json (Value)

/-! ### Faults -/

section Outcome

variable {α β : Type}

/-- The error of an outcome, if it is one. -/
def faultOf : Decoded α → Option SchemaError
  | .ok _ => none
  | .error e => some e

/-- The error seen from the node above. -/
def SchemaError.under (step : PathStep) (e : SchemaError) : SchemaError :=
  ⟨step :: e.path, e.mismatch⟩

theorem faultOf_eq_none_iff {outcome : Decoded α} :
    faultOf outcome = none ↔ ∃ a, outcome = .ok a := by
  cases outcome <;> simp [faultOf]

theorem faultOf_eq_some_iff {outcome : Decoded α} {e : SchemaError} :
    faultOf outcome = some e ↔ outcome = .error e := by
  cases outcome <;> simp [faultOf]

@[simp] theorem faultOf_below (step : PathStep) (outcome : Decoded α) :
    faultOf (below step outcome) = (faultOf outcome).map (SchemaError.under step) := by
  cases outcome <;> rfl

@[simp] theorem faultOf_map (f : α → β) (outcome : Decoded α) :
    faultOf (outcome.map f) = faultOf outcome := by
  cases outcome <;> rfl

@[simp] theorem faultOf_bind_pure (outcome : Decoded α) (f : α → β) :
    faultOf (do let a ← outcome; return f a) = faultOf outcome := by
  cases outcome <;> rfl

end Outcome

/-! ### Checks of fields -/

/-- What is wrong with the value of a field, if anything. -/
abbrev FieldCheck : Type :=
  Value → Option SchemaError

/-- The check that a reader makes. -/
def checkOf {α : Type} (decode : Value → Decoded α) : FieldCheck :=
  fun value ↦ faultOf (decode value)

section Check

variable {α : Type} {decode : Value → Decoded α} {value : Value}

theorem checkOf_eq_none_iff : checkOf decode value = none ↔ ∃ a, decode value = .ok a :=
  faultOf_eq_none_iff

theorem checkOf_eq_some_iff {e : SchemaError} :
    checkOf decode value = some e ↔ decode value = .error e :=
  faultOf_eq_some_iff

end Check

/-- The fault of a member of an object. -/
def memberFault? (shape : RecordShape) (checks : List (String × FieldCheck))
    (member : String × Value) : Option SchemaError :=
  match checks.lookup member.1 with
  | some check => (check member.2).map (SchemaError.under (.key member.1))
  | none => some ⟨[.key member.1], .unknownField member.1 shape.fields⟩

/-- The first fault of the elements of an array from a position on. -/
def elementsFault? : Nat → List (String × FieldCheck) → List Value → Option SchemaError
  | position, (_, check) :: checks, value :: values =>
    ((check value).map (SchemaError.under (.index position))).or
      (elementsFault? (position + 1) checks values)
  | _, _, _ => none

/-- The first fault of what is inside a record. -/
def childFault? (shape : RecordShape) (checks : List (String × FieldCheck)) :
    Value → Option SchemaError
  | .object members => members.findSome? (memberFault? shape checks)
  | .array elements => elementsFault? 0 checks elements
  | _ => none

/-- The value is an object, or an array of no more elements than the record has fields. -/
def IsRecord (shape : RecordShape) (value : Value) : Prop :=
  (∃ members, value = .object members) ∨
    ∃ elements, value = .array elements ∧ elements.length ≤ shape.fields.length

/-- The reader reads a record with a check for every field. -/
structure ReadsFields {α : Type} (decode : Value → Decoded α) (shape : RecordShape)
    (checks : List (String × FieldCheck)) : Prop where
  names : checks.map Prod.fst = shape.fields
  nodup : shape.fields.Nodup
  record : ∀ {value a}, decode value = .ok a → IsRecord shape value
  child : ∀ {value e}, childFault? shape checks value = some e → decode value = .error e
  own : ∀ {value e}, childFault? shape checks value = none → decode value = .error e →
    e.path = []

section Reading

variable {α β δ : Type} {shape : RecordShape} {checks : List (String × FieldCheck)}

/-- A member with a known key has the fault of its field. -/
theorem memberFault?_of_lookup {key : String} {check : FieldCheck}
    (h : checks.lookup key = some check) (value : Value) :
    memberFault? shape checks (key, value) =
      (check value).map (SchemaError.under (.key key)) := by
  unfold memberFault?
  rw [h]

theorem faultOf_field {key : String} {decode : Value → Decoded β} {value : Value} {f : β → δ}
    (h : checks.lookup key = some (checkOf decode)) :
    faultOf (do let b ← fieldAt key decode value; return f b) =
      memberFault? shape checks (key, value) := by
  rw [faultOf_bind_pure, fieldAt, faultOf_below, memberFault?_of_lookup h]
  rfl

/-- A member with an unknown key is itself a fault. -/
theorem faultOf_unknownMember {key : String} {value : Value} (h : checks.lookup key = none) :
    faultOf (unknownMember shape key : Decoded δ) = memberFault? shape checks (key, value) := by
  rw [memberFault?, h]
  rfl

/-- Members are read up to the first fault. -/
theorem faultOf_decodeMembers {visit : δ → String → Value → Decoded δ}
    (hvisit : ∀ draft key value,
      faultOf (visit draft key value) = memberFault? shape checks (key, value))
    (draft : δ) (members : List (String × Value)) :
    faultOf (decodeMembers visit draft members) =
      members.findSome? (memberFault? shape checks) := by
  induction members generalizing draft with
  | nil => rfl
  | cons member rest ih =>
    obtain ⟨key, value⟩ := member
    rw [decodeMembers, List.findSome?_cons, ← hvisit draft]
    cases visit draft key value with
    | error e => rfl
    | ok next => exact ih next

/-- The outcome is the error that a fault says or, if there is no fault, is at most an error of the
node itself. -/
def MeetsFault (fault : Option SchemaError) (outcome : Decoded α) : Prop :=
  (∀ e, fault = some e → outcome = .error e) ∧
    (fault = none → ∀ e, outcome = .error e → e.path = [])

theorem meetsFault_faultOf (outcome : Decoded α) : MeetsFault (faultOf outcome) outcome :=
  ⟨fun _ he ↦ faultOf_eq_some_iff.mp he, fun hnone e he ↦ by rw [he] at hnone; cases hnone⟩

/-- An object is read up to the first fault of a member, and then completed. -/
theorem meetsFault_members {visit : δ → String → Value → Decoded δ} {finish : δ → Decoded α}
    (hvisit : ∀ draft key value,
      faultOf (visit draft key value) = memberFault? shape checks (key, value))
    (hfinish : ∀ draft, MeetsFault none (finish draft))
    (draft : δ) (members : List (String × Value)) :
    MeetsFault (members.findSome? (memberFault? shape checks))
      (decodeMembers visit draft members >>= finish) := by
  rw [← faultOf_decodeMembers hvisit draft]
  cases decodeMembers visit draft members with
  | error e =>
    refine ⟨fun e' he' ↦ ?_, fun h ↦ by cases h⟩
    cases he'
    rfl
  | ok final => exact hfinish final

theorem meetsFault_pure (a : α) : MeetsFault none (pure a : Decoded α) :=
  ⟨fun e he ↦ (by cases he), fun _ e he ↦ (by cases he)⟩

theorem meetsFault_required {name : String} {field : Option β} {next : β → Decoded α}
    (h : ∀ b, MeetsFault none (next b)) : MeetsFault none (required name field >>= next) := by
  cases field with
  | none =>
    refine ⟨fun e he ↦ (by cases he), fun _ e he ↦ ?_⟩
    cases he
    rfl
  | some b => exact h b

/-- A field that is there is read at its position. -/
theorem positional_of_some {elements : List Value} {position : Nat} {value : Value}
    (h : elements[position]? = some value) (decode : Value → Decoded β) (default? : Option β) :
    positional shape elements position decode default? =
      below (.index position) (decode value) := by
  unfold positional
  rw [h]

/-- One field of an array, and then the others. If there is no element left, there are none for the
others either. -/
theorem meetsFault_positional {elements : List Value} {position : Nat} {name : String}
    {decode : Value → Decoded β} {default? : Option β} {next : β → Decoded α}
    (h : ∀ b, MeetsFault (elementsFault? (position + 1) checks (elements.drop (position + 1)))
      (next b)) :
    MeetsFault (elementsFault? position ((name, checkOf decode) :: checks)
      (elements.drop position)) (positional shape elements position decode default? >>= next) := by
  cases hdrop : elements.drop position with
  | nil =>
    have hlength : elements.length ≤ position := List.drop_eq_nil_iff.mp hdrop
    have hnone : elements[position]? = none := List.getElem?_eq_none hlength
    rw [List.drop_eq_nil_of_le (Nat.le_succ_of_le hlength)] at h
    unfold positional
    rw [hnone]
    refine ⟨fun e he ↦ (by cases he), fun _ e he ↦ ?_⟩
    cases default? with
    | none =>
      cases he
      rfl
    | some b => exact (h b).2 (by cases checks <;> rfl) e he
  | cons value values =>
    have hsome : elements[position]? = some value := by
      rw [← List.head?_drop, hdrop]
      rfl
    have hrest : elements.drop (position + 1) = values := by
      rw [← List.tail_drop, hdrop]
      rfl
    rw [hrest] at h
    rw [positional_of_some hsome, elementsFault?, checkOf]
    cases decode value with
    | error e =>
      refine ⟨fun e' he' ↦ ?_, fun hnone ↦ by cases hnone⟩
      cases he'
      rfl
    | ok b => exact h b

theorem length_le_of_noneLeft {elements : List Value} {u : Unit}
    (h : noneLeft shape elements = .ok u) : elements.length ≤ shape.fields.length := by
  by_cases hshort : elements.length ≤ shape.fields.length
  · exact hshort
  · rw [noneLeft, if_neg hshort] at h
    cases h

/-- A record that is read from members and from elements by the same checks reads its fields. -/
theorem readsFields_decodeRecord {ofMembers : List (String × Value) → Decoded α}
    {ofElements : List Value → Decoded α} (hnames : checks.map Prod.fst = shape.fields)
    (hnodup : shape.fields.Nodup)
    (hmembers : ∀ members, MeetsFault (members.findSome? (memberFault? shape checks))
      (ofMembers members))
    (helements : ∀ elements, MeetsFault (elementsFault? 0 checks elements)
      (ofElements elements)) :
    ReadsFields (decodeRecord shape ofMembers ofElements) shape checks where
  names := hnames
  nodup := hnodup
  record := by
    intro value a h
    cases value with
    | object members => exact Or.inl ⟨members, rfl⟩
    | array elements =>
      obtain ⟨b, -, h⟩ := bind_eq_ok h
      obtain ⟨_, hleft, -⟩ := bind_eq_ok h
      exact Or.inr ⟨elements, rfl, length_le_of_noneLeft hleft⟩
    | _ => cases h
  child := by
    intro value e h
    cases value with
    | object members => exact (hmembers members).1 e h
    | array elements =>
      rw [decodeRecord, (helements elements).1 e h]
      rfl
    | _ => cases h
  own := by
    intro value e hnone h
    cases value with
    | object members => exact (hmembers members).2 hnone e h
    | array elements =>
      rw [decodeRecord] at h
      cases hread : ofElements elements with
      | error e' =>
        rw [hread] at h
        cases h
        exact (helements elements).2 hnone e hread
      | ok a =>
        rw [hread] at h
        by_cases hshort : elements.length ≤ shape.fields.length
        · rw [noneLeft, if_pos hshort] at h
          cases h
        · rw [noneLeft, if_neg hshort] at h
          cases h
          rfl
    | _ =>
      cases h
      rfl

end Reading

/-! ### The records of a song -/

namespace Step

/-- The checks of the fields of a step. -/
def checks : List (String × FieldCheck) :=
  [("sound", checkOf (decodeOption decodeByte)), ("note", checkOf (decodeOption decodeString)),
    ("octave", checkOf (decodeOption decodeByte)), ("accent", checkOf decodeBool)]

theorem faultOf_visit (step : Step) (key : String) (value : Value) :
    faultOf (step.visit key value) = memberFault? shape checks (key, value) := by
  unfold visit
  split
  · exact faultOf_field rfl
  · exact faultOf_field rfl
  · exact faultOf_field rfl
  · exact faultOf_field rfl
  · refine faultOf_unknownMember (List.lookup_eq_none_iff.mpr ?_)
    simp_all [checks]

theorem readsFields : ReadsFields Step.ofValue shape checks := by
  refine readsFields_decodeRecord rfl (by decide) (fun members ↦ ?_) fun elements ↦ ?_
  · rw [← faultOf_decodeMembers faultOf_visit Step.rest]
    exact meetsFault_faultOf _
  · exact meetsFault_positional fun _ ↦ meetsFault_positional fun _ ↦
      meetsFault_positional fun _ ↦ meetsFault_positional fun _ ↦ meetsFault_pure _

end Step

namespace StoredChannel

/-- The checks of the fields of a channel object. -/
def checks : List (String × FieldCheck) :=
  [("attenuate", checkOf decodeBool), ("steps", checkOf Step.listOfValue)]

theorem faultOf_visit (draft : Draft) (key : String) (value : Value) :
    faultOf (draft.visit key value) = memberFault? shape checks (key, value) := by
  unfold Draft.visit
  split
  · exact faultOf_field rfl
  · exact faultOf_field rfl
  · refine faultOf_unknownMember (List.lookup_eq_none_iff.mpr ?_)
    simp_all [checks]

theorem readsFields : ReadsFields objectOfValue shape checks := by
  refine readsFields_decodeRecord rfl (by decide) (meetsFault_members faultOf_visit ?_ {})
    fun elements ↦ ?_
  · exact fun draft ↦ meetsFault_required fun _ ↦ meetsFault_pure _
  · exact meetsFault_positional fun _ ↦ meetsFault_positional fun _ ↦ meetsFault_pure _

end StoredChannel

namespace Pattern

/-- The checks of the fields of a pattern. -/
def checks : List (String × FieldCheck) :=
  [("steps", checkOf decodeByte), ("channels", checkOf (decodeList StoredChannel.ofValue)),
    ("channel1attenuation", checkOf (decodeOption decodeBool)),
    ("channel2attenuation", checkOf (decodeOption decodeBool))]

theorem faultOf_visit (draft : Draft) (key : String) (value : Value) :
    faultOf (draft.visit key value) = memberFault? shape checks (key, value) := by
  unfold Draft.visit
  split
  · exact faultOf_field rfl
  · exact faultOf_field rfl
  · exact faultOf_field rfl
  · exact faultOf_field rfl
  · refine faultOf_unknownMember (List.lookup_eq_none_iff.mpr ?_)
    simp_all [checks]

theorem readsFields : ReadsFields Pattern.ofValue shape checks := by
  refine readsFields_decodeRecord rfl (by decide) (meetsFault_members faultOf_visit ?_ {})
    fun elements ↦ ?_
  · exact fun draft ↦ meetsFault_required fun _ ↦ meetsFault_required fun _ ↦ meetsFault_pure _
  · exact meetsFault_positional fun _ ↦ meetsFault_positional fun _ ↦
      meetsFault_positional fun _ ↦ meetsFault_positional fun _ ↦ meetsFault_pure _

end Pattern

namespace Hats

/-- The checks of the fields of the hats. -/
def checks : List (String × FieldCheck) :=
  [("start", checkOf decodeByte), ("volume", checkOf decodeByte), ("pitch", checkOf decodeByte),
    ("sound", checkOf decodeByte), ("pattern", checkOf (decodeList decodeByte))]

theorem faultOf_visit (draft : Draft) (key : String) (value : Value) :
    faultOf (draft.visit key value) = memberFault? shape checks (key, value) := by
  unfold Draft.visit
  split
  · exact faultOf_field rfl
  · exact faultOf_field rfl
  · exact faultOf_field rfl
  · exact faultOf_field rfl
  · exact faultOf_field rfl
  · refine faultOf_unknownMember (List.lookup_eq_none_iff.mpr ?_)
    simp_all [checks]

theorem readsFields : ReadsFields Hats.ofValue shape checks := by
  refine readsFields_decodeRecord rfl (by decide) (meetsFault_members faultOf_visit ?_ {})
    fun elements ↦ ?_
  · exact fun draft ↦ meetsFault_required fun _ ↦ meetsFault_pure _
  · exact meetsFault_positional fun _ ↦ meetsFault_positional fun _ ↦ meetsFault_positional fun _ ↦
      meetsFault_positional fun _ ↦ meetsFault_positional fun _ ↦ meetsFault_pure _

end Hats

namespace Meta

/-- The checks of the fields of what is known about a song. -/
def checks : List (String × FieldCheck) :=
  [("title", checkOf decodeString), ("author", checkOf decodeString),
    ("created", checkOf decodeInstant), ("modified", checkOf (decodeOption decodeInstant)),
    ("tempo", checkOf decodeByte), ("tuning", checkOf decodeByte)]

theorem faultOf_visit (draft : Draft) (key : String) (value : Value) :
    faultOf (draft.visit key value) = memberFault? shape checks (key, value) := by
  unfold Draft.visit
  split
  · exact faultOf_field rfl
  · exact faultOf_field rfl
  · exact faultOf_field rfl
  · exact faultOf_field rfl
  · exact faultOf_field rfl
  · exact faultOf_field rfl
  · refine faultOf_unknownMember (List.lookup_eq_none_iff.mpr ?_)
    simp_all [checks]

theorem readsFields : ReadsFields Meta.ofValue shape checks := by
  refine readsFields_decodeRecord rfl (by decide) (meetsFault_members faultOf_visit ?_ {})
    fun elements ↦ ?_
  · exact fun draft ↦ meetsFault_required fun _ ↦ meetsFault_pure _
  · exact meetsFault_positional fun _ ↦ meetsFault_positional fun _ ↦ meetsFault_positional fun _ ↦
      meetsFault_positional fun _ ↦ meetsFault_positional fun _ ↦ meetsFault_positional fun _ ↦
        meetsFault_pure _

end Meta

namespace Song

/-- The checks of the fields of a song. -/
def checks : List (String × FieldCheck) :=
  [("id", checkOf (decodeOption decodeString)), ("meta", checkOf Meta.ofValue),
    ("patterns", checkOf (decodeList Pattern.ofValue)), ("hats", checkOf Hats.ofValue)]

theorem faultOf_visit (draft : Draft) (key : String) (value : Value) :
    faultOf (draft.visit key value) = memberFault? shape checks (key, value) := by
  unfold Draft.visit
  split
  · exact faultOf_field rfl
  · exact faultOf_field rfl
  · exact faultOf_field rfl
  · exact faultOf_field rfl
  · refine faultOf_unknownMember (List.lookup_eq_none_iff.mpr ?_)
    simp_all [checks]

theorem readsFields : ReadsFields Song.ofValue shape checks := by
  refine readsFields_decodeRecord rfl (by decide) (meetsFault_members faultOf_visit ?_ {})
    fun elements ↦ ?_
  · exact fun draft ↦ meetsFault_required fun _ ↦ meetsFault_required fun _ ↦
      meetsFault_required fun _ ↦ meetsFault_pure _
  · exact meetsFault_positional fun _ ↦ meetsFault_positional fun _ ↦
      meetsFault_positional fun _ ↦ meetsFault_positional fun _ ↦ meetsFault_pure _

end Song

end StepSequencer
