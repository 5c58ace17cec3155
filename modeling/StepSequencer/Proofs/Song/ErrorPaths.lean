import StepSequencer.Proofs.Song.Nodes

/-!
# Where errors are

The path of an error leads to a node of the document that was read (`Leads`). This is shown reader
by reader, with a bound on the length of the paths (`Locates`): a leaf reports itself, a list and a
record report an error of one of their parts, one step further down, and a channel that has neither
layout reports itself, whatever is wrong in it. So a song has no path of more than four steps, and
four steps lead from the root to a channel: no path goes on below one.
-/

set_option autoImplicit false
set_option relaxedAutoImplicit false

namespace StepSequencer

open Json (Value)

/-- The path leads from the root of a document to a node of it. -/
def Leads (document : Value) (path : List PathStep) : Prop :=
  ∃ context node, document = plug context node ∧ wayTo context = path

theorem leads_nil (document : Value) : Leads document [] :=
  ⟨[], document, rfl, rfl⟩

/-- A path that leads into a part leads into the whole by one more step. -/
theorem Leads.plug {node : Value} {path : List PathStep} (h : Leads node path) (frame : Frame) :
    Leads (frame.plug node) (frame.step :: path) := by
  obtain ⟨context, inner, rfl, rfl⟩ := h
  exact ⟨frame :: context, inner, rfl, rfl⟩

/-- The faults of the check are at nodes of the value, so many steps down at most. -/
def Locates (depth : Nat) (check : FieldCheck) : Prop :=
  ∀ value e, check value = some e → Leads value e.path ∧ e.path.length ≤ depth

theorem Locates.mono {depth deeper : Nat} {check : FieldCheck} (h : Locates depth check)
    (hdepth : depth ≤ deeper) : Locates deeper check :=
  fun value e he ↦ ⟨(h value e he).1, Nat.le_trans (h value e he).2 hdepth⟩

/-! ### Leaves and lists -/

section Readers

variable {α : Type} {decode : Value → Decoded α} {depth : Nat}

theorem locates_of_own (h : ∀ value e, decode value = .error e → e.path = []) :
    Locates 0 (checkOf decode) := by
  intro value e he
  rw [h value e (checkOf_eq_some_iff.mp he)]
  exact ⟨leads_nil value, Nat.le_refl 0⟩

theorem locates_map {β : Type} (h : Locates depth (checkOf decode)) (f : α → β) :
    Locates depth (checkOf fun value ↦ (decode value).map f) :=
  fun value e he ↦ h value e ((faultOf_map f (decode value)).symm.trans he)

theorem locates_decodeOption (h : Locates depth (checkOf decode)) :
    Locates depth (checkOf (decodeOption decode)) := by
  intro value e he
  cases value with
  | null => cases he
  | _ => exact locates_map h some _ e he

/-- The error of a list is one of an element, and the path goes down to the element first. -/
theorem decodeElements_eq_error {start : Nat} {elements : List Value} {e : SchemaError}
    (h : decodeElements decode start elements = .error e) :
    ∃ front element back e', elements = front ++ element :: back ∧ decode element = .error e' ∧
      e = e'.under (.index (start + front.length)) := by
  induction elements generalizing start with
  | nil => cases h
  | cons first rest ih =>
    rw [decodeElements] at h
    cases hfirst : decode first with
    | error e' =>
      rw [hfirst] at h
      cases h
      exact ⟨[], first, rest, e', rfl, hfirst, rfl⟩
    | ok a =>
      rw [hfirst] at h
      have hrest : decodeElements decode (start + 1) rest = .error e := by
        rw [← faultOf_eq_some_iff, ← faultOf_bind_pure _ (a :: ·)]
        exact congrArg faultOf h
      obtain ⟨front, element, back, e', rfl, helement, rfl⟩ := ih hrest
      refine ⟨first :: front, element, back, e', rfl, helement, ?_⟩
      rw [List.length_cons, Nat.add_right_comm, ← Nat.add_assoc]

/-- The errors of a list are located at its elements, one step deeper. -/
theorem locates_decodeList (h : Locates depth (checkOf decode)) :
    Locates (depth + 1) (checkOf (decodeList decode)) := by
  intro value e he
  have herror := checkOf_eq_some_iff.mp he
  cases value with
  | array elements =>
    obtain ⟨front, element, back, e', rfl, helement, rfl⟩ := decodeElements_eq_error herror
    obtain ⟨hleads, hlength⟩ := h element e' (checkOf_eq_some_iff.mpr helement)
    rw [Nat.zero_add]
    exact ⟨hleads.plug (.element front back), Nat.succ_le_succ hlength⟩
  | _ =>
    cases herror
    exact ⟨leads_nil _, Nat.zero_le _⟩

end Readers

/-- An integer that is refused is refused at its own place. -/
theorem decodeInteger_path {low high : Int} {wanted : String} {value : Value} {e : SchemaError}
    (h : decodeInteger low high wanted value = .error e) : e.path = [] := by
  unfold decodeInteger at h
  split at h
  · split at h
    · cases h
    · cases h
      rfl
  · cases h
    rfl

theorem locates_byte : Locates 0 (checkOf decodeByte) :=
  locates_map (locates_of_own fun _ _ ↦ decodeInteger_path) _

theorem locates_instant : Locates 0 (checkOf decodeInstant) :=
  locates_map (locates_of_own fun _ _ ↦ decodeInteger_path) _

theorem locates_bool : Locates 0 (checkOf decodeBool) := by
  refine locates_of_own fun value e he ↦ ?_
  cases value <;> cases he <;> rfl

theorem locates_string : Locates 0 (checkOf decodeString) := by
  refine locates_of_own fun value e he ↦ ?_
  cases value <;> cases he <;> rfl

/-- A channel of neither layout reports itself. -/
theorem locates_channel : Locates 0 (checkOf StoredChannel.ofValue) := by
  refine locates_of_own fun value e he ↦ ?_
  unfold StoredChannel.ofValue at he
  split at he
  · cases he
  · cases he
  · cases he
    rfl

/-! ### Records -/

/-- A fault in a record that is an array is the fault of one of its elements. -/
theorem exists_of_elementsFault? {position : Nat} {checks : List (String × FieldCheck)}
    {elements : List Value} {e : SchemaError}
    (h : elementsFault? position checks elements = some e) :
    ∃ first name check rest front value back e', checks = first ++ (name, check) :: rest ∧
      elements = front ++ value :: back ∧ first.length = front.length ∧ check value = some e' ∧
      e = e'.under (.index (position + front.length)) := by
  induction checks generalizing position elements with
  | nil => cases h
  | cons entry checks ih =>
    obtain ⟨name, check⟩ := entry
    cases elements with
    | nil => cases h
    | cons value elements =>
      rw [elementsFault?] at h
      cases hcheck : check value with
      | some e' =>
        rw [hcheck] at h
        cases h
        exact ⟨[], name, check, checks, [], value, elements, e', rfl, rfl, rfl, hcheck, rfl⟩
      | none =>
        rw [hcheck] at h
        obtain ⟨first, other, test, rest, front, inner, back, e', rfl, rfl, hlength, htest, rfl⟩ :=
          ih h
        refine ⟨(name, check) :: first, other, test, rest, value :: front, inner, back, e', rfl,
          rfl, congrArg Nat.succ hlength, htest, ?_⟩
        rw [List.length_cons, Nat.add_right_comm, ← Nat.add_assoc]

section Fields

variable {α : Type} {decode : Value → Decoded α} {shape : RecordShape}
  {checks : List (String × FieldCheck)}

/-- The error of a record is its own, is at a member that is no field, or is the fault of a field,
and then the path goes down to the field first. -/
theorem ReadsFields.error_cases (h : ReadsFields decode shape checks) {value : Value}
    {e : SchemaError} (herror : decode value = .error e) :
    e.path = [] ∨
      (∃ front key inner back, value = (Frame.member front key back).plug inner ∧
        e.path = [.key key]) ∨
      ∃ (field : Frame) (name : String) (check : FieldCheck) (inner : Value) (e' : SchemaError),
        (name, check) ∈ checks ∧ field.Holds shape name ∧ value = field.plug inner ∧
        check inner = some e' ∧ e = e'.under field.step := by
  cases hfault : childFault? shape checks value with
  | none => exact Or.inl (h.own hfault herror)
  | some e' =>
    cases herror.symm.trans (h.child hfault)
    refine Or.inr ?_
    cases value with
    | object members =>
      obtain ⟨front, ⟨key, inner⟩, back, rfl, hmember, -⟩ := List.findSome?_eq_some_iff.mp hfault
      cases hlookup : checks.lookup key with
      | none =>
        rw [memberFault?, hlookup] at hmember
        cases hmember
        exact Or.inl ⟨front, key, inner, back, rfl, rfl⟩
      | some check =>
        rw [memberFault?_of_lookup hlookup, Option.map_eq_some_iff] at hmember
        obtain ⟨e', hcheck, rfl⟩ := hmember
        obtain ⟨first, rest, rfl, -⟩ := exists_split_of_lookup hlookup
        exact Or.inr ⟨.member front key back, key, check, inner, e', by simp, rfl, rfl, hcheck, rfl⟩
    | array elements =>
      obtain ⟨first, name, check, rest, front, inner, back, e', rfl, rfl, hlength, hcheck, rfl⟩ :=
        exists_of_elementsFault? hfault
      rw [Nat.zero_add]
      exact Or.inr ⟨.element front back, name, check, inner, e', by simp,
        h.holds_element hlength back, rfl, hcheck, rfl⟩
    | _ => cases hfault

/-- The errors of a record are located at its fields, one step deeper. -/
theorem ReadsFields.locates {depth : Nat} (h : ReadsFields decode shape checks)
    (hchecks : ∀ entry ∈ checks, Locates depth entry.2) :
    Locates (depth + 1) (checkOf decode) := by
  intro value e he
  obtain hown | ⟨front, key, inner, back, rfl, hpath⟩ |
    ⟨field, name, check, inner, e', hmem, -, rfl, hcheck, rfl⟩ :=
    h.error_cases (checkOf_eq_some_iff.mp he)
  · rw [hown]
    exact ⟨leads_nil value, Nat.zero_le _⟩
  · rw [hpath]
    exact ⟨(leads_nil inner).plug (.member front key back), Nat.succ_le_succ (Nat.zero_le _)⟩
  · obtain ⟨hleads, hlength⟩ := hchecks (name, check) hmem inner e' hcheck
    exact ⟨hleads.plug field, Nat.succ_le_succ hlength⟩

end Fields

theorem Meta.locates : Locates 1 (checkOf Meta.ofValue) := by
  refine readsFields.locates ?_
  simp [checks, locates_decodeOption, locates_string, locates_instant, locates_byte]

theorem Hats.locates : Locates 2 (checkOf Hats.ofValue) := by
  refine readsFields.locates ?_
  simp [checks, locates_decodeList, locates_byte.mono]

theorem Pattern.locates : Locates 2 (checkOf Pattern.ofValue) := by
  refine readsFields.locates ?_
  simp [checks, locates_decodeList locates_channel, (locates_decodeOption locates_bool).mono,
    locates_byte.mono]

theorem Song.locates : Locates 4 (checkOf Song.ofValue) := by
  refine readsFields.locates ?_
  simp [checks, locates_decodeList Pattern.locates, (locates_decodeOption locates_string).mono,
    Meta.locates.mono, Hats.locates.mono]

/-! ### Songs -/

/-- Only the root and a member of the root with a point for a key are written like the root. No
field of a song has this key. -/
theorem Song.renderPath_eq_point_iff {value : Value} {e : SchemaError}
    (h : Song.ofValue value = .error e) :
    SchemaError.renderPath e.path = "." ↔ e.path = [] ∨ e.path = [.key "."] := by
  obtain hown | ⟨front, key, inner, back, -, hpath⟩ |
    ⟨field, name, check, inner, e', hmem, hfield, -, -, rfl⟩ := readsFields.error_cases h
  · simp [hown, SchemaError.renderPath]
  · simp [hpath, SchemaError.renderPath_key]
  · have hname : name ∈ Song.shape.fields := by
      rw [← readsFields.names]
      exact List.mem_map.mpr ⟨(name, check), hmem, rfl⟩
    have hne := hfield.renderPath_ne hname e'.path
    refine iff_of_false hne fun hpath ↦ ?_
    obtain hpath | hpath := hpath
    · cases hpath
    · rw [← SchemaError.renderPath_key "."] at hne
      exact hne (congrArg SchemaError.renderPath hpath)

/-- A channel is four steps away from the song. -/
theorem Stands.length_wayTo {context : List Frame} {node : Value}
    (h : Stands .channel context node) : (wayTo context).length = 4 := by
  cases h with
  | channel houter _ =>
    cases houter with
    | pattern _ => rfl

/-- The path of the error for a song that cannot be read leads to a node of its document and not
below a channel. It is reported as a text, the root as the song, and likewise a member of the root
that has a point for a key. -/
theorem Song.leads_of_ofValue {document : Value} {e : SchemaError}
    (h : Song.ofValue document = .error e) :
    Leads document e.path ∧
      (e.pathText = if e.path = [] ∨ e.path = [.key "."] then "song"
        else SchemaError.renderPath e.path) ∧
      ∀ context node, document = plug context node → Stands .channel context node →
        ∀ deeper, e.path = wayTo context ++ deeper → deeper = [] := by
  obtain ⟨hleads, hlength⟩ := Song.locates document e (checkOf_eq_some_iff.mpr h)
  refine ⟨hleads, ?_, fun context node _ hchannel deeper hpath ↦ ?_⟩
  · simp only [SchemaError.pathText, Song.renderPath_eq_point_iff h]
  · rw [hpath, List.length_append, hchannel.length_wayTo] at hlength
    exact List.eq_nil_of_length_eq_zero (by omega)

/-- A document with a step that has a member it should not have. -/
def strayDocument : Value :=
  .object [("patterns", .array [.object [("channels", .array [.array [], .array [.null,
    .object [("pitch", .null)]]])]])]

/-- A member that does not belong into a channel is reported at the channel, and not below. -/
theorem leads_strayDocument :
    ∃ e, Song.ofValue strayDocument = .error e ∧
      e.path = [.key "patterns", .index 0, .key "channels", .index 1] ∧
      Leads strayDocument e.path ∧
      (e.pathText = if e.path = [] ∨ e.path = [.key "."] then "song"
        else SchemaError.renderPath e.path) ∧
      ∀ context node, strayDocument = plug context node → Stands .channel context node →
        ∀ deeper, e.path = wayTo context ++ deeper → deeper = [] :=
  ⟨_, rfl, rfl, Song.leads_of_ofValue rfl⟩

end StepSequencer
