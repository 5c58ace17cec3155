import Mathlib.Data.List.Nodup
import StepSequencer.Proofs.Json.Grammar
import StepSequencer.Song.Schema

/-!
# The order of members does not matter

Two documents are reorderings of each other if they differ only in blanks and in the order of the
members of their objects, at any depth (`Tree.Reorders`). The members of an object are put in
increasing order of the key when they are read. Two insertions with different keys may change
places (`insertMember_right_comm`), so if no key stands twice in an object, reorderings are read as
the same value, and a song is read from one as from the other, with the same mismatch if it is none.
-/

set_option autoImplicit false
set_option relaxedAutoImplicit false

namespace StepSequencer

/-! ### The order of texts -/

namespace Text

theorem precedesChars_self (text : List Char) : precedesChars text text = false := by
  induction text with
  | nil => rfl
  | cons c rest ih => rw [precedesChars, if_pos rfl, ih]

/-- The order of texts is transitive. -/
theorem precedesChars_trans {first second third : List Char}
    (hfirst : precedesChars first second = true) (hsecond : precedesChars second third = true) :
    precedesChars first third = true := by
  induction first generalizing second third with
  | nil =>
    cases third with
    | nil =>
      cases second with
      | nil => exact hsecond
      | cons d others => exact hsecond
    | cons e rest => rfl
  | cons c first ih =>
    cases second with
    | nil => cases hfirst
    | cons d second =>
      cases third with
      | nil => cases hsecond
      | cons e third =>
        rw [precedesChars] at hfirst hsecond ⊢
        by_cases hcd : c = d
        · subst hcd
          rw [if_pos rfl] at hfirst
          by_cases hce : c = e
          · rw [if_pos hce] at hsecond ⊢
            exact ih hfirst hsecond
          · rw [if_neg hce] at hsecond ⊢
            exact hsecond
        · rw [if_neg hcd, decide_eq_true_eq] at hfirst
          by_cases hde : d = e
          · subst hde
            rw [if_neg hcd, decide_eq_true_eq]
            exact hfirst
          · rw [if_neg hde, decide_eq_true_eq] at hsecond
            have hce : c ≠ e := by
              rintro rfl
              omega
            rw [if_neg hce, decide_eq_true_eq]
            omega

/-- Of two texts one precedes the other. -/
theorem precedesChars_total {first second : List Char} (h : first ≠ second) :
    precedesChars first second = true ∨ precedesChars second first = true := by
  induction first generalizing second with
  | nil =>
    cases second with
    | nil => exact absurd rfl h
    | cons d second => exact Or.inl rfl
  | cons c first ih =>
    cases second with
    | nil => exact Or.inr rfl
    | cons d second =>
      rw [precedesChars, precedesChars]
      by_cases hcd : c = d
      · subst hcd
        rw [if_pos rfl, if_pos rfl]
        exact ih fun heq ↦ h (by rw [heq])
      · rw [if_neg hcd, if_neg (Ne.symm hcd), decide_eq_true_eq, decide_eq_true_eq]
        have hne : c.toNat ≠ d.toNat := fun heq ↦ hcd (Char.toNat_inj.mp heq)
        omega

theorem precedes_trans {first second third : String} (hfirst : precedes first second = true)
    (hsecond : precedes second third = true) : precedes first third = true :=
  precedesChars_trans hfirst hsecond

theorem precedes_total {first second : String} (h : first ≠ second) :
    precedes first second = true ∨ precedes second first = true :=
  precedesChars_total fun heq ↦ h (String.toList_inj.mp heq)

theorem precedes_asymm {first second : String} (h : precedes first second = true) :
    precedes second first = false := by
  cases hsecond : precedes second first with
  | false => rfl
  | true =>
    have hself := precedes_trans h hsecond
    rw [precedes, precedesChars_self] at hself
    cases hself

end Text

namespace Json

/-! ### Members in order -/

section Insertion

variable {α : Type}

/-- A member goes before those with a later key. -/
theorem insertMember_of_precedes {key k : String} (h : Text.precedes key k = true) (value v : α)
    (rest : List (String × α)) :
    insertMember key value ((k, v) :: rest) = (key, value) :: (k, v) :: rest := by
  rw [insertMember, if_pos h]

/-- A member goes behind those with an earlier key. -/
theorem insertMember_of_follows {key k : String} (h : Text.precedes k key = true) (value v : α)
    (rest : List (String × α)) :
    insertMember key value ((k, v) :: rest) = (k, v) :: insertMember key value rest := by
  have hprecedes := Text.precedes_asymm h
  have hne : key ≠ k := by
    rintro rfl
    rw [h] at hprecedes
    cases hprecedes
  rw [insertMember, hprecedes, if_neg Bool.false_ne_true, if_neg hne]

theorem insertMember_self (key : String) (value v : α) (rest : List (String × α)) :
    insertMember key value ((key, v) :: rest) = (key, value) :: rest := by
  have hself : Text.precedes key key = false := Text.precedesChars_self _
  rw [insertMember, hself, if_neg Bool.false_ne_true, if_pos rfl]

/-- The insertion of a smaller key may be put before that of a greater one. -/
theorem insertMember_comm_of_precedes {first second : String}
    (h : Text.precedes first second = true) (a b : α) (members : List (String × α)) :
    insertMember first a (insertMember second b members) =
      insertMember second b (insertMember first a members) := by
  induction members with
  | nil => exact (insertMember_of_precedes h a b []).trans (insertMember_of_follows h b a []).symm
  | cons member rest ih =>
    obtain ⟨k, v⟩ := member
    by_cases hsecond : second = k
    · subst hsecond
      rw [insertMember_self, insertMember_of_precedes h, insertMember_of_precedes h,
        insertMember_of_follows h, insertMember_self]
    · rcases Text.precedes_total hsecond with hbefore | hbehind
      · rw [insertMember_of_precedes hbefore, insertMember_of_precedes h,
          insertMember_of_precedes (Text.precedes_trans h hbefore), insertMember_of_follows h,
          insertMember_of_precedes hbefore]
      · rw [insertMember_of_follows hbehind]
        by_cases hfirst : first = k
        · subst hfirst
          rw [insertMember_self, insertMember_self, insertMember_of_follows h]
        · rcases Text.precedes_total hfirst with hfront | hback
          · rw [insertMember_of_precedes hfront, insertMember_of_precedes hfront,
              insertMember_of_follows h, insertMember_of_follows hbehind]
          · rw [insertMember_of_follows hback, insertMember_of_follows hback,
              insertMember_of_follows hbehind, ih]

/-- Insertions with different keys may change places. -/
theorem insertMember_right_comm {first second : String} (h : first ≠ second) (a b : α)
    (members : List (String × α)) :
    insertMember first a (insertMember second b members) =
      insertMember second b (insertMember first a members) := by
  rcases Text.precedes_total h with hfirst | hsecond
  · exact insertMember_comm_of_precedes hfirst a b members
  · exact (insertMember_comm_of_precedes hsecond b a members).symm

/-- Members with different keys are put in the same order, in whatever order they come. -/
theorem sortMembers_eq_of_perm {members others : List (String × α)} (h : members.Perm others)
    (hkeys : (members.map Prod.fst).Nodup) : sortMembers members = sortMembers others := by
  refine h.foldl_eq' (fun member hmember other hother sorted ↦ ?_) []
  by_cases hkey : member.1 = other.1
  · rw [List.inj_on_of_nodup_map hkeys hmember hother hkey]
  · exact (insertMember_right_comm hkey member.2 other.2 sorted).symm

end Insertion

/-! ### Reorderings -/

mutual

/-- No object of the tree has two members with the same key. -/
def Tree.DistinctKeys : Tree → Prop
  | .leaf _ => True
  | .array elements => ElementsDistinct elements
  | .object members => (members.map fun member ↦ member.1.name).Nodup ∧ MembersDistinct members

/-- No object of the elements has two members with the same key. -/
def ElementsDistinct : List Tree → Prop
  | [] => True
  | tree :: rest => tree.DistinctKeys ∧ ElementsDistinct rest

/-- No object in the members has two members with the same key. -/
def MembersDistinct : List (Key × Tree) → Prop
  | [] => True
  | (_, tree) :: rest => tree.DistinctKeys ∧ MembersDistinct rest

end

mutual

/-- The trees differ only in the order of the members of their objects. -/
def Tree.Reorders : Tree → Tree → Prop
  | .leaf leaf, other => other = .leaf leaf
  | .array elements, other => ∃ others, ElementsReorder elements others ∧ other = .array others
  | .object members, other =>
    ∃ middle others, MembersReorder members middle ∧ middle.Perm others ∧ other = .object others

/-- Each element differs from the other one in its place only in the order of members. -/
def ElementsReorder : List Tree → List Tree → Prop
  | [], others => others = []
  | tree :: rest, others =>
    ∃ other more, tree.Reorders other ∧ ElementsReorder rest more ∧ others = other :: more

/-- Each member differs from the other one in its place only in the order of members inside. -/
def MembersReorder : List (Key × Tree) → List (Key × Tree) → Prop
  | [], others => others = []
  | (key, tree) :: rest, others =>
    ∃ other more, tree.Reorders other ∧ MembersReorder rest more ∧ others = (key, other) :: more

end

theorem elementValues?_cons {depth : Nat} {tree : Tree} {rest : List Tree} {values : List Value} :
    elementValues? depth (tree :: rest) = some values ↔
      ∃ value others, tree.value? depth = some value ∧ elementValues? depth rest = some others ∧
        values = value :: others := by
  rw [elementValues?]
  cases htree : tree.value? depth with
  | none => simp
  | some value =>
    cases hrest : elementValues? depth rest with
    | none => simp
    | some others => simp [eq_comm]

theorem memberValues?_cons {depth : Nat} {key : Key} {tree : Tree} {rest : List (Key × Tree)}
    {values : List (String × Value)} :
    memberValues? depth ((key, tree) :: rest) = some values ↔
      ∃ value others, tree.value? depth = some value ∧ memberValues? depth rest = some others ∧
        values = (key.name, value) :: others := by
  rw [memberValues?]
  cases htree : tree.value? depth with
  | none => simp
  | some value =>
    cases hrest : memberValues? depth rest with
    | none => simp
    | some others => simp [eq_comm]

/-- The values of members have their keys. -/
theorem map_fst_memberValues? {depth : Nat} {members : List (Key × Tree)}
    {values : List (String × Value)} (h : memberValues? depth members = some values) :
    values.map Prod.fst = members.map fun member ↦ member.1.name := by
  induction members generalizing values with
  | nil =>
    cases h
    rfl
  | cons member rest ih =>
    obtain ⟨value, others, -, hothers, rfl⟩ := memberValues?_cons.mp h
    rw [List.map_cons, List.map_cons, ih hothers]

/-- Members in another order have the same values in another order. -/
theorem exists_memberValues?_of_perm {depth : Nat} {members others : List (Key × Tree)}
    (h : members.Perm others) {values : List (String × Value)}
    (hvalues : memberValues? depth members = some values) :
    ∃ more, memberValues? depth others = some more ∧ values.Perm more := by
  induction h generalizing values with
  | nil => exact ⟨values, hvalues, List.Perm.refl values⟩
  | @cons member members others h ih =>
    obtain ⟨value, rest, hvalue, hrest, rfl⟩ := memberValues?_cons.mp hvalues
    obtain ⟨more, hmore, hperm⟩ := ih hrest
    exact ⟨_, memberValues?_cons.mpr ⟨value, more, hvalue, hmore, rfl⟩, hperm.cons _⟩
  | swap first second members =>
    obtain ⟨b, rest, hb, hrest, rfl⟩ := memberValues?_cons.mp hvalues
    obtain ⟨a, left, ha, hleft, rfl⟩ := memberValues?_cons.mp hrest
    refine ⟨_, memberValues?_cons.mpr ⟨a, _, ha, ?_, rfl⟩, List.Perm.swap _ _ left⟩
    exact memberValues?_cons.mpr ⟨b, left, hb, hleft, rfl⟩
  | trans _ _ ihfirst ihsecond =>
    obtain ⟨middle, hmiddle, hfirst⟩ := ihfirst hvalues
    obtain ⟨more, hmore, hsecond⟩ := ihsecond hmiddle
    exact ⟨more, hmore, hfirst.trans hsecond⟩

mutual

/-- A reordering has the same value. -/
theorem value?_of_reorders (depth : Nat) :
    ∀ {tree other : Tree} {value : Value}, tree.DistinctKeys → tree.Reorders other →
      tree.value? depth = some value → other.value? depth = some value
  | .leaf leaf, other, value, _, h, hvalue => by
    rw [Tree.Reorders] at h
    rw [h, hvalue]
  | .array elements, other, value, hdistinct, h, hvalue => by
    obtain ⟨others, hothers, rfl⟩ := h
    cases depth with
    | zero => cases hvalue
    | succ depth =>
      rw [Tree.value?, Option.map_eq_some_iff] at hvalue ⊢
      obtain ⟨values, hvalues, hvalue⟩ := hvalue
      exact ⟨values, elementValues?_of_reorder depth hdistinct hothers hvalues, hvalue⟩
  | .object members, other, value, hdistinct, h, hvalue => by
    obtain ⟨middle, others, hmiddle, hperm, rfl⟩ := h
    cases depth with
    | zero => cases hvalue
    | succ depth =>
      rw [Tree.value?, Option.map_eq_some_iff] at hvalue ⊢
      obtain ⟨values, hvalues, hvalue⟩ := hvalue
      have hsame := memberValues?_of_reorder depth hdistinct.2 hmiddle hvalues
      obtain ⟨more, hmore, hpermuted⟩ := exists_memberValues?_of_perm hperm hsame
      have hkeys : (values.map Prod.fst).Nodup := by
        rw [map_fst_memberValues? hvalues]
        exact hdistinct.1
      exact ⟨more, hmore, by rw [← sortMembers_eq_of_perm hpermuted hkeys, hvalue]⟩

/-- Elements have the same values when the members of objects in them change places. -/
theorem elementValues?_of_reorder (depth : Nat) :
    ∀ {elements others : List Tree} {values : List Value}, ElementsDistinct elements →
      ElementsReorder elements others → elementValues? depth elements = some values →
        elementValues? depth others = some values
  | [], others, values, _, h, hvalues => by
    rw [ElementsReorder] at h
    rw [h, hvalues]
  | tree :: rest, others, values, hdistinct, h, hvalues => by
    obtain ⟨other, more, htree, hrest, rfl⟩ := h
    obtain ⟨value, elements, hvalue, helements, rfl⟩ := elementValues?_cons.mp hvalues
    exact elementValues?_cons.mpr ⟨value, elements,
      value?_of_reorders depth hdistinct.1 htree hvalue,
      elementValues?_of_reorder depth hdistinct.2 hrest helements, rfl⟩

/-- Members have the same values when the members of objects in them change places. -/
theorem memberValues?_of_reorder (depth : Nat) :
    ∀ {members others : List (Key × Tree)} {values : List (String × Value)},
      MembersDistinct members → MembersReorder members others →
        memberValues? depth members = some values → memberValues? depth others = some values
  | [], others, values, _, h, hvalues => by
    rw [MembersReorder] at h
    rw [h, hvalues]
  | (key, tree) :: rest, others, values, hdistinct, h, hvalues => by
    obtain ⟨other, more, htree, hrest, rfl⟩ := h
    obtain ⟨value, members, hvalue, hmembers, rfl⟩ := memberValues?_cons.mp hvalues
    exact memberValues?_cons.mpr ⟨value, members, value?_of_reorders depth hdistinct.1 htree hvalue,
      memberValues?_of_reorder depth hdistinct.2 hrest hmembers, rfl⟩

end

/-- Texts whose trees are reorderings of each other are read as the same value. -/
theorem parse_of_reorders {tree other : Tree} {text otherText : String} {value : Value}
    (htext : tree.Writes text) (hother : other.Writes otherText) (hdistinct : tree.DistinctKeys)
    (hreorders : tree.Reorders other) (h : parse text = .ok value) :
    parse otherText = .ok value := by
  rw [parse_eq_ok_iff htext] at h
  rw [parse_eq_ok_iff hother]
  exact value?_of_reorders maxDepth hdistinct hreorders h

end Json

open Json (Tree Key Leaf)

/-- Every text that is read as JSON has a tree. If no object in it has two members with the same
key, every text with a reordering of the tree is read as the same value, and the same song or the
same mismatch comes of it. -/
theorem Song.ofJson_of_reorders {text : String} {value : Json.Value}
    (h : Json.parse text = .ok value) :
    (∃ tree : Tree, tree.Writes text) ∧
    ∀ {tree other : Tree} {otherText : String}, tree.Writes text → tree.DistinctKeys →
      tree.Reorders other → other.Writes otherText →
        Json.parse otherText = .ok value ∧ Song.ofJson otherText = Song.ofJson text := by
  refine ⟨Json.exists_writes_of_parse h, ?_⟩
  intro tree other otherText htext hdistinct hreorders hother
  have hparse := Json.parse_of_reorders htext hother hdistinct hreorders h
  refine ⟨hparse, ?_⟩
  rw [Song.ofJson, Song.ofJson, h, hparse]

/-- The word for nothing. -/
def nullLeaf : Leaf where
  text := Json.nullText
  value := .null
  starts := fun _ h ↦ Option.some.inj h ▸ rfl
  reads := Json.takes_readValue_null 0 [] 0 Json.ends_nil

/-- A key as it is printed. -/
def printedKey (name : String) : Key where
  text := name.toList.flatMap Json.charText ++ ['"']
  name := name
  reads := Json.readString_flatMap name [] 0

/-- A document with two mismatches in one object. -/
def faultyTree : Tree :=
  .object [(printedKey "meta", .object [(printedKey "tuning", .leaf nullLeaf),
    (printedKey "title", .leaf nullLeaf)]), (printedKey "id", .leaf nullLeaf)]

/-- The same document with the members of both objects in another order. -/
def reorderedTree : Tree :=
  .object [(printedKey "id", .leaf nullLeaf), (printedKey "meta",
    .object [(printedKey "title", .leaf nullLeaf), (printedKey "tuning", .leaf nullLeaf)])]

theorem reorders_faultyTree : faultyTree.Reorders reorderedTree := by
  refine ⟨_, _, ⟨_, _, ⟨_, _, ⟨_, _, rfl, ⟨_, _, rfl, rfl, rfl⟩, rfl⟩, List.Perm.swap _ _ [], rfl⟩,
    ⟨_, _, rfl, rfl, rfl⟩, rfl⟩, List.Perm.swap _ _ [], rfl⟩

/-- A document with a fault in it is refused in the same way after its members have changed
places. -/
theorem ofJson_of_reorders_faultyTree :
    faultyTree.DistinctKeys ∧ faultyTree.Reorders reorderedTree ∧
    ∃ value, Json.parse (String.ofList faultyTree.text) = .ok value ∧
      Json.parse (String.ofList reorderedTree.text) = .ok value ∧
      Song.ofJson (String.ofList reorderedTree.text) =
        Song.ofJson (String.ofList faultyTree.text) := by
  have hdistinct : faultyTree.DistinctKeys := by
    refine ⟨by decide, ⟨by decide, trivial, trivial, trivial⟩, trivial, trivial⟩
  have hparse : Json.parse (String.ofList faultyTree.text) = .ok _ :=
    (Json.parse_eq_ok_iff faultyTree.writes_text _).mpr rfl
  obtain ⟨hother, hsame⟩ := (Song.ofJson_of_reorders hparse).2 faultyTree.writes_text hdistinct
    reorders_faultyTree reorderedTree.writes_text
  exact ⟨hdistinct, reorders_faultyTree, _, hparse, hother, hsame⟩

end StepSequencer
