import StepSequencer.Proofs.Text.Lines
import StepSequencer.Song.Schema

/-!
# Paths as texts

A path is written with a point before each key but the first and with positions in brackets. If
no key holds a point or an opening bracket, the end of every key and of every numeral can be seen
in the text, so that the text determines the path (`renderPath_injective`). Without that condition
it does not: a key may look like a whole path, and the key of a single point looks like the root
(`renderPath_ne_point` says which paths do not).
-/

set_option autoImplicit false
set_option relaxedAutoImplicit false

namespace StepSequencer

/-- If a front ends where a character of some kind stands or the text is over, it is determined by
the text. -/
theorem append_inj_of_stop {stop : Char → Bool} {front other back more : List Char}
    (hfront : ∀ c ∈ front, stop c = false) (hother : ∀ c ∈ other, stop c = false)
    (hback : ∀ c ∈ back.head?, stop c = true) (hmore : ∀ c ∈ more.head?, stop c = true)
    (h : front ++ back = other ++ more) : front = other ∧ back = more := by
  have htake : ∀ {list rest : List Char}, (∀ c ∈ list, stop c = false) →
      (∀ c ∈ rest.head?, stop c = true) →
        (list ++ rest).takeWhile (fun c ↦ !stop c) = list := by
    intro list rest hlist hrest
    rw [List.takeWhile_append_of_pos fun c hc ↦ by rw [hlist c hc]; rfl]
    cases rest with
    | nil => exact List.append_nil list
    | cons c rest =>
      rw [List.takeWhile_cons_of_neg (by simp [hrest c rfl]), List.append_nil]
  have hsame : front = other := by rw [← htake hfront hback, h, htake hother hmore]
  subst hsame
  exact ⟨rfl, List.append_cancel_left h⟩

/-- Whether a character ends a key in the text of a path. -/
def endsKey (c : Char) : Bool :=
  c = '.' || c = '['

/-- The step is a position, or a key that holds no character that ends a key. -/
def PathStep.IsPlain : PathStep → Prop
  | .key name => ∀ c ∈ name.toList, endsKey c = false
  | .index _ => True

namespace SchemaError

/-- The characters of steps that are not the first ones of a path. -/
def laterChars (steps : List PathStep) : List Char :=
  steps.flatMap fun step ↦ (renderStep "." step).toList

@[simp] theorem toList_renderStep_key (separator name : String) :
    (renderStep separator (.key name)).toList = separator.toList ++ name.toList :=
  String.toList_append

@[simp] theorem toList_renderStep_index (separator : String) (position : Nat) :
    (renderStep separator (.index position)).toList =
      '[' :: (Nat.toDigits 10 position ++ [']']) := by
  simp [renderStep]

@[simp] theorem laterChars_nil : laterChars [] = [] :=
  rfl

@[simp] theorem laterChars_cons_key (name : String) (rest : List PathStep) :
    laterChars (.key name :: rest) = '.' :: (name.toList ++ laterChars rest) := by
  rw [laterChars, List.flatMap_cons, toList_renderStep_key]
  rfl

@[simp] theorem laterChars_cons_index (position : Nat) (rest : List PathStep) :
    laterChars (.index position :: rest) =
      '[' :: (Nat.toDigits 10 position ++ ']' :: laterChars rest) := by
  rw [laterChars, List.flatMap_cons, toList_renderStep_index, List.cons_append,
    List.append_assoc]
  rfl

theorem laterChars_cons_ne_nil (step : PathStep) (rest : List PathStep) :
    laterChars (step :: rest) ≠ [] := by
  cases step with
  | key name => simp
  | index position => simp

@[simp] theorem toList_renderPath_cons (first : PathStep) (rest : List PathStep) :
    (renderPath (first :: rest)).toList = (renderStep "" first).toList ++ laterChars rest := by
  rw [renderPath, String.toList_append, String.toList_join, List.flatMap_map]
  rfl

/-- What follows a key in the text of a path ends it. -/
theorem endsKey_of_head?_laterChars {steps : List PathStep} :
    ∀ c ∈ (laterChars steps).head?, endsKey c = true := by
  intro c hc
  cases steps with
  | nil => cases hc
  | cons step rest =>
    cases step with
    | key name =>
      rw [laterChars_cons_key] at hc
      cases hc
      rfl
    | index position =>
      rw [laterChars_cons_index] at hc
      cases hc
      rfl

/-- Plain steps can be read off their characters: a key ends at a point or a bracket, and a numeral
at the closing bracket. -/
theorem laterChars_injective {steps others : List PathStep} (hsteps : ∀ step ∈ steps, step.IsPlain)
    (hothers : ∀ step ∈ others, step.IsPlain) (h : laterChars steps = laterChars others) :
    steps = others := by
  induction steps generalizing others with
  | nil =>
    cases others with
    | nil => rfl
    | cons other more => exact absurd h.symm (laterChars_cons_ne_nil other more)
  | cons step rest ih =>
    obtain ⟨hstep, hrest⟩ := List.forall_mem_cons.mp hsteps
    cases others with
    | nil => exact absurd h (laterChars_cons_ne_nil step rest)
    | cons other more =>
      obtain ⟨hother, hmore⟩ := List.forall_mem_cons.mp hothers
      cases step with
      | key name =>
        cases other with
        | key otherName =>
          rw [laterChars_cons_key, laterChars_cons_key, List.cons.injEq] at h
          obtain ⟨hname, htail⟩ := append_inj_of_stop hstep hother endsKey_of_head?_laterChars
            endsKey_of_head?_laterChars h.2
          rw [String.toList_inj.mp hname, ih hrest hmore htail]
        | index position =>
          rw [laterChars_cons_key, laterChars_cons_index, List.cons.injEq] at h
          exact absurd h.1 (by decide)
      | index position =>
        cases other with
        | key otherName =>
          rw [laterChars_cons_index, laterChars_cons_key, List.cons.injEq] at h
          exact absurd h.1 (by decide)
        | index otherPosition =>
          rw [laterChars_cons_index, laterChars_cons_index, List.cons.injEq] at h
          have hdigits : ∀ (n : Nat), ∀ c ∈ Nat.toDigits 10 n, (c == ']') = false := by
            intro n c hc
            have hne : c ≠ ']' := by
              rintro rfl
              exact Text.not_mem_toDigits (by decide) n hc
            simpa using hne
          obtain ⟨hnumeral, htail⟩ := append_inj_of_stop (hdigits position)
            (hdigits otherPosition) (by simp) (by simp) h.2
          have hposition : position = otherPosition := by
            have hread := congrArg Text.numeral? hnumeral
            simpa using hread
          rw [List.cons.injEq] at htail
          rw [hposition, ih hrest hmore htail.2]

/-- Paths of plain steps that start with a key are determined by their texts. -/
theorem renderPath_injective {name other : String} {rest more : List PathStep}
    (hpath : ∀ step ∈ .key name :: rest, step.IsPlain)
    (hother : ∀ step ∈ .key other :: more, step.IsPlain)
    (h : renderPath (.key name :: rest) = renderPath (.key other :: more)) :
    PathStep.key name :: rest = .key other :: more := by
  have hchars := congrArg String.toList h
  rw [toList_renderPath_cons, toList_renderPath_cons, toList_renderStep_key,
    toList_renderStep_key] at hchars
  obtain ⟨hname, hrest⟩ := append_inj_of_stop (List.forall_mem_cons.mp hpath).1
    (List.forall_mem_cons.mp hother).1 endsKey_of_head?_laterChars endsKey_of_head?_laterChars
    hchars
  rw [String.toList_inj.mp hname, laterChars_injective (List.forall_mem_cons.mp hpath).2
    (List.forall_mem_cons.mp hother).2 hrest]

/-- A path that starts with another character than a point is not written like the root. -/
theorem renderPath_ne_point {first : PathStep} {rest : List PathStep} {c : Char}
    (hfirst : (renderStep "" first).toList.head? = some c) (hc : c ≠ '.') :
    renderPath (first :: rest) ≠ "." := by
  intro h
  have hhead := congrArg (fun text ↦ text.toList.head?) h
  rw [toList_renderPath_cons, List.head?_append, hfirst] at hhead
  exact hc (Option.some.inj hhead)

theorem renderPath_key (name : String) : renderPath [.key name] = name := by
  rw [← String.toList_inj, toList_renderPath_cons, toList_renderStep_key, laterChars_nil,
    List.append_nil, String.toList_empty, List.nil_append]

end SchemaError

end StepSequencer
