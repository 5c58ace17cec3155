import StepSequencer.Proofs.Json.Listing

/-!
# The parts between brackets

Between the brackets of an array or an object stand parts with commas between them, and each part
is an item with blanks around it (`Padded`). The loop over the items reads these parts one after the
other, up to the first that the reader of items does not accept (`RunsOver`). `reads_enclosed` says
what it then makes of the text, and `exists_enclosed` that no other texts are read.

Arrays and objects differ in the way to the next item. `Guides` collects what the loop has to know
about it: which texts lead to an item or to the closing bracket, and where it can have come to.
-/

set_option autoImplicit false
set_option relaxedAutoImplicit false

namespace StepSequencer.Json

/-- Something with blanks around it. -/
def Padded (core : List Char → Prop) (text : List Char) : Prop :=
  ∃ before middle after, Blank before ∧ core middle ∧ Blank after ∧
    text = before ++ (middle ++ after)

/-- Parts with commas between them, behind an opening bracket up to the closing one. -/
def Enclosed (close : Char) (parts : List (List Char)) (text : List Char) : Prop :=
  ∃ inside last, Blank inside ∧ Blank last ∧
    text = inside ++ (separated [','] parts ++ (last ++ [close]))

theorem blank_nil : Blank [] := by
  simp [Blank]

theorem padded_of_core {core : List Char → Prop} {text : List Char} (h : core text) :
    Padded core text :=
  ⟨[], text, [], blank_nil, h, blank_nil, (List.append_nil text).symm⟩

/-- What a layout puts between brackets are the items, each with the blanks before it. -/
theorem Layout.enclosed_eq (layout : Layout) (level : Nat) (close : Char)
    (texts : List (List Char)) :
    Enclosed close (texts.map (layout.line (level + 1) ++ ·))
      (layout.enclosed level close texts) := by
  cases texts with
  | nil => exact ⟨[], [], blank_nil, blank_nil, rfl⟩
  | cons text texts =>
    refine ⟨[], layout.line level, blank_nil, layout.blank_line level, ?_⟩
    simp [Layout.enclosed, separated_cons, List.flatMap_map]

theorem Layout.padded_line (layout : Layout) (level : Nat) {core : List Char → Prop}
    {text : List Char} (h : core text) : Padded core (layout.line level ++ text) :=
  ⟨layout.line level, text, [], layout.blank_line level, h, blank_nil, by rw [List.append_nil]⟩

/-! ### The way to the next item -/

/-- A text starts with a character of a certain kind. -/
def Starts (starts : Char → Prop) (text : List Char) : Prop :=
  ∃ c tail, text = c :: tail ∧ starts c

theorem Blank.append {first second : List Char} (hfirst : Blank first) (hsecond : Blank second) :
    Blank (first ++ second) := by
  intro c hc
  rcases List.mem_append.mp hc with hc | hc
  · exact hfirst c hc
  · exact hsecond c hc

/-- Blanks before a place are skipped like those behind it. -/
theorem skipGaps_blank_append {gap : List Char} (hgap : Blank gap) (rest : List Char)
    (offset : Nat) :
    Cursor.skipGaps ⟨gap ++ rest, offset⟩ = Cursor.skipGaps ⟨rest, offset + gap.length⟩ := by
  unfold Cursor.skipGaps Cursor.drop
  rw [List.takeWhile_append_of_pos hgap, List.length_append, List.drop_length_add_append,
    Nat.add_assoc]

/-- Blanks are skipped up to the first character that is none. -/
theorem exists_gap (c : Cursor) :
    ∃ gap, Blank gap ∧ c.rest = gap ++ c.skipGaps.rest ∧
      ∀ x ∈ c.skipGaps.rest.head?, Cursor.isGap x = false := by
  have hrest : c.skipGaps.rest = c.rest.dropWhile Cursor.isGap := by
    have hdrop : c.rest.drop (c.rest.takeWhile Cursor.isGap).length =
        (c.rest.takeWhile Cursor.isGap ++ c.rest.dropWhile Cursor.isGap).drop
          (c.rest.takeWhile Cursor.isGap).length := by
      rw [List.takeWhile_append_dropWhile]
    rw [Cursor.skipGaps, Cursor.drop, hdrop, List.drop_left]
  refine ⟨c.rest.takeWhile Cursor.isGap, List.all_eq_true.mp List.all_takeWhile, ?_, ?_⟩
  · rw [hrest, List.takeWhile_append_dropWhile]
  · intro x hx
    have hhead := List.head?_dropWhile_not Cursor.isGap c.rest
    rw [hrest] at hx
    rw [hx] at hhead
    exact hhead

/-- All that a loop needs to know about the way to its items: which texts lead to the closing
bracket, to the first item and to a later one, and where it can have come to. -/
structure Guides (next : Bool → Cursor → Reading Bool) (close : Char) (starts : Char → Prop) : Prop
    extends Walks next close starts where
  skips : ∀ (first : Bool) {gap : List Char} (rest : List Char) (offset : Nat), Blank gap →
    next first ⟨gap ++ rest, offset⟩ = next first ⟨rest, offset + gap.length⟩
  arrives : ∀ {first more : Bool} {c d : Cursor}, next first c = .ok (more, d) →
    (more = false ∧ d = c.skipGaps ∧ ∃ rest, d.rest = close :: rest) ∨
    (more = true ∧ first = true ∧ d = c.skipGaps ∧ Starts starts d.rest) ∨
    (more = true ∧ first = false ∧ d = (c.skipGaps.drop 1).skipGaps ∧
      (∃ tail, c.skipGaps.rest = ',' :: tail) ∧ Starts starts d.rest)

/-- The way to the elements of an array, and where it can lead. -/
theorem guides_nextElement : Guides nextElement ']' StartsValue where
  toWalks := walks_nextElement
  skips first gap rest offset hgap := by
    rw [nextElement, nextElement, skipGaps_blank_append hgap]
  arrives {first more c d} h := by
    unfold nextElement at h
    dsimp only at h
    rcases hrest : c.skipGaps.rest with _ | ⟨x, tail⟩
    · simp only [hrest] at h
      cases h
    · simp only [hrest] at h
      by_cases hclose : x = ']'
      · rw [if_pos hclose] at h
        cases h
        exact Or.inl ⟨rfl, rfl, tail, by rw [hrest, hclose]⟩
      · rw [if_neg hclose] at h
        have hgap : ∀ e : Cursor, ∀ y ∈ e.skipGaps.rest.head?, Cursor.isGap y = false := by
          intro e
          obtain ⟨-, -, -, hhead⟩ := exists_gap e
          exact hhead
        by_cases hfirst : first = true
        · rw [if_pos hfirst] at h
          cases h
          have hx := hgap c x (by rw [hrest]; rfl)
          exact Or.inr (Or.inl ⟨rfl, hfirst, rfl, x, tail, hrest, hx, hclose⟩)
        · rw [if_neg hfirst] at h
          by_cases hcomma : x = ','
          · rw [if_pos hcomma] at h
            rcases hnext : (c.skipGaps.drop 1).skipGaps.rest with _ | ⟨y, others⟩
            · simp only [hnext] at h
              cases h
            · simp only [hnext] at h
              by_cases hend : y = ']'
              · rw [if_pos hend] at h
                cases h
              · rw [if_neg hend] at h
                cases h
                have hy := hgap (c.skipGaps.drop 1) y (by rw [hnext]; rfl)
                exact Or.inr (Or.inr ⟨rfl, by simpa using hfirst, rfl, ⟨tail, by rw [hcomma]⟩,
                  y, others, hnext, hy, hend⟩)
          · rw [if_neg hcomma] at h
            cases h

/-- The way to the keys of an object, and where it can lead. -/
theorem guides_nextKey : Guides nextKey '}' (· = '"') where
  toWalks := walks_nextKey
  skips first gap rest offset hgap := by
    rw [nextKey, nextKey, skipGaps_blank_append hgap]
  arrives {first more c d} h := by
    unfold nextKey at h
    dsimp only at h
    rcases hrest : c.skipGaps.rest with _ | ⟨x, tail⟩
    · simp only [hrest] at h
      cases h
    · simp only [hrest] at h
      by_cases hclose : x = '}'
      · rw [if_pos hclose] at h
        cases h
        exact Or.inl ⟨rfl, rfl, tail, by rw [hrest, hclose]⟩
      · rw [if_neg hclose] at h
        by_cases hfirst : first = true
        · rw [if_pos hfirst] at h
          by_cases hquote : x = '"'
          · rw [if_pos hquote] at h
            cases h
            exact Or.inr (Or.inl ⟨rfl, hfirst, rfl, x, tail, hrest, hquote⟩)
          · rw [if_neg hquote] at h
            cases h
        · rw [if_neg hfirst] at h
          by_cases hcomma : x = ','
          · rw [if_pos hcomma] at h
            rcases hnext : (c.skipGaps.drop 1).skipGaps.rest with _ | ⟨y, others⟩
            · simp only [hnext] at h
              cases h
            · simp only [hnext] at h
              by_cases hquote : y = '"'
              · rw [if_pos hquote] at h
                cases h
                exact Or.inr (Or.inr ⟨rfl, by simpa using hfirst, rfl, ⟨tail, by rw [hcomma]⟩,
                  y, others, hnext, hquote⟩)
              · rw [if_neg hquote] at h
                split at h <;> cases h
          · rw [if_neg hcomma] at h
            cases h

/-! ### Reading the parts between brackets -/

/-- What a reader returns at the front of a text: a value, with some text left, or a fault. -/
def Returns {α : Type} (rest : List Char) (reading : Reading α) : Option α → Prop
  | some a => ∃ final, reading = .ok (a, ⟨rest, final⟩)
  | none => ∃ fault, reading = .error fault

/-- The reader takes the text as some value, or does not accept it. -/
def Reads {α : Type} (read : Cursor → Reading α) (text : List Char) (result : Option α) : Prop :=
  ∀ (rest : List Char) (offset : Nat), Ends rest →
    Returns rest (read ⟨text ++ rest, offset⟩) result

/-- A reader of items reads parts one after the other, each with blanks around it, and ends in a
state, or stops at the first part that it does not accept. -/
inductive RunsOver {σ : Type} (item : σ → Cursor → Reading σ) (starts : Char → Prop) :
    σ → List (List Char) → Option σ → Prop where
  | nil (state : σ) : RunsOver item starts state [] (some state)
  | fails {state : σ} {part : List Char} (parts : List (List Char))
      (hpart : Padded (fun text ↦ Starts starts text ∧ Reads (item state) text none) part) :
      RunsOver item starts state (part :: parts) none
  | takes {state next : σ} {part : List Char} {parts : List (List Char)} {result : Option σ}
      (hpart : Padded (fun text ↦ Starts starts text ∧ Reads (item state) text (some next)) part)
      (hrest : RunsOver item starts next parts result) :
      RunsOver item starts state (part :: parts) result

section Loop

variable {σ : Type} {next : Bool → Cursor → Reading Bool} {close : Char} {starts : Char → Prop}
  {item : σ → Cursor → Reading σ}

/-- What follows a part: the other parts behind commas, and what comes then. -/
def following (parts : List (List Char)) (rest : List Char) : List Char :=
  parts.flatMap (',' :: ·) ++ rest

theorem following_cons (part : List Char) (parts : List (List Char)) (rest : List Char) :
    following (part :: parts) rest = ',' :: (part ++ following parts rest) := by
  rw [following, List.flatMap_cons, List.append_assoc, List.cons_append, following]

/-- What follows is at least as long as there are parts. -/
theorem length_le_length_following (parts : List (List Char)) (rest : List Char) :
    parts.length ≤ (following parts rest).length := by
  induction parts with
  | nil => exact Nat.zero_le _
  | cons part parts ih =>
    rw [following_cons, List.length_cons, List.length_cons, List.length_append]
    omega

/-- What follows a part ends a numeral: a blank, a comma or the closing bracket. -/
theorem Guides.ends_following (h : Guides next close starts) {gap last : List Char}
    (hgap : Blank gap) (hlast : Blank last) (parts : List (List Char)) (rest : List Char) :
    Ends (gap ++ following parts (last ++ close :: rest)) := by
  refine ends_of_blank hgap ?_
  cases parts with
  | nil =>
    rw [following, List.flatMap_nil, List.nil_append]
    exact ends_of_blank hlast (h.ends rest)
  | cons part parts => exact ends_cons (by decide) (by decide)

/-- Over blanks, a comma and blanks the loop moves to an item. -/
theorem Guides.next_following (h : Guides next close starts) {gap before middle : List Char}
    (hgap : Blank gap) (hbefore : Blank before) (hstarts : Starts starts middle)
    (tail : List Char) (offset : Nat) :
    ∃ moved, next false ⟨gap ++ ',' :: (before ++ (middle ++ tail)), offset⟩ =
      .ok (true, ⟨middle ++ tail, moved⟩) := by
  obtain ⟨c, others, rfl, hc⟩ := hstarts
  obtain ⟨moved, hnext⟩ := h.proceed (others ++ tail) (offset + gap.length) hbefore hc
  refine ⟨moved, ?_⟩
  rw [h.skips false _ offset hgap]
  exact hnext

/-- A turn that comes to an item which is not accepted is the last one. -/
theorem readMany_of_fails {first : Bool} {state : σ} {c : Cursor} {middle tail : List Char}
    {moved : Nat} (hmove : next first c = .ok (true, ⟨middle ++ tail, moved⟩))
    (hitem : Reads (item state) middle none) (htail : Ends tail) (bound : Nat) :
    ∃ fault, readMany (listTurn next item) (bound + 1) first state c = .error fault := by
  obtain ⟨fault, hfault⟩ := hitem tail moved htail
  exact ⟨fault, by simp only [readMany, listTurn, hmove, hfault]⟩

/-- A turn that comes to an item which is accepted is followed by the others. -/
theorem readMany_of_takes {first : Bool} {state result : σ} {c : Cursor} {middle tail : List Char}
    {moved : Nat} (hmove : next first c = .ok (true, ⟨middle ++ tail, moved⟩))
    (hitem : Reads (item state) middle (some result)) (htail : Ends tail) (bound : Nat) :
    ∃ offset, readMany (listTurn next item) (bound + 1) first state c =
      readMany (listTurn next item) bound false result ⟨tail, offset⟩ := by
  obtain ⟨final, hread⟩ := hitem tail moved htail
  exact ⟨final, by simp only [readMany, listTurn, hmove, hread]⟩

/-- The turns behind the first item: to the closing bracket, or over a comma to an item. The blanks
behind an item are those before the comma or the bracket. -/
theorem Guides.returns_following (h : Guides next close starts) {last : List Char}
    (hlast : Blank last) {state : σ} {parts : List (List Char)} {result : Option σ}
    (hruns : RunsOver item starts state parts result) {gap : List Char} (hgap : Blank gap)
    (rest : List Char) (offset : Nat) {bound : Nat} (hbound : parts.length < bound) :
    Returns rest (readMany (listTurn next item) bound false state
      ⟨gap ++ following parts (last ++ close :: rest), offset⟩) result := by
  induction hruns generalizing gap offset bound with
  | nil state =>
    obtain ⟨bound, rfl⟩ := Nat.exists_eq_add_one_of_ne_zero (Nat.ne_zero_of_lt hbound)
    obtain ⟨moved, hnext⟩ := h.stop false rest offset (hgap.append hlast)
    refine ⟨moved + 1, ?_⟩
    rw [following, List.flatMap_nil, List.nil_append, ← List.append_assoc, readMany, listTurn,
      hnext]
    rfl
  | fails parts hpart =>
    obtain ⟨bound, rfl⟩ := Nat.exists_eq_add_one_of_ne_zero (Nat.ne_zero_of_lt hbound)
    obtain ⟨before, middle, after, hbefore, ⟨hstarts, hitem⟩, hafter, rfl⟩ := hpart
    obtain ⟨moved, hmove⟩ := h.next_following hgap hbefore hstarts
      (after ++ following parts (last ++ close :: rest)) offset
    rw [following_cons, List.append_assoc, List.append_assoc]
    exact readMany_of_fails hmove hitem (h.ends_following hafter hlast parts rest) bound
  | @takes state next' part parts result hpart hrest ih =>
    obtain ⟨bound, rfl⟩ := Nat.exists_eq_add_one_of_ne_zero (Nat.ne_zero_of_lt hbound)
    rw [List.length_cons] at hbound
    obtain ⟨before, middle, after, hbefore, ⟨hstarts, hitem⟩, hafter, rfl⟩ := hpart
    obtain ⟨moved, hmove⟩ := h.next_following hgap hbefore hstarts
      (after ++ following parts (last ++ close :: rest)) offset
    obtain ⟨turned, hturn⟩ :=
      readMany_of_takes hmove hitem (h.ends_following hafter hlast parts rest) bound
    rw [following_cons, List.append_assoc, List.append_assoc, hturn]
    exact ih hafter turned (Nat.lt_of_succ_lt_succ hbound)

/-- Over blanks the loop moves to the first item. -/
theorem Guides.next_first (h : Guides next close starts) {gap middle : List Char} (hgap : Blank gap)
    (hstarts : Starts starts middle) (tail : List Char) (offset : Nat) :
    ∃ moved, next true ⟨gap ++ (middle ++ tail), offset⟩ = .ok (true, ⟨middle ++ tail, moved⟩) := by
  obtain ⟨c, others, rfl, hc⟩ := hstarts
  exact h.start (others ++ tail) offset hgap hc

theorem separated_eq_following (inside before middle after last rest : List Char) (close : Char)
    (parts : List (List Char)) :
    inside ++ (separated [','] ((before ++ (middle ++ after)) :: parts) ++ (last ++ [close])) ++
        rest =
      inside ++ before ++ (middle ++ (after ++ following parts (last ++ close :: rest))) := by
  simp [separated_cons, following]

/-- The loop reads the parts between brackets. -/
theorem Guides.reads_enclosed (h : Guides next close starts) {state : σ}
    {parts : List (List Char)} {result : Option σ}
    (hruns : RunsOver item starts state parts result) {text : List Char}
    (htext : Enclosed close parts text) :
    Reads (readAll (listTurn next item) state) text result := by
  obtain ⟨inside, last, hinside, hlast, rfl⟩ := htext
  intro rest offset hrest
  rw [readAll]
  cases hruns with
  | nil =>
    obtain ⟨moved, hnext⟩ := h.stop true rest offset (hinside.append hlast)
    refine ⟨moved + 1, ?_⟩
    rw [separated, List.nil_append, List.append_assoc, List.append_assoc, List.singleton_append,
      ← List.append_assoc, readMany, listTurn, hnext]
    rfl
  | fails parts hpart =>
    obtain ⟨before, middle, after, hbefore, ⟨hstarts, hitem⟩, hafter, rfl⟩ := hpart
    obtain ⟨moved, hmove⟩ := h.next_first (hinside.append hbefore) hstarts
      (after ++ following parts (last ++ close :: rest)) offset
    rw [separated_eq_following]
    exact readMany_of_fails hmove hitem (h.ends_following hafter hlast parts rest) _
  | @takes state next' part parts result hpart hothers =>
    obtain ⟨before, middle, after, hbefore, ⟨hstarts, hitem⟩, hafter, rfl⟩ := hpart
    obtain ⟨moved, hmove⟩ := h.next_first (hinside.append hbefore) hstarts
      (after ++ following parts (last ++ close :: rest)) offset
    obtain ⟨turned, hturn⟩ :=
      readMany_of_takes hmove hitem (h.ends_following hafter hlast parts rest) _
    rw [separated_eq_following, hturn]
    refine h.returns_following hlast hothers hafter rest turned ?_
    obtain ⟨c, others, rfl, -⟩ := hstarts
    have hlength := length_le_length_following parts (last ++ close :: rest)
    simp only [List.length_append, List.length_cons] at hlength ⊢
    omega

/-- A turn of a loop that succeeds has come to the closing bracket, or to an item that was
accepted. -/
theorem readMany_cases {first : Bool} {state result : σ} {c d : Cursor} {bound : Nat}
    (h : readMany (listTurn next item) (bound + 1) first state c = .ok (result, d)) :
    (∃ e, next first c = .ok (false, e) ∧ d = e.drop 1) ∨
    ∃ e middle f, next first c = .ok (true, e) ∧ item state e = .ok (middle, f) ∧
      readMany (listTurn next item) bound false middle f = .ok (result, d) := by
  rw [readMany, listTurn] at h
  rcases hnext : next first c with fault | ⟨more, e⟩
  · simp only [hnext] at h
    cases h
  · cases more with
    | false =>
      simp only [hnext] at h
      cases h
      exact Or.inl ⟨e, rfl, rfl⟩
    | true =>
      rcases hitem : item state e with fault | ⟨middle, f⟩
      · simp only [hnext, hitem] at h
        cases h
      · simp only [hnext, hitem] at h
        exact Or.inr ⟨e, middle, f, rfl, hitem, h⟩

/-- Where a loop stops there are blanks and the closing bracket. -/
theorem Guides.exists_stop (h : Guides next close starts) {first : Bool} {c e : Cursor}
    (hnext : next first c = .ok (false, e)) :
    ∃ gap, Blank gap ∧ c.rest = gap ++ close :: (e.drop 1).rest := by
  obtain ⟨gap, hgap, hrest, -⟩ := exists_gap c
  rcases h.arrives hnext with ⟨-, rfl, rest, hclose⟩ | ⟨hmore, -⟩ | ⟨hmore, -⟩
  · refine ⟨gap, hgap, ?_⟩
    rw [hrest, hclose, Cursor.drop, hclose, List.drop_succ_cons, List.drop_zero]
  · cases hmore
  · cases hmore

/-- Where a loop starts there are blanks and the first item. -/
theorem Guides.exists_start (h : Guides next close starts) {c e : Cursor}
    (hnext : next true c = .ok (true, e)) :
    ∃ gap, Blank gap ∧ c.rest = gap ++ e.rest ∧ Starts starts e.rest := by
  obtain ⟨gap, hgap, hrest, -⟩ := exists_gap c
  rcases h.arrives hnext with ⟨hmore, -⟩ | ⟨-, -, rfl, hstarts⟩ | ⟨-, hfirst, -⟩
  · cases hmore
  · exact ⟨gap, hgap, hrest, hstarts⟩
  · cases hfirst

/-- Where a loop goes on there are a comma, blanks around it, and the next item. -/
theorem Guides.exists_proceed (h : Guides next close starts) {c e : Cursor}
    (hnext : next false c = .ok (true, e)) :
    ∃ gap before, Blank gap ∧ Blank before ∧ c.rest = gap ++ ',' :: (before ++ e.rest) ∧
      Starts starts e.rest := by
  obtain ⟨gap, hgap, hrest, -⟩ := exists_gap c
  rcases h.arrives hnext with ⟨hmore, -⟩ | ⟨-, hfirst, -⟩ | ⟨-, -, rfl, ⟨tail, hcomma⟩, hstarts⟩
  · cases hmore
  · cases hfirst
  · obtain ⟨before, hbefore, htail, -⟩ := exists_gap (c.skipGaps.drop 1)
    refine ⟨gap, before, hgap, hbefore, ?_, hstarts⟩
    rw [← htail, hrest, hcomma, Cursor.drop, hcomma, List.drop_succ_cons, List.drop_zero]

/-- The text that the turns behind an item have read. What one item is made of is given. -/
theorem Guides.exists_following (h : Guides next close starts) {core : List Char → Prop}
    (hitem : ∀ {state result : σ} {c d : Cursor}, Starts starts c.rest →
      item state c = .ok (result, d) → ∃ text, c.rest = text ++ d.rest ∧ core text)
    {bound : Nat} {state result : σ} {c d : Cursor}
    (hread : readMany (listTurn next item) bound false state c = .ok (result, d)) :
    ∃ gap parts, Blank gap ∧ c.rest = gap ++ following parts (close :: d.rest) ∧
      ∀ part ∈ parts, Padded core part := by
  induction bound generalizing state c with
  | zero => cases hread
  | succ bound ih =>
    rcases readMany_cases hread with ⟨e, hnext, rfl⟩ | ⟨e, middle, f, hnext, htake, hmany⟩
    · obtain ⟨gap, hgap, hrest⟩ := h.exists_stop hnext
      exact ⟨gap, [], hgap, hrest, by simp⟩
    · obtain ⟨gap, before, hgap, hbefore, hrest, hstarts⟩ := h.exists_proceed hnext
      obtain ⟨text, htext, hcore⟩ := hitem hstarts htake
      obtain ⟨after, parts, hafter, hfollowing, hparts⟩ := ih hmany
      refine ⟨gap, (before ++ (text ++ after)) :: parts, hgap, ?_, ?_⟩
      · rw [hrest, htext, hfollowing, following_cons, List.append_assoc, List.append_assoc]
      · rw [List.forall_mem_cons]
        exact ⟨⟨before, text, after, hbefore, hcore, hafter, rfl⟩, hparts⟩

/-- The text that the loop has read is made of parts with commas between them. -/
theorem Guides.exists_enclosed (h : Guides next close starts) {core : List Char → Prop}
    (hitem : ∀ {state result : σ} {c d : Cursor}, Starts starts c.rest →
      item state c = .ok (result, d) → ∃ text, c.rest = text ++ d.rest ∧ core text)
    {state result : σ} {c d : Cursor}
    (hread : readAll (listTurn next item) state c = .ok (result, d)) :
    ∃ parts text, Enclosed close parts text ∧ c.rest = text ++ d.rest ∧
      ∀ part ∈ parts, Padded core part := by
  rw [readAll] at hread
  rcases readMany_cases hread with ⟨e, hnext, rfl⟩ | ⟨e, middle, f, hnext, htake, hmany⟩
  · obtain ⟨gap, hgap, hrest⟩ := h.exists_stop hnext
    refine ⟨[], gap ++ [close], ⟨gap, [], hgap, blank_nil, rfl⟩, ?_, by simp⟩
    rw [hrest, List.append_assoc, List.singleton_append]
  · obtain ⟨gap, hgap, hrest, hstarts⟩ := h.exists_start hnext
    obtain ⟨text, htext, hcore⟩ := hitem hstarts htake
    obtain ⟨after, parts, hafter, hfollowing, hparts⟩ := h.exists_following hitem hmany
    refine ⟨(text ++ after) :: parts, _, ⟨gap, [], hgap, blank_nil, rfl⟩, ?_, ?_⟩
    · rw [hrest, htext, hfollowing]
      simp [separated_cons, following]
    · rw [List.forall_mem_cons]
      exact ⟨⟨[], text, after, blank_nil, hcore, hafter, rfl⟩, hparts⟩

end Loop

end StepSequencer.Json
