import StepSequencer.Proofs.Storage.LastWrite
import StepSequencer.Storage.FileName

/-!
# Stems and extensions

A name is divided at its last dot (`splitExtension?_eq_some_iff`), and the bytes of a text give the
text back (`text?_eq_some_iff`). So the name that a stem and an extension make is known from the
two, and no other name is divided into them.
-/

set_option autoImplicit false
set_option relaxedAutoImplicit false

namespace StepSequencer.FileName

/-! ### Names that are texts -/

/-- The text of a name is the one that the name is written as. -/
theorem text?_eq_some_iff {name : FileName} {text : String} :
    name.text? = some text ↔ name = ofText text := by
  obtain ⟨bytes⟩ := name
  constructor
  · intro h
    rw [text?, String.fromUTF8?] at h
    split at h
    · cases h
      rfl
    · cases h
  · intro h
    rw [h]
    exact FileTree.fromUTF8?_toUTF8 text

/-- The bytes of two texts in a row are those of the one and then those of the other. -/
theorem bytes_ofText_append (front back : String) :
    (ofText (front ++ back)).bytes = (ofText front).bytes ++ (ofText back).bytes := by
  simp only [ofText, String.toUTF8_eq_toByteArray, String.toByteArray_append,
    ByteArray.data_append, Array.toList_append]

/-- Only the empty text has no bytes. -/
theorem bytes_ofText_eq_nil_iff {text : String} : (ofText text).bytes = [] ↔ text = "" := by
  constructor
  · intro h
    have hname : ofText text = ofText "" := congrArg FileName.mk h
    exact Option.some.inj ((text?_eq_some_iff.mpr rfl).symm.trans (text?_eq_some_iff.mpr hname))
  · rintro rfl
    rfl

/-! ### Dividing a name -/

/-- What has no dot in it is passed over in the search for one. -/
theorem takeWhile_ne_dot {bytes : List UInt8} (h : dot ∉ bytes) (rest : List UInt8) :
    (bytes ++ rest).takeWhile (· ≠ dot) = bytes ++ rest.takeWhile (· ≠ dot) := by
  refine List.takeWhile_append_of_pos fun byte hbyte ↦ decide_eq_true ?_
  rintro rfl
  exact h hbyte

/-- A name without a dot is not divided. -/
theorem splitExtension?_of_not_mem {name : FileName} (h : dot ∉ name.bytes) :
    name.splitExtension? = none := by
  have hreversed : dot ∉ name.bytes.reverse := by simpa using h
  have htake := takeWhile_ne_dot hreversed []
  rw [List.append_nil, List.takeWhile_nil, List.append_nil] at htake
  rw [splitExtension?, htake, List.drop_eq_nil_of_le (Nat.le_succ _)]

/-- A stem and an extension without a dot make a name that is divided into the two. -/
theorem splitExtension?_append {extension : List UInt8} (h : dot ∉ extension)
    (stem : List UInt8) :
    splitExtension? ⟨stem ++ dot :: extension⟩ =
      if stem = [] then none else some (⟨stem⟩, ⟨extension⟩) := by
  have hreversed : (stem ++ dot :: extension).reverse =
      extension.reverse ++ dot :: stem.reverse := by simp
  have htake : (extension.reverse ++ dot :: stem.reverse).takeWhile (· ≠ dot) =
      extension.reverse := by
    rw [takeWhile_ne_dot (by simpa using h), List.takeWhile_cons_of_neg (by simp), List.append_nil]
  have hdrop : (extension.reverse ++ dot :: stem.reverse).drop (extension.reverse.length + 1) =
      stem.reverse := by
    rw [← List.drop_drop, List.drop_left, List.drop_succ_cons, List.drop_zero]
  rw [splitExtension?, hreversed, htake, hdrop]
  by_cases hstem : stem = []
  · rw [if_pos hstem, hstem]
    rfl
  · have hne : stem.reverse ≠ [] := by simpa using hstem
    obtain ⟨byte, rest, hcons⟩ := List.exists_cons_of_ne_nil hne
    rw [if_neg hstem, hcons]
    simp only [← hcons, List.reverse_reverse]

/-- A name is divided at its last dot, unless nothing stands before it. -/
theorem splitExtension?_eq_some_iff {name stem extension : FileName} :
    name.splitExtension? = some (stem, extension) ↔
      stem.bytes ≠ [] ∧ dot ∉ extension.bytes ∧
        name.bytes = stem.bytes ++ dot :: extension.bytes := by
  constructor
  · intro h
    by_cases hdot : dot ∈ name.bytes
    · obtain ⟨back, front, hback, hmem⟩ := List.eq_append_cons_of_mem (List.mem_reverse.mpr hdot)
      have hname : name = ⟨front.reverse ++ dot :: back.reverse⟩ := by
        obtain ⟨bytes⟩ := name
        rw [FileName.mk.injEq, ← List.reverse_inj, hback]
        simp
      have hplain : dot ∉ back.reverse := by simpa using hmem
      rw [hname, splitExtension?_append hplain] at h
      split at h
      · cases h
      · cases h
        exact ⟨by assumption, hplain, by rw [hname]⟩
    · rw [splitExtension?_of_not_mem hdot] at h
      cases h
  · rintro ⟨hstem, hextension, hname⟩
    obtain ⟨bytes⟩ := name
    obtain rfl : bytes = stem.bytes ++ dot :: extension.bytes := hname
    rw [splitExtension?_append hextension, if_neg hstem]

end StepSequencer.FileName
