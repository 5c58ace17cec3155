import StepSequencer.Proofs.Assembly.Traversal

/-!
# When a song compiles, and what is reported otherwise

If the different groups that occur have different identities, a song compiles exactly when it is
`Playable`, and otherwise the first of its faults is reported.
-/

set_option autoImplicit false
set_option relaxedAutoImplicit false

namespace StepSequencer

/-- Different texts among those of some groups have different identities. -/
def DistinctIdentities (groups : List (List Slot)) : Prop :=
  ∀ first ∈ groups, ∀ second ∈ groups, groupText first ≠ groupText second →
    blockIdentity (Text.trim (groupText first)) ≠ blockIdentity (Text.trim (groupText second))

/-- Only distinct groups are compared, because hashing is what takes time. -/
instance (groups : List (List Slot)) : Decidable (DistinctIdentities groups) :=
  decidable_of_iff (∀ first ∈ groups.eraseDups, ∀ second ∈ groups.eraseDups,
    groupText first ≠ groupText second →
      blockIdentity (Text.trim (groupText first)) ≠ blockIdentity (Text.trim (groupText second)))
    (by simp only [DistinctIdentities, List.mem_eraseDups])

/-- Groups whose texts have identities of their own do not collide. -/
theorem DistinctIdentities.not_hasCollision {groups : List (List Slot)}
    (h : DistinctIdentities groups) : ¬ HasCollision groups := by
  rintro ⟨first, hfirst, second, hsecond, htexts, hidentities⟩
  exact h first hfirst second hsecond htexts hidentities

variable {encoder : Encoder} {tuning : UInt8} {patterns : List Pattern}

/-- A song with distinct identities compiles exactly when it is playable, and any other song fails
with the first of its faults in the order of the traversal. -/
theorem compilePatterns_first_fault
    (h : DistinctIdentities (occurringGroups encoder tuning patterns)) :
    ((∃ fragments, compilePatterns encoder tuning patterns = .ok fragments) ↔
      Playable encoder tuning patterns) ∧
    ∀ fault, compilePatterns encoder tuning patterns = .error fault ↔
      (songFaults encoder tuning patterns).head? = some fault := by
  have hagrees := compile_agrees encoder tuning patterns
  rw [← songFaults_eq_nil_iff, compilePatterns]
  cases hcompile : compile encoder tuning patterns with
  | ok compilation =>
    rw [hcompile] at hagrees
    simp [Except.map, hagrees.1]
  | error fault =>
    rw [hcompile] at hagrees
    have hfirst := hagrees.resolve_right h.not_hasCollision
    have hne : songFaults encoder tuning patterns ≠ [] := by
      intro hnil
      simp [hnil] at hfirst
    simp [Except.map, hfirst, hne]

/-- A song with several faults: after a pattern without any, the second channel of the next one
has a step with the reserved code, then come steps that do not fill a pattern, and the last
pattern has no channels. -/
def faultyPatterns : List Pattern :=
  [⟨1, [⟨false, [{ sound := some 7, accent := true }]⟩, ⟨true, [{}]⟩]⟩,
    ⟨2, [⟨false, [{}, {}]⟩, ⟨false, [{}, { sound := some 255, octave := some 3 }]⟩]⟩,
    ⟨3, [⟨false, []⟩, ⟨true, []⟩]⟩, ⟨0, []⟩]

/-- The first fault is reported, which is the step with the reserved code. -/
theorem first_fault_faultyPatterns :
    DistinctIdentities (occurringGroups (fun _ step ↦ step.sound) 0 faultyPatterns) ∧
      compilePatterns (fun _ step ↦ step.sound) 0 faultyPatterns =
        .error (.reservedCode (some 255) none (some 3)) := by
  have hdistinct :
      DistinctIdentities (occurringGroups (fun _ step ↦ step.sound) 0 faultyPatterns) := by
    decide +kernel
  exact ⟨hdistinct, ((compilePatterns_first_fault hdistinct).2 _).mpr (by decide)⟩

end StepSequencer
