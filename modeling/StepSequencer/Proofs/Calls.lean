/-!
# Runs of calls that may fail

A call takes a state and an input. It returns a result or a fault, and leaves a state behind in
either case. `afterCalls` is the state after a list of calls, the failed ones included, and
`callLog` lists the calls with what each of them returned.

`afterCalls_invariant` is the induction over runs: what every call keeps, whether it succeeds or
not, holds after every run.
-/

set_option autoImplicit false
set_option relaxedAutoImplicit false

namespace StepSequencer

section Runs

variable {State Input Fault Result : Type}
variable (call : State → Input → Except Fault Result × State)

/-- The state after calls with some inputs, one after the other. -/
def afterCalls (state : State) (inputs : List Input) : State :=
  inputs.foldl (fun state input ↦ (call state input).2) state

/-- Calls with some inputs, one after the other, each with what it returned. -/
def callLog (state : State) : List Input → List (Input × Except Fault Result)
  | [] => []
  | input :: rest => (input, (call state input).1) :: callLog (call state input).2 rest

variable {call}

/-- The log lists the inputs in order. -/
@[simp] theorem map_fst_callLog (state : State) (inputs : List Input) :
    (callLog call state inputs).map Prod.fst = inputs := by
  induction inputs generalizing state with
  | nil => rfl
  | cons input rest ih => rw [callLog, List.map_cons, ih]

/-- What every call keeps holds after every run, together with the log of the run. The log of the
calls before grows, so the induction is for any such log. -/
theorem afterCalls_invariant {motive : State → List (Input × Except Fault Result) → Prop}
    (hcall : ∀ {state log}, motive state log → ∀ input,
      motive (call state input).2 (log ++ [(input, (call state input).1)]))
    {state : State} (h : motive state []) (inputs : List Input) :
    motive (afterCalls call state inputs) (callLog call state inputs) := by
  have hrun : ∀ (state : State) (log : List (Input × Except Fault Result)), motive state log →
      motive (afterCalls call state inputs) (log ++ callLog call state inputs) := by
    induction inputs with
    | nil =>
      intro state log hlog
      simpa [afterCalls, callLog] using hlog
    | cons input rest ih =>
      intro state log hlog
      have hrest := ih _ _ (hcall hlog input)
      rwa [List.append_assoc, List.singleton_append] at hrest
  exact hrun state [] h

end Runs

/-- The inputs of the calls that succeeded, in order. -/
def accepted {Input Fault Result : Type} (log : List (Input × Except Fault Result)) :
    List Input :=
  (log.filter fun entry ↦ entry.2.isOk).map Prod.fst

section Accepted

variable {Input Fault Result : Type}

@[simp] theorem accepted_append_ok (log : List (Input × Except Fault Result)) (input : Input)
    (result : Result) : accepted (log ++ [(input, .ok result)]) = accepted log ++ [input] := by
  simp [accepted, Except.isOk, Except.toBool]

@[simp] theorem accepted_append_error (log : List (Input × Except Fault Result)) (input : Input)
    (fault : Fault) : accepted (log ++ [(input, .error fault)]) = accepted log := by
  simp [accepted, Except.isOk, Except.toBool]

end Accepted

end StepSequencer
