import Mathlib.Data.List.Basic

/-!
# Transducers

A transducer takes one input at a time, changes its state and may put something
out.  `feed` gives it a list of inputs.  How the list is cut makes no difference
(`feed_append`), so a reader that keeps its state between two reads cannot depend on
their sizes.
-/

set_option autoImplicit false

namespace Transducer

universe u v w

variable {State : Type u} {Input : Type v} {Output : Type w}

/-- What the inputs put out, and the state after them. -/
def feed (step : State → Input → State × Option Output) (state : State) :
    List Input → List Output × State
  | [] => ([], state)
  | input :: rest =>
      ((step state input).2.toList ++ (feed step (step state input).1 rest).1,
        (feed step (step state input).1 rest).2)

variable {step : State → Input → State × Option Output} {state : State}

theorem feed_append (first second : List Input) :
    feed step state (first ++ second) =
      ((feed step state first).1 ++ (feed step (feed step state first).2 second).1,
        (feed step (feed step state first).2 second).2) := by
  induction first generalizing state with
  | nil => rfl
  | cons input rest ih =>
      rw [List.cons_append, feed, feed, ih]
      simp

theorem feed_concat (inputs : List Input) (input : Input) :
    feed step state (inputs ++ [input]) =
      ((feed step state inputs).1 ++ (step (feed step state inputs).2 input).2.toList,
        (step (feed step state inputs).2 input).1) := by
  rw [feed_append]
  simp [feed]

theorem feed_invariant (inv : State → Prop)
    (keeps : ∀ state input, inv state → inv (step state input).1) (holds : inv state)
    (inputs : List Input) : inv (feed step state inputs).2 := by
  induction inputs generalizing state with
  | nil => exact holds
  | cons input rest ih => exact ih (keeps state input holds)

/-- A transducer that only groups its inputs: `held` is what the state keeps of them
and `spelt` what an output is made of.  No input is lost, added or moved. -/
theorem feed_conserves (held : State → List Input) (spelt : Output → List Input)
    (groups : ∀ state input, (step state input).2.toList.flatMap spelt ++
      held (step state input).1 =
      held state ++ [input])
    (inputs : List Input) :
    (feed step state inputs).1.flatMap spelt ++ held (feed step state inputs).2 =
      held state ++ inputs := by
  induction inputs generalizing state with
  | nil => simp [feed]
  | cons input rest ih =>
      rw [feed, List.flatMap_append, List.append_assoc, ih, ← List.append_assoc, groups,
        List.append_assoc]
      rfl

end Transducer
