import Mathlib.Data.List.Basic

/-!
# Properties of histories

A history is a list of events, oldest first.  `Always` judges every event by
what happened before it; the rules say how such a judgement extends when the
history grows.
-/

set_option autoImplicit false

namespace Trace

universe u

variable {Event : Type u} {holds : List Event → Event → Prop} {trace events : List Event}

def Always (holds : List Event → Event → Prop) (trace : List Event) : Prop :=
  ∀ before event after, trace = before ++ event :: after → holds before event

theorem always_nil : Always holds [] := by
  intro before event after split
  simp at split

/-- What stands at a place of a history that has just grown. -/
theorem concat_entry {event found : Event} {index : Nat}
    (get : (events ++ [event])[index]? = some found) :
    events[index]? = some found ∨ index = events.length ∧ found = event := by
  rcases Nat.lt_or_ge index events.length with inside | beyond
  · rw [List.getElem?_append_left inside] at get
    exact .inl get
  · rw [List.getElem?_append_right beyond] at get
    obtain ⟨bound, value⟩ := List.getElem?_eq_some_iff.mp get
    simp only [List.length_singleton] at bound
    simp only [List.getElem_singleton] at value
    exact .inr ⟨by omega, value.symm⟩

/-- An event of a history that has just grown is the new one or an old one. -/
theorem concat_split {event found : Event} {before after : List Event}
    (split : trace ++ [event] = before ++ found :: after) :
    before = trace ∧ found = event ∧ after = [] ∨
      ∃ rest, after = rest ++ [event] ∧ trace = before ++ found :: rest := by
  rcases List.eq_nil_or_concat after with rfl | ⟨rest, final, rfl⟩
  · obtain ⟨rfl, same⟩ := List.append_inj' split rfl
    cases same
    exact .inl ⟨rfl, rfl, rfl⟩
  · rw [List.concat_eq_append, ← List.cons_append, ← List.append_assoc] at split
    obtain ⟨older, same⟩ := List.append_inj' split rfl
    cases same
    exact .inr ⟨rest, List.concat_eq_append, older⟩

theorem Always.concat (always : Always holds trace) {event : Event} (last : holds trace event) :
    Always holds (trace ++ [event]) := by
  intro before found after split
  rcases concat_split split with ⟨rfl, rfl, -⟩ | ⟨rest, -, older⟩
  · exact last
  · exact always before found rest older

theorem Always.left (always : Always holds (trace ++ events)) : Always holds trace := by
  intro before event after split
  exact always before event (after ++ events) (by simp [split])

theorem Always.last {event : Event} (always : Always holds (trace ++ [event])) :
    holds trace event := always trace event [] rfl

/-- Events that satisfy the judgement whatever came before them. -/
theorem Always.append (always : Always holds trace)
    (harmless : ∀ event ∈ events, ∀ before, holds before event) :
    Always holds (trace ++ events) := by
  induction events generalizing trace with
  | nil => rwa [List.append_nil]
  | cons event rest ih =>
      rw [List.append_cons]
      exact ih (always.concat (harmless event (List.mem_cons_self ..) trace))
        fun other member => harmless other (List.mem_cons_of_mem _ member)

end Trace
