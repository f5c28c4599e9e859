import Mathlib.Data.List.Basic

/-!
# Labelled transition systems with a partial step function

A system has one initial state and a step function that refuses the labels
which are not enabled.  A run is a list of labels; `exec` replays it.  The
rules below carry an invariant, or an invariant that only steps of a given
kind keep, from one step to every run.
-/

set_option autoImplicit false

namespace TransitionSystem

universe u v w

structure System (State : Type u) (Label : Type v) where
  init : State
  step : State → Label → Option State

variable {State : Type u} {Label : Type v} {Output : Type w}

namespace System

def exec (system : System State Label) : State → List Label → Option State
  | state, [] => some state
  | state, label :: rest => (system.step state label).bind fun next => system.exec next rest

/-- Every step of the run satisfies `good`, judged in the state before it. -/
def Along (system : System State Label) (good : State → Label → Prop) :
    State → List Label → Prop
  | _, [] => True
  | state, label :: rest =>
      good state label ∧ ∀ next, system.step state label = some next → system.Along good next rest

instance Along.decidable (system : System State Label) (good : State → Label → Prop)
    [∀ state label, Decidable (good state label)] :
    ∀ (state : State) (labels : List Label), Decidable (system.Along good state labels)
  | _, [] => .isTrue trivial
  | state, label :: rest =>
      match result : system.step state label with
      | none => decidable_of_iff (good state label)
          ⟨fun holds => ⟨holds, by simp [result]⟩, And.left⟩
      | some next =>
          have := Along.decidable system good next rest
          decidable_of_iff (good state label ∧ system.Along good next rest)
            (by simp [Along, result])

/-- What the steps of a run put out, in order. -/
def outputs (system : System State Label) (emit : State → Label → List Output) :
    State → List Label → List Output
  | _, [] => []
  | state, label :: rest =>
      emit state label ++
        match system.step state label with
        | none => []
        | some next => system.outputs emit next rest

def Reachable (system : System State Label) (state : State) : Prop :=
  ∃ labels, system.exec system.init labels = some state

variable {system : System State Label} {good : State → Label → Prop}

theorem Along.of_mem {state : State} {labels : List Label}
    (always : ∀ label ∈ labels, ∀ state, good state label) : system.Along good state labels := by
  induction labels generalizing state with
  | nil => trivial
  | cons label rest ih =>
      refine ⟨always label List.mem_cons_self state, fun next _ => ih fun other member => ?_⟩
      exact always other (List.mem_cons_of_mem label member)

theorem Along.of_forall (always : ∀ state label, good state label) (state : State)
    (labels : List Label) : system.Along good state labels :=
  of_mem fun label _ state => always state label

theorem exec_cons {state final : State} {label : Label} {rest : List Label}
    (run : system.exec state (label :: rest) = some final) :
    ∃ next, system.step state label = some next ∧ system.exec next rest = some final :=
  Option.bind_eq_some_iff.mp run

theorem Along.append {state middle : State} {before after : List Label}
    (along : system.Along good state (before ++ after))
    (run : system.exec state before = some middle) :
    system.Along good state before ∧ system.Along good middle after := by
  induction before generalizing state with
  | nil =>
      cases Option.some.inj run
      exact ⟨trivial, along⟩
  | cons first rest ih =>
      obtain ⟨next, step, tail⟩ := exec_cons run
      obtain ⟨-, later⟩ := ih (along.2 next step) tail
      refine ⟨⟨along.1, fun other step' => ?_⟩, later⟩
      cases step.symm.trans step'
      exact (ih (along.2 next step) tail).1

theorem Along.snoc {state middle : State} {labels : List Label} {label : Label}
    (along : system.Along good state (labels ++ [label]))
    (run : system.exec state labels = some middle) :
    system.Along good state labels ∧ good middle label := by
  obtain ⟨before, last⟩ := along.append run
  exact ⟨before, last.1⟩

theorem exec_append (state : State) (before after : List Label) :
    system.exec state (before ++ after) =
      (system.exec state before).bind fun middle => system.exec middle after := by
  induction before generalizing state with
  | nil => rfl
  | cons label rest ih =>
      simp only [List.cons_append, exec]
      cases system.step state label with
      | none => rfl
      | some next => exact ih next

theorem exec_snoc {state middle final : State} {labels : List Label} {label : Label}
    (run : system.exec state labels = some middle) (last : system.step middle label = some final) :
    system.exec state (labels ++ [label]) = some final := by
  rw [exec_append, run]
  simp [exec, last]

theorem Reachable.start : system.Reachable system.init := ⟨[], rfl⟩

theorem Reachable.next {state final : State} {label : Label} (reached : system.Reachable state)
    (last : system.step state label = some final) : system.Reachable final := by
  obtain ⟨labels, run⟩ := reached
  exact ⟨labels ++ [label], exec_snoc run last⟩

theorem Reachable.steps {state final : State} {labels : List Label}
    (reached : system.Reachable state) (run : system.exec state labels = some final) :
    system.Reachable final := by
  obtain ⟨before, first⟩ := reached
  exact ⟨before ++ labels, by rw [exec_append, first]; exact run⟩

/-- The invariant rule for runs whose steps all satisfy `good`; `base` collects
what is already known of every state the run visits. -/
theorem exec_guarded (base inv : State → Prop)
    (baseStep : ∀ state label next, base state → system.step state label = some next → base next)
    (invStep : ∀ state label next, base state → inv state → good state label →
      system.step state label = some next → inv next) :
    ∀ (labels : List Label) (state final : State), base state → inv state →
      system.Along good state labels → system.exec state labels = some final → inv final := by
  intro labels
  induction labels with
  | nil =>
      intro state final _ holds _ run
      cases Option.some.inj run
      exact holds
  | cons label rest ih =>
      intro state final known holds along run
      obtain ⟨next, first, tail⟩ := exec_cons run
      exact ih next final (baseStep state label next known first)
        (invStep state label next known holds along.1 first) (along.2 next first) tail

theorem exec_invariant (inv : State → Prop)
    (invStep : ∀ state label next, inv state → system.step state label = some next → inv next)
    {labels : List Label} {state final : State} (holds : inv state)
    (run : system.exec state labels = some final) : inv final := by
  induction labels generalizing state with
  | nil =>
      cases Option.some.inj run
      exact holds
  | cons label rest ih =>
      obtain ⟨next, first, tail⟩ := exec_cons run
      exact ih (invStep state label next holds first) tail

theorem Reachable.invariant (inv : State → Prop) (start : inv system.init)
    (invStep : ∀ state label next, inv state → system.step state label = some next → inv next)
    {state : State} (reached : system.Reachable state) : inv state := by
  obtain ⟨labels, run⟩ := reached
  exact exec_invariant inv invStep start run

/-- A system that takes the same steps as another, seen through `project`, has its runs. -/
theorem exec_project {Other : Type w} {other : System Other Label} (project : State → Other)
    (inv : State → Prop)
    (same : ∀ state label, inv state →
      (system.step state label).map project = other.step (project state) label)
    (invStep : ∀ state label next, inv state → system.step state label = some next → inv next)
    {state : State} (holds : inv state) (labels : List Label) :
    (system.exec state labels).map project = other.exec (project state) labels := by
  induction labels generalizing state with
  | nil => rfl
  | cons label rest ih =>
      rw [exec, exec, ← same state label holds]
      cases run : system.step state label with
      | none => rfl
      | some next => exact ih (invStep state label next holds run)

/-- The invariant rule for a property that ties a state to what the run to it has
put out. -/
theorem exec_outputs (emit : State → Label → List Output) (inv : List Output → State → Prop)
    (invStep : ∀ told state label next, system.Reachable state → inv told state →
      good state label → system.step state label = some next →
      inv (told ++ emit state label) next)
    {labels : List Label} {state final : State} {told : List Output}
    (reached : system.Reachable state) (holds : inv told state)
    (along : system.Along good state labels) (run : system.exec state labels = some final) :
    inv (told ++ system.outputs emit state labels) final := by
  induction labels generalizing state told with
  | nil =>
      cases Option.some.inj run
      rwa [outputs, List.append_nil]
  | cons label rest ih =>
      obtain ⟨next, first, tail⟩ := exec_cons run
      have onward :=
        ih (reached.next first) (invStep told state label next reached holds along.1 first)
        (along.2 next first) tail
      simpa [outputs, first] using onward

theorem outputs_append {emit : State → Label → List Output} {state middle : State}
    {before after : List Label} (run : system.exec state before = some middle) :
    system.outputs emit state (before ++ after) =
      system.outputs emit state before ++ system.outputs emit middle after := by
  induction before generalizing state with
  | nil =>
      cases Option.some.inj run
      rfl
  | cons label rest ih =>
      obtain ⟨next, first, tail⟩ := exec_cons run
      rw [List.cons_append, outputs, outputs, first]
      simp only
      rw [ih tail, List.append_assoc]

/-- What is picked from the outputs is put out by a system that emits only that. -/
theorem outputs_filterMap {Other : Type w} (emit : State → Label → List Output)
    (pick : Output → Option Other) (state : State) (labels : List Label) :
    (system.outputs emit state labels).filterMap pick =
      system.outputs (fun state label => (emit state label).filterMap pick) state labels := by
  induction labels generalizing state with
  | nil => rfl
  | cons label rest ih =>
      rw [outputs, outputs, List.filterMap_append]
      cases system.step state label with
      | none => rfl
      | some next => rw [ih next]

end System

end TransitionSystem
