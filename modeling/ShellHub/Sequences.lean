import Mathlib.Logic.Basic

/-!
# Runs of steps, one at a time

A machine takes one input after the other, and each input leads to one next state. A run visits the
first state and the state after each input. What holds at first and is kept by every step that meets a
condition holds in every state of a run whose steps all meet it.
-/

namespace ShellHub.Sequences

variable {σ ι : Type} (step : σ → ι → σ)

/-- The states of a run: the first, and the one after each input. -/
def visited : σ → List ι → List σ
  | state, [] => [state]
  | state, input :: rest => state :: visited (step state input) rest

/-- Every step of a run meets a condition on the input and the state before it. -/
def Along (good : σ → ι → Prop) : σ → List ι → Prop
  | _, [] => True
  | state, input :: rest => good state input ∧ Along good (step state input) rest

instance decidableAlong (good : σ → ι → Prop) [∀ state input, Decidable (good state input)]
    (state : σ) : (inputs : List ι) → Decidable (Along step good state inputs)
  | [] => .isTrue trivial
  | input :: rest =>
    have := decidableAlong good (step state input) rest
    inferInstanceAs (Decidable (good state input ∧ Along step good (step state input) rest))

variable {step}

/-- An invariant of the steps is an invariant of the runs. -/
theorem visited_keeps {inv : σ → Prop} {good : σ → ι → Prop}
    (kept : ∀ state input, inv state → good state input → inv (step state input))
    {state : σ} {inputs : List ι} (start : inv state) (along : Along step good state inputs) :
    ∀ later ∈ visited step state inputs, inv later := by
  induction inputs generalizing state with
  | nil =>
    intro later member
    rw [List.mem_singleton.mp member]
    exact start
  | cons input rest ih =>
    intro later member
    rcases List.mem_cons.mp member with rfl | further
    · exact start
    · exact ih (kept state input start along.1) along.2 later further

/-- An invariant of all steps is an invariant of all runs. -/
theorem visited_always (inv : σ → Prop)
    (kept : ∀ state input, inv state → inv (step state input)) {state : σ} (start : inv state) (inputs : List ι) :
    ∀ later ∈ visited step state inputs, inv later := by
  have always : Along step (fun _ _ => True) state inputs := by
    induction inputs generalizing state with
    | nil => trivial
    | cons input rest ih => exact ⟨trivial, ih (kept _ _ start)⟩
  exact visited_keeps (fun state input holds _ => kept state input holds) start always

/-- What holds of every party still holds of every party when one of them moves on. -/
theorem set_keeps {α : Type} {parties : List α} {holds : α → Prop} {index : Nat} {moved : α}
    (all : ∀ party ∈ parties, holds party) (own : holds moved) :
    ∀ party ∈ parties.set index moved, holds party := by
  intro party member
  rcases List.mem_or_eq_of_mem_set member with old | rfl
  · exact all party old
  · exact own

end ShellHub.Sequences
