/-!
# Scanners

A scanner reads a stream symbol by symbol until a value is complete, and leaves the rest. What it
finds does not depend on how the stream is cut: it may be fed a first part and then the next. A
scanner may hand over to another one for a part of its value and go on with what that has found.
-/

namespace ShellHub.Scanners

variable {β σ α τ γ : Type}

/-- What a scanner does with a symbol. -/
inductive Step (σ α : Type) where
  | more (next : σ)
  | done (value : α)
  | invalid
  deriving DecidableEq, Repr

/-- A step of a scanner within another one, which goes on when a value is complete. -/
def Step.nest (embed : τ → σ) (resume : γ → σ) : Step τ γ → Step σ α
  | .more next => .more (embed next)
  | .done found => .more (resume found)
  | .invalid => .invalid

/-- What a scanner has found: it waits for more, or a value is complete and the rest is left over.
-/
inductive Progress (β σ α : Type) where
  | pending (state : σ)
  | complete (value : α) (rest : List β)
  | invalid
  deriving DecidableEq, Repr

/-- A scanner reads symbols. -/
def feed (step : σ → β → Step σ α) : σ → List β → Progress β σ α
  | state, [] => .pending state
  | state, symbol :: rest =>
    match step state symbol with
    | .more next => feed step next rest
    | .done value => .complete value rest
    | .invalid => .invalid

variable {step : σ → β → Step σ α}

@[simp]
theorem feed_nil (state : σ) : feed step state [] = .pending state := rfl

theorem feed_more {state next : σ} {symbol : β} (moves : step state symbol = .more next)
    (rest : List β) : feed step state (symbol :: rest) = feed step next rest := by
  simp only [feed, moves]

theorem feed_done {state : σ} {value : α} {symbol : β} (ends : step state symbol = .done value)
    (rest : List β) : feed step state (symbol :: rest) = .complete value rest := by
  simp only [feed, ends]

/-- A stream that is cut in two. -/
theorem feed_append (state : σ) (first second : List β) :
    feed step state (first ++ second) =
      match feed step state first with
      | .pending next => feed step next second
      | .complete value rest => .complete value (rest ++ second)
      | .invalid => .invalid := by
  induction first generalizing state with
  | nil => rfl
  | cons symbol rest ih =>
    simp only [List.cons_append, feed]
    cases step state symbol with
    | more next => exact ih next
    | done value | invalid => rfl

/-- A first part after which the scanner waits. -/
theorem feed_pending {state next : σ} {first : List β}
    (waits : feed step state first = .pending next) (second : List β) :
    feed step state (first ++ second) = feed step next second := by
  rw [feed_append, waits]

/-- A scanner that completes a value with its last symbol waits after every part of it. -/
theorem feed_part {state : σ} {value : α} {first second : List β}
    (complete : feed step state (first ++ second) = .complete value []) (further : second ≠ []) :
    ∃ next, feed step state first = .pending next := by
  rw [feed_append] at complete
  cases found : feed step state first with
  | pending next => exact ⟨next, rfl⟩
  | complete early rest =>
    rw [found] at complete
    cases rest with
    | nil => exact absurd (Progress.complete.inj complete).2 further
    | cons symbol rest => cases (Progress.complete.inj complete).2
  | invalid =>
    rw [found] at complete
    cases complete

/-- A scanner that hands over to another one. -/
theorem feed_nested {inner : τ → β → Step τ γ} {embed : τ → σ} {resume : γ → σ}
    (nested : ∀ state symbol,
      step (embed state) symbol = (inner state symbol).nest embed resume)
    {state : τ} {found : γ} {symbols rest : List β}
    (complete : feed inner state symbols = .complete found rest) :
    feed step (embed state) symbols = feed step (resume found) rest := by
  induction symbols generalizing state with
  | nil => cases complete
  | cons symbol further ih =>
    simp only [feed, nested] at complete ⊢
    cases moved : inner state symbol with
    | more next =>
      rw [moved] at complete
      exact ih complete
    | done value =>
      rw [moved] at complete
      obtain ⟨rfl, rfl⟩ := Progress.complete.inj complete
      rfl
    | invalid =>
      rw [moved] at complete
      cases complete

end ShellHub.Scanners
