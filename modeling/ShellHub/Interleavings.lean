import ShellHub.Programs

/-!
# Interleaved programs

Several programs run at the same time over one shared state. A pool holds the state and, for each
thread, the operation it was started for and what is left of its program. At any moment a new
operation may start, or any thread may make its next call; one call is one atomic step. Threads
that have returned stay in the pool with their result.

The rule at the end proves an invariant of all interleavings from facts about single calls. Each
thread meets a contract over its own ghost state, as it would alone. The invariant relates the
shared state to the ghost states of all threads, and it has to survive the start of an operation
and each allowed call of each thread.
-/

namespace ShellHub.Interleavings

open Programs

/-- An operation that was started, and what is left of it. -/
structure Thread (Op Call : Type) (Reply : Call → Type) (α : Type) where
  op : Op
  rest : Program Call Reply α

/-- What a thread has returned. -/
def Thread.result {Op Call : Type} {Reply : Call → Type} {α : Type}
    (thread : Thread Op Call Reply α) : Option α :=
  match thread.rest with
  | .done result => some result
  | .call _ _ => none

/-- The shared state and the threads, in the order of their start. -/
structure Pool (Op Call : Type) (Reply : Call → Type) (α σ : Type) where
  shared : σ
  threads : List (Thread Op Call Reply α)

/-- One step of a pool: an operation starts, or a thread makes its next call. -/
inductive Event (Op ι : Type) where
  | start (op : Op)
  | step (thread : Nat) (input : ι)

/-- The programs of the operations, and the effect of a call that a thread makes. -/
structure System (Op Call : Type) (Reply : Call → Type) (α ι σ : Type) where
  program : Op → Program Call Reply α
  effect : Nat → Op → Meaning Call Reply ι σ

namespace System

variable {Op Call : Type} {Reply : Call → Type} {α ι σ γ : Type}
variable (system : System Op Call Reply α ι σ)

/-- The pool after an event. A thread that has returned, or that does not exist, makes no step. -/
def next (pool : Pool Op Call Reply α σ) : Event Op ι → Pool Op Call Reply α σ
  | .start op => { pool with threads := pool.threads ++ [⟨op, system.program op⟩] }
  | .step thread input =>
    match pool.threads[thread]? with
    | some ⟨op, .call request resume⟩ =>
      let (reply, shared) := system.effect thread op request input pool.shared
      ⟨shared, pool.threads.set thread ⟨op, resume reply⟩⟩
    | _ => pool

/-- The pools of a run: the first, and the one after each event. -/
def reached (pool : Pool Op Call Reply α σ) : List (Event Op ι) → List (Pool Op Call Reply α σ)
  | [] => [pool]
  | event :: rest => pool :: reached (system.next pool event) rest

/-- A condition holds of a call when it is made. -/
def Good (good : σ → Nat → Op → Call → ι → Prop) (pool : Pool Op Call Reply α σ) :
    Event Op ι → Prop
  | .start _ => True
  | .step thread input =>
    match pool.threads[thread]? with
    | some ⟨op, .call request _⟩ => good pool.shared thread op request input
    | _ => True

/-- A condition holds of every call of a run. -/
def Along (good : σ → Nat → Op → Call → ι → Prop) :
    Pool Op Call Reply α σ → List (Event Op ι) → Prop
  | _, [] => True
  | pool, event :: rest => Good good pool event ∧ Along good (system.next pool event) rest

section Decidability

variable (good : σ → Nat → Op → Call → ι → Prop)
  [∀ shared thread op request input, Decidable (good shared thread op request input)]

instance (pool : Pool Op Call Reply α σ) (event : Event Op ι) : Decidable (Good good pool event) :=
  match event with
  | .start _ => .isTrue trivial
  | .step thread input =>
    match found : pool.threads[thread]? with
    | some ⟨op, .call request _⟩ =>
      decidable_of_iff (good pool.shared thread op request input) (by simp [Good, found])
    | some ⟨_, .done _⟩ => .isTrue (by simp [Good, found])
    | none => .isTrue (by simp [Good, found])

instance decidableAlong (pool : Pool Op Call Reply α σ) :
    (events : List (Event Op ι)) → Decidable (system.Along good pool events)
  | [] => .isTrue trivial
  | event :: rest =>
    have := decidableAlong (system.next pool event) rest
    inferInstanceAs (Decidable (Good good pool event ∧ system.Along good _ rest))

end Decidability

/-! ## Ghost states of threads -/

/-- The ghost state of a thread. One that has not started is in the given state. -/
def ghostOf (idle : γ) (ghosts : List (Op × γ)) (thread : Nat) : γ :=
  (ghosts[thread]?.map Prod.snd).getD idle

theorem ghostOf_found {idle ghost : γ} {ghosts : List (Op × γ)} {thread : Nat} {op : Op}
    (found : ghosts[thread]? = some (op, ghost)) : ghostOf idle ghosts thread = ghost := by
  simp [ghostOf, found]

@[simp]
theorem ghostOf_append (idle : γ) (ghosts : List (Op × γ)) (op : Op) (thread : Nat) :
    ghostOf idle (ghosts ++ [(op, idle)]) thread = ghostOf idle ghosts thread := by
  unfold ghostOf
  rw [List.getElem?_append]
  split
  · rfl
  · rename_i beyond
    rw [List.getElem?_eq_none (Nat.le_of_not_lt beyond), List.getElem?_singleton]
    split <;> rfl

/-- A step moves the ghost state of its thread only. -/
theorem ghostOf_set {idle ghost : γ} {ghosts : List (Op × γ)} {thread : Nat} {op : Op}
    (found : ghosts[thread]? = some (op, ghost)) (next : γ) :
    ghostOf idle (ghosts.set thread (op, next)) =
      Function.update (ghostOf idle ghosts) thread next := by
  funext other
  by_cases same : other = thread
  · subst same
    simp [ghostOf, List.getElem?_set_self', found]
  · rw [Function.update_of_ne same, ghostOf, List.getElem?_set_ne (Ne.symm same)]
    rfl

/-! ## Invariants of all interleavings -/

/-- What has to be shown of single starts and single calls for an invariant of a pool. `ends` is what
a thread knows when it has returned. -/
structure Outline (γ : Type) (good : σ → Nat → Op → Call → ι → Prop) where
  contract : Op → Contract Call Reply γ
  initial : Op → γ
  ends : Op → α → γ → Prop
  inv : σ → List (Op × γ) → Prop
  meets : ∀ op, (system.program op).Meets (contract op) (initial op) (ends op)
  starts : ∀ shared ghosts op, inv shared ghosts → inv shared (ghosts ++ [(op, initial op)])
  steps : ∀ shared ghosts thread op ghost request input, inv shared ghosts →
    ghosts[thread]? = some (op, ghost) → (contract op).allowed ghost request →
    good shared thread op request input →
    ∃ ghost', (contract op).yields ghost request
      (system.effect thread op request input shared).1 ghost' ∧
      inv (system.effect thread op request input shared).2 (ghosts.set thread (op, ghost'))

namespace Outline

variable {system} {good : σ → Nat → Op → Call → ι → Prop}
variable (outline : system.Outline γ good)

/-- Each thread meets its contract from the ghost state that belongs to it. -/
def Fits (threads : List (Thread Op Call Reply α)) (ghosts : List (Op × γ)) : Prop :=
  ghosts.length = threads.length ∧
    ∀ (index : Nat) (thread : Thread Op Call Reply α), threads[index]? = some thread →
      ∃ ghost, ghosts[index]? = some (thread.op, ghost) ∧
        thread.rest.Meets (outline.contract thread.op) ghost (outline.ends thread.op)

/-- The invariant of a pool: ghost states exist that fit every thread. -/
def Holds (pool : Pool Op Call Reply α σ) : Prop :=
  ∃ ghosts, outline.Fits pool.threads ghosts ∧ outline.inv pool.shared ghosts

/-- A pool without threads starts with the invariant. -/
theorem holds_start {shared : σ} (start : outline.inv shared []) : outline.Holds ⟨shared, []⟩ :=
  ⟨[], ⟨rfl, fun index thread found => by simp at found⟩, start⟩

/-- A new thread fits its initial ghost state. -/
theorem Fits.start {threads : List (Thread Op Call Reply α)} {ghosts : List (Op × γ)}
    (fits : outline.Fits threads ghosts) (op : Op) :
    outline.Fits (threads ++ [⟨op, system.program op⟩]) (ghosts ++ [(op, outline.initial op)]) := by
  obtain ⟨aligned, old⟩ := fits
  refine ⟨by simp [aligned], ?_⟩
  intro index thread found
  rcases Nat.lt_trichotomy index threads.length with before | rfl | beyond
  · rw [List.getElem?_append_left before] at found
    rw [List.getElem?_append_left (aligned ▸ before)]
    exact old index thread found
  · obtain rfl : ⟨op, system.program op⟩ = thread := by simpa using found
    refine ⟨outline.initial op, ?_, outline.meets op⟩
    simp [← aligned]
  · have inside := (List.getElem?_eq_some_iff.mp found).1
    rw [List.length_append, List.length_singleton] at inside
    omega

/-- A thread that made a step fits the ghost state the step led to. -/
theorem Fits.set {threads : List (Thread Op Call Reply α)} {ghosts : List (Op × γ)}
    (fits : outline.Fits threads ghosts) {stepped : Nat} {op : Op}
    {rest : Program Call Reply α} {ghost : γ}
    (meets : rest.Meets (outline.contract op) ghost (outline.ends op)) :
    outline.Fits (threads.set stepped ⟨op, rest⟩) (ghosts.set stepped (op, ghost)) := by
  obtain ⟨aligned, old⟩ := fits
  refine ⟨by simp [aligned], ?_⟩
  intro index thread found
  by_cases same : stepped = index
  · subst same
    rw [List.getElem?_set_self'] at found
    obtain ⟨replaced, present, rfl⟩ := Option.map_eq_some_iff.mp found
    obtain ⟨replacedGhost, fitting, -⟩ := old stepped replaced present
    refine ⟨ghost, ?_, meets⟩
    rw [List.getElem?_set_self', fitting]
    rfl
  · rw [List.getElem?_set_ne same] at found ⊢
    exact old index thread found

/-- A thread that has returned is in a ghost state in which it may return. -/
theorem Fits.ended {threads : List (Thread Op Call Reply α)} {ghosts : List (Op × γ)}
    (fits : outline.Fits threads ghosts) {index : Nat} {thread : Thread Op Call Reply α} {result : α}
    (found : threads[index]? = some thread) (returned : thread.result = some result) :
    ∃ ghost, ghosts[index]? = some (thread.op, ghost) ∧ outline.ends thread.op result ghost := by
  obtain ⟨ghost, fitting, meets⟩ := fits.2 index thread found
  obtain ⟨op, rest⟩ := thread
  cases rest with
  | done value =>
    cases returned
    exact ⟨ghost, fitting, meets⟩
  | call request resume => cases returned

/-- Every event keeps the invariant. -/
theorem holds_next {pool : Pool Op Call Reply α σ} {event : Event Op ι}
    (holds : outline.Holds pool) (condition : Good good pool event) :
    outline.Holds (system.next pool event) := by
  obtain ⟨ghosts, fits, inv⟩ := holds
  cases event with
  | start op => exact ⟨_, fits.start outline op, outline.starts _ _ op inv⟩
  | step index input =>
    simp only [next]
    split
    · rename_i op request resume found
      obtain ⟨ghost, fitting, allowed, continues⟩ := fits.2 _ _ found
      obtain ⟨ghost', yielded, kept⟩ := outline.steps _ _ _ _ _ _ _ inv fitting allowed
        (by simpa only [Good, found] using condition)
      exact ⟨_, fits.set outline (continues _ _ yielded), kept⟩
    · exact ⟨ghosts, fits, inv⟩

/-- The invariant holds in every pool of a run. -/
theorem holds_reached {events : List (Event Op ι)} {pool : Pool Op Call Reply α σ}
    (holds : outline.Holds pool) (along : system.Along good pool events) :
    ∀ later ∈ system.reached pool events, outline.Holds later := by
  induction events generalizing pool with
  | nil =>
    intro later member
    rw [List.mem_singleton.mp member]
    exact holds
  | cons event rest ih =>
    intro later member
    rcases List.mem_cons.mp member with rfl | further
    · exact holds
    · exact ih (outline.holds_next holds along.1) along.2 later further

end Outline

/-- The rule for an invariant that reads the ghost state of each thread. Every program starts in the
idle state, and a call moves the state of its own thread only. Then the invariant holds in all pools of
a run, a thread that has returned is in a state in which it may return, and one that has not started is
idle. -/
theorem reached_of_threads {good : σ → Nat → Op → Call → ι → Prop} {idle : γ}
    {contract : Op → Contract Call Reply γ} {ends : Op → α → γ → Prop} (inv : σ → (Nat → γ) → Prop)
    (meets : ∀ op, (system.program op).Meets (contract op) idle (ends op))
    (steps : ∀ {shared states thread op request input}, inv shared states →
      (contract op).allowed (states thread) request → good shared thread op request input →
      ∃ state, (contract op).yields (states thread) request
        (system.effect thread op request input shared).1 state ∧
        inv (system.effect thread op request input shared).2 (Function.update states thread state))
    {shared : σ} (start : inv shared fun _ => idle) {events : List (Event Op ι)}
    (along : system.Along good ⟨shared, []⟩ events) :
    ∀ pool ∈ system.reached ⟨shared, []⟩ events, ∃ states, inv pool.shared states ∧
      (∀ index thread result, pool.threads[index]? = some thread → thread.result = some result →
        ends thread.op result (states index)) ∧
      ∀ index, pool.threads.length ≤ index → states index = idle := by
  intro pool member
  let outline : system.Outline γ good :=
    { contract, initial := fun _ => idle, ends, meets
      inv := fun shared ghosts => inv shared (ghostOf idle ghosts)
      starts := by
        intro shared ghosts op known
        have same := funext (ghostOf_append idle ghosts op)
        rwa [same]
      steps := by
        intro shared ghosts thread op ghost request input known found allowed condition
        have held : ghostOf idle ghosts thread = ghost := ghostOf_found found
        simp only [ghostOf_set found]
        rw [← held] at allowed ⊢
        exact steps known allowed condition }
  obtain ⟨ghosts, fits, known⟩ :=
    outline.holds_reached (outline.holds_start start) along pool member
  refine ⟨ghostOf idle ghosts, known, ?_, ?_⟩
  · intro index thread result found returned
    obtain ⟨ghost, held, ended⟩ := fits.ended outline found returned
    rwa [ghostOf_found held]
  · intro index beyond
    rw [ghostOf, List.getElem?_eq_none (fits.1 ▸ beyond)]
    rfl

end System

/-! ## Logs of reads

A log has its newest entry first. Some entries say what a thread has read.
-/

section Logs

variable {ε β : Type} (loadedBy : Nat → ε → Option β)

/-- What a thread has read last. -/
def lastLoaded (thread : Nat) (log : List ε) : Option β := log.findSome? (loadedBy thread)

/-- The log since a thread has read. -/
def sinceLoaded (thread : Nat) (log : List ε) : List ε :=
  log.takeWhile fun entry => (loadedBy thread entry).isNone

variable {loadedBy} {thread : Nat} {entry : ε} (log : List ε)

theorem lastLoaded_cons_self {read : β} (said : loadedBy thread entry = some read) :
    lastLoaded loadedBy thread (entry :: log) = some read := by
  simp [lastLoaded, said]

/-- An entry about somebody else does not change what a thread has read last. -/
theorem lastLoaded_cons_other (other : loadedBy thread entry = none) :
    lastLoaded loadedBy thread (entry :: log) = lastLoaded loadedBy thread log := by
  simp [lastLoaded, other]

theorem sinceLoaded_cons_other (other : loadedBy thread entry = none) :
    sinceLoaded loadedBy thread (entry :: log) = entry :: sinceLoaded loadedBy thread log := by
  simp [sinceLoaded, other]

end Logs

end ShellHub.Interleavings
