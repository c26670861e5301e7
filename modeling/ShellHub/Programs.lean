import Mathlib.Logic.Function.Basic

/-!
# Programs over atomic calls

A service function is a finite tree of calls to the components around it: a store, a
cache, an external answer. Each node names one call, and its branches are the answers
that call may give. The tree is a monad, so a function of a program under study can be
written down in its own order of steps.

Running a program needs the meaning of one call: what it answers and how it changes a
shared state, given an input chosen by the environment (the clock, a fault, a remote
answer). Reasoning about it needs only a contract: which calls are allowed in which
ghost state, and which answers lead to which ghost state. `Meets` checks a program
against a contract once, for every answer; `Realizes` ties the contract to a meaning.

`Alike` compares two programs: they make the same calls and return related results. It is
the rule for properties of two runs.
-/

namespace ShellHub.Programs

/-- A computation that has returned, or that makes one call and continues with the
answer. The answer's type depends on the call. -/
inductive Program (Call : Type) (Reply : Call → Type) (α : Type) where
  | done (result : α)
  | call (request : Call) (resume : Reply request → Program Call Reply α)

variable {Call : Type} {Reply : Call → Type} {α β γ σ ι : Type}

namespace Program

/-- Continue a program with another one that depends on its result. -/
def bind : Program Call Reply α → (α → Program Call Reply β) → Program Call Reply β
  | .done result, next => next result
  | .call request resume, next => .call request fun reply => (resume reply).bind next

instance : Monad (Program Call Reply) where
  pure := .done
  bind := bind

/-- The program that makes one call and returns its answer. -/
def perform (request : Call) : Program Call Reply (Reply request) := .call request .done

@[simp]
theorem pure_eq (result : α) : (pure result : Program Call Reply α) = .done result := rfl

@[simp]
theorem done_bind (result : α) (next : α → Program Call Reply β) :
    (Program.done result >>= next) = next result := rfl

@[simp]
theorem call_bind (request : Call) (resume : Reply request → Program Call Reply α)
    (next : α → Program Call Reply β) :
    (Program.call request resume >>= next) =
      .call request fun reply => resume reply >>= next := rfl

/-- Sequencing is associative. -/
theorem bind_bind {δ : Type} (first : Program Call Reply α) (middle : α → Program Call Reply β)
    (last : β → Program Call Reply δ) :
    ((first >>= middle) >>= last) = first >>= fun result => middle result >>= last := by
  induction first with
  | done result => rfl
  | call request resume ih =>
    exact congrArg (Program.call request) (funext ih)

end Program

/-- The meaning of single calls: the answer and the next shared state, for an input the
environment chooses. -/
abbrev Meaning (Call : Type) (Reply : Call → Type) (ι σ : Type) : Type :=
  (request : Call) → ι → σ → Reply request × σ

/-- What one run of a program leaves behind: its result, the shared state, and the calls
it made in order. -/
structure Outcome (Call α σ : Type) where
  result : α
  state : σ
  calls : List Call

/-- Run a program alone. The environment's inputs are consumed one for each call. -/
def run (meaning : Meaning Call Reply ι σ) :
    (Nat → ι) → Program Call Reply α → σ → Outcome Call α σ
  | _, .done result, state => ⟨result, state, []⟩
  | inputs, .call request resume, state =>
    let (reply, next) := meaning request (inputs 0) state
    let rest := run meaning (fun index => inputs (index + 1)) (resume reply) next
    { rest with calls := request :: rest.calls }

/-- The result of a program that starts with a call. -/
theorem result_perform_bind (meaning : Meaning Call Reply ι σ) (inputs : Nat → ι) (request : Call)
    (next : Reply request → Program Call Reply α) (state : σ) :
    (run meaning inputs (Program.perform request >>= next) state).result =
      (run meaning (fun index => inputs (index + 1)) (next (meaning request (inputs 0) state).1)
        (meaning request (inputs 0) state).2).result := rfl

/-- The state after a program that starts with a call. -/
theorem state_perform_bind (meaning : Meaning Call Reply ι σ) (inputs : Nat → ι) (request : Call)
    (next : Reply request → Program Call Reply α) (state : σ) :
    (run meaning inputs (Program.perform request >>= next) state).state =
      (run meaning (fun index => inputs (index + 1)) (next (meaning request (inputs 0) state).1)
        (meaning request (inputs 0) state).2).state := rfl

/-- A run of two programs in sequence is a run of the first and then one of the second, on the
inputs that are left. -/
theorem run_bind (meaning : Meaning Call Reply ι σ) (inputs : Nat → ι)
    (first : Program Call Reply α) (next : α → Program Call Reply β) (state : σ) :
    run meaning inputs (first >>= next) state =
      let before := run meaning inputs first state
      let after := run meaning (fun index => inputs (index + before.calls.length))
        (next before.result) before.state
      { after with calls := before.calls ++ after.calls } := by
  induction first generalizing inputs state with
  | done result => rfl
  | call request resume ih =>
    simp only [Program.call_bind, run, ih, List.length_cons, List.cons_append]
    rfl

/-- Reading the inputs through a view is running on the viewed inputs. -/
theorem run_comap {κ : Type} (meaning : Meaning Call Reply ι σ) (view : κ → ι)
    (inputs : Nat → κ) (program : Program Call Reply α) (state : σ) :
    run (fun request input => meaning request (view input)) inputs program state =
      run meaning (fun index => view (inputs index)) program state := by
  induction program generalizing inputs state with
  | done result => rfl
  | call request resume ih => simp only [run, ih]

/-- The call a program starts with, if it makes one. -/
def Program.first : Program Call Reply α → Option Call
  | .done _ => none
  | .call request _ => some request

/-- A program's first call is made in every run. -/
theorem first_mem_calls {program : Program Call Reply α} {request : Call}
    (starts : program.first = some request) (meaning : Meaning Call Reply ι σ)
    (inputs : Nat → ι) (state : σ) : request ∈ (run meaning inputs program state).calls := by
  cases program with
  | done result => cases starts
  | call made resume =>
    cases starts
    exact List.mem_cons_self

/-- A contract for a program's calls over a ghost state: which calls are allowed, and
which ghost states an answer may lead to. -/
structure Contract (Call : Type) (Reply : Call → Type) (γ : Type) where
  allowed : γ → Call → Prop
  yields : γ → (request : Call) → Reply request → γ → Prop

/-- Calls of a kind are allowed in a ghost state, and they leave it alone. -/
def Contract.Ignores (contract : Contract Call Reply γ) (made : Call → Prop) (ghost : γ) : Prop :=
  ∀ request, made request → contract.allowed ghost request ∧
    ∀ reply next, contract.yields ghost request reply next → next = ghost

/-- From a ghost state, the program makes only allowed calls whatever the contract lets
them answer, and it returns with its postcondition. -/
def Program.Meets (contract : Contract Call Reply γ) :
    Program Call Reply α → γ → (α → γ → Prop) → Prop
  | .done result, ghost, post => post result ghost
  | .call request resume, ghost, post =>
    contract.allowed ghost request ∧
      ∀ reply next, contract.yields ghost request reply next →
        (resume reply).Meets contract next post

namespace Program

variable {contract : Contract Call Reply γ} {program : Program Call Reply α} {ghost : γ}
  {post : α → γ → Prop} {made : Call → Prop}

@[simp]
theorem meets_done {result : α} :
    (Program.done result : Program Call Reply α).Meets contract ghost post ↔ post result ghost :=
  Iff.rfl

/-- A call comes first: it is allowed, and the rest goes on from each of its answers. -/
theorem Meets.perform {request : Call} {next : Reply request → Program Call Reply β}
    {post : β → γ → Prop} (allowed : contract.allowed ghost request)
    (continues : ∀ reply ghost', contract.yields ghost request reply ghost' → (next reply).Meets contract ghost' post) :
    (perform request >>= next).Meets contract ghost post :=
  ⟨allowed, continues⟩

/-- Sequencing: the second program starts where the first one's postcondition holds. -/
theorem Meets.bind {first : Program Call Reply α} {next : α → Program Call Reply β}
    {middle : α → γ → Prop} {post : β → γ → Prop} (meets : first.Meets contract ghost middle)
    (continues : ∀ result ghost', middle result ghost' → (next result).Meets contract ghost' post) :
    (first >>= next).Meets contract ghost post := by
  induction first generalizing ghost with
  | done result => exact continues result ghost meets
  | call request resume ih =>
    refine ⟨meets.1, ?_⟩
    intro reply ghost' yielded
    exact ih reply (meets.2 reply ghost' yielded)

/-- A weaker postcondition is also met. -/
theorem Meets.mono {strong weak : α → γ → Prop} (meets : program.Meets contract ghost strong)
    (weaker : ∀ result ghost', strong result ghost' → weak result ghost') :
    program.Meets contract ghost weak := by
  induction program generalizing ghost with
  | done result => exact weaker result ghost meets
  | call request resume ih =>
    refine ⟨meets.1, ?_⟩
    intro reply ghost' yielded
    exact ih reply (meets.2 reply ghost' yielded)

/-- What every answer of the contract keeps holds at the end as well. -/
theorem Meets.keeps {inv : γ → Prop} (meets : program.Meets contract ghost post) (start : inv ghost)
    (kept : ∀ ghost request reply next, inv ghost → contract.yields ghost request reply next → inv next) :
    program.Meets contract ghost fun result next => post result next ∧ inv next := by
  induction program generalizing ghost with
  | done result => exact ⟨meets, start⟩
  | call request resume ih =>
    refine ⟨meets.1, fun reply next yielded => ?_⟩
    exact ih reply (meets.2 reply next yielded) (kept ghost request reply next start yielded)

/-- Every call the program may make, whatever is answered, has a property. -/
def Uses (made : Call → Prop) : Program Call Reply α → Prop
  | .done _ => True
  | .call request resume => made request ∧ ∀ reply, (resume reply).Uses made

@[simp]
theorem uses_perform_bind {request : Call} {next : Reply request → Program Call Reply β} :
    (perform request >>= next).Uses made ↔ made request ∧ ∀ reply, (next reply).Uses made :=
  Iff.rfl

/-- A sequence uses what its parts use. -/
theorem Uses.bind {first : Program Call Reply α} {next : α → Program Call Reply β}
    (uses : first.Uses made) (continues : ∀ result, (next result).Uses made) : (first >>= next).Uses made := by
  induction first with
  | done result => exact continues result
  | call request resume ih =>
    exact ⟨uses.1, fun reply => ih reply (uses.2 reply)⟩

/-- What the calls of a program have, they also have if it follows. -/
theorem Uses.mono {made weaker : Call → Prop} (uses : program.Uses made)
    (follows : ∀ request, made request → weaker request) : program.Uses weaker := by
  induction program with
  | done result => trivial
  | call request resume ih =>
    exact ⟨follows request uses.1, fun reply => ih reply (uses.2 reply)⟩

/-- A program whose calls all leave the ghost state alone leaves it alone. -/
theorem Uses.meets (uses : program.Uses made) (ignored : contract.Ignores made ghost) :
    program.Meets contract ghost fun _ next => next = ghost := by
  induction program with
  | done result => rfl
  | call request resume ih =>
    obtain ⟨allowed, unmoved⟩ := ignored request uses.1
    refine ⟨allowed, ?_⟩
    intro reply next yielded
    obtain rfl := unmoved reply next yielded
    exact ih reply (uses.2 reply)

/-- A program whose calls are allowed in every ghost state meets the contract. -/
theorem Uses.meets_of_allowed (uses : program.Uses made)
    (allowed : ∀ ghost request, made request → contract.allowed ghost request) (ghost : γ) :
    program.Meets contract ghost fun _ _ => True := by
  induction program generalizing ghost with
  | done result => trivial
  | call request resume ih =>
    refine ⟨allowed ghost request uses.1, ?_⟩
    intro reply next _
    exact ih reply (uses.2 reply) next

end Program

/-- A run makes only calls that keep a view of the state, so it keeps the view. -/
theorem Program.Uses.run_eq {made : Call → Prop} {meaning : Meaning Call Reply ι σ}
    {view : σ → γ} {program : Program Call Reply α} (uses : program.Uses made)
    (kept : ∀ request input state, made request →
      view (meaning request input state).2 = view state) (inputs : Nat → ι) (state : σ) :
    view (run meaning inputs program state).state = view state := by
  induction program generalizing inputs state with
  | done result => rfl
  | call request resume ih =>
    have later := ih _ (uses.2 (meaning request (inputs 0) state).1)
      (fun index => inputs (index + 1)) (meaning request (inputs 0) state).2
    exact later.trans (kept request (inputs 0) state uses.1)

/-- The meaning of calls keeps a relation between shared and ghost states: every allowed
call gives an answer the contract yields, in related states. -/
def Realizes (meaning : Meaning Call Reply ι σ) (contract : Contract Call Reply γ)
    (related : σ → γ → Prop) : Prop :=
  ∀ state ghost request input, related state ghost → contract.allowed ghost request →
    ∃ ghost', contract.yields ghost request (meaning request input state).1 ghost' ∧
      related (meaning request input state).2 ghost'

/-- The meaning of calls keeps a relation between shared and ghost states, on inputs that have a
property. -/
def RealizesOn (good : ι → Prop) (meaning : Meaning Call Reply ι σ) (contract : Contract Call Reply γ)
    (related : σ → γ → Prop) : Prop :=
  ∀ state ghost request input, good input → related state ghost → contract.allowed ghost request →
    ∃ ghost', contract.yields ghost request (meaning request input state).1 ghost' ∧
      related (meaning request input state).2 ghost'

section Runs

variable {good : ι → Prop} {meaning : Meaning Call Reply ι σ} {contract : Contract Call Reply γ}
  {related : σ → γ → Prop} {program : Program Call Reply α} {ghost : γ} {post : α → γ → Prop}
  {state : σ}

/-- A program that meets a contract which is realized on good inputs runs to its postcondition on such
inputs, and every call it makes was allowed. -/
theorem Program.Meets.run_on (realizes : RealizesOn good meaning contract related)
    (meets : program.Meets contract ghost post) (start : related state ghost) {inputs : Nat → ι}
    (all : ∀ index, good (inputs index)) :
    (∃ ghost', post (run meaning inputs program state).result ghost' ∧
      related (run meaning inputs program state).state ghost') ∧
    ∀ request ∈ (run meaning inputs program state).calls,
      ∃ ghost', contract.allowed ghost' request := by
  induction program generalizing ghost state inputs with
  | done result => exact ⟨⟨ghost, meets, start⟩, by simp [Programs.run]⟩
  | call request resume ih =>
    obtain ⟨ghost', yielded, related'⟩ := realizes state ghost request (inputs 0) (all 0) start meets.1
    obtain ⟨ends, allowed⟩ := ih _ (meets.2 _ _ yielded) related' fun index => all (index + 1)
    refine ⟨ends, ?_⟩
    intro made member
    rcases List.mem_cons.mp member with rfl | later
    · exact ⟨ghost, meets.1⟩
    · exact allowed made later

/-- A program that meets a realized contract runs to its postcondition, and every call it
makes was allowed. -/
theorem Program.Meets.run (realizes : Realizes meaning contract related)
    (meets : program.Meets contract ghost post) (start : related state ghost) (inputs : Nat → ι) :
    (∃ ghost', post (run meaning inputs program state).result ghost' ∧
      related (run meaning inputs program state).state ghost') ∧
    ∀ request ∈ (run meaning inputs program state).calls,
      ∃ ghost', contract.allowed ghost' request := by
  have always : RealizesOn (fun _ => True) meaning contract related :=
    fun state ghost request input _ => realizes state ghost request input
  exact meets.run_on always start fun _ => trivial

end Runs

/-- The contract of a meaning whose inputs have a property. -/
def Meaning.within (meaning : Meaning Call Reply ι σ) (good : ι → Prop) : Contract Call Reply σ where
  allowed := fun _ _ => True
  yields := fun state request reply next =>
    ∃ input, good input ∧ meaning request input state = (reply, next)

/-- A program that meets the contract of a meaning with good inputs runs to its postcondition on
such inputs. -/
theorem Program.Meets.run_within {meaning : Meaning Call Reply ι σ} {good : ι → Prop}
    {program : Program Call Reply α} {state : σ} {post : α → σ → Prop}
    (meets : program.Meets (meaning.within good) state post) {inputs : Nat → ι}
    (all : ∀ index, good (inputs index)) :
    post (Programs.run meaning inputs program state).result
      (Programs.run meaning inputs program state).state := by
  induction program generalizing state inputs with
  | done result => exact meets
  | call request resume ih =>
    exact ih _ (meets.2 _ _ ⟨inputs 0, all 0, rfl⟩) fun index => all (index + 1)

/-! ## Pairs of programs -/

/-- Two programs make the same calls, whatever they are answered, and return related results. -/
inductive Program.Alike (related : α → β → Prop) :
    Program Call Reply α → Program Call Reply β → Prop where
  | done {first : α} {second : β} (same : related first second) :
      Alike related (.done first) (.done second)
  | call {request : Call} {one : Reply request → Program Call Reply α}
      {other : Reply request → Program Call Reply β}
      (same : ∀ reply, Alike related (one reply) (other reply)) :
      Alike related (.call request one) (.call request other)

namespace Program

theorem Alike.refl (program : Program Call Reply α) : program.Alike Eq program := by
  induction program with
  | done result => exact .done rfl
  | call request resume ih => exact .call ih

/-- Sequences are alike when their parts are. -/
theorem Alike.bind {α' β' : Type} {related : α → β → Prop} {after : α' → β' → Prop}
    {first : Program Call Reply α} {second : Program Call Reply β}
    {next : α → Program Call Reply α'} {next' : β → Program Call Reply β'}
    (alike : first.Alike related second)
    (continues : ∀ one other, related one other → (next one).Alike after (next' other)) :
    (first >>= next).Alike after (second >>= next') := by
  induction alike with
  | done same => exact continues _ _ same
  | call _ ih => exact .call ih

/-- Runs of two such programs, with the same inputs, end in the same state after the same calls. -/
theorem Alike.run {related : α → β → Prop} {first : Program Call Reply α}
    {second : Program Call Reply β} (alike : first.Alike related second)
    (meaning : Meaning Call Reply ι σ) (inputs : Nat → ι) (state : σ) :
    related (Programs.run meaning inputs first state).result
        (Programs.run meaning inputs second state).result ∧
      (Programs.run meaning inputs first state).state =
        (Programs.run meaning inputs second state).state ∧
      (Programs.run meaning inputs first state).calls =
        (Programs.run meaning inputs second state).calls := by
  induction alike generalizing inputs state with
  | done same => exact ⟨same, rfl, rfl⟩
  | @call request one other _ ih =>
    obtain ⟨results, states, calls⟩ := ih (meaning request (inputs 0) state).1
      (fun index => inputs (index + 1)) (meaning request (inputs 0) state).2
    exact ⟨results, states, congrArg (request :: ·) calls⟩

end Program

end ShellHub.Programs
