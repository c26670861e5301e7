import ShellHub.Sequences

/-!
# A dial to a device and its watchdog

A dial opens a stream on the device's tunnel and runs the target's bootstrap on it under a deadline.
Opening takes no context, so it runs in a goroutine of its own, and the caller may give up before it
ends; a stream that arrives after that is closed by another goroutine. The bootstrap does not watch
the context either. A function registered with `context.AfterFunc` closes the stream when the
context is done, and the function that stops it tells whether it came in time. It does so once, so
the verdict is kept.

The model takes one call on the stream, the context or the watchdog at a time, and everything that
can happen in between as an event. A context that is done starts the watchdog some time later, and
the watchdog can be stopped until then.
-/

namespace ShellHub.Handshakes

open Sequences

/-- The calls on the stream, in their order. -/
inductive Call where
  | setDeadline
  | prepare
  | clearDeadline
  | close
  deriving DecidableEq, Repr

inductive DialError where
  | invalidArgument
  | noConnection
  /-- `session.Open` -/
  | open_
  /-- `ctx.Err()` -/
  | context
  /-- `SetDeadline` -/
  | deadline
  | prepare
  deriving DecidableEq, Repr

/-- The goroutine that opens the stream. -/
inductive Opening where
  | idle
  | running
  | refused
  | opened
  deriving DecidableEq, Repr

/-- The function registered with `context.AfterFunc`. -/
inductive Watchdog where
  | absent
  | armed
  | started
  | finished
  | stopped
  deriving DecidableEq, Repr

/-- Where the caller is in `DialTo`. -/
inductive Phase where
  | lookup (tenant uid : String)
  /-- the select of `openStream` -/
  | waiting
  | dialled
  /-- the deadline is set, and the watchdog is to be registered -/
  | arming
  | preparing
  /-- `prepare` has failed, and the stream is to be closed -/
  | refused
  /-- the stream is closed, and the verdict is to be asked -/
  | excusing
  /-- `prepare` has succeeded, and the verdict is to be asked -/
  | prepared
  /-- the watchdog was started, and the stream is to be closed -/
  | abandoned
  | clearing
  /-- a deadline could not be set; with a watchdog the deferred call follows -/
  | closing (guarded : Bool)
  /-- the deferred call -/
  | leaving (conn : Bool) (error : Option DialError)
  | returned (conn : Bool) (error : Option DialError)
  deriving DecidableEq, Repr

structure Dial where
  phase : Phase
  cancelled : Bool
  opening : Opening
  /-- a goroutine waits for a stream that nobody wants any more -/
  late : Bool
  calls : List Call
  watchdog : Watchdog
  /-- the value kept by `sync.OnceValue` -/
  verdict : Option Bool
  deriving DecidableEq, Repr

/-- A step of the caller with its outcome, or something that happens meanwhile. -/
inductive Event where
  | proceed (ok : Bool)
  /-- the caller's select sees the context done -/
  | giveUp
  | openEnds (ok : Bool)
  /-- the caller's context is cancelled or passes its deadline -/
  | cancel
  /-- the context starts the watchdog -/
  | fire
  | watchdogCloses
  | lateCloses
  deriving DecidableEq, Repr

namespace Dial

def new (tenant uid : String) : Dial := ⟨.lookup tenant uid, false, .idle, false, [], .absent, none⟩

def call (dial : Dial) (call : Call) : Dial := { dial with calls := dial.calls ++ [call] }

/-- `ctx.Err()`. -/
def contextError (dial : Dial) : Option DialError :=
  if dial.cancelled then some .context else none

/-- The function `context.AfterFunc` returns. It is true if the call stopped the watchdog from being
run, and false if that was started or stopped before. -/
def stop (dial : Dial) : Dial × Bool :=
  if dial.watchdog = .armed then ({ dial with watchdog := .stopped }, true) else (dial, false)

/-- `watchdogStopped`. -/
def watchdogStopped (dial : Dial) : Dial × Bool :=
  match dial.verdict with
  | some verdict => (dial, verdict)
  | none =>
    let (stopped, verdict) := dial.stop
    ({ stopped with verdict := some verdict }, verdict)

/-- A step of `DialTo`, `openStream` and `handshake`. -/
def proceed (dial : Dial) (ok : Bool) : Dial :=
  match dial.phase with
  | .lookup tenant uid =>
    if tenant = "" ∨ uid = "" then { dial with phase := .returned false (some .invalidArgument) }
    else if ok then { dial with phase := .waiting, opening := .running }
    else { dial with phase := .returned false (some .noConnection) }
  | .waiting =>
    match dial.opening with
    | .opened => { dial with phase := .dialled }
    | .refused => { dial with phase := .returned false (some .open_) }
    | .idle | .running => dial
  | .dialled =>
    { dial.call .setDeadline with phase := if ok then .arming else .closing false }
  | .arming => { dial with phase := .preparing, watchdog := .armed }
  | .preparing => { dial.call .prepare with phase := if ok then .prepared else .refused }
  | .refused => { dial.call .close with phase := .excusing }
  | .excusing =>
    let (asked, stopped) := dial.watchdogStopped
    let error := if stopped then some .prepare else asked.contextError
    { asked with phase := .leaving false error }
  | .prepared =>
    let (asked, stopped) := dial.watchdogStopped
    { asked with phase := if stopped then .clearing else .abandoned }
  | .abandoned => { dial.call .close with phase := .leaving false dial.contextError }
  | .clearing =>
    { dial.call .clearDeadline with phase := if ok then .leaving true none else .closing true }
  | .closing guarded =>
    { dial.call .close with
      phase := if guarded then .leaving false (some .deadline)
        else .returned false (some .deadline) }
  | .leaving conn error => { dial.watchdogStopped.1 with phase := .returned conn error }
  | .returned _ _ => dial

def next (dial : Dial) : Event → Dial
  | .proceed ok => dial.proceed ok
  | .giveUp =>
    if dial.phase = .waiting ∧ dial.cancelled = true then
      { dial with late := true, phase := .returned false dial.contextError }
    else dial
  | .openEnds ok =>
    if dial.opening = .running then { dial with opening := if ok then .opened else .refused }
    else dial
  | .cancel => { dial with cancelled := true }
  | .fire =>
    if dial.watchdog = .armed ∧ dial.cancelled = true then { dial with watchdog := .started }
    else dial
  | .watchdogCloses =>
    if dial.watchdog = .started then { dial.call .close with watchdog := .finished } else dial
  | .lateCloses =>
    if dial.late = true then
      match dial.opening with
      | .opened => { dial.call .close with late := false }
      | .refused => { dial with late := false }
      | .idle | .running => dial
    else dial

/-- The watchdog has not been asked yet. While it has not been started the calls are the caller's
own. -/
structure Guarded (dial : Dial) (calls : List Call) : Prop where
  unasked : dial.verdict = none
  watched : dial.watchdog = .armed ∧ dial.calls = calls ∨
    (dial.watchdog = .started ∨ dial.watchdog = .finished) ∧ dial.cancelled = true

/-- The watchdog is out of the way, and the calls are the caller's own. -/
structure Unguarded (dial : Dial) (calls : List Call) : Prop where
  stopped : dial.watchdog = .stopped
  verdict : dial.verdict = some true
  own : dial.calls = calls

/-- The stream is closed, or a goroutine will close it as soon as it is opened. -/
structure Released (dial : Dial) : Prop where
  opened : dial.opening = .opened → .close ∈ dial.calls ∨ dial.late = true
  running : dial.opening = .running → dial.late = true

/-- What is known in each phase. -/
def Known (dial : Dial) : Phase → Prop
  | .lookup _ _ =>
    dial.opening = .idle ∧ dial.watchdog = .absent ∧ dial.verdict = none ∧ dial.calls = []
  | .waiting => dial.watchdog = .absent ∧ dial.verdict = none ∧ dial.calls = []
  | .dialled =>
    dial.opening = .opened ∧ dial.watchdog = .absent ∧ dial.verdict = none ∧ dial.calls = []
  | .arming =>
    dial.opening = .opened ∧ dial.watchdog = .absent ∧ dial.verdict = none ∧
      dial.calls = [.setDeadline]
  | .preparing => dial.opening = .opened ∧ dial.Guarded [.setDeadline]
  | .refused => dial.opening = .opened ∧ dial.Guarded [.setDeadline, .prepare]
  | .excusing =>
    dial.opening = .opened ∧ .close ∈ dial.calls ∧
      dial.Guarded [.setDeadline, .prepare, .close]
  | .prepared => dial.opening = .opened ∧ dial.Guarded [.setDeadline, .prepare]
  | .abandoned => dial.opening = .opened ∧ dial.verdict ≠ none ∧ dial.cancelled = true
  | .clearing => dial.opening = .opened ∧ dial.Unguarded [.setDeadline, .prepare]
  | .closing guarded =>
    dial.opening = .opened ∧ (guarded = true → dial.verdict ≠ none) ∧
      (guarded = false → dial.watchdog = .absent ∧ dial.verdict = none)
  | .leaving conn error =>
    dial.opening = .opened ∧ dial.verdict ≠ none ∧
      if conn then error = none ∧ dial.Unguarded [.setDeadline, .prepare, .clearDeadline]
      else error ≠ none ∧ .close ∈ dial.calls
  | .returned conn error =>
    if conn then
      error = none ∧ dial.opening = .opened ∧
        dial.Unguarded [.setDeadline, .prepare, .clearDeadline]
    else error ≠ none ∧ dial.Released

structure Inv (dial : Dial) : Prop where
  known : dial.Known dial.phase
  early : dial.late = false ∨ ∃ error, dial.phase = .returned false error
  fired : dial.watchdog = .started → dial.cancelled = true

/-- The context and the watchdog do something. -/
structure Disturbed (dial later : Dial) : Prop where
  opening : later.opening = dial.opening
  verdict : later.verdict = dial.verdict
  late : later.late = dial.late
  cancelled : dial.cancelled = true → later.cancelled = true
  calls : ∀ call ∈ dial.calls, call ∈ later.calls
  watchdog : later.watchdog = dial.watchdog ∧ later.calls = dial.calls ∨
    (dial.watchdog = .armed ∨ dial.watchdog = .started) ∧
      (later.watchdog = .started ∨ later.watchdog = .finished) ∧ later.cancelled = true

section Disturbances

variable {dial later : Dial}

/-- A watchdog that was not registered or is stopped does nothing. -/
theorem Disturbed.still (disturbed : dial.Disturbed later)
    (still : dial.watchdog = .absent ∨ dial.watchdog = .stopped) :
    later.watchdog = dial.watchdog ∧ later.calls = dial.calls := by
  rcases disturbed.watchdog with same | ⟨active, -⟩
  · exact same
  · rcases still with idle | idle <;> rw [idle] at active <;> rcases active with ⟨⟨⟩⟩ | ⟨⟨⟩⟩

theorem Guarded.disturbed {calls : List Call} (guarded : dial.Guarded calls)
    (disturbed : dial.Disturbed later) : later.Guarded calls := by
  refine ⟨disturbed.verdict.trans guarded.unasked, ?_⟩
  rcases disturbed.watchdog with ⟨watchdog, same⟩ | ⟨-, started⟩
  · rw [watchdog, same]
    exact guarded.watched.imp id fun ⟨started, cancelled⟩ =>
      ⟨started, disturbed.cancelled cancelled⟩
  · exact .inr started

theorem Unguarded.disturbed {calls : List Call} (unguarded : dial.Unguarded calls)
    (disturbed : dial.Disturbed later) : later.Unguarded calls := by
  obtain ⟨watchdog, same⟩ := disturbed.still (.inr unguarded.stopped)
  exact ⟨watchdog.trans unguarded.stopped, disturbed.verdict.trans unguarded.verdict,
    same.trans unguarded.own⟩

theorem Released.disturbed (released : dial.Released) (disturbed : dial.Disturbed later) :
    later.Released := by
  refine ⟨fun opened => ?_, fun running => ?_⟩
  · rw [disturbed.late]
    exact (released.opened (disturbed.opening ▸ opened)).imp (disturbed.calls _) id
  · rw [disturbed.late]
    exact released.running (disturbed.opening ▸ running)

theorem Known.disturbed {phase : Phase} (known : dial.Known phase)
    (disturbed : dial.Disturbed later) : later.Known phase := by
  -- what is known without a watchdog is about fields that stay
  have absent : dial.watchdog = .absent ∧ dial.verdict = none →
      later.watchdog = .absent ∧ later.verdict = none ∧ later.calls = dial.calls := by
    rintro ⟨watchdog, verdict⟩
    obtain ⟨same, calls⟩ := disturbed.still (.inl watchdog)
    exact ⟨same.trans watchdog, disturbed.verdict.trans verdict, calls⟩
  cases phase with
  | lookup | dialled | arming =>
    obtain ⟨opening, watchdog, verdict, calls⟩ := known
    obtain ⟨idle, unasked, same⟩ := absent ⟨watchdog, verdict⟩
    exact ⟨disturbed.opening.trans opening, idle, unasked, same.trans calls⟩
  | waiting =>
    obtain ⟨watchdog, verdict, calls⟩ := known
    obtain ⟨idle, unasked, same⟩ := absent ⟨watchdog, verdict⟩
    exact ⟨idle, unasked, same.trans calls⟩
  | preparing | refused | prepared =>
    exact ⟨disturbed.opening.trans known.1, known.2.disturbed disturbed⟩
  | excusing =>
    exact ⟨disturbed.opening.trans known.1, disturbed.calls _ known.2.1,
      known.2.2.disturbed disturbed⟩
  | abandoned =>
    exact ⟨disturbed.opening.trans known.1, disturbed.verdict ▸ known.2.1,
      disturbed.cancelled known.2.2⟩
  | clearing => exact ⟨disturbed.opening.trans known.1, known.2.disturbed disturbed⟩
  | closing guarded =>
    refine ⟨disturbed.opening.trans known.1, fun isGuarded => ?_, fun unguarded => ?_⟩
    · exact disturbed.verdict ▸ known.2.1 isGuarded
    · obtain ⟨idle, unasked, -⟩ := absent (known.2.2 unguarded)
      exact ⟨idle, unasked⟩
  | leaving conn error =>
    refine ⟨disturbed.opening.trans known.1, disturbed.verdict ▸ known.2.1, ?_⟩
    cases conn with
    | true => exact ⟨known.2.2.1, known.2.2.2.disturbed disturbed⟩
    | false => exact ⟨known.2.2.1, disturbed.calls _ known.2.2.2⟩
  | returned conn error =>
    cases conn with
    | true => exact ⟨known.1, disturbed.opening.trans known.2.1, known.2.2.disturbed disturbed⟩
    | false => exact ⟨known.1, known.2.disturbed disturbed⟩

end Disturbances

/-- What the verdict says when it is asked for the first time: the watchdog is stopped and the calls
are the caller's own, or the context is done. -/
theorem Guarded.asked {dial : Dial} {calls : List Call} (guarded : dial.Guarded calls) :
    dial.watchdogStopped = ({ dial with watchdog := .stopped, verdict := some true }, true) ∧
        dial.calls = calls ∨
      dial.watchdogStopped = ({ dial with verdict := some false }, false) ∧
        dial.cancelled = true := by
  rcases guarded.watched with ⟨armed, own⟩ | ⟨started, cancelled⟩
  · refine .inl ⟨?_, own⟩
    simp [watchdogStopped, guarded.unasked, stop, armed]
  · refine .inr ⟨?_, cancelled⟩
    have unarmed : dial.watchdog ≠ .armed := by
      rcases started with started | started <;> rw [started] <;> nofun
    simp [watchdogStopped, guarded.unasked, stop, unarmed]

theorem watchdogStopped_asked {dial : Dial} (asked : dial.verdict ≠ none) :
    dial.watchdogStopped.1 = dial := by
  obtain ⟨verdict, isVerdict⟩ := Option.ne_none_iff_exists'.mp asked
  simp [watchdogStopped, isVerdict]

theorem contextError_cancelled {dial : Dial} (cancelled : dial.cancelled = true) :
    dial.contextError ≠ none := by
  simp [contextError, cancelled]

/-- A call of the caller keeps the guard. -/
theorem Guarded.call {dial : Dial} {calls : List Call} (guarded : dial.Guarded calls)
    (made : Call) : (dial.call made).Guarded (calls ++ [made]) := by
  refine ⟨guarded.unasked, guarded.watched.imp (fun ⟨armed, own⟩ => ⟨armed, ?_⟩) id⟩
  exact congrArg (· ++ [made]) own

theorem mem_call (dial : Dial) (made : Call) : made ∈ (dial.call made).calls :=
  List.mem_append_right _ List.mem_cons_self

/-- A step of the caller starts neither the watchdog nor a goroutine that waits for the stream. -/
theorem proceed_keeps (dial : Dial) (ok : Bool) :
    (dial.proceed ok).late = dial.late ∧ (dial.proceed ok).cancelled = dial.cancelled ∧
      ((dial.proceed ok).watchdog = .started → dial.watchdog = .started) := by
  have asked : dial.watchdogStopped.1.late = dial.late ∧
      dial.watchdogStopped.1.cancelled = dial.cancelled ∧
      (dial.watchdogStopped.1.watchdog = .started → dial.watchdog = .started) := by
    unfold watchdogStopped
    split
    · exact ⟨rfl, rfl, id⟩
    · by_cases armed : dial.watchdog = .armed <;> simp [stop, armed]
  unfold proceed
  split
  · split
    · exact ⟨rfl, rfl, id⟩
    · split <;> exact ⟨rfl, rfl, id⟩
  · split <;> exact ⟨rfl, rfl, id⟩
  all_goals first
    | exact ⟨rfl, rfl, id⟩
    | exact ⟨rfl, rfl, nofun⟩
    | exact asked

/-- The step of each phase leads to what is known in the next. -/
theorem proceed_known {dial : Dial} (known : dial.Known dial.phase) (ok : Bool) :
    (dial.proceed ok).Known (dial.proceed ok).phase := by
  cases phase : dial.phase <;> rw [phase] at known <;> simp only [Dial.proceed, phase]
  case lookup tenant uid =>
    obtain ⟨opening, watchdog, verdict, calls⟩ := known
    have unopened : dial.Released := ⟨by rw [opening]; nofun, by rw [opening]; nofun⟩
    split
    · exact ⟨nofun, unopened.1, unopened.2⟩
    split
    · exact ⟨watchdog, verdict, calls⟩
    · exact ⟨nofun, unopened.1, unopened.2⟩
  case waiting =>
    split
    · rename_i opened
      exact ⟨opened, known⟩
    · rename_i refused
      have released : dial.Released := ⟨by rw [refused]; nofun, by rw [refused]; nofun⟩
      exact ⟨nofun, released.1, released.2⟩
    · simpa only [phase] using known
    · simpa only [phase] using known
  case dialled =>
    obtain ⟨opening, watchdog, verdict, calls⟩ := known
    cases ok with
    | true => exact ⟨opening, watchdog, verdict, congrArg (· ++ [Call.setDeadline]) calls⟩
    | false => exact ⟨opening, nofun, fun _ => ⟨watchdog, verdict⟩⟩
  case arming =>
    obtain ⟨opening, watchdog, verdict, calls⟩ := known
    exact ⟨opening, verdict, .inl ⟨rfl, calls⟩⟩
  case preparing =>
    cases ok with
    | true | false => exact ⟨known.1, (known.2.call .prepare).1, (known.2.call .prepare).2⟩
  case refused =>
    exact ⟨known.1, mem_call dial .close, (known.2.call .close).1, (known.2.call .close).2⟩
  case excusing =>
    obtain ⟨opening, closed, guarded⟩ := known
    rcases guarded.asked with ⟨asked, -⟩ | ⟨asked, cancelled⟩
    · rw [asked]
      exact ⟨opening, nofun, nofun, closed⟩
    · rw [asked]
      exact ⟨opening, nofun, contextError_cancelled cancelled, closed⟩
  case prepared =>
    obtain ⟨opening, guarded⟩ := known
    rcases guarded.asked with ⟨asked, own⟩ | ⟨asked, cancelled⟩
    · rw [asked]
      exact ⟨opening, rfl, rfl, own⟩
    · rw [asked]
      exact ⟨opening, nofun, cancelled⟩
  case abandoned =>
    obtain ⟨opening, asked, cancelled⟩ := known
    exact ⟨opening, asked, contextError_cancelled cancelled, mem_call dial .close⟩
  case clearing =>
    obtain ⟨opening, stopped, verdict, own⟩ := known
    have asked : dial.verdict ≠ none := by rw [verdict]; nofun
    cases ok with
    | true =>
      exact ⟨opening, asked, rfl, stopped, verdict, congrArg (· ++ [Call.clearDeadline]) own⟩
    | false => exact ⟨opening, fun _ => asked, nofun⟩
  case closing guarded =>
    obtain ⟨opening, asked, -⟩ := known
    cases guarded with
    | true => exact ⟨opening, asked rfl, nofun, mem_call dial .close⟩
    | false => exact ⟨nofun, fun _ => .inl (mem_call dial .close),
        fun running => nomatch opening.symm.trans running⟩
  case leaving conn error =>
    obtain ⟨opening, asked, outcome⟩ := known
    rw [watchdogStopped_asked asked]
    cases conn with
    | true => exact ⟨outcome.1, opening, outcome.2.1, outcome.2.2, outcome.2.3⟩
    | false => exact ⟨outcome.1, fun _ => .inl outcome.2,
        fun running => nomatch opening.symm.trans running⟩
  case returned conn error => simpa only [phase] using known

theorem Inv.proceed {dial : Dial} (inv : dial.Inv) (ok : Bool) : (dial.proceed ok).Inv := by
  obtain ⟨late, cancelled, started⟩ := proceed_keeps dial ok
  refine ⟨proceed_known inv.known ok, ?_, fun now => cancelled.trans (inv.fired (started now))⟩
  rw [late]
  refine inv.early.imp id fun ⟨error, returned⟩ => ⟨error, ?_⟩
  simp only [Dial.proceed, returned]

/-- What happens around the caller's steps. -/
theorem Inv.disturbed {dial later : Dial} (inv : dial.Inv) (disturbed : dial.Disturbed later)
    (phase : later.phase = dial.phase) : later.Inv := by
  refine ⟨?_, ?_, fun started => ?_⟩
  · rw [phase]
    exact inv.known.disturbed disturbed
  · rw [phase, disturbed.late]
    exact inv.early
  · rcases disturbed.watchdog with ⟨same, -⟩ | ⟨-, -, cancelled⟩
    · exact disturbed.cancelled (inv.fired (same ▸ started))
    · exact cancelled

/-- The goroutine that opens the stream ends while the caller waits for it or has returned. -/
theorem Inv.openEnds {dial : Dial} (inv : dial.Inv) (running : dial.opening = .running)
    (ok : Bool) : { dial with opening := if ok then .opened else .refused }.Inv := by
  obtain ⟨known, early, fired⟩ := inv
  refine ⟨?_, early, fired⟩
  cases phase : dial.phase <;> rw [phase] at known
  case waiting => exact known
  case returned conn error =>
    cases conn with
    | true => exact nomatch running.symm.trans known.2.1
    | false =>
      have late := known.2.running running
      exact ⟨known.1, fun _ => .inr late, fun _ => late⟩
  all_goals exact nomatch running.symm.trans known.1

theorem Inv.next {dial : Dial} (inv : dial.Inv) (event : Event) : (dial.next event).Inv := by
  cases event with
  | proceed ok => exact inv.proceed ok
  | giveUp =>
    simp only [Dial.next]
    split
    · rename_i waits
      exact ⟨⟨contextError_cancelled waits.2, fun _ => .inr rfl, fun _ => rfl⟩, .inr ⟨_, rfl⟩,
        inv.fired⟩
    · exact inv
  | openEnds ok =>
    simp only [Dial.next]
    split
    · rename_i running
      exact inv.openEnds running ok
    · exact inv
  | cancel => exact inv.disturbed ⟨rfl, rfl, rfl, fun _ => rfl, fun _ => id, .inl ⟨rfl, rfl⟩⟩ rfl
  | fire =>
    simp only [Dial.next]
    split
    · rename_i fires
      exact inv.disturbed
        ⟨rfl, rfl, rfl, id, fun _ => id, .inr ⟨.inl fires.1, .inl rfl, fires.2⟩⟩ rfl
    · exact inv
  | watchdogCloses =>
    simp only [Dial.next]
    split
    · rename_i started
      exact inv.disturbed ⟨rfl, rfl, rfl, id, fun _ => List.mem_append_left _,
        .inr ⟨.inr started, .inr rfl, inv.fired started⟩⟩ rfl
    · exact inv
  | lateCloses =>
    simp only [Dial.next]
    split
    · rename_i late
      rcases inv.early with prompt | ⟨error, returned⟩
      · exact nomatch prompt.symm.trans late
      have failed : error ≠ none := by
        have known := inv.known
        rw [returned] at known
        exact known.1
      split
      · rename_i opened
        refine ⟨?_, .inl rfl, inv.fired⟩
        change Known _ dial.phase
        rw [returned]
        exact ⟨failed, fun _ => .inl (mem_call dial .close),
          fun running => nomatch opened.symm.trans running⟩
      · rename_i refused
        refine ⟨?_, .inl rfl, inv.fired⟩
        rw [returned]
        refine ⟨failed, ?_, ?_⟩
        · change dial.opening = .opened → _
          rw [refused]
          nofun
        · change dial.opening = .running → _
          rw [refused]
          nofun
      · exact inv
      · exact inv
    · exact inv

/-- The goroutine that waits for the stream closes it once it is opened. -/
theorem lateCloses_opened {dial : Dial} (late : dial.late = true)
    (opened : dial.opening = .opened) : .close ∈ (dial.next .lateCloses).calls := by
  simp only [Dial.next, if_pos late, opened]
  exact mem_call dial .close

theorem lateCloses_running {dial : Dial} (late : dial.late = true)
    (running : dial.opening = .running) :
    .close ∈ ((dial.next (.openEnds true)).next .lateCloses).calls := by
  simp only [Dial.next, if_pos running, if_true, late]
  exact mem_call dial .close

end Dial

/-- A dial with a target either fails, with an error, and the stream it opened is closed or a
goroutine closes it with its next step after it is opened, or hands the stream over. In the second
case the only calls on the stream, also at any later time, are the three of the handshake in their
order: no cancellation closes it. Each step keeps what its phase says of the stream and of the
goroutine that still has to close it. -/
theorem dial_fails_closed_or_usable (tenant uid : String) (events : List Event) :
    ∀ dial ∈ visited Dial.next (.new tenant uid) events, ∀ conn error,
      dial.phase = .returned conn error →
        conn = false ∧ error ≠ none ∧
            (dial.opening = .opened →
              .close ∈ dial.calls ∨ .close ∈ (dial.next .lateCloses).calls) ∧
            (dial.opening = .running →
              .close ∈ ((dial.next (.openEnds true)).next .lateCloses).calls) ∨
          conn = true ∧ error = none ∧ dial.opening = .opened ∧
            dial.calls = [.setDeadline, .prepare, .clearDeadline] := by
  intro dial reached conn error returned
  have first : (Dial.new tenant uid).Inv := ⟨⟨rfl, rfl, rfl, rfl⟩, .inl rfl, nofun⟩
  have known := (visited_always Dial.Inv (fun _ event inv => inv.next event) first events dial
    reached).known
  rw [returned] at known
  cases conn with
  | false =>
    refine .inl ⟨rfl, known.1, fun opened => ?_, fun running => ?_⟩
    · exact (known.2.opened opened).imp id fun late => Dial.lateCloses_opened late opened
    · exact Dial.lateCloses_running (known.2.running running) running
  | true => exact .inr ⟨rfl, known.1, known.2.1, known.2.2.own⟩

/-- A dial that succeeds, with the context cancelled after it. -/
def outlivingCaller : List Event :=
  [.proceed true, .openEnds true, .proceed true, .proceed true, .proceed true, .proceed true,
    .proceed true, .proceed true, .proceed true, .cancel, .fire, .watchdogCloses]

theorem dial_usable_after_cancellation :
    (∃ dial ∈ visited Dial.next (.new "tenant" "device") outlivingCaller,
      dial.phase = .returned true none ∧ dial.cancelled = true) ∧
    ∀ dial ∈ visited Dial.next (.new "tenant" "device") outlivingCaller,
      dial.phase = .returned true none →
        dial.calls = [.setDeadline, .prepare, .clearDeadline] := by
  refine ⟨by decide +kernel, fun dial reached returned => ?_⟩
  rcases dial_fails_closed_or_usable _ _ _ dial reached _ _ returned with
    ⟨failed, -⟩ | ⟨-, -, -, calls⟩
  · cases failed
  · exact calls

/-- The stream arrives after the caller has given up, and is closed. -/
example : ∃ dial ∈ visited Dial.next (.new "tenant" "device")
      [.proceed true, .cancel, .giveUp, .openEnds true, .lateCloses],
    dial.phase = .returned false (some .context) ∧ dial.calls = [.close] := by
  decide +kernel

end ShellHub.Handshakes
