import Mathlib.Data.List.Basic
import ShellHub.Sequences

/-!
# The events of a recorded session

`Events` records a session. Goroutines write events to a bounded queue under a read lock, and the
first of them starts a writer that hands the events to the store in batches. `Close` sets a flag and
closes the queue under the write lock, and waits for the writer.

A call is a thread whose steps are those at which another goroutine may come in between. The lock is
what the threads say: it is read-locked by some of them or locked by one. No wait times out here and
the store does not fail. The list `entered` is not in the source: it is the events in the order in
which they entered the queue.
-/

namespace ShellHub.EventQueues

open Sequences

variable {α : Type}

/-- `eventQueueSize`. -/
def eventQueueSize : Nat := 4096

/-- `eventBatchSize`. -/
def eventBatchSize : Nat := 256

/-- Where a call of `Write` is. -/
inductive Writing where
  | waiting
  /-- it holds the read lock -/
  | locked
  /-- it found the flag unset, started the writer and waits for room in the queue -/
  | sending
  /-- its event is in the queue, and it still holds the read lock -/
  | sent
  | done
  /-- it found the flag set and returned -/
  | refused
  deriving DecidableEq, Repr

/-- Where a call of `Close` is. -/
inductive Closing where
  | waiting
  /-- it holds the lock -/
  | locked
  /-- it has set the flag -/
  | flagged
  /-- it has closed the queue -/
  | shut
  /-- it has released the lock and waits for the writer -/
  | draining
  /-- it has returned, and set the flag itself or found it set -/
  | returned (own : Bool)
  deriving DecidableEq, Repr

/-- A call of `Write` or `Close`. The mark of a write says that the flag was set when it started. -/
inductive Thread (α : Type) where
  | write (event : α) (late : Bool) (stage : Writing)
  | close (stage : Closing)
  deriving DecidableEq, Repr

/-- The thread holds the read lock. -/
def Thread.reads : Thread α → Bool
  | .write _ _ .locked | .write _ _ .sending | .write _ _ .sent => true
  | _ => false

/-- The thread holds the lock. -/
def Thread.locks : Thread α → Bool
  | .close .locked | .close .flagged | .close .shut => true
  | _ => false

/-- The writer: not started, running with a batch, or returned. -/
inductive Writer (α : Type) where
  | idle
  | running (batch : List α)
  | exited
  deriving DecidableEq, Repr

/-- The events that the writer has read and not handed over. -/
def Writer.batch : Writer α → List α
  | .running batch => batch
  | _ => []

/-- `start.Do`. -/
def Writer.start : Writer α → Writer α
  | .idle => .running []
  | writer => writer

/-- The recorder of a session: `Events`, its threads, the batches the store was given, and whether a
send or a second close has met the closed queue. -/
structure Recorder (α : Type) where
  queue : List α
  queueClosed : Bool
  closed : Bool
  writer : Writer α
  stored : List (List α)
  entered : List α
  threads : List (Thread α)
  crashed : Bool
  deriving DecidableEq, Repr

/-- `NewEvents`. -/
def Recorder.new : Recorder α := ⟨[], false, false, .idle, [], [], [], false⟩

/-- One step of a thread, unless it has to wait or has returned. -/
def Thread.step (recorder : Recorder α) : Thread α → Option (Recorder α × Thread α)
  | .write event late .waiting =>
    if recorder.threads.any Thread.locks then none
    else some (recorder, .write event late .locked)
  | .write event late .locked =>
    if recorder.closed then some (recorder, .write event late .refused)
    else some ({ recorder with writer := recorder.writer.start }, .write event late .sending)
  | .write event late .sending =>
    if recorder.queueClosed then
      some ({ recorder with crashed := true }, .write event late .sending)
    else if recorder.queue.length < eventQueueSize then
      some ({ recorder with
        queue := recorder.queue ++ [event], entered := recorder.entered ++ [event] },
        .write event late .sent)
    else none
  | .write event late .sent => some (recorder, .write event late .done)
  | .close .waiting =>
    if recorder.threads.any (fun other => other.locks || other.reads) then none
    else some (recorder, .close .locked)
  | .close .locked =>
    if recorder.closed then some (recorder, .close (.returned false))
    else some ({ recorder with closed := true }, .close .flagged)
  | .close .flagged =>
    if recorder.queueClosed then some ({ recorder with crashed := true }, .close .flagged)
    else some ({ recorder with queueClosed := true }, .close .shut)
  | .close .shut => some (recorder, .close .draining)
  | .close .draining =>
    match recorder.writer with
    | .running _ => none
    | _ => some (recorder, .close (.returned true))
  | _ => none

/-- A call starts, a thread takes a step, or the writer reads from the queue or sees a tick. -/
inductive Event (α : Type) where
  | write (event : α)
  | close
  | move (index : Nat)
  | receive
  | tick
  deriving DecidableEq, Repr

namespace Recorder

/-- `flush`: a batch that is not empty is handed to the store. -/
def flush (recorder : Recorder α) (batch : List α) (writer : Writer α) : Recorder α :=
  { recorder with
    stored := if batch = [] then recorder.stored else recorder.stored ++ [batch], writer }

/-- The writer takes the next event, or ends when the queue is closed and empty. -/
def receive (recorder : Recorder α) (batch : List α) : Recorder α :=
  match recorder.queue with
  | event :: rest =>
    if (batch ++ [event]).length ≥ eventBatchSize then
      { recorder with queue := rest }.flush (batch ++ [event]) (.running [])
    else { recorder with queue := rest, writer := .running (batch ++ [event]) }
  | [] => if recorder.queueClosed then recorder.flush batch .exited else recorder

/-- A step of the recorder. -/
def next (recorder : Recorder α) : Event α → Recorder α
  | .write event =>
    { recorder with threads := recorder.threads ++ [.write event recorder.closed .waiting] }
  | .close => { recorder with threads := recorder.threads ++ [.close .waiting] }
  | .move index =>
    match recorder.threads[index]? with
    | none => recorder
    | some thread =>
      match thread.step recorder with
      | none => recorder
      | some (after, moved) => { after with threads := recorder.threads.set index moved }
  | .receive =>
    match recorder.writer with
    | .running batch => recorder.receive batch
    | _ => recorder
  | .tick =>
    match recorder.writer with
    | .running batch => recorder.flush batch (.running [])
    | _ => recorder

end Recorder

/-! ## The invariant -/

/-- What holds for a thread. A write that waits for room has found the flag unset, and nobody can
set it while the write holds the read lock. -/
def Thread.Ok (closed shut : Bool) (writer : Writer α) : Thread α → Prop
  | .write _ late .sending => closed = false ∧ late = false ∧ writer ≠ .idle
  | .write _ late .sent | .write _ late .done => late = false
  | .write _ late _ => late = true → closed = true
  | .close .flagged => closed = true ∧ shut = false
  | .close .shut | .close .draining => shut = true
  | .close (.returned true) => shut = true ∧ ∀ batch, writer ≠ .running batch
  | .close _ => True

/-- One thread has the lock, and then no other one has it or the read lock. -/
def Exclusive (threads : List (Thread α)) : Prop :=
  ∀ (first second : Nat) (one other : Thread α), threads[first]? = some one →
    threads[second]? = some other → one.locks = true → (other.locks || other.reads) = true →
      first = second

/-- The invariant. The events handed over, the batch and the queue are, one after the other, the
events that entered the queue. -/
structure Recorder.Inv (recorder : Recorder α) : Prop where
  content : recorder.stored.flatten ++ recorder.writer.batch ++ recorder.queue = recorder.entered
  sizes : ∀ batch ∈ recorder.stored, batch ≠ [] ∧ batch.length ≤ eventBatchSize
  small : recorder.writer.batch.length < eventBatchSize
  calm : recorder.crashed = false
  idle : recorder.writer = .idle → recorder.entered = []
  exited : recorder.writer = .exited → recorder.queue = [] ∧ recorder.closed = true
  shut : recorder.queueClosed = true → recorder.closed = true
  threads : ∀ thread ∈ recorder.threads,
    thread.Ok recorder.closed recorder.queueClosed recorder.writer
  exclusive : Exclusive recorder.threads

section Steps

variable {recorder after : Recorder α} {thread moved : Thread α} {threads : List (Thread α)}
  {index : Nat}

/-- A thread that takes the lock finds nobody with it, and one that takes the read lock finds nobody
with the lock. -/
theorem Exclusive.set (exclusive : Exclusive threads) (present : threads[index]? = some thread)
    (locks : moved.locks = true → thread.locks = true ∨
      ∀ other ∈ threads, (other.locks || other.reads) = false)
    (reads : moved.reads = true → thread.reads = true ∨ ∀ other ∈ threads, other.locks = false) :
    Exclusive (threads.set index moved) := by
  have here : (threads.set index moved)[index]? = some moved := by
    rw [List.getElem?_set_self', present]
    rfl
  intro first second one other firstFound secondFound firstLocks secondHolds
  by_cases firstHere : first = index
  · by_cases secondHere : second = index
    · rw [firstHere, secondHere]
    · rw [List.getElem?_set_ne (Ne.symm secondHere)] at secondFound
      subst firstHere
      cases Option.some.inj (here.symm.trans firstFound)
      rcases locks firstLocks with before | nobody
      · exact exclusive first second thread other present secondFound before secondHolds
      · rw [nobody other (List.mem_of_getElem? secondFound)] at secondHolds
        cases secondHolds
  · rw [List.getElem?_set_ne (Ne.symm firstHere)] at firstFound
    by_cases secondHere : second = index
    · subst secondHere
      cases Option.some.inj (here.symm.trans secondFound)
      have holds : (thread.locks || thread.reads) = true ∨
          ∀ other ∈ threads, other.locks = false := by
        rcases Bool.or_eq_true _ _ ▸ secondHolds with taken | taken
        · exact (locks taken).imp (fun before => by rw [before, Bool.true_or])
            fun nobody other member => (Bool.or_eq_false_iff.mp (nobody other member)).1
        · exact (reads taken).imp_left fun before => by rw [before, Bool.or_true]
      rcases holds with before | nobody
      · exact exclusive first second one thread firstFound present firstLocks before
      · rw [nobody one (List.mem_of_getElem? firstFound)] at firstLocks
        cases firstLocks
    · rw [List.getElem?_set_ne (Ne.symm secondHere)] at secondFound
      exact exclusive first second one other firstFound secondFound firstLocks secondHolds

/-- A thread that starts holds nothing. -/
theorem Exclusive.append (exclusive : Exclusive threads) (locks : thread.locks = false)
    (reads : thread.reads = false) : Exclusive (threads ++ [thread]) := by
  have old : ∀ {index : Nat} {other : Thread α}, (threads ++ [thread])[index]? = some other →
      (other.locks || other.reads) = true → threads[index]? = some other := by
    intro index other found holds
    rw [List.getElem?_append] at found
    split at found
    · exact found
    · rw [List.mem_singleton.mp (List.mem_of_getElem? found), locks, reads] at holds
      cases holds
  intro first second one other firstFound secondFound firstLocks secondHolds
  exact exclusive first second one other (old firstFound (by rw [firstLocks, Bool.true_or]))
    (old secondFound secondHolds) firstLocks secondHolds

/-- What holds for the thread that moved and for the others holds for all. -/
theorem forall_mem_set {holds : Thread α → Prop} (own : holds moved)
    (others : ∀ (place : Nat) (other : Thread α), place ≠ index → threads[place]? = some other →
      holds other) : ∀ other ∈ threads.set index moved, holds other := by
  intro other member
  obtain ⟨place, found⟩ := List.getElem?_of_mem member
  by_cases here : place = index
  · subst here
    rw [List.getElem?_set_self'] at found
    obtain ⟨_, -, rfl⟩ := Option.map_eq_some_iff.mp found
    exact own
  · rw [List.getElem?_set_ne (Ne.symm here)] at found
    exact others place other here found

/-- What holds for a thread still holds after the flag or the queue is closed and the writer goes on:
a write that waits for room keeps the flag unset, and a close with the lock keeps the queue open. -/
theorem Thread.Ok.later {closed shut closed' shut' : Bool} {writer writer' : Writer α}
    (known : thread.Ok closed shut writer) (flag : closed = true → closed' = true)
    (queue : shut = true → shut' = true)
    (reads : thread.reads = true → closed = false → closed' = false)
    (locks : thread.locks = true → shut = false → shut' = false)
    (started : writer ≠ .idle → writer' ≠ .idle)
    (ended : shut = true → (∀ batch, writer ≠ .running batch) → ∀ batch, writer' ≠ .running batch) :
    thread.Ok closed' shut' writer' := by
  match thread, known with
  | .write _ _ .sending, known => exact ⟨reads rfl known.1, known.2.1, started known.2.2⟩
  | .write _ _ .sent, known | .write _ _ .done, known => exact known
  | .write _ _ .waiting, known | .write _ _ .locked, known | .write _ _ .refused, known =>
    exact fun late => flag (known late)
  | .close .flagged, known => exact ⟨flag known.1, locks rfl known.2⟩
  | .close .shut, known | .close .draining, known => exact queue known
  | .close (.returned true), known => exact ⟨queue known.1, ended known.1 known.2⟩
  | .close .waiting, _ | .close .locked, _ | .close (.returned false), _ => trivial

section Invariant

variable (inv : recorder.Inv)

include inv

/-- A step of a thread that changes nothing but the thread. -/
theorem Recorder.Inv.quiet (present : recorder.threads[index]? = some thread)
    (own : moved.Ok recorder.closed recorder.queueClosed recorder.writer)
    (locks : moved.locks = true → thread.locks = true ∨ ∀ other ∈ recorder.threads, (other.locks || other.reads) = false)
    (reads : moved.reads = true → thread.reads = true ∨ ∀ other ∈ recorder.threads, other.locks = false) :
    Recorder.Inv { recorder with threads := recorder.threads.set index moved } where
  content := inv.content
  sizes := inv.sizes
  small := inv.small
  calm := inv.calm
  idle := inv.idle
  exited := inv.exited
  shut := inv.shut
  threads := forall_mem_set own fun _ other _ found =>
    inv.threads other (List.mem_of_getElem? found)
  exclusive := inv.exclusive.set present locks reads

/-- The first write starts the writer. -/
theorem Recorder.Inv.start {event : α} {late : Bool}
    (present : recorder.threads[index]? = some (.write event late .locked))
    (unset : recorder.closed = false) :
    Recorder.Inv { recorder with
      writer := recorder.writer.start
      threads := recorder.threads.set index (.write event late .sending) } := by
  have mine := inv.threads _ (List.mem_of_getElem? present)
  have early : late = false := by
    cases late with
    | false => rfl
    | true => rw [mine rfl] at unset; cases unset
  have started : recorder.writer.start ≠ .idle := by
    cases recorder.writer <;> exact nofun
  have batch : recorder.writer.start.batch = recorder.writer.batch := by
    cases recorder.writer <;> rfl
  refine ⟨?_, inv.sizes, ?_, inv.calm, fun idle => absurd idle started, ?_, inv.shut, ?_, ?_⟩
  · change _ ++ recorder.writer.start.batch ++ _ = _
    rw [batch]
    exact inv.content
  · change recorder.writer.start.batch.length < _
    rw [batch]
    exact inv.small
  · intro exited
    cases writer : recorder.writer with
    | exited => exact inv.exited writer
    | _ =>
      rw [show recorder.writer.start = .running _ by rw [writer]; rfl] at exited
      cases exited
  · refine forall_mem_set ⟨unset, early, started⟩ ?_
    intro place other _ found
    refine (inv.threads other (List.mem_of_getElem? found)).later id id (fun _ => id) (fun _ => id)
      (fun _ => started) fun shut => ?_
    rw [inv.shut shut] at unset
    cases unset
  · exact inv.exclusive.set present nofun fun _ => .inl rfl

/-- An event enters the queue. -/
theorem Recorder.Inv.send {event : α} {late : Bool}
    (present : recorder.threads[index]? = some (.write event late .sending)) :
    Recorder.Inv { recorder with
      queue := recorder.queue ++ [event]
      entered := recorder.entered ++ [event]
      threads := recorder.threads.set index (.write event late .sent) } := by
  obtain ⟨unset, early, started⟩ := inv.threads _ (List.mem_of_getElem? present)
  refine ⟨?_, inv.sizes, inv.small, inv.calm, fun idle => absurd idle started, ?_, inv.shut,
    forall_mem_set early ?_, inv.exclusive.set present nofun fun _ => .inl rfl⟩
  · change _ ++ (recorder.queue ++ [event]) = _ ++ [event]
    rw [← List.append_assoc, inv.content]
  · intro exited
    rw [(inv.exited exited).2] at unset
    cases unset
  · exact fun _ other _ found => inv.threads other (List.mem_of_getElem? found)

/-- A close sets the flag. No write is on its way to the queue then, for the close has the lock. -/
theorem Recorder.Inv.flag (present : recorder.threads[index]? = some (.close .locked))
    (unset : recorder.closed = false) :
    Recorder.Inv { recorder with
      closed := true
      threads := recorder.threads.set index (.close .flagged) } := by
  have unshut : recorder.queueClosed = false := by
    cases shut : recorder.queueClosed with
    | false => rfl
    | true => rw [inv.shut shut] at unset; cases unset
  refine ⟨inv.content, inv.sizes, inv.small, inv.calm, inv.idle,
    fun exited => ⟨(inv.exited exited).1, rfl⟩, fun _ => rfl,
    forall_mem_set ⟨rfl, unshut⟩ ?_, inv.exclusive.set present (fun _ => .inl rfl) nofun⟩
  intro place other differs found
  refine (inv.threads other (List.mem_of_getElem? found)).later (fun _ => rfl) id (fun reads => ?_)
    (fun _ => id) id fun _ => id
  have holds : (other.locks || other.reads) = true := by rw [reads, Bool.or_true]
  exact absurd (inv.exclusive index place _ _ present found rfl holds).symm differs

/-- A close closes the queue, for the first time. -/
theorem Recorder.Inv.close (present : recorder.threads[index]? = some (.close .flagged)) :
    Recorder.Inv { recorder with
      queueClosed := true
      threads := recorder.threads.set index (.close .shut) } := by
  obtain ⟨flagged, -⟩ := inv.threads _ (List.mem_of_getElem? present)
  refine ⟨inv.content, inv.sizes, inv.small, inv.calm, inv.idle, inv.exited, fun _ => flagged,
    forall_mem_set rfl ?_, inv.exclusive.set present (fun _ => .inl rfl) nofun⟩
  intro place other differs found
  refine (inv.threads other (List.mem_of_getElem? found)).later id (fun _ => rfl) (fun _ => id)
    (fun locks => ?_) id fun _ => id
  have holds : (other.locks || other.reads) = true := by rw [locks, Bool.true_or]
  exact absurd (inv.exclusive index place _ _ present found rfl holds).symm differs

/-- A step of a thread keeps the invariant. -/
theorem Recorder.Inv.move (present : recorder.threads[index]? = some thread)
    (stepped : thread.step recorder = some (after, moved)) :
    Recorder.Inv { after with threads := recorder.threads.set index moved } := by
  have mine := inv.threads thread (List.mem_of_getElem? present)
  match thread with
  | .write event late .waiting =>
    simp only [Thread.step] at stepped
    split at stepped
    · cases stepped
    · rename_i free
      cases stepped
      refine inv.quiet present mine nofun fun _ => .inr ?_
      simpa using free
  | .write event late .locked =>
    simp only [Thread.step] at stepped
    split at stepped
    · cases stepped
      exact inv.quiet present mine nofun nofun
    · rename_i unset
      cases stepped
      exact inv.start present (Bool.not_eq_true _ ▸ unset)
  | .write event late .sending =>
    have unshut : ¬ recorder.queueClosed = true :=
      fun shut => by cases (inv.shut shut).symm.trans mine.1
    simp only [Thread.step, if_neg unshut] at stepped
    split at stepped
    · cases stepped
      exact inv.send present
    · cases stepped
  | .write event late .sent =>
    cases stepped
    exact inv.quiet present mine nofun nofun
  | .close .waiting =>
    simp only [Thread.step] at stepped
    split at stepped
    · cases stepped
    · rename_i free
      cases stepped
      refine inv.quiet present trivial (fun _ => .inr ?_) nofun
      simpa using free
  | .close .locked =>
    simp only [Thread.step] at stepped
    split at stepped
    · cases stepped
      exact inv.quiet present trivial nofun nofun
    · rename_i unset
      cases stepped
      exact inv.flag present (Bool.not_eq_true _ ▸ unset)
  | .close .flagged =>
    have unshut : ¬ recorder.queueClosed = true := by rw [mine.2]; decide
    simp only [Thread.step, if_neg unshut] at stepped
    cases stepped
    exact inv.close present
  | .close .shut =>
    cases stepped
    exact inv.quiet present mine nofun nofun
  | .close .draining =>
    simp only [Thread.step] at stepped
    split at stepped
    · cases stepped
    · rename_i ended
      cases stepped
      exact inv.quiet present ⟨mine, ended⟩ nofun nofun
  | .write event late .done | .write event late .refused | .close (.returned own) => cases stepped

/-- A running writer goes on or ends, and no close has returned. -/
theorem Recorder.Inv.running {batch : List α} {writer : Writer α}
    (running : recorder.writer = .running batch) (started : writer ≠ .idle) :
    ∀ thread ∈ recorder.threads, thread.Ok recorder.closed recorder.queueClosed writer :=
  fun thread member => (inv.threads thread member).later id id (fun _ => id) (fun _ => id)
    (fun _ => started) fun _ ended => absurd running (ended batch)

/-- A batch is handed over. -/
theorem Recorder.Inv.flush {batch handed queue : List α} {writer : Writer α}
    (running : recorder.writer = .running batch) (empty : writer.batch = [])
    (started : writer ≠ .idle) (small : handed.length ≤ eventBatchSize)
    (content : handed ++ queue = batch ++ recorder.queue)
    (exited : writer = .exited → queue = [] ∧ recorder.closed = true) :
    ({ recorder with queue }.flush handed writer).Inv where
  content := by
    have before := inv.content
    rw [running, Writer.batch, List.append_assoc, ← content] at before
    rw [← before]
    simp only [Recorder.flush, empty]
    split
    · rename_i none
      simp [none]
    · simp
  sizes := by
    intro one member
    simp only [Recorder.flush] at member
    split at member
    · exact inv.sizes one member
    · rcases List.mem_append.mp member with old | new
      · exact inv.sizes one old
      · rw [List.mem_singleton.mp new]
        exact ⟨‹_›, small⟩
  small := by
    change writer.batch.length < _
    rw [empty]
    exact Nat.zero_lt_succ 255
  calm := inv.calm
  idle := fun idle => absurd idle started
  exited := exited
  shut := inv.shut
  threads := inv.running running started
  exclusive := inv.exclusive

/-- The writer takes an event, or ends. -/
theorem Recorder.Inv.receive {batch : List α} (running : recorder.writer = .running batch) :
    (recorder.receive batch).Inv := by
  have small : batch.length < eventBatchSize := by
    have before := inv.small
    rwa [running] at before
  unfold Recorder.receive
  split
  · rename_i event rest queued
    have content : batch ++ [event] ++ rest = batch ++ recorder.queue := by simp [queued]
    have grown : (batch ++ [event]).length = batch.length + 1 := by simp
    split
    · exact inv.flush running rfl nofun (by omega) content nofun
    · have whole := inv.content
      rw [running, Writer.batch, List.append_assoc, ← content, ← List.append_assoc] at whole
      exact ⟨whole, inv.sizes, by change (batch ++ [event]).length < _; omega, inv.calm, nofun,
        nofun, inv.shut, inv.running running nofun, inv.exclusive⟩
  · rename_i queued
    split
    · rename_i shut
      exact inv.flush running rfl nofun (Nat.le_of_lt small) rfl fun _ => ⟨queued, inv.shut shut⟩
    · exact inv

end Invariant

/-- Every event keeps the invariant. -/
theorem Recorder.Inv.next (recorder : Recorder α) (event : Event α) (inv : recorder.Inv) :
    (recorder.next event).Inv := by
  have begins {thread : Thread α} (locks : thread.locks = false) (reads : thread.reads = false)
      (own : thread.Ok recorder.closed recorder.queueClosed recorder.writer) :
      Recorder.Inv { recorder with threads := recorder.threads ++ [thread] } := by
    refine ⟨inv.content, inv.sizes, inv.small, inv.calm, inv.idle, inv.exited, inv.shut, ?_,
      inv.exclusive.append locks reads⟩
    exact List.forall_mem_append.mpr ⟨inv.threads, List.forall_mem_singleton.mpr own⟩
  cases event with
  | write event => exact begins rfl rfl id
  | close => exact begins rfl rfl trivial
  | move index =>
    unfold Recorder.next
    dsimp only
    split
    · exact inv
    · rename_i thread present
      split
      · exact inv
      · exact inv.move present ‹_›
  | receive =>
    unfold Recorder.next
    dsimp only
    split
    · exact inv.receive ‹_›
    · exact inv
  | tick =>
    unfold Recorder.next
    dsimp only
    split
    · rename_i batch running
      have small := inv.small
      rw [running] at small
      exact inv.flush running rfl nofun (Nat.le_of_lt small) rfl nofun
    · exact inv

end Steps

/-! ## Recordings -/

/-- A recording keeps every event once and in order. The batches handed to the store, the batch of
the writer and the queue are the events in the order in which they entered the queue; no batch is
empty or too large; nothing is sent to the closed queue; no write that started after the flag was
set adds an event; and when the close that set the flag has returned, all events are handed over.
Each step moves an event from one of these places to the next, or moves nothing. -/
theorem recording_complete (events : List (Event α)) :
    ∀ recorder ∈ visited Recorder.next (.new : Recorder α) events,
      recorder.stored.flatten ++ recorder.writer.batch ++ recorder.queue = recorder.entered ∧
      (∀ batch ∈ recorder.stored, batch ≠ [] ∧ batch.length ≤ 256) ∧
      recorder.crashed = false ∧
      (∀ event stage, .write event true stage ∈ recorder.threads →
        stage = .waiting ∨ stage = .locked ∨ stage = .refused) ∧
      (.close (.returned true) ∈ recorder.threads →
        recorder.stored.flatten = recorder.entered) := by
  have first : (Recorder.new : Recorder α).Inv :=
    ⟨rfl, nofun, Nat.zero_lt_succ 255, rfl, fun _ => rfl, nofun, nofun, nofun, nofun⟩
  intro recorder reached
  have inv := visited_always Recorder.Inv Recorder.Inv.next first events recorder reached
  refine ⟨inv.content, inv.sizes, inv.calm, ?_, ?_⟩
  · intro event stage member
    have known := inv.threads _ member
    cases stage with
    | waiting => exact .inl rfl
    | locked => exact .inr (.inl rfl)
    | refused => exact .inr (.inr rfl)
    | sending => cases known.2.1
    | sent | done => cases known
  · intro returned
    obtain ⟨-, ended⟩ := inv.threads _ returned
    have content := inv.content
    cases writer : recorder.writer with
    | idle =>
      have nothing := inv.idle writer
      rw [nothing, List.append_eq_nil_iff, List.append_eq_nil_iff] at content
      rw [nothing, content.1.1]
    | running batch => exact absurd writer (ended batch)
    | exited =>
      rw [writer, (inv.exited writer).1] at content
      simpa [Writer.batch] using content

/-- Two writes and a close. The close comes between the flag check and the send of the second write,
and has to wait for it. -/
def twoWrites : List (Event Nat) :=
  [.write 1, .write 2, .move 0, .move 0, .move 0, .move 0, .move 1, .move 1, .close, .move 2,
    .receive, .tick, .move 1, .move 1, .move 2, .move 2, .move 2, .move 2, .receive, .receive,
    .move 2]

/-- The close returns when both events are handed over. -/
theorem recording_complete_for_two :
    (∃ recorder ∈ visited Recorder.next (.new : Recorder Nat) twoWrites,
      recorder.stored = [[1], [2]] ∧ .close (.returned true) ∈ recorder.threads) ∧
    ∀ recorder ∈ visited Recorder.next (.new : Recorder Nat) twoWrites,
      .close (.returned true) ∈ recorder.threads →
        recorder.stored.flatten = recorder.entered :=
  ⟨by decide +kernel, fun recorder reached =>
    (recording_complete twoWrites recorder reached).2.2.2.2⟩

end ShellHub.EventQueues
