import Mathlib.Data.List.Induction
import Mathlib.Data.List.Sort
import Mathlib.Data.String.Basic
import ShellHub.Presence

/-!
# The heartbeater

Beats are submitted to a queue. A loop reads them into a batch and writes the batch with one
statement when a tick comes or the batch is large, and when it is shut down it drains the queue and
writes the rest. A batch keeps the devices that were seen and the time of the earliest beat, and is
reset when it is taken.

The beats that were read since the last statement are the window of the batch. The windows of all
statements, the window of the batch and the queue are, one after the other, the beats that were put
on the queue: no beat is lost and none is written twice.
-/

namespace ShellHub.Heartbeats

open Presence Sequences

/-! ## The batch of a window -/

/-- `take` sorts the devices. -/
def Batch.sorted (batch : Batch) : List String := batch.uids.insertionSort (· ≤ ·)

/-- The batch into which some beats were read. -/
def batchOf (window : List Beat) : Batch := window.foldl Batch.add .empty

theorem batchOf_append (window : List Beat) (beat : Beat) :
    batchOf (window ++ [beat]) = (batchOf window).add beat := by
  simp [batchOf]

theorem mem_batchOf {window : List Beat} {uid : String} :
    uid ∈ (batchOf window).uids ↔ ∃ beat ∈ window, beat.uid = uid := by
  induction window using List.reverseRecOn with
  | nil => simp [batchOf, Batch.empty]
  | append_singleton window beat ih =>
    rw [batchOf_append, Batch.add]
    dsimp only
    split
    · rename_i present
      rw [ih]
      constructor
      · rintro ⟨other, member, same⟩
        exact ⟨other, List.mem_append_left _ member, same⟩
      · rintro ⟨other, member, same⟩
        rcases List.mem_append.mp member with old | new
        · exact ⟨other, old, same⟩
        · rw [← ih, ← same, List.mem_singleton.mp new]
          exact present
    · rw [List.mem_cons, ih]
      constructor
      · rintro (rfl | ⟨other, member, same⟩)
        · exact ⟨beat, List.mem_append_right _ List.mem_cons_self, rfl⟩
        · exact ⟨other, List.mem_append_left _ member, same⟩
      · rintro ⟨other, member, same⟩
        rcases List.mem_append.mp member with old | new
        · exact .inr ⟨other, old, same⟩
        · rw [← same, List.mem_singleton.mp new]
          exact .inl rfl

theorem batchOf_nodup (window : List Beat) : (batchOf window).uids.Nodup := by
  induction window using List.reverseRecOn with
  | nil => exact List.nodup_nil
  | append_singleton window beat ih =>
    rw [batchOf_append, Batch.add]
    dsimp only
    split
    · exact ih
    · rename_i absent
      exact List.nodup_cons.mpr ⟨absent, ih⟩

theorem batchOf_uids_eq_nil {window : List Beat} : (batchOf window).uids = [] ↔ window = [] := by
  constructor
  · intro empty
    cases window with
    | nil => rfl
    | cons beat rest =>
      have member : beat.uid ∈ (batchOf (beat :: rest)).uids :=
        mem_batchOf.mpr ⟨beat, List.mem_cons_self, rfl⟩
      rw [empty] at member
      cases member
  · rintro rfl
    rfl

/-- The time of a batch is the earliest of its window. -/
def Earliest (window : List Beat) (time : Nat) : Prop :=
  (∃ beat ∈ window, beat.time = time) ∧ ∀ beat ∈ window, time ≤ beat.time

theorem batchOf_oldest {window : List Beat} (some : window ≠ []) :
    Earliest window (batchOf window).oldest := by
  induction window using List.reverseRecOn with
  | nil => exact absurd rfl some
  | append_singleton window beat ih =>
    rw [batchOf_append, Batch.add]
    dsimp only
    by_cases empty : window = []
    · subst empty
      rw [if_pos (.inl rfl)]
      exact ⟨⟨beat, List.mem_cons_self, rfl⟩, by simp⟩
    · obtain ⟨⟨first, member, same⟩, least⟩ := ih empty
      split
      · rename_i earlier
        have before : beat.time < (batchOf window).oldest :=
          earlier.resolve_left fun none => empty (batchOf_uids_eq_nil.mp none)
        refine ⟨⟨beat, List.mem_append_right _ List.mem_cons_self, rfl⟩, ?_⟩
        intro other inside
        rcases List.mem_append.mp inside with old | new
        · exact (Nat.le_of_lt before).trans (least other old)
        · rw [List.mem_singleton.mp new]
      · rename_i later
        refine ⟨⟨first, List.mem_append_left _ member, same⟩, ?_⟩
        intro other inside
        rcases List.mem_append.mp inside with old | new
        · exact least other old
        · rw [List.mem_singleton.mp new]
          exact Nat.le_of_not_lt fun before => later (.inr before)

/-! ## The loop -/

/-- A bulk statement, with the beats of its window. -/
structure Write where
  uids : List String
  seenAt : Nat
  window : List Beat
  deriving DecidableEq, Repr

/-- Where the loop is. -/
inductive Phase where
  | running
  | draining
  | stopped
  deriving DecidableEq, Repr

/-- The heartbeater with what has become of the beats: the beats that were put on the queue, those
of them before the shutdown, the window of the batch and the statements. -/
structure Heartbeater where
  queue : List Beat
  batch : Batch
  phase : Phase
  done : Bool
  submitted : List Beat
  early : List Beat
  window : List Beat
  writes : List Write
  deriving DecidableEq, Repr

def Heartbeater.new : Heartbeater := ⟨[], .empty, .running, false, [], [], [], []⟩

/-- `Submit`. -/
def Heartbeater.submit (heartbeater : Heartbeater) (uid : String) (now : Nat) : Heartbeater :=
  if uid = "" then heartbeater
  else if heartbeater.queue.length < deviceHeartbeatQueueSize then
    { heartbeater with
      queue := heartbeater.queue ++ [⟨uid, now⟩]
      submitted := heartbeater.submitted ++ [⟨uid, now⟩] }
  else heartbeater

/-- `flush` takes the batch and writes it. -/
def Heartbeater.flush (heartbeater : Heartbeater) : Heartbeater :=
  if heartbeater.batch.uids = [] then heartbeater
  else
    { heartbeater with
      batch := .empty
      window := []
      writes := heartbeater.writes ++
        [⟨Batch.sorted heartbeater.batch, heartbeater.batch.oldest, heartbeater.window⟩] }

/-- A beat is read from the queue into the batch. -/
def Heartbeater.take (heartbeater : Heartbeater) (beat : Beat) (rest : List Beat) : Heartbeater :=
  { heartbeater with
    queue := rest
    batch := heartbeater.batch.add beat
    window := heartbeater.window ++ [beat] }

/-- What happens: a goroutine submits a beat, `Shutdown` is called, or the loop reads the queue,
receives a tick, sees that it is shut down, or goes on draining. -/
inductive Event where
  | submit (uid : String) (now : Nat)
  | shutdown
  | read
  | tick
  | stop
  | drain
  deriving DecidableEq, Repr

def Heartbeater.next (heartbeater : Heartbeater) : Event → Heartbeater
  | .submit uid now => heartbeater.submit uid now
  | .shutdown =>
    if heartbeater.done then heartbeater
    else { heartbeater with done := true, early := heartbeater.submitted }
  | .read =>
    match heartbeater.phase, heartbeater.queue with
    | .running, beat :: rest =>
      let later := heartbeater.take beat rest
      if deviceHeartbeatBatchSize ≤ later.batch.uids.length then later.flush else later
    | _, _ => heartbeater
  | .tick =>
    match heartbeater.phase with
    | .running => heartbeater.flush
    | _ => heartbeater
  | .stop =>
    match heartbeater.phase with
    | .running => if heartbeater.done then { heartbeater with phase := .draining } else heartbeater
    | _ => heartbeater
  | .drain =>
    match heartbeater.phase, heartbeater.queue with
    | .draining, beat :: rest => heartbeater.take beat rest
    | .draining, [] => { heartbeater.flush with phase := .stopped }
    | _, _ => heartbeater

/-! ## The invariant -/

/-- A statement names the devices of its window in order, each once, with the earliest time. -/
structure Write.Fits (write : Write) : Prop where
  sorted : write.uids.Pairwise (· < ·)
  named : ∀ uid, uid ∈ write.uids ↔ ∃ beat ∈ write.window, beat.uid = uid
  earliest : Earliest write.window write.seenAt

/-- The beats whose statement was made. -/
def Heartbeater.written (heartbeater : Heartbeater) : List Beat :=
  heartbeater.writes.flatMap Write.window

/-- The batch is that of its window, every beat has one place, every statement fits its window, and
the loop stops only after the shutdown and after everything before that was written. -/
structure Kept (heartbeater : Heartbeater) : Prop where
  batch : heartbeater.batch = batchOf heartbeater.window
  placed : heartbeater.submitted =
    heartbeater.written ++ heartbeater.window ++ heartbeater.queue
  fits : ∀ write ∈ heartbeater.writes, write.Fits
  early : heartbeater.early <+: heartbeater.submitted
  shut : heartbeater.phase ≠ .running → heartbeater.done = true
  stopped : heartbeater.phase = .stopped →
    heartbeater.window = [] ∧ heartbeater.early <+: heartbeater.written

section Steps

variable {heartbeater : Heartbeater}

theorem sorted_fits {window : List Beat} (some : window ≠ []) :
    Write.Fits ⟨Batch.sorted (batchOf window), (batchOf window).oldest, window⟩ := by
  have same := List.perm_insertionSort (· ≤ ·) (batchOf window).uids
  refine ⟨?_, fun uid => ?_, batchOf_oldest some⟩
  · have ordered := List.pairwise_insertionSort (· ≤ ·) (batchOf window).uids
    have distinct : (Batch.sorted (batchOf window)).Nodup :=
      same.nodup_iff.mpr (batchOf_nodup window)
    exact (ordered.and distinct).imp fun both => lt_of_le_of_ne both.1 both.2
  · rw [← mem_batchOf]
    exact same.mem_iff

/-- A flush moves the window to the statements. -/
theorem flush_kept (kept : Kept heartbeater) (active : heartbeater.phase ≠ .stopped) :
    Kept heartbeater.flush ∧ heartbeater.flush.window = [] ∧
      heartbeater.flush.queue = heartbeater.queue ∧
      heartbeater.flush.phase = heartbeater.phase := by
  unfold Heartbeater.flush
  have empty := kept.batch ▸ @batchOf_uids_eq_nil heartbeater.window
  split
  · rename_i none
    exact ⟨kept, empty.mp none, rfl, rfl⟩
  · rename_i some
    refine ⟨⟨rfl, ?_, ?_, kept.early, kept.shut, fun stopped => absurd stopped active⟩,
      rfl, rfl, rfl⟩
    · rw [kept.placed]
      simp [Heartbeater.written]
    · refine List.forall_mem_append.mpr ⟨kept.fits, List.forall_mem_singleton.mpr ?_⟩
      rw [kept.batch]
      exact sorted_fits fun none => some (empty.mpr none)

theorem take_kept (kept : Kept heartbeater) (active : heartbeater.phase ≠ .stopped) {beat : Beat}
    {rest : List Beat} (queue : heartbeater.queue = beat :: rest) :
    Kept (heartbeater.take beat rest) := by
  refine ⟨?_, ?_, kept.fits, kept.early, kept.shut, fun stopped => absurd stopped active⟩
  · change heartbeater.batch.add beat = batchOf (heartbeater.window ++ [beat])
    rw [batchOf_append, kept.batch]
  · change heartbeater.submitted = _
    rw [kept.placed, queue]
    simp [Heartbeater.take, Heartbeater.written]

theorem submit_kept (kept : Kept heartbeater) (uid : String) (now : Nat) :
    Kept (heartbeater.submit uid now) := by
  unfold Heartbeater.submit
  split
  · exact kept
  split
  · refine ⟨kept.batch, ?_, kept.fits, ?_, kept.shut, kept.stopped⟩
    · dsimp only
      rw [kept.placed, List.append_assoc]
      rfl
    · exact kept.early.trans (List.prefix_append _ _)
  · exact kept

theorem next_kept (kept : Kept heartbeater) (event : Event) : Kept (heartbeater.next event) := by
  cases event with
  | submit uid now => exact submit_kept kept uid now
  | shutdown =>
    unfold Heartbeater.next
    dsimp only
    split
    · exact kept
    · rename_i open_
      refine ⟨kept.batch, kept.placed, kept.fits, List.prefix_refl _, fun _ => rfl, ?_⟩
      intro stopped
      have stopping : heartbeater.phase = .stopped := stopped
      exact absurd (kept.shut (by rw [stopping]; decide)) open_
  | read =>
    unfold Heartbeater.next
    dsimp only
    split
    · rename_i beat rest phase queue
      have active : heartbeater.phase ≠ .stopped := by rw [phase]; decide
      have taken := take_kept kept active queue
      split
      · exact (flush_kept taken active).1
      · exact taken
    · exact kept
  | tick =>
    unfold Heartbeater.next
    dsimp only
    split
    · rename_i phase
      exact (flush_kept kept (by rw [phase]; decide)).1
    · exact kept
  | stop =>
    unfold Heartbeater.next
    dsimp only
    split
    · split
      · rename_i done
        exact ⟨kept.batch, kept.placed, kept.fits, kept.early, fun _ => done, by rintro ⟨⟩⟩
      · exact kept
    · exact kept
  | drain =>
    unfold Heartbeater.next
    dsimp only
    split
    · rename_i phase queue
      exact take_kept kept (by rw [phase]; decide) queue
    · rename_i phase queue
      obtain ⟨flushed, empty, same, still⟩ := flush_kept kept (by rw [phase]; decide)
      have done : heartbeater.flush.done = true := by
        refine flushed.shut ?_
        rw [still, phase]
        decide
      refine ⟨flushed.batch, flushed.placed, flushed.fits, flushed.early, fun _ => done,
        fun _ => ⟨empty, ?_⟩⟩
      have early := flushed.early
      rw [flushed.placed, empty, same, queue, List.append_nil, List.append_nil] at early
      exact early
    · exact kept

end Steps

/-! ## The end of the loop -/

/-- A loop that drains stops after it has read what is in the queue. -/
theorem drain_stops (heartbeater : Heartbeater) (draining : heartbeater.phase = .draining) :
    ((List.replicate (heartbeater.queue.length + 1) Event.drain).foldl Heartbeater.next
      heartbeater).phase = .stopped := by
  induction queue : heartbeater.queue generalizing heartbeater with
  | nil => simp [Heartbeater.next, draining, queue]
  | cons beat rest ih =>
    rw [List.length_cons, List.replicate_succ, List.foldl_cons]
    have taken : heartbeater.next .drain = heartbeater.take beat rest := by
      simp only [Heartbeater.next, draining, queue]
    rw [taken]
    exact ih _ draining rfl

/-- No beat is lost and none is invented. The windows of the statements, that of the batch and the
queue are the beats that were put on the queue; each statement names the devices of its window in
order, each once, with the earliest time; when the loop has stopped, everything before the shutdown
was written; and after the shutdown the loop stops when it has read what is in the queue. Each event
moves beats from the queue to the batch and on to a statement; draining has one beat less to read
each time. -/
theorem heartbeats_kept (events : List Event) :
    ∀ heartbeater ∈ visited Heartbeater.next .new events,
      heartbeater.submitted = heartbeater.written ++ heartbeater.window ++ heartbeater.queue ∧
      (∀ write ∈ heartbeater.writes, write.Fits) ∧
      (heartbeater.phase = .stopped →
        heartbeater.window = [] ∧ heartbeater.early <+: heartbeater.written) ∧
      (heartbeater.done = true → heartbeater.phase ≠ .stopped →
        ((.stop :: List.replicate (heartbeater.queue.length + 1) .drain).foldl Heartbeater.next
          heartbeater).phase = .stopped) := by
  intro heartbeater member
  have begins : Kept .new := ⟨rfl, rfl, by rintro _ ⟨⟩, List.prefix_refl _,
    fun stopping => absurd rfl stopping, by rintro ⟨⟩⟩
  have kept := visited_always Kept (fun _ event kept => next_kept kept event) begins events
    heartbeater member
  refine ⟨kept.placed, kept.fits, kept.stopped, fun done active => ?_⟩
  rw [List.foldl_cons]
  cases phase : heartbeater.phase with
  | running =>
    have stops : heartbeater.next .stop = { heartbeater with phase := .draining } := by
      simp only [Heartbeater.next, phase, done, if_true]
    rw [stops]
    exact drain_stops _ rfl
  | draining =>
    have stays : heartbeater.next .stop = heartbeater := by
      simp only [Heartbeater.next, phase]
    rw [stays]
    exact drain_stops _ phase
  | stopped => exact absurd phase active

/-- Two devices beat, one of them twice and late, before the loop is shut down. -/
def lastBeats : List Event :=
  [.submit "pi" 5, .submit "nas" 7, .read, .submit "pi" 9, .shutdown, .read, .stop, .drain,
    .submit "pi" 11, .drain, .drain]

theorem heartbeats_kept_at_shutdown :
    (∃ heartbeater ∈ visited Heartbeater.next .new lastBeats, heartbeater.phase = .stopped ∧
      heartbeater.writes =
        [⟨["nas", "pi"], 5, [⟨"pi", 5⟩, ⟨"nas", 7⟩, ⟨"pi", 9⟩, ⟨"pi", 11⟩]⟩]) ∧
    ∀ heartbeater ∈ visited Heartbeater.next .new lastBeats, heartbeater.phase = .stopped →
      heartbeater.early <+: heartbeater.written := by
  refine ⟨by decide +kernel, fun heartbeater member stopped => ?_⟩
  exact ((heartbeats_kept lastBeats heartbeater member).2.2.1 stopped).2

end ShellHub.Heartbeats
