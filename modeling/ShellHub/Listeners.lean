import Mathlib.Tactic.SplitIfs
import ShellHub.Sequences

/-!
# Closing the agent's listener

The agent's listener picks up a connection for each path that the server announces: a goroutine
dials the server, and puts the connection into a channel of eight for `Accept`, unless the listener
is done. `Close` may be called from the timer, from the loops and by the user. Under a mutex it
marks the listener, closes the channel of the connections and then the channel `donec`.

A pick-up does not take the mutex. If it comes to its select after `Close`, or waits there when the
channel is closed, the send panics. And what is in the channel's buffer when it is closed is still
accepted afterwards. No channel is closed twice, whoever calls `Close`; and this module proves when
nothing panics, and when every `Accept` after `Close` returns an error.

A pick-up that waits at its select because the channel is full is one that has not taken a case yet.
What it reports to the server goes through a channel that nobody closes, and is left out.
-/

namespace ShellHub.Listeners

open Sequences

inductive Panic where
  | sendOnClosed
  | closeOfClosed
  deriving DecidableEq, Repr

/-- What becomes of the connection of a pick-up: it goes to the channel of the connections, it is
dropped because the listener is done, it is closed, or there was none. -/
inductive Outcome where
  | queued
  | dropped
  | closed
  | none
  deriving DecidableEq, Repr

/-- Where `grabConn` is: it dials; it has a connection and is at its select; or it has returned,
before or after `Close`. -/
inductive Pickup where
  | dialling
  | selecting
  | returned (late : Bool) (outcome : Outcome)
  deriving DecidableEq, Repr

/-- What the holder of the mutex does next in `Close`. -/
inductive Closer where
  | connc
  | donec
  deriving DecidableEq, Repr

/-- What an `Accept` has returned, and whether the channels were closed before: a connection, or
`ErrListenerClosed`. -/
structure Accepted where
  late : Bool
  connection : Option Nat
  deriving DecidableEq, Repr

/-- The connections are numbered like their pick-ups. -/
structure Listener where
  /-- the buffer of `connc` -/
  connc : List Nat
  conncClosed : Bool
  donecClosed : Bool
  closed : Bool
  closer : Option Closer
  pickups : List Pickup
  accepts : List Accepted
  panic : Option Panic
  deriving DecidableEq, Repr

inductive Event where
  /-- the read loop gets a `conn-ready` message and starts a pick-up -/
  | connReady
  /-- the dial of a pick-up fails, or the response's status is not 101, or it has a connection -/
  | refused (index : Nat)
  | status (index : Nat)
  | dialled (index : Nat)
  /-- the select of a pick-up takes the case that sends -/
  | send (index : Nat)
  /-- the select of a pick-up takes the case of `donec` -/
  | drop (index : Nat)
  /-- `Close` is called and has the mutex -/
  | close
  | closeConnc
  | closeDonec
  | accept
  deriving DecidableEq, Repr

namespace Listener

def new : Listener := ⟨[], false, false, false, none, [], [], none⟩

/-- The capacity of `connc`. -/
def capacity : Nat := 8

variable (listener : Listener)

def move (index : Nat) (pickup : Pickup) : Listener :=
  { listener with pickups := listener.pickups.set index pickup }

/-- A pick-up returns. -/
def finish (index : Nat) (outcome : Outcome) : Listener :=
  listener.move index (.returned listener.donecClosed outcome)

def accepting (connection : Option Nat) : Listener :=
  { listener with accepts := listener.accepts ++ [⟨listener.donecClosed, connection⟩] }

/-- A step of a process that has not panicked. -/
def step : Event → Listener
  | .connReady => { listener with pickups := listener.pickups ++ [.dialling] }
  | .refused index =>
    if listener.pickups[index]? = some .dialling then listener.finish index .none else listener
  | .status index =>
    if listener.pickups[index]? = some .dialling then listener.finish index .closed else listener
  | .dialled index =>
    if listener.pickups[index]? = some .dialling then listener.move index .selecting else listener
  | .send index =>
    if listener.pickups[index]? ≠ some .selecting then listener
    else if listener.conncClosed then { listener with panic := some .sendOnClosed }
    else if listener.connc.length < capacity then
      { listener with connc := listener.connc ++ [index] }.finish index .queued
    else listener
  | .drop index =>
    if listener.pickups[index]? = some .selecting ∧ listener.donecClosed = true then
      listener.finish index .dropped
    else listener
  | .close =>
    if listener.closer = none ∧ listener.closed = false then
      { listener with closed := true, closer := some .connc }
    else listener
  | .closeConnc =>
    if listener.closer ≠ some .connc then listener
    else if listener.conncClosed then { listener with panic := some .closeOfClosed }
    else { listener with conncClosed := true, closer := some .donec }
  | .closeDonec =>
    if listener.closer ≠ some .donec then listener
    else if listener.donecClosed then { listener with panic := some .closeOfClosed }
    else { listener with donecClosed := true, closer := none }
  | .accept =>
    match listener.connc with
    | connection :: rest => { listener.accepting (some connection) with connc := rest }
    | [] => if listener.conncClosed then listener.accepting none else listener

/-- A panic ends the process. -/
def next (event : Event) : Listener :=
  match listener.panic with
  | none => listener.step event
  | some _ => listener

end Listener

/-! ## The channels are closed once -/

/-- The mark, the mutex and the channels agree, and no pick-up that returns after `Close` has put its
connection into the channel. -/
structure Guarded (listener : Listener) : Prop where
  unclosed : listener.closed = false → listener.closer = none
  connc : listener.conncClosed = true ↔ listener.closed = true ∧ listener.closer ≠ some .connc
  donec : listener.donecClosed = true ↔ listener.closed = true ∧ listener.closer = none
  panic : listener.panic ≠ some .closeOfClosed
  pickups : ∀ pickup ∈ listener.pickups, pickup ≠ .returned true .queued

section Steps

variable {listener : Listener}

section Guarded

variable (guarded : Guarded listener)

include guarded

/-- `donec` is closed after the channel of the connections. -/
theorem Guarded.donec_last (done : listener.donecClosed = true) : listener.conncClosed = true := by
  obtain ⟨closed, closer⟩ := guarded.donec.mp done
  exact guarded.connc.mpr ⟨closed, by simp [closer]⟩

/-- A pick-up moves on, and does not put a connection into the channel after `Close`. -/
theorem Guarded.move {index : Nat} {pickup : Pickup} (fine : pickup ≠ .returned true .queued) :
    Guarded (listener.move index pickup) :=
  { guarded with pickups := set_keeps guarded.pickups fine }

/-- Whoever is inside `Close` has marked the listener. -/
theorem Guarded.marked {closer : Closer} (holds : listener.closer = some closer) :
    listener.closed = true := by
  cases marked : listener.closed with
  | true => rfl
  | false => cases holds.symm.trans (guarded.unclosed marked)

/-- `Close` finds the channel of the connections open and closes it. -/
theorem Guarded.closeConnc (closer : listener.closer = some .connc) :
    listener.conncClosed = false ∧
      Guarded { listener with conncClosed := true, closer := some .donec } := by
  have running : listener.conncClosed = false := by
    rw [← Bool.not_eq_true, guarded.connc, closer]
    simp
  have marked := guarded.marked closer
  have undone : listener.donecClosed = false := by
    rw [← Bool.not_eq_true, guarded.donec, closer]
    simp
  exact ⟨running, by simp [marked], by simp [marked], by simp [undone], guarded.panic,
    guarded.pickups⟩

/-- `Close` finds `donec` open and closes it. -/
theorem Guarded.closeDonec (closer : listener.closer = some .donec) :
    listener.donecClosed = false ∧
      Guarded { listener with donecClosed := true, closer := none } := by
  have undone : listener.donecClosed = false := by
    rw [← Bool.not_eq_true, guarded.donec, closer]
    simp
  have marked := guarded.marked closer
  have closed : listener.conncClosed = true := guarded.connc.mpr ⟨marked, by simp [closer]⟩
  exact ⟨undone, fun _ => rfl, by simp [marked, closed], by simp [marked], guarded.panic,
    guarded.pickups⟩

/-- The first `Close` marks the listener while both channels are open. -/
theorem Guarded.close (unmarked : listener.closed = false) :
    Guarded { listener with closed := true, closer := some .connc } := by
  have running : listener.conncClosed = false := by
    rw [← Bool.not_eq_true, guarded.connc, unmarked]
    simp
  have undone : listener.donecClosed = false := by
    rw [← Bool.not_eq_true, guarded.donec, unmarked]
    simp
  exact ⟨by simp, by simp [running], by simp [undone], guarded.panic, guarded.pickups⟩

/-- Every event of a process that has not panicked keeps mark, mutex and channels in agreement. -/
theorem Guarded.step (event : Event) : Guarded (listener.step event) := by
  cases event
  all_goals dsimp only [Listener.step]
  case connReady =>
    have new : Pickup.dialling ≠ .returned true .queued := by simp
    exact { guarded with
      pickups := List.forall_mem_append.mpr ⟨guarded.pickups, List.forall_mem_singleton.mpr new⟩ }
  case refused index | status index | dialled index | drop index =>
    split
    · exact guarded.move (by simp)
    · exact guarded
  case send index =>
    split_ifs with elsewhere closed room
    · exact guarded
    · exact { guarded with panic := by simp }
    · -- the channel is open, so that the listener is not done
      have undone : listener.donecClosed = false :=
        Bool.eq_false_iff.mpr fun done => closed (guarded.donec_last done)
      have longer : Guarded { listener with connc := listener.connc ++ [index] } := { guarded with }
      exact longer.move (by simp [undone])
    · exact guarded
  case close =>
    split
    · rename_i first
      exact guarded.close first.2
    · exact guarded
  case closeConnc =>
    split_ifs with other twice
    · exact guarded
    · cases (guarded.closeConnc (not_not.mp other)).1.symm.trans twice
    · exact (guarded.closeConnc (not_not.mp other)).2
  case closeDonec =>
    split_ifs with other twice
    · exact guarded
    · cases (guarded.closeDonec (not_not.mp other)).1.symm.trans twice
    · exact (guarded.closeDonec (not_not.mp other)).2
  case accept =>
    split
    · exact { guarded with }
    · split
      · exact { guarded with }
      · exact guarded

/-- Every event keeps them in agreement, and a panic ends the run. -/
theorem Guarded.next (event : Event) : Guarded (listener.next event) := by
  unfold Listener.next
  split
  · exact guarded.step event
  · exact guarded

end Guarded

/-! ## When nothing panics -/

/-- When the channel of the connections is closed no pick-up has a connection in hand, and no
pick-up gets one afterwards. -/
def Unhurried (listener : Listener) : Event → Prop
  | .closeConnc => .selecting ∉ listener.pickups
  | .dialled _ => listener.conncClosed = false
  | _ => True

instance (listener : Listener) : (event : Event) → Decidable (Unhurried listener event)
  | .closeConnc => inferInstanceAs (Decidable (_ ∉ listener.pickups))
  | .dialled _ => inferInstanceAs (Decidable (listener.conncClosed = false))
  | .connReady | .refused _ | .status _ | .send _ | .drop _ | .close | .closeDonec | .accept =>
    .isTrue trivial

/-- Nothing has panicked, and no pick-up has a connection in hand once the channel is closed. -/
structure Unharmed (listener : Listener) : Prop where
  guarded : Guarded listener
  panic : listener.panic = none
  settled : listener.conncClosed = true → .selecting ∉ listener.pickups

/-- A pick-up that moves elsewhere is not at its select. -/
theorem Unharmed.move (unharmed : Unharmed listener) {index : Nat} {pickup : Pickup}
    (elsewhere : listener.conncClosed = true → pickup ≠ .selecting) :
    listener.conncClosed = true → .selecting ∉ (listener.move index pickup).pickups := by
  intro closed member
  rcases List.mem_or_eq_of_mem_set member with old | new
  · exact unharmed.settled closed old
  · exact elsewhere closed new.symm

/-- Every event that meets the condition leaves the process unharmed: who sends finds the channel open. -/
theorem Unharmed.next (unharmed : Unharmed listener) (event : Event)
    (unhurried : Unhurried listener event) : Unharmed (listener.next event) := by
  have guarded := unharmed.guarded.next event
  unfold Listener.next at guarded ⊢
  rw [unharmed.panic] at guarded ⊢
  suffices kept : (listener.step event).panic = none ∧
      ((listener.step event).conncClosed = true → .selecting ∉ (listener.step event).pickups) from
    ⟨guarded, kept.1, kept.2⟩
  have same := And.intro unharmed.panic unharmed.settled
  cases event
  all_goals dsimp only [Listener.step]
  case connReady =>
    refine ⟨unharmed.panic, fun closed member => ?_⟩
    rcases List.mem_append.mp member with old | new
    · exact unharmed.settled closed old
    · cases List.mem_singleton.mp new
  case refused index | status index | drop index =>
    split
    · exact ⟨unharmed.panic, unharmed.move fun _ => by simp⟩
    · exact same
  case dialled index =>
    split
    · exact ⟨unharmed.panic, unharmed.move fun closed => by cases closed.symm.trans unhurried⟩
    · exact same
  case send index =>
    split_ifs with elsewhere closed room
    · exact same
    · exact absurd (List.mem_of_getElem? (not_not.mp elsewhere)) (unharmed.settled closed)
    · exact ⟨unharmed.panic, fun done => absurd done closed⟩
    · exact same
  case close =>
    split <;> exact same
  case closeConnc =>
    split_ifs with other twice
    · exact same
    · cases (unharmed.guarded.closeConnc (not_not.mp other)).1.symm.trans twice
    · exact ⟨unharmed.panic, fun _ => unhurried⟩
  case closeDonec =>
    split_ifs with other twice
    · exact same
    · cases (unharmed.guarded.closeDonec (not_not.mp other)).1.symm.trans twice
    · exact same
  case accept =>
    split
    · exact same
    · split <;> exact same

/-! ## When `Accept` returns an error -/

/-- When the channel of the connections is closed its buffer is empty. -/
def Drained (listener : Listener) : Event → Prop
  | .closeConnc => listener.connc = []
  | _ => True

instance (listener : Listener) : (event : Event) → Decidable (Drained listener event)
  | .closeConnc => inferInstanceAs (Decidable (listener.connc = []))
  | .connReady | .refused _ | .status _ | .dialled _ | .send _ | .drop _ | .close | .closeDonec
  | .accept => .isTrue trivial

/-- A closed channel has no connections, and an `Accept` after `Close` has returned none. -/
structure Emptied (listener : Listener) : Prop where
  guarded : Guarded listener
  connc : listener.conncClosed = true → listener.connc = []
  accepts : ∀ accepted ∈ listener.accepts, accepted.late = true → accepted.connection = none

/-- An `Accept` that returns no connection after `Close`. -/
theorem Emptied.accepting (emptied : Emptied listener) {connection : Option Nat}
    (none : listener.donecClosed = true → connection = .none) :
    ∀ accepted ∈ (listener.accepting connection).accepts,
      accepted.late = true → accepted.connection = .none :=
  List.forall_mem_append.mpr ⟨emptied.accepts, List.forall_mem_singleton.mpr none⟩

/-- Every event that meets the condition keeps a closed channel empty. -/
theorem Emptied.next (emptied : Emptied listener) (event : Event) (drained : Drained listener event) :
    Emptied (listener.next event) := by
  have guarded := emptied.guarded.next event
  unfold Listener.next at guarded ⊢
  split
  case h_2 => exact emptied
  rename_i alive
  rw [alive] at guarded
  suffices kept : ((listener.step event).conncClosed = true → (listener.step event).connc = []) ∧
      ∀ accepted ∈ (listener.step event).accepts, accepted.late = true →
        accepted.connection = none from ⟨guarded, kept.1, kept.2⟩
  have same := And.intro emptied.connc emptied.accepts
  cases event
  all_goals dsimp only [Listener.step]
  case connReady => exact same
  case refused index | status index | dialled index | drop index | close =>
    split <;> exact same
  case send index =>
    split_ifs with elsewhere closed room
    · exact same
    · exact same
    · exact ⟨fun done => absurd done closed, emptied.accepts⟩
    · exact same
  case closeConnc =>
    split_ifs with other twice
    · exact same
    · exact same
    · exact ⟨fun _ => drained, emptied.accepts⟩
  case closeDonec =>
    split_ifs <;> exact same
  case accept =>
    split
    · -- there is a connection, so that the channel is open and the listener is not done
      rename_i connection rest waiting
      have open_ (closed : listener.conncClosed = true) : False := by
        cases waiting.symm.trans (emptied.connc closed)
      exact ⟨fun closed => (open_ closed).elim,
        emptied.accepting fun done => (open_ (emptied.guarded.donec_last done)).elim⟩
    · split
      · exact ⟨emptied.connc, emptied.accepting fun _ => rfl⟩
      · exact same

/-- An `Accept` after `Close` returns at once, with an error. -/
theorem Emptied.accept (emptied : Emptied listener) (alive : listener.panic = none)
    (done : listener.donecClosed = true) :
    (listener.next .accept).accepts = listener.accepts ++ [⟨true, none⟩] := by
  have closed := emptied.guarded.donec_last done
  have empty := emptied.connc closed
  simp only [Listener.next, alive, Listener.step, empty, closed, if_true, Listener.accepting, done]

end Steps

/-- A new listener is open and has no pick-ups. -/
theorem guarded_new : Guarded .new :=
  ⟨fun _ => rfl, by decide, by decide, by decide, by simp [Listener.new]⟩

/-- Closing the agent's listener never crashes it. In every run no channel is closed twice, and no
pick-up that returns after `Close` has put its connection into the channel. In every run in which no
pick-up has a connection in hand when `Close` closes the channel of the connections, and none gets
one afterwards, nothing panics. In every run in which the buffer of that channel is empty when it is
closed, every `Accept` after `Close` returns an error. Each event keeps what every run keeps, and
under each of the two conditions what they keep besides. -/
theorem close_safe (events : List Event) :
    (∀ listener ∈ visited Listener.next .new events, listener.panic ≠ some .closeOfClosed ∧
      ∀ pickup ∈ listener.pickups, pickup ≠ .returned true .queued) ∧
    (Along Listener.next Unhurried .new events →
      ∀ listener ∈ visited Listener.next .new events, listener.panic = none) ∧
    (Along Listener.next Drained .new events →
      ∀ listener ∈ visited Listener.next .new events,
        (∀ accepted ∈ listener.accepts, accepted.late = true → accepted.connection = none) ∧
        (listener.panic = none → listener.donecClosed = true →
          (listener.next .accept).accepts = listener.accepts ++ [⟨true, none⟩])) := by
  refine ⟨fun listener reached => ?_, fun unhurried listener reached => ?_,
    fun drained listener reached => ?_⟩
  · have guarded := visited_always Guarded (fun _ event guarded => guarded.next event) guarded_new
      events listener reached
    exact ⟨guarded.panic, guarded.pickups⟩
  · have start : Unharmed .new := ⟨guarded_new, rfl, by decide⟩
    exact (visited_keeps (fun _ event unharmed => unharmed.next event) start unhurried listener
      reached).panic
  · have start : Emptied .new := ⟨guarded_new, by decide, by simp [Listener.new]⟩
    have emptied := visited_keeps (fun _ event emptied => emptied.next event) start drained listener
      reached
    exact ⟨emptied.accepts, emptied.accept⟩

/-- A connection is picked up and accepted, another pick-up fails after `Close`, `Accept` is called
again and `Close` too. -/
def orderlyClose : List Event :=
  [.connReady, .dialled 0, .send 0, .accept, .connReady, .close, .closeConnc, .closeDonec,
    .status 1, .accept, .close]

/-- A listener that is closed between pick-ups does not panic and gives out no connection afterwards. -/
theorem close_safe_when_orderly :
    ((visited Listener.next .new orderlyClose).getLast?.map fun listener =>
        (listener.accepts, listener.pickups)) =
      some ([⟨false, some 0⟩, ⟨true, none⟩], [.returned false .queued, .returned true .closed]) ∧
    (∀ listener ∈ visited Listener.next .new orderlyClose, listener.panic = none) ∧
    ∀ listener ∈ visited Listener.next .new orderlyClose,
      ∀ accepted ∈ listener.accepts, accepted.late = true → accepted.connection = none :=
  ⟨by decide +kernel, (close_safe orderlyClose).2.1 (by decide +kernel), fun listener reached =>
    ((close_safe orderlyClose).2.2 (by decide +kernel) listener reached).1⟩

/-- A pick-up has its connection when the listener is closed, and sends it: the process panics. A
connection is in the buffer when the listener is closed: it is accepted afterwards. -/
theorem close_crashes :
    (∃ listener ∈ visited Listener.next .new
        [.connReady, .dialled 0, .close, .closeConnc, .closeDonec, .send 0],
      listener.panic = some .sendOnClosed) ∧
    ∃ listener ∈ visited Listener.next .new
        [.connReady, .dialled 0, .send 0, .close, .closeConnc, .closeDonec, .accept],
      listener.accepts = [⟨true, some 0⟩] := by
  decide +kernel

end ShellHub.Listeners
