import ShellHub.Sequences

/-!
# Two copies between a client and an agent

A forwarded port is carried by two copies, one in each direction. Its handler closes both channels when
a copy has failed, and nothing at all when a copy ends with EOF: the channels are closed when the
handler returns, after both copies. A copy ends with EOF when its source ends, and also when a write
finds its destination closed, for such a write fails with EOF.

The end of a stream is passed on in the runs in which a copy ends with EOF only after its destination
was closed. What was closed is closed by a peer, by a copy that failed or by the return of the handler.
-/

namespace ShellHub.PortForwarding

open Sequences

inductive Side where
  | client
  | agent
  deriving DecidableEq, Repr

/-- A value for either side. -/
structure Both (α : Type) where
  client : α
  agent : α
  deriving DecidableEq, Repr

namespace Both

variable {α : Type}

def get (both : Both α) : Side → α
  | .client => both.client
  | .agent => both.agent

def set (both : Both α) (value : α) : Side → Both α
  | .client => { both with client := value }
  | .agent => { both with agent := value }

@[simp] theorem get_pair (value : α) (side : Side) : (Both.mk value value).get side = value := by
  cases side <;> rfl

theorem get_set (both : Both α) (value : α) (changed side : Side) :
    (both.set value changed).get side = if side = changed then value else both.get side := by
  cases changed <;> cases side <;> rfl

end Both

/-- How a write ends. -/
inductive Write where
  | written
  | eof
  | failed
  deriving DecidableEq, Repr

/-- A read of a copy's source; data that is read is written. -/
inductive Read where
  | data (write : Write)
  | empty
  | eof
  | failed
  deriving DecidableEq, Repr

/-- `maxConsecutiveEmptyReads`. -/
def maxConsecutiveEmptyReads : Nat := 100

/-- A copy: how often in a row its source gave nothing, and whether it has ended. -/
structure Copy where
  zeros : Nat
  ended : Bool
  deriving DecidableEq, Repr

/-- How a copy ends. -/
inductive Ending where
  | eof
  | failed
  deriving DecidableEq, Repr

/-- `io.Copy` from a `deadReadGuard` takes one read. -/
def Copy.read (copy : Copy) : Read → Copy × Option Ending
  | .data .written => ({ copy with zeros := 0 }, none)
  | .data .eof => (⟨0, true⟩, some .eof)
  | .data .failed => (⟨0, true⟩, some .failed)
  | .empty =>
    if maxConsecutiveEmptyReads ≤ copy.zeros + 1 then (⟨copy.zeros + 1, true⟩, some .failed)
    else ({ copy with zeros := copy.zeros + 1 }, none)
  | .eof => (⟨0, true⟩, some .eof)
  | .failed => (⟨0, true⟩, some .failed)

/-- The copies by the side they write to, and the channels that are closed. -/
structure Pipe where
  copies : Both Copy
  closed : Both Bool
  returned : Bool
  deriving DecidableEq, Repr

inductive Event where
  /-- the copy to a side reads -/
  | read (side : Side) (outcome : Read)
  /-- the peer of a side closes the channel -/
  | close (side : Side)
  | return_
  deriving DecidableEq, Repr

namespace Pipe

def opened : Pipe := ⟨⟨⟨0, false⟩, ⟨0, false⟩⟩, ⟨false, false⟩, false⟩

/-- What `DefaultDirectTCPIPHandler` does when a copy ends. -/
def ends (pipe : Pipe) : Ending → Pipe
  | .eof => pipe
  | .failed => { pipe with closed := ⟨true, true⟩ }

def next (pipe : Pipe) : Event → Pipe
  | .read side outcome =>
    if (pipe.copies.get side).ended then pipe
    else
      let (copy, ending) := (pipe.copies.get side).read outcome
      let pipe := { pipe with copies := pipe.copies.set copy side }
      match ending with
      | none => pipe
      | some ending => pipe.ends ending
  | .close side => { pipe with closed := pipe.closed.set true side }
  | .return_ =>
    -- the deferred closes run once both copies have ended
    if pipe.copies.client.ended ∧ pipe.copies.agent.ended then
      { pipe with closed := ⟨true, true⟩, returned := true }
    else pipe

/-- The destination of a copy that has ended is closed. -/
def Relayed (pipe : Pipe) : Prop :=
  ∀ side, (pipe.copies.get side).ended = true → pipe.closed.get side = true

end Pipe

/-- A copy that ends with EOF, of its source or of its destination, has a closed destination. -/
def EndsClosed (pipe : Pipe) : Event → Prop
  | .read side .eof | .read side (.data .eof) => pipe.closed.get side = true
  | _ => True

instance (pipe : Pipe) (event : Event) : Decidable (EndsClosed pipe event) := by
  unfold EndsClosed
  split <;> infer_instance

/-- A running copy ends exactly when its read has an ending, and with EOF in two ways. -/
theorem read_ended (copy : Copy) (outcome : Read) (running : copy.ended = false) :
    ((copy.read outcome).1.ended = true ↔ (copy.read outcome).2 ≠ none) ∧
      ((copy.read outcome).2 = some .eof → outcome = .eof ∨ outcome = .data .eof) := by
  cases outcome with
  | data write => cases write <;> simp [Copy.read, running]
  | empty =>
    simp only [Copy.read]
    split <;> simp [running]
  | eof | failed => simp [Copy.read]

/-- A copy that ends meets a closed destination, or it closes it. What is closed stays closed. -/
theorem relayed_next {pipe : Pipe} {event : Event} (relayed : pipe.Relayed)
    (closed : EndsClosed pipe event) : (pipe.next event).Relayed := by
  cases event with
  | return_ =>
    simp only [Pipe.next]
    split
    · exact fun side _ => Both.get_pair true side
    · exact relayed
  | close side =>
    intro other ended
    simp only [Pipe.next, Both.get_set]
    split
    · rfl
    · exact relayed other ended
  | read side outcome =>
    cases running : (pipe.copies.get side).ended with
    | true =>
      simp only [Pipe.next, running, if_true]
      exact relayed
    | false =>
      obtain ⟨ended, eof⟩ := read_ended (pipe.copies.get side) outcome running
      cases result : (pipe.copies.get side).read outcome with
      | mk copy ending =>
        rw [result] at ended eof
        simp only [Pipe.next, running, Bool.false_eq_true, if_false, result]
        cases ending with
        | none =>
          intro other otherEnded
          simp only [Both.get_set] at otherEnded
          split at otherEnded
          · exact absurd rfl (ended.mp otherEnded)
          · exact relayed other otherEnded
        | some ending =>
          cases ending with
          | eof =>
            have here : pipe.closed.get side = true := by
              rcases eof rfl with rfl | rfl <;> exact closed
            intro other otherEnded
            simp only [Pipe.ends, Both.get_set] at otherEnded
            split at otherEnded
            · rename_i same
              rw [same]
              exact here
            · exact relayed other otherEnded
          | failed => exact fun other _ => Both.get_pair true other

/-- The handler of a forwarded port passes the end of each stream on, in every run in which no copy ends
with EOF while its destination is open: each step keeps the destinations of ended copies closed. -/
theorem port_forwarding_relays_ends (events : List Event)
    (whole : Along Pipe.next EndsClosed .opened events) :
    ∀ pipe ∈ visited Pipe.next .opened events,
      ∀ side, (pipe.copies.get side).ended = true → pipe.closed.get side = true :=
  visited_keeps (fun _ _ relayed closed => relayed_next relayed closed)
    (fun side ended => by cases side <;> cases ended) whole

/-- The client closes its channel, so that a write to it ends the copy with EOF; then the write to the
agent fails. -/
def broken : List Event :=
  [.read .client (.data .written), .close .client, .read .client (.data .eof),
    .read .agent (.data .failed), .return_]

theorem port_forwarding_relays_broken :
    (∃ pipe ∈ visited Pipe.next .opened broken,
      pipe.copies.client.ended = true ∧ pipe.copies.agent.ended = true) ∧
    ∀ pipe ∈ visited Pipe.next .opened broken,
      ∀ side, (pipe.copies.get side).ended = true → pipe.closed.get side = true :=
  ⟨by decide +kernel, port_forwarding_relays_ends broken (by decide +kernel)⟩

/-- The agent's end of a forwarded port has sent everything and ends its stream. The client is not
told, and the handler does not return before the client's own stream ends. -/
theorem port_forwarding_keeps_end :
    ∃ pipe ∈ visited Pipe.next .opened [.read .client (.data .written), .read .client .eof],
      pipe.copies.client.ended = true ∧ pipe.closed.get .client = false ∧ pipe.next .return_ = pipe := by
  decide +kernel

end ShellHub.PortForwarding
