import ShellHub.Runes
import ShellHub.Sequences

/-!
# The byte stream of the WebSocket adapter

The adapter turns a WebSocket connection into a stream of bytes. Each `Write` sends one binary
message. `Read` takes a lock, asks for the reader of the next message if it has none, and reads from
it; the end of a message drops the reader and is hidden from the caller, with the bytes that came
with it returned.

Messages arrive whole and in order. A goroutine that has the lock may wait for a message while others
write. How many bytes a reader gives at once, and whether the end of the message comes with the last
of them or in a call of its own, is up to the reader.
-/

namespace ShellHub.AdapterStreams

open Runes (Bytes)
open Sequences

inductive MessageType where
  | text
  | binary
  deriving DecidableEq, Repr

structure Message where
  messageType : MessageType
  payload : Bytes
  deriving DecidableEq, Repr

inductive Error where
  | eof
  | unexpectedMessageType
  | transport
  deriving DecidableEq, Repr

/-- What a call of `Read` has returned: the bytes in its buffer, and its error. -/
structure Returned where
  bytes : Bytes
  error : Option Error
  deriving DecidableEq, Repr

/-- A call of `Write` with what it has reported. -/
structure Written where
  bytes : Bytes
  reported : Nat
  error : Option Error
  deriving DecidableEq, Repr

/-- Both ends of a connection, with what the calls have returned so far. -/
structure Link where
  /-- messages that were sent and not yet opened -/
  messages : List Message
  /-- `reader`: what is left of the message that is being read -/
  reader : Option Bytes
  /-- `readMutex`: the size of the buffer of the call that has the lock -/
  holder : Option Nat
  reads : List Returned
  writes : List Written
  deriving DecidableEq, Repr

inductive Event where
  /-- a call of `Write`, with what the writer of the message returns -/
  | write (bytes : Bytes) (count : Nat) (error : Option Error)
  | lock (size : Nat)
  /-- `NextReader` returns to the call that has the lock -/
  | nextReader (error : Option Error)
  /-- the reader of the message returns to the call that has the lock -/
  | read (count : Nat) (error : Option Error)
  deriving DecidableEq, Repr

namespace Link

def opened : Link := ⟨[], none, none, [], []⟩

/-- The call that has the lock returns. -/
def return_ (link : Link) (bytes : Bytes) (error : Option Error) : Link :=
  { link with holder := none, reads := link.reads ++ [⟨bytes, error⟩] }

def next (link : Link) : Event → Link
  | .write bytes count error =>
    { link with
      messages := link.messages ++ [⟨.binary, bytes.take count⟩]
      writes := link.writes ++ [⟨bytes, count, error⟩] }
  | .lock size => if link.holder = none then { link with holder := some size } else link
  | .nextReader failure =>
    match link.holder, link.reader, failure, link.messages with
    | some _, none, some error, _ => link.return_ [] (some error)
    | some _, none, none, message :: messages =>
      if message.messageType ≠ .binary then
        { link with messages }.return_ [] (some .unexpectedMessageType)
      else { link with messages, reader := some message.payload }
    | _, _, _, _ => link
  | .read count failure =>
    match link.holder, link.reader with
    | some _, some left =>
      { link with reader := if failure = none then some (left.drop count) else none }.return_
        (left.take count) (if failure = some Error.eof then none else failure)
    | _, _ => link

/-- What the reads have returned, in the order in which they took the lock. -/
def taken (link : Link) : Bytes := link.reads.flatMap Returned.bytes

def sent (link : Link) : Bytes := link.writes.flatMap Written.bytes

/-- What was sent and not yet returned. -/
def pending (link : Link) : Bytes :=
  link.reader.getD [] ++ link.messages.flatMap Message.payload

end Link

/-- The transport does not fail. A writer takes all bytes. A reader gives what fits in the buffer
and is left of the message, and reports its end only with or after the last byte. -/
def Intact (link : Link) : Event → Prop
  | .write bytes count error => count = bytes.length ∧ error = none
  | .lock _ => True
  | .nextReader error => error = none
  | .read count error =>
    ∀ size ∈ link.holder, ∀ left ∈ link.reader,
      count ≤ min size left.length ∧ (error = none ∨ error = some .eof ∧ count = left.length)

instance (link : Link) : (event : Event) → Decidable (Intact link event)
  | .write _ _ _ => inferInstanceAs (Decidable (_ ∧ _))
  | .lock _ => .isTrue trivial
  | .nextReader _ => inferInstanceAs (Decidable (_ = _))
  | .read _ _ => inferInstanceAs (Decidable (∀ size ∈ link.holder, ∀ left ∈ link.reader, _))

/-- What is kept: every byte that was sent was returned or is still to come, in order; all messages
are binary; and no call has reported an error or a wrong length. -/
structure Link.Inv (link : Link) : Prop where
  whole : link.taken ++ link.pending = link.sent
  binary : ∀ message ∈ link.messages, message.messageType = .binary
  reads : ∀ read ∈ link.reads, read.error = none
  writes : ∀ write ∈ link.writes, write.reported = write.bytes.length ∧ write.error = none

/-- A message that was written whole is the last one that is pending. -/
theorem Link.Inv.write {link : Link} (inv : link.Inv) (bytes : Bytes) :
    (link.next (.write bytes bytes.length none)).Inv := by
  refine ⟨?_, ?_, inv.reads, ?_⟩
  · have whole := inv.whole
    simp only [Link.next, Link.taken, Link.pending, Link.sent, List.flatMap_append,
      List.flatMap_singleton, List.take_length] at whole ⊢
    rw [← whole]
    simp only [List.append_assoc]
  · exact List.forall_mem_append.mpr ⟨inv.binary, List.forall_mem_singleton.mpr rfl⟩
  · exact List.forall_mem_append.mpr ⟨inv.writes, List.forall_mem_singleton.mpr ⟨rfl, rfl⟩⟩

/-- The next message becomes the one that is read. -/
theorem Link.Inv.nextReader {link : Link} (inv : link.Inv) :
    (link.next (.nextReader none)).Inv := by
  dsimp only [Link.next]
  split
  · contradiction
  · rename_i message messages _ fresh _ waiting
    have binary : message.messageType = .binary := inv.binary message (by simp [waiting])
    rw [if_neg (not_not_intro binary)]
    refine ⟨?_, fun later member => inv.binary later ?_, inv.reads, inv.writes⟩
    · have whole := inv.whole
      simpa [Link.taken, Link.pending, Link.sent, fresh, waiting] using whole
    · rw [waiting]
      exact List.mem_cons_of_mem _ member
  · exact inv

/-- A read takes bytes off the front of what is pending, and hides the end of a message. -/
theorem Link.Inv.read {link : Link} (inv : link.Inv) {count : Nat} {failure : Option Error}
    (intact : Intact link (.read count failure)) : (link.next (.read count failure)).Inv := by
  dsimp only [Link.next]
  split
  · rename_i size left held reading
    obtain ⟨-, ending⟩ := intact size held left reading
    -- the bytes that are not returned stay in the reader, or there are none
    have kept : (if failure = none then some (left.drop count) else none).getD [] =
        left.drop count := by
      rcases ending with rfl | ⟨rfl, rfl⟩ <;> simp
    refine ⟨?_, inv.binary, ?_, inv.writes⟩
    · have whole := inv.whole
      simp only [Link.taken, Link.pending, Link.sent, Link.return_, List.flatMap_append,
        List.flatMap_singleton, kept, reading, Option.getD_some] at whole ⊢
      rw [← whole, List.append_assoc, ← List.append_assoc (List.take _ _), List.take_append_drop]
    · refine List.forall_mem_append.mpr ⟨inv.reads, List.forall_mem_singleton.mpr ?_⟩
      rcases ending with rfl | ⟨rfl, -⟩ <;> rfl
  · exact inv

theorem Link.Inv.next (link : Link) (event : Event) (inv : link.Inv) (intact : Intact link event) :
    (link.next event).Inv := by
  cases event with
  | write bytes count error =>
    obtain ⟨rfl, rfl⟩ := intact
    exact inv.write bytes
  | lock size =>
    dsimp only [Link.next]
    split
    · exact ⟨inv.whole, inv.binary, inv.reads, inv.writes⟩
    · exact inv
  | nextReader failure =>
    obtain rfl : failure = none := intact
    exact inv.nextReader
  | read count failure => exact inv.read intact

/-- At every moment the reads have returned a prefix of what was written, all of it when nothing is
left to read; no read has reported an error or an end of file, and each write has reported its own
length. Each call keeps the bytes read, followed by those on their way, equal to the bytes written.
-/
theorem adapter_transparent (events : List Event) (intact : Along Link.next Intact .opened events) :
    ∀ link ∈ visited Link.next .opened events,
      link.taken <+: link.sent ∧ (link.pending = [] → link.taken = link.sent) ∧
        (∀ read ∈ link.reads, read.error = none) ∧
        ∀ write ∈ link.writes, write.reported = write.bytes.length ∧ write.error = none := by
  have start : Link.opened.Inv := ⟨rfl, by simp [Link.opened], by simp [Link.opened],
    by simp [Link.opened]⟩
  intro link member
  have inv := visited_keeps Link.Inv.next start intact link member
  refine ⟨⟨_, inv.whole⟩, fun done => ?_, inv.reads, inv.writes⟩
  have whole := inv.whole
  rwa [done, List.append_nil] at whole

/-- Two messages around an empty one, read with small buffers; the end of the first comes with its
last byte, that of the others later. -/
def threeMessages : List Event :=
  [.lock 2, .write [1, 2, 3] 3 none, .nextReader none, .read 2 none, .write [] 0 none,
    .lock 2, .read 1 (some .eof), .lock 5, .nextReader none, .read 0 (some .eof),
    .lock 5, .write [4] 1 none, .nextReader none, .read 1 none]

theorem adapter_transparent_three_messages :
    ((visited Link.next .opened threeMessages).getLast?.map Link.reads) =
      some [⟨[1, 2], none⟩, ⟨[3], none⟩, ⟨[], none⟩, ⟨[4], none⟩] ∧
    ∀ link ∈ visited Link.next .opened threeMessages,
      link.taken <+: link.sent ∧ (link.pending = [] → link.taken = link.sent) ∧
        (∀ read ∈ link.reads, read.error = none) ∧
        ∀ write ∈ link.writes, write.reported = write.bytes.length ∧ write.error = none :=
  ⟨by decide +kernel, adapter_transparent threeMessages (by decide +kernel)⟩

end ShellHub.AdapterStreams
