import ShellHub.JsonValues
import ShellHub.Runes
import ShellHub.Sequences

/-!
# Messages from the browser

The browser sends each message in a frame of its own, as `JSON.stringify` writes it. `ReadMessage`
makes a new decoder for each call, over a reader that ends after a fixed number of bytes, and decodes
one message. The limit is meant to have room for an input of 4096 characters, with four bytes for
each.

A control character without a letter of its own takes six bytes, so that an input of 4096 of them
does not fit. This module proves that every message that fits is returned as it was sent, in order,
however the bytes of a frame are cut; and that any longer message is refused.

A read returns bytes of one frame only. Names of members are compared exactly. The browser sends no
other values than texts, numbers and objects, and no lone surrogates.
-/

namespace ShellHub.TerminalInput

open Sequences Scanners JsonTexts JsonValues
open Runes (Bytes runes runes_encode)

/-- `TermniosMaxLineLength` -/
def termniosMaxLineLength : Nat := 4096

/-- `MessageMinSize` -/
def messageMinSize : Nat := 20

/-- `CharacterSize` -/
def characterSize : Nat := 4

/-- `ReadMessageBufferSize` -/
def readMessageBufferSize : Nat := messageMinSize + termniosMaxLineLength * characterSize

def messageKindInput : Nat := 1
def messageKindResize : Nat := 2
def messageKindSignature : Nat := 3

inductive Data where
  | text (str : List Char)
  | dimensions (cols rows : Nat)
  deriving DecidableEq, Repr

structure Message where
  kind : Nat
  data : Data
  deriving DecidableEq, Repr

inductive Error where
  | jsonInvalid
  | kindInvalid
  | inputTooLong
  deriving DecidableEq, Repr

/-- The fields of `Message` before its data is decoded. -/
structure Envelope where
  kind : Nat
  data : Option Value

/-- A member of the message, with the kind as an unsigned byte and the data kept as it is. -/
def Envelope.fill (envelope : Envelope) (member : Bytes × Value) : Option Envelope :=
  if member.1 = utf8 "kind" then
    match member.2 with
    | .number value => if value < 2 ^ 8 then some { envelope with kind := value } else none
    | _ => none
  else if member.1 = utf8 "data" then some { envelope with data := some member.2 }
  else some envelope

/-- A member of `Dimensions`, whose fields are unsigned integers of 32 bits. -/
def fillDimensions (dimensions : Nat × Nat) (member : Bytes × Value) : Option (Nat × Nat) :=
  if member.1 = utf8 "cols" ∨ member.1 = utf8 "rows" then
    match member.2 with
    | .number value =>
      if value < 2 ^ 32 then
        some (if member.1 = utf8 "cols" then (value, dimensions.2) else (dimensions.1, value))
      else none
    | _ => none
  else some dimensions

/-- `ReadMessage` after the decoder has found an object. -/
def interpret (members : Found) : Except Error Message :=
  match members.foldlM Envelope.fill ⟨0, none⟩ with
  | none => .error .jsonInvalid
  | some envelope =>
    if envelope.kind = messageKindInput then
      match envelope.data with
      | some (.text bytes) =>
        let str := runes bytes
        if str.length > termniosMaxLineLength then .error .inputTooLong
        else .ok ⟨envelope.kind, .text str⟩
      | _ => .error .jsonInvalid
    else if envelope.kind = messageKindResize then
      match envelope.data with
      | some (.object members) =>
        match members.foldlM fillDimensions (0, 0) with
        | some (cols, rows) => .ok ⟨envelope.kind, .dimensions cols rows⟩
        | none => .error .jsonInvalid
      | _ => .error .jsonInvalid
    else if envelope.kind = messageKindSignature then
      match envelope.data with
      | some (.text bytes) => .ok ⟨envelope.kind, .text (runes bytes)⟩
      | _ => .error .jsonInvalid
    else .error .kindInvalid

/-- What the browser sends. -/
inductive Sent where
  | input (str : List Char)
  | resize (cols rows : Nat)
  | signature (str : List Char)
  deriving DecidableEq, Repr

namespace Sent

def message : Sent → Message
  | .input str => ⟨messageKindInput, .text str⟩
  | .resize cols rows => ⟨messageKindResize, .dimensions cols rows⟩
  | .signature str => ⟨messageKindSignature, .text str⟩

/-- The data as a member that reads back. -/
def data : Sent → Member
  | .input str | .signature str =>
    ⟨"data".toList, .text (str.flatMap String.utf8EncodeChar), stringifyText str⟩
  | .resize cols rows =>
    ⟨"data".toList, .object [(utf8 "cols", .number cols), (utf8 "rows", .number rows)],
      stringifyObject [("cols".toList, stringifyNumber cols), ("rows".toList, stringifyNumber rows)]⟩

def members (sent : Sent) : List Member :=
  [⟨"kind".toList, .number sent.message.kind, stringifyNumber sent.message.kind⟩, sent.data]

/-- The bytes of the frame. -/
def stringify (sent : Sent) : Bytes := stringifyObject (sent.members.map Member.written)

/-- An input has at most 4096 characters, and dimensions are integers of 32 bits. -/
def Legal : Sent → Prop
  | .input str => str.length ≤ termniosMaxLineLength
  | .resize cols rows => cols < 2 ^ 32 ∧ rows < 2 ^ 32
  | .signature _ => True

instance : (sent : Sent) → Decidable sent.Legal
  | .input _ => inferInstanceAs (Decidable (_ ≤ _))
  | .resize _ _ => inferInstanceAs (Decidable (_ ∧ _))
  | .signature _ => .isTrue trivial

end Sent

/-! ## Calls of `ReadMessage` -/

structure Conn where
  sent : List Sent
  /-- what is left of the frames that were sent -/
  frames : List Bytes
  /-- the decoder of the call that is under way, with the bytes that its reader still gives -/
  call : Option (Reader × Nat)
  returned : List (Except Error Message)

inductive Event where
  | send (sent : Sent)
  | readMessage
  /-- a read for the decoder, which returns at most one byte more than the given number -/
  | read (size : Nat)
  deriving DecidableEq, Repr

namespace Conn

def opened : Conn := ⟨[], [], none, []⟩

def return_ (conn : Conn) (result : Except Error Message) : Conn :=
  { conn with call := none, returned := conn.returned ++ [result] }

/-- The decoder takes some bytes from the first frame. -/
def take (conn : Conn) (reader : Reader) (left count : Nat) (frame : Bytes) (later : List Bytes) :
    Conn :=
  let conn :=
    { conn with frames := if frame.drop count = [] then later else frame.drop count :: later }
  match feed Reader.step reader (frame.take count) with
  | .pending reader => { conn with call := some (reader, left - count) }
  | .complete members _ => conn.return_ (interpret members)
  | .invalid => conn.return_ (.error .jsonInvalid)

def next (conn : Conn) : Event → Conn
  | .send sent => { conn with sent := conn.sent ++ [sent], frames := conn.frames ++ [sent.stringify] }
  | .readMessage =>
    if conn.call.isSome then conn else { conn with call := some (.initial, readMessageBufferSize) }
  | .read size =>
    match conn.call with
    | none => conn
    | some (reader, left) =>
      -- the limited reader has ended within a value
      if left = 0 then conn.return_ (.error .jsonInvalid)
      else
        match conn.frames with
        | [] => conn
        | frame :: later =>
          conn.take reader left (min (size + 1) (min left frame.length)) frame later

end Conn

/-- The browser sends what is legal and fits in the limit. -/
def Fits (_ : Conn) : Event → Prop
  | .send sent => sent.Legal ∧ sent.stringify.length ≤ readMessageBufferSize
  | _ => True

instance (conn : Conn) : (event : Event) → Decidable (Fits conn event)
  | .send _ => inferInstanceAs (Decidable (_ ∧ _))
  | .readMessage | .read _ => .isTrue trivial

section Messages

variable {sent : Sent}

theorem Sent.reads_data (sent : Sent) : Reads sent.data.value sent.data.bytes := by
  cases sent with
  | input str | signature str => exact reads_text str
  | resize cols rows =>
    refine reads_object ⟨"cols".toList, .number cols, stringifyNumber cols⟩
      [⟨"rows".toList, .number rows, stringifyNumber rows⟩] fun other member => ?_
    rcases List.mem_pair.mp member with rfl | rfl
    · exact reads_number cols
    · exact reads_number rows

/-- The decoder stops at the end of a message, and has found its members. -/
theorem feed_stringify (sent : Sent) :
    feed Reader.step .initial sent.stringify =
      .complete [(utf8 "kind", .number sent.message.kind), (utf8 "data", sent.data.value)] [] := by
  have found := feed_object ⟨"kind".toList, .number sent.message.kind,
    stringifyNumber sent.message.kind⟩ [sent.data] (fun other member => ?_) []
  · rw [List.append_nil] at found
    rw [Sent.stringify, Sent.members, found]
    cases sent <;> rfl
  · rcases List.mem_pair.mp member with rfl | rfl
    · exact reads_number _
    · exact sent.reads_data

/-- A legal message is decoded as what it was. -/
theorem interpret_legal (legal : sent.Legal) :
    interpret [(utf8 "kind", .number sent.message.kind), (utf8 "data", sent.data.value)] =
      .ok sent.message := by
  have differs : utf8 "data" ≠ utf8 "kind" := by decide +kernel
  have rowsDiffer : utf8 "rows" ≠ utf8 "cols" := by decide +kernel
  have text (str : List Char) : runes (str.flatMap String.utf8EncodeChar) = str := runes_encode str
  cases sent with
  | input str =>
    have short : ¬ str.length > termniosMaxLineLength := Nat.not_lt.mpr legal
    simp [interpret, Envelope.fill, differs, Sent.message, Sent.data, messageKindInput, text, short]
  | resize cols rows =>
    obtain ⟨colsFit, rowsFit⟩ : cols < 4294967296 ∧ rows < 4294967296 := legal
    simp [interpret, Envelope.fill, fillDimensions, differs, rowsDiffer, Sent.message, Sent.data,
      messageKindInput, messageKindResize, colsFit, rowsFit]
  | signature str =>
    simp [interpret, Envelope.fill, differs, Sent.message, Sent.data, messageKindInput,
      messageKindResize, messageKindSignature, text]

end Messages

/-- The bytes of the frames, with the first message begun by some bytes that were taken. -/
def Begun (front : Bytes) (frames : List Bytes) : List Sent → Prop
  | [] => front = [] ∧ frames = []
  | sent :: later => ∃ tail, tail ≠ [] ∧ front ++ tail = sent.stringify ∧
      frames = tail :: later.map Sent.stringify

/-- What the decoder of a call has taken. -/
def Decoding (front : Bytes) : Option (Reader × Nat) → Prop
  | none => front = []
  | some (reader, left) => feed Reader.step .initial front = .pending reader ∧
      left + front.length = readMessageBufferSize

/-- What is kept: some messages were returned, and the others are still in the frames, the first of
them begun by the call that is under way. -/
def Conn.Inv (conn : Conn) : Prop :=
  ∃ done todo front, conn.sent = done ++ todo ∧
    conn.returned = done.map (fun sent => .ok sent.message) ∧
    (∀ sent ∈ todo, sent.Legal ∧ sent.stringify.length ≤ readMessageBufferSize) ∧
    Begun front conn.frames todo ∧ Decoding front conn.call

theorem Sent.stringify_ne_nil (sent : Sent) : sent.stringify ≠ [] := List.cons_ne_nil _ _

/-- A decoder takes bytes of the message it has begun. -/
theorem Conn.Inv.take {conn : Conn} {done later : List Sent} {sent : Sent} {front tail : Bytes}
    {reader : Reader} {left count : Nat} (split : conn.sent = done ++ sent :: later)
    (returned : conn.returned = done.map fun sent => .ok sent.message)
    (fits : ∀ other ∈ sent :: later, other.Legal ∧ other.stringify.length ≤ readMessageBufferSize)
    (whole : front ++ tail = sent.stringify)
    (decoding : feed Reader.step .initial front = .pending reader)
    (limited : left + front.length = readMessageBufferSize) (within : count ≤ left)
    (enough : count ≤ tail.length) :
    (conn.take reader left count tail (later.map Sent.stringify)).Inv := by
  have rest (other : Sent) (member : other ∈ later) := fits other (List.mem_cons_of_mem _ member)
  have cut := List.take_append_drop count tail
  unfold Conn.take
  dsimp only
  by_cases last : tail.drop count = []
  · -- the message is complete
    rw [last, List.append_nil] at cut
    have complete := feed_stringify sent
    rw [← whole, feed_pending decoding] at complete
    rw [if_pos last, cut, complete]
    dsimp only
    rw [interpret_legal (fits sent List.mem_cons_self).1]
    refine ⟨done ++ [sent], later, [], by simp [split, Conn.return_], by simp [returned, Conn.return_],
      rest, ?_, rfl⟩
    cases later with
    | nil => exact ⟨rfl, rfl⟩
    | cons next further => exact ⟨next.stringify, next.stringify_ne_nil, rfl, rfl⟩
  · have complete := feed_stringify sent
    rw [← whole, ← cut, ← List.append_assoc] at complete
    obtain ⟨later_, waits⟩ := feed_part complete last
    have goes := waits
    rw [feed_pending decoding] at goes
    rw [if_neg last, goes]
    refine ⟨done, sent :: later, front ++ tail.take count, split, returned, fits,
      ⟨tail.drop count, last, by rw [List.append_assoc, cut, whole], rfl⟩, waits, ?_⟩
    rw [List.length_append, List.length_take, Nat.min_eq_left enough]
    omega

theorem Conn.Inv.next (conn : Conn) (event : Event) (inv : conn.Inv) (fits : Fits conn event) :
    (conn.next event).Inv := by
  obtain ⟨done, todo, front, split, returned, legal, begun, decoding⟩ := inv
  cases event with
  | send sent =>
    refine ⟨done, todo ++ [sent], front, by simp [Conn.next, split], returned, ?_, ?_, decoding⟩
    · exact List.forall_mem_append.mpr ⟨legal, List.forall_mem_singleton.mpr fits⟩
    · cases todo with
      | nil =>
        obtain ⟨rfl, frames⟩ := begun
        exact ⟨sent.stringify, sent.stringify_ne_nil, rfl, by simp [Conn.next, frames]⟩
      | cons first later =>
        obtain ⟨tail, some_, whole, frames⟩ := begun
        exact ⟨tail, some_, whole, by simp [Conn.next, frames]⟩
  | readMessage =>
    dsimp only [Conn.next]
    split
    · exact ⟨done, todo, front, split, returned, legal, begun, decoding⟩
    · rename_i idle
      rw [Option.isSome_iff_ne_none, ne_eq, not_not] at idle
      rw [idle] at decoding
      obtain rfl : front = [] := decoding
      exact ⟨done, todo, [], split, returned, legal, begun, rfl, by simp⟩
  | read size =>
    dsimp only [Conn.next]
    split
    · exact ⟨done, todo, front, split, returned, legal, begun, decoding⟩
    rename_i reader left call
    rw [call] at decoding
    obtain ⟨waits, limited⟩ := decoding
    cases todo with
    | nil =>
      obtain ⟨rfl, frames⟩ := begun
      have some_ : left ≠ 0 := by
        rintro rfl
        cases limited
      rw [if_neg some_, frames]
      exact ⟨done, [], [], split, returned, legal, ⟨rfl, frames⟩, by rw [call]; exact ⟨waits, limited⟩⟩
    | cons sent later =>
      obtain ⟨tail, some_, whole, frames⟩ := begun
      have length := congrArg List.length whole
      have bound := (legal sent List.mem_cons_self).2
      have positive : 0 < tail.length := List.length_pos_iff.mpr some_
      rw [List.length_append] at length
      rw [if_neg (by omega), frames]
      exact Conn.Inv.take split returned legal whole waits limited (by omega) (by omega)

/-- Messages that fit in the limit are returned as they were sent, in order, however their bytes are
cut; and when all bytes of the frames were read, all messages have been returned. Each read keeps
the messages cut into those returned and those whose bytes are left, but for what was read of the
first of these. -/
theorem messages_returned (events : List Event) (fits : Along Conn.next Fits .opened events) :
    ∀ conn ∈ visited Conn.next .opened events, ∃ done todo, conn.sent = done ++ todo ∧
      conn.returned = done.map (fun sent => .ok sent.message) ∧ (conn.frames = [] → todo = []) := by
  have start : Conn.opened.Inv := ⟨[], [], [], rfl, rfl, by simp, ⟨rfl, rfl⟩, rfl⟩
  intro conn member
  obtain ⟨done, todo, front, split, returned, -, begun, -⟩ :=
    visited_keeps Conn.Inv.next start fits conn member
  refine ⟨done, todo, split, returned, fun empty => ?_⟩
  cases todo with
  | nil => rfl
  | cons sent later =>
    obtain ⟨tail, -, -, frames⟩ := begun
    cases empty.symm.trans frames

/-- An input, a resize and a signature, cut within a character and an escape. -/
def threeMessages : List Event :=
  [.send (.input ['€', '\n']), .readMessage, .read 17, .send (.resize 80 24), .read 3, .read 40,
    .send (.signature ['x', '=']), .readMessage, .read 100, .readMessage, .read 0, .read 100]

theorem messages_returned_three :
    ((visited Conn.next .opened threeMessages).getLast?.map fun conn =>
        (conn.frames, conn.returned.map Except.toOption)) =
      some ([], [some ⟨1, .text ['€', '\n']⟩, some ⟨2, .dimensions 80 24⟩,
        some ⟨3, .text ['x', '=']⟩]) ∧
    ∀ conn ∈ visited Conn.next .opened threeMessages, ∃ done todo, conn.sent = done ++ todo ∧
      conn.returned = done.map (fun sent => .ok sent.message) ∧ (conn.frames = [] → todo = []) :=
  ⟨by decide +kernel, messages_returned threeMessages (by decide +kernel)⟩

/-! ## The limit -/

theorem stringify_input_length (str : List Char) :
    (Sent.input str).stringify.length = messageMinSize + (str.flatMap stringifyChar).length := by
  have around : (Sent.input str).stringify =
      utf8 "\x7b\"kind\":1,\"data\":\"" ++ (str.flatMap stringifyChar ++ [quote, closeBrace]) := by
    have opening : utf8 "\x7b\"kind\":1,\"data\":\"" =
        openBrace :: (stringifyText "kind".toList ++ colon :: (stringifyNumber 1 ++ comma ::
          (stringifyText "data".toList ++ [colon, quote]))) := by decide +kernel
    rw [opening]
    simp [Sent.stringify, Sent.members, Sent.data, Sent.message, Member.written, stringifyObject,
      stringifyMembers, stringifyText, messageKindInput]
  have fixed : (utf8 "\x7b\"kind\":1,\"data\":\"").length = 18 := by decide +kernel
  rw [around, List.length_append, List.length_append, fixed]
  simp only [messageMinSize, List.length_cons, List.length_nil]
  omega

/-- A message beyond the limit is refused, whatever it is. -/
theorem too_long_refused {sent : Sent} (long : readMessageBufferSize < sent.stringify.length) :
    ([.send sent, .readMessage, .read readMessageBufferSize, .read 0].foldl Conn.next .opened).returned
      = [.error .jsonInvalid] := by
  have rest : sent.stringify.drop readMessageBufferSize ≠ [] := by
    rw [ne_eq, List.drop_eq_nil_iff]
    omega
  have complete := feed_stringify sent
  rw [← List.take_append_drop readMessageBufferSize sent.stringify] at complete
  obtain ⟨reader, waits⟩ := feed_part complete rest
  have count : min readMessageBufferSize sent.stringify.length = readMessageBufferSize :=
    Nat.min_eq_left (Nat.le_of_lt long)
  have some_ : readMessageBufferSize ≠ 0 := by decide
  simp [Conn.next, Conn.opened, Conn.take, Conn.return_, some_, count, waits]

/-- An input of 4096 control characters is legal, and is refused. -/
theorem control_characters_refused :
    (Sent.input (List.replicate 4096 '\x01')).Legal ∧
    ([.send (.input (List.replicate 4096 '\x01')), .readMessage, .read readMessageBufferSize,
      .read 0].foldl Conn.next .opened).returned = [.error .jsonInvalid] := by
  refine ⟨Nat.le_of_eq List.length_replicate, too_long_refused ?_⟩
  decide +kernel

end ShellHub.TerminalInput
