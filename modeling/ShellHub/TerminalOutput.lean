import ShellHub.Runes
import ShellHub.Sequences

/-!
# Forwarding terminal output

`redirToWs` reads the output of a terminal into a buffer and writes it to the browser in frames. A
read may end within a character. The loop therefore looks back from the end of the buffer for a byte
that starts a character, and if no character decodes there it keeps the bytes from there on for the
next round.

For any bytes at all, nothing is dropped or repeated, and the loop stays within its buffer. What it
keeps is written only after a further read, and U+FFFD decodes to the same value as an error, so a
stream that ends with this character loses it.

A reader returns no more bytes than the rest of the buffer has room for. Indices are checked against
the bytes that the buffer holds, which is stricter than a check against its size. A read without a
byte is no round. The reader reports the end of the stream by itself, and writing to the browser does
not fail.
-/

namespace ShellHub.TerminalOutput

open Sequences Runes

/-- The size of `buf`. -/
def bufferSize : Nat := 32 * 1024

/-- The scan for `end`, from one more than its value. If it passes the front of the buffer, `end` is
set to zero. -/
def findEnd (buffer : Bytes) (nr : Nat) : Nat → Option Nat
  | 0 => some 0
  | position + 1 => do
    let byte ← buffer[position]?
    if RuneStart byte then
      let (ch, width) := decodeRune (← slice buffer position buffer.length)
      some (if ch ≠ runeError then position + width else position)
    else if buffer.length - position ≥ 6 then some nr
    else findEnd buffer nr position

/-- A round with the bytes of a read: the bytes for a frame, and those that are carried over. -/
def round (carried read : Bytes) : Option (Bytes × Bytes) := do
  let buffer := carried ++ read
  let cut ← findEnd buffer read.length buffer.length
  let segment ← slice buffer 0 cut
  let rest ← slice buffer cut buffer.length
  some (segment, rest)

/-- The loop between two rounds, with what it has read and taken for frames. -/
structure Forwarding where
  carried : Bytes
  segments : List Bytes
  received : Bytes
  panicked : Bool
  deriving DecidableEq, Repr

namespace Forwarding

def start : Forwarding := ⟨[], [], [], false⟩

def next (forwarding : Forwarding) (read : Bytes) : Forwarding :=
  if read = [] then forwarding
  else
    match round forwarding.carried read with
    | none => { forwarding with received := forwarding.received ++ read, panicked := true }
    | some (segment, rest) =>
      { forwarding with
        carried := rest
        segments := forwarding.segments ++ [segment]
        received := forwarding.received ++ read }

/-- The frames that were written, converted to runes and back. -/
def frames (forwarding : Forwarding) : List Bytes :=
  forwarding.segments.map fun segment => encode (runes segment)

end Forwarding

section Rounds

variable {buffer : Bytes} {nr : Nat}

theorem slice_to_end {position : Nat} (within : position ≤ buffer.length) :
    slice buffer position buffer.length = some (buffer.drop position) := by
  rw [slice, if_pos ⟨within, Nat.le_refl _⟩]
  exact congrArg some (List.take_of_length_le (by simp))

/-- The scan ends within the buffer and leaves six bytes at most. It has five bytes behind it before
it moves on. -/
theorem findEnd_within (fresh : nr ≤ buffer.length) (few : buffer.length - nr ≤ 6) (position : Nat)
    (within : position ≤ buffer.length) (near : buffer.length - position ≤ 5) :
    ∃ cut, findEnd buffer nr position = some cut ∧ cut ≤ buffer.length ∧
      buffer.length - cut ≤ 6 := by
  induction position with
  | zero => exact ⟨0, rfl, Nat.zero_le _, by omega⟩
  | succ position ih =>
    have inside : position < buffer.length := within
    simp only [findEnd, List.getElem?_eq_getElem inside, slice_to_end (Nat.le_of_lt inside),
      Option.bind_eq_bind, Option.bind_some]
    have width := decodeRune_width_le (buffer.drop position)
    rw [List.length_drop] at width
    split
    · refine ⟨_, rfl, ?_, ?_⟩
      · split <;> omega
      · split <;> omega
    split
    · exact ⟨nr, rfl, fresh, few⟩
    · exact ih (Nat.le_of_lt inside) (by omega)

/-- A round splits the buffer. -/
theorem round_of_findEnd {carried read front tail : Bytes} (whole : carried ++ read = front ++ tail)
    (found : findEnd (carried ++ read) read.length (carried ++ read).length = some front.length) :
    round carried read = some (front, tail) := by
  simp only [round, found, Option.bind_eq_bind, Option.bind_some]
  simp [slice, whole]

/-- A round with six carried bytes at most carries six bytes at most. -/
theorem round_within {carried read : Bytes} (few : carried.length ≤ 6) :
    ∃ segment rest, round carried read = some (segment, rest) ∧ segment ++ rest = carried ++ read ∧
      rest.length ≤ 6 := by
  obtain ⟨cut, found, inside, left⟩ := @findEnd_within (carried ++ read) read.length
    (by simp) (by simpa using few) (carried ++ read).length (Nat.le_refl _) (by omega)
  have whole := (List.take_append_drop cut (carried ++ read)).symm
  have length : ((carried ++ read).take cut).length = cut := by
    rw [List.length_take, Nat.min_eq_left inside]
  refine ⟨_, _, round_of_findEnd whole (by rw [found, length]), whole.symm, ?_⟩
  rwa [List.length_drop]

end Rounds

/-- What is kept for any bytes. -/
structure Forwarding.Inv (forwarding : Forwarding) : Prop where
  running : forwarding.panicked = false
  few : forwarding.carried.length ≤ 6
  whole : forwarding.segments.flatten ++ forwarding.carried = forwarding.received

theorem Forwarding.Inv.next {forwarding : Forwarding} (inv : forwarding.Inv) (read : Bytes) :
    (forwarding.next read).Inv := by
  unfold Forwarding.next
  split
  · exact inv
  · obtain ⟨segment, rest, cut, split, few⟩ := @round_within _ read inv.few
    rw [cut]
    refine ⟨inv.running, few, ?_⟩
    rw [← inv.whole]
    simp [split]

/-- For any bytes and any reads, the loop stays within its buffer, carries six bytes at most and
offers the reader a buffer with room; the segments taken for frames, followed by the carried bytes,
are the bytes read so far. Each round keeps the carried bytes few, so that the next read finds room.
-/
theorem forwarding_safe (reads : List Bytes) :
    ∀ forwarding ∈ visited Forwarding.next .start reads, forwarding.panicked = false ∧
      forwarding.carried.length ≤ 6 ∧ 0 < bufferSize - forwarding.carried.length ∧
      forwarding.segments.flatten ++ forwarding.carried = forwarding.received := by
  have start : Forwarding.start.Inv := ⟨rfl, Nat.zero_le _, rfl⟩
  intro forwarding member
  have inv := visited_always Forwarding.Inv (fun _ read inv => inv.next read) start reads forwarding
    member
  have few := inv.few
  exact ⟨inv.running, few, by simp only [bufferSize]; omega, inv.whole⟩

/-- Continuation bytes alone, a character cut in two, and bytes that are no text. -/
def wildReads : List Bytes :=
  [[0x80, 0x80], [0xe2, 0x82], [], [0xac, 0xff], [0x80, 0x80, 0x80, 0x80, 0x80, 0x80]]

theorem forwarding_safe_wild :
    ((visited Forwarding.next .start wildReads).map fun forwarding => forwarding.carried) =
      [[], [0x80, 0x80], [0xe2, 0x82], [0xe2, 0x82], [0xff], [0x80]] ∧
    ∀ forwarding ∈ visited Forwarding.next .start wildReads, forwarding.panicked = false ∧
      forwarding.carried.length ≤ 6 ∧ 0 < bufferSize - forwarding.carried.length ∧
      forwarding.segments.flatten ++ forwarding.carried = forwarding.received :=
  ⟨by decide +kernel, forwarding_safe wildReads⟩

section Texts

variable {nr : Nat}

/-- The scan finds a byte that starts a character behind a few that do not. -/
theorem findEnd_start {front cont : Bytes} {first : UInt8} (starts : RuneStart first)
    (continues : ∀ byte ∈ cont, ¬ RuneStart byte) (few : cont.length ≤ 3) :
    findEnd (front ++ first :: cont) nr (front ++ first :: cont).length =
      some (if (decodeRune (first :: cont)).1 ≠ runeError then
        front.length + (decodeRune (first :: cont)).2 else front.length) := by
  -- the scan has passed all but the first `count` bytes behind the start
  have passed (count : Nat) (within : count ≤ cont.length) :
      findEnd (front ++ first :: cont) nr (front.length + 1 + count) =
        some (if (decodeRune (first :: cont)).1 ≠ runeError then
          front.length + (decodeRune (first :: cont)).2 else front.length) := by
    induction count with
    | zero =>
      have found : (front ++ first :: cont)[front.length]? = some first := by simp
      simp only [findEnd, found, Option.bind_eq_bind, Option.bind_some, if_pos starts,
        slice_to_end (show front.length ≤ (front ++ first :: cont).length by simp), List.drop_left]
    | succ count ih =>
      have inside : count < cont.length := within
      have found : (front ++ first :: cont)[front.length + 1 + count]? = some cont[count] := by
        rw [List.getElem?_append_right (by omega), Nat.add_assoc, Nat.add_sub_cancel_left,
          Nat.add_comm 1, List.getElem?_cons_succ, List.getElem?_eq_getElem inside]
      have close : ¬ (front ++ first :: cont).length - (front.length + 1 + count) ≥ 6 := by
        simp only [List.length_append, List.length_cons]
        omega
      rw [← Nat.add_assoc, findEnd]
      simp only [found, Option.bind_eq_bind, Option.bind_some,
        if_neg (continues _ (List.getElem_mem inside)), if_neg close]
      exact ih (Nat.le_of_lt inside)
  have whole : (front ++ first :: cont).length = front.length + 1 + cont.length := by
    simp only [List.length_append, List.length_cons]
    omega
  rw [whole]
  exact passed cont.length (Nat.le_refl _)

/-- The scan looks at the last character, or the part of one, at the end of the buffer. -/
theorem findEnd_last {front part : Bytes} {char : Char} (within : part <+: encodeRune char)
    (some_ : part ≠ []) :
    findEnd (front ++ part) nr (front ++ part).length =
      some (if (decodeRune part).1 ≠ runeError then front.length + (decodeRune part).2
        else front.length) := by
  obtain ⟨first, rest, shape, starts, continues, few⟩ := encodeRune_shape char
  cases part with
  | nil => exact absurd rfl some_
  | cons byte cont =>
    rw [shape, List.cons_prefix_cons] at within
    obtain ⟨rfl, within⟩ := within
    exact findEnd_start starts (fun byte member => continues byte (within.subset member))
      (Nat.le_trans within.length_le few)

/-- A round whose buffer ends with a character takes the whole buffer, or all but the error rune. -/
theorem round_whole {carried read : Bytes} {init : List Char} {char : Char}
    (buffer : carried ++ read = encode init ++ encodeRune char) :
    round carried read = some (if char = runeError then (encode init, encodeRune char)
      else (encode (init ++ [char]), [])) := by
  have last : (encode [char] : Bytes) = encodeRune char := by simp
  have found := @findEnd_last read.length (encode init) _ char (List.prefix_refl _)
    (by obtain ⟨first, tail, shape, -⟩ := encodeRune_shape char; simp [shape])
  have decoded := decodeRune_encode char []
  rw [List.append_nil] at decoded
  rw [← buffer, decoded] at found
  split
  · rename_i error
    rw [if_neg (not_not_intro error)] at found
    exact round_of_findEnd buffer found
  · rename_i other
    rw [if_pos other, ← String.length_utf8EncodeChar, ← List.length_append] at found
    refine round_of_findEnd ?_ ?_
    · rw [List.append_nil, encode_append, last, buffer]
    · rw [encode_append, last, found]

/-- A round within a text takes some of its characters. When the text is complete it carries nothing
exactly if the text does not end with the error rune. -/
theorem round_text {carried read later : Bytes} {text : List Char} (some_ : read ≠ [])
    (whole : carried ++ read ++ later = encode text) :
    ∃ taken rest kept, text = taken ++ rest ∧ round carried read = some (encode taken, kept) ∧
      kept ++ later = encode rest ∧
      (later = [] → (kept = [] ↔ text.getLast? ≠ some runeError)) := by
  obtain ⟨complete, rest, part, rfl, buffer, shape⟩ := exists_of_prefix_encode ⟨later, whole⟩
  have after : part ++ later = encode rest := by
    rw [buffer, encode_append, List.append_assoc] at whole
    exact List.append_cancel_left whole
  rcases shape with rfl | ⟨char, further, rfl, within, begun, short⟩
  · rw [List.append_nil] at buffer
    rcases List.eq_nil_or_concat complete with rfl | ⟨init, char, rfl⟩
    · simp [some_] at buffer
    have taken := @round_whole carried read init char (by simpa using buffer)
    by_cases error : char = runeError
    · rw [if_pos error] at taken
      refine ⟨init, [char] ++ rest, encodeRune char, by simp, taken, by simp [← after], ?_⟩
      rintro rfl
      rw [List.nil_append, eq_comm, encode_eq_nil] at after
      simp [after, error]
    · rw [if_neg error, ← List.concat_eq_append] at taken
      refine ⟨init.concat char, rest, [], rfl, taken, after, ?_⟩
      rintro rfl
      rw [List.nil_append, eq_comm, encode_eq_nil] at after
      simp [after, error]
  · -- the buffer ends within a character
    have found := @findEnd_last read.length (encode complete) _ char within begun
    rw [← buffer, decodeRune_part within short, if_neg (not_not_intro rfl)] at found
    refine ⟨complete, char :: further, part, rfl, round_of_findEnd buffer found, after, ?_⟩
    rintro rfl
    -- the text would end within a character too
    rw [List.append_nil, encode_cons] at after
    have length := within.length_le
    rw [after, List.length_append] at length
    have empty : encode further = [] := List.eq_nil_of_length_eq_zero (by omega)
    rw [empty, List.append_nil] at after
    exact absurd after short

/-- The rounds over the rest of a text. What is carried at the end is what the frames lack. -/
theorem foldl_text (reads : List Bytes) {forwarding : Forwarding} {text rest : List Char}
    {taken : List (List Char)} (running : forwarding.panicked = false)
    (split : text = taken.flatten ++ rest) (aligned : forwarding.segments = taken.map encode)
    (whole : forwarding.carried ++ reads.flatten = encode rest)
    (ended : reads.flatten = [] → (forwarding.carried = [] ↔ text.getLast? ≠ some runeError)) :
    (reads.foldl Forwarding.next forwarding).panicked = false ∧
      ((reads.foldl Forwarding.next forwarding).frames.flatten = encode text ↔
        text.getLast? ≠ some runeError) := by
  induction reads generalizing forwarding rest taken with
  | nil =>
    rw [List.flatten_nil, List.append_nil] at whole
    have same : forwarding.frames = taken.map encode := by
      simp only [Forwarding.frames, aligned, List.map_map]
      exact List.map_congr_left fun segment _ => congrArg encode (runes_encode segment)
    refine ⟨running, ?_⟩
    rw [← ended rfl, whole, List.foldl_nil, same, split, encode_append, encode_flatten,
      List.self_eq_append_right]
  | cons read later ih =>
    rw [List.foldl_cons]
    by_cases none_ : read = []
    · subst none_
      exact ih (by simpa [Forwarding.next] using running) split
        (by simpa [Forwarding.next] using aligned) (by simpa [Forwarding.next] using whole)
        (by simpa [Forwarding.next] using ended)
    · rw [List.flatten_cons, ← List.append_assoc] at whole
      have filled : rest ≠ [] := by
        rintro rfl
        simp [none_] at whole
      have last : text.getLast? = rest.getLast? := by
        rw [split, List.getLast?_append_of_ne_nil _ filled]
      obtain ⟨segment, further, kept, rfl, cut, left, exactly⟩ := round_text none_ whole
      have moved : forwarding.next read =
          { forwarding with
            carried := kept
            segments := forwarding.segments ++ [encode segment]
            received := forwarding.received ++ read } := by
        rw [Forwarding.next, if_neg none_, cut]
      rw [moved]
      exact @ih _ further (taken ++ [segment]) running (by simp [split])
        (by simp [aligned]) left fun done => last ▸ exactly done

end Texts

/-- A stream of valid UTF-8 reaches the browser, however it is split into reads, if and only if it does
not end with U+FFFD. Every round takes whole characters, so the frames lack exactly what is carried when
the stream ends, and that is the last character if it decodes to the error rune. -/
theorem output_complete (text : List Char) (reads : List Bytes) (whole : reads.flatten = encode text) :
    (reads.foldl Forwarding.next .start).panicked = false ∧
      ((reads.foldl Forwarding.next .start).frames.flatten = encode text ↔
        text.getLast? ≠ some runeError) := by
  refine @foldl_text reads .start text text [] rfl rfl rfl whole fun none => ?_
  rw [whole, encode_eq_nil] at none
  simp [none, Forwarding.start]

/-- A text whose characters are cut, and U+FFFD within it. -/
theorem output_complete_cut :
    (([[0x61, 0xe2], [0x82], [0xac, 0xef, 0xbf, 0xbd], [], [0x7a]] : List Bytes).foldl
      Forwarding.next .start).frames.flatten = encode ['a', '€', '�', 'z'] :=
  (output_complete ['a', '€', '�', 'z'] [[0x61, 0xe2], [0x82], [0xac, 0xef, 0xbf, 0xbd], [], [0x7a]]
    (by decide +kernel)).2.mpr (by decide)

/-- A stream that ends with U+FFFD loses it. -/
theorem output_ends_early :
    ((([[0x61], encodeRune '�'] : List Bytes).foldl Forwarding.next .start).frames.flatten =
      encode ['a']) ∧
    ([[0x61], encodeRune '�'] : List Bytes).flatten = encode ['a', '�'] := by
  decide +kernel

end ShellHub.TerminalOutput
