import Mathlib.Data.Nat.Digits.Defs
import Mathlib.Data.Nat.Digits.Lemmas
import ShellHub.JsonTexts

/-!
# JSON objects in a stream

The scanner reads an object whose values are texts, unsigned integers and objects again, byte by
byte. It keeps the members that it has found and the objects that enclose the present one, and is
complete with the brace that closes the outermost object. An integer ends with the byte after it, so
that byte is read as what follows a member.

The encoder writes texts as `JSON.stringify` does: it escapes quotes, backslashes and control
characters, the latter by a letter where there is one, and nothing else. Whatever reads back as a
value may be a member of an object, which then reads back too.
-/

namespace ShellHub.JsonValues

open Scanners JsonTexts
open Runes (Bytes)

inductive Value where
  | number (value : Nat)
  | text (bytes : Bytes)
  | object (members : List (Bytes × Value))

/-- Where a scanner is in an object. -/
inductive Phase where
  | start
  | first
  | key (text : Text)
  | colon (name : Bytes)
  | value (name : Bytes)
  | text (name : Bytes) (text : Text)
  | number (name : Bytes) (value : Nat)
  | next
  | more

/-- The enclosing objects, each with the name of the member that is being read, and the members of
the present one. -/
structure Reader where
  above : List (List (Bytes × Value) × Bytes)
  members : List (Bytes × Value)
  phase : Phase

abbrev Found := List (Bytes × Value)

namespace Reader

def initial : Reader := ⟨[], [], .start⟩

/-- Outside of texts a scanner waits for one of some bytes, and skips blanks. -/
def await (reader : Reader) (byte expected : UInt8) (phase : Phase) : Step Reader Found :=
  if byte = expected then .more { reader with phase }
  else if byte = 0x20 ∨ byte = 0x09 ∨ byte = 0x0a ∨ byte = 0x0d then .more reader else .invalid

/-- A brace closes the present object. -/
def close (reader : Reader) : Step Reader Found :=
  match reader.above with
  | [] => .done reader.members
  | (members, name) :: above =>
    .more ⟨above, members ++ [(name, .object reader.members)], .next⟩

/-- The byte after a member. -/
def after (reader : Reader) (byte : UInt8) : Step Reader Found :=
  if byte = closeBrace then reader.close else reader.await byte comma .more

def digitValue (byte : UInt8) : Option Nat :=
  if 0x30 ≤ byte.toNat ∧ byte.toNat ≤ 0x39 then some (byte.toNat - 0x30) else none

def step (reader : Reader) (byte : UInt8) : Step Reader Found :=
  match reader.phase with
  | .start => reader.await byte openBrace .first
  | .first =>
    if byte = closeBrace then reader.close else reader.await byte quote (.key ⟨[], .plain⟩)
  | .key text =>
    (text.step byte).nest (fun text => { reader with phase := .key text })
      (fun name => { reader with phase := .colon name })
  | .colon name => reader.await byte colon (.value name)
  | .value name =>
    if byte = openBrace then .more ⟨(reader.members, name) :: reader.above, [], .first⟩
    else
      match digitValue byte with
      | some digit => .more { reader with phase := .number name digit }
      | none => reader.await byte quote (.text name ⟨[], .plain⟩)
  | .text name text =>
    (text.step byte).nest (fun text => { reader with phase := .text name text })
      (fun value => { reader with members := reader.members ++ [(name, .text value)], phase := .next })
  | .number name value =>
    match digitValue byte with
    | some digit =>
      -- a number has no leading zero
      if value = 0 then .invalid
      else .more { reader with phase := .number name (value * 10 + digit) }
    | none =>
      Reader.after
        { reader with members := reader.members ++ [(name, .number value)], phase := .next } byte
  | .next => reader.after byte
  | .more => reader.await byte quote (.key ⟨[], .plain⟩)

end Reader

/-! ## The encoder -/

/-- A character within a text of `JSON.stringify`. -/
def stringifyChar (char : Char) : Bytes :=
  match escapeLetter char.toNat with
  | some letter => [backslash, letter]
  | none =>
    if char.toNat < 0x20 then unicodeEscape char.toNat else String.utf8EncodeChar char

def stringifyText (text : List Char) : Bytes := quote :: (text.flatMap stringifyChar ++ [quote])

def digitByte (digit : Nat) : UInt8 := (0x30 + digit).toUInt8

def stringifyNumber (value : Nat) : Bytes :=
  if value = 0 then [digitByte 0] else (Nat.digits 10 value).reverse.map digitByte

/-- Members with their values already encoded. -/
def stringifyMembers : List (List Char × Bytes) → Bytes
  | [] => []
  | [(name, value)] => stringifyText name ++ colon :: value
  | (name, value) :: next :: rest =>
    stringifyText name ++ colon :: (value ++ comma :: stringifyMembers (next :: rest))

def stringifyObject (members : List (List Char × Bytes)) : Bytes :=
  openBrace :: (stringifyMembers members ++ [closeBrace])

/-! ## Reading back -/

section Reading

variable (above : List (Found × Bytes)) (members : Found) (name : Bytes)

/-- The scanner reads a value from some bytes if a comma or a brace follows. -/
def Reads (value : Value) (bytes : Bytes) : Prop :=
  ∀ above members name byte rest, byte = comma ∨ byte = closeBrace →
    feed Reader.step ⟨above, members, .value name⟩ (bytes ++ byte :: rest) =
      feed Reader.step ⟨above, members ++ [(name, value)], .next⟩ (byte :: rest)

theorem feed_stringifyChar (bytes : Bytes) (char : Char) :
    feed Text.step ⟨bytes, .plain⟩ (stringifyChar char) =
      .pending ⟨bytes ++ String.utf8EncodeChar char, .plain⟩ := by
  unfold stringifyChar
  cases letter : escapeLetter char.toNat with
  | some byte => exact feed_letter bytes letter
  | none =>
    dsimp only
    split
    · exact feed_code bytes (by omega)
    · exact feed_plain bytes (utf8_harmless letter (by omega))

theorem reads_text (text : List Char) :
    Reads (.text (text.flatMap String.utf8EncodeChar)) (stringifyText text) := by
  intro above members name byte rest _
  have opens : Reader.step ⟨above, members, .value name⟩ quote =
      .more ⟨above, members, .text name ⟨[], .plain⟩⟩ := rfl
  have nested := @feed_nested UInt8 Reader _ Text _ Reader.step Text.step
    (fun text => ⟨above, members, .text name text⟩)
    (fun value => ⟨above, members ++ [(name, .text value)], .next⟩) (fun _ _ => rfl) _ _ _ _
    (feed_encoded [] feed_stringifyChar text (byte :: rest))
  rw [stringifyText, List.cons_append, List.append_assoc, feed_more opens]
  exact nested

theorem digitValue_digitByte : ∀ digit < 10, Reader.digitValue (digitByte digit) = some digit := by
  decide

theorem digitByte_ne : ∀ digit < 10, digitByte digit ≠ openBrace := by decide

/-- The digits after the first. -/
theorem feed_digits (digits : List Nat) (small : ∀ digit ∈ digits, digit < 10) {value : Nat}
    (positive : 0 < value) (rest : Bytes) :
    feed Reader.step ⟨above, members, .number name value⟩ (digits.map digitByte ++ rest) =
      feed Reader.step
        ⟨above, members, .number name (digits.foldl (fun value digit => value * 10 + digit) value)⟩
        rest := by
  induction digits generalizing value with
  | nil => rfl
  | cons digit further ih =>
    have moves : Reader.step ⟨above, members, .number name value⟩ (digitByte digit) =
        .more ⟨above, members, .number name (value * 10 + digit)⟩ := by
      simp [Reader.step, digitValue_digitByte digit (small digit List.mem_cons_self),
        Nat.ne_of_gt positive]
    rw [List.map_cons, List.cons_append, feed_more moves,
      ih (fun other member => small other (List.mem_cons_of_mem _ member))
        (by omega), List.foldl_cons]

theorem feed_first_digit {digit : Nat} (small : digit < 10) (rest : Bytes) :
    feed Reader.step ⟨above, members, .value name⟩ (digitByte digit :: rest) =
      feed Reader.step ⟨above, members, .number name digit⟩ rest := by
  refine feed_more ?_ rest
  simp [Reader.step, digitByte_ne digit small, digitValue_digitByte digit small]

theorem feed_number_end {byte : UInt8} (ends : byte = comma ∨ byte = closeBrace) (value : Nat)
    (rest : Bytes) :
    feed Reader.step ⟨above, members, .number name value⟩ (byte :: rest) =
      feed Reader.step ⟨above, members ++ [(name, .number value)], .next⟩ (byte :: rest) := by
  have same : Reader.step ⟨above, members, .number name value⟩ byte =
      Reader.step ⟨above, members ++ [(name, .number value)], .next⟩ byte := by
    rcases ends with rfl | rfl <;> rfl
  simp only [feed, same]

theorem reads_number (value : Nat) : Reads (.number value) (stringifyNumber value) := by
  intro above members name byte rest ends
  unfold stringifyNumber
  split
  · rename_i zero
    rw [List.singleton_append, feed_first_digit _ _ _ (by decide), feed_number_end _ _ _ ends, zero]
  · rename_i positive
    -- the digits from the first one on
    cases digits : (Nat.digits 10 value).reverse with
    | nil => exact absurd (Nat.digits_eq_nil_iff_eq_zero.mp (by simpa using digits)) positive
    | cons first further =>
      have small (digit : Nat) (member : digit ∈ first :: further) : digit < 10 := by
        rw [← digits, List.mem_reverse] at member
        exact Nat.digits_lt_base (by decide) member
      have leading : 0 < first := by
        have last := Nat.getLast_digit_ne_zero 10 positive
        rw [List.getLast_eq_head_reverse] at last
        simp only [digits, List.head_cons] at last
        omega
      have whole : further.foldl (fun value digit => value * 10 + digit) first = value := by
        have sum := Nat.ofDigits_digits 10 value
        rw [Nat.ofDigits_eq_foldr, ← List.foldl_reverse, digits, List.foldl_cons] at sum
        simpa [Nat.mul_comm, Nat.add_comm] using sum
      rw [List.map_cons, List.cons_append,
        feed_first_digit _ _ _ (small first List.mem_cons_self),
        feed_digits _ _ _ further (fun digit member => small digit (List.mem_cons_of_mem _ member))
          leading, whole, feed_number_end _ _ _ ends]

/-- A member to be read: its name, its value, and the bytes of the value. -/
structure Member where
  name : List Char
  value : Value
  bytes : Bytes

def Member.written (member : Member) : List Char × Bytes := (member.name, member.bytes)

def Member.found (member : Member) : Bytes × Value :=
  (member.name.flatMap String.utf8EncodeChar, member.value)

/-- The scanner reads the members of an object up to its closing brace. -/
theorem feed_members (member : Member) (further : List Member)
    (sound : ∀ other ∈ member :: further, Reads other.value other.bytes) (rest : Bytes) :
    feed Reader.step ⟨above, members, .more⟩
        (stringifyMembers ((member :: further).map Member.written) ++ closeBrace :: rest) =
      feed Reader.step ⟨above, members ++ (member :: further).map Member.found, .next⟩
        (closeBrace :: rest) := by
  -- one member, with what follows it
  have single (members : Found) (member : Member) (reads : Reads member.value member.bytes)
      (byte : UInt8) (ends : byte = comma ∨ byte = closeBrace) (after : Bytes) :
      feed Reader.step ⟨above, members, .more⟩
          (stringifyText member.name ++ colon :: (member.bytes ++ byte :: after)) =
        feed Reader.step ⟨above, members ++ [member.found], .next⟩ (byte :: after) := by
    have opens : Reader.step ⟨above, members, .more⟩ quote =
        .more ⟨above, members, .key ⟨[], .plain⟩⟩ := rfl
    have named := @feed_nested UInt8 Reader _ Text _ Reader.step Text.step
      (fun text => ⟨above, members, .key text⟩) (fun name => ⟨above, members, .colon name⟩)
      (fun _ _ => rfl) _ _ _ _
      (feed_encoded [] feed_stringifyChar member.name (colon :: (member.bytes ++ byte :: after)))
    have separates (name : Bytes) : Reader.step ⟨above, members, .colon name⟩ colon =
        .more ⟨above, members, .value name⟩ := rfl
    calc
      _ = feed Reader.step ⟨above, members, .key ⟨[], .plain⟩⟩ (member.name.flatMap stringifyChar ++
            quote :: colon :: (member.bytes ++ byte :: after)) := by
          rw [stringifyText, List.cons_append, List.append_assoc, feed_more opens]
          rfl
      _ = feed Reader.step ⟨above, members, .colon (member.name.flatMap String.utf8EncodeChar)⟩
            (colon :: (member.bytes ++ byte :: after)) := named
      _ = feed Reader.step ⟨above, members, .value (member.name.flatMap String.utf8EncodeChar)⟩
            (member.bytes ++ byte :: after) := feed_more (separates _) _
      _ = _ := reads above members _ byte after ends
  induction further generalizing members member with
  | nil =>
    simpa [stringifyMembers, Member.written] using
      single members member (sound member List.mem_cons_self) closeBrace (.inr rfl) rest
  | cons next others ih =>
    have separates : Reader.step ⟨above, members ++ [member.found], .next⟩ comma =
        .more ⟨above, members ++ [member.found], .more⟩ := rfl
    have first := single members member (sound member List.mem_cons_self) comma (.inl rfl)
      (stringifyMembers ((next :: others).map Member.written) ++ closeBrace :: rest)
    rw [feed_more separates, ih (members ++ [member.found]) next
      fun other found => sound other (List.mem_cons_of_mem _ found)] at first
    simpa [stringifyMembers, Member.written] using first

/-- The first member of an object is read as any other. -/
theorem feed_first (member : Member) (further : List Member)
    (sound : ∀ other ∈ member :: further, Reads other.value other.bytes) (rest : Bytes) :
    feed Reader.step ⟨above, [], .first⟩
        (stringifyMembers ((member :: further).map Member.written) ++ closeBrace :: rest) =
      feed Reader.step ⟨above, (member :: further).map Member.found, .next⟩ (closeBrace :: rest) := by
  have starts : ∃ after, stringifyMembers ((member :: further).map Member.written) ++
      closeBrace :: rest = quote :: after := by
    cases further with
    | nil | cons => exact ⟨_, rfl⟩
  obtain ⟨after, starts⟩ := starts
  have same : feed Reader.step ⟨above, [], .first⟩ (quote :: after) =
      feed Reader.step ⟨above, [], .more⟩ (quote :: after) := rfl
  have read := feed_members above [] member further sound rest
  rw [starts] at read ⊢
  rw [same, read, List.nil_append]

theorem reads_object (member : Member) (further : List Member)
    (sound : ∀ other ∈ member :: further, Reads other.value other.bytes) :
    Reads (.object ((member :: further).map Member.found))
      (stringifyObject ((member :: further).map Member.written)) := by
  intro above members name byte rest _
  have opens : Reader.step ⟨above, members, .value name⟩ openBrace =
      .more ⟨(members, name) :: above, [], .first⟩ := rfl
  have closes (found : Found) : Reader.step ⟨(members, name) :: above, found, .next⟩ closeBrace =
      .more ⟨above, members ++ [(name, .object found)], .next⟩ := rfl
  rw [stringifyObject, List.cons_append, feed_more opens, List.append_assoc, List.singleton_append,
    feed_first _ member further sound, feed_more (closes _)]

/-- The scanner stops at the end of an encoded object, and has found its members. -/
theorem feed_object (member : Member) (further : List Member)
    (sound : ∀ other ∈ member :: further, Reads other.value other.bytes) (rest : Bytes) :
    feed Reader.step .initial (stringifyObject ((member :: further).map Member.written) ++ rest) =
      .complete ((member :: further).map Member.found) rest := by
  have opens : Reader.step .initial openBrace = .more ⟨[], [], .first⟩ := rfl
  rw [stringifyObject, List.cons_append, feed_more opens, List.append_assoc, List.singleton_append,
    feed_first _ member further sound]
  exact feed_done rfl rest

end Reading

end ShellHub.JsonValues
