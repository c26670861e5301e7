import Mathlib.Data.List.Basic
import ShellHub.Runes
import ShellHub.Scanners

/-!
# JSON objects of texts in a stream

The encoder writes an object whose members are texts, escaped as far as JSON and HTML want it. The
scanner reads the same part of JSON byte by byte and knows with the closing brace that the object is
complete, without a look at the byte after it. Whatever the members are, it stops exactly at the end
of what was encoded and finds the members again.

Texts are Unicode and are carried as UTF-8. The scanner refuses values that are no texts, and
escaped surrogates, which the encoder never writes.
-/

namespace ShellHub.JsonTexts

open Runes (Bytes)
open Scanners

/-- The bytes of a text. -/
def utf8 (text : String) : Bytes := text.toList.flatMap String.utf8EncodeChar

def quote : UInt8 := 0x22
def backslash : UInt8 := 0x5c
def colon : UInt8 := 0x3a
def comma : UInt8 := 0x2c
def openBrace : UInt8 := 0x7b
def closeBrace : UInt8 := 0x7d
def newline : UInt8 := 0x0a

/-! ## The encoder -/

def hexDigit (value : Nat) : UInt8 :=
  if value < 10 then (0x30 + value).toUInt8 else (0x57 + value).toUInt8

/-- The escape of a code point by four digits. -/
def unicodeEscape (code : Nat) : Bytes :=
  [backslash, 0x75, hexDigit (code / 4096 % 16), hexDigit (code / 256 % 16),
    hexDigit (code / 16 % 16), hexDigit (code % 16)]

/-- The letter that stands for a code point after a backslash. -/
def escapeLetter : Nat → Option UInt8
  | 0x22 => some quote
  | 0x5c => some backslash
  | 0x08 => some 0x62
  | 0x0c => some 0x66
  | 0x0a => some 0x6e
  | 0x0d => some 0x72
  | 0x09 => some 0x74
  | _ => none

/-- The other code points that are escaped: control characters, those with a meaning in HTML, and
two line separators. -/
def Escaped (code : Nat) : Prop :=
  code < 0x20 ∨ code = 0x3c ∨ code = 0x3e ∨ code = 0x26 ∨ code = 0x2028 ∨ code = 0x2029

instance (code : Nat) : Decidable (Escaped code) := by
  unfold Escaped
  infer_instance

def escape (char : Char) : Bytes :=
  match escapeLetter char.toNat with
  | some letter => [backslash, letter]
  | none =>
    if Escaped char.toNat then unicodeEscape char.toNat else String.utf8EncodeChar char

def encodeText (text : String) : Bytes := quote :: (text.toList.flatMap escape ++ [quote])

def encodeMember (member : String × String) : Bytes :=
  encodeText member.1 ++ colon :: encodeText member.2

def encodeMembers : List (String × String) → Bytes
  | [] => []
  | [member] => encodeMember member
  | member :: next :: rest => encodeMember member ++ comma :: encodeMembers (next :: rest)

/-- An object of texts, with its members in the given order. -/
def encode (members : List (String × String)) : Bytes :=
  openBrace :: (encodeMembers members ++ [closeBrace])

/-! ## The scanner of texts -/

def hexValue (digit : UInt8) : Option Nat :=
  let code := digit.toNat
  if 0x30 ≤ code ∧ code ≤ 0x39 then some (code - 0x30)
  else if 0x61 ≤ code ∧ code ≤ 0x66 then some (code - 0x57)
  else if 0x41 ≤ code ∧ code ≤ 0x46 then some (code - 0x37)
  else none

/-- The byte that a letter stands for after a backslash. -/
def letterByte (letter : UInt8) : Option UInt8 :=
  if letter = quote then some quote
  else if letter = backslash then some backslash
  else if letter = 0x2f then some 0x2f
  else if letter = 0x62 then some 0x08
  else if letter = 0x66 then some 0x0c
  else if letter = 0x6e then some 0x0a
  else if letter = 0x72 then some 0x0d
  else if letter = 0x74 then some 0x09
  else none

/-- Where a scanner is in a text. -/
inductive Reading where
  | plain
  | escaped
  | digits (left code : Nat)
  deriving DecidableEq, Repr

/-- The bytes of a text so far. -/
structure Text where
  bytes : Bytes
  reading : Reading
  deriving DecidableEq, Repr

/-- The code point of an escape with four digits. -/
def Text.add (text : Text) (code : Nat) : Step Text Bytes :=
  if code.isValidChar then
    .more ⟨text.bytes ++ String.utf8EncodeChar (Char.ofNat code), .plain⟩
  else .invalid

def Text.step (text : Text) (byte : UInt8) : Step Text Bytes :=
  match text.reading with
  | .plain =>
    if byte = quote then .done text.bytes
    else if byte = backslash then .more { text with reading := .escaped }
    else if byte < 0x20 then .invalid
    else .more { text with bytes := text.bytes ++ [byte] }
  | .escaped =>
    if byte = 0x75 then .more { text with reading := .digits 3 0 }
    else
      match letterByte byte with
      | some plain => .more ⟨text.bytes ++ [plain], .plain⟩
      | none => .invalid
  | .digits left code =>
    match hexValue byte with
    | none => .invalid
    | some value =>
      match left with
      | 0 => text.add (code * 16 + value)
      | left + 1 => .more { text with reading := .digits left (code * 16 + value) }

section Texts

variable (bytes : Bytes)

/-- Bytes without a meaning of their own. -/
theorem feed_plain {plain : Bytes}
    (harmless : ∀ byte ∈ plain, byte ≠ quote ∧ byte ≠ backslash ∧ ¬ byte < 0x20) :
    feed Text.step ⟨bytes, .plain⟩ plain = .pending ⟨bytes ++ plain, .plain⟩ := by
  induction plain generalizing bytes with
  | nil => rw [feed_nil, List.append_nil]
  | cons byte rest ih =>
    obtain ⟨noQuote, noBackslash, printable⟩ := harmless byte List.mem_cons_self
    have moves : Text.step ⟨bytes, .plain⟩ byte = .more ⟨bytes ++ [byte], .plain⟩ := by
      simp only [Text.step, if_neg noQuote, if_neg noBackslash, if_neg printable]
    rw [feed_more moves, ih (bytes ++ [byte])
      fun other member => harmless other (List.mem_cons_of_mem _ member)]
    simp

theorem hexValue_hexDigit : ∀ value < 16, hexValue (hexDigit value) = some value := by decide

/-- An escape with four digits. -/
theorem feed_unicodeEscape {code : Nat} (small : code < 65536) (valid : code.isValidChar) :
    feed Text.step ⟨bytes, .plain⟩ (unicodeEscape code) =
      .pending ⟨bytes ++ String.utf8EncodeChar (Char.ofNat code), .plain⟩ := by
  have digit (value : Nat) : hexValue (hexDigit (value % 16)) = some (value % 16) :=
    hexValue_hexDigit _ (Nat.mod_lt _ (by decide))
  have whole : (((0 * 16 + code / 4096 % 16) * 16 + code / 256 % 16) * 16 + code / 16 % 16) * 16 +
      code % 16 = code := by omega
  have opens : Text.step ⟨bytes, .plain⟩ backslash = .more ⟨bytes, .escaped⟩ := rfl
  have counts : Text.step ⟨bytes, .escaped⟩ 0x75 = .more ⟨bytes, .digits 3 0⟩ := rfl
  have ends (reading : Reading) : Text.add ⟨bytes, reading⟩ code =
      .more ⟨bytes ++ String.utf8EncodeChar (Char.ofNat code), .plain⟩ := if_pos valid
  rw [unicodeEscape, feed_more opens, feed_more counts]
  simp only [feed, Text.step, digit, whole, ends]

theorem utf8_ascii {char : Char} (ascii : char.toNat ≤ 0x7f) :
    String.utf8EncodeChar char = [char.toNat.toUInt8] := by
  exact if_pos ascii

/-- The bytes of a character beyond ASCII. -/
theorem utf8_beyond {char : Char} (beyond : ¬ char.toNat ≤ 0x7f) :
    ∀ byte ∈ String.utf8EncodeChar char, 0x80 ≤ byte.toNat := by
  have high (value offset : Nat) (bound : value + offset < 256) (least : 128 ≤ offset) :
      0x80 ≤ (UInt8.ofNat (value + offset)).toNat := by
    rw [UInt8.toNat_ofNat_of_lt' (by simp only [UInt8.size]; omega)]
    omega
  have far : ¬ char.val.toNat ≤ 0x7f := beyond
  unfold String.utf8EncodeChar
  dsimp only
  rw [if_neg far]
  intro byte member
  split at member
  · rcases List.mem_pair.mp member with rfl | rfl
    · exact high _ _ (by omega) (by omega)
    · exact high _ _ (by omega) (by omega)
  · split at member
    · rcases List.mem_cons.mp member with rfl | rest
      · exact high _ _ (by omega) (by omega)
      · rcases List.mem_pair.mp rest with rfl | rfl
        · exact high _ _ (by omega) (by omega)
        · exact high _ _ (by omega) (by omega)
    · rcases List.mem_cons.mp member with rfl | rest
      · exact high _ _ (by omega) (by omega)
      · rcases List.mem_cons.mp rest with rfl | rest
        · exact high _ _ (by omega) (by omega)
        · rcases List.mem_pair.mp rest with rfl | rfl
          · exact high _ _ (by omega) (by omega)
          · exact high _ _ (by omega) (by omega)

/-- A character that needs no escape has no byte with a meaning of its own. -/
theorem utf8_harmless {char : Char} (noLetter : escapeLetter char.toNat = none)
    (printable : 0x20 ≤ char.toNat) :
    ∀ byte ∈ String.utf8EncodeChar char, byte ≠ quote ∧ byte ≠ backslash ∧ ¬ byte < 0x20 := by
  intro byte member
  have code : 0x20 ≤ byte.toNat ∧ byte.toNat ≠ 0x22 ∧ byte.toNat ≠ 0x5c := by
    by_cases ascii : char.toNat ≤ 0x7f
    · rw [utf8_ascii ascii, List.mem_singleton] at member
      have same : byte.toNat = char.toNat := by
        rw [member]
        exact UInt8.toNat_ofNat_of_lt' (by simp only [UInt8.size]; omega)
      rw [same]
      refine ⟨printable, ?_, ?_⟩
      · intro equal
        rw [equal] at noLetter
        cases noLetter
      · intro equal
        rw [equal] at noLetter
        cases noLetter
    · have := utf8_beyond ascii byte member
      omega
  refine ⟨?_, ?_, ?_⟩
  · rintro rfl
    exact code.2.1 rfl
  · rintro rfl
    exact code.2.2 rfl
  · rw [UInt8.lt_iff_toNat_lt]
    exact Nat.not_lt.mpr code.1

/-- The scanner reads back a character that a letter stands for. -/
theorem feed_letter {char : Char} {letter : UInt8} (found : escapeLetter char.toNat = some letter) :
    feed Text.step ⟨bytes, .plain⟩ [backslash, letter] =
      .pending ⟨bytes ++ String.utf8EncodeChar char, .plain⟩ := by
  unfold escapeLetter at found
  split at found
  all_goals cases found
  all_goals
    rename_i code
    rw [utf8_ascii (by omega), code]
    rfl

/-- The scanner reads back a character that is escaped by its code point. -/
theorem feed_code {char : Char} (small : char.toNat < 65536) :
    feed Text.step ⟨bytes, .plain⟩ (unicodeEscape char.toNat) =
      .pending ⟨bytes ++ String.utf8EncodeChar char, .plain⟩ := by
  have same := feed_unicodeEscape bytes small char.valid
  rwa [Char.ofNat_toNat] at same

/-- The scanner reads back an escaped character. -/
theorem feed_escape (char : Char) :
    feed Text.step ⟨bytes, .plain⟩ (escape char) =
      .pending ⟨bytes ++ String.utf8EncodeChar char, .plain⟩ := by
  unfold escape
  cases letter : escapeLetter char.toNat with
  | some byte => exact feed_letter bytes letter
  | none =>
    dsimp only
    split
    · rename_i escaped
      refine feed_code bytes ?_
      unfold Escaped at escaped
      omega
    · rename_i unescaped
      have printable : 0x20 ≤ char.toNat := by
        by_contra small
        exact unescaped (.inl (by omega))
      exact feed_plain bytes (utf8_harmless letter printable)

/-- The scanner reads back a text up to its closing quote, if it reads back each character. -/
theorem feed_encoded {encode : Char → Bytes}
    (each : ∀ bytes char, feed Text.step ⟨bytes, .plain⟩ (encode char) =
      .pending ⟨bytes ++ String.utf8EncodeChar char, .plain⟩) (text : List Char) (rest : Bytes) :
    feed Text.step ⟨bytes, .plain⟩ (text.flatMap encode ++ quote :: rest) =
      .complete (bytes ++ text.flatMap String.utf8EncodeChar) rest := by
  induction text generalizing bytes with
  | nil =>
    have ends : Text.step ⟨bytes, .plain⟩ quote = .done bytes := rfl
    rw [List.flatMap_nil, List.flatMap_nil, List.nil_append, List.append_nil, feed_done ends]
  | cons char further ih =>
    rw [List.flatMap_cons, List.append_assoc, feed_pending (each bytes char), ih,
      List.flatMap_cons, List.append_assoc]

end Texts

/-! ## The scanner of objects -/

/-- Where a scanner is in an object. -/
inductive Phase where
  | start
  | first
  | key (text : Text)
  | colon (name : Bytes)
  | opening (name : Bytes)
  | value (name : Bytes) (text : Text)
  | next
  | more
  deriving DecidableEq, Repr

/-- The members of an object so far. -/
structure Object where
  members : List (Bytes × Bytes)
  phase : Phase
  deriving DecidableEq, Repr

def Object.initial : Object := ⟨[], .start⟩

/-- Outside of texts a scanner waits for one of some bytes, and skips blanks. -/
def Object.await (object : Object) (byte : UInt8) (expected : List (UInt8 × Phase)) :
    Step Object (List (Bytes × Bytes)) :=
  match expected.lookup byte with
  | some phase => .more { object with phase }
  | none =>
    if byte = 0x20 ∨ byte = 0x09 ∨ byte = 0x0a ∨ byte = 0x0d then .more object else .invalid

def Object.step (object : Object) (byte : UInt8) : Step Object (List (Bytes × Bytes)) :=
  match object.phase with
  | .start => object.await byte [(openBrace, .first)]
  | .first =>
    if byte = closeBrace then .done object.members
    else object.await byte [(quote, .key ⟨[], .plain⟩)]
  | .key text =>
    (text.step byte).nest (fun text => { object with phase := .key text })
      (fun name => { object with phase := .colon name })
  | .colon name => object.await byte [(JsonTexts.colon, .opening name)]
  | .opening name => object.await byte [(quote, .value name ⟨[], .plain⟩)]
  | .value name text =>
    (text.step byte).nest (fun text => { object with phase := .value name text })
      (fun value => ⟨object.members ++ [(name, value)], .next⟩)
  | .next =>
    if byte = closeBrace then .done object.members else object.await byte [(comma, .more)]
  | .more => object.await byte [(quote, .key ⟨[], .plain⟩)]

/-- The scanner starts with a stream. -/
def scan (bytes : Bytes) : Progress UInt8 Object (List (Bytes × Bytes)) :=
  feed Object.step .initial bytes

/-- The bytes of a member. -/
def memberBytes (member : String × String) : Bytes × Bytes := (utf8 member.1, utf8 member.2)

section Objects

variable (members : List (Bytes × Bytes)) (rest : Bytes)

/-- The scanner reads back a member from its opening quote on. -/
theorem feed_member (member : String × String) :
    feed Object.step ⟨members, .more⟩ (encodeMember member ++ rest) =
      feed Object.step ⟨members ++ [memberBytes member], .next⟩ rest := by
  obtain ⟨name, value⟩ := member
  have keyed := @feed_nested UInt8 Object _ Text _ Object.step Text.step
    (fun text => ⟨members, .key text⟩) (fun name => ⟨members, .colon name⟩) (fun _ _ => rfl) _ _ _ _
    (feed_encoded [] feed_escape name.toList (colon :: (encodeText value ++ rest)))
  have valued := @feed_nested UInt8 Object _ Text _ Object.step Text.step
    (fun text => ⟨members, .value (utf8 name) text⟩)
    (fun value => ⟨members ++ [(utf8 name, value)], .next⟩) (fun _ _ => rfl) _ _ _ _
    (feed_encoded [] feed_escape value.toList rest)
  have opens : Object.step ⟨members, .more⟩ quote = .more ⟨members, .key ⟨[], .plain⟩⟩ := rfl
  have separates : Object.step ⟨members, .colon (utf8 name)⟩ JsonTexts.colon =
      .more ⟨members, .opening (utf8 name)⟩ := rfl
  have begins : Object.step ⟨members, .opening (utf8 name)⟩ quote =
      .more ⟨members, .value (utf8 name) ⟨[], .plain⟩⟩ := rfl
  calc
    feed Object.step ⟨members, .more⟩ (encodeMember (name, value) ++ rest)
    _ = feed Object.step ⟨members, .key ⟨[], .plain⟩⟩
          (name.toList.flatMap escape ++ quote :: colon :: (encodeText value ++ rest)) := by
        simp only [encodeMember, encodeText, List.cons_append, List.append_assoc, feed_more opens,
          List.nil_append]
    _ = feed Object.step ⟨members, .colon (utf8 name)⟩ (colon :: (encodeText value ++ rest)) :=
        keyed
    _ = feed Object.step ⟨members, .value (utf8 name) ⟨[], .plain⟩⟩
          (value.toList.flatMap escape ++ quote :: rest) := by
        simp only [encodeText, List.cons_append, List.append_assoc, feed_more separates,
          feed_more begins, List.nil_append]
    _ = feed Object.step ⟨members ++ [memberBytes (name, value)], .next⟩ rest := valued

/-- The scanner reads back members up to the closing brace. -/
theorem feed_members (member : String × String) (further : List (String × String)) :
    feed Object.step ⟨members, .more⟩ (encodeMembers (member :: further) ++ closeBrace :: rest) =
      .complete (members ++ (member :: further).map memberBytes) rest := by
  induction further generalizing members member with
  | nil =>
    rw [encodeMembers, feed_member]
    exact feed_done rfl rest
  | cons following others ih =>
    have separates : Object.step ⟨members ++ [memberBytes member], .next⟩ comma =
        .more ⟨members ++ [memberBytes member], .more⟩ := rfl
    rw [encodeMembers, List.append_assoc, feed_member, List.cons_append, feed_more separates,
      ih, List.append_assoc]
    rfl

/-- The scanner stops at the end of an encoded object, and has found its members. -/
theorem scan_encode (object : List (String × String)) :
    scan (encode object ++ rest) = .complete (object.map memberBytes) rest := by
  have opens : Object.step .initial openBrace = .more ⟨[], .first⟩ := rfl
  unfold scan encode
  rw [List.cons_append, feed_more opens, List.append_assoc]
  cases object with
  | nil => exact feed_done rfl rest
  | cons member further =>
    -- The first member begins with a quote, after which it is read as any other.
    have same (after : Bytes) : feed Object.step ⟨[], .first⟩ (quote :: after) =
        feed Object.step ⟨[], .more⟩ (quote :: after) := rfl
    have starts : ∃ after,
        encodeMembers (member :: further) ++ closeBrace :: rest = quote :: after := by
      cases further with
      | nil | cons following others => exact ⟨_, rfl⟩
    obtain ⟨after, starts⟩ := starts
    have found := feed_members [] rest member further
    rw [List.singleton_append, starts] at *
    exact found

/-- The scanner on a part of a stream that begins with an encoded object: it waits as long as the
object has not come, and then leaves what came with its end. -/
theorem scan_part {object : List (String × String)} {part later after : Bytes}
    (cut : part ++ later = encode object ++ after) :
    (part.length < (encode object).length ∧ ∃ state, scan part = .pending state) ∨
      ∃ tail, part = encode object ++ tail ∧
        scan part = .complete (object.map memberBytes) tail := by
  rcases List.append_eq_append_iff.mp cut with ⟨missing, whole, -⟩ | ⟨tail, rfl, -⟩
  · cases missing with
    | nil =>
      rw [List.append_nil] at whole
      refine .inr ⟨[], by rw [List.append_nil, whole], ?_⟩
      rw [← whole]
      simpa using scan_encode [] object
    | cons byte further =>
      have complete := scan_encode [] object
      rw [List.append_nil, whole] at complete
      refine .inl ⟨?_, feed_part complete (List.cons_ne_nil _ _)⟩
      rw [whole, List.length_append, List.length_cons]
      omega
  · exact .inr ⟨tail, rfl, scan_encode tail object⟩

end Objects

end ShellHub.JsonTexts
