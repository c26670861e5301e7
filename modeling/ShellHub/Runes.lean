import Mathlib.Data.List.Basic

/-!
# Runes in bytes

A rune is decoded from the front of some bytes, as a character together with its width. Bytes that
do not begin with the encoding of a character decode to the error rune with width one, and no bytes
with width zero. The error rune is a character itself, with an encoding of its own.

Decoding and encoding of one character are those of the standard library. The facts here are about
the front of a stream, about the parts of a character's encoding, and about whole texts.
-/

namespace ShellHub.Runes

abbrev Bytes := List UInt8

/-- The bytes from one position to another, or a panic. -/
def slice (bytes : Bytes) (low high : Nat) : Option Bytes :=
  if low ≤ high ∧ high ≤ bytes.length then some ((bytes.drop low).take (high - low)) else none

/-- The encoding of a character. -/
abbrev encodeRune (char : Char) : Bytes := String.utf8EncodeChar char

def encode (text : List Char) : Bytes := text.flatMap encodeRune

@[simp]
theorem encode_nil : encode [] = [] := rfl

@[simp]
theorem encode_cons (char : Char) (text : List Char) :
    encode (char :: text) = encodeRune char ++ encode text := List.flatMap_cons

@[simp]
theorem encode_append (first second : List Char) :
    encode (first ++ second) = encode first ++ encode second := List.flatMap_append

theorem encode_flatten (texts : List (List Char)) :
    encode texts.flatten = (texts.map encode).flatten := by
  induction texts with
  | nil => rfl
  | cons text further ih => simp [ih]

def runeError : Char := '�'

/-- The character at the front of some bytes, and its width. -/
def decodeRune (bytes : Bytes) : Char × Nat :=
  match bytes.toByteArray.utf8DecodeChar? 0 with
  | some char => (char, char.utf8Size)
  | none => (runeError, if bytes = [] then 0 else 1)

/-- A byte that does not continue a character. -/
def RuneStart (byte : UInt8) : Prop := byte.toNat / 64 ≠ 2

instance (byte : UInt8) : Decidable (RuneStart byte) := inferInstanceAs (Decidable (_ ≠ _))

/-- The characters of some bytes, at most as many as the first argument says. -/
def runesUpTo : Nat → Bytes → List Char
  | 0, _ => []
  | _ + 1, [] => []
  | fuel + 1, byte :: rest =>
    let (char, width) := decodeRune (byte :: rest)
    char :: runesUpTo fuel ((byte :: rest).drop width)

/-- The characters of some bytes; none is narrower than a byte. -/
def runes (bytes : Bytes) : List Char := runesUpTo bytes.length bytes

section Decoding

variable {char : Char} {bytes : Bytes}

/-- What is decoded without an error is encoded at the front. -/
theorem prefix_of_decodes (decodes : bytes.toByteArray.utf8DecodeChar? 0 = some char) :
    encodeRune char <+: bytes := by
  obtain ⟨rest, split⟩ := ByteArray.exists_of_utf8DecodeChar?_eq_some decodes
  refine ⟨rest.data.toList, ?_⟩
  have same := congrArg (fun array => array.data.toList) split
  simpa using same.symm

theorem decodeRune_encode (char : Char) (rest : Bytes) :
    decodeRune (encodeRune char ++ rest) = (char, char.utf8Size) := by
  have decodes : (encodeRune char ++ rest).toByteArray.utf8DecodeChar? 0 = some char := by
    rw [List.toByteArray_append]
    exact ByteArray.utf8DecodeChar?_utf8EncodeChar_append
  rw [decodeRune, decodes]

theorem decodeRune_width_le (bytes : Bytes) : (decodeRune bytes).2 ≤ bytes.length := by
  unfold decodeRune
  split
  · rename_i char decodes
    have front := (prefix_of_decodes decodes).length_le
    rwa [String.length_utf8EncodeChar] at front
  · cases bytes <;> simp

/-- The encodings of two characters at the same place are those of the same character. -/
theorem eq_of_prefix {first second : Char} (within : encodeRune first <+: encodeRune second) :
    first = second := by
  obtain ⟨rest, split⟩ := within
  have left := decodeRune_encode first rest
  have right := decodeRune_encode second []
  rw [List.append_nil, ← split, left] at right
  exact congrArg Prod.fst right

/-- A character that is not complete decodes to the error rune. -/
theorem decodeRune_part {part : Bytes} (within : part <+: encodeRune char)
    (short : part ≠ encodeRune char) : (decodeRune part).1 = runeError := by
  unfold decodeRune
  split
  · rename_i found decodes
    have front := prefix_of_decodes decodes
    obtain rfl := eq_of_prefix (front.trans within)
    exact absurd (within.eq_of_length (Nat.le_antisymm within.length_le front.length_le)) short
  · rfl

/-- An encoding begins with a byte that starts a character, and no other of its bytes does. -/
theorem encodeRune_shape (char : Char) : ∃ first rest, encodeRune char = first :: rest ∧
    RuneStart first ∧ (∀ byte ∈ rest, ¬ RuneStart byte) ∧ rest.length ≤ 3 := by
  have low (value : Nat) (small : value ≤ 127) : RuneStart (UInt8.ofNat value) := by
    unfold RuneStart
    rw [UInt8.toNat_ofNat_of_lt' (by simp only [UInt8.size]; omega)]
    omega
  have high (value : Nat) (large : 192 ≤ value) (small : value < 256) :
      RuneStart (UInt8.ofNat value) := by
    unfold RuneStart
    rw [UInt8.toNat_ofNat_of_lt' (by simp only [UInt8.size]; omega)]
    omega
  have further (value : Nat) : ¬ RuneStart (UInt8.ofNat (value % 64 + 128)) := by
    unfold RuneStart
    rw [UInt8.toNat_ofNat_of_lt' (by simp only [UInt8.size]; omega)]
    omega
  unfold encodeRune String.utf8EncodeChar
  dsimp only
  split
  · rename_i small
    exact ⟨_, [], rfl, low _ small, by simp, by simp⟩
  split
  · refine ⟨_, _, rfl, high _ (by omega) (by omega), ?_, by simp⟩
    exact List.forall_mem_cons.mpr ⟨further _, by simp⟩
  split
  · refine ⟨_, _, rfl, high _ (by omega) (by omega), ?_, by simp⟩
    exact List.forall_mem_cons.mpr ⟨further _, List.forall_mem_cons.mpr ⟨further _, by simp⟩⟩
  · refine ⟨_, _, rfl, high _ (by omega) (by omega), ?_, by simp⟩
    exact List.forall_mem_cons.mpr ⟨further _, List.forall_mem_cons.mpr
      ⟨further _, List.forall_mem_cons.mpr ⟨further _, by simp⟩⟩⟩

end Decoding

theorem encode_eq_nil {text : List Char} : encode text = [] ↔ text = [] := by
  cases text with
  | nil => simp
  | cons char further =>
    obtain ⟨first, rest, shape, -⟩ := encodeRune_shape char
    simp [shape]

/-- Bytes that are the beginning of a text are some of its characters and a part of the next. -/
theorem exists_of_prefix_encode {text : List Char} {bytes : Bytes} (within : bytes <+: encode text) :
    ∃ whole rest part, text = whole ++ rest ∧ bytes = encode whole ++ part ∧
      (part = [] ∨ ∃ char further, rest = char :: further ∧ part <+: encodeRune char ∧
        part ≠ [] ∧ part ≠ encodeRune char) := by
  induction text generalizing bytes with
  | nil => exact ⟨[], [], [], rfl, by simpa using within, .inl rfl⟩
  | cons char further ih =>
    obtain ⟨later, split⟩ := within
    rcases List.append_eq_append_iff.mp split with ⟨missing, short, -⟩ | ⟨tail, long, after⟩
    · by_cases complete : bytes = encodeRune char
      · exact ⟨[char], further, [], rfl, by simp [complete], .inl rfl⟩
      by_cases none_ : bytes = []
      · exact ⟨[], char :: further, [], rfl, by simp [none_], .inl rfl⟩
      · exact ⟨[], char :: further, bytes, rfl, rfl,
          .inr ⟨char, further, rfl, ⟨missing, short.symm⟩, none_, complete⟩⟩
    · obtain ⟨whole, rest, part, rfl, rfl, shape⟩ := ih ⟨later, after.symm⟩
      exact ⟨char :: whole, rest, part, rfl, by simp [long], shape⟩

theorem runesUpTo_encode (text : List Char) (fuel : Nat) (enough : (encode text).length ≤ fuel) :
    runesUpTo fuel (encode text) = text := by
  induction text generalizing fuel with
  | nil => cases fuel <;> rfl
  | cons char further ih =>
    obtain ⟨first, rest, shape, -⟩ := encodeRune_shape char
    have decoded := decodeRune_encode char (encode further)
    have dropped : (encodeRune char ++ encode further).drop char.utf8Size = encode further := by
      rw [← String.length_utf8EncodeChar]
      exact List.drop_left
    rw [encode_cons] at enough ⊢
    rw [shape, List.cons_append] at decoded dropped enough ⊢
    cases fuel with
    | zero => simp at enough
    | succ fuel =>
      simp only [List.length_cons, List.length_append] at enough
      simp only [runesUpTo, decoded, dropped]
      rw [ih fuel (by omega)]

/-- A text is read back from its encoding. -/
theorem runes_encode (text : List Char) : runes (encode text) = text :=
  runesUpTo_encode text _ (Nat.le_refl _)

end ShellHub.Runes
