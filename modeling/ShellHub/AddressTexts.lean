import ShellHub.Addresses

/-!
# Addresses as text

Programs meet addresses as text, and read them with libraries. `AddressText` is what a program relies
on: which texts are addresses and prefixes, that a prefix which is written out is read back, and that
an address has no slash and no white space in it. Nothing is assumed about how texts look beyond that,
and a text that one function takes for a prefix may be refused by another one.

The second half of the module is a reader and a writer for the usual notation: four decimal numbers,
or eight groups of hexadecimal digits of which a run of zeros may be left out and the last two may be
written as an IPv4 address. It writes addresses out in full.
-/

namespace ShellHub.Addresses

/-- White space. -/
def isSpace (char : Char) : Bool :=
  [0x09, 0x0a, 0x0b, 0x0c, 0x0d, 0x20, 0x85, 0xa0, 0x1680, 0x2028, 0x2029, 0x202f, 0x205f,
    0x3000].contains char.toNat || (0x2000 ≤ char.toNat && char.toNat ≤ 0x200a)

/-- Text without the white space around it. -/
def trimSpace (text : String) : String :=
  String.ofList ((text.toList.dropWhile isSpace).reverse.dropWhile isSpace).reverse

/-- Text without white space is left as it is. -/
theorem trimSpace_of_solid {text : String} (solid : ∀ char ∈ text.toList, isSpace char = false) :
    trimSpace text = text := by
  have kept : ∀ chars : List Char, (∀ char ∈ chars, isSpace char = false) →
      chars.dropWhile isSpace = chars := by
    intro chars solid
    cases chars with
    | nil => rfl
    | cons first rest =>
      rw [List.dropWhile_cons_of_neg (by simp [solid first List.mem_cons_self])]
  unfold trimSpace
  rw [kept text.toList solid, kept text.toList.reverse fun char member =>
    solid char (List.mem_reverse.mp member), List.reverse_reverse, String.ofList_toList]

/-- How addresses and prefixes are read, written and recognized. -/
structure AddressText where
  parseAddr : String → Option Addr
  parsePrefix : String → Option Prefix
  prefixString : Prefix → String
  isIP : String → Bool
  isCIDR : String → Bool
  parse_string : ∀ range : Prefix, range.Valid → parsePrefix (prefixString range) = some range
  isIP_parses : ∀ text, isIP text = true → ∃ addr, parseAddr text = some addr ∧ addr.zone = ""
  isIP_chars : ∀ text, isIP text = true →
    text ≠ "" ∧ ∀ char ∈ text.toList, char ≠ '/' ∧ isSpace char = false
  isCIDR_chars : ∀ text, isCIDR text = true →
    '/' ∈ text.toList ∧ ∀ char ∈ text.toList, isSpace char = false

/-! ## Numbers -/

/-- The value of a digit. -/
def digitValue (char : Char) : Option Nat :=
  if '0' ≤ char ∧ char ≤ '9' then some (char.toNat - '0'.toNat)
  else if 'a' ≤ char ∧ char ≤ 'f' then some (char.toNat - 'a'.toNat + 10)
  else if 'A' ≤ char ∧ char ≤ 'F' then some (char.toNat - 'A'.toNat + 10)
  else none

/-- The digit with a value. -/
def digit (value : Nat) : Char :=
  if value < 10 then Char.ofNat ('0'.toNat + value) else Char.ofNat ('a'.toNat + (value - 10))

/-- A digit is read as its value. -/
theorem digitValue_digit {value : Nat} (small : value < 16) :
    digitValue (digit value) = some value := by
  have all : ∀ value : Fin 16, digitValue (digit value) = some value.val := by decide
  exact all ⟨value, small⟩

/-- No digit is a separator. -/
theorem digit_chars {value : Nat} (small : value < 16) :
    digit value ≠ '.' ∧ digit value ≠ ':' ∧ digit value ≠ '/' ∧ digit value ≠ '%' := by
  have all : ∀ value : Fin 16, digit value ≠ '.' ∧ digit value ≠ ':' ∧ digit value ≠ '/' ∧
      digit value ≠ '%' := by decide
  exact all ⟨value, small⟩

/-- Only the first digit is a zero. -/
theorem digit_ne_zero {value : Nat} (small : value < 16) (positive : 0 < value) :
    digit value ≠ '0' := by
  intro zero
  have read := digitValue_digit small
  rw [zero] at read
  exact absurd (Option.some.inj read) (Nat.ne_of_lt positive)

/-- A number in a base, from its digits. -/
def parseNumber (base : Nat) : Nat → List Char → Option Nat
  | number, [] => some number
  | number, char :: rest =>
    match digitValue char with
    | none => none
    | some value => if value < base then parseNumber base (number * base + value) rest else none

/-- A decimal number of up to three digits that does not start with a zero. -/
def parseDecimal (chars : List Char) : Option Nat :=
  if chars = [] ∨ 3 < chars.length ∨ (chars.head? = some '0' ∧ 1 < chars.length) then none
  else parseNumber 10 0 chars

/-- The decimal digits of a number below a thousand. -/
def decimal (number : Nat) : List Char :=
  if number < 10 then [digit number]
  else if number < 100 then [digit (number / 10), digit (number % 10)]
  else [digit (number / 100), digit (number / 10 % 10), digit (number % 10)]

/-- What is written for a number below 256 is read as that number, and has no separator in it. The
cases are the numbers of one, two and three digits. -/
theorem parseDecimal_decimal {number : Nat} (small : number < 256) :
    parseDecimal (decimal number) = some number ∧
      ∀ char ∈ decimal number, char ≠ '.' ∧ char ≠ ':' ∧ char ≠ '/' ∧ char ≠ '%' := by
  unfold decimal
  split
  · have below : number < 16 := by omega
    refine ⟨?_, by simpa using digit_chars below⟩
    simpa [parseDecimal, parseNumber, digitValue_digit below]
  have last : number % 10 < 16 := by omega
  split
  · have tens : number / 10 < 16 := by omega
    have positive := digit_ne_zero tens (by omega)
    refine ⟨?_, by simpa using ⟨digit_chars tens, digit_chars last⟩⟩
    simp only [parseDecimal, parseNumber, digitValue_digit tens, digitValue_digit last]
    simp [positive]
    omega
  · have hundreds : number / 100 < 16 := by omega
    have tens : number / 10 % 10 < 16 := by omega
    have positive := digit_ne_zero hundreds (by omega)
    refine ⟨?_, by simpa using ⟨digit_chars hundreds, digit_chars tens, digit_chars last⟩⟩
    simp only [parseDecimal, parseNumber, digitValue_digit hundreds, digitValue_digit tens,
      digitValue_digit last]
    simp [positive]
    omega

/-- A group of up to four hexadecimal digits. -/
def parseGroup (chars : List Char) : Option Nat :=
  if chars = [] ∨ 4 < chars.length then none else parseNumber 16 0 chars

/-- The four hexadecimal digits of a group. -/
def group (number : Nat) : List Char :=
  [digit (number / 4096 % 16), digit (number / 256 % 16), digit (number / 16 % 16),
    digit (number % 16)]

theorem parseGroup_group {number : Nat} (small : number < 65536) :
    parseGroup (group number) = some number := by
  have first := digitValue_digit (Nat.mod_lt (number / 4096) (by decide : 0 < 16))
  have second := digitValue_digit (Nat.mod_lt (number / 256) (by decide : 0 < 16))
  have third := digitValue_digit (Nat.mod_lt (number / 16) (by decide : 0 < 16))
  have fourth := digitValue_digit (Nat.mod_lt number (by decide : 0 < 16))
  have positional : (((0 * 16 + number / 4096 % 16) * 16 + number / 256 % 16) * 16 +
      number / 16 % 16) * 16 + number % 16 = number := by omega
  simp only [parseGroup, group, parseNumber, first, second, third, fourth,
    Nat.mod_lt _ (by decide : 0 < 16), if_true, positional]
  simp

theorem group_chars {number : Nat} {char : Char} (member : char ∈ group number) :
    char ≠ '.' ∧ char ≠ ':' ∧ char ≠ '/' ∧ char ≠ '%' := by
  simp only [group, List.mem_cons, List.not_mem_nil, or_false] at member
  rcases member with rfl | rfl | rfl | rfl <;> exact digit_chars (Nat.mod_lt _ (by decide))

/-! ## Addresses -/

/-- An IPv4 address from its four numbers. -/
def parseV4 (chars : List Char) : Option (BitVec 32) :=
  match (chars.splitOn '.').map parseDecimal with
  | [some first, some second, some third, some fourth] =>
    if first < 256 ∧ second < 256 ∧ third < 256 ∧ fourth < 256 then
      some (BitVec.ofNat 32 (((first * 256 + second) * 256 + third) * 256 + fourth))
    else none
  | _ => none

/-- The groups of a part of an IPv6 address, of which the last may be an IPv4 address. -/
def parseGroups : List (List Char) → Option (List Nat)
  | [] => some []
  | [last] =>
    if '.' ∈ last then
      (parseV4 last).map fun bits => [bits.toNat / 65536, bits.toNat % 65536]
    else (parseGroup last).map fun number => [number]
  | field :: rest =>
    match parseGroup field, parseGroups rest with
    | some number, some numbers => some (number :: numbers)
    | _, _ => none

/-- The parts before and after the first double colon. -/
def splitEllipsis : List Char → Option (List Char × List Char)
  | ':' :: ':' :: rest => some ([], rest)
  | char :: rest => (splitEllipsis rest).map fun (before, after) => (char :: before, after)
  | [] => none

/-- The groups on one side of a double colon. -/
def parseSide (chars : List Char) : Option (List Nat) :=
  if chars = [] then some [] else parseGroups (chars.splitOn ':')

/-- The address that eight groups are. -/
def joinGroups (groups : List Nat) : BitVec 128 :=
  BitVec.ofNat 128 (groups.foldl (fun number value => number * 65536 + value) 0)

/-- An IPv6 address without a zone: eight groups, or fewer with a double colon. A double colon makes an
empty group, which cannot be read. -/
def parseV6 (chars : List Char) : Option (BitVec 128) :=
  match parseGroups (chars.splitOn ':') with
  | some groups => if groups.length = 8 then some (joinGroups groups) else none
  | none =>
    (splitEllipsis chars).bind fun (before, after) =>
      match parseSide before, parseSide after with
      | some head, some tail =>
        if head.length + tail.length ≤ 7 then
          some (joinGroups (head ++ List.replicate (8 - (head.length + tail.length)) 0 ++ tail))
        else none
      | _, _ => none

/-- An address with its zone. -/
def parseChars (chars : List Char) : Option Addr :=
  if ':' ∈ chars then
    match chars.splitOn '%' with
    | [address] => (parseV6 address).map fun bits => .v6 bits ""
    | [address, zone] =>
      if zone = [] then none else (parseV6 address).map fun bits => .v6 bits (String.ofList zone)
    | _ => none
  else (parseV4 chars).map .v4

/-- A prefix from an address without a zone and a number of bits. -/
def parsePrefixChars (chars : List Char) : Option Prefix :=
  match chars.splitOn '/' with
  | [address, bits] =>
    match parseChars address, parseDecimal bits with
    | some addr, some count =>
      if addr.zone = "" ∧ count ≤ addr.bitLen then some ⟨addr, count⟩ else none
    | _, _ => none
  | _ => none

/-- The four numbers of an IPv4 address. -/
def octets (bits : BitVec 32) : List Nat :=
  [bits.toNat / 16777216 % 256, bits.toNat / 65536 % 256, bits.toNat / 256 % 256, bits.toNat % 256]

/-- The eight groups of an IPv6 address. -/
def groups (bits : BitVec 128) : List Nat :=
  [7, 6, 5, 4, 3, 2, 1, 0].map fun place => bits.toNat / 65536 ^ place % 65536

/-- An address written in full. -/
def addrChars : Addr → List Char
  | .v4 bits => ['.'].intercalate ((octets bits).map decimal)
  | .v6 bits _ => [':'].intercalate ((groups bits).map group)

/-- A prefix written in full. -/
def prefixChars (range : Prefix) : List Char := addrChars range.addr ++ '/' :: decimal range.bits

/-! ## What is written is read back -/

theorem mem_intercalate {sep char : Char} {fields : List (List Char)}
    (member : char ∈ [sep].intercalate fields) : char = sep ∨ ∃ field ∈ fields, char ∈ field := by
  induction fields with
  | nil => cases member
  | cons field rest ih =>
    cases rest with
    | nil => exact .inr ⟨field, List.mem_cons_self, by simpa using member⟩
    | cons next others =>
      rw [List.intercalate_cons_cons, List.append_assoc, List.mem_append, List.singleton_append,
        List.mem_cons] at member
      rcases member with own | rfl | later
      · exact .inr ⟨field, List.mem_cons_self, own⟩
      · exact .inl rfl
      · rcases ih later with rfl | ⟨other, stored, inside⟩
        · exact .inl rfl
        · exact .inr ⟨other, List.mem_cons_of_mem _ stored, inside⟩

/-- Text without the separator is one field. -/
theorem splitOn_self {sep : Char} {chars : List Char} (plain : sep ∉ chars) :
    chars.splitOn sep = [chars] := by
  have single := List.splitOn_intercalate sep
    (fun field member => List.mem_singleton.mp member ▸ plain) (List.cons_ne_nil chars [])
  simpa using single

/-- The characters of an address that is written out. -/
theorem addrChars_chars {addr : Addr} {char : Char} (member : char ∈ addrChars addr) :
    char ≠ '/' ∧ char ≠ '%' ∧ (addr.bitLen = 32 → char ≠ ':') := by
  cases addr with
  | v4 bits =>
    rcases mem_intercalate member with rfl | ⟨field, written, inside⟩
    · exact ⟨by decide, by decide, fun _ => by decide⟩
    · obtain ⟨number, octet, rfl⟩ := List.mem_map.mp written
      have small : number < 256 := by
        simp only [octets, List.mem_cons, List.not_mem_nil, or_false] at octet
        omega
      obtain ⟨-, colon, slash, percent⟩ := (parseDecimal_decimal small).2 char inside
      exact ⟨slash, percent, fun _ => colon⟩
  | v6 bits zone =>
    rcases mem_intercalate member with rfl | ⟨field, written, inside⟩
    · exact ⟨by decide, by decide, by rintro ⟨⟩⟩
    · obtain ⟨number, -, rfl⟩ := List.mem_map.mp written
      obtain ⟨-, -, slash, percent⟩ := group_chars inside
      exact ⟨slash, percent, by rintro ⟨⟩⟩

theorem parseV4_addrChars (bits : BitVec 32) : parseV4 (addrChars (.v4 bits)) = some bits := by
  have small : ∀ number ∈ octets bits, number < 256 := by
    intro number octet
    simp only [octets, List.mem_cons, List.not_mem_nil, or_false] at octet
    omega
  have fields : (addrChars (.v4 bits)).splitOn '.' = (octets bits).map decimal := by
    apply List.splitOn_intercalate
    · intro field written dot
      obtain ⟨number, octet, rfl⟩ := List.mem_map.mp written
      exact ((parseDecimal_decimal (small number octet)).2 '.' dot).1 rfl
    · simp [octets]
  have numbers : ((octets bits).map decimal).map parseDecimal = (octets bits).map some := by
    rw [List.map_map]
    apply List.map_congr_left
    intro number octet
    exact (parseDecimal_decimal (small number octet)).1
  have whole : ((bits.toNat / 16777216 % 256 * 256 + bits.toNat / 65536 % 256) * 256 +
      bits.toNat / 256 % 256) * 256 + bits.toNat % 256 = bits.toNat := by
    omega
  unfold parseV4
  rw [fields, numbers]
  simp only [octets, List.map_cons, List.map_nil, whole, BitVec.ofNat_toNat, BitVec.setWidth_eq]
  rw [if_pos ⟨Nat.mod_lt _ (by decide), Nat.mod_lt _ (by decide), Nat.mod_lt _ (by decide),
    Nat.mod_lt _ (by decide)⟩]

theorem parseGroups_group (numbers : List Nat) (small : ∀ number ∈ numbers, number < 65536) :
    parseGroups (numbers.map group) = some numbers := by
  induction numbers with
  | nil => rfl
  | cons number rest ih =>
    have read := parseGroup_group (small number List.mem_cons_self)
    cases rest with
    | nil =>
      have plain : '.' ∉ group number := fun dot => (group_chars dot).1 rfl
      simp [parseGroups, plain, read]
    | cons next others =>
      have later := ih fun other member =>
        small other (List.mem_cons_of_mem _ member)
      simp only [List.map_cons, parseGroups, read] at later ⊢
      rw [later]

theorem joinGroups_groups (bits : BitVec 128) : joinGroups (groups bits) = bits := by
  refine BitVec.eq_of_toNat_eq ?_
  simp only [joinGroups, groups, List.map_cons, List.map_nil, List.foldl_cons, List.foldl_nil,
    BitVec.toNat_ofNat]
  omega

theorem parseV6_addrChars (bits : BitVec 128) (zone : String) :
    parseV6 (addrChars (.v6 bits zone)) = some bits := by
  have fields : (addrChars (.v6 bits zone)).splitOn ':' = (groups bits).map group := by
    apply List.splitOn_intercalate
    · intro field written colon
      obtain ⟨number, -, rfl⟩ := List.mem_map.mp written
      exact (group_chars colon).2.1 rfl
    · simp [groups]
  have small : ∀ number ∈ groups bits, number < 65536 := by
    intro number member
    obtain ⟨place, -, rfl⟩ := List.mem_map.mp member
    exact Nat.mod_lt _ (by decide)
  simp only [parseV6, fields, parseGroups_group _ small, joinGroups_groups]
  rw [if_pos (by simp [groups])]

/-- An address that is written out is read back. -/
theorem parseChars_addrChars {addr : Addr} (unzoned : addr.zone = "") :
    parseChars (addrChars addr) = some addr := by
  cases addr with
  | v4 bits =>
    have plain : ':' ∉ addrChars (.v4 bits) := fun colon => (addrChars_chars colon).2.2 rfl rfl
    simp only [parseChars, plain, if_false, parseV4_addrChars, Option.map_some]
  | v6 bits zone =>
    obtain rfl : zone = "" := unzoned
    have colon : ':' ∈ addrChars (.v6 bits "") := by
      simp [addrChars, groups, List.intercalate_cons_cons]
    have whole := splitOn_self fun percent : '%' ∈ addrChars (.v6 bits "") =>
      (addrChars_chars percent).2.1 rfl
    simp only [parseChars, colon, if_true, whole, parseV6_addrChars, Option.map_some]

/-- A prefix that is written out is read back. -/
theorem parsePrefixChars_prefixChars {range : Prefix} (valid : range.Valid) :
    parsePrefixChars (prefixChars range) = some range := by
  have small : range.bits < 256 := by
    have bound := valid.bits
    cases named : range.addr with
    | v4 bits | v6 bits zone =>
      rw [named, Addr.bitLen] at bound
      omega
  obtain ⟨read, chars⟩ := parseDecimal_decimal small
  have parts : (prefixChars range).splitOn '/' = [addrChars range.addr, decimal range.bits] := by
    have joined : prefixChars range =
        ['/'].intercalate [addrChars range.addr, decimal range.bits] := by
      simp [prefixChars, List.intercalate_cons_cons]
    rw [joined]
    apply List.splitOn_intercalate
    · intro part member slash
      simp only [List.mem_cons, List.not_mem_nil, or_false] at member
      rcases member with rfl | rfl
      · exact (addrChars_chars slash).1 rfl
      · exact (chars '/' slash).2.2.1 rfl
    · simp
  simp only [parsePrefixChars, parts, parseChars_addrChars valid.zone, read]
  rw [if_pos ⟨valid.zone, valid.bits⟩]

/-- The usual notation. -/
def usualText : AddressText where
  parseAddr := fun text => parseChars text.toList
  parsePrefix := fun text => parsePrefixChars text.toList
  prefixString := fun range => String.ofList (prefixChars range)
  isIP := fun text =>
    text ≠ "" && (text.toList.all fun char => char ≠ '/' && !isSpace char) &&
      (parseChars text.toList).any fun addr => addr.zone = ""
  isCIDR := fun text =>
    text.toList.contains '/' && (text.toList.all fun char => !isSpace char) &&
      (parsePrefixChars text.toList).isSome
  parse_string := by
    intro range valid
    simpa only [String.toList_ofList] using parsePrefixChars_prefixChars valid
  isIP_parses := by
    intro text accepted
    simp only [Bool.and_eq_true] at accepted
    cases parsed : parseChars text.toList with
    | none =>
      rw [parsed] at accepted
      cases accepted.2
    | some addr =>
      rw [parsed] at accepted
      exact ⟨addr, rfl, by simpa using accepted.2⟩
  isIP_chars := by
    intro text accepted
    simp only [Bool.and_eq_true, decide_eq_true_eq, List.all_eq_true, Bool.not_eq_true'] at accepted
    exact accepted.1
  isCIDR_chars := by
    intro text accepted
    simp only [Bool.and_eq_true, List.contains_iff_mem, List.all_eq_true, Bool.not_eq_true']
      at accepted
    exact accepted.1

end ShellHub.Addresses
