import Mathlib.Algebra.Group.Nat.Defs
import ShellHub.Runes
import ShellHub.TextCuts

/-!
# Login records

The agent notes each login in a record of a fixed layout. `utmpStartSession` fills it in from the name of
the terminal, the user and the address of the client. Go code that reads outside of a slice panics, which
ends the agent; here it gives `none`.

Names are bytes. How a text is read as an address is a parameter, as `netip` documents it: `net.ParseIP`
takes the same texts except for those with a zone, and gives no bytes for the others. The words of an
address are numbers below `2 ^ 32`.
-/

namespace ShellHub.LoginRecords

open Addresses (Addr AddressText usualText)
open Runes (Bytes encode slice)
open TextCuts

/-! ## Bytes -/

/-- The last bytes of a number, from the highest to the lowest. -/
def bigEndian : Nat → Nat → Bytes
  | 0, _ => []
  | width + 1, number => bigEndian width (number / 256) ++ [UInt8.ofNat number]

/-- The four bytes of a word, from the lowest to the highest. -/
def littleEndian (word : Nat) : Bytes :=
  [UInt8.ofNat word, UInt8.ofNat (word / 256), UInt8.ofNat (word / 65536), UInt8.ofNat (word / 16777216)]

/-- The word in the first four bytes. -/
def uint32 : Bytes → Option Nat
  | first :: second :: third :: fourth :: _ =>
    some (first.toNat + 256 * second.toNat + 65536 * third.toNat + 16777216 * fourth.toNat)
  | _ => none

/-- An array with as many of the bytes as fit, and zeros. -/
def copyInto (size : Nat) (bytes : Bytes) : Vector UInt8 size :=
  ⟨(bytes.take size ++ List.replicate (size - bytes.length) 0).toArray, by simp; omega⟩

theorem bigEndian_length (width number : Nat) : (bigEndian width number).length = width := by
  induction width generalizing number with
  | zero => rfl
  | succ width ih => simp [bigEndian, ih]

theorem bigEndian_add (first second number : Nat) : bigEndian (first + second) number =
    bigEndian first (number / 256 ^ second) ++ bigEndian second number := by
  induction second generalizing number with
  | zero => simp [bigEndian]
  | succ second ih =>
    rw [← Nat.add_assoc, bigEndian, ih, bigEndian, Nat.div_div_eq_div_mul,
      ← Nat.pow_succ', List.append_assoc]

theorem bigEndian_inj {width first second : Nat} (same : bigEndian width first = bigEndian width second) :
    first % 256 ^ width = second % 256 ^ width := by
  induction width generalizing first second with
  | zero => simp [Nat.mod_one]
  | succ width ih =>
    obtain ⟨high, low⟩ := List.append_inj same (by simp [bigEndian_length])
    have low : first % 256 = second % 256 := by
      simpa using congrArg UInt8.toNat (List.cons.inj low).1
    have high := ih high
    rw [Nat.pow_succ', Nat.mod_mul, Nat.mod_mul, low, high]

theorem littleEndian_uint32 {bytes : Bytes} (four : bytes.length = 4) :
    ∃ word, uint32 bytes = some word ∧ littleEndian word = bytes := by
  match bytes, four with
  | [first, second, third, fourth], _ =>
    refine ⟨_, rfl, ?_⟩
    have := first.toNat_lt
    have := second.toNat_lt
    have := third.toNat_lt
    have := fourth.toNat_lt
    simp only [littleEndian, List.cons.injEq, ← UInt8.toNat_inj, UInt8.toNat_ofNat', and_true]
    refine ⟨?_, ?_, ?_, ?_⟩ <;> omega

/-! ## Addresses -/

/-- The bytes of an address, four or sixteen. -/
def addrBytes : Addr → Bytes
  | .v4 bits => bigEndian 4 bits.toNat
  | .v6 bits _ => bigEndian 16 bits.toNat

/-- What stands before an IPv4 address that is written in sixteen bytes. -/
def v4Prefix : Bytes := List.replicate 10 0 ++ [255, 255]

/-- The sixteen bytes of an address without a zone, and no bytes for any other text. -/
def parseIP (text : AddressText) (host : List Char) : Bytes :=
  match text.parseAddr (String.ofList host) with
  | some (.v4 bits) => v4Prefix ++ bigEndian 4 bits.toNat
  | some (.v6 bits zone) => if zone = "" then bigEndian 16 bits.toNat else []
  | none => []

/-- The four bytes of an IPv4 address. -/
def to4 (ip : Bytes) : Option Bytes :=
  if ip.length = 4 then some ip
  else if ip.length = 16 ∧ ip.take 12 = v4Prefix then some (ip.drop 12)
  else none

/-- The address words of a record. -/
def addressWords (ip : Bytes) : Option (Vector Nat 4) :=
  match to4 ip with
  | some ip4 => do
    some #v[← uint32 ip4, 0, 0, 0]
  | none => do
    let first ← (slice ip 0 4).bind uint32
    let second ← (slice ip 4 8).bind uint32
    let third ← (slice ip 8 12).bind uint32
    let fourth ← (slice ip 12 16).bind uint32
    some #v[first, second, third, fourth]

/-! ## Records -/

structure TimeVal where
  sec : Int
  usec : Int
deriving DecidableEq

/-- A login record. The fields that the agent leaves zero are `unused`. -/
structure Utmpx where
  type : Int
  pid : Int
  line : Vector UInt8 32
  id : Vector UInt8 4
  user : Vector UInt8 32
  host : Vector UInt8 256
  tv : TimeVal
  addrV6 : Vector Nat 4
  unused : Bytes
deriving DecidableEq

def userProcess : Int := 7

def deadProcess : Int := 8

/-- The name of a terminal without the directory of devices. -/
def terminal (line : Bytes) : Bytes :=
  let dev : Bytes := [47, 100, 101, 118, 47]
  if dev <+: line then line.drop dev.length else line

/-- The record of a login. -/
def utmpStartSession (text : AddressText) (pid : Int) (now : TimeVal) (line user : Bytes)
    (remoteAddr : List Char) : Option Utmpx := do
  let (host, words) ← match splitHostPort remoteAddr with
    -- The address is not in the expected form, which is only logged.
    | none => some ([], #v[0, 0, 0, 0])
    | some (host, _) => (addressWords (parseIP text host)).map (host, ·)
  let line := terminal line
  let id ← if 4 ≤ line.length then some (line.drop (line.length - 4)) else none
  some
    { type := userProcess
      pid
      line := copyInto 32 line
      id := copyInto 4 id
      user := copyInto 32 user
      host := copyInto 256 (encode host)
      tv := now
      addrV6 := words
      unused := [] }

/-! ## What a record says -/

/-- The address of a record as it is written to a file. -/
def Utmpx.address (record : Utmpx) : Bytes := record.addrV6.toList.flatMap littleEndian

/-- Sixteen bytes that begin with the given ones. -/
def padded (bytes : Bytes) : Bytes := bytes ++ List.replicate (16 - bytes.length) 0

/-- The address that a record is to have: the bytes of the client's address in order, and zeros when
there is none. An IPv4 address in IPv6 form is the IPv4 address, and a zone is not part of it. -/
def clientBytes (text : AddressText) (remoteAddr : List Char) : Bytes :=
  match splitHostPort remoteAddr with
  | none => padded []
  | some (host, _) =>
    match text.parseAddr (String.ofList host) with
    | some addr => padded (addrBytes addr.unmap)
    | none => padded []

theorem addressWords_of_v4 {ip ip4 : Bytes} (short : to4 ip = some ip4) (four : ip4.length = 4) :
    ∃ words, addressWords ip = some words ∧ words.toList.flatMap littleEndian = padded ip4 := by
  obtain ⟨word, read, written⟩ := littleEndian_uint32 four
  refine ⟨#v[word, 0, 0, 0], ?_, ?_⟩
  · simp [addressWords, short, read]
  · have zeros : #v[word, 0, 0, 0].toList.flatMap littleEndian =
        littleEndian word ++ List.replicate 12 0 := rfl
    rw [zeros, written, padded, four]

theorem addressWords_of_v6 {ip : Bytes} (long : to4 ip = none) (sixteen : ip.length = 16) :
    ∃ words, addressWords ip = some words ∧ words.toList.flatMap littleEndian = padded ip := by
  have part : ∀ low, low + 4 ≤ 16 → ∃ word, (slice ip low (low + 4)).bind uint32 = some word ∧
      littleEndian word = (ip.drop low).take 4 := by
    intro low within
    have four : ((ip.drop low).take 4).length = 4 := by
      rw [List.length_take, List.length_drop]
      omega
    obtain ⟨word, read, written⟩ := littleEndian_uint32 four
    refine ⟨word, ?_, written⟩
    rw [slice, if_pos ⟨Nat.le_add_right .., by omega⟩, Nat.add_sub_cancel_left]
    exact read
  obtain ⟨first, readFirst, bytesFirst⟩ := part 0 (by decide)
  obtain ⟨second, readSecond, bytesSecond⟩ := part 4 (by decide)
  obtain ⟨third, readThird, bytesThird⟩ := part 8 (by decide)
  obtain ⟨fourth, readFourth, bytesFourth⟩ := part 12 (by decide)
  refine ⟨#v[first, second, third, fourth], ?_, ?_⟩
  · simp only [addressWords, long, readFirst, readSecond, readThird, readFourth, Option.bind_eq_bind,
      Option.bind_some]
  · have all : #v[first, second, third, fourth].toList.flatMap littleEndian = littleEndian first ++
        (littleEndian second ++ (littleEndian third ++ littleEndian fourth)) := rfl
    have last : (ip.drop 12).take 4 = ip.drop 12 := List.take_of_length_le (by simp [sixteen])
    have joined : ∀ low, (ip.drop low).take 4 ++ ip.drop (low + 4) = ip.drop low := by
      intro low
      rw [← List.drop_drop, List.take_append_drop]
    rw [all, bytesFirst, bytesSecond, bytesThird, bytesFourth, last, joined 8, joined 4, joined 0, padded,
      sixteen]
    exact (List.append_nil ip).symm

theorem to4_v4 (bits : BitVec 32) :
    to4 (v4Prefix ++ bigEndian 4 bits.toNat) = some (bigEndian 4 bits.toNat) := by
  have length : (v4Prefix ++ bigEndian 4 bits.toNat).length = 16 := by simp [v4Prefix, bigEndian_length]
  have twelve : v4Prefix.length = 12 := rfl
  rw [to4, if_neg (by omega), if_pos ⟨length, List.take_left' twelve⟩, List.drop_left' twelve]

/-- Sixteen bytes hold an IPv4 address exactly when the address is a mapped one. -/
theorem to4_v6 (bits : BitVec 128) : to4 (bigEndian 16 bits.toNat) =
    if bits.toNat / 2 ^ 32 = 0xffff then some (bigEndian 4 bits.toNat) else none := by
  have length := bigEndian_length 16 bits.toNat
  have parts : bigEndian 16 bits.toNat =
      bigEndian 12 (bits.toNat / 2 ^ 32) ++ bigEndian 4 bits.toNat := bigEndian_add 12 4 bits.toNat
  have front : (bigEndian 16 bits.toNat).take 12 = bigEndian 12 (bits.toNat / 2 ^ 32) := by
    rw [parts, List.take_left' (bigEndian_length 12 _)]
  have back : (bigEndian 16 bits.toNat).drop 12 = bigEndian 4 bits.toNat := by
    rw [parts, List.drop_left' (bigEndian_length 12 _)]
  have wrapped : v4Prefix = bigEndian 12 0xffff := by decide
  rw [to4, if_neg (by omega), front, back]
  by_cases mapped : bits.toNat / 2 ^ 32 = 0xffff
  · rw [if_pos mapped, if_pos ⟨length, by rw [wrapped, mapped]⟩]
  · rw [if_neg mapped, if_neg]
    rintro ⟨-, same⟩
    have equal := bigEndian_inj (same.trans wrapped)
    omega

/-- The address of a client without a zone is written down byte by byte. -/
theorem addressWords_parseIP {text : AddressText} {host : List Char} {addr : Addr}
    (parsed : text.parseAddr (String.ofList host) = some addr) (unzoned : addr.zone = "") :
    ∃ words, addressWords (parseIP text host) = some words ∧
      words.toList.flatMap littleEndian = padded (addrBytes addr.unmap) := by
  cases addr with
  | v4 bits =>
    simp only [parseIP, parsed]
    exact addressWords_of_v4 (to4_v4 bits) (bigEndian_length 4 _)
  | v6 bits zone =>
    have plain : zone = "" := unzoned
    simp only [parseIP, parsed, if_pos plain, Addr.unmap, Addr.is4In6, decide_eq_true_eq]
    by_cases mapped : bits.toNat / 2 ^ 32 = 0xffff
    · have low : bigEndian 4 (bits.setWidth 32).toNat = bigEndian 4 bits.toNat := by
        simp only [bigEndian, BitVec.toNat_setWidth, List.nil_append, List.cons_append,
          List.cons.injEq, ← UInt8.toNat_inj, UInt8.toNat_ofNat', and_true]
        refine ⟨?_, ?_, ?_, ?_⟩ <;> omega
      rw [if_pos mapped, addrBytes, low]
      exact addressWords_of_v4 ((to4_v6 bits).trans (if_pos mapped)) (bigEndian_length 4 _)
    · rw [if_neg mapped]
      exact addressWords_of_v6 ((to4_v6 bits).trans (if_neg mapped)) (bigEndian_length 16 _)

/-- A text that is no address without a zone gives no bytes, and slicing those ends the agent. -/
theorem addressWords_eq_none (text : AddressText) (host : List Char)
    (unknown : ∀ addr, text.parseAddr (String.ofList host) = some addr → addr.zone ≠ "") :
    addressWords (parseIP text host) = none := by
  have empty : parseIP text host = [] := by
    unfold parseIP
    cases parsed : text.parseAddr (String.ofList host) with
    | none => rfl
    | some addr =>
      cases addr with
      | v4 bits => exact absurd rfl (unknown _ parsed)
      | v6 bits zone => exact if_neg (unknown _ parsed)
  rw [empty]
  rfl

/-- A login is recorded, with the address of its client, if and only if the name of the terminal has four
bytes and the client's address is in the expected form without a zone, or not in that form at all. The two
slices at fixed offsets decide: one of the name, and one of the bytes that `net.ParseIP` returns. -/
theorem utmpStartSession_records (text : AddressText) (pid : Int) (now : TimeVal) (line user : Bytes)
    (remoteAddr : List Char) :
    (∃ record, utmpStartSession text pid now line user remoteAddr = some record ∧
      record.address = clientBytes text remoteAddr) ↔
    4 ≤ (terminal line).length ∧ ∀ host port, splitHostPort remoteAddr = some (host, port) →
      ∃ addr, text.parseAddr (String.ofList host) = some addr ∧ addr.zone = "" := by
  constructor
  · rintro ⟨record, recorded, -⟩
    constructor
    · by_contra short
      cases split : splitHostPort remoteAddr <;> simp [utmpStartSession, split, short] at recorded
    · intro host port split
      by_contra unknown
      have none := addressWords_eq_none text host fun addr parsed unzoned =>
        unknown ⟨addr, parsed, unzoned⟩
      simp [utmpStartSession, split, none] at recorded
  · rintro ⟨named, known⟩
    cases split : splitHostPort remoteAddr with
    | none =>
      simp [utmpStartSession, clientBytes, split, named]
      rfl
    | some parts =>
      obtain ⟨host, port⟩ := parts
      obtain ⟨addr, parsed, unzoned⟩ := known host port split
      obtain ⟨words, read, written⟩ := addressWords_parseIP parsed unzoned
      simp [utmpStartSession, clientBytes, split, parsed, read, named]
      exact written

example : (utmpStartSession usualText 1 ⟨0, 0⟩ [112, 116, 115, 47, 48] [] "[2001:db8::1]:22".toList).map
    Utmpx.address = some [32, 1, 13, 184, 0, 0, 0, 0, 0, 0, 0, 0, 0, 0, 0, 1] := by
  decide +kernel

/-- A zone, a host that is no address, and a short name of a terminal each end the agent. -/
theorem utmpStartSession_panics :
    usualText.parseAddr "fe80::1%eth0" = some (.v6 (0xfe80#128 <<< 112 ||| 1#128) "eth0") ∧
    utmpStartSession usualText 1 ⟨0, 0⟩ [112, 116, 115, 47, 48] [] "[fe80::1%eth0]:22".toList = none ∧
    utmpStartSession usualText 1 ⟨0, 0⟩ [112, 116, 115, 47, 48] [] "localhost:22".toList = none ∧
    utmpStartSession usualText 1 ⟨0, 0⟩ [47, 100, 101, 118, 47, 116, 49] [] "192.0.2.7:22".toList = none := by
  decide +kernel

end ShellHub.LoginRecords
