import Mathlib.Data.BitVec

/-!
# Internet addresses and their ranges

An address is an IPv4 address, or an IPv6 address with an optional zone. An IPv6 address may wrap an
IPv4 address; the two are different addresses, and a reader who wants to treat them alike has to unwrap
the mapped one. A prefix is an address and a number of leading bits. It contains the addresses of its
own family that agree with it on these bits and have no zone.

The range of a prefix is an interval of numbers. `contains_iff` says that containment, which compares
leading bits, is membership in that interval.
-/

namespace ShellHub.Addresses

/-- An IP address. A zone that is not there is the empty text. -/
inductive Addr where
  | v4 (bits : BitVec 32)
  | v6 (bits : BitVec 128) (zone : String)
  deriving DecidableEq, Repr

namespace Addr

/-- The number of bits of an address. -/
def bitLen : Addr → Nat
  | .v4 _ => 32
  | .v6 _ _ => 128

/-- The number that an address is. -/
def toNat : Addr → Nat
  | .v4 bits => bits.toNat
  | .v6 bits _ => bits.toNat

/-- The zone of an address. -/
def zone : Addr → String
  | .v4 _ => ""
  | .v6 _ zone => zone

/-- Whether an address is an IPv6 address that wraps an IPv4 address. -/
def is4In6 : Addr → Bool
  | .v4 _ => false
  | .v6 bits _ => bits.toNat / 2 ^ 32 = 0xffff

/-- The wrapped address of a mapped address, and any other address as it is. -/
def unmap (addr : Addr) : Addr :=
  match addr with
  | .v4 bits => .v4 bits
  | .v6 bits zone => if addr.is4In6 then .v4 (bits.setWidth 32) else .v6 bits zone

/-- An address without its zone. -/
def withoutZone : Addr → Addr
  | .v4 bits => .v4 bits
  | .v6 bits _ => .v6 bits ""

/-- An address as a reader means it: a mapped address is its IPv4 address, and the zone is ignored. -/
def read (addr : Addr) : Addr := addr.unmap.withoutZone

theorem unmap_of_not_mapped {addr : Addr} (plain : addr.is4In6 = false) : addr.unmap = addr := by
  cases addr with
  | v4 bits => rfl
  | v6 bits zone => simp [unmap, plain]

theorem unmap_of_mapped {bits : BitVec 128} {zone : String}
    (mapped : (Addr.v6 bits zone).is4In6 = true) :
    (Addr.v6 bits zone).unmap = .v4 (bits.setWidth 32) :=
  if_pos mapped

theorem withoutZone_of_zone {addr : Addr} (none : addr.zone = "") : addr.withoutZone = addr := by
  cases addr with
  | v4 bits => rfl
  | v6 bits zone =>
    cases none
    rfl

/-- The unwrapped address of a mapped address has no zone. -/
theorem zone_unmap_of_mapped {addr : Addr} (mapped : addr.is4In6 = true) :
    addr.unmap.zone = "" := by
  cases addr with
  | v4 bits => rfl
  | v6 bits zone => rw [unmap_of_mapped mapped, Addr.zone]

/-- An address that is read has no zone. -/
theorem zone_read (addr : Addr) : addr.read.zone = "" := by
  unfold read
  cases addr.unmap <;> rfl

/-- An unwrapped address has no zone if there was none, or if it was mapped. -/
theorem zone_unmap_iff {addr : Addr} :
    addr.unmap.zone = "" ↔ addr.zone = "" ∨ addr.is4In6 = true := by
  cases mapped : addr.is4In6 with
  | true => exact iff_of_true (zone_unmap_of_mapped mapped) (.inr rfl)
  | false => simp [unmap_of_not_mapped mapped]

/-- Reading an address that has no zone, or that is mapped, only unwraps it. -/
theorem read_eq_unmap {addr : Addr} (unzoned : addr.zone = "" ∨ addr.is4In6 = true) :
    addr.read = addr.unmap :=
  withoutZone_of_zone (zone_unmap_iff.mpr unzoned)

theorem is4In6_unmap (addr : Addr) : addr.unmap.is4In6 = false := by
  cases mapped : addr.is4In6 with
  | false => rw [unmap_of_not_mapped mapped, mapped]
  | true =>
    cases addr with
    | v4 bits => cases mapped
    | v6 bits zone => rw [unmap_of_mapped mapped, is4In6]

end Addr

/-- An address and the number of its leading bits that count. -/
structure Prefix where
  addr : Addr
  bits : Nat
  deriving DecidableEq, Repr

namespace Prefix

/-- A prefix has no zone, and not more bits than its address. -/
structure Valid (range : Prefix) : Prop where
  zone : range.addr.zone = ""
  bits : range.bits ≤ range.addr.bitLen

/-- The prefix of one address. -/
def host (addr : Addr) : Prefix := ⟨addr, addr.bitLen⟩

/-- Whether an address is in a prefix: it has no zone, is of the family of the prefix, and agrees with
it on the leading bits. -/
def contains (range : Prefix) (addr : Addr) : Bool :=
  addr.zone = "" && addr.bitLen = range.addr.bitLen &&
    addr.toNat >>> (range.addr.bitLen - range.bits) =
      range.addr.toNat >>> (range.addr.bitLen - range.bits)

/-- The number of addresses of a prefix. -/
def size (range : Prefix) : Nat := 2 ^ (range.addr.bitLen - range.bits)

/-- The first address of a prefix, as a number. -/
def base (range : Prefix) : Nat := range.addr.toNat - range.addr.toNat % range.size

/-- An address lies in the range of a prefix. -/
structure Covers (range : Prefix) (addr : Addr) : Prop where
  family : addr.bitLen = range.addr.bitLen
  above : range.base ≤ addr.toNat
  below : addr.toNat < range.base + range.size

instance (range : Prefix) (addr : Addr) : Decidable (range.Covers addr) :=
  decidable_of_iff
    (addr.bitLen = range.addr.bitLen ∧ range.base ≤ addr.toNat ∧
      addr.toNat < range.base + range.size)
    ⟨fun ⟨family, above, below⟩ => ⟨family, above, below⟩,
      fun ⟨family, above, below⟩ => ⟨family, above, below⟩⟩

/-- Numbers with the same quotient are those of one block. -/
theorem div_eq_div_iff_block (first second : Nat) {size : Nat} (positive : 0 < size) :
    first / size = second / size ↔
      second - second % size ≤ first ∧ first < second - second % size + size := by
  have split := Nat.div_add_mod second size
  have whole : second - second % size = size * (second / size) := by omega
  rw [whole, Nat.div_eq_iff positive]
  constructor
  · rintro ⟨low, high⟩
    rw [Nat.mul_comm] at low high
    exact ⟨low, by omega⟩
  · rintro ⟨low, high⟩
    rw [Nat.mul_comm]
    exact ⟨low, by omega⟩

/-- Containment is membership in the range, for an address without a zone. -/
theorem contains_iff (range : Prefix) (addr : Addr) :
    range.contains addr = true ↔ addr.zone = "" ∧ range.Covers addr := by
  have block := div_eq_div_iff_block addr.toNat range.addr.toNat
    (Nat.two_pow_pos (range.addr.bitLen - range.bits))
  simp only [contains, Bool.and_eq_true, decide_eq_true_eq, Nat.shiftRight_eq_div_pow, block]
  constructor
  · rintro ⟨⟨zone, family⟩, above, below⟩
    exact ⟨zone, family, above, below⟩
  · rintro ⟨zone, family, above, below⟩
    exact ⟨⟨zone, family⟩, above, below⟩

/-- A prefix as a reader means it: within the block of the mapped addresses it is an IPv4 prefix. -/
def read (range : Prefix) : Prefix :=
  if range.addr.is4In6 ∧ 96 ≤ range.bits then ⟨range.addr.unmap, range.bits - 96⟩ else range

/-- A prefix within the block of the mapped addresses contains no unwrapped address: its addresses are
all mapped. -/
theorem not_contains_of_read_ne {range : Prefix} (mapped : range.read ≠ range) (addr : Addr) :
    range.contains addr.unmap = false := by
  have inside : range.addr.is4In6 = true ∧ 96 ≤ range.bits := by
    by_contra outside
    exact mapped (if_neg outside)
  obtain ⟨⟨bits⟩ | ⟨bits, zone⟩, length⟩ := range
  · cases inside.1
  · by_contra contained
    have unwrapped := addr.is4In6_unmap
    simp only [contains, Bool.not_eq_false, Bool.and_eq_true, decide_eq_true_eq] at contained
    cases whole : addr.unmap with
    | v4 other => simp [whole, Addr.bitLen] at contained
    | v6 other otherZone =>
      simp only [whole, Addr.toNat, Addr.bitLen, Addr.is4In6, Nat.shiftRight_eq_div_pow,
        decide_eq_true_eq, decide_eq_false_iff_not] at contained inside unwrapped
      -- the leading bits that are compared are at least those that tell a mapped address
      have split : 2 ^ 32 = 2 ^ (128 - length) * 2 ^ (length - 96) ∨ 128 < length := by
        rcases Nat.lt_or_ge 128 length with long | short
        · exact .inr long
        · exact .inl (by rw [← Nat.pow_add]; congr 1; omega)
      rcases split with power | long
      · rw [power, ← Nat.div_div_eq_div_mul, contained.2, Nat.div_div_eq_div_mul, ← power] at unwrapped
        exact unwrapped inside.1
      · rw [show 128 - length = 0 by omega, Nat.pow_zero, Nat.div_one, Nat.div_one] at contained
        exact unwrapped (contained.2 ▸ inside.1)

/-- Reading the prefix of one address is the prefix of that address as it is read. -/
theorem read_host (addr : Addr) : (host addr).read = host addr.unmap := by
  cases addr with
  | v4 bits => rfl
  | v6 bits zone =>
    cases mapped : (Addr.v6 bits zone).is4In6 with
    | true => simp [read, host, mapped, Addr.bitLen, Addr.unmap_of_mapped mapped]
    | false => simp [read, host, mapped, Addr.unmap_of_not_mapped mapped]

end Prefix

end ShellHub.Addresses
