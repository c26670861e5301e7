import ShellHub.AddressTexts

/-!
# The source restriction of access policies

A policy may be restricted to source addresses. Its entries are brought into the form of prefixes when
the policy is stored, and the address of the client is compared with them when it connects. A single
address is unwrapped if it is a mapped one; a prefix is stored as it was written; and the address of
the client is always unwrapped, but keeps its zone.

A client that the comparison lets through lies in the range of an entry. The converse fails in three
ways: a client with a zone matches no entry, a prefix of mapped addresses matches no client at all, and
a prefix that the validation accepts but the comparison cannot read hides the entries after it. This
module proves that the restriction means the ranges that its entries denote exactly for the lists and
clients that none of the three concerns.
-/

namespace ShellHub.AccessPolicies

open Addresses

/-- Why the source of a connection could not be compared. -/
inductive SourceError where
  | invalidClientIP (clientIP : String)
  | invalidSourceCIDR (cidr : String)
  deriving DecidableEq, Repr

section Matching

variable (text : AddressText)

/-- The stored form of an entry. The prefix of an address has no zone. -/
def normalizeSourceIP (entry : String) : String :=
  if '/' ∈ entry.toList then entry
  else
    match text.parseAddr entry with
    | none => entry
    | some addr => text.prefixString (Prefix.host addr.read)

/-- `normalizeSourceIPs`. -/
def normalizeSourceIPs : List String → List String
  | [] => []
  | entry :: rest =>
    if trimSpace entry = "" then normalizeSourceIPs rest
    else normalizeSourceIP text (trimSpace entry) :: normalizeSourceIPs rest

/-- The loop of `sourceIPMatches`. -/
def anyContains (addr : Addr) : List String → Except SourceError Bool
  | [] => .ok false
  | cidr :: rest =>
    match text.parsePrefix cidr with
    | none => .error (.invalidSourceCIDR cidr)
    | some range => if range.contains addr then .ok true else anyContains addr rest

/-- `sourceIPMatches`. -/
def sourceIPMatches (cidrs : List String) (clientIP : String) : Except SourceError Bool :=
  if cidrs.length = 0 then .ok true
  else
    match text.parseAddr clientIP with
    | none => .error (.invalidClientIP clientIP)
    | some addr => anyContains text addr.unmap cidrs

/-- The validation of an entry of a request: `cidr|ip`. -/
def AcceptedSource (entry : String) : Prop := text.isCIDR entry = true ∨ text.isIP entry = true

instance (entry : String) : Decidable (AcceptedSource text entry) :=
  inferInstanceAs (Decidable (_ ∨ _))

/-- An entry can be read when it is compared: the number of bits of a prefix has no leading zero. -/
def ReadableSource (entry : String) : Prop := '/' ∈ entry.toList → (text.parsePrefix entry).isSome

/-- An entry can be read, and is no prefix of mapped addresses. -/
def PlainSource (entry : String) : Prop :=
  '/' ∈ entry.toList → ((text.parsePrefix entry).any fun range => range.read = range) = true

instance (entry : String) : Decidable (PlainSource text entry) :=
  inferInstanceAs (Decidable (_ → _))

-- how the validation reads a prefix
variable (parseCIDR : String → Option Prefix)

/-- The prefix that an entry denotes. -/
def denotedSource (entry : String) : Option Prefix :=
  if '/' ∈ entry.toList then parseCIDR entry else (text.parseAddr entry).map Prefix.host

/-- The address lies in the range of an entry, with mapped addresses read as IPv4 addresses and zones
ignored. -/
def InSource (addr : Addr) (entry : String) : Prop :=
  ∃ range, denotedSource text parseCIDR entry = some range ∧ range.read.Covers addr.read

/-- The comparison comes to an entry without prefixes of mapped addresses in whose range the address
lies. -/
def Comes (addr : Addr) (entries : List String) : Prop :=
  ∃ front entry back, entries = front ++ entry :: back ∧ (∀ other ∈ front, ReadableSource text other) ∧
    PlainSource text entry ∧ InSource text parseCIDR addr entry

variable {text}

theorem AcceptedSource.solid {entry : String} (accepted : AcceptedSource text entry) :
    trimSpace entry = entry ∧ entry ≠ "" := by
  rcases accepted with cidr | ip
  · obtain ⟨slash, solid⟩ := text.isCIDR_chars entry cidr
    refine ⟨trimSpace_of_solid solid, ?_⟩
    rintro rfl
    cases slash
  · obtain ⟨filled, chars⟩ := text.isIP_chars entry ip
    exact ⟨trimSpace_of_solid fun char member => (chars char member).2, filled⟩

section Entries

variable {parseCIDR : String → Option Prefix}
  -- both readers agree where the stricter one reads
  (agree : ∀ entry range, text.parsePrefix entry = some range → parseCIDR entry = some range)

include agree

/-- The stored form of a readable entry has an unwrapped client exactly if the client has no zone, the
entry is plain and the client lies in its range. -/
theorem contains_normalizeSourceIP {entry : String} (accepted : AcceptedSource text entry)
    (readable : ReadableSource text entry) (addr : Addr) :
    ∃ range, text.parsePrefix (normalizeSourceIP text entry) = some range ∧
      (range.contains addr.unmap = true ↔ addr.unmap.zone = "" ∧ PlainSource text entry ∧
        InSource text parseCIDR addr entry) := by
  have unwrapped (unzoned : addr.unmap.zone = "") := Addr.read_eq_unmap (Addr.zone_unmap_iff.mp unzoned)
  by_cases slash : '/' ∈ entry.toList
  · obtain ⟨range, parsed⟩ := Option.isSome_iff_exists.mp (readable slash)
    refine ⟨range, by rw [normalizeSourceIP, if_pos slash, parsed], ?_⟩
    by_cases plain : range.read = range
    · have plainly : PlainSource text entry := fun _ => by simp [parsed, plain]
      rw [Prefix.contains_iff, InSource, denotedSource, if_pos slash, agree entry range parsed]
      refine and_congr_right fun unzoned => ?_
      simp [plainly, plain, unwrapped unzoned]
    · rw [Prefix.not_contains_of_read_ne plain]
      refine iff_of_false Bool.false_ne_true fun ⟨_, plainly, _⟩ => plain ?_
      simpa [parsed] using plainly slash
  · obtain ⟨found, parsed, valid⟩ : ∃ found, text.parseAddr entry = some found ∧ found.zone = "" := by
      rcases accepted with cidr | ip
      · exact absurd (text.isCIDR_chars entry cidr).1 slash
      · exact text.isIP_parses entry ip
    have read := Addr.read_eq_unmap (.inl valid)
    have stored : text.parsePrefix (normalizeSourceIP text entry) = some (Prefix.host found.unmap) := by
      rw [normalizeSourceIP, if_neg slash, parsed]
      dsimp only
      rw [read]
      exact text.parse_string _ ⟨Addr.zone_unmap_iff.mpr (.inl valid), Nat.le_refl _⟩
    refine ⟨_, stored, ?_⟩
    have plainly : PlainSource text entry := fun here => absurd here slash
    rw [Prefix.contains_iff, InSource, denotedSource, if_neg slash, parsed]
    refine and_congr_right fun unzoned => ?_
    simp [plainly, Prefix.read_host, unwrapped unzoned]

/-- The comparison succeeds exactly if the client has no zone and it comes to an entry with the client.
An entry that cannot be read ends it, and one that does not have the client is passed over. -/
theorem anyContains_normalized {entries : List String} (addr : Addr)
    (accepted : ∀ entry ∈ entries, AcceptedSource text entry) :
    anyContains text addr.unmap (normalizeSourceIPs text entries) = .ok true ↔
      addr.unmap.zone = "" ∧ Comes text parseCIDR addr entries := by
  induction entries with
  | nil => simp [normalizeSourceIPs, anyContains, Comes]
  | cons entry rest ih =>
    have own := accepted entry List.mem_cons_self
    obtain ⟨trimmed, filled⟩ := own.solid
    have comes : Comes text parseCIDR addr (entry :: rest) ↔
        PlainSource text entry ∧ InSource text parseCIDR addr entry ∨
          ReadableSource text entry ∧ Comes text parseCIDR addr rest := by
      constructor
      · rintro ⟨_ | ⟨first, front⟩, found, back, whole, readable, here⟩
        · cases whole
          exact .inl here
        · cases whole
          exact .inr ⟨readable entry List.mem_cons_self, front, found, back, rfl,
            fun other member => readable other (List.mem_cons_of_mem _ member), here⟩
      · rintro (here | ⟨readable, front, found, back, rfl, others, there⟩)
        · exact ⟨[], entry, rest, rfl, by simp, here⟩
        · exact ⟨entry :: front, found, back, rfl, List.forall_mem_cons.mpr ⟨readable, others⟩, there⟩
    rw [comes]
    simp only [normalizeSourceIPs, trimmed, if_neg filled, anyContains]
    by_cases readable : ReadableSource text entry
    · obtain ⟨range, parsed, contained⟩ := contains_normalizeSourceIP agree own readable addr
      simp only [parsed, readable, true_and]
      cases inside : range.contains addr.unmap with
      | true =>
        obtain ⟨unzoned, here⟩ := contained.mp inside
        simp [unzoned, here]
      | false =>
        rw [inside] at contained
        have absent : addr.unmap.zone = "" → ¬ (PlainSource text entry ∧ InSource text parseCIDR addr entry) :=
          fun unzoned here => Bool.false_ne_true (contained.mpr ⟨unzoned, here⟩)
        rw [if_neg Bool.false_ne_true,
          ih fun other member => accepted other (List.mem_cons_of_mem _ member)]
        exact and_congr_right fun unzoned => (or_iff_right (absent unzoned)).symm
    · have slash : '/' ∈ entry.toList := by_contra fun none => readable fun here => absurd here none
      have unread : text.parsePrefix entry = none := by
        by_contra some
        exact readable fun _ => Option.isSome_iff_ne_none.mpr some
      have hidden : ¬ PlainSource text entry := fun plain => by simpa [unread] using plain slash
      simp [normalizeSourceIP, slash, unread, readable, hidden]

end Entries

end Matching

/-- For every list of entries that passes the validation, and every address of a client: the stored form
of the list matches the client if and only if the list is empty or the address lies in the range of an
entry, exactly if, for a client in the range of some entry, the client has no zone (or a mapped address)
and the comparison comes to such an entry that is no prefix of mapped addresses. That it matches no
client outside the ranges is part of `anyContains_normalized`. -/
theorem sourceIPMatches_iff (text : AddressText) (parseCIDR : String → Option Prefix)
    (agree : ∀ entry range, text.parsePrefix entry = some range → parseCIDR entry = some range)
    (entries : List String) (clientIP : String) (addr : Addr)
    (accepted : ∀ entry ∈ entries, AcceptedSource text entry)
    (reported : text.parseAddr clientIP = some addr) :
    (sourceIPMatches text (normalizeSourceIPs text entries) clientIP = .ok true ↔
      entries = [] ∨ ∃ entry ∈ entries, InSource text parseCIDR addr entry) ↔
    ((∃ entry ∈ entries, InSource text parseCIDR addr entry) →
      (addr.zone = "" ∨ addr.is4In6 = true) ∧ Comes text parseCIDR addr entries) := by
  cases entries with
  | nil => simp [normalizeSourceIPs, sourceIPMatches]
  | cons entry rest =>
    obtain ⟨trimmed, filled⟩ := (accepted entry List.mem_cons_self).solid
    have stored : (normalizeSourceIPs text (entry :: rest)).length ≠ 0 := by
      simp [normalizeSourceIPs, trimmed, filled]
    have within : Comes text parseCIDR addr (entry :: rest) →
        ∃ other ∈ entry :: rest, InSource text parseCIDR addr other := by
      rintro ⟨front, found, back, whole, -, -, here⟩
      rw [whole]
      exact ⟨found, by simp, here⟩
    simp only [sourceIPMatches, if_neg stored, reported, anyContains_normalized agree addr accepted,
      Addr.zone_unmap_iff, List.cons_ne_nil, false_or]
    exact ⟨fun means => means.mpr, fun enough => ⟨fun found => within found.2, enough⟩⟩

/-- Single addresses and prefixes of both families, and a client that is reported as a mapped
address. -/
theorem sourceIPMatches_mapped_client :
    sourceIPMatches usualText (normalizeSourceIPs usualText ["2001:db8::1", "10.0.0.0/8"])
        "::ffff:10.1.2.3" = .ok true ∧
    (sourceIPMatches usualText (normalizeSourceIPs usualText ["2001:db8::1", "10.0.0.0/8"])
        "::ffff:10.1.2.3" = .ok true ↔
      ["2001:db8::1", "10.0.0.0/8"] = [] ∨ ∃ entry ∈ ["2001:db8::1", "10.0.0.0/8"],
        InSource usualText usualText.parsePrefix (.v6 0xffff0a010203 "") entry) := by
  refine ⟨by decide +kernel, (sourceIPMatches_iff usualText _ (fun _ _ => id)
    ["2001:db8::1", "10.0.0.0/8"] "::ffff:10.1.2.3" (.v6 0xffff0a010203 "") (by decide +kernel)
    (by decide +kernel)).mpr fun _ => ⟨.inl rfl, ["2001:db8::1"], "10.0.0.0/8", [], rfl, ?_,
      by decide +kernel, ⟨.v4 0x0a000000, 8⟩, by decide +kernel, by decide +kernel⟩⟩
  intro other member slash
  rw [List.mem_singleton.mp member] at slash
  exact absurd slash (by decide +kernel)

/-- The prefix `::ffff:10.0.0.0/104` passes the validation and denotes the range `10.0.0.0/8`, and it
does not match the client `10.1.2.3`. The client `fe80::1%eth0` does not match `fe80::/10`. -/
theorem mapped_and_zoned_mismatch :
    (AcceptedSource usualText "::ffff:10.0.0.0/104" ∧
      sourceIPMatches usualText (normalizeSourceIPs usualText ["::ffff:10.0.0.0/104"]) "10.1.2.3" =
        .ok false ∧
      denotedSource usualText usualText.parsePrefix "::ffff:10.0.0.0/104" = some ⟨.v6 0xffff0a000000 "", 104⟩ ∧
      usualText.parseAddr "10.1.2.3" = some (.v4 0x0a010203) ∧
      (Prefix.mk (.v6 0xffff0a000000 "") 104).read.Covers (Addr.v4 0x0a010203).read) ∧
    (AcceptedSource usualText "fe80::/10" ∧
      sourceIPMatches usualText (normalizeSourceIPs usualText ["fe80::/10"]) "fe80::1%eth0" =
        .ok false ∧
      denotedSource usualText usualText.parsePrefix "fe80::/10" = some ⟨.v6 0xfe800000000000000000000000000000 "", 10⟩ ∧
      usualText.parseAddr "fe80::1%eth0" =
        some (.v6 0xfe800000000000000000000000000001 "eth0") ∧
      (Prefix.mk (.v6 0xfe800000000000000000000000000000 "") 10).read.Covers
        (Addr.v6 0xfe800000000000000000000000000001 "eth0").read) := by
  decide +kernel

end ShellHub.AccessPolicies
