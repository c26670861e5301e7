import ShellHub.TextCuts

/-!
# Host names of web endpoints

A web endpoint is reached under a name made of its address, 32 hexadecimal digits, and the domain of the
installation. A request names a host, and `addressFromHost` says which address that is, if it is one.

Names are lists of characters. Lower-casing maps each character for itself; nothing is assumed about
how letters outside of ASCII are mapped.
-/

namespace ShellHub.EndpointHosts

open TextCuts

/-- The lower case of an ASCII character. -/
def asciiLower (char : Char) : Char :=
  if 'A' ≤ char ∧ char ≤ 'Z' then Char.ofNat (char.toNat + 32) else char

/-- A map of letters to their lower case. -/
structure Lowering where
  rune : Char → Char
  ascii : ∀ char : Char, char.toNat < 128 → rune char = asciiLower char

def Lowering.toLower (lowering : Lowering) (text : List Char) : List Char := text.map lowering.rune

def asciiLowering : Lowering := ⟨asciiLower, fun _ _ => rfl⟩

/-- A digit or one of the letters from `a` to `f`. -/
def isHex (char : Char) : Bool := ('a' ≤ char && char ≤ 'f') || ('0' ≤ char && char ≤ '9')

/-- The shape of an address. -/
def isAddress (text : List Char) : Bool := text.length = 32 && text.all isHex

/-- The full name of a web endpoint. -/
def host (address domain : List Char) : List Char :=
  if domain = [] then address else address ++ '.' :: domain

/-- Text without one occurrence of a suffix. -/
def trimSuffix (text suffix : List Char) : List Char :=
  if suffix <:+ text then text.take (text.length - suffix.length) else text

/-- Text in front of a suffix that it must end in. -/
def cutSuffix (text suffix : List Char) : Option (List Char) :=
  if suffix <:+ text then some (text.take (text.length - suffix.length)) else none

/-- A host without a port and without the dot of the root label. -/
def hostname (host : List Char) : List Char :=
  trimSuffix (match splitHostPort host with
    | some (name, _) => name
    | none => host) ['.']

/-- The address that a request is for, or false when it is not for a web endpoint. -/
def addressFromHost (lowering : Lowering) (host domain : List Char) : List Char × Bool :=
  if domain = [] then ([], false)
  else
    match cutSuffix (lowering.toLower (hostname host)) ('.' :: lowering.toLower domain) with
    | some candidate => if isAddress candidate then (candidate, true) else ([], false)
    | none => ([], false)

/-! ## Addresses -/

theorem cutSuffix_eq_some {text suffix front : List Char} :
    cutSuffix text suffix = some front ↔ text = front ++ suffix := by
  unfold cutSuffix
  constructor
  · intro cut
    split_ifs at cut with ends
    obtain ⟨before, rfl⟩ := ends
    cases cut
    simp
  · rintro rfl
    simp

theorem isAddress_iff {text : List Char} :
    isAddress text = true ↔ text.length = 32 ∧ ∀ char ∈ text, isHex char = true := by
  simp [isAddress]

/-- The characters of an address are in lower case, and none is a mark in a name. -/
theorem isHex_char (lowering : Lowering) {char : Char} (hex : isHex char = true) :
    lowering.rune char = char ∧ char ≠ '.' ∧ char ≠ ':' ∧ char ≠ '[' := by
  have range : ('a'.toNat ≤ char.toNat ∧ char.toNat ≤ 'f'.toNat) ∨
      ('0'.toNat ≤ char.toNat ∧ char.toNat ≤ '9'.toNat) := by
    simpa [isHex, Char.le_def, UInt32.le_iff_toNat_le] using hex
  simp only [Char.reduceToNat] at range
  refine ⟨?_, ?_, ?_, ?_⟩
  · rw [lowering.ascii char (by omega), asciiLower, if_neg]
    rintro ⟨above, below⟩
    have above : 'A'.toNat ≤ char.toNat := UInt32.le_iff_toNat_le.mp above
    have below : char.toNat ≤ 'Z'.toNat := UInt32.le_iff_toNat_le.mp below
    simp only [Char.reduceToNat] at above below
    omega
  all_goals
    rintro rfl
    simp only [Char.reduceToNat] at range
    omega

theorem toLower_dotted (lowering : Lowering) (front back : List Char) :
    lowering.toLower (front ++ '.' :: back) =
      lowering.toLower front ++ '.' :: lowering.toLower back := by
  simp only [Lowering.toLower, List.map_append, List.map_cons, lowering.ascii '.' (by decide)]
  rfl

/-- Lower-casing leaves an address in front of a name as it is. -/
theorem toLower_host (lowering : Lowering) {address domain : List Char}
    (shaped : isAddress address = true) (nonempty : domain ≠ []) :
    lowering.toLower (host address domain) = address ++ '.' :: lowering.toLower domain := by
  have digits : address.map lowering.rune = address := by
    conv_rhs => rw [← List.map_id address]
    refine List.map_congr_left fun char member => ?_
    exact (isHex_char lowering ((isAddress_iff.mp shaped).2 char member)).1
  rw [host, if_neg nonempty, toLower_dotted, Lowering.toLower, digits]

/-- A host is accepted exactly when its name in lower case is an address before the domain. -/
theorem addressFromHost_eq {lowering : Lowering} {name domain address : List Char} (nonempty : domain ≠ []) :
    addressFromHost lowering name domain = (address, true) ↔ isAddress address = true ∧
      lowering.toLower (hostname name) = address ++ '.' :: lowering.toLower domain := by
  unfold addressFromHost
  rw [if_neg nonempty]
  constructor
  · intro accepted
    cases cut : cutSuffix (lowering.toLower (hostname name)) ('.' :: lowering.toLower domain) with
    | none =>
      rw [cut] at accepted
      cases accepted
    | some candidate =>
      simp only [cut] at accepted
      split_ifs at accepted with shaped
      · cases accepted
        exact ⟨shaped, cutSuffix_eq_some.mp cut⟩
      · cases accepted
  · rintro ⟨shaped, named⟩
    simp only [cutSuffix_eq_some.mpr named, if_pos shaped]

/-- What is not accepted gives no address. -/
theorem addressFromHost_refused {lowering : Lowering} {name domain : List Char} (nonempty : domain ≠ [])
    (refused : ∀ address, isAddress address = true →
      lowering.toLower (hostname name) ≠ address ++ '.' :: lowering.toLower domain) :
    (addressFromHost lowering name domain).2 = false := by
  rw [Bool.eq_false_iff]
  intro accepted
  obtain ⟨shaped, named⟩ := (addressFromHost_eq nonempty).mp (Prod.ext rfl accepted :
    addressFromHost lowering name domain = ((addressFromHost lowering name domain).1, true))
  exact refused _ shaped named

/-- The name of an endpoint has no port, and no dot at its end, when its domain has none. -/
theorem hostname_host {address domain : List Char} (shaped : isAddress address = true)
    (nonempty : domain ≠ []) (portless : splitHostPort domain = none) (undotted : ¬ ['.'] <:+ domain) :
    hostname (host address domain) = host address domain := by
  obtain ⟨length, digits⟩ := isAddress_iff.mp shaped
  have unported : splitHostPort (host address domain) = none := by
    rw [host, if_neg nonempty]
    cases address with
    | nil => cases length
    | cons first rest =>
      have plain := fun char member => isHex_char asciiLowering (digits char member)
      have uncoloned : ':' ∉ first :: rest ++ ['.'] := by
        intro member
        rcases List.mem_append.mp member with digit | dot
        · exact (plain ':' digit).2.2.1 rfl
        · exact absurd dot (by decide)
      have joined := splitHostPort_prepend (plain first List.mem_cons_self).2.2.2 uncoloned portless
      simpa using joined
  have final : domain <:+ host address domain := by
    rw [host, if_neg nonempty]
    exact (List.suffix_cons '.' domain).trans (List.suffix_append ..)
  have undottedHost : ¬ ['.'] <:+ host address domain := fun dotted =>
    undotted (List.suffix_of_suffix_length_le dotted final (List.length_pos_of_ne_nil nonempty))
  rw [hostname, unported]
  exact if_neg undottedHost

/-- Names of web endpoints can be read back, and nothing else is taken for one: no name with labels
before the address, with another domain or with an address of another length, in upper or lower
case. A name is accepted exactly if it is a hexadecimal label of the right length before the domain,
and that label is what is returned. -/
theorem addressFromHost_inverts (lowering : Lowering) (name domain : List Char) (nonempty : domain ≠ [])
    (portless : splitHostPort domain = none) (undotted : ¬ ['.'] <:+ domain) :
    (∀ address, addressFromHost lowering name domain = (address, true) ↔ isAddress address = true ∧
      lowering.toLower (hostname name) = lowering.toLower (host address domain)) ∧
    (∀ address, isAddress address = true →
      addressFromHost lowering (host address domain) domain = (address, true)) ∧
    (∀ labels address,
      lowering.toLower (hostname name) = lowering.toLower (labels ++ '.' :: host address domain) →
      (addressFromHost lowering name domain).2 = false) ∧
    (∀ address other, isAddress address = true → other ≠ [] →
      lowering.toLower other ≠ lowering.toLower domain →
      lowering.toLower (hostname name) = lowering.toLower (host address other) →
      (addressFromHost lowering name domain).2 = false) ∧
    (∀ address, address.length ≠ 32 →
      lowering.toLower (hostname name) = lowering.toLower (host address domain) →
      (addressFromHost lowering name domain).2 = false) := by
  refine ⟨?_, ?_, ?_, ?_, ?_⟩
  · intro address
    rw [addressFromHost_eq nonempty]
    refine and_congr_right fun shaped => ?_
    rw [toLower_host lowering shaped nonempty]
  · intro address shaped
    rw [addressFromHost_eq nonempty, hostname_host shaped nonempty portless undotted,
      toLower_host lowering shaped nonempty]
    exact ⟨shaped, rfl⟩
  · intro labels address named
    refine addressFromHost_refused nonempty fun accepted shaped same => ?_
    have front : lowering.toLower labels ++ '.' :: lowering.toLower address = accepted := by
      rw [named, host, if_neg nonempty, toLower_dotted, toLower_dotted, ← List.cons_append,
        ← List.append_assoc] at same
      exact List.append_cancel_right same
    have dot : '.' ∈ accepted := by
      rw [← front]
      exact List.mem_append_right _ List.mem_cons_self
    exact (isHex_char lowering ((isAddress_iff.mp shaped).2 '.' dot)).2.1 rfl
  · intro address other shaped written differs named
    refine addressFromHost_refused nonempty fun accepted alike same => ?_
    rw [named, toLower_host lowering shaped written] at same
    have lengths := (isAddress_iff.mp shaped).1.trans (isAddress_iff.mp alike).1.symm
    obtain ⟨-, tails⟩ := List.append_inj same lengths
    exact differs (List.cons.inj tails).2
  · intro address length named
    refine addressFromHost_refused nonempty fun accepted shaped same => ?_
    rw [named, host, if_neg nonempty, toLower_dotted] at same
    rw [← List.append_cancel_right same] at shaped
    exact length (by simpa [Lowering.toLower] using (isAddress_iff.mp shaped).1)

theorem addressFromHost_inverts_upper :
    addressFromHost asciiLowering ("5F4DCC3B5AA765D61D8327DEB882CF99.Example.com.:443".toList)
      "example.com".toList = ("5f4dcc3b5aa765d61d8327deb882cf99".toList, true) :=
  ((addressFromHost_inverts asciiLowering _ "example.com".toList (by decide +kernel)
    (by decide +kernel) (by decide +kernel)).1 _).mpr (by decide +kernel)

end ShellHub.EndpointHosts
