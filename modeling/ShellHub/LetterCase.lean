import Mathlib.Data.List.Basic

/-!
# The case of letters

Names are stored in lower case and compared without regard to the case of their letters. Of the
letters with two cases only those of ASCII are changed here, and the two runes that fold into them.
Hostnames, user names, email addresses, tags and header names have no others.
-/

namespace ShellHub.LetterCase

/-- `strings.ToLower`, on texts whose letters outside ASCII have no lower case. -/
def toLower (text : String) : String := String.ofList (text.toList.map Char.toLower)

/-- The rune that stands for a letter in both cases. Besides the ASCII letters, the long s
and the Kelvin sign fold into ASCII. -/
def foldRune (rune : Char) : Char :=
  if rune = '\u017f' then 'S' else if rune = '\u212a' then 'K' else rune.toUpper

/-- A name with case differences removed. -/
def foldName (name : String) : List Char := name.toList.map foldRune

/-- `strings.EqualFold`, on texts whose letters outside ASCII have one case, the long s and the
Kelvin sign apart. -/
def equalFold (left right : String) : Bool := foldName left == foldName right

theorem equalFold_iff {left right : String} :
    equalFold left right = true ↔ foldName left = foldName right := beq_iff_eq

/-- A function that does not tell the capital letters from the small ones ignores the case of every
letter. -/
theorem ignores_case {β : Type} [DecidableEq β] (view : Char → β)
    (table : ∀ code < 91, view (Char.ofNat code).toLower = view (Char.ofNat code))
    (letter : Char) : view letter.toLower = view letter := by
  by_cases upper : letter.val ≥ 'A'.val ∧ letter.val ≤ 'Z'.val
  · have small : letter.toNat < 91 := Nat.lt_succ_of_le upper.2
    have checked := table letter.toNat small
    rwa [Char.ofNat_toNat] at checked
  · rw [show letter.toLower = letter from dif_neg upper]

theorem toLower_toLower (text : String) : toLower (toLower text) = toLower text := by
  simp only [toLower, String.toList_ofList, List.map_map]
  congr 1
  exact List.map_congr_left fun letter _ => ignores_case Char.toLower (by decide +kernel) letter

/-- A text and its lower case are equal up to case. -/
theorem foldName_toLower (text : String) : foldName (toLower text) = foldName text := by
  simp only [foldName, toLower, String.toList_ofList, List.map_map]
  exact List.map_congr_left fun letter _ => ignores_case foldRune (by decide +kernel) letter

end ShellHub.LetterCase
