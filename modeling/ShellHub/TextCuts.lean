import Mathlib.Data.List.DropRight
import Mathlib.Data.List.Infix
import Mathlib.Tactic.SplitIfs
import ShellHub.AddressTexts

/-!
# Cutting texts

Texts are lists of characters. White space is trimmed off both ends, a text is cut at the last place
where a pattern occurs, and a network address is cut into its host and its port: the port follows the
last colon, and a host with colons of its own stands in brackets.
-/

namespace ShellHub.TextCuts

open Addresses (isSpace)

/-! ## White space -/

/-- Text without the white space around it. -/
def trim (text : List Char) : List Char := (text.dropWhile isSpace).rdropWhile isSpace

/-- Text that has no white space at either end. -/
structure Trimmed (text : List Char) : Prop where
  front : text.dropWhile isSpace = text
  back : text.rdropWhile isSpace = text

theorem rdropWhile_append (first second : List Char) : (first ++ second).rdropWhile isSpace =
    if (second.rdropWhile isSpace).isEmpty then first.rdropWhile isSpace
    else first ++ second.rdropWhile isSpace := by
  simp only [List.rdropWhile, List.reverse_append, List.dropWhile_append, List.isEmpty_reverse]
  split <;> simp

/-- Text between white space comes back when both of its ends are solid. -/
theorem trim_padded {before text after : List Char} (leading : ∀ char ∈ before, isSpace char = true)
    (trimmed : Trimmed text) (trailing : ∀ char ∈ after, isSpace char = true) :
    trim (before ++ text ++ after) = text := by
  have nothing : after.rdropWhile isSpace = [] := List.rdropWhile_eq_nil_iff.mpr trailing
  have left : after.dropWhile isSpace = [] := List.dropWhile_eq_nil_iff.mpr trailing
  rw [trim, List.append_assoc, List.dropWhile_append_of_pos leading, List.dropWhile_append,
    trimmed.front]
  split
  · rename_i empty
    rw [List.isEmpty_iff.mp empty, left, List.rdropWhile_nil]
  · rw [rdropWhile_append, nothing, List.isEmpty_nil, if_pos rfl, trimmed.back]

/-- Text without white space is left as it is. -/
theorem Trimmed.of_solid {text : List Char} (solid : ∀ char ∈ text, isSpace char = false) :
    Trimmed text where
  front := List.dropWhile_eq_self_iff.mpr fun _ => by simp [solid _ (List.getElem_mem _)]
  back := List.rdropWhile_eq_self_iff.mpr fun nonempty => by
    simp [solid _ (List.getLast_mem nonempty)]

theorem Trimmed.join {first second : List Char} (before : Trimmed first) (after : Trimmed second)
    (begun : first ≠ []) (ended : second ≠ []) (middle : List Char) :
    Trimmed (first ++ middle ++ second) where
  front := by
    rw [List.append_assoc, List.dropWhile_append, before.front, if_neg (by simpa using begun)]
  back := by rw [rdropWhile_append, after.back, if_neg (by simpa using ended)]

theorem Trimmed.trim_eq {text : List Char} (trimmed : Trimmed text) : trim text = text := by
  rw [trim, trimmed.front, trimmed.back]

theorem trim_trimmed (text : List Char) : Trimmed (trim text) := by
  unfold trim
  refine ⟨?_, List.rdropWhile_idempotent _ _⟩
  have part := List.rdropWhile_prefix isSpace (text.dropWhile isSpace)
  cases kept : (text.dropWhile isSpace).rdropWhile isSpace with
  | nil => rfl
  | cons first rest =>
    rw [kept] at part
    obtain ⟨more, whole⟩ := part
    have solid : isSpace first = false := by
      have head := List.head_dropWhile_not isSpace (l := text) (by simp [← whole])
      simpa [← whole] using head
    exact List.dropWhile_cons_of_neg (by simp [solid])

/-- What is left of text in front of which there is no white space, and the white space after it. -/
theorem eq_trim_append {text : List Char} (front : text.dropWhile isSpace = text) :
    ∃ gap, (∀ char ∈ gap, isSpace char = true) ∧ text = trim text ++ gap := by
  refine ⟨text.rtakeWhile isSpace, fun char member => List.mem_rtakeWhile_imp member, ?_⟩
  rw [trim, front, List.rdropWhile_append_rtakeWhile]

/-! ## The last occurrence of a pattern -/

/-- The text before the last occurrence of a pattern, and the text after it. -/
def cutLast (pattern : List Char) : List Char → Option (List Char × List Char)
  | [] => none
  | char :: rest =>
    match cutLast pattern rest with
    | some (before, after) => some (char :: before, after)
    | none =>
      if pattern <+: char :: rest then some ([], (char :: rest).drop pattern.length) else none

theorem cutLast_eq_some {pattern text before after : List Char}
    (cut : cutLast pattern text = some (before, after)) : text = before ++ pattern ++ after := by
  induction text generalizing before after with
  | nil => cases cut
  | cons char rest ih =>
    unfold cutLast at cut
    split at cut
    · rename_i later further found
      cases cut
      rw [ih found]
      rfl
    · split_ifs at cut with starts
      cases cut
      exact (List.prefix_iff_eq_append.mp starts).symm

theorem cutLast_eq_none {pattern text : List Char} (absent : ¬ pattern <:+: text) :
    cutLast pattern text = none := by
  rw [Option.eq_none_iff_forall_ne_some]
  rintro ⟨before, after⟩ cut
  exact absent ⟨before, after, (cutLast_eq_some cut).symm⟩

/-- Text in front does not move the cut. -/
theorem cutLast_prepend {pattern text before after : List Char}
    (cut : cutLast pattern text = some (before, after)) (front : List Char) :
    cutLast pattern (front ++ text) = some (front ++ before, after) := by
  induction front with
  | nil => exact cut
  | cons char front ih => simp only [List.cons_append, cutLast, ih]

theorem not_mem_of_cutLast_eq_none {mark : Char} {text : List Char}
    (uncut : cutLast [mark] text = none) : mark ∉ text := by
  intro member
  obtain ⟨front, rest, rfl⟩ := List.append_of_mem member
  cases further : cutLast [mark] rest with
  | some cut =>
    rw [List.append_cons, cutLast_prepend further] at uncut
    cases uncut
  | none =>
    have here : cutLast [mark] (mark :: rest) = some ([], rest) := by
      simp only [cutLast, further]
      simp
    rw [cutLast_prepend here] at uncut
    cases uncut

/-- The cut is made where the pattern occurs and does not occur again. -/
theorem cutLast_append {pattern : List Char} (nonempty : pattern ≠ []) (before : List Char)
    {after : List Char} (last : ¬ pattern <:+: pattern.tail ++ after) :
    cutLast pattern (before ++ pattern ++ after) = some (before, after) := by
  obtain ⟨first, rest, rfl⟩ := List.exists_cons_of_ne_nil nonempty
  have here : cutLast (first :: rest) (first :: rest ++ after) = some ([], after) := by
    have further : cutLast (first :: rest) (rest ++ after) = none := cutLast_eq_none last
    have starts : (first :: rest) <+: first :: (rest ++ after) := ⟨after, rfl⟩
    simp only [List.cons_append, cutLast, further, if_pos starts]
    simp
  simpa using cutLast_prepend here before

/-! ## Hosts and ports -/

/-- The host in the text before the last colon. A host with colons of its own is in brackets, and
nothing else stands between the closing one and the port. -/
def unbracketed : List Char → Option (List Char)
  | '[' :: inside => if inside.getLast? = some ']' then some inside.dropLast else none
  | plain => if ':' ∈ plain then none else some plain

theorem unbracketed_of_plain {before : List Char} (plain : before.head? ≠ some '[') :
    unbracketed before = if ':' ∈ before then none else some before := by
  unfold unbracketed
  split
  · exact absurd rfl plain
  · rfl

/-- A network address cut into its host and its port, which must be there. -/
def splitHostPort (text : List Char) : Option (List Char × List Char) := do
  let (before, port) ← cutLast [':'] text
  let host ← unbracketed before
  if '[' ∈ host ++ port ∨ ']' ∈ host ++ port then none else some (host, port)

theorem splitHostPort_of_plain {text before port : List Char}
    (cut : cutLast [':'] text = some (before, port)) (plain : before.head? ≠ some '[') :
    splitHostPort text = if ':' ∈ before then none
      else if '[' ∈ before ++ port ∨ ']' ∈ before ++ port then none else some (before, port) := by
  simp only [splitHostPort, cut, Option.bind_eq_bind, Option.bind_some, unbracketed_of_plain plain]
  by_cases colon : ':' ∈ before
  · rw [if_pos colon, if_pos colon, Option.bind_none]
  · rw [if_neg colon, if_neg colon, Option.bind_some]

theorem splitHostPort_eq_none {text : List Char} (plain : ':' ∉ text) :
    splitHostPort text = none := by
  have absent : ¬ [':'] <:+: text := fun within => plain (within.subset List.mem_cons_self)
  simp only [splitHostPort, cutLast_eq_none absent, Option.bind_eq_bind, Option.bind_none]

/-- Text without a port has none when it is written after other text, unless that begins with a bracket. -/
theorem splitHostPort_prepend {first : Char} (plain : first ≠ '[') {front text : List Char}
    (unmarked : ':' ∉ first :: front) (portless : splitHostPort text = none) :
    splitHostPort (first :: front ++ text) = none := by
  cases cut : cutLast [':'] text with
  | none =>
    refine splitHostPort_eq_none ?_
    rw [List.mem_append, not_or]
    exact ⟨unmarked, not_mem_of_cutLast_eq_none cut⟩
  | some found =>
    obtain ⟨before, port⟩ := found
    rw [splitHostPort_of_plain (cutLast_prepend cut (first :: front)) (by simpa using plain)]
    by_cases bracket : before.head? = some '['
    · have inside : '[' ∈ before := List.mem_of_head? bracket
      simp [inside]
    · rw [splitHostPort_of_plain cut bracket] at portless
      by_cases colon : ':' ∈ before
      · simp [colon]
      · rw [if_neg colon, ite_eq_left_iff] at portless
        have marked : '[' ∈ before ++ port ∨ ']' ∈ before ++ port := by
          by_contra unmarked
          cases portless unmarked
        have still : '[' ∈ first :: front ++ before ++ port ∨ ']' ∈ first :: front ++ before ++ port := by
          simp only [List.append_assoc]
          exact marked.imp (List.mem_append_right _) (List.mem_append_right _)
        rw [if_pos still, ite_self]

example : splitHostPort "[fe80::1%eth0]:22".toList = some ("fe80::1%eth0".toList, "22".toList) := by
  decide +kernel

example : splitHostPort "fe80::1:22".toList = none := by decide +kernel

end ShellHub.TextCuts
