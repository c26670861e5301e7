import ShellHub.TextCuts

/-!
# Banners and what they are taken for

The gateway tells a client why a login stops with one of four fixed messages, and the web bridge finds
out which one it was from the text. A message that holds a login for an approval carries the code of
the approval on a last line of its own, the trailer. On the way a message may get other line endings
and white space around it, which `normalize` takes off again.

Texts are sequences of characters. A kind outside of the enumeration has no message, like `none`.
-/

namespace ShellHub.Banners

open Addresses (isSpace)
open TextCuts

/-- Which message is sent. -/
inductive Kind where
  | none
  | invalidSSHID
  | connectionFailed
  | accessDenied
  | reauthRequired
deriving DecidableEq, Repr

def rawInvalidSSHID : List Char :=
  "SSHID Format Error\n==================\n\n".toList ++
  "The SSHID format is incorrect. You need to include your username.\n\n".toList ++
  "Correct format: username@namespace.device@host\n\n".toList ++
  "Examples:\n  ssh john@company.workstation@example.com\n".toList ++
  "  ssh admin@myproject.raspberry@example.com\n\n".toList ++
  "Please update your SSH command and try again.\n".toList

def rawConnectionFailed : List Char :=
  "Connection Failed\n==================\n\n".toList ++
  "The target device is offline or cannot be reached.\n\n".toList ++
  "Troubleshooting steps:\n  - Check if the device is powered on\n".toList ++
  "  - Verify network connectivity\n".toList ++
  "  - Ensure the device is properly connected to ShellHub\n\n".toList ++
  "Please try again once the device is online.\n".toList

def rawAccessDenied : List Char :=
  "Access Denied\n==============\n\n".toList ++
  "Access to the device has been denied.\n\n".toList ++
  "Possible reasons:\n  - Firewall restrictions\n  - Billing issues or quota exceeded\n".toList ++
  "  - Policy rules or permissions\n  - Device access restrictions\n\n".toList ++
  "Please contact your administrator for assistance.\n".toList

def rawReauthRequired : List Char :=
  "Re-authentication Required\n==========================\n\n".toList ++
  "A policy on this device requires a fresh re-authentication before the\n".toList ++
  "session can proceed. Complete the step-up in your browser and reconnect.\n".toList

/-- The message of a kind, as it is embedded. -/
def raw : Kind → List Char
  | .none => []
  | .invalidSSHID => rawInvalidSSHID
  | .connectionFailed => rawConnectionFailed
  | .accessDenied => rawAccessDenied
  | .reauthRequired => rawReauthRequired

/-- Every pair of return and line feed becomes a line feed. -/
def lineFeeds : List Char → List Char
  | '\r' :: '\n' :: rest => '\n' :: lineFeeds rest
  | char :: rest => char :: lineFeeds rest
  | [] => []

/-- Lines end in a return and a line feed. -/
def render (text : List Char) : List Char :=
  (lineFeeds text).flatMap fun char => if char = '\n' then ['\r', '\n'] else [char]

def withoutReturns (text : List Char) : List Char := text.filter (· ≠ '\r')

/-- Text in the form in which messages are compared. -/
def normalize (text : List Char) : List Char := trim (withoutReturns text)

/-- The kind of each message in its normal form. -/
def index : List (List Char × Kind) :=
  [(normalize rawInvalidSSHID, .invalidSSHID),
    (normalize rawConnectionFailed, .connectionFailed),
    (normalize rawAccessDenied, .accessDenied),
    (normalize rawReauthRequired, .reauthRequired)]

/-- What the line with the approval code begins with. -/
def codeTrailer : List Char := "shellhub-approval: ".toList

def message (kind : Kind) : List Char := render (raw kind)

def messageWithCode (kind : Kind) (code : List Char) : List Char :=
  if raw kind = [] then [] else render (raw kind ++ '\n' :: codeTrailer ++ code ++ ['\n'])

/-- The kind of a message and the code that it carries. -/
def classify (text : List Char) : Kind × List Char :=
  let normalized := normalize text
  let (body, code) := match cutLast codeTrailer normalized with
    | some (before, after) => (trim before, trim after)
    | none => (normalized, [])
  match index.lookup body with
  | some kind => (kind, code)
  | none => (.none, [])

/-! ## Line endings -/

@[simp] theorem withoutReturns_append (first second : List Char) :
    withoutReturns (first ++ second) = withoutReturns first ++ withoutReturns second :=
  List.filter_append ..

theorem withoutReturns_of_not_mem {text : List Char} (absent : '\r' ∉ text) :
    withoutReturns text = text := by
  refine List.filter_eq_self.mpr fun char member => ?_
  have other : char ≠ '\r' := fun same => absent (same ▸ member)
  simpa using other

theorem withoutReturns_lineFeeds (text : List Char) :
    withoutReturns (lineFeeds text) = withoutReturns text := by
  unfold withoutReturns
  fun_induction lineFeeds text with
  | case1 rest ih => simpa using ih
  | case2 char rest _ ih =>
    simp only [List.filter_cons, ih]
  | case3 => rfl

/-- Rendering only adds and drops returns. -/
theorem withoutReturns_render (text : List Char) :
    withoutReturns (render text) = withoutReturns text := by
  have added : ∀ lines : List Char, withoutReturns (lines.flatMap fun char =>
      if char = '\n' then ['\r', '\n'] else [char]) = withoutReturns lines := by
    intro lines
    induction lines with
    | nil => rfl
    | cons char rest ih =>
      rw [List.flatMap_cons, withoutReturns_append, ih,
        show char :: rest = [char] ++ rest from rfl, withoutReturns_append]
      by_cases feed : char = '\n'
      · subst feed
        rfl
      · rw [if_neg feed]
  rw [render, added, withoutReturns_lineFeeds]

/-- A message as it may arrive: with any white space around it, and with line feeds alone, with returns
before them, or both ways by turns. -/
def Arrives (original text : List Char) : Prop :=
  ∃ before lines after, text = before ++ lines ++ after ∧
    (∀ char ∈ before, isSpace char = true) ∧ (∀ char ∈ after, isSpace char = true) ∧
    withoutReturns lines = withoutReturns original

/-- White space and line endings are normalized away. -/
theorem normalize_arrived {original text kept : List Char} (arrives : Arrives original text)
    (final : List Char) (shape : withoutReturns original = kept ++ final)
    (white : ∀ char ∈ final, isSpace char = true) (trimmed : Trimmed kept) :
    normalize text = kept := by
  obtain ⟨before, lines, after, rfl, leading, trailing, same⟩ := arrives
  rw [normalize, withoutReturns_append, withoutReturns_append, same, shape, List.append_assoc,
    List.append_assoc, ← List.append_assoc]
  refine trim_padded (fun char member => leading char (List.mem_of_mem_filter member)) trimmed ?_
  exact List.forall_mem_append.mpr
    ⟨white, fun char member => trailing char (List.mem_of_mem_filter member)⟩

theorem white_feed :
    ∀ char ∈ ['\n'], isSpace char = true := List.forall_mem_singleton.mpr (by decide)

/-! ## The messages -/

/-- What the four messages have in common. -/
structure Sound (kind : Kind) : Prop where
  returns : '\r' ∉ raw kind
  nonempty : normalize (raw kind) ≠ []
  ending : raw kind = normalize (raw kind) ++ ['\n']
  untrailed : ¬ codeTrailer <:+: normalize (raw kind)
  found : index.lookup (normalize (raw kind)) = some kind

set_option maxRecDepth 4000 in
theorem sound {kind : Kind} (banner : kind ≠ .none) : Sound kind := by
  have all : ('\r' ∉ raw kind ∧ normalize (raw kind) ≠ [] ∧ raw kind = normalize (raw kind) ++ ['\n']) ∧
      ¬ codeTrailer <:+: normalize (raw kind) ∧
      index.lookup (normalize (raw kind)) = some kind := by
    -- The texts are spelled out first: taking a string apart anew at each step is slow.
    cases kind with
    | none => exact absurd rfl banner
    | _ =>
      simp only [raw, index]
      unfold rawInvalidSSHID rawConnectionFailed rawAccessDenied rawReauthRequired codeTrailer
      repeat rw [String.toList_ofList]
      decide +kernel
  exact ⟨all.1.1, all.1.2.1, all.1.2.2, all.2.1, all.2.2⟩

/-- Only the messages are in the index. -/
theorem lookup_index {body : List Char} {kind : Kind} (found : index.lookup body = some kind) :
    kind ≠ .none ∧ body = normalize (raw kind) := by
  obtain ⟨before, after, parts, -⟩ := List.lookup_eq_some_iff.mp found
  have stored : (body, kind) ∈ index := by
    rw [parts]
    exact List.mem_append_right _ List.mem_cons_self
  simp only [index, List.mem_cons, List.not_mem_nil, or_false, Prod.mk.injEq] at stored
  rcases stored with ⟨same, rfl⟩ | ⟨same, rfl⟩ | ⟨same, rfl⟩ | ⟨same, rfl⟩ <;> exact ⟨nofun, same⟩

theorem codeTrailer_ne_nil : codeTrailer ≠ [] := by
  exact List.cons_ne_nil _ _

/-- The trailer does not begin again inside of it or in a code, which has no space to end it. -/
theorem codeTrailer_last {code : List Char} (solid : ∀ char ∈ code, isSpace char = false) :
    ¬ codeTrailer <:+: codeTrailer.tail ++ code := by
  rintro ⟨before, after, occurs⟩
  have space : (before ++ codeTrailer ++ after)[before.length + 18]? = some ' ' := by
    rw [List.append_assoc, List.getElem?_append_right (Nat.le_add_right ..), Nat.add_sub_cancel_left]
    rfl
  rw [occurs, List.getElem?_append_right (by rw [show codeTrailer.tail.length = 18 from rfl]; omega)] at space
  have white := solid ' ' (List.mem_of_getElem? space)
  exact absurd white (by decide)

/-- Text is a known message, or one with a trailer after it, up to line endings and the white space
around it. The trailer may carry anything. -/
def Carries (kind : Kind) (text : List Char) : Prop :=
  normalize text = normalize (raw kind) ∨
  ∃ gap code, (∀ char ∈ gap, isSpace char = true) ∧
    normalize text = normalize (raw kind) ++ gap ++ codeTrailer ++ code

/-- What a text in normal form is taken for when a trailer is found. -/
theorem classify_of_cut {text before after : List Char}
    (cut : cutLast codeTrailer (normalize text) = some (before, after)) : classify text =
    match index.lookup (trim before) with
    | some kind => (kind, trim after)
    | none => (.none, []) := by
  simp only [classify, cut]

/-- What a text in normal form is taken for without a trailer. -/
theorem classify_of_uncut {text : List Char} (uncut : cutLast codeTrailer (normalize text) = none) :
    classify text = match index.lookup (normalize text) with
    | some kind => (kind, [])
    | none => (.none, []) := by
  simp only [classify, uncut]

/-- A message that arrives with a code is taken for what it is. -/
theorem classify_messageWithCode {kind : Kind} (banner : kind ≠ .none) {code text : List Char}
    (nonempty : code ≠ []) (solid : ∀ char ∈ code, isSpace char = false)
    (arrives : Arrives (messageWithCode kind code) text) : classify text = (kind, code) := by
  have sound := sound banner
  have returnless : '\r' ∉ code := fun member => absurd (solid _ member) (by decide)
  have written : raw kind ≠ [] := by
    rw [sound.ending]
    simp
  have body : Trimmed (normalize (raw kind)) := trim_trimmed _
  have normal : normalize text = normalize (raw kind) ++ ('\n' :: '\n' :: codeTrailer) ++ code := by
    refine normalize_arrived arrives ['\n'] ?_ white_feed
      (body.join (.of_solid solid) sound.nonempty nonempty _)
    rw [messageWithCode, if_neg written, withoutReturns_render, withoutReturns_of_not_mem]
    · nth_rewrite 1 [sound.ending]
      simp
    · simp [sound.returns, returnless]
      decide +kernel
  have cut : cutLast codeTrailer (normalize text) =
      some (normalize (raw kind) ++ ['\n', '\n'], code) := by
    rw [normal]
    have parts := cutLast_append codeTrailer_ne_nil (normalize (raw kind) ++ ['\n', '\n'])
      (codeTrailer_last solid)
    simpa only [List.append_assoc, List.cons_append, List.nil_append] using parts
  have front : trim (normalize (raw kind) ++ ['\n', '\n']) = normalize (raw kind) := by
    have white : ∀ char ∈ ['\n', '\n'], isSpace char = true :=
      List.forall_mem_append.mpr ⟨white_feed, white_feed⟩
    exact trim_padded (List.forall_mem_nil _) body white
  rw [classify_of_cut cut, front, sound.found, (Trimmed.of_solid solid).trim_eq]

/-- A message that arrives without a code is taken for what it is. -/
theorem classify_message {kind : Kind} (banner : kind ≠ .none) {text : List Char}
    (arrives : Arrives (message kind) text) : classify text = (kind, []) := by
  have sound := sound banner
  have normal : normalize text = normalize (raw kind) := by
    refine normalize_arrived arrives ['\n'] ?_ white_feed (trim_trimmed _)
    rw [message, withoutReturns_render, withoutReturns_of_not_mem sound.returns]
    exact sound.ending
  have uncut : cutLast codeTrailer (normalize text) = none := by
    rw [normal]
    exact cutLast_eq_none sound.untrailed
  rw [classify_of_uncut uncut, normal, sound.found]

/-- The kind `none` has the empty message, and white space alone is taken for it. -/
theorem classify_none {text : List Char} (arrives : Arrives [] text) :
    classify text = (.none, []) := by
  have normal : normalize text = [] := normalize_arrived arrives [] rfl nofun (.of_solid nofun)
  have uncut : cutLast codeTrailer (normalize text) = none := by
    rw [normal]
    rfl
  have absent : index.lookup [] = none := by
    cases found : index.lookup [] with
    | none => rfl
    | some kind =>
      obtain ⟨banner, empty⟩ := lookup_index found
      exact absurd empty.symm (sound banner).nonempty
  rw [classify_of_uncut uncut, normal, absent]

/-- A text that is taken for a message is that message, with a trailer or without. -/
theorem carries_of_lookup {text before after : List Char} {kind : Kind}
    (cut : cutLast codeTrailer (normalize text) = some (before, after))
    (found : index.lookup (trim before) = some kind) : Carries kind text := by
  have whole := cutLast_eq_some cut
  obtain ⟨banner, body⟩ := lookup_index found
  have front : before.dropWhile isSpace = before := by
    have trimmed : Trimmed (normalize text) := trim_trimmed _
    cases before with
    | nil => rfl
    | cons first rest =>
      have start := List.dropWhile_eq_self_iff.mp trimmed.front
      exact List.dropWhile_eq_self_iff.mpr (by simpa [whole] using start)
  obtain ⟨gap, white, parts⟩ := eq_trim_append front
  refine .inr ⟨gap, after, white, ?_⟩
  rw [whole, parts, body]

/-- Messages are told apart whatever line endings and white space they arrive with: with a code that has
no white space in it, without a code, and when they are no known message at all. A code without white
space cannot contain the trailer, which has a space in it. -/
theorem classify_inverts :
    (∀ kind code text, kind ≠ .none → code ≠ [] → (∀ char ∈ code, isSpace char = false) →
      Arrives (messageWithCode kind code) text → classify text = (kind, code)) ∧
    (∀ kind text, Arrives (message kind) text → classify text = (kind, [])) ∧
    (∀ text, (∀ kind, kind ≠ .none → ¬ Carries kind text) → classify text = (.none, [])) := by
  refine ⟨?_, ?_, ?_⟩
  · intro kind code text banner nonempty solid arrives
    exact classify_messageWithCode banner nonempty solid arrives
  · intro kind text arrives
    by_cases banner : kind = .none
    · subst banner
      exact classify_none arrives
    · exact classify_message banner arrives
  · intro text unknown
    cases cut : cutLast codeTrailer (normalize text) with
    | none =>
      rw [classify_of_uncut cut]
      cases found : index.lookup (normalize text) with
      | none => rfl
      | some kind =>
        obtain ⟨banner, body⟩ := lookup_index found
        exact absurd (.inl body) (unknown kind banner)
    | some parts =>
      obtain ⟨before, after⟩ := parts
      rw [classify_of_cut cut]
      cases found : index.lookup (trim before) with
      | none => rfl
      | some kind =>
        obtain ⟨banner, -⟩ := lookup_index found
        exact absurd (carries_of_lookup cut found) (unknown kind banner)

theorem classify_inverts_reauth :
    classify (messageWithCode .reauthRequired ['7', 'f'] ++ ['\n']) = (.reauthRequired, ['7', 'f']) ∧
    classify ('\n' :: raw .accessDenied) = (.accessDenied, []) ∧
    classify ['\r', '\n'] = (.none, []) := by
  have solid : ∀ char ∈ ['7', 'f'], isSpace char = false :=
    List.forall_mem_cons.mpr ⟨by decide, List.forall_mem_singleton.mpr (by decide)⟩
  refine ⟨classify_inverts.1 _ _ _ nofun nofun solid ?_, classify_inverts.2.1 _ _ ?_,
    classify_inverts.2.2 _ ?_⟩
  · exact ⟨[], messageWithCode .reauthRequired ['7', 'f'], ['\n'], by rw [List.nil_append], nofun,
      white_feed, rfl⟩
  · have whole : '\n' :: raw .accessDenied = ['\n'] ++ raw .accessDenied ++ [] := by rw [List.append_nil]; rfl
    exact ⟨['\n'], raw .accessDenied, [], whole, white_feed, nofun, (withoutReturns_render _).symm⟩
  · have blank : normalize ['\r', '\n'] = [] := by decide
    rintro kind banner (same | ⟨gap, code, -, same⟩)
    · exact (sound banner).nonempty (same.symm.trans blank)
    · simp only [blank, List.append_assoc] at same
      exact (sound banner).nonempty (List.append_eq_nil_iff.mp same.symm).1

end ShellHub.Banners
