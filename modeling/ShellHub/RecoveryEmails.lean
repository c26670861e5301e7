import ShellHub.LoginLockout
import ShellHub.Sequences

/-!
# Recovery emails

The recovery email of a user must never be the email of the user. `UpdateUser` compares a recovery
email that it is given with the stored email and with the one that comes with it. A call that brings
an email only is not compared with the stored recovery email.

Emails are compared up to the case of their letters, and they are stored in lower case.
-/

namespace ShellHub.Accounts

open LetterCase Programs Tables Sequences

/-! ## Emails up to case -/

/-- The new value of an email, which is given in lower case or stays. -/
def replaced (current new : String) : String :=
  if isDifferentAndNotEmpty current new then toLower new else current

/-- Without a value nothing is replaced. -/
theorem replaced_empty (current : String) : replaced current "" = current := rfl

/-- A value that is given is stored, up to case. -/
theorem foldName_replaced {current new : String} (given : new ≠ "") :
    foldName (replaced current new) = foldName new := by
  unfold replaced
  split
  · exact foldName_toLower new
  · rename_i same
    have equal : equalFold current new = true := by
      simpa [isDifferentAndNotEmpty, given] using same
    exact equalFold_iff.mp equal

/-- The recovery email of a user is not the email of the user. -/
def User.Distinct (user : User) : Prop :=
  user.recoveryEmail ≠ "" → equalFold user.recoveryEmail user.email = false

instance (user : User) : Decidable user.Distinct :=
  inferInstanceAs (Decidable (_ → _))

/-- All letters of a text are ASCII. -/
def Ascii (text : String) : Prop := ∀ letter ∈ text.toList, letter.toNat < 128

instance (text : String) : Decidable (Ascii text) :=
  List.decidableBAll (fun letter : Char => letter.toNat < 128) text.toList

/-! ## Runs of calls -/

/-- A call of `UpdateUser`, and what its calls find around them. -/
structure UserUpdateCall where
  changes : UserChanges
  around : Nat → Moment

/-- The accounts after a call. -/
def updated (server : Server) (console : Console) (call : UserUpdateCall) : Console :=
  (run (meaning server) call.around (updateUser call.changes) console).state

/-- An email that comes alone differs from the stored recovery email. The emails have ASCII letters
only, on which the lower case of a letter is the letter up to case. -/
def Considerate (console : Console) (call : UserUpdateCall) : Prop :=
  Ascii call.changes.email ∧ Ascii call.changes.recoveryEmail ∧
    (call.changes.recoveryEmail = "" → call.changes.email ≠ "" →
      ∀ user ∈ console.users.find call.changes.userID,
        equalFold user.recoveryEmail call.changes.email = false)

instance (console : Console) (call : UserUpdateCall) : Decidable (Considerate console call) :=
  inferInstanceAs (Decidable (_ ∧ _ ∧ _))

/-! ## One call -/

section Call

variable {user : User} {changes : UserChanges}

/-- The check of `UpdateUser` has passed. -/
def UserChanges.Accepted (changes : UserChanges) (user : User) : Prop :=
  ¬ (changes.recoveryEmail ≠ "" ∧ (equalFold changes.recoveryEmail user.email ∨
    equalFold changes.recoveryEmail changes.email))

/-- What a call that passes the check and the condition stores keeps the emails apart. -/
theorem UserChanges.apply_distinct (accepted : changes.Accepted user) (distinct : user.Distinct)
    (alone : changes.recoveryEmail = "" → changes.email ≠ "" →
      equalFold user.recoveryEmail changes.email = false) :
    (changes.apply user).Distinct := by
  intro present
  have email : (changes.apply user).email = replaced user.email changes.email := rfl
  have recovery : (changes.apply user).recoveryEmail =
      replaced user.recoveryEmail changes.recoveryEmail := rfl
  rw [Bool.eq_false_iff]
  intro same
  rw [equalFold_iff, email, recovery] at same
  by_cases given : changes.recoveryEmail = ""
  · -- the stored recovery email stays
    rw [given, replaced_empty] at same recovery
    rw [recovery] at present
    by_cases unasked : changes.email = ""
    · rw [unasked, replaced_empty] at same
      exact absurd (equalFold_iff.mpr same) (Bool.eq_false_iff.mp (distinct present))
    · rw [foldName_replaced unasked] at same
      exact absurd (equalFold_iff.mpr same) (Bool.eq_false_iff.mp (alone given unasked))
  · rw [foldName_replaced given] at same
    by_cases unasked : changes.email = ""
    · rw [unasked, replaced_empty] at same
      exact accepted ⟨given, .inl (equalFold_iff.mpr same)⟩
    · rw [foldName_replaced unasked] at same
      exact accepted ⟨given, .inr (equalFold_iff.mpr same)⟩

end Call

/-- Reading an account by its identifier answers the stored one, or fails, and changes nothing. -/
theorem userResolve_cases (server : Server) (id : String) (around : Moment) (console : Console) :
    (∃ error, meaning server (.userResolve .id id) around console = (.error error, console)) ∨
      ∃ user, console.users.find id = some user ∧
        meaning server (.userResolve .id id) around console = (.ok user, console) := by
  unfold meaning
  split
  · exact .inl ⟨_, rfl⟩
  dsimp only [Console.perform]
  split
  · exact .inl ⟨_, rfl⟩
  · rename_i user found
    exact .inr ⟨user, found, rfl⟩

/-- Writing an account fails, or stores it. -/
theorem userUpdate_cases (server : Server) (user : User) (around : Moment) (console : Console) :
    (meaning server (.userUpdate user) around console).2 = console ∨
      (meaning server (.userUpdate user) around console).2 = (console.userUpdate user).2 := by
  unfold meaning
  split
  · exact .inl rfl
  · exact .inr rfl

/-- Comparing and hashing passwords changes no account. -/
theorem meaning_passwords (server : Server) (around : Moment) (console : Console) :
    (∀ user plain, (meaning server (.comparePassword user plain) around console).2 = console) ∧
      ∀ plain, (meaning server (.hashUserPassword plain) around console).2 = console := by
  unfold meaning
  split
  · exact ⟨fun _ _ => rfl, fun _ => rfl⟩
  · exact ⟨fun _ _ => rfl, fun _ => rfl⟩

/-- Applying the changes of a request writes no account. -/
theorem applyUserChanges_run (server : Server) (around : Nat → Moment) (user : User)
    (changes : UserChanges) (console : Console) :
    let outcome := run (meaning server) around (applyUserChanges user changes) console
    outcome.state = console ∧ ∀ result, outcome.result = .ok result →
      ∃ hash, result = { changes.apply user with passwordHash := hash } := by
  unfold applyUserChanges make
  split
  · refine ⟨rfl, ?_⟩
    rintro _ ⟨⟩
    exact ⟨_, rfl⟩
  dsimp only
  rw [state_perform_bind, result_perform_bind, (meaning_passwords server _ console).1]
  cases (meaning server (.comparePassword user changes.currentPassword) (around 0) console).1 with
  | false =>
    refine ⟨rfl, ?_⟩
    rintro _ ⟨⟩
  | true =>
    dsimp only
    rw [state_perform_bind, result_perform_bind, (meaning_passwords server _ console).2]
    cases (meaning server (.hashUserPassword changes.password) (around 1) console).1 with
    | error error =>
      refine ⟨rfl, ?_⟩
      rintro _ ⟨⟩
    | ok hash =>
      refine ⟨rfl, ?_⟩
      rintro _ ⟨⟩
      exact ⟨hash, rfl⟩

/-- What a call of `UpdateUser` leaves behind: the accounts as they were, or the account that it is
for with its changes and perhaps a new password. -/
theorem updateUser_effect (server : Server) (console : Console) (call : UserUpdateCall) :
    updated server console call = console ∨
      ∃ user hash, console.users.find call.changes.userID = some user ∧
        call.changes.Accepted user ∧
        updated server console call =
          (console.userUpdate { call.changes.apply user with passwordHash := hash }).2 := by
  unfold updated updateUser make
  rw [state_perform_bind]
  rcases userResolve_cases server call.changes.userID (call.around 0) console with
    ⟨error, answered⟩ | ⟨user, found, answered⟩
  · rw [answered]
    exact .inl rfl
  rw [answered]
  dsimp only
  split
  · exact .inl rfl
  rename_i accepted
  have applied := applyUserChanges_run server (fun index => call.around (index + 1)) user
    call.changes console
  rw [run_bind]
  generalize run (meaning server) (fun index => call.around (index + 1))
    (applyUserChanges user call.changes) console = outcome at applied ⊢
  obtain ⟨result, state, calls⟩ := outcome
  obtain ⟨rfl, hashed⟩ := applied
  cases result with
  | error error => exact .inl rfl
  | ok new =>
    obtain ⟨hash, rfl⟩ := hashed new rfl
    dsimp only
    rw [state_perform_bind]
    have written := userUpdate_cases server { call.changes.apply user with passwordHash := hash }
      (call.around (0 + calls.length + 1)) state
    generalize meaning server (.userUpdate { call.changes.apply user with passwordHash := hash })
      (call.around (0 + calls.length + 1)) state = answer at written ⊢
    obtain ⟨reply, next⟩ := answer
    rcases written with same | stored
    · left
      cases reply <;> exact same
    · right
      refine ⟨user, hash, found, accepted, ?_⟩
      cases reply <;> exact stored

/-- A call that meets the condition keeps the emails of all users apart. -/
theorem updated_distinct {server : Server} {console : Console} {call : UserUpdateCall}
    (distinct : ∀ user ∈ console.users.rows, user.Distinct) (considerate : Considerate console call) :
    ∀ user ∈ (updated server console call).users.rows, user.Distinct := by
  rcases updateUser_effect server console call with same | ⟨user, hash, found, accepted, stored⟩
  · rw [same]
    exact distinct
  have kept : (call.changes.apply user).Distinct := by
    refine UserChanges.apply_distinct accepted (distinct user (Table.find_eq_some.mp found).1) ?_
    exact fun alone given => considerate.2.2 alone given user found
  rw [stored]
  intro row member
  unfold Console.userUpdate at member
  split at member
  · exact distinct row member
  split at member
  · exact distinct row member
  rcases Table.mem_put member with rfl | ⟨old, _⟩
  · exact kept
  · exact distinct row old

/-- Emails and recovery emails stay different, in every run whose calls meet the condition. A call
writes one user, and the condition is on the two addresses of that user. -/
theorem recovery_emails_differ (server : Server) (console : Console)
    (start : ∀ user ∈ console.users.rows, user.Distinct) (calls : List UserUpdateCall)
    (considerate : Along (updated server) Considerate console calls) :
    ∀ later ∈ visited (updated server) console calls, ∀ user ∈ later.users.rows,
      user.recoveryEmail ≠ "" → equalFold user.recoveryEmail user.email = false := by
  have kept : ∀ console call, (∀ user ∈ console.users.rows, user.Distinct) →
      Considerate console call → ∀ user ∈ (updated server console call).users.rows, user.Distinct :=
    fun _ _ => updated_distinct
  exact visited_keeps kept start considerate

/-! ## Runs -/

/-- A call in a calm moment that changes emails only. -/
def changeEmails (email recoveryEmail : String) : UserUpdateCall :=
  ⟨⟨"ada", "", "", email, recoveryEmail, "", ""⟩, fun _ => calm⟩

/-- The recovery email is set, then the email is changed, and a swap of the two is refused. -/
theorem recovery_emails_differ_after_three :
    (∃ later ∈ visited (updated lockingServer) adaConsole [changeEmails "" "Back@x.io",
        changeEmails "new@x.io" "", changeEmails "back@x.io" "new@x.io"],
      later.users.rows.map (fun user => (user.email, user.recoveryEmail)) =
        [("new@x.io", "back@x.io")]) ∧
      ∀ later ∈ visited (updated lockingServer) adaConsole [changeEmails "" "Back@x.io",
          changeEmails "new@x.io" "", changeEmails "back@x.io" "new@x.io"],
        ∀ user ∈ later.users.rows,
          user.recoveryEmail ≠ "" → equalFold user.recoveryEmail user.email = false :=
  ⟨by decide +kernel, recovery_emails_differ lockingServer adaConsole (by decide) _
    (by decide +kernel)⟩

/-- The recovery email is set, and then the email is changed to it. -/
theorem email_becomes_recovery_email :
    (∀ user ∈ adaConsole.users.rows,
      user.recoveryEmail ≠ "" → equalFold user.recoveryEmail user.email = false) ∧
    ∃ later ∈ visited (updated lockingServer) adaConsole
        [changeEmails "" "back@x.io", changeEmails "back@x.io" ""],
      ∃ user ∈ later.users.rows,
        user.recoveryEmail = "back@x.io" ∧ user.email = "back@x.io" := by
  decide +kernel

end ShellHub.Accounts
