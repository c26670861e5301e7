import ShellHub.LoginLockout

/-!
# Writing accounts back

Logins, changes of data and changes of passwords run at the same time. Each of them reads an account,
and later writes the whole of it back. A log of one account records who has read which version of it,
and who has written which version over it.

A call sets a field if the value that it writes is not the one that it has read. The stored account is
what the calls have set, field by field, as long as nobody writes the account between another call's
reading and writing. Otherwise a login that has read the account before a change takes it back.
-/

namespace ShellHub.Accounts

open Programs Tables Interleavings

/-! ## Requests -/

/-- The requests that write accounts. -/
inductive AccountRequest where
  | login (attempt : Attempt)
  | update (changes : UserChanges)
  | password (id currentPassword newPassword : String)
  deriving DecidableEq, Repr

/-- What the requests answer. -/
inductive AccountReply where
  | login (reply : LoginReply)
  | change (result : Except AccountError Unit)
  deriving DecidableEq

/-- The program of a request. -/
def AccountRequest.program (server : Server) : AccountRequest → Service AccountReply
  | .login attempt => do
    return .login (← authLocalUser server attempt.identifier attempt.password attempt.sourceIP)
  | .update changes => do return .change (← updateUser changes)
  | .password id currentPassword newPassword => do
    return .change (← updatePasswordUser id currentPassword newPassword)

/-! ## The log -/

/-- What is logged of an account: versions that were read and written, and hashes that were made. A
write is logged with the version that its thread has read. -/
inductive AccountTrace where
  | loaded (thread : Nat) (user : User)
  | hashed (thread : Nat) (plain hash : String)
  | wrote (thread : Nat) (loaded written : User)
  deriving DecidableEq, Repr

/-- The version that an entry says a thread has read. -/
def AccountTrace.loadedBy (thread : Nat) : AccountTrace → Option User
  | .loaded reader user => if reader = thread then some user else none
  | _ => none

/-- Nobody has written the account. -/
def Unwritten (log : List AccountTrace) : Prop :=
  ∀ entry ∈ log, match entry with | .wrote _ _ _ => False | _ => True

instance (log : List AccountTrace) : Decidable (Unwritten log) :=
  @List.decidableBAll _ _ (fun entry => by cases entry <;> infer_instance) log

/-- What a call adds to the log of an account. -/
def accountTraces (account : String) (thread : Nat) (log : List AccountTrace) :
    (request : Call) → request.Reply → List AccountTrace
  | .userResolve _ _, .ok user => if user.id = account then [.loaded thread user] else []
  | .hashUserPassword plain, .ok hash => [.hashed thread plain hash]
  | .userUpdate user, .ok _ =>
    if user.id = account then
      (lastLoaded AccountTrace.loadedBy thread log).toList.map fun loaded => .wrote thread loaded user
    else []
  | _, _ => []

/-- The requests at the same time, with the log of one account. The newest entry comes first. -/
def writing (server : Server) (account : String) :
    System AccountRequest Call Call.Reply AccountReply Moment (Console × List AccountTrace) where
  program := AccountRequest.program server
  effect := fun thread _ request around shared =>
    let (reply, console) := meaning server request around shared.1
    (reply, (console, accountTraces account thread shared.2 request reply ++ shared.2))

/-- Nobody writes the account between another call's reading and writing. -/
def Exclusive (account : String) (shared : Console × List AccountTrace) (thread : Nat)
    (_ : AccountRequest) (request : Call) (_ : Moment) : Prop :=
  match request with
  | .userUpdate user => user.id = account → Unwritten (sinceLoaded AccountTrace.loadedBy thread shared.2)
  | _ => True

instance (account : String) (shared : Console × List AccountTrace) (thread : Nat)
    (op : AccountRequest) (request : Call) (around : Moment) :
    Decidable (Exclusive account shared thread op request around) := by
  unfold Exclusive
  split <;> infer_instance

/-! ## What the calls have set -/

/-- The fields that have to last. -/
inductive UserField where
  | password
  | email
  | username
  deriving DecidableEq, Repr

/-- The value of a field. -/
def UserField.of : UserField → User → String
  | .password => User.passwordHash
  | .email => User.email
  | .username => User.username

/-- The value that the calls have given to a field: that of the newest write whose call has set it, else
that of the account at the start. -/
def intended (field : UserField) (start : User) : List AccountTrace → String
  | [] => field.of start
  | .wrote _ loaded written :: log =>
    if field.of written ≠ field.of loaded then field.of written else intended field start log
  | _ :: log => intended field start log

/-- The account that a change is for. -/
def AccountRequest.account : AccountRequest → Option String
  | .login _ => none
  | .update changes => some changes.userID
  | .password id _ _ => some id

/-- What a change that succeeded has written over the version that it has read. -/
def AccountRequest.Changes (request : AccountRequest) (hashed : String → String → Prop)
    (loaded written : User) : Prop :=
  match request with
  | .login _ => True
  | .update changes => written.email = (changes.apply loaded).email ∧
      written.username = (changes.apply loaded).username ∧
      if changes.password = "" then written.passwordHash = loaded.passwordHash
      else hashed changes.password written.passwordHash
  | .password _ _ newPassword => written.email = loaded.email ∧
      written.username = loaded.username ∧ hashed newPassword written.passwordHash

/-! ## A call seen from its account -/

/-- The version that a call has read, the hashes that it has made, and the version that it has
written. -/
structure Edit where
  loaded : Option User
  hashed : List (String × String)
  written : Option User

/-- The contract of a call. An account is written once, and read before. -/
def editing : Contract Call Call.Reply Edit where
  allowed := fun edit request =>
    match request with
    | .userResolve _ _ => edit.written = none
    | .userUpdate user => edit.written = none ∧ ∃ loaded ∈ edit.loaded, loaded.id = user.id
    | _ => True
  yields := fun edit request =>
    match request with
    | .userResolve resolver value => fun reply next =>
      match reply with
      | .ok user => next = { edit with loaded := some user } ∧ (resolver = .id → user.id = value)
      | .error _ => next = edit
    | .hashUserPassword plain => fun reply next =>
      match reply with
      | .ok hash => next = { edit with hashed := (plain, hash) :: edit.hashed }
      | .error _ => next = edit
    | .userUpdate user => fun reply next =>
      match reply with
      | .ok _ => next = { edit with written := some user }
      | .error _ => next = edit
    | _ => fun _ next => next = edit

/-- Nothing is read yet. -/
def Edit.start : Edit := ⟨none, [], none⟩

/-- What is known of a request that has returned. -/
def AccountRequest.Ends (request : AccountRequest) (reply : AccountReply) (edit : Edit) : Prop :=
  reply = .change (.ok ()) → ∃ loaded written, edit.loaded = some loaded ∧
    edit.written = some written ∧ request.account = some written.id ∧
      request.Changes (fun plain hash => (plain, hash) ∈ edit.hashed) loaded written

section Programs

/-- The calls that neither read nor write an account, and make no hash. -/
def Call.Aside : Call → Prop
  | .userResolve _ _ | .hashUserPassword _ | .userUpdate _ => False
  | _ => True

/-- The contract ignores the calls that leave accounts and hashes alone. -/
theorem aside_ignored (edit : Edit) : editing.Ignores Call.Aside edit := by
  intro request aside
  cases request
  case userResolve | hashUserPassword | userUpdate => cases aside
  all_goals exact ⟨trivial, fun _ _ same => same⟩

/-- Counting attempts leaves the accounts alone. -/
theorem counts_aside {source id : String} (request : Call) (counts : request.Counts source id) :
    request.Aside := by
  cases request
  case userResolve | hashUserPassword | userUpdate => cases counts
  all_goals trivial

theorem preferredTenant_aside (userID : String) : (preferredTenant userID).Uses Call.Aside := by
  refine Program.uses_perform_bind.mpr ⟨trivial, ?_⟩
  rintro (error | stored)
  · trivial
  dsimp only
  split
  · trivial
  split <;> trivial

/-- A program that leaves the account alone, before another one. -/
theorem aside_bind {α β : Type} {first : Service α} {next : α → Service β} {edit : Edit}
    {post : β → Edit → Prop} (aside : first.Uses Call.Aside)
    (continues : ∀ result, (next result).Meets editing edit post) :
    (first >>= next).Meets editing edit post := by
  refine (aside.meets (aside_ignored edit)).bind ?_
  rintro result _ rfl
  exact continues result

/-- Upgrading a hash keeps the account's identifier, and what was read of it. -/
theorem upgradeHash_meets (user : User) (plain : String) (edit : Edit) :
    (upgradeHash user plain).Meets editing edit fun result next =>
      result.id = user.id ∧ next.loaded = edit.loaded ∧ next.written = edit.written := by
  unfold upgradeHash
  split
  · exact ⟨rfl, rfl, rfl⟩
  refine .perform trivial ?_
  rintro (error | hash) _ rfl
  · exact ⟨rfl, rfl, rfl⟩
  · refine ⟨?_, rfl, rfl⟩
    split <;> rfl

/-- What follows a right password writes the account once, and only the one that the login has read:
the write carries that version's fields, with a new hash at most. -/
theorem completeLogin_meets {user : User} {edit : Edit} (loaded : edit.loaded = some user)
    (unwritten : edit.written = none) (plain : String) :
    (completeLogin user plain).Meets editing edit fun _ _ => True := by
  refine aside_bind (preferredTenant_aside user.id) ?_
  rintro ⟨tenantID, role⟩
  refine .perform trivial ?_
  rintro (error | token) _ rfl
  · trivial
  refine .perform trivial ?_
  rintro now _ rfl
  refine (upgradeHash_meets _ plain _).bind ?_
  rintro updated next ⟨named, same, still⟩
  refine .perform ⟨still.trans unwritten, user, same.trans loaded, named.symm⟩ ?_
  rintro (error | _) _ rfl
  · trivial
  refine .perform trivial ?_
  rintro (error | _) _ rfl
  · trivial
  refine .perform trivial ?_
  rintro _ _ rfl
  trivial

/-- A login writes its account only after the password was right. -/
theorem loginAs_edits (server : Server) {user : User} {edit : Edit} (loaded : edit.loaded = some user)
    (unwritten : edit.written = none) (plain sourceIP : String) :
    (loginAs server user plain sourceIP).Meets editing edit fun _ _ => True := by
  refine aside_bind ((hasAccountLockout_uses server sourceIP user.id).mono counts_aside) ?_
  intro standing
  split
  · trivial
  refine .perform trivial ?_
  rintro (_ | _) _ rfl
  · refine aside_bind ((storeLoginAttempt_uses server sourceIP user.id).mono counts_aside) ?_
    exact fun _ => trivial
  · refine aside_bind ((resetLoginAttempts_uses server sourceIP user.id).mono counts_aside) ?_
    intro _
    split
    · refine .perform trivial ?_
      rintro mfaToken _ rfl
      refine .perform trivial ?_
      rintro _ _ rfl
      trivial
    · exact completeLogin_meets loaded unwritten plain

/-- The lookup that answers is the one whose account counts as read. -/
theorem resolveFirst_edits (value : String) (resolvers : List UserResolver) (error : StoreError)
    {edit : Edit} (unwritten : edit.written = none) :
    (resolveFirst value resolvers error).Meets editing edit fun result next =>
      next.written = none ∧ ∀ user, result = .ok user → next.loaded = some user := by
  induction resolvers generalizing error with
  | nil => exact ⟨unwritten, by rintro _ ⟨⟩⟩
  | cons resolver rest ih =>
    refine .perform unwritten ?_
    rintro (error | user) next yielded
    · obtain rfl : edit = next := yielded.symm
      exact ih error
    · obtain ⟨rfl, _⟩ := yielded
      refine ⟨unwritten, ?_⟩
      rintro _ ⟨⟩
      rfl

theorem authLocalUser_edits (server : Server) (attempt : Attempt) :
    (authLocalUser server attempt.identifier attempt.password attempt.sourceIP).Meets editing
      Edit.start fun _ _ => True := by
  refine .perform trivial ?_
  rintro (error | allowed) _ rfl
  · trivial
  dsimp only
  split
  · trivial
  refine (resolveFirst_edits _ _ _ rfl).bind ?_
  rintro (error | user) next ⟨unwritten, loaded⟩
  · trivial
  dsimp only
  split
  · trivial
  · exact loginAs_edits server (loaded user rfl) unwritten attempt.password attempt.sourceIP

/-- The account with all changes of a request, among the hashes that were made. -/
theorem applyUserChanges_edits (user : User) (changes : UserChanges) (edit : Edit) :
    (applyUserChanges user changes).Meets editing edit fun result next =>
      next.loaded = edit.loaded ∧ next.written = edit.written ∧ ∀ updated, result = .ok updated →
        updated.id = user.id ∧ (AccountRequest.update changes).Changes
          (fun plain hash => (plain, hash) ∈ next.hashed) user updated := by
  unfold applyUserChanges
  split
  · rename_i same
    refine ⟨rfl, rfl, ?_⟩
    rintro _ ⟨⟩
    exact ⟨rfl, rfl, rfl, by rw [if_pos same]; rfl⟩
  rename_i asked
  refine .perform trivial ?_
  rintro (_ | _) _ rfl
  · exact ⟨rfl, rfl, by rintro _ ⟨⟩⟩
  refine .perform trivial ?_
  rintro (error | hash) _ rfl
  · exact ⟨rfl, rfl, by rintro _ ⟨⟩⟩
  · refine ⟨rfl, rfl, ?_⟩
    rintro _ ⟨⟩
    refine ⟨rfl, rfl, rfl, ?_⟩
    rw [if_neg asked]
    exact List.mem_cons_self

/-- A change of the data writes what it was asked for over the version that it has read. -/
theorem updateUser_edits (changes : UserChanges) :
    (updateUser changes).Meets editing Edit.start fun result edit =>
      (AccountRequest.update changes).Ends (.change result) edit := by
  refine .perform rfl ?_
  rintro (error | user) next yielded
  · rintro ⟨⟩
  obtain ⟨rfl, named⟩ := yielded
  dsimp only
  split
  · rintro ⟨⟩
  refine (applyUserChanges_edits user changes _).bind ?_
  rintro (error | updated) next ⟨loaded, unwritten, applied⟩
  · rintro ⟨⟩
  obtain ⟨same, changed⟩ := applied updated rfl
  refine .perform ⟨unwritten, user, loaded, same.symm⟩ ?_
  rintro (error | _) _ rfl
  · rintro ⟨⟩
  · rintro -
    exact ⟨user, updated, loaded, rfl, congrArg some ((same.trans (named rfl)).symm), changed⟩

/-- A change of the password writes a hash of the new one over the version that it has read. -/
theorem updatePasswordUser_edits (id currentPassword newPassword : String) :
    (updatePasswordUser id currentPassword newPassword).Meets editing Edit.start fun result edit =>
      (AccountRequest.password id currentPassword newPassword).Ends (.change result) edit := by
  refine .perform rfl ?_
  rintro (error | user) next yielded
  · rintro ⟨⟩
  obtain ⟨rfl, named⟩ := yielded
  refine .perform trivial ?_
  rintro (_ | _) _ rfl
  · rintro ⟨⟩
  refine .perform trivial ?_
  rintro (error | hash) _ rfl
  · rintro ⟨⟩
  refine .perform ⟨rfl, user, rfl, rfl⟩ ?_
  rintro (error | _) _ rfl
  · rintro ⟨⟩
  · rintro -
    exact ⟨user, _, rfl, rfl, congrArg some (named rfl).symm, rfl, rfl, List.mem_cons_self⟩

/-- Every request reads an account before it writes it, once. -/
theorem AccountRequest.program_edits (server : Server) (request : AccountRequest) :
    (request.program server).Meets editing Edit.start request.Ends := by
  cases request with
  | login attempt =>
    refine (authLocalUser_edits server attempt).bind ?_
    rintro reply edit -
    rintro ⟨⟩
  | update changes => exact (updateUser_edits changes).bind fun _ _ ends => ends
  | password id currentPassword newPassword =>
    exact (updatePasswordUser_edits id currentPassword newPassword).bind fun _ _ ends => ends

end Programs

/-! ## The invariant -/

/-- What is known about an account: its fields are what the calls have set, and what a thread has read
is still stored if nobody has written since. -/
structure Lasting (account : String) (start : User) (console : Console) (log : List AccountTrace) :
    Prop where
  row : ∃ row, console.users.find account = some row ∧
    ∀ field : UserField, field.of row = intended field start log
  fresh : ∀ thread user, lastLoaded AccountTrace.loadedBy thread log = some user → Unwritten (sinceLoaded AccountTrace.loadedBy thread log) →
    ∀ field : UserField, field.of user = intended field start log

/-- What the log says about a thread. -/
structure Edit.Logged (account : String) (log : List AccountTrace) (thread : Nat) (edit : Edit) :
    Prop where
  loaded : ∀ user ∈ edit.loaded, user.id = account → lastLoaded AccountTrace.loadedBy thread log = some user
  hashed : ∀ plain hash, (plain, hash) ∈ edit.hashed → .hashed thread plain hash ∈ log
  written : ∀ user ∈ edit.written, user.id = account →
    ∃ loaded ∈ edit.loaded, .wrote thread loaded user ∈ log

section Steps

variable {server : Server} {account : String} {start : User} {console next : Console}
variable {log : List AccountTrace} {thread : Nat} {edit : Edit}

/-- An entry about no reading of the thread leaves what the log says about it. -/
theorem Edit.Logged.cons {entry : AccountTrace} (logged : edit.Logged account log thread)
    (other : entry.loadedBy thread = none) : edit.Logged account (entry :: log) thread where
  loaded := by
    intro user read named
    rw [lastLoaded_cons_other _ other]
    exact logged.loaded user read named
  hashed := fun plain hash made => List.mem_cons_of_mem _ (logged.hashed plain hash made)
  written := by
    intro user wrote named
    obtain ⟨loaded, read, entered⟩ := logged.written user wrote named
    exact ⟨loaded, read, List.mem_cons_of_mem _ entered⟩

/-- The fields of an account are in one store what they are in the other. -/
def Console.SameAccount (account : String) (console next : Console) : Prop :=
  ∀ row, console.users.find account = some row → ∃ row',
    next.users.find account = some row' ∧ ∀ field : UserField, field.of row' = field.of row

/-- A change of the store that keeps the fields of the account. -/
theorem Lasting.keep (lasting : Lasting account start console log)
    (kept : console.SameAccount account next) : Lasting account start next log := by
  obtain ⟨row, found, fields⟩ := lasting.row
  obtain ⟨row', found', same⟩ := kept row found
  exact ⟨⟨row', found', fun field => (same field).trans (fields field)⟩, lasting.fresh⟩

/-- An entry that is no write, and says at most what is stored. -/
theorem Lasting.note (lasting : Lasting account start console log) {entry : AccountTrace}
    (silent : ∀ field, intended field start (entry :: log) = intended field start log)
    (true_ : ∀ reader user, entry.loadedBy reader = some user → console.users.find account = some user) :
    Lasting account start console (entry :: log) := by
  obtain ⟨row, found, fields⟩ := lasting.row
  refine ⟨⟨row, found, fun field => (fields field).trans (silent field).symm⟩, ?_⟩
  intro reader user read quiet field
  rw [silent field]
  cases said : entry.loadedBy reader with
  | some version =>
    obtain rfl := Option.some.inj ((lastLoaded_cons_self log said).symm.trans read)
    obtain rfl := Option.some.inj (found.symm.trans (true_ reader _ said))
    exact fields field
  | none =>
    rw [lastLoaded_cons_other _ said] at read
    rw [sinceLoaded_cons_other _ said] at quiet
    exact lasting.fresh reader user read (fun other member => quiet other (List.mem_cons_of_mem _ member))
      field

/-- The account is written, and nobody else has written it since it was read. -/
theorem Lasting.write (lasting : Lasting account start console log) {loaded user row : User}
    (read : lastLoaded AccountTrace.loadedBy thread log = some loaded) (quiet : Unwritten (sinceLoaded AccountTrace.loadedBy thread log))
    (found : next.users.find account = some row)
    (stored : ∀ field : UserField, field.of row = field.of user) :
    Lasting account start next (.wrote thread loaded user :: log) := by
  have kept := lasting.fresh thread loaded read quiet
  refine ⟨⟨row, found, ?_⟩, ?_⟩
  · intro field
    rw [stored field]
    simp only [intended]
    split
    · rfl
    · rename_i same
      rw [not_not.mp same]
      exact kept field
  · intro reader user' _ unwritten
    exact (unwritten _ List.mem_cons_self).elim

/-- A call that does not write a whole account keeps the fields of all. -/
theorem meaning_keeps (around : Moment) {request : Call}
    (other : ∀ user, request ≠ .userUpdate user) :
    console.SameAccount account (meaning server request around console).2 := by
  intro row found
  have same : ∃ row', console.users.find account = some row' ∧
      ∀ field : UserField, field.of row' = field.of row := ⟨row, found, fun _ => rfl⟩
  unfold meaning
  split
  · exact same
  cases request
  case userUpdate user => exact absurd rfl (other user)
  case userUpdatePreferredNamespace userID tenantID =>
    simp only [Console.perform]
    split
    · exact same
    · rename_i old _
      rw [Table.find_put]
      split
      · rename_i stored here
        have named : userID = account := (Table.find_eq_some.mp stored).2.symm.trans here
        rw [← named, stored] at found
        obtain rfl := Option.some.inj found
        refine ⟨_, by rw [← named, stored]; rfl, ?_⟩
        intro field
        cases field <;> rfl
      · exact same
  case userResolve | namespaceGetPreferred =>
    simp only [Console.perform]
    split <;> exact same
  all_goals exact same

/-- A write of an account fails and changes nothing, or stores its fields and leaves the others. -/
theorem userUpdate_stores (console : Console) (user : User) :
    (∃ error, console.userUpdate user = (.error error, console)) ∨
      ∃ next row, console.userUpdate user = (.ok (), next) ∧
        next.users.find user.id = some row ∧ (∀ field : UserField, field.of row = field.of user) ∧
          ∀ other, other ≠ user.id → next.users.find other = console.users.find other := by
  unfold Console.userUpdate
  cases stored : console.users.find user.id with
  | none => exact .inl ⟨_, rfl⟩
  | some row =>
    cases console.collision user with
    | some field => exact .inl ⟨_, rfl⟩
    | none =>
      refine .inr ⟨_, _, rfl, by rw [Table.find_put, if_pos rfl, stored]; rfl, ?_, ?_⟩
      · intro field
        cases field <;> rfl
      · intro other different
        rw [Table.find_put, if_neg (Ne.symm different)]

/-- What is known about an account and all threads. -/
def Consistent (account : String) (start : User) (shared : Console × List AccountTrace)
    (editOf : Nat → Edit) : Prop :=
  Lasting account start shared.1 shared.2 ∧
    ∀ thread, (editOf thread).Logged account shared.2 thread

variable {editOf : Nat → Edit}

/-- The other threads after a step of one, and the thread itself. -/
theorem logged_update {entries : List AccountTrace}
    (logged : ∀ thread, (editOf thread).Logged account log thread)
    (own : ∀ entry ∈ entries, ∀ other, other ≠ thread → entry.loadedBy other = none)
    (moved : edit.Logged account (entries ++ log) thread) (other : Nat) :
    (Function.update editOf thread edit other).Logged account (entries ++ log) other := by
  by_cases here : other = thread
  · subst here
    simpa using moved
  rw [Function.update_of_ne here]
  clear moved
  induction entries with
  | nil => exact logged other
  | cons entry rest ih =>
    have later := ih fun entry member => own entry (List.mem_cons_of_mem _ member)
    exact later.cons (own entry List.mem_cons_self other here)

variable (consistent : Consistent account start (console, log) editOf)

include consistent

/-- A step that is not logged. -/
theorem Consistent.keep (kept : console.SameAccount account next) :
    Consistent account start (next, log) (Function.update editOf thread (editOf thread)) := by
  rw [Function.update_eq_self]
  exact ⟨consistent.1.keep kept, consistent.2⟩

/-- An account is read. -/
theorem Consistent.load {user : User} (unwritten : (editOf thread).written = none)
    (stored : user ∈ console.users.rows) :
    Consistent account start
      (console, (if user.id = account then [.loaded thread user] else []) ++ log)
      (Function.update editOf thread { editOf thread with loaded := some user }) := by
  obtain ⟨lasting, logged⟩ := consistent
  split
  · rename_i named
    have found : console.users.find account = some user := Table.find_eq_some.mpr ⟨stored, named⟩
    constructor
    · refine lasting.note (fun _ => rfl) ?_
      intro reader version said
      obtain ⟨_, rfl⟩ : thread = reader ∧ user = version := by
        simpa [AccountTrace.loadedBy] using said
      exact found
    · refine logged_update logged ?_ ⟨?_, ?_, ?_⟩
      · intro entry member other different
        rw [List.mem_singleton.mp member]
        exact if_neg (Ne.symm different)
      · rintro _ ⟨⟩ _
        exact lastLoaded_cons_self log (if_pos rfl)
      · intro plain hash made
        exact List.mem_cons_of_mem _ ((logged thread).hashed plain hash made)
      · intro version wrote
        rw [show (editOf thread).written = none from unwritten] at wrote
        cases wrote
  · rename_i other
    refine ⟨lasting, logged_update logged (by simp) ⟨?_, (logged thread).hashed, ?_⟩⟩
    · rintro _ ⟨⟩ named
      exact absurd named other
    · intro version wrote
      rw [show (editOf thread).written = none from unwritten] at wrote
      cases wrote

/-- A hash is made. -/
theorem Consistent.hash (plain hash : String) :
    Consistent account start (console, [.hashed thread plain hash] ++ log)
      (Function.update editOf thread
        { editOf thread with hashed := (plain, hash) :: (editOf thread).hashed }) := by
  obtain ⟨lasting, logged⟩ := consistent
  have kept := (logged thread).cons (show (AccountTrace.hashed thread plain hash).loadedBy thread =
    none from rfl)
  refine ⟨lasting.note (fun _ => rfl) (by simp [AccountTrace.loadedBy]),
    logged_update logged ?_ ⟨kept.loaded, ?_, kept.written⟩⟩
  · intro entry member other _
    rw [List.mem_singleton.mp member]
    rfl
  · intro made digest member
    rcases List.mem_cons.mp member with same | old
    · cases same
      exact List.mem_cons_self
    · exact kept.hashed made digest old

/-- An account is written. Nobody else has written it since it was read. -/
theorem Consistent.write {loaded user : User} (read : (editOf thread).loaded = some loaded)
    (same : loaded.id = user.id)
    (quiet : user.id = account → Unwritten (sinceLoaded AccountTrace.loadedBy thread log))
    {row : User} (found : next.users.find user.id = some row)
    (fields : ∀ field : UserField, field.of row = field.of user)
    (others : ∀ other, other ≠ user.id → next.users.find other = console.users.find other) :
    Consistent account start (next,
        (if user.id = account then
            (lastLoaded AccountTrace.loadedBy thread log).toList.map fun loaded => .wrote thread loaded user
          else []) ++ log)
      (Function.update editOf thread { editOf thread with written := some user }) := by
  obtain ⟨lasting, logged⟩ := consistent
  split
  · rename_i named
    have last := (logged thread).loaded loaded read (same.trans named)
    rw [last]
    rw [named] at found
    refine ⟨lasting.write last (quiet named) found fields, ?_⟩
    have kept := (logged thread).cons (show (AccountTrace.wrote thread loaded user).loadedBy thread =
      none from rfl)
    refine logged_update logged ?_ ⟨kept.loaded, kept.hashed, ?_⟩
    · intro entry member other _
      rw [List.mem_singleton.mp member]
      rfl
    · rintro _ ⟨⟩ _
      exact ⟨loaded, read, List.mem_cons_self⟩
  · rename_i other
    have kept : Lasting account start next log := by
      refine lasting.keep fun row found => ⟨row, ?_, fun _ => rfl⟩
      rw [others account (Ne.symm other)]
      exact found
    refine ⟨kept, logged_update logged (by simp) ⟨(logged thread).loaded, (logged thread).hashed, ?_⟩⟩
    rintro _ ⟨⟩ named
    exact absurd named other

/-- A call that neither reads nor writes an account, and makes no hash. -/
theorem Consistent.aside {request : Call} (aside : request.Aside) (around : Moment) :
    Consistent account start ((meaning server request around console).2,
        accountTraces account thread log request (meaning server request around console).1 ++ log)
      (Function.update editOf thread (editOf thread)) := by
  have unlogged : accountTraces account thread log request
      (meaning server request around console).1 = [] := by
    cases request
    case userResolve | hashUserPassword | userUpdate => cases aside
    all_goals rfl
  rw [unlogged]
  refine consistent.keep (meaning_keeps around ?_)
  rintro user rfl
  exact aside

/-- A call keeps what is known. -/
theorem Consistent.step {op : AccountRequest} {request : Call} {around : Moment}
    (allowed : editing.allowed (editOf thread) request)
    (exclusive : Exclusive account (console, log) thread op request around) :
    ∃ edit, editing.yields (editOf thread) request (meaning server request around console).1 edit ∧
      Consistent account start ((meaning server request around console).2,
          accountTraces account thread log request (meaning server request around console).1 ++ log)
        (Function.update editOf thread edit) := by
  have unmoved : Consistent account start (console, log)
      (Function.update editOf thread (editOf thread)) :=
    consistent.keep fun row found => ⟨row, found, fun _ => rfl⟩
  cases request
  case userResolve resolver value =>
    unfold meaning
    split
    · exact ⟨editOf thread, rfl, unmoved⟩
    simp only [Console.perform]
    split
    · exact ⟨editOf thread, rfl, unmoved⟩
    · rename_i user found
      have stored := List.mem_of_find?_eq_some found
      have named : resolver.column user = value := by simpa using List.find?_some found
      refine ⟨_, ⟨rfl, ?_⟩, consistent.load allowed stored⟩
      rintro rfl
      exact named
  case hashUserPassword plain =>
    unfold meaning
    split
    · exact ⟨editOf thread, rfl, unmoved⟩
    simp only [Console.perform]
    cases around.hashed with
    | error error => exact ⟨editOf thread, rfl, unmoved⟩
    | ok hash => exact ⟨_, rfl, consistent.hash plain hash⟩
  case userUpdate user =>
    obtain ⟨_, loaded, read, same⟩ := allowed
    unfold meaning
    split
    · exact ⟨editOf thread, rfl, unmoved⟩
    simp only [Console.perform]
    rcases userUpdate_stores console user with
      ⟨error, answered⟩ | ⟨next, row, answered, found, fields, others⟩
    · rw [answered]
      exact ⟨editOf thread, rfl, unmoved⟩
    · rw [answered]
      exact ⟨_, rfl, consistent.write read same exclusive found fields others⟩
  all_goals exact ⟨editOf thread, rfl, consistent.aside (by trivial) around⟩

end Steps

/-- What was set stays set, in every run whose steps meet the condition: each field of the stored
account has the value of the newest write whose call has set it, and a change that has returned
success has written what it was asked for. Each call keeps the fields equal to what the log intends:
what a call has read is still stored when it writes. -/
theorem changed_account_stays_changed (server : Server) (account : String) (start : User)
    (console : Console) (stored : console.users.find account = some start)
    (events : List (Event AccountRequest Moment))
    (exclusive : (writing server account).Along (Exclusive account) ⟨(console, []), []⟩ events) :
    ∀ pool ∈ (writing server account).reached ⟨(console, []), []⟩ events,
      (∃ row, pool.shared.1.users.find account = some row ∧
        ∀ field : UserField, field.of row = intended field start pool.shared.2) ∧
      ∀ index thread, pool.threads[index]? = some thread →
        thread.result = some (.change (.ok ())) → thread.op.account = some account →
          ∃ loaded written, .wrote index loaded written ∈ pool.shared.2 ∧
            thread.op.Changes (fun plain hash => .hashed index plain hash ∈ pool.shared.2) loaded
              written := by
  intro pool member
  have initially : Consistent account start (console, []) fun _ => Edit.start := by
    refine ⟨⟨⟨start, stored, fun _ => rfl⟩, by simp [lastLoaded]⟩, fun _ => ⟨?_, ?_, ?_⟩⟩
    · rintro _ ⟨⟩
    · rintro _ _ ⟨⟩
    · rintro _ ⟨⟩
  obtain ⟨editOf, ⟨lasting, logged⟩, ended, -⟩ := (writing server account).reached_of_threads
    (Consistent account start) (AccountRequest.program_edits server)
    (fun consistent => consistent.step) initially exclusive pool member
  refine ⟨lasting.row, ?_⟩
  intro index thread found returned named
  have known := logged index
  obtain ⟨loaded, written, read, wrote, same, changes⟩ := ended _ _ _ found returned rfl
  obtain ⟨version, loadedVersion, entered⟩ :=
    known.written written wrote (Option.some.inj (same.symm.trans named))
  obtain rfl := Option.some.inj (read.symm.trans loadedVersion)
  refine ⟨loaded, written, entered, ?_⟩
  cases op : thread.op with
  | login attempt => trivial
  | update request =>
    rw [op] at changes
    obtain ⟨email, username, password⟩ := changes
    refine ⟨email, username, ?_⟩
    split at password
    · rename_i unasked
      rwa [if_pos unasked]
    · rename_i asked
      rw [if_neg asked]
      exact known.hashed _ _ password
  | password id currentPassword newPassword =>
    rw [op] at changes
    obtain ⟨email, username, password⟩ := changes
    exact ⟨email, username, known.hashed _ _ password⟩

/-! ## Runs -/

/-- A moment in which a new hash is that of a new password. -/
def hashing : Moment := { calm with hashed := .ok "$changed" }

/-- Some calls of a thread. -/
def accountCalls (count thread : Nat) : List (Event AccountRequest Moment) :=
  List.replicate count (.step thread hashing)

/-- A login with the right password. -/
def adaLogin : AccountRequest := .login ⟨"ada", "secret", "10.0.0.1"⟩

/-- A change of the password. -/
def adaPassword : AccountRequest := .password "ada" "secret" "changed"

/-- A login, and then a change of the password. -/
def loginThenChange : List (Event AccountRequest Moment) :=
  [.start adaLogin] ++ accountCalls 14 0 ++ [.start adaPassword] ++ accountCalls 4 1

/-- In the run the password is changed, and it stays so. -/
theorem changed_account_stays_changed_after_login :
    (∃ pool ∈ (writing lockingServer "ada").reached ⟨(adaConsole, []), []⟩ loginThenChange,
      (pool.threads.all fun thread => thread.result.isSome) ∧
        (pool.shared.1.users.find "ada").map User.passwordHash = some "$changed") ∧
      ∀ pool ∈ (writing lockingServer "ada").reached ⟨(adaConsole, []), []⟩ loginThenChange,
        (∃ row, pool.shared.1.users.find "ada" = some row ∧
          ∀ field : UserField, field.of row = intended field adaAccount pool.shared.2) ∧
        ∀ index thread, pool.threads[index]? = some thread →
          thread.result = some (.change (.ok ())) → thread.op.account = some "ada" →
            ∃ loaded written, .wrote index loaded written ∈ pool.shared.2 ∧
              thread.op.Changes (fun plain hash => .hashed index plain hash ∈ pool.shared.2) loaded
                written :=
  ⟨by decide +kernel, changed_account_stays_changed lockingServer "ada" adaAccount adaConsole
    (by decide +kernel) loginThenChange (by decide +kernel)⟩

/-- The password is changed while a login is under way, which then writes the account back. -/
def changeDuringLogin : List (Event AccountRequest Moment) :=
  [.start adaLogin] ++ accountCalls 10 0 ++ [.start adaPassword] ++ accountCalls 4 1 ++
    accountCalls 4 0

/-- The change has returned success, and the old password is stored again. -/
theorem login_takes_change_back :
    ∃ pool ∈ (writing lockingServer "ada").reached ⟨(adaConsole, []), []⟩ changeDuringLogin,
      (∃ thread ∈ pool.threads, thread.op = adaPassword ∧
        thread.result = some (.change (.ok ()))) ∧
      (pool.shared.1.users.find "ada").map User.passwordHash = some "$secret" ∧
      intended .password adaAccount pool.shared.2 = "$changed" := by
  decide +kernel

end ShellHub.Accounts
