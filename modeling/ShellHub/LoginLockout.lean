import ShellHub.Accounts
import ShellHub.Interleavings

/-!
# Parallel guesses at a password

Any number of logins run at the same time, one call to the store or the cache after the other. A log
is kept for one subject, that is for one source and account: when the lockout was checked, a password
compared, the attempt number read, stored, and a lockout stored.

The stored number counts the failures, and no password is compared once three are counted, as long as
three windows stay closed: between a call's check and its comparison no failure is counted, between its
reading of the number and its storing of the next one no other call stores one, and no call checks the
lockout while the third failure is counted and its lockout is not stored yet.
-/

namespace ShellHub.Accounts

open Programs Caches Interleavings

/-! ## The log -/

/-- A login with its source. -/
structure Attempt where
  identifier : String
  password : String
  sourceIP : String
  deriving DecidableEq, Repr

/-- What is logged of a thread. -/
inductive Trace where
  | checked (thread : Nat)
  | compared (thread : Nat)
  | read (thread : Nat)
  | counted (thread : Nat)
  | locked (thread : Nat)
  deriving DecidableEq, Repr

/-- The thread of a failure that was counted. -/
def Trace.failure : Trace → Option Nat
  | .counted thread => some thread
  | _ => none

/-- The thread of a comparison. -/
def Trace.guess : Trace → Option Nat
  | .compared thread => some thread
  | _ => none

/-- The thread of a lockout that was stored. -/
def Trace.lockout : Trace → Option Nat
  | .locked thread => some thread
  | _ => none

/-- The failures that were counted. -/
def failures (log : List Trace) : List Nat := log.filterMap Trace.failure

/-- The passwords that were compared. -/
def guesses (log : List Trace) : List Nat := log.filterMap Trace.guess

/-- The lockouts that were stored. -/
def lockouts (log : List Trace) : List Nat := log.filterMap Trace.lockout

/-- What a call adds to the log of a subject. -/
def traces (target source : String) (thread : Nat) : (request : Call) → request.Reply → List Trace
  | .cacheGet key, _ =>
    if key = lockoutKey target then [.checked thread]
    else if key = attemptKey target then [.read thread]
    else []
  | .comparePassword user _, _ => if subject source user.id = target then [.compared thread] else []
  | .cacheSet key _ _, .ok _ =>
    if key = attemptKey target then [.counted thread]
    else if key = lockoutKey target then [.locked thread]
    else []
  | _, _ => []

/-- Logins at the same time, with the log of one subject. The newest entry comes first. -/
def guessing (server : Server) (target : String) :
    System Attempt Call Call.Reply LoginReply Moment (Console × List Trace) where
  program := fun attempt =>
    authLocalUser server attempt.identifier attempt.password attempt.sourceIP
  effect := fun thread attempt request around shared =>
    let (reply, console) := meaning server request around shared.1
    (reply, (console, traces target attempt.sourceIP thread request reply ++ shared.2))

/-- The attempt number that is stored for a subject. -/
def Console.attempts (console : Console) (target : String) : Nat :=
  ((console.numbers (attemptKey target)).map Timed.value).getD 0

/-! ## The condition on runs -/

/-- The log since an entry. -/
def since (mark : Trace) (log : List Trace) : List Trace := log.takeWhile (· ≠ mark)

/-- The entry under a key has not expired. -/
def Console.Live (console : Console) (key : String) (now : Nat) : Prop :=
  ∀ entry ∈ console.numbers key, now < entry.expiresAt

instance (console : Console) (key : String) (now : Nat) : Decidable (console.Live key now) :=
  match found : console.numbers key with
  | none => .isTrue (by simp [Console.Live, found])
  | some entry => decidable_of_iff (now < entry.expiresAt) (by simp [Console.Live, found])

/-- The passwords for a subject are wrong, the cache answers and its entries live, and the three windows
stay closed. -/
def Orderly (server : Server) (target : String) (shared : Console × List Trace) (thread : Nat)
    (attempt : Attempt) (request : Call) (around : Moment) : Prop :=
  match request with
  | .cacheGet key =>
    (key = lockoutKey target ∨ key = attemptKey target →
      around.fault = none ∧ shared.1.Live key around.now) ∧
    (key = lockoutKey target → 3 ≤ (failures shared.2).length → lockouts shared.2 ≠ [])
  | .comparePassword user plain =>
    subject attempt.sourceIP user.id = target →
      server.compareWith plain user.passwordHash = false ∧
        failures (since (.checked thread) shared.2) = []
  | .cacheSet key _ _ =>
    (key = lockoutKey target ∨ key = attemptKey target → around.fault = none) ∧
    (key = attemptKey target → failures (since (.read thread) shared.2) = [])
  | _ => True

instance (server : Server) (target : String) (shared : Console × List Trace) (thread : Nat)
    (attempt : Attempt) (request : Call) (around : Moment) :
    Decidable (Orderly server target shared thread attempt request around) := by
  unfold Orderly
  split <;> infer_instance

/-- No password was compared after three failures had been counted. -/
def Bounded (log : List Trace) : Prop :=
  ∀ later thread earlier, log = later ++ .compared thread :: earlier →
    (failures earlier).length < 3

/-! ## A login seen from its subject -/

/-- How far a login has come for a subject. -/
inductive Visit where
  | outside
  | passed
  | compared
  | read (attempt : Nat)
  | counted
  deriving DecidableEq

/-- Whether a login has compared a password. -/
def Visit.guessed : Visit → Prop
  | .outside | .passed => False
  | .compared | .read _ | .counted => True

/-- The contract of a login. The passwords for the subject are wrong, and the cache answers. -/
def visits (target : String) (attempt : Attempt) : Contract Call Call.Reply Visit where
  allowed := fun visit request =>
    match request with
    | .cacheGet key => (key = lockoutKey target → visit = .outside) ∧
        (key = attemptKey target → ∀ number, visit ≠ .read number)
    | .comparePassword user _ => subject attempt.sourceIP user.id = target → visit = .passed
    | .cacheSet key value _ =>
      (key = attemptKey target → ∃ stored, visit = .read stored ∧ value = stored + 1) ∧
        (key = lockoutKey target → visit = .counted ∧ 0 < value)
    | .cacheDelete key => key ≠ attemptKey target ∧ key ≠ lockoutKey target
    | _ => True
  yields := fun visit request =>
    match request with
    | .cacheGet key => fun reply next =>
      if key = lockoutKey target then
        ∃ value, reply = .ok value ∧ next = if value.getD 0 = 0 then .passed else .outside
      else if key = attemptKey target then
        ∃ value, reply = .ok value ∧ next = if visit = .compared then .read (value.getD 0) else visit
      else next = visit
    | .comparePassword user _ => fun reply next =>
      if subject attempt.sourceIP user.id = target then reply = false ∧ next = .compared
      else next = visit
    | .cacheSet key _ _ => fun reply next =>
      if key = attemptKey target then reply = .ok () ∧ next = .counted else next = visit
    | _ => fun _ next => next = visit

/-- The two keys of a subject differ, and those of two subjects do. -/
theorem attemptKey_ne_lockoutKey (first second : String) :
    attemptKey first ≠ lockoutKey second := by
  intro same
  have letters : "login-attempt=".toList ++ first.toList =
      "account-lockout=".toList ++ second.toList := by
    rw [← String.toList_append, ← String.toList_append]
    exact congrArg String.toList same
  rw [show "login-attempt=".toList = 'l' :: "ogin-attempt=".toList by decide,
    show "account-lockout=".toList = 'a' :: "ccount-lockout=".toList by decide] at letters
  cases letters

section Programs

variable {server : Server} {target : String} {attempt : Attempt}

/-- The calls that have nothing to do with a subject. -/
def Call.Elsewhere (target source : String) : Call → Prop
  | .cacheGet key | .cacheSet key _ _ | .cacheDelete key =>
    key ≠ attemptKey target ∧ key ≠ lockoutKey target
  | .comparePassword user _ => subject source user.id ≠ target
  | _ => True

/-- A call that has nothing to do with the subject leaves the visit as it is. -/
theorem elsewhere_yields {request : Call} (elsewhere : request.Elsewhere target attempt.sourceIP)
    (visit next : Visit) (reply : request.Reply) :
    (visits target attempt).yields visit request reply next ↔ next = visit := by
  cases request
  case cacheGet key => simp [visits, elsewhere.1, elsewhere.2]
  case cacheSet key value ttl => simp [visits, elsewhere.1]
  case comparePassword user plain =>
    have other : subject attempt.sourceIP user.id ≠ target := elsewhere
    simp [visits, other]
  all_goals exact Iff.rfl

/-- The contract ignores the calls that have nothing to do with the subject. -/
theorem elsewhere_ignored (visit : Visit) :
    (visits target attempt).Ignores (Call.Elsewhere target attempt.sourceIP) visit := by
  intro request elsewhere
  refine ⟨?_, fun reply next => (elsewhere_yields elsewhere visit next reply).mp⟩
  cases request
  case cacheGet key =>
    exact ⟨fun same => absurd same elsewhere.2, fun same => absurd same elsewhere.1⟩
  case cacheSet key value ttl =>
    exact ⟨fun same => absurd same elsewhere.1, fun same => absurd same elsewhere.2⟩
  case cacheDelete key => exact elsewhere
  case comparePassword user plain => exact fun same => absurd same elsewhere
  all_goals trivial

/-- The keys of another subject. -/
theorem keys_elsewhere {other : String} (different : other ≠ target) :
    (attemptKey other ≠ attemptKey target ∧ attemptKey other ≠ lockoutKey target) ∧
      lockoutKey other ≠ attemptKey target ∧ lockoutKey other ≠ lockoutKey target :=
  ⟨⟨fun same => different ((String.append_right_inj _).mp same), attemptKey_ne_lockoutKey _ _⟩,
    (attemptKey_ne_lockoutKey _ _).symm, fun same => different ((String.append_right_inj _).mp same)⟩

/-- The calls that count for another subject have nothing to do with this one. -/
theorem counts_elsewhere {source id : String} (different : subject source id ≠ target)
    (request : Call) (counts : request.Counts source id) : request.Elsewhere target source := by
  obtain ⟨attempts, lockouts⟩ := keys_elsewhere different
  cases request
  case clockNow => trivial
  case cacheGet | cacheSet | cacheDelete => rcases counts with rfl | rfl <;> assumption
  all_goals cases counts

theorem preferredTenant_elsewhere (source userID : String) :
    (preferredTenant userID).Uses (Call.Elsewhere target source) := by
  refine Program.uses_perform_bind.mpr ⟨trivial, ?_⟩
  rintro (error | stored)
  · trivial
  dsimp only
  split
  · trivial
  split <;> trivial

theorem upgradeHash_elsewhere (source : String) (user : User) (plain : String) :
    (upgradeHash user plain).Uses (Call.Elsewhere target source) := by
  unfold upgradeHash
  split
  · trivial
  refine ⟨trivial, ?_⟩
  rintro (error | hash) <;> trivial

/-- What follows a right password touches neither the counters nor a password of the subject. -/
theorem completeLogin_elsewhere (source : String) (user : User) (plain : String) :
    (completeLogin user plain).Uses (Call.Elsewhere target source) := by
  refine (preferredTenant_elsewhere source user.id).bind ?_
  rintro ⟨tenantID, role⟩
  refine ⟨trivial, ?_⟩
  rintro (error | token)
  · trivial
  refine ⟨trivial, fun now => ?_⟩
  refine (upgradeHash_elsewhere source _ plain).bind fun updated => ⟨trivial, ?_⟩
  rintro (error | _)
  · trivial
  refine ⟨trivial, ?_⟩
  rintro (error | _)
  · trivial
  · exact ⟨trivial, fun _ => trivial⟩

/-- A login to another account makes no call about the subject. -/
theorem loginAs_elsewhere {user : User} {source : String} (different : subject source user.id ≠ target)
    (plain : String) : (loginAs server user plain source).Uses (Call.Elsewhere target source) := by
  have counted := counts_elsewhere different
  refine ((hasAccountLockout_uses server source user.id).mono counted).bind fun standing => ?_
  split
  · trivial
  refine ⟨different, ?_⟩
  rintro (_ | _)
  · exact ((storeLoginAttempt_uses server source user.id).mono counted).bind fun _ => trivial
  · refine ((resetLoginAttempts_uses server source user.id).mono counted).bind fun _ => ?_
    split
    · exact ⟨trivial, fun _ => ⟨trivial, fun _ => trivial⟩⟩
    · exact completeLogin_elsewhere source user plain

/-- A failure is counted, with a lockout from the third on. -/
theorem storeLoginAttempt_meets (enabled : 0 < server.maximumAccountLockout) {source id : String}
    (own : subject source id = target) :
    (storeLoginAttempt server source id).Meets (visits target attempt) .compared fun _ next =>
      next = .counted := by
  have apart := attemptKey_ne_lockoutKey target target
  unfold storeLoginAttempt
  rw [if_neg (by omega), own]
  refine ⟨⟨fun same => absurd same apart, by simp⟩, ?_⟩
  intro reply next yielded
  simp only [visits, apart, if_false, if_true] at yielded
  obtain ⟨value, rfl, rfl⟩ := yielded
  refine ⟨trivial, ?_⟩
  rintro now _ rfl
  refine ⟨⟨fun _ => ⟨_, rfl, rfl⟩, fun same => absurd same apart⟩, ?_⟩
  intro reply next yielded
  simp only [visits, if_true] at yielded
  obtain ⟨rfl, rfl⟩ := yielded
  dsimp only
  split
  · rfl
  have positive : 0 < server.lockoutMinutes (value.getD 0 + 1) := by
    unfold Server.lockoutMinutes
    have power : 0 < 4 ^ (value.getD 0 + 1 - 3) := Nat.pow_pos (by decide)
    omega
  refine ⟨⟨fun same => absurd same apart.symm, fun _ => ⟨rfl, by omega⟩⟩, ?_⟩
  intro reply next yielded
  have kept : next = .counted := by simpa [visits, apart.symm] using yielded
  cases reply <;> exact kept

/-- A login for the subject that has compared a password counts its failure. -/
theorem loginAs_meets (enabled : 0 < server.maximumAccountLockout) {user : User}
    (own : subject attempt.sourceIP user.id = target) (plain : String) :
    (loginAs server user plain attempt.sourceIP).Meets (visits target attempt) .outside fun _ next =>
      next = .outside ∨ next = .counted := by
  have apart := attemptKey_ne_lockoutKey target target
  have standing : (hasAccountLockout server attempt.sourceIP user.id).Meets (visits target attempt)
      .outside fun standing next => next = if standing.lockout = 0 then .passed else .outside := by
    unfold hasAccountLockout
    rw [if_neg (by omega), own]
    refine ⟨⟨fun _ => rfl, fun same => absurd same apart.symm⟩, ?_⟩
    intro reply next yielded
    simp only [visits, if_true] at yielded
    obtain ⟨lockout, rfl, rfl⟩ := yielded
    refine ⟨⟨fun same => absurd same apart, fun _ number => by split <;> simp⟩, ?_⟩
    intro reply next yielded
    simp only [visits, apart, if_false, if_true] at yielded
    obtain ⟨value, rfl, rfl⟩ := yielded
    change _ = if lockout.getD 0 = 0 then Visit.passed else .outside
    rw [if_neg (by split <;> simp)]
  refine standing.bind ?_
  rintro ⟨lockout, number, error⟩ _ rfl
  dsimp only
  by_cases locked : lockout = 0
  · rw [if_neg (by omega), if_pos locked]
    refine ⟨fun _ => rfl, ?_⟩
    intro reply next yielded
    simp only [visits, own, if_true] at yielded
    obtain ⟨rfl, rfl⟩ := yielded
    refine (storeLoginAttempt_meets enabled own).bind ?_
    rintro counted _ rfl
    exact .inr rfl
  · rw [if_pos (by omega), if_neg locked]
    exact .inl rfl

theorem resolveFirst_elsewhere (source value : String) (resolvers : List UserResolver)
    (error : StoreError) :
    (resolveFirst value resolvers error).Uses (Call.Elsewhere target source) := by
  induction resolvers generalizing error with
  | nil => trivial
  | cons resolver rest ih =>
    refine ⟨trivial, ?_⟩
    rintro (error | user)
    · exact ih error
    · trivial

/-- Every login that has compared a password for the subject counts its failure. -/
theorem authLocalUser_meets (enabled : 0 < server.maximumAccountLockout) (attempt : Attempt) :
    (authLocalUser server attempt.identifier attempt.password attempt.sourceIP).Meets
      (visits target attempt) .outside fun _ next => next = .outside ∨ next = .counted := by
  refine .perform trivial ?_
  rintro (error | allowed) _ rfl
  · exact .inl rfl
  dsimp only
  split
  · exact .inl rfl
  refine ((resolveFirst_elsewhere attempt.sourceIP _ _ _).meets (elsewhere_ignored _)).bind ?_
  rintro (error | user) _ rfl
  · exact .inl rfl
  dsimp only
  split
  · exact .inl rfl
  by_cases own : subject attempt.sourceIP user.id = target
  · exact loginAs_meets enabled own attempt.password
  · refine ((loginAs_elsewhere own attempt.password).meets (elsewhere_ignored _)).mono ?_
    exact fun _ _ same => .inl same

end Programs

/-! ## The invariant -/

section Log

variable {log : List Trace} {entry mark : Trace}

/-- An entry adds its own failure to those of the log. -/
theorem failures_cons (entry : Trace) (log : List Trace) :
    failures (entry :: log) = entry.failure.toList ++ failures log := by
  unfold failures
  cases made : entry.failure <;> simp [made]

/-- An entry adds its own comparison to those of the log. -/
theorem guesses_cons (entry : Trace) (log : List Trace) :
    guesses (entry :: log) = entry.guess.toList ++ guesses log := by
  unfold guesses
  cases made : entry.guess <;> simp [made]

/-- The log before an entry, with the entry. -/
def upTo (mark : Trace) (log : List Trace) : List Trace := log.dropWhile (· ≠ mark)

theorem upTo_cons_ne (other : entry ≠ mark) : upTo mark (entry :: log) = upTo mark log := by
  simp [upTo, other]

theorem upTo_cons_self (mark : Trace) (log : List Trace) :
    upTo mark (mark :: log) = mark :: log := by
  simp [upTo]

/-- Without a failure since an entry, all failures are those up to it. -/
theorem failures_upTo (calm : failures (since mark log) = []) :
    failures (upTo mark log) = failures log := by
  have parts : failures log = failures (since mark log) ++ failures (upTo mark log) := by
    rw [failures, failures, failures, ← List.filterMap_append, since, upTo,
      List.takeWhile_append_dropWhile]
  rw [parts, calm, List.nil_append]

end Log

/-- What is known about a subject: the stored number is that of the counted failures, a stored lockout
is in force, and every thread has done what its visit says. -/
structure Tally (target : String) (shared : Console × List Trace) (visitOf : Nat → Visit) : Prop where
  stored : shared.1.attempts target = (failures shared.2).length
  shut : lockouts shared.2 ≠ [] →
    ∃ entry, shared.1.numbers (lockoutKey target) = some entry ∧ 0 < entry.value
  bounded : Bounded shared.2
  passed : ∀ thread, visitOf thread = .passed →
    (failures (upTo (.checked thread) shared.2)).length < 3
  read : ∀ thread number, visitOf thread = .read number →
    number = (failures (upTo (.read thread) shared.2)).length
  guessed : ∀ thread, thread ∈ guesses shared.2 ↔ (visitOf thread).guessed
  counted : ∀ thread, thread ∈ failures shared.2 ↔ visitOf thread = .counted
  once : (guesses shared.2).Nodup ∧ (failures shared.2).Nodup

/-- The thread of an entry. -/
def Trace.thread : Trace → Nat
  | .checked thread | .compared thread | .read thread | .counted thread | .locked thread => thread

theorem Trace.thread_of_guess {entry : Trace} {thread : Nat} (made : thread ∈ entry.guess) :
    entry.thread = thread := by
  cases entry <;> cases made
  rfl

theorem Trace.thread_of_failure {entry : Trace} {thread : Nat} (made : thread ∈ entry.failure) :
    entry.thread = thread := by
  cases entry <;> cases made
  rfl

section Steps

variable {server : Server} {target : String} {console next : Console} {log : List Trace}
variable {visitOf : Nat → Visit} {thread : Nat}

/-- A step that leaves the keys of the subject alone and is not logged. -/
theorem Tally.keep (tally : Tally target (console, log) visitOf)
    (attempts : next.numbers (attemptKey target) = console.numbers (attemptKey target))
    (lockout : next.numbers (lockoutKey target) = console.numbers (lockoutKey target)) :
    Tally target (next, log) visitOf where
  stored := by
    rw [← tally.stored]
    simp only [Console.attempts, attempts]
  shut := by
    rw [lockout]
    exact tally.shut
  bounded := tally.bounded
  passed := tally.passed
  read := tally.read
  guessed := tally.guessed
  counted := tally.counted
  once := tally.once

/-- A comparison that is logged comes after fewer than three failures. -/
theorem Bounded.cons {entry : Trace} (bounded : Bounded log)
    (early : ∀ thread, entry = .compared thread → (failures log).length < 3) :
    Bounded (entry :: log) := by
  intro later thread earlier split
  cases later with
  | nil =>
    obtain ⟨rfl, rfl⟩ := List.cons.inj split
    exact early thread rfl
  | cons _ later => exact bounded later thread earlier (List.cons.inj split).2

/-- A step that is logged. What the other threads know is not touched by it. -/
theorem Tally.note {entry : Trace} {visit : Visit} (tally : Tally target (console, log) visitOf)
    (own : entry.thread = thread)
    (stored : next.attempts target = (failures (entry :: log)).length)
    (shut : lockouts (entry :: log) ≠ [] →
      ∃ row, next.numbers (lockoutKey target) = some row ∧ 0 < row.value)
    (early : ∀ thread, entry = .compared thread → (failures log).length < 3)
    (passed : visit = .passed → (failures (upTo (.checked thread) (entry :: log))).length < 3)
    (read : ∀ number, visit = .read number →
      number = (failures (upTo (.read thread) (entry :: log))).length)
    (guessed : (thread ∈ guesses (entry :: log) ↔ visit.guessed) ∧
      (thread ∈ entry.guess → ¬ (visitOf thread).guessed))
    (counted : (thread ∈ failures (entry :: log) ↔ visit = .counted) ∧
      (thread ∈ entry.failure → visitOf thread ≠ .counted)) :
    Tally target (next, entry :: log) (Function.update visitOf thread visit) := by
  have elsewhere : ∀ other, other ≠ thread → ∀ mark : Trace, mark.thread = other → entry ≠ mark := by
    rintro other different mark same rfl
    exact different (same.symm.trans own)
  refine ⟨stored, shut, tally.bounded.cons early, ?_, ?_, ?_, ?_, ?_, ?_⟩
  · intro other held
    by_cases here : other = thread
    · subst here
      exact passed (by simpa using held)
    · rw [Function.update_of_ne here] at held
      rw [upTo_cons_ne (elsewhere other here _ rfl)]
      exact tally.passed other held
  · intro other number held
    by_cases here : other = thread
    · subst here
      exact read number (by simpa using held)
    · rw [Function.update_of_ne here] at held
      rw [upTo_cons_ne (elsewhere other here _ rfl)]
      exact tally.read other number held
  · intro other
    by_cases here : other = thread
    · subst here
      simpa using guessed.1
    · have absent : entry.guess ≠ some other := fun made =>
        here (own.symm.trans (Trace.thread_of_guess made)).symm
      rw [Function.update_of_ne here, guesses_cons, List.mem_append, Option.mem_toList,
        or_iff_right absent]
      exact tally.guessed other
  · intro other
    by_cases here : other = thread
    · subst here
      simpa using counted.1
    · have absent : entry.failure ≠ some other := fun made =>
        here (own.symm.trans (Trace.thread_of_failure made)).symm
      rw [Function.update_of_ne here, failures_cons, List.mem_append, Option.mem_toList,
        or_iff_right absent]
      exact tally.counted other
  · rw [guesses_cons]
    cases made : entry.guess with
    | none => exact tally.once.1
    | some guesser =>
      obtain rfl : thread = guesser := own.symm.trans (Trace.thread_of_guess made)
      exact tally.once.1.cons fun repeated =>
        guessed.2 made ((tally.guessed thread).mp repeated)
  · rw [failures_cons]
    cases made : entry.failure with
    | none => exact tally.once.2
    | some failing =>
      obtain rfl : thread = failing := own.symm.trans (Trace.thread_of_failure made)
      exact tally.once.2.cons fun repeated =>
        counted.2 made ((tally.counted thread).mp repeated)

/-- A call that has nothing to do with the subject. -/
theorem meaning_elsewhere {source : String} {request : Call}
    (elsewhere : request.Elsewhere target source) (around : Moment) (console : Console) :
    traces target source thread request (meaning server request around console).1 = [] ∧
      (meaning server request around console).2.numbers (attemptKey target) =
        console.numbers (attemptKey target) ∧
      (meaning server request around console).2.numbers (lockoutKey target) =
        console.numbers (lockoutKey target) := by
  unfold meaning
  cases around.fault with
  | some error =>
    refine ⟨?_, rfl, rfl⟩
    cases request
    case cacheGet key => simp [traces, elsewhere.1, elsewhere.2]
    case comparePassword user plain => exact if_neg elsewhere
    all_goals rfl
  | none =>
    cases request
    case cacheGet key => exact ⟨by simp [traces, elsewhere.1, elsewhere.2], rfl, rfl⟩
    case comparePassword user plain => exact ⟨if_neg elsewhere, rfl, rfl⟩
    case cacheSet key value ttl =>
      refine ⟨?_, ?_, ?_⟩
      · simp [Console.perform, traces, elsewhere.1, elsewhere.2]
      · exact Function.update_of_ne elsewhere.1.symm _ _
      · exact Function.update_of_ne elsewhere.2.symm _ _
    case cacheDelete key =>
      exact ⟨rfl, Function.update_of_ne elsewhere.1.symm _ _,
        Function.update_of_ne elsewhere.2.symm _ _⟩
    case userResolve | namespaceGetPreferred | userUpdatePreferredNamespace =>
      simp only [Console.perform]
      split <;> exact ⟨rfl, rfl, rfl⟩
    case userUpdate user =>
      simp only [Console.perform, Console.userUpdate]
      split
      · exact ⟨rfl, rfl, rfl⟩
      · split <;> exact ⟨rfl, rfl, rfl⟩
    all_goals exact ⟨rfl, rfl, rfl⟩

variable (tally : Tally target (console, log) visitOf)

include tally

/-- The lockout is checked. Without one, fewer than three failures are counted. -/
theorem Tally.check {around : Moment} (outside : visitOf thread = .outside)
    (live : console.Live (lockoutKey target) around.now)
    (closed : 3 ≤ (failures log).length → lockouts log ≠ []) :
    Tally target (console, .checked thread :: log) (Function.update visitOf thread
      (if (console.numbers.get (lockoutKey target) around.now).getD 0 = 0 then .passed
        else .outside)) := by
  have unguessed : thread ∉ guesses log := by
    rw [tally.guessed, outside]
    exact id
  have uncounted : thread ∉ failures log := by
    rw [tally.counted, outside]
    simp
  refine tally.note rfl tally.stored tally.shut (by simp) ?_ ?_ ⟨?_, by simp [Trace.guess]⟩
    ⟨?_, by simp [Trace.failure]⟩
  · intro passes
    rw [upTo_cons_self]
    change (failures log).length < 3
    by_contra many
    obtain ⟨entry, found, positive⟩ := tally.shut (closed (by omega))
    have got : console.numbers.get (lockoutKey target) around.now = some entry.value :=
      Cache.get_eq_some.mpr ⟨entry, found, live entry found, rfl⟩
    rw [got, if_neg (by simp; omega)] at passes
    cases passes
  · intro number
    split <;> simp
  · refine ⟨fun made => absurd made unguessed, ?_⟩
    split <;> exact False.elim
  · refine ⟨fun made => absurd made uncounted, ?_⟩
    split <;> simp

/-- The attempt number is read. -/
theorem Tally.reading {around : Moment} (unread : ∀ number, visitOf thread ≠ .read number)
    (live : console.Live (attemptKey target) around.now) :
    Tally target (console, .read thread :: log) (Function.update visitOf thread
      (if visitOf thread = .compared then
          .read ((console.numbers.get (attemptKey target) around.now).getD 0)
        else visitOf thread)) := by
  have value : (console.numbers.get (attemptKey target) around.now).getD 0 =
      (failures log).length := by
    rw [← tally.stored, Console.attempts]
    cases found : console.numbers (attemptKey target) with
    | none => simp [Cache.get, found]
    | some entry =>
      have got := Cache.get_eq_some.mpr ⟨entry, found, live entry found, rfl⟩
      simp [got]
  refine tally.note rfl tally.stored tally.shut (by simp) ?_ ?_ ⟨?_, by simp [Trace.guess]⟩
    ⟨?_, by simp [Trace.failure]⟩
  · split
    · simp
    · intro held
      exact tally.passed thread held
  · intro number held
    rw [upTo_cons_self]
    change number = (failures log).length
    split at held
    · rw [← value]
      exact (Visit.read.inj held).symm
    · exact absurd held (unread number)
  · change thread ∈ guesses log ↔ _
    rw [tally.guessed]
    split
    · rename_i compared
      rw [compared]
      exact Iff.rfl
    · exact Iff.rfl
  · change thread ∈ failures log ↔ _
    rw [tally.counted]
    split
    · rename_i compared
      simp [compared]
    · exact Iff.rfl

/-- A wrong password is compared. No failure was counted since the check. -/
theorem Tally.compare (passed : visitOf thread = .passed)
    (calm : failures (since (.checked thread) log) = []) :
    Tally target (console, .compared thread :: log) (Function.update visitOf thread .compared) := by
  have few := tally.passed thread passed
  rw [failures_upTo calm] at few
  have uncounted : thread ∉ failures log := by
    rw [tally.counted, passed]
    simp
  refine tally.note rfl tally.stored tally.shut (fun _ _ => few) (by simp) (by simp) ⟨?_, ?_⟩
    ⟨?_, by simp [Trace.failure]⟩
  · exact ⟨fun _ => trivial, fun _ => by simp [guesses_cons, Trace.guess]⟩
  · intro _
    rw [passed]
    exact id
  · exact ⟨fun made => absurd made uncounted, by simp⟩

/-- The next number is stored. No other one was stored since it was read. -/
theorem Tally.count {number ttl : Nat} (read : visitOf thread = .read number)
    (calm : failures (since (.read thread) log) = []) :
    Tally target
      ({ console with numbers := console.numbers.set (attemptKey target) (number + 1) ttl },
        .counted thread :: log)
      (Function.update visitOf thread .counted) := by
  have counted := tally.read thread number read
  rw [failures_upTo calm] at counted
  refine tally.note rfl ?_ ?_ (by simp) (by simp) (by simp) ⟨?_, by simp [Trace.guess]⟩ ⟨?_, ?_⟩
  · simp [Console.attempts, Cache.set, failures_cons, Trace.failure, counted]
  · intro locked
    obtain ⟨entry, found, positive⟩ := tally.shut locked
    refine ⟨entry, ?_, positive⟩
    exact found
  · have guessed : thread ∈ guesses log := by
      rw [tally.guessed, read]
      trivial
    exact ⟨fun _ => trivial, fun _ => guessed⟩
  · exact ⟨fun _ => rfl, fun _ => by simp [failures_cons, Trace.failure]⟩
  · intro _
    rw [read]
    simp

/-- A lockout is stored. -/
theorem Tally.lock {value ttl : Nat} (counted : visitOf thread = .counted) (positive : 0 < value) :
    Tally target
      ({ console with numbers := console.numbers.set (lockoutKey target) value ttl },
        .locked thread :: log)
      (Function.update visitOf thread (visitOf thread)) := by
  refine tally.note rfl ?_ ?_ (by simp) (by simp [counted]) (by simp [counted])
    ⟨tally.guessed thread, by simp [Trace.guess]⟩ ⟨tally.counted thread, by simp [Trace.failure]⟩
  · rw [show failures (.locked thread :: log) = failures log from rfl, ← tally.stored]
    simp only [Console.attempts, Cache.set]
    rw [Function.update_of_ne (attemptKey_ne_lockoutKey target target)]
  · exact fun _ => ⟨⟨value, ttl⟩, by simp [Cache.set], positive⟩

/-- A call of a login keeps the tally. -/
theorem Tally.step {attempt : Attempt} {request : Call} {around : Moment}
    (allowed : (visits target attempt).allowed (visitOf thread) request)
    (orderly : Orderly server target (console, log) thread attempt request around) :
    ∃ visit, (visits target attempt).yields (visitOf thread) request
        (meaning server request around console).1 visit ∧
      Tally target ((meaning server request around console).2,
          traces target attempt.sourceIP thread request (meaning server request around console).1 ++
            log)
        (Function.update visitOf thread visit) := by
  have apart := attemptKey_ne_lockoutKey target target
  by_cases elsewhere : request.Elsewhere target attempt.sourceIP
  · have untouched : traces target attempt.sourceIP thread request
        (meaning server request around console).1 = [] ∧ _ ∧ _ :=
      meaning_elsewhere elsewhere around console
    refine ⟨visitOf thread, (elsewhere_yields elsewhere _ _ _).mpr rfl, ?_⟩
    rw [Function.update_eq_self, untouched.1]
    exact tally.keep untouched.2.1 untouched.2.2
  cases request
  case cacheGet key =>
    have own : key = attemptKey target ∨ key = lockoutKey target := or_iff_not_and_not.mpr elsewhere
    obtain ⟨reachable, closed⟩ := orderly
    obtain ⟨quiet, live⟩ := reachable own.symm
    have answered : meaning server (.cacheGet key) around console =
        (.ok (console.numbers.get key around.now), console) := by
      simp only [meaning, quiet, Console.perform]
    rw [answered]
    rcases own with rfl | rfl
    · refine ⟨if visitOf thread = .compared then
        .read ((console.numbers.get (attemptKey target) around.now).getD 0) else visitOf thread,
        ?_, ?_⟩
      · simp only [visits, apart, if_true, if_false]
        exact ⟨_, rfl, rfl⟩
      · simpa [traces, apart] using tally.reading (allowed.2 rfl) live
    · refine ⟨if (console.numbers.get (lockoutKey target) around.now).getD 0 = 0 then .passed
        else .outside, ?_, ?_⟩
      · simp only [visits, if_true]
        exact ⟨_, rfl, rfl⟩
      · simpa [traces] using tally.check (allowed.1 rfl) live (closed rfl)
  case comparePassword user plain =>
    have own : subject attempt.sourceIP user.id = target := not_not.mp elsewhere
    obtain ⟨wrong, calm⟩ := orderly own
    have answered : meaning server (.comparePassword user plain) around console =
        (false, console) := by
      simp only [meaning, Console.perform, failure, wrong]
      split <;> rfl
    rw [answered]
    refine ⟨.compared, ?_, ?_⟩
    · simp [visits, own]
    · simpa [traces, own] using tally.compare (allowed own) calm
  case cacheSet key value ttl =>
    have own : key = attemptKey target ∨ key = lockoutKey target := or_iff_not_and_not.mpr elsewhere
    have answered : meaning server (.cacheSet key value ttl) around console =
        (.ok (), { console with numbers := console.numbers.set key value (around.now + ttl) }) := by
      simp only [meaning, orderly.1 own.symm, Console.perform]
    rw [answered]
    rcases own with rfl | rfl
    · obtain ⟨number, read, rfl⟩ := allowed.1 rfl
      refine ⟨.counted, ?_, ?_⟩
      · simp [visits]
      · simpa [traces] using tally.count read (orderly.2 rfl)
    · obtain ⟨counted, positive⟩ := allowed.2 rfl
      refine ⟨visitOf thread, ?_, ?_⟩
      · simp only [visits, apart.symm, if_false]
      · simpa [traces, apart.symm] using tally.lock counted positive
  case cacheDelete key => exact absurd allowed elsewhere
  all_goals exact absurd trivial elsewhere

end Steps

/-- Nothing is logged of a subject that has no attempts. -/
theorem Tally.start {target : String} {console : Console}
    (fresh : console.numbers (attemptKey target) = none) :
    Tally target (console, []) fun _ => .outside := by
  refine ⟨?_, fun locked => absurd rfl locked, ?_, ?_, ?_, ?_, ?_, List.nodup_nil, List.nodup_nil⟩
  · simp [Console.attempts, fresh, failures]
  · intro later thread earlier split
    cases later <;> cases split
  · intro thread held
    cases held
  · intro thread number held
    cases held
  · intro thread
    exact ⟨fun made => absurd made List.not_mem_nil, False.elim⟩
  · intro thread
    exact ⟨fun made => absurd made List.not_mem_nil, fun held => nomatch held⟩

/-- The logins that have compared a password for the subject have returned. -/
def Returned (pool : Pool Attempt Call Call.Reply LoginReply (Console × List Trace)) : Prop :=
  ∀ index thread, pool.threads[index]? = some thread → index ∈ guesses pool.shared.2 →
    thread.result.isSome

/-- The login lockout counts every failure, in every run whose steps meet the condition. The stored
attempt number is the number of failures that were counted; each login that has compared a password
and returned has been counted, once; so when all of them have returned, the number is that of the
wrong passwords. No password is compared after three failures have been counted. Each call keeps
what its login knows: the number that it has read is still the stored one when it writes the next.
-/
theorem lockout_counts_every_failure (server : Server) (enabled : 0 < server.maximumAccountLockout)
    (source id : String) (console : Console)
    (fresh : console.numbers (attemptKey (subject source id)) = none)
    (events : List (Event Attempt Moment))
    (orderly : (guessing server (subject source id)).Along (Orderly server (subject source id))
      ⟨(console, []), []⟩ events) :
    ∀ pool ∈ (guessing server (subject source id)).reached ⟨(console, []), []⟩ events,
      pool.shared.1.attempts (subject source id) = (failures pool.shared.2).length ∧
      (failures pool.shared.2).Nodup ∧
      (∀ index thread, pool.threads[index]? = some thread → index ∈ guesses pool.shared.2 →
        thread.result.isSome → index ∈ failures pool.shared.2) ∧
      (Returned pool → pool.shared.1.attempts (subject source id) = (guesses pool.shared.2).length) ∧
      Bounded pool.shared.2 := by
  intro pool member
  obtain ⟨visitOf, tally, ended, unstarted⟩ :=
    (guessing server (subject source id)).reached_of_threads (Tally (subject source id))
      (authLocalUser_meets enabled) (fun tally => tally.step) (Tally.start fresh) orderly pool member
  have finished : ∀ index thread, pool.threads[index]? = some thread →
      index ∈ guesses pool.shared.2 → thread.result.isSome → index ∈ failures pool.shared.2 := by
    intro index thread found guessed returned
    obtain ⟨result, given⟩ := Option.isSome_iff_exists.mp returned
    rw [tally.guessed] at guessed
    rcases ended _ _ _ found given with outside | counted
    · rw [outside] at guessed
      exact guessed.elim
    · exact (tally.counted index).mpr counted
  refine ⟨tally.stored, tally.once.2, finished, ?_, tally.bounded⟩
  intro returned
  rw [tally.stored]
  refine List.Perm.length_eq ((List.perm_ext_iff_of_nodup tally.once.2 tally.once.1).mpr ?_)
  intro index
  constructor
  · rw [tally.counted, tally.guessed]
    intro counted
    rw [counted]
    trivial
  · intro guessed
    have started : index < pool.threads.length := by
      by_contra beyond
      rw [tally.guessed, unstarted index (Nat.le_of_not_lt beyond)] at guessed
      exact guessed
    have found := List.getElem?_eq_getElem started
    exact finished index _ found guessed (returned index _ found guessed)

/-! ## Runs -/

/-- A server with lockouts of up to an hour. A hash of bcrypt is the password after a dollar sign. -/
def lockingServer : Server where
  maximumAccountLockout := 60
  isEmail := fun _ => false
  sha256Hex := id
  bcryptMatches := fun hash plain => hash.toList = '$' :: plain.toList

/-- An account with a password. -/
def adaAccount : User where
  id := "ada"
  type := .human
  origin := .native
  status := .confirmed
  name := "Ada"
  username := "ada"
  email := "ada@example.com"
  recoveryEmail := ""
  passwordHash := "$secret"
  mfaEnabled := false
  preferredNamespace := ""
  authMethods := [.native]
  maxNamespaces := 0
  lastLogin := 0
  admin := false
  awaitingApproval := false

/-- One account, and nothing in the cache. -/
def adaConsole : Console where
  localEnabled := true
  users := ⟨[adaAccount], by decide⟩
  numbers := fun _ => none
  texts := fun _ => none

/-- A moment without a fault. -/
def calm : Moment := ⟨none, 0, "", .ok "", .ok "", none⟩

/-- A login with a wrong password. -/
def wrongLogin : Event Attempt Moment := .start ⟨"ada", "guess", "10.0.0.1"⟩

/-- Some calls of a thread. -/
def calls (count thread : Nat) : List (Event Attempt Moment) :=
  List.replicate count (.step thread calm)

/-- Four wrong passwords, one after the other. -/
def fourInTurn : List (Event Attempt Moment) :=
  [wrongLogin] ++ calls 8 0 ++ [wrongLogin] ++ calls 8 1 ++ [wrongLogin] ++ calls 9 2 ++
    [wrongLogin] ++ calls 4 3

/-- In the run three passwords are compared and counted, and the fourth login is refused. -/
theorem lockout_counts_four_in_turn :
    (∃ pool ∈ (guessing lockingServer (subject "10.0.0.1" "ada")).reached ⟨(adaConsole, []), []⟩
        fourInTurn,
      pool.shared.1.attempts (subject "10.0.0.1" "ada") = 3 ∧ guesses pool.shared.2 = [2, 1, 0] ∧
        (pool.threads[3]?.bind Thread.result) = some (.refused .authUnauthorized 60)) ∧
      ∀ pool ∈ (guessing lockingServer (subject "10.0.0.1" "ada")).reached ⟨(adaConsole, []), []⟩
          fourInTurn,
        pool.shared.1.attempts (subject "10.0.0.1" "ada") = (failures pool.shared.2).length ∧
        (failures pool.shared.2).Nodup ∧
        (∀ index thread, pool.threads[index]? = some thread → index ∈ guesses pool.shared.2 →
          thread.result.isSome → index ∈ failures pool.shared.2) ∧
        (Returned pool → pool.shared.1.attempts (subject "10.0.0.1" "ada") =
          (guesses pool.shared.2).length) ∧
        Bounded pool.shared.2 :=
  ⟨by decide +kernel, lockout_counts_every_failure lockingServer (by decide) "10.0.0.1" "ada"
    adaConsole rfl fourInTurn (by decide +kernel)⟩

/-- Two logins read the number before either stores it. -/
def twoAtOnce : List (Event Attempt Moment) :=
  [wrongLogin, wrongLogin] ++ calls 6 0 ++ calls 6 1 ++ calls 2 0 ++ calls 2 1

/-- Four logins check the lockout before three of them count their failures; then the fourth password is
compared. -/
def fourAtOnce : List (Event Attempt Moment) :=
  [wrongLogin, wrongLogin, wrongLogin, wrongLogin] ++ calls 3 3 ++ calls 8 0 ++ calls 8 1 ++
    calls 9 2 ++ calls 2 3

/-- Two failures that have returned are counted as one, and a fourth password is compared after the
third failure was stored and its lockout too. -/
theorem parallel_guesses_escape_lockout :
    (∃ pool ∈ (guessing lockingServer (subject "10.0.0.1" "ada")).reached ⟨(adaConsole, []), []⟩
        twoAtOnce,
      (pool.threads.all fun thread => thread.result.isSome) ∧ guesses pool.shared.2 = [1, 0] ∧
        pool.shared.1.attempts (subject "10.0.0.1" "ada") = 1) ∧
      ∃ pool ∈ (guessing lockingServer (subject "10.0.0.1" "ada")).reached ⟨(adaConsole, []), []⟩
        fourAtOnce,
      ∃ earlier, pool.shared.2 = .compared 3 :: .read 3 :: .locked 2 :: earlier ∧
        failures earlier = [2, 1, 0] := by
  refine ⟨by decide +kernel, ?_⟩
  have evaluated : ∃ pool ∈ (guessing lockingServer (subject "10.0.0.1" "ada")).reached
      ⟨(adaConsole, []), []⟩ fourAtOnce,
      pool.shared.2.take 3 = [.compared 3, .read 3, .locked 2] ∧
        failures (pool.shared.2.drop 3) = [2, 1, 0] := by
    decide +kernel
  obtain ⟨pool, member, first, counted⟩ := evaluated
  refine ⟨pool, member, pool.shared.2.drop 3, ?_, counted⟩
  rw [← List.take_append_drop 3 pool.shared.2, first]
  simp

end ShellHub.Accounts
