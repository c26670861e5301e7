import ShellHub.Interleavings
import ShellHub.Sessions

/-!
# Closed sessions

Closing a session writes its flag and deletes the row of the running session, in one transaction. The
other services do not look at the flag when they write. A call that read the session while it was open
writes the flag of its copy back, and a change of an authenticated session adds the row of a running
session again.

A history keeps whether the session under study was closed, and for each thread whether its last lookup
of the session came after that. As long as no call writes a copy that is older than the end of the
session, and none activates the session after its end, the session stays closed.
-/

namespace ShellHub.Sessions

open Programs Tables Interleavings
open Namespaces (StoreError)
open SessionStore (Surroundings)

/-- The requests. Of a heartbeat of a device, the loop over its sessions. -/
inductive SessionRequest where
  | createSession (session : SessionCreate)
  | updateSession (uid : String) (model : SessionUpdate)
  | keepAliveSession (uid : String)
  | deactivateSession (uid : String)
  | authDevice (tenantID : String) (sessions : List String)
  deriving DecidableEq

/-- The service that answers a request. -/
def SessionRequest.program : SessionRequest → Service (Except SessionError Unit)
  | .createSession session => do return (← Sessions.createSession session).map fun _ => ()
  | .updateSession uid model => Sessions.updateSession uid model
  | .keepAliveSession uid => Sessions.keepAliveSession uid
  | .deactivateSession uid => Sessions.deactivateSession uid
  | .authDevice tenantID sessions => do
    touchSessions tenantID sessions
    return .ok ()

/-- Whether the session was closed, and for each thread whether it was when the thread looked it up
last. -/
structure SessionHistory where
  closed : Bool
  seen : Nat → Bool

namespace SessionHistory

/-- The session was not closed yet. -/
def start : SessionHistory := ⟨false, fun _ => false⟩

/-- What a call of a thread adds to the history of a session. -/
def record (history : SessionHistory) (uid : String) (thread : Nat) :
    (request : Call) → request.Reply → SessionHistory
  | .sessionResolve _ asked, _ =>
    if asked = uid then
      { history with seen := Function.update history.seen thread history.closed }
    else history
  | .activeSessionDelete deleted, .ok _ =>
    if deleted = uid then { history with closed := true } else history
  | _, _ => history

end SessionHistory

/-- Requests that run at the same time, over the store and the history of one session. -/
def sessionSystem (uid : String) :
    System SessionRequest Call Call.Reply (Except SessionError Unit) Surroundings
      (SessionStore × SessionHistory) where
  program := SessionRequest.program
  effect := fun thread _ request around shared =>
    let (reply, store) := callMeaning request around shared.1
    (reply, store, shared.2.record uid thread request reply)

/-- A copy of the session is written only if the session was not closed since it was read, and the
session is not activated after it was closed. -/
def InTime (uid : String) (shared : SessionStore × SessionHistory) (thread : Nat)
    (_ : SessionRequest) (request : Call) (_ : Surroundings) : Prop :=
  match request with
  | .sessionUpdate session =>
    session.uid = uid → shared.2.closed = true → shared.2.seen thread = true
  | .activeSessionCreate session => session.uid = uid → shared.2.closed = false
  | _ => True

instance (uid : String) (shared : SessionStore × SessionHistory) (thread : Nat)
    (op : SessionRequest) (request : Call) (around : Surroundings) :
    Decidable (InTime uid shared thread op request around) := by
  unfold InTime
  split <;> infer_instance

/-! ## The store -/

/-- The session is closed, and it has no row of a running session. -/
def SessionStore.Shut (store : SessionStore) (uid : String) : Prop :=
  (store.sessions.find uid).map Session.closed = some true ∧ store.activeSessions.find uid = none

/-- A call that writes the session as open, or that activates it. -/
def Call.Reopens (uid : String) : Call → Prop
  | .sessionUpdate session => session.uid = uid ∧ session.closed = false
  | .activeSessionCreate session => session.uid = uid
  | _ => False

section Store

variable {store : SessionStore} {uid : String}

namespace SessionStore.Shut

variable (shut : store.Shut uid)

include shut

theorem addSession (session : Session) (fresh : store.sessions.find session.uid = none) :
    (store.addSession session fresh).Shut uid := by
  refine ⟨?_, shut.2⟩
  change ((store.sessions.insert session fresh).find uid).map Session.closed = some true
  rw [Table.find_insert, if_neg]
  · exact shut.1
  · rintro rfl
    have closed := shut.1
    rw [fresh] at closed
    cases closed

theorem putSession {session : Session} (kept : session.uid = uid → session.closed = true) :
    (store.putSession session).Shut uid := by
  refine ⟨?_, shut.2⟩
  change ((store.sessions.put session).find uid).map Session.closed = some true
  rw [Table.find_put]
  split
  · rename_i same
    obtain ⟨row, found, -⟩ := Option.map_eq_some_iff.mp shut.1
    rw [found]
    exact congrArg some (kept same)
  · exact shut.1

theorem putActive (active : ActiveSession) : (store.putActive active).Shut uid := by
  refine ⟨shut.1, ?_⟩
  change (store.activeSessions.put active).find uid = none
  rw [Table.find_put, shut.2]
  split <;> rfl

theorem addActive {active : ActiveSession} (other : active.uid ≠ uid)
    (fresh : store.activeSessions.find active.uid = none)
    (session : (store.sessions.find active.uid).isSome) :
    (store.addActive active fresh session).Shut uid := by
  refine ⟨shut.1, ?_⟩
  change (store.activeSessions.insert active fresh).find uid = none
  rw [Table.find_insert, if_neg other]
  exact shut.2

theorem deactivate (other : String) : (store.deactivate other).Shut uid := by
  refine ⟨shut.1, ?_⟩
  change (store.activeSessions.erase _).find uid = none
  rw [Table.find_erase, shut.2]
  rfl

end SessionStore.Shut

/-- A session that is shut stays so, unless a call opens it again. -/
theorem callMeaning_shut {request : Call} (around : Surroundings) (shut : store.Shut uid)
    (harmless : ¬ request.Reopens uid) : (callMeaning request around store).2.Shut uid := by
  unfold callMeaning
  split
  · exact shut
  cases request with
  | clockNow => exact shut
  | sessionCreate session =>
    simp only [SessionStore.perform]
    split
    · exact shut
    · split
      · exact shut
      · exact shut.addSession _ _
  | sessionResolve scope asked =>
    simp only [SessionStore.perform]
    split <;> exact shut
  | sessionUpdate session =>
    simp only [SessionStore.perform]
    split
    · exact shut
    · rename_i row found
      have named : row.uid = session.uid := (Table.find_eq_some.mp found).2
      apply shut.putSession
      intro same
      by_contra reopened
      exact harmless ⟨named.symm.trans same, Bool.eq_false_of_not_eq_true reopened⟩
  | activeSessionCreate session =>
    simp only [SessionStore.perform]
    split
    · exact shut.putActive _
    · rename_i fresh
      split
      · rename_i present
        refine shut.addActive ?_ fresh present
        exact harmless
      · exact shut
  | activeSessionResolve asked =>
    simp only [SessionStore.perform]
    split <;> exact shut
  | activeSessionUpdate active =>
    simp only [SessionStore.perform]
    split
    · exact shut
    · exact shut.putActive active
  | activeSessionDelete deleted =>
    simp only [SessionStore.perform]
    split
    · exact shut
    · exact (shut.putSession fun _ => rfl).deactivate deleted

/-- The transaction that closes the session shuts it. -/
theorem activeSessionDelete_shut {around : Surroundings}
    (done : (callMeaning (.activeSessionDelete uid) around store).1 = .ok ()) :
    (callMeaning (.activeSessionDelete uid) around store).2.Shut uid := by
  have performs := callMeaning_performs (by rw [done]; rintro error ⟨⟩)
  rw [performs] at done ⊢
  simp only [SessionStore.perform] at done ⊢
  cases found : store.sessions.find uid with
  | none =>
    rw [found] at done
    cases done
  | some row =>
    have named : row.uid = uid := (Table.find_eq_some.mp found).2
    constructor
    · change ((store.sessions.put { row with closed := true, lastSeen := around.now }).find
        uid).map Session.closed = some true
      rw [Table.find_put, if_pos named, found]
      rfl
    · change (store.activeSessions.erase _).find uid = none
      rw [Table.find_erase]
      cases present : store.activeSessions.find uid with
      | none => rfl
      | some active =>
        have own : active.uid = uid := (Table.find_eq_some.mp present).2
        simp [Option.filter, own]

/-- A session that is resolved is stored under the identifier that was asked for. -/
theorem sessionResolve_stored {scope : Option String} {asked : String} {around : Surroundings}
    {session : Session}
    (answered : (callMeaning (.sessionResolve scope asked) around store).1 = .ok session) :
    store.sessions.find asked = some session := by
  rw [callMeaning_performs (by rw [answered]; rintro error ⟨⟩)] at answered
  simp only [SessionStore.perform] at answered
  split at answered
  · cases answered
  · rename_i found selected
    cases answered
    exact (Option.filter_eq_some_iff.mp selected).1

end Store

/-! ## Threads -/

/-- What a thread knows: the session it looked up last, and the session it has closed. -/
structure SessionInsight where
  found : Option Session
  closed : Option String

/-- A thread that has done nothing. -/
def SessionInsight.idle : SessionInsight := ⟨none, none⟩

/-- The contract of a request. It writes the session it looked up, with the flag of its copy. -/
def copying : Contract Call Call.Reply SessionInsight where
  allowed := fun insight request =>
    match request with
    | .sessionUpdate session =>
      ∃ known ∈ insight.found, session.uid = known.uid ∧ session.closed = known.closed
    | _ => True
  yields := fun insight request =>
    match request with
    | .sessionResolve _ asked => fun reply next =>
      next = { insight with found := reply.toOption } ∧
        ∀ session, reply = .ok session → session.uid = asked
    | .activeSessionDelete deleted => fun reply next =>
      next = if reply.isOk then { insight with closed := some deleted } else insight
    | _ => fun _ next => next = insight

section Threads

theorem createSession_copying (session : SessionCreate) (insight : SessionInsight) :
    (createSession session).Meets copying insight fun _ _ => True := by
  refine .perform trivial ?_
  rintro (error | uid) _ rfl
  · trivial
  · refine ⟨trivial, ?_⟩
    rintro (error | created) _ _ <;> trivial

theorem keepAliveSession_copying (uid : String) (insight : SessionInsight) :
    (keepAliveSession uid).Meets copying insight fun _ _ => True := by
  refine .perform trivial ?_
  rintro (error | session) _ ⟨rfl, _⟩
  · trivial
  · refine ⟨trivial, ?_⟩
    rintro now _ rfl
    exact ⟨⟨session, rfl, rfl, rfl⟩, fun _ _ _ => trivial⟩

theorem updateSession_copying (uid : String) (model : SessionUpdate) (insight : SessionInsight) :
    (updateSession uid model).Meets copying insight fun _ _ => True := by
  refine .perform trivial ?_
  rintro (error | session) _ ⟨rfl, _⟩
  · trivial
  · dsimp only
    split
    · refine ⟨trivial, ?_⟩
      rintro reply _ rfl
      exact ⟨⟨session, rfl, rfl, rfl⟩, fun _ _ _ => trivial⟩
    · exact ⟨⟨session, rfl, rfl, rfl⟩, fun _ _ _ => trivial⟩

/-- A session that was deactivated with success was closed. -/
theorem deactivateSession_copying (uid : String) (insight : SessionInsight) :
    (deactivateSession uid).Meets copying insight fun result next =>
      result = .ok () → next.closed = some uid := by
  refine .perform trivial ?_
  rintro (error | session) _ ⟨rfl, named⟩
  · rintro ⟨⟩
  · refine ⟨trivial, ?_⟩
    rintro (error | done) _ rfl
    · rintro ⟨⟩
    · rintro _
      exact congrArg some (named session rfl)

theorem touchSession_copying (tenantID uid : String) (insight : SessionInsight) :
    (touchSession tenantID uid).Meets copying insight fun _ _ => True := by
  refine .perform trivial ?_
  rintro (error | session) _ ⟨rfl, _⟩
  · trivial
  · dsimp only
    split
    · trivial
    · refine ⟨trivial, ?_⟩
      rintro now _ rfl
      refine ⟨⟨session, rfl, rfl, rfl⟩, ?_⟩
      rintro (error | done) _ rfl
      · trivial
      · refine ⟨trivial, ?_⟩
        rintro (error | active) _ rfl
        · trivial
        · exact ⟨trivial, fun _ _ _ => trivial⟩

theorem touchSessions_copying (tenantID : String) (sessions : List String)
    (insight : SessionInsight) :
    (touchSessions tenantID sessions).Meets copying insight fun _ _ => True := by
  induction sessions generalizing insight with
  | nil => trivial
  | cons uid rest ih =>
    apply (touchSession_copying tenantID uid insight).bind
    intro _ next _
    exact ih next

/-- Every request meets the contract, and a deactivation that returns success has closed its
session. -/
theorem SessionRequest.program_copying (request : SessionRequest) :
    request.program.Meets copying SessionInsight.idle fun result next =>
      ∀ uid, request = .deactivateSession uid → result = .ok () → next.closed = some uid := by
  cases request with
  | createSession session =>
    apply (createSession_copying session _).bind
    rintro result _ _ uid ⟨⟩
  | updateSession uid model =>
    apply (updateSession_copying uid model _).mono
    rintro result _ _ other ⟨⟩
  | keepAliveSession uid =>
    apply (keepAliveSession_copying uid _).mono
    rintro result _ _ other ⟨⟩
  | deactivateSession uid =>
    apply (deactivateSession_copying uid _).mono
    rintro result next closed other ⟨⟩
    exact closed
  | authDevice tenantID sessions =>
    apply (touchSessions_copying tenantID sessions _).bind
    rintro _ _ _ uid ⟨⟩

end Threads

/-! ## The invariant -/

/-- What a thread knows of the session under study is right: a copy that was read after the end of the
session is closed, and a session that the thread has closed was closed. -/
structure SessionHistory.Knows (history : SessionHistory) (uid : String) (thread : Nat)
    (insight : SessionInsight) : Prop where
  current : ∀ known ∈ insight.found, known.uid = uid → history.seen thread = true →
    known.closed = true
  closed : insight.closed = some uid → history.closed = true

/-- Once the session was closed it is shut, and all threads know what is right. -/
structure SessionsHold (uid : String) (shared : SessionStore × SessionHistory)
    (insightOf : Nat → SessionInsight) : Prop where
  shut : shared.2.closed = true → shared.1.Shut uid
  knows : ∀ thread, shared.2.Knows uid thread (insightOf thread)

namespace SessionsHold

variable {uid : String} {store after : SessionStore} {history later : SessionHistory}
  {insightOf : Nat → SessionInsight} {thread : Nat} {next : SessionInsight}
variable (holds : SessionsHold uid (store, history) insightOf)

include holds

/-- A step of a thread: the other threads know what they knew, and the history moves on. -/
theorem set (shut : later.closed = true → after.Shut uid)
    (grows : history.closed = true → later.closed = true)
    (others : ∀ other, other ≠ thread → later.seen other = history.seen other)
    (knows : later.Knows uid thread next) :
    SessionsHold uid (after, later) (Function.update insightOf thread next) := by
  refine ⟨shut, ?_⟩
  intro other
  by_cases differs : other = thread
  · subst differs
    rw [Function.update_self]
    exact knows
  · rw [Function.update_of_ne differs]
    obtain ⟨current, closed⟩ := holds.knows other
    refine ⟨?_, fun own => grows (closed own)⟩
    rw [others other differs]
    exact current

/-- A call that moves neither the history nor the insight, and that does not open the session after
its end. -/
theorem keep {request : Call} (around : Surroundings)
    (harmless : history.closed = true → ¬ request.Reopens uid) :
    SessionsHold uid ((callMeaning request around store).2, history)
      (Function.update insightOf thread (insightOf thread)) := by
  refine holds.set ?_ id (fun _ _ => rfl) (holds.knows thread)
  intro closed
  exact callMeaning_shut around (holds.shut closed) (harmless closed)

/-- A thread looks a session up. If it is the one under study and it was closed, the copy is closed. -/
theorem resolve (scope : Option String) (asked : String) (around : Surroundings) :
    let outcome := callMeaning (.sessionResolve scope asked) around store
    let next := { insightOf thread with found := outcome.1.toOption }
    copying.yields (insightOf thread) (.sessionResolve scope asked) outcome.1 next ∧
      SessionsHold uid (outcome.2, history.record uid thread (.sessionResolve scope asked) outcome.1)
        (Function.update insightOf thread next) := by
  intro outcome next
  have stored : ∀ session, outcome.1 = .ok session → store.sessions.find asked = some session :=
    fun session answered => sessionResolve_stored answered
  have named : ∀ session, outcome.1 = .ok session → session.uid = asked :=
    fun session answered => (Table.find_eq_some.mp (stored session answered)).2
  have knew := holds.knows thread
  refine ⟨⟨rfl, named⟩, ?_⟩
  have shut : history.closed = true → outcome.2.Shut uid := fun closed =>
    callMeaning_shut around (holds.shut closed) id
  have copied : ∀ known ∈ next.found, outcome.1 = .ok known := by
    intro known member
    change outcome.1.toOption = some known at member
    cases answered : outcome.1 with
    | error error =>
      rw [answered] at member
      cases member
    | ok session =>
      rw [answered] at member
      cases member
      rfl
  simp only [SessionHistory.record]
  split
  · rename_i own
    refine holds.set shut id ?_ ?_
    · intro other differs
      exact Function.update_of_ne differs _ _
    · refine ⟨?_, knew.closed⟩
      intro known member _ seen
      have closed : history.closed = true := by simpa using seen
      have row := (holds.shut closed).1
      rw [← own, stored known (copied known member)] at row
      exact Option.some.inj row
  · rename_i foreign
    refine holds.set shut id (fun _ _ => rfl) ⟨?_, knew.closed⟩
    intro known member own
    exact absurd ((named known (copied known member)).symm.trans own) foreign

/-- A thread closes a session. -/
theorem delete (deleted : String) (around : Surroundings) :
    let outcome := callMeaning (.activeSessionDelete deleted) around store
    let insight := insightOf thread
    let next := if outcome.1.isOk then { insight with closed := some deleted } else insight
    SessionsHold uid (outcome.2, history.record uid thread (.activeSessionDelete deleted) outcome.1)
      (Function.update insightOf thread next) := by
  intro outcome insight next
  have knew := holds.knows thread
  have shut : history.closed = true → outcome.2.Shut uid := fun closed =>
    callMeaning_shut around (holds.shut closed) id
  cases answered : outcome.1 with
  | error error =>
    have unmoved : next = insight := by simp [next, answered, Except.isOk, Except.toBool]
    rw [unmoved]
    exact holds.set shut id (fun _ _ => rfl) knew
  | ok done =>
    have moved : next = { insight with closed := some deleted } := by
      simp [next, answered, Except.isOk, Except.toBool]
    rw [moved]
    simp only [SessionHistory.record]
    split
    · rename_i own
      subst own
      refine holds.set ?_ ?_ ?_ ⟨knew.current, fun _ => rfl⟩
      · exact fun _ => activeSessionDelete_shut answered
      · exact fun _ => rfl
      · exact fun _ _ => rfl
    · rename_i foreign
      refine holds.set shut id (fun _ _ => rfl) ⟨knew.current, ?_⟩
      intro own
      exact absurd (Option.some.inj own) foreign

/-- A call moves what its thread knows, and keeps the invariant. -/
theorem step {op : SessionRequest} {request : Call} {around : Surroundings}
    (allowed : copying.allowed (insightOf thread) request)
    (inTime : InTime uid (store, history) thread op request around) :
    let outcome := callMeaning request around store
    ∃ next, copying.yields (insightOf thread) request outcome.1 next ∧
      SessionsHold uid (outcome.2, history.record uid thread request outcome.1)
        (Function.update insightOf thread next) := by
  cases request with
  | sessionResolve scope asked => exact ⟨_, holds.resolve scope asked around⟩
  | activeSessionDelete deleted => exact ⟨_, rfl, holds.delete deleted around⟩
  | sessionUpdate session =>
    obtain ⟨known, member, same, flag⟩ := allowed
    refine ⟨_, rfl, holds.keep around ?_⟩
    rintro closed ⟨own, reopened⟩
    have current :=
      (holds.knows thread).current known member (same.symm.trans own) (inTime own closed)
    exact absurd (flag.trans current) (by simp [reopened])
  | activeSessionCreate session =>
    refine ⟨_, rfl, holds.keep around ?_⟩
    intro closed own
    exact absurd (inTime own) (by simp [closed])
  | clockNow | sessionCreate session | activeSessionResolve asked | activeSessionUpdate active =>
    exact ⟨_, rfl, holds.keep around fun _ => id⟩

end SessionsHold

/-- After a `DeactivateSession` has returned success, the session is closed and has no row of a
running session, in every state of every interleaving in which the session is neither written from a
copy that is older than its end nor activated after its end. Once the session was closed each call
keeps it shut: a copy that is written back was read after the end, so it is a closed one. -/
theorem closed_stays_closed (uid : String) (store : SessionStore)
    (events : List (Event SessionRequest Surroundings))
    (inTime : (sessionSystem uid).Along (InTime uid) ⟨(store, .start), []⟩ events) :
    ∀ pool ∈ (sessionSystem uid).reached ⟨(store, .start), []⟩ events,
      ∀ thread ∈ pool.threads, thread.op = .deactivateSession uid →
        thread.result = some (.ok ()) → pool.shared.1.Shut uid := by
  intro pool member thread running request returned
  have start : SessionsHold uid (store, .start) fun _ => SessionInsight.idle := by
    refine ⟨?_, ?_⟩
    · rintro ⟨⟩
    · intro index
      exact ⟨by rintro known ⟨⟩, by rintro ⟨⟩⟩
  obtain ⟨insightOf, holds, ended, -⟩ := (sessionSystem uid).reached_of_threads (SessionsHold uid)
    SessionRequest.program_copying (fun holds => holds.step) start inTime pool member
  obtain ⟨index, found⟩ := List.getElem?_of_mem running
  exact holds.shut ((holds.knows index).closed (ended _ _ _ found returned uid request rfl))

/-! ## A sample -/

/-- A device without sessions. -/
def sampleStore : SessionStore where
  devices := Devices.webDevices
  sessions := .empty
  activeSessions := .empty
  known := by
    intro active member
    cases member

/-- Steps of a thread without faults. -/
def calmSteps (thread count : Nat) : List (Event SessionRequest Surroundings) :=
  List.replicate count (.step thread ⟨none, 100, "fresh"⟩)

/-- The session is created and authenticated by the threads 0 and 1. -/
def opening : List (Event SessionRequest Surroundings) :=
  [.start (.createSession ⟨"s1", "web", "root", "", "10.0.0.1", "shell", "xterm", false⟩),
    .start (.updateSession "s1" ⟨none, some true, none⟩)] ++ calmSteps 0 2 ++ calmSteps 1 3

/-- The session gets a heartbeat and is closed. -/
def orderlyEnd : List (Event SessionRequest Surroundings) :=
  opening ++ [.start (.keepAliveSession "s1"), .start (.deactivateSession "s1")] ++ calmSteps 2 3 ++
    calmSteps 3 2

/-- The session was running, and it is shut after it was deactivated. -/
theorem closed_stays_closed_orderly :
    (∃ pool ∈ (sessionSystem "s1").reached ⟨(sampleStore, .start), []⟩ orderlyEnd,
      (pool.shared.1.activeSessions.find "s1").isSome) ∧
    (∃ pool ∈ (sessionSystem "s1").reached ⟨(sampleStore, .start), []⟩ orderlyEnd,
      ∃ thread ∈ pool.threads, thread.op = .deactivateSession "s1" ∧
        thread.result = some (.ok ())) ∧
    ∀ pool ∈ (sessionSystem "s1").reached ⟨(sampleStore, .start), []⟩ orderlyEnd,
      ∀ thread ∈ pool.threads, thread.op = .deactivateSession "s1" →
        thread.result = some (.ok ()) → pool.shared.1.Shut "s1" :=
  ⟨by decide +kernel, by decide +kernel,
    closed_stays_closed "s1" sampleStore orderlyEnd (by decide +kernel)⟩

/-- After the end of the session it is marked as recorded. -/
def changedLater : List (Event SessionRequest Surroundings) :=
  opening ++ [.start (.deactivateSession "s1"),
    .start (.updateSession "s1" ⟨some true, none, none⟩)] ++ calmSteps 2 2 ++ calmSteps 3 3

/-- A heartbeat reads the session before its end and writes it after that. -/
def staleHeartbeat : List (Event SessionRequest Surroundings) :=
  opening ++ [.start (.keepAliveSession "s1"), .start (.deactivateSession "s1")] ++ calmSteps 2 2 ++
    calmSteps 3 2 ++ calmSteps 2 1

/-- The session was deactivated with success. A later change gives it the row of a running session, and
a heartbeat that was under way opens it again. -/
theorem deactivated_session_reopened :
    (∃ pool ∈ (sessionSystem "s1").reached ⟨(sampleStore, .start), []⟩ changedLater,
      (∃ thread ∈ pool.threads, thread.op = .deactivateSession "s1" ∧
        thread.result = some (.ok ())) ∧ (pool.shared.1.activeSessions.find "s1").isSome) ∧
    ∃ pool ∈ (sessionSystem "s1").reached ⟨(sampleStore, .start), []⟩ staleHeartbeat,
      (∃ thread ∈ pool.threads, thread.op = .deactivateSession "s1" ∧
        thread.result = some (.ok ())) ∧
      (pool.shared.1.sessions.find "s1").map Session.closed = some false := by
  constructor <;> decide +kernel

end ShellHub.Sessions
