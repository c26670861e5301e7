import ShellHub.Devices
import ShellHub.Programs
import ShellHub.Tables

/-!
# Sessions

A session is created open. It is authenticated, kept alive by heartbeats and closed at its end. While
it runs, a second table has a row for it. The services read the row of a session, change some fields of
the copy, and write the whole copy back.
-/

namespace ShellHub.Sessions

open Programs Tables
open Namespaces (StoreError)
open Devices (Device)

/-! ## Data -/

/-- `Session`, with the columns that are stored. -/
structure Session where
  uid : String
  tenantID : String
  deviceUID : String
  username : String
  userID : String
  ipAddress : String
  startedAt : Nat
  lastSeen : Nat
  closed : Bool
  authenticated : Bool
  recorded : Bool
  type : String
  term : String
  web : Bool
  deriving DecidableEq, Repr

/-- `ActiveSession`. -/
structure ActiveSession where
  uid : String
  lastSeen : Nat
  deriving DecidableEq, Repr

/-- `SessionCreate`. -/
structure SessionCreate where
  uid : String
  deviceUID : String
  username : String
  userID : String
  ipAddress : String
  type : String
  term : String
  web : Bool
  deriving DecidableEq, Repr

/-- `SessionUpdate`. A field that is absent stays. -/
structure SessionUpdate where
  recorded : Option Bool
  authenticated : Option Bool
  type : Option String
  deriving DecidableEq, Repr

/-- The errors of the services. -/
inductive SessionError where
  | sessionNotFound (uid : String)
  | store (error : StoreError)
  deriving DecidableEq, Repr

/-! ## Calls -/

/-- The calls to the store and the clock. A lookup without a tenant is unbounded. Closing a session is
one transaction. -/
inductive Call where
  | clockNow
  | sessionCreate (session : Session)
  | sessionResolve (scope : Option String) (uid : String)
  | sessionUpdate (session : Session)
  | activeSessionCreate (session : Session)
  | activeSessionResolve (uid : String)
  | activeSessionUpdate (active : ActiveSession)
  | activeSessionDelete (uid : String)
  deriving DecidableEq

/-- What a call answers. -/
def Call.Reply : Call → Type
  | .clockNow => Nat
  | .sessionCreate _ => Except StoreError String
  | .sessionResolve _ _ => Except StoreError Session
  | .activeSessionResolve _ => Except StoreError ActiveSession
  | .sessionUpdate _ | .activeSessionCreate _ | .activeSessionUpdate _ | .activeSessionDelete _ =>
    Except StoreError Unit

/-- A service function over these calls. -/
abbrev Service (α : Type) : Type := Program Call Call.Reply α

/-- The service step of one call. -/
def call (request : Call) : Service request.Reply := Program.perform request

/-! ## Services -/

/-- `CreateSession`. -/
def createSession (session : SessionCreate) : Service (Except SessionError Session) := do
  match ← call (.sessionCreate {
    uid := session.uid
    tenantID := ""
    deviceUID := session.deviceUID
    username := session.username
    userID := session.userID
    ipAddress := session.ipAddress
    startedAt := 0
    lastSeen := 0
    closed := false
    authenticated := false
    recorded := false
    type := session.type
    term := session.term
    web := session.web }) with
  | .error error => return .error (.store error)
  | .ok uid =>
    match ← call (.sessionResolve none uid) with
    | .error error => return .error (.store error)
    | .ok created => return .ok created

/-- The end of a service that returns the error of its last call. -/
def stored : Except StoreError Unit → Except SessionError Unit := Except.mapError .store

/-- `DeactivateSession`. -/
def deactivateSession (uid : String) : Service (Except SessionError Unit) := do
  match ← call (.sessionResolve none uid) with
  | .error _ => return .error (.sessionNotFound uid)
  | .ok session => return stored (← call (.activeSessionDelete session.uid))

/-- `KeepAliveSession`. -/
def keepAliveSession (uid : String) : Service (Except SessionError Unit) := do
  match ← call (.sessionResolve none uid) with
  | .error _ => return .error (.sessionNotFound uid)
  | .ok session =>
    let now ← call .clockNow
    return stored (← call (.sessionUpdate { session with lastSeen := now }))

/-- The changes that `UpdateSession` makes to its copy. -/
def SessionUpdate.apply (model : SessionUpdate) (session : Session) : Session :=
  { session with
    authenticated := model.authenticated.getD session.authenticated
    type := model.type.getD session.type
    recorded := model.recorded.getD session.recorded }

/-- `UpdateSession`. A failure to activate the session is only logged. -/
def updateSession (uid : String) (model : SessionUpdate) : Service (Except SessionError Unit) := do
  match ← call (.sessionResolve none uid) with
  | .error _ => return .error (.sessionNotFound uid)
  | .ok found =>
    let session := model.apply found
    if session.authenticated then
      let _ ← call (.activeSessionCreate session)
    return stored (← call (.sessionUpdate session))

/-- One turn of the loop of `authDevice` over the sessions that the agent says it serves. Every failure
is only logged. -/
def touchSession (tenantID uid : String) : Service Unit := do
  match ← call (.sessionResolve (some tenantID) uid) with
  | .error _ => return ()
  | .ok session =>
    if session.closed then return ()
    else do
      let now ← call .clockNow
      match ← call (.sessionUpdate { session with lastSeen := now }) with
      | .error _ => return ()
      | .ok _ =>
        match ← call (.activeSessionResolve uid) with
        | .error _ => return ()
        | .ok active =>
          let _ ← call (.activeSessionUpdate { active with lastSeen := now })
          return ()

/-- The loop of `authDevice` over the sessions. -/
def touchSessions (tenantID : String) : List String → Service Unit
  | [] => return ()
  | uid :: rest => do
    touchSession tenantID uid
    touchSessions tenantID rest

/-! ## The store -/

/-- The tables. A running session is a session. -/
structure SessionStore where
  devices : Table Device String Device.uid
  sessions : Table Session String Session.uid
  activeSessions : Table ActiveSession String ActiveSession.uid
  known : ∀ active ∈ activeSessions.rows, (sessions.find active.uid).isSome

namespace SessionStore

variable (store : SessionStore)

/-- What a call finds around it: a fault, the time, and a fresh identifier. -/
structure Surroundings where
  fault : Option StoreError
  now : Nat
  freshID : String

/-- `OmitZero`, for a column of text. -/
def omitZero (new old : String) : String := if new = "" then old else new

/-- `SessionFromModel` has a default type. -/
def sessionType (type : String) : String := if type = "" then "shell" else type

/-- The row that `SessionUpdate` writes. Its flags are written as they are; of the other columns those
with a zero value are left out. -/
def rewritten (row session : Session) : Session where
  uid := row.uid
  tenantID := omitZero session.tenantID row.tenantID
  deviceUID := omitZero session.deviceUID row.deviceUID
  username := omitZero session.username row.username
  userID := omitZero session.userID row.userID
  ipAddress := omitZero session.ipAddress row.ipAddress
  startedAt := session.startedAt
  lastSeen := session.lastSeen
  closed := session.closed
  authenticated := session.authenticated
  recorded := session.recorded
  type := sessionType session.type
  term := omitZero session.term row.term
  web := session.web || row.web

/-- Add a session. -/
def addSession (session : Session) (fresh : store.sessions.find session.uid = none) : SessionStore :=
  { store with
    sessions := store.sessions.insert session fresh
    known := fun active member => Table.isSome_find_insert (store.known active member) }

/-- Write a session. -/
def putSession (session : Session) : SessionStore :=
  { store with
    sessions := store.sessions.put session
    known := fun active member => Table.isSome_find_put (store.known active member) }

/-- Add the row of a running session. -/
def addActive (active : ActiveSession) (fresh : store.activeSessions.find active.uid = none)
    (session : (store.sessions.find active.uid).isSome) : SessionStore :=
  { store with
    activeSessions := store.activeSessions.insert active fresh
    known := List.forall_mem_append.mpr ⟨store.known, List.forall_mem_singleton.mpr session⟩ }

/-- Write the row of a running session. -/
def putActive (active : ActiveSession) : SessionStore :=
  { store with
    activeSessions := store.activeSessions.put active
    known := by
      intro other member
      obtain ⟨old, stored, rfl⟩ := List.mem_map.mp member
      split
      · rename_i same
        rw [← same]
        exact store.known old stored
      · exact store.known old stored }

/-- Delete the row of a running session. -/
def deactivate (uid : String) : SessionStore :=
  { store with
    activeSessions := store.activeSessions.erase fun active => active.uid = uid
    known := fun active member => store.known active (List.mem_of_mem_filter member) }

/-- One call without a fault. -/
def perform (around : Surroundings) : (request : Call) → request.Reply × SessionStore
  | .clockNow => (around.now, store)
  | .sessionCreate session =>
    let uid := if session.uid = "" then around.freshID else session.uid
    match store.devices.find session.deviceUID with
    | none => (.error .noDocuments, store)
    | some device =>
      match fresh : store.sessions.find uid with
      | some _ => (.error .duplicate, store)
      | none =>
        (.ok uid, store.addSession { session with
          uid := uid
          tenantID := device.tenantID
          startedAt := around.now
          lastSeen := around.now
          recorded := false
          type := sessionType session.type } fresh)
  | .sessionResolve scope uid =>
    match (store.sessions.find uid).filter fun session => scope.all (session.tenantID = ·) with
    | none => (.error .noDocuments, store)
    | some session => (.ok session, store)
  | .sessionUpdate session =>
    match store.sessions.find session.uid with
    | none => (.error .noDocuments, store)
    | some row => (.ok (), store.putSession (rewritten row session))
  | .activeSessionCreate session =>
    match fresh : store.activeSessions.find session.uid with
    | some active => (.ok (), store.putActive { active with lastSeen := around.now })
    | none =>
      if present : (store.sessions.find session.uid).isSome then
        (.ok (), store.addActive ⟨session.uid, session.startedAt⟩ fresh present)
      else (.error .unavailable, store)
  | .activeSessionResolve uid =>
    match store.activeSessions.find uid with
    | none => (.error .noDocuments, store)
    | some active => (.ok active, store)
  | .activeSessionUpdate active =>
    match store.activeSessions.find active.uid with
    | none => (.error .noDocuments, store)
    | some _ => (.ok (), store.putActive active)
  | .activeSessionDelete uid =>
    match store.sessions.find uid with
    | none => (.error .noDocuments, store)
    | some row =>
      (.ok (), (store.putSession { row with closed := true, lastSeen := around.now }).deactivate uid)

end SessionStore

open SessionStore (Surroundings)

/-- The answer of a call that fails. The clock does not fail. -/
def failure (error : StoreError) : (request : Call) → Option request.Reply
  | .clockNow => none
  | .sessionCreate _ | .sessionResolve _ _ | .sessionUpdate _ | .activeSessionCreate _
  | .activeSessionResolve _ | .activeSessionUpdate _ | .activeSessionDelete _ =>
    some (.error error)

/-- The meaning of a call. The environment may make any call to the store fail; it then changes
nothing. -/
def callMeaning : Meaning Call Call.Reply Surroundings SessionStore :=
  fun request around store =>
    match around.fault.bind fun error => failure error request with
    | some reply => (reply, store)
    | none => store.perform around request

/-- An answer that is no failure is that of the call when nothing fails. -/
theorem callMeaning_performs {request : Call} {around : Surroundings} {store : SessionStore}
    (fine : ∀ error, failure error request ≠ some (callMeaning request around store).1) :
    callMeaning request around store = store.perform around request := by
  unfold callMeaning at fine ⊢
  split
  · rename_i reply answer
    obtain ⟨error, -, failed⟩ := Option.bind_eq_some_iff.mp answer
    simp only [answer] at fine
    exact absurd failed (fine error)
  · rfl

end ShellHub.Sessions
