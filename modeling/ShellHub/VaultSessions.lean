import Mathlib.Logic.Function.Basic
import ShellHub.Sequences
import ShellHub.Vaults

/-!
# Sessions of one server vault

A vault on the server is edited from several browser sessions. The server takes a write only with
the version it has, and raises the version with each write it takes. A session sends the version of
its register, which every read of the vault sets, while its list of keys is loaded at an unlock.

An operation is a task that waits for the server or for the browser between its steps. A request is
handled by the server in one step and its reply is received in a later one, and a reply may be lost.
This module proves that a write never takes the place of keys it does not know of, if every edit
starts from a list that belongs to the version in the register and is alone in its session. It gives
a run in which a refresh brings the register, and not the list, up to date.
-/

namespace ShellHub.Vaults

open Sequences

/-- What the server stores. All sessions have the same key, so the entries stand for the data. -/
structure Server where
  version : Nat
  keys : List VaultKeyEntry
  deriving DecidableEq, Repr

/-- What becomes of a read of the vault. -/
inductive Reading where
  /-- `loadMeta` of `refreshStatus` -/
  | refreshMeta
  /-- `loadMeta` of `unlock`, with a password that is right or wrong -/
  | unlockMeta (correct : Bool)
  /-- `loadData` of `unlock` -/
  | unlockData
  /-- `loadSettings` at the end of `refreshStatus` -/
  | refreshSettings
  /-- `loadSettings` elsewhere -/
  | settings
  /-- the read after a write was refused -/
  | refused
  deriving DecidableEq, Repr

/-- Where an operation waits. -/
inductive Task where
  /-- a read is on its way to the server -/
  | reading (purpose : Reading)
  /-- the answer to a read is on its way back -/
  | read (purpose : Reading) (answer : Server)
  | verifying (correct : Bool)
  /-- the data that was read is being decrypted -/
  | opening (answer : Server)
  /-- the new list of an edit is being encrypted -/
  | sealing (base keys : List VaultKeyEntry)
  /-- a write is on its way to the server -/
  | writing (base keys : List VaultKeyEntry) (version : Nat)
  /-- the verdict is on its way back: the new version, or a refusal -/
  | written (keys : List VaultKeyEntry) (verdict : Option Nat)
  /-- the write was taken -/
  | persisted (keys : List VaultKeyEntry) (version : Nat)
  deriving DecidableEq, Repr

/-- A browser session. The field `listed` is not in the source: it is the version that the list of
keys was loaded or stored with. -/
structure Session where
  status : VaultStatus
  keys : List VaultKeyEntry
  hasSessionKey : Bool
  version : Nat
  listed : Option Nat
  tasks : List Task
  deriving DecidableEq, Repr

/-- A session that was just opened. -/
def Session.fresh : Session := ⟨.uninitialized, [], false, 0, none, []⟩

/-! ## Edits -/

/-- The changes of `updateKey`. -/
structure KeyUpdates where
  name : Option String
  data : Option String
  hasPassphrase : Option Bool
  fingerprint : Option String
  algorithm : Option String
  deriving DecidableEq, Repr

/-- An operation of a session. A new entry comes with its identifier and its times. -/
inductive Operation where
  | unlock (correct : Bool)
  | refreshStatus
  | loadSettings
  | addKey (entry : VaultKeyEntry)
  | updateKey (id : String) (updates : KeyUpdates) (now : String)
  | removeKey (id : String)
  deriving DecidableEq, Repr

/-- `checkDuplicates` finds no other entry with the name or the fingerprint. -/
def isUnique (existing : List VaultKeyEntry) (name fingerprint excludeId : Option String) : Bool :=
  existing.all fun key => some key.id = excludeId ||
    (some key.name != name && some key.fingerprint != fingerprint)

def KeyUpdates.apply (updates : KeyUpdates) (now : String) (key : VaultKeyEntry) : VaultKeyEntry :=
  { key with
    name := updates.name.getD key.name
    data := updates.data.getD key.data
    hasPassphrase := updates.hasPassphrase.getD key.hasPassphrase
    fingerprint := updates.fingerprint.getD key.fingerprint
    algorithm := updates.algorithm.or key.algorithm
    updatedAt := now }

/-- The list that an edit makes of the list it finds, unless it is refused at once. -/
def Operation.edited (existing : List VaultKeyEntry) : Operation → Option (List VaultKeyEntry)
  | .addKey entry =>
    if isUnique existing (some entry.name) (some entry.fingerprint) none then
      some (existing ++ [entry])
    else none
  | .updateKey id updates now =>
    if existing.any (·.id = id) ∧ isUnique existing updates.name updates.fingerprint (some id) then
      some (existing.map fun key => if key.id = id then updates.apply now key else key)
    else none
  | .removeKey id =>
    if existing.any (·.id = id) then some (existing.filter (·.id ≠ id)) else none
  | _ => none

/-- An operation is an edit. -/
def Operation.isEdit : Operation → Bool
  | .addKey _ | .updateKey _ _ _ | .removeKey _ => true
  | _ => false

/-- The task of an operation after its first step. An edit takes the list of the session and needs
the session key. -/
def Operation.begin (operation : Operation) (session : Session) : Option Task :=
  match operation with
  | .unlock correct => some (.reading (.unlockMeta correct))
  | .refreshStatus => some (.reading .refreshMeta)
  | .loadSettings => some (.reading .settings)
  | edit =>
    if session.hasSessionKey then (edit.edited session.keys).map (.sealing session.keys) else none

/-! ## Steps -/

/-- A read brings its version to the register, and the operation goes on. -/
def Reading.received (session : Session) (answer : Server) : Reading → Session × Option Task
  | .refreshMeta =>
    ({ session with version := answer.version }, some (.reading .refreshSettings))
  | .unlockMeta correct => ({ session with version := answer.version }, some (.verifying correct))
  | .unlockData => ({ session with version := answer.version }, some (.opening answer))
  | .refreshSettings =>
    ({ session with
      version := answer.version
      status := if session.hasSessionKey then .unlocked else .locked }, none)
  | .settings => ({ session with version := answer.version }, none)
  | .refused => ({ session with version := answer.version }, none)

/-- The answer of a read is lost. -/
def Reading.lost (session : Session) : Reading → Session
  | .unlockMeta _ | .unlockData => { session with hasSessionKey := false }
  | .refreshSettings =>
    { session with status := if session.hasSessionKey then .unlocked else .locked }
  | _ => session

/-- One step of a task: what it does to the server and its session, and where it waits next. -/
def Task.advance (server : Server) (session : Session) (lost : Bool) :
    Task → Server × Session × Option Task
  | .reading purpose => (server, session, some (.read purpose server))
  | .read purpose answer =>
    if lost then (server, purpose.lost session, none)
    else (server, purpose.received session answer)
  | .verifying correct =>
    if correct then (server, { session with hasSessionKey := true }, some (.reading .unlockData))
    else (server, session, none)
  | .opening answer =>
    (server, { session with
      status := .unlocked, keys := answer.keys, listed := some answer.version },
      some (.reading .settings))
  | .sealing base keys => (server, session, some (.writing base keys session.version))
  | .writing _ keys version =>
    if version = server.version then
      (⟨version + 1, keys⟩, session, some (.written keys (some (version + 1))))
    else (server, session, some (.written keys none))
  | .written keys verdict =>
    match lost, verdict with
    | true, _ => (server, session, none)
    | false, some version =>
      (server, { session with version }, some (.persisted keys version))
    | false, none => (server, session, some (.reading .refused))
  | .persisted keys version =>
    if session.status = .unlocked then
      (server, { session with keys, listed := some version }, none)
    else (server, session, none)

/-- The server and the sessions. -/
structure Sessions where
  server : Server
  session : Nat → Session

/-- A session starts an operation, or one of its tasks takes a step. -/
inductive SessionEvent where
  | start (id : Nat) (operation : Operation)
  | advance (id index : Nat) (lost : Bool)

/-- The tasks of a session when one of them has taken a step. -/
def replaceTask (tasks : List Task) (index : Nat) : Option Task → List Task
  | none => tasks.eraseIdx index
  | some task => tasks.set index task

namespace Sessions

/-- Every session was just opened. -/
def fresh (server : Server) : Sessions := ⟨server, fun _ => .fresh⟩

/-- The task that an event moves. -/
def moved (world : Sessions) : SessionEvent → Option Task
  | .start _ _ => none
  | .advance id index _ => (world.session id).tasks[index]?

def next (world : Sessions) : SessionEvent → Sessions
  | .start id operation =>
    let session := world.session id
    let tasks := session.tasks ++ (operation.begin session).toList
    { world with session := Function.update world.session id { session with tasks } }
  | .advance id index lost =>
    match (world.session id).tasks[index]? with
    | none => world
    | some task =>
      let (server, session, waits) := task.advance world.server (world.session id) lost
      let tasks := replaceTask (world.session id).tasks index waits
      ⟨server, Function.update world.session id { session with tasks }⟩

end Sessions

/-- The list that the edit of a write was made from. -/
def Task.base : Task → List VaultKeyEntry
  | .writing base _ _ => base
  | _ => []

/-- A task belongs to an edit. -/
def Task.isEdit : Task → Bool
  | .sealing _ _ | .writing _ _ _ | .written _ _ | .persisted _ _ => true
  | .reading .refused | .read .refused _ => true
  | _ => false

/-- An edit starts when no other operation of its session runs, with a list that belongs to the
version in the register, and no other operation starts before it has ended. -/
def Exclusive (world : Sessions) : SessionEvent → Prop
  | .start id operation =>
    let session := world.session id
    (operation.isEdit = true → session.tasks = [] ∧ session.listed = some session.version) ∧
      ∀ task ∈ session.tasks, task.isEdit = false
  | .advance _ _ _ => True

instance (world : Sessions) (event : SessionEvent) : Decidable (Exclusive world event) :=
  match event with
  | .start _ _ => inferInstanceAs (Decidable (_ ∧ _))
  | .advance _ _ _ => .isTrue trivial

/-! ## What a session knows -/

/-- A list that was stored with a version: if the version is still the one of the server, so is the
list. -/
def Server.Knows (server : Server) (version : Nat) (keys : List VaultKeyEntry) : Prop :=
  version ≤ server.version ∧ (version = server.version → keys = server.keys)

/-- What a task knows is true. -/
def Task.Sound (server : Server) (session : Session) : Task → Prop
  | .read _ answer => server.Knows answer.version answer.keys
  | .opening answer => server.Knows answer.version answer.keys
  | .sealing base _ => server.Knows session.version base
  | .writing base _ version => server.Knows version base
  | .written keys (some version) => server.Knows version keys
  | .persisted keys version => server.Knows version keys
  | _ => True

/-- What a session knows is true, and an edit is alone in its session. -/
structure Session.Sound (server : Server) (session : Session) : Prop where
  register : session.version ≤ server.version
  list : ∀ version ∈ session.listed, server.Knows version session.keys
  tasks : ∀ task ∈ session.tasks, task.Sound server session
  alone : ∀ task ∈ session.tasks, task.isEdit = true → session.tasks = [task]

section Steps

variable {server after : Server} {session : Session} {task : Task} {version : Nat}
  {keys : List VaultKeyEntry} {index : Nat}

/-- The server takes no write, or it takes one and raises its version. -/
def Server.Follows (server after : Server) : Prop :=
  after = server ∨ after.version = server.version + 1

theorem Server.Knows.follows (known : server.Knows version keys) (follows : server.Follows after) :
    after.Knows version keys := by
  rcases follows with rfl | raised
  · exact known
  · have below := known.1
    exact ⟨by omega, fun same => by omega⟩

theorem Task.Sound.follows (sound : task.Sound server session) (follows : server.Follows after) :
    task.Sound after session := by
  cases task with
  | written keys verdict =>
    cases verdict with
    | none => trivial
    | some version => exact Server.Knows.follows sound follows
  | read | opening | sealing | writing | persisted => exact Server.Knows.follows sound follows
  | reading | verifying => trivial

theorem Session.Sound.follows (sound : session.Sound server) (follows : server.Follows after) :
    session.Sound after where
  register := (Server.Knows.follows ⟨sound.register, fun _ => rfl⟩ follows :
    after.Knows session.version _).1
  list := fun version member => (sound.list version member).follows follows
  tasks := fun task member => (sound.tasks task member).follows follows
  alone := sound.alone

theorem Task.Sound.congr {other : Session} (same : other.version = session.version)
    (sound : task.Sound server session) : task.Sound server other := by
  cases task with
  | sealing base keys =>
    change server.Knows other.version base
    rw [same]
    exact sound
  | written keys verdict => cases verdict <;> exact sound
  | _ => exact sound

theorem mem_replaceTask {tasks : List Task} {waits : Option Task}
    (member : task ∈ replaceTask tasks index waits) : task ∈ tasks ∨ waits = some task := by
  cases waits with
  | none => exact .inl (List.mem_of_mem_eraseIdx member)
  | some next =>
    rcases List.mem_or_eq_of_mem_set member with old | rfl
    · exact .inl old
    · exact .inr rfl

/-- The rule for a step of a task. What the other tasks know is not touched, unless one of them is
encrypting a list; but then it is alone and takes the step itself. -/
theorem Session.Sound.step {waits : Option Task} (sound : session.Sound server) (moved : Session)
    (present : session.tasks[index]? = some task) (follows : server.Follows after)
    (register : moved.version ≤ after.version)
    (list : ∀ version ∈ moved.listed, after.Knows version moved.keys)
    (own : ∀ next, waits = some next →
      next.Sound after moved ∧ (next.isEdit = true → task.isEdit = true))
    (kept : moved.version = session.version ∨ ∀ base keys, task ≠ .sealing base keys) :
    Session.Sound after { moved with tasks := replaceTask session.tasks index waits } := by
  have only : ∀ {edit : Task}, session.tasks = [edit] → index = 0 ∧ task = edit := by
    intro edit single
    rw [single] at present
    obtain ⟨short, same⟩ := List.getElem?_eq_some_iff.mp present
    have first : index = 0 := by simpa using short
    subst first
    exact ⟨rfl, same.symm⟩
  refine ⟨register, list, ?_, ?_⟩
  · intro other member
    rcases mem_replaceTask member with old | new
    · have known := (sound.tasks other old).follows follows
      rcases kept with same | unsealed
      · exact known.congr same
      · cases other with
        | sealing base keys =>
          exact absurd (only (sound.alone _ old rfl)).2 (unsealed base keys)
        | written keys verdict => cases verdict <;> exact known
        | _ => exact known
    · exact (own other new).1.congr rfl
  · intro other member edits
    rcases mem_replaceTask member with old | new
    · have single := sound.alone other old edits
      obtain ⟨rfl, -⟩ := only single
      rw [single] at member ⊢
      cases waits with
      | none => cases member
      | some next => rw [List.mem_singleton.mp member]; rfl
    · have single := sound.alone task (List.mem_of_getElem? present) ((own other new).2 edits)
      obtain ⟨rfl, -⟩ := only single
      rw [single, new]
      rfl

/-- A step of a task keeps what its session knows true. -/
theorem Session.Sound.advance (sound : session.Sound server)
    (present : session.tasks[index]? = some task) (lost : Bool) :
    let step := task.advance server session lost
    server.Follows step.1 ∧ Session.Sound step.1
      { step.2.1 with tasks := replaceTask session.tasks index step.2.2 } := by
  have mine := sound.tasks task (List.mem_of_getElem? present)
  have quiet : server.Follows server := .inl rfl
  have nothing : ∀ {moved : Session}, ∀ next, (none : Option Task) = some next →
      next.Sound server moved ∧ (next.isEdit = true → task.isEdit = true) := nofun
  cases task with
  | reading purpose =>
    refine ⟨quiet, sound.step _ present quiet sound.register sound.list ?_ (.inl rfl)⟩
    rintro _ ⟨⟩
    exact ⟨⟨Nat.le_refl _, fun _ => rfl⟩, by cases purpose <;> exact id⟩
  | read purpose answer =>
    cases lost with
    | true =>
      refine ⟨quiet, ?_⟩
      cases purpose <;>
        exact sound.step _ present quiet sound.register sound.list nothing (.inl rfl)
    | false =>
      refine ⟨quiet, ?_⟩
      cases purpose <;>
        refine sound.step _ present quiet mine.1 sound.list ?_ (.inr nofun) <;>
        rintro _ ⟨⟩ <;> exact ⟨by trivial, nofun⟩
  | verifying correct =>
    cases correct with
    | true =>
      refine ⟨quiet, sound.step _ present quiet sound.register sound.list ?_ (.inl rfl)⟩
      rintro _ ⟨⟩
      exact ⟨trivial, nofun⟩
    | false =>
      exact ⟨quiet, sound.step _ present quiet sound.register sound.list nothing (.inl rfl)⟩
  | opening answer =>
    refine ⟨quiet, sound.step _ present quiet sound.register ?_ ?_ (.inl rfl)⟩
    · rintro _ ⟨⟩
      exact mine
    · rintro _ ⟨⟩
      exact ⟨trivial, nofun⟩
  | sealing base keys =>
    refine ⟨quiet, sound.step _ present quiet sound.register sound.list ?_ (.inl rfl)⟩
    rintro _ ⟨⟩
    exact ⟨mine, fun _ => rfl⟩
  | writing base keys version =>
    by_cases current : version = server.version
    · simp only [Task.advance, if_pos current]
      have raised : server.Follows ⟨version + 1, keys⟩ := .inr (congrArg (· + 1) current)
      have known := sound.follows raised
      refine ⟨raised, sound.step _ present raised known.register known.list ?_ (.inl rfl)⟩
      rintro _ ⟨⟩
      exact ⟨⟨Nat.le_refl _, fun _ => rfl⟩, fun _ => rfl⟩
    · simp only [Task.advance, if_neg current]
      refine ⟨quiet, sound.step _ present quiet sound.register sound.list ?_ (.inl rfl)⟩
      rintro _ ⟨⟩
      exact ⟨trivial, fun _ => rfl⟩
  | written keys verdict =>
    cases lost with
    | true => exact ⟨quiet, sound.step _ present quiet sound.register sound.list nothing (.inl rfl)⟩
    | false =>
      cases verdict with
      | none =>
        refine ⟨quiet, sound.step _ present quiet sound.register sound.list ?_ (.inl rfl)⟩
        rintro _ ⟨⟩
        exact ⟨trivial, fun _ => rfl⟩
      | some version =>
        refine ⟨quiet, sound.step _ present quiet mine.1 sound.list ?_ (.inr nofun)⟩
        rintro _ ⟨⟩
        exact ⟨mine, fun _ => rfl⟩
  | persisted keys version =>
    by_cases unlocked : session.status = .unlocked
    · simp only [Task.advance, if_pos unlocked]
      refine ⟨quiet, sound.step { session with keys, listed := some version } present quiet
        sound.register ?_ nothing (.inl rfl)⟩
      rintro _ ⟨⟩
      exact mine
    · simp only [Task.advance, if_neg unlocked]
      exact ⟨quiet, sound.step _ present quiet sound.register sound.list nothing (.inl rfl)⟩

/-- The server changes only when it takes a write. -/
theorem advance_server (server : Server) (session : Session) (lost : Bool) (task : Task) :
    (task.advance server session lost).1 = server ∨
      ∃ base keys, task = .writing base keys server.version := by
  cases task with
  | writing base keys version =>
    by_cases current : version = server.version
    · exact .inr ⟨base, keys, by rw [current]⟩
    · exact .inl (by simp only [Task.advance, if_neg current])
  | written keys verdict => cases lost <;> cases verdict <;> exact .inl rfl
  | read | verifying | persisted => left; simp only [Task.advance]; split <;> rfl
  | reading | opening | sealing => exact .inl rfl

/-- An edit that starts knows that its list belongs to the register. -/
theorem begin_sound {operation : Operation} (sound : session.Sound server)
    (edit : operation.isEdit = true → session.listed = some session.version)
    (begun : operation.begin session = some task) :
    task.Sound server session ∧ task.isEdit = operation.isEdit := by
  cases operation with
  | unlock correct | refreshStatus | loadSettings => cases begun; exact ⟨trivial, rfl⟩
  | _ =>
    simp only [Operation.begin] at begun
    split at begun
    · obtain ⟨keys, -, rfl⟩ := Option.map_eq_some_iff.mp begun
      exact ⟨sound.list _ (edit rfl), rfl⟩
    · cases begun

/-- The sessions know nothing false. -/
def Sessions.Sound (world : Sessions) : Prop := ∀ id, (world.session id).Sound world.server

theorem Sessions.next_sound (world : Sessions) (event : SessionEvent) (sound : world.Sound)
    (exclusive : Exclusive world event) : (world.next event).Sound := by
  cases event with
  | start id operation =>
    intro other
    by_cases same : other = id
    · subst same
      have known := sound other
      simp only [Sessions.next, Function.update_self]
      cases begun : operation.begin (world.session other) with
      | none => simpa using known
      | some task =>
        obtain ⟨mine, edits⟩ := begin_sound known (fun edit => (exclusive.1 edit).2) begun
        refine ⟨known.register, known.list, ?_, ?_⟩
        · intro one member
          rcases List.mem_append.mp member with old | new
          · exact (known.tasks one old).congr rfl
          · cases List.mem_singleton.mp new
            exact mine.congr rfl
        · intro one member edit
          rcases List.mem_append.mp member with old | new
          · rw [exclusive.2 one old] at edit
            cases edit
          · cases List.mem_singleton.mp new
            rw [(exclusive.1 (edits ▸ edit)).1]
            rfl
    · simpa only [Sessions.next, Function.update_of_ne same] using sound other
  | advance id index lost =>
    simp only [Sessions.next]
    split
    · exact sound
    · rename_i task present
      obtain ⟨follows, moved⟩ := (sound id).advance present lost
      intro other
      by_cases same : other = id
      · subst same
        simp only [Function.update_self]
        exact moved
      · simp only [Function.update_of_ne same]
        exact (sound other).follows follows

end Steps

/-- A stored key stays stored until an edit that was made from a list with the key changes or
removes it, in every run in which edits start in step with the register and alone. A write that is
accepted has the version of the register, and a session that knows a version has the list that
belongs to it. -/
theorem stale_writes_refused (server : Server) (events : List SessionEvent)
    (exclusive : Along Sessions.next Exclusive (.fresh server) events) :
    ∀ world ∈ visited Sessions.next (.fresh server) events, ∀ event, ∀ key ∈ world.server.keys,
      key ∈ (world.next event).server.keys ∨
        ∃ task, world.moved event = some task ∧ key ∈ task.base := by
  have opened : (Sessions.fresh server).Sound := fun _ =>
    ⟨Nat.zero_le _, nofun, nofun, nofun⟩
  intro world reached event key stored
  have sound := visited_keeps Sessions.next_sound opened exclusive world reached
  cases event with
  | start id operation => exact .inl stored
  | advance id index lost =>
    cases present : (world.session id).tasks[index]? with
    | none => exact .inl (by simpa only [Sessions.next, present] using stored)
    | some task =>
      have same : (world.next (.advance id index lost)).server =
          (task.advance world.server (world.session id) lost).1 := by
        simp only [Sessions.next, present]
      rcases advance_server world.server (world.session id) lost task with kept | ⟨base, keys, rfl⟩
      · exact .inl (by rw [same, kept]; exact stored)
      · -- a write with the version of the server was made from the list of the server
        have known := (sound id).tasks _ (List.mem_of_getElem? present)
        exact .inr ⟨_, present, by rw [Task.base, known.2 rfl]; exact stored⟩

/-! ## Runs -/

/-- Two keys. -/
def laptopKey : VaultKeyEntry := ⟨"1", "laptop", "PEM1", false, "aa", none, "t", "t"⟩

def phoneKey : VaultKeyEntry := ⟨"2", "phone", "PEM2", false, "bb", none, "t", "t"⟩

/-- An operation is started in a session and its only task takes some steps. -/
def whole (id : Nat) (operation : Operation) (steps : Nat) : List SessionEvent :=
  .start id operation :: List.replicate steps (.advance id 0 false)

/-- Two sessions unlock the vault and the second one adds a key. -/
def phoneAdds : List SessionEvent :=
  whole 0 (.unlock true) 8 ++ whole 1 (.unlock true) 8 ++ whole 1 (.addKey phoneKey) 4

/-- The first session then unlocks the vault again and adds its key, and both are stored. -/
theorem stale_writes_refused_after_unlock :
    let events := phoneAdds ++ whole 0 (.unlock true) 8 ++ whole 0 (.addKey laptopKey) 4
    (∃ world ∈ visited Sessions.next (.fresh ⟨1, []⟩) events,
      world.server.keys = [phoneKey, laptopKey]) ∧
    ∀ world ∈ visited Sessions.next (.fresh ⟨1, []⟩) events, ∀ event, ∀ key ∈ world.server.keys,
      key ∈ (world.next event).server.keys ∨
        ∃ task, world.moved event = some task ∧ key ∈ task.base :=
  ⟨by decide +kernel, stale_writes_refused ⟨1, []⟩ _ (by decide +kernel)⟩

/-- The first session refreshes its status and adds its key. The list it was made from does not have
the key of the second session, and the write is taken. -/
theorem refreshed_session_overwrites_key :
    let events := phoneAdds ++ whole 0 .refreshStatus 4 ++ whole 0 (.addKey laptopKey) 1
    ∃ world ∈ visited Sessions.next (.fresh ⟨1, []⟩) events,
      phoneKey ∈ world.server.keys ∧
        (world.next (.advance 0 0 false)).server.keys = [laptopKey] ∧
        world.moved (.advance 0 0 false) = some (.writing [] [laptopKey] 2) := by
  decide +kernel

end ShellHub.Vaults
