import Mathlib.Data.List.Sort
import ShellHub.Sessions

/-!
# Session retention

The instance deletes the sessions that started longer ago than the retention window, oldest first
and in batches. The recordings of a batch are purged before its rows are deleted, since the row is
the only thing that can still name the recording. A session whose recording could not be purged
keeps its row, and with it its place at the head of the list.
-/

namespace ShellHub.Retention

open Tables Sessions
open Namespaces (StoreError)

/-! ## The store -/

/-- `ExpiredSession`. -/
structure ExpiredSession where
  uid : String
  recorded : Bool
  deriving DecidableEq, Repr

/-- A session has no row among the active ones and started before the cutoff. -/
def Expired (store : SessionStore) (before : Int) (session : Session) : Prop :=
  (session.startedAt : Int) < before ∧ store.activeSessions.find session.uid = none

instance (store : SessionStore) (before : Int) (session : Session) :
    Decidable (Expired store before session) :=
  inferInstanceAs (Decidable (_ ∧ _))

/-- The expired sessions, oldest first. -/
def oldest (store : SessionStore) (before : Int) : List Session :=
  (store.sessions.rows.filter (Expired store before ·)).insertionSort (·.startedAt ≤ ·.startedAt)

/-- `SessionListExpired`. -/
def sessionListExpired (store : SessionStore) (before : Int) (limit : Nat) : List ExpiredSession :=
  ((oldest store before).take limit).map fun session => ⟨session.uid, session.recorded⟩

/-- `SessionDeleteMany`. The rows of active sessions go with their sessions. -/
def sessionDeleteMany (store : SessionStore) (uids : List String) : SessionStore where
  devices := store.devices
  sessions := store.sessions.erase fun session => session.uid ∈ uids
  activeSessions := store.activeSessions.erase fun active => active.uid ∈ uids
  known := by
    intro active member
    obtain ⟨stored, stays⟩ := List.mem_filter.mp member
    have present := store.known active stored
    obtain ⟨session, found⟩ := Option.isSome_iff_exists.mp present
    have same : session.uid = active.uid := (Table.find_eq_some.mp found).2
    rw [Table.find_erase, found, Option.filter_some, same]
    simpa using stays

/-! ## The run -/

def sessionCleanupBatchSize : Nat := 1000

def sessionCleanupMaxBatches : Nat := 100

/-- What a run finds around it in each of its rounds: what other requests do to the store before the
round and between its list and its deletion, the answer of the recording store, the faults of the
store and the end of the context. -/
structure Surroundings where
  others : Nat → SessionStore → SessionStore
  meanwhile : Nat → SessionStore → SessionStore
  deleteRecordings : Nat → List String → Except String (List String)
  listFault : Nat → Option StoreError
  deleteFault : Nat → Option StoreError
  cancelled : Nat → Bool

/-- `pruneRecordings`, with the answer of the recording store if there is one. -/
def pruneRecordings (pruner : Option (List String → Except String (List String)))
    (sessions : List ExpiredSession) : Except String (List String) :=
  let uids := sessions.map (·.uid)
  let recorded := (sessions.filter (·.recorded)).map (·.uid)
  match pruner with
  | none => .ok uids
  | some deleteRecordings =>
    if recorded = [] then .ok uids
    else
      match deleteRecordings recorded with
      | .error error => .error error
      | .ok purged =>
        .ok ((sessions.filter fun session => !session.recorded || session.uid ∈ purged).map (·.uid))

/-- How a run ends: nothing more to delete, nothing in the batch could be deleted, the cap, the end
of the context, or an error. -/
inductive Ending where
  | finished
  | blocked
  | capped
  | cancelled
  | listFailed (error : StoreError)
  | pruneFailed (error : String)
  | deleteFailed (error : StoreError)
  deriving DecidableEq, Repr

/-- A round that came to the recordings of its batch: the store when the batch was listed, the
batch, what the recording store has reported as purged if it was asked, and the store before and
after the deletion. -/
structure Round where
  listing : SessionStore
  sessions : List ExpiredSession
  purged : Option (List String)
  before : SessionStore
  after : SessionStore

/-- What the recording store reports about a batch, if it is asked. -/
def report (pruner : Option (List String → Except String (List String)))
    (sessions : List ExpiredSession) : Option (List String) :=
  let recorded := (sessions.filter (·.recorded)).map (·.uid)
  match pruner with
  | none => none
  | some deleteRecordings => if recorded = [] then none else (deleteRecordings recorded).toOption

structure Run where
  store : SessionStore
  rounds : List Round
  ending : Ending

/-- The loop of `sessionCleanup`, with the number of batches that it may still delete. -/
def cleanupLoop (around : Surroundings) (pruner : Bool) (cutoff : Int) :
    Nat → Nat → SessionStore → Run
  | 0, _, store => ⟨store, [], .capped⟩
  | batches + 1, number, store =>
    let listing := around.others number store
    match around.listFault number with
    | some error => ⟨listing, [], .listFailed error⟩
    | none =>
      let sessions := sessionListExpired listing cutoff sessionCleanupBatchSize
      if sessions = [] then ⟨listing, [], .finished⟩
      else
        let answers := if pruner then some (around.deleteRecordings number) else none
        match pruneRecordings answers sessions with
        | .error error => ⟨listing, [], .pruneFailed error⟩
        | .ok deletable =>
          let purged := report answers sessions
          if deletable = [] then
            ⟨listing, [⟨listing, sessions, purged, listing, listing⟩], .blocked⟩
          else
            let before := around.meanwhile number listing
            match around.deleteFault number with
            | some error =>
              ⟨before, [⟨listing, sessions, purged, before, before⟩], .deleteFailed error⟩
            | none =>
              let after := sessionDeleteMany before deletable
              let round := ⟨listing, sessions, purged, before, after⟩
              if sessions.length < sessionCleanupBatchSize then ⟨after, [round], .finished⟩
              else if around.cancelled number then ⟨after, [round], .cancelled⟩
              else
                let rest := cleanupLoop around pruner cutoff batches (number + 1) after
                { rest with rounds := round :: rest.rounds }

/-- `sessionCleanup`. A retention that is not positive keeps everything. -/
def sessionCleanup (around : Surroundings) (pruner : Bool) (now retention : Int)
    (store : SessionStore) : Run :=
  if retention ≤ 0 then ⟨store, [], .finished⟩
  else cleanupLoop around pruner (now - retention) sessionCleanupMaxBatches 0 store

/-! ## What a round deletes -/

theorem mem_oldest {store : SessionStore} {cutoff : Int} {session : Session} :
    session ∈ oldest store cutoff ↔
      session ∈ store.sessions.rows ∧ Expired store cutoff session := by
  unfold oldest
  rw [List.mem_insertionSort, List.mem_filter, decide_eq_true_iff]

/-- A listed session is a row that has expired. -/
theorem mem_sessionListExpired {store : SessionStore} {cutoff : Int} {limit : Nat}
    {expired : ExpiredSession} (listed : expired ∈ sessionListExpired store cutoff limit) :
    ∃ session ∈ store.sessions.rows, Expired store cutoff session ∧ session.uid = expired.uid ∧
      session.recorded = expired.recorded := by
  obtain ⟨session, member, rfl⟩ := List.mem_map.mp listed
  obtain ⟨stored, expired⟩ := mem_oldest.mp (List.mem_of_mem_take member)
  exact ⟨session, stored, expired, rfl, rfl⟩

/-- Two listed sessions with one identifier are one. -/
theorem sessionListExpired_inj {store : SessionStore} {cutoff : Int} {limit : Nat}
    {one other : ExpiredSession} (listed : one ∈ sessionListExpired store cutoff limit)
    (too : other ∈ sessionListExpired store cutoff limit) (same : one.uid = other.uid) :
    one = other := by
  obtain ⟨first, stored, _, uid, recorded⟩ := mem_sessionListExpired listed
  obtain ⟨second, storedToo, _, uidToo, recordedToo⟩ := mem_sessionListExpired too
  have equal : first = second := List.inj_on_of_nodup_map store.sessions.distinct stored storedToo
    (uid.trans (same.trans uidToo.symm))
  cases one
  cases other
  simp_all

section Prune

variable {pruner : Option (List String → Except String (List String))}
  {sessions : List ExpiredSession} {deletable : List String}

/-- What may be deleted: what was not recorded, and what was reported as purged. -/
theorem pruneRecordings_ok (pruned : pruneRecordings pruner sessions = .ok deletable) :
    deletable = (sessions.filter fun session =>
      !session.recorded || (report pruner sessions).all (session.uid ∈ ·)).map (·.uid) := by
  unfold pruneRecordings at pruned
  unfold report
  cases pruner with
  | none =>
    cases pruned
    simp
  | some deleteRecordings =>
    dsimp only at pruned ⊢
    split at pruned
    · rename_i none
      cases pruned
      rw [if_pos none]
      simp
    · rename_i some
      rw [if_neg some]
      cases answer : deleteRecordings ((sessions.filter (·.recorded)).map (·.uid)) with
      | error error =>
        rw [answer] at pruned
        cases pruned
      | ok purged =>
        rw [answer] at pruned
        cases pruned
        simp [Except.toOption]

/-- A recorded session is reported about, if there is a recording store. -/
theorem report_recorded (pruned : pruneRecordings pruner sessions = .ok deletable)
    (configured : pruner.isSome) {expired : ExpiredSession} (listed : expired ∈ sessions)
    (recorded : expired.recorded = true) : ∃ purged, report pruner sessions = some purged := by
  obtain ⟨deleteRecordings, rfl⟩ := Option.isSome_iff_exists.mp configured
  have asked : (sessions.filter (·.recorded)).map (·.uid) ≠ [] :=
    List.ne_nil_of_mem (List.mem_map_of_mem (List.mem_filter.mpr ⟨listed, recorded⟩))
  unfold pruneRecordings at pruned
  unfold report
  dsimp only at pruned ⊢
  rw [if_neg asked] at pruned ⊢
  cases answer : deleteRecordings ((sessions.filter (·.recorded)).map (·.uid)) with
  | error error =>
    rw [answer] at pruned
    cases pruned
  | ok purged => exact ⟨purged, rfl⟩

theorem mem_deletable (pruned : pruneRecordings pruner sessions = .ok deletable) {uid : String} :
    uid ∈ deletable ↔ ∃ expired ∈ sessions, expired.uid = uid ∧
      (expired.recorded = true → ∀ purged ∈ report pruner sessions, uid ∈ purged) := by
  rw [pruneRecordings_ok pruned, List.mem_map]
  constructor
  · rintro ⟨expired, member, rfl⟩
    obtain ⟨listed, test⟩ := List.mem_filter.mp member
    refine ⟨expired, listed, rfl, fun recorded purged reported => ?_⟩
    rw [Option.mem_def.mp reported, recorded] at test
    simpa using test
  · rintro ⟨expired, listed, rfl, purged⟩
    refine ⟨expired, List.mem_filter.mpr ⟨listed, ?_⟩, rfl⟩
    cases recorded : expired.recorded with
    | false => rfl
    | true =>
      cases reported : report pruner sessions with
      | none => rfl
      | some uids => simpa using purged recorded uids reported

end Prune

/-- A session that is gone after a round has expired and was not active when it was listed, and was
reported as purged if it was recorded. A session that was reported as not purged is still there. -/
structure Round.Sound (pruner : Bool) (cutoff : Int) (round : Round) : Prop where
  expired : ∀ session ∈ round.before.sessions.rows, round.after.sessions.find session.uid = none →
    ∃ listed ∈ round.listing.sessions.rows, listed.uid = session.uid ∧
      Expired round.listing cutoff listed ∧
      (pruner = true → listed.recorded = true →
        ∃ purged, round.purged = some purged ∧ session.uid ∈ purged)
  kept : ∀ purged, round.purged = some purged → ∀ expired ∈ round.sessions,
    expired.recorded = true → expired.uid ∉ purged →
    round.after.sessions.find expired.uid = round.before.sessions.find expired.uid

section Rounds

variable {pruner : Bool} {cutoff : Int} {listing before : SessionStore} {limit : Nat}

/-- A round that deletes nothing. -/
theorem Round.Sound.idle (sessions : List ExpiredSession) (purged : Option (List String)) :
    Round.Sound pruner cutoff ⟨listing, sessions, purged, before, before⟩ where
  expired session stored gone := by
    rw [Table.find_of_mem stored] at gone
    cases gone
  kept _ _ _ _ _ _ := rfl

/-- A round that deletes what it may. -/
theorem Round.Sound.deletes {answers : Option (List String → Except String (List String))}
    (configured : pruner = true → answers.isSome) {deletable : List String}
    (pruned : pruneRecordings answers (sessionListExpired listing cutoff limit) = .ok deletable) :
    Round.Sound pruner cutoff ⟨listing, sessionListExpired listing cutoff limit,
      report answers (sessionListExpired listing cutoff limit), before,
      sessionDeleteMany before deletable⟩ where
  expired session stored gone := by
    have deleted : session.uid ∈ deletable := by
      change (before.sessions.erase _).find session.uid = none at gone
      rw [Table.find_erase, Table.find_of_mem stored] at gone
      simpa using gone
    obtain ⟨expired, listed, same, purged⟩ := (mem_deletable pruned).mp deleted
    obtain ⟨row, stored, older, uid, recorded⟩ := mem_sessionListExpired listed
    refine ⟨row, stored, uid.trans same, older, fun store wasRecorded => ?_⟩
    rw [recorded] at wasRecorded
    obtain ⟨uids, reported⟩ := report_recorded pruned (configured store) listed wasRecorded
    exact ⟨uids, reported, purged wasRecorded uids reported⟩
  kept purged reported expired listed recorded refused := by
    have notDeleted : expired.uid ∉ deletable := by
      intro deleted
      obtain ⟨other, too, same, isPurged⟩ := (mem_deletable pruned).mp deleted
      cases sessionListExpired_inj too listed same
      exact refused (isPurged recorded purged reported)
    change (before.sessions.erase _).find expired.uid = _
    rw [Table.find_erase]
    cases found : before.sessions.find expired.uid with
    | none => rfl
    | some row =>
      have uid : row.uid = expired.uid := (Table.find_eq_some.mp found).2
      simp [uid, notDeleted]

end Rounds

/-! ## One turn of the loop -/

/-- Where a turn of the loop starts: the run it belongs to, the number of its round, and the store. -/
structure Position where
  around : Surroundings
  pruner : Bool
  cutoff : Int
  number : Nat
  store : SessionStore

namespace Position

variable (here : Position) (deletable : List String)

/-- The rest of the run. -/
def loop (batches : Nat) : Run :=
  cleanupLoop here.around here.pruner here.cutoff batches here.number here.store

/-- The store that the round lists. -/
def listing : SessionStore := here.around.others here.number here.store

/-- The batch of the round. -/
def batch : List ExpiredSession :=
  sessionListExpired here.listing here.cutoff sessionCleanupBatchSize

/-- The recording store of the round. -/
def answers : Option (List String → Except String (List String)) :=
  if here.pruner then some (here.around.deleteRecordings here.number) else none

/-- What may be deleted of the batch. -/
abbrev MayDelete : Prop := pruneRecordings here.answers here.batch = .ok deletable

/-- The store from which the round deletes. -/
def opened : SessionStore := here.around.meanwhile here.number here.listing

/-- The store after the deletion. -/
def deleted : SessionStore := sessionDeleteMany here.opened deletable

/-- The record of the round, with the store before and after the deletion. -/
def record (before after : SessionStore) : Round :=
  ⟨here.listing, here.batch, report here.answers here.batch, before, after⟩

/-- The start of the turn after a deletion. -/
def next : Position := { here with number := here.number + 1, store := here.deleted deletable }

/-- What one turn of the loop does: it ends the run before it has a batch or the answers about it,
or without a deletion, or with one, or it goes on after a deletion. -/
inductive Turn (batches : Nat) : Run → Prop where
  | ended (ending : Ending) (drained : ending = .finished → here.batch = [])
      (notBlocked : ending ≠ .blocked) : Turn batches ⟨here.listing, [], ending⟩
  | blocked (pruned : here.MayDelete []) :
      Turn batches ⟨here.listing, [here.record here.listing here.listing], .blocked⟩
  | failed (error : StoreError) :
      Turn batches ⟨here.opened, [here.record here.opened here.opened], .deleteFailed error⟩
  | last (deletable : List String) (ending : Ending) (pruned : here.MayDelete deletable)
      (short : ending = .finished → here.batch.length < sessionCleanupBatchSize)
      (notBlocked : ending ≠ .blocked) :
      Turn batches
        ⟨here.deleted deletable, [here.record here.opened (here.deleted deletable)], ending⟩
  | more (deletable : List String) (pruned : here.MayDelete deletable) :
      Turn batches { (here.next deletable).loop batches with
        rounds := here.record here.opened (here.deleted deletable) ::
          ((here.next deletable).loop batches).rounds }

/-- Each turn of the loop is one of the five, along the branches of its body. -/
theorem loop_turn (batches : Nat) : here.Turn batches (here.loop (batches + 1)) := by
  dsimp only [loop, cleanupLoop]
  split
  · exact .ended _ (by rintro ⟨⟩) (by rintro ⟨⟩)
  · split
    · rename_i none
      exact .ended _ (fun _ => none) (by rintro ⟨⟩)
    · split
      · exact .ended _ (by rintro ⟨⟩) (by rintro ⟨⟩)
      · rename_i deletable pruned
        split
        · rename_i empty
          subst empty
          exact .blocked pruned
        · split
          · rename_i error _
            exact .failed error
          · split
            · rename_i short
              exact .last deletable _ pruned (fun _ => short) (by rintro ⟨⟩)
            · split
              · exact .last deletable _ pruned (by rintro ⟨⟩) (by rintro ⟨⟩)
              · exact .more deletable pruned

end Position

/-! ## The whole run -/

section Runs

variable {here : Position}

/-- A round that deletes what it may is sound. -/
theorem Position.MayDelete.sound {deletable : List String} (pruned : here.MayDelete deletable) :
    (here.record here.opened (here.deleted deletable)).Sound here.pruner here.cutoff :=
  .deletes (by intro configured; rw [answers, if_pos configured]; rfl) pruned

/-- The rounds of a run are sound, and no more than it may have. -/
theorem loop_sound (here : Position) (batches : Nat) :
    (here.loop batches).rounds.length ≤ batches ∧
      ∀ round ∈ (here.loop batches).rounds, round.Sound here.pruner here.cutoff := by
  induction batches generalizing here with
  | zero => exact ⟨Nat.le_refl _, by rintro _ ⟨⟩⟩
  | succ batches ih =>
    have single (round : Round) (sound : round.Sound here.pruner here.cutoff) :
        [round].length ≤ batches + 1 ∧ ∀ other ∈ [round], other.Sound here.pruner here.cutoff :=
      ⟨by simp, by simpa using sound⟩
    have turn := here.loop_turn batches
    generalize here.loop (batches + 1) = run at turn ⊢
    cases turn with
    | ended ending drained notBlocked => exact ⟨Nat.zero_le _, by rintro _ ⟨⟩⟩
    | blocked pruned | failed error => exact single _ (.idle _ _)
    | last deletable ending pruned short notBlocked => exact single _ pruned.sound
    | more deletable pruned =>
      obtain ⟨short, rest⟩ := ih (here.next deletable)
      refine ⟨Nat.succ_le_succ short, fun round member => ?_⟩
      rcases List.mem_cons.mp member with rfl | later
      · exact pruned.sound
      · exact rest round later

/-- Nobody else deletes a session while the run lasts. -/
def Surroundings.Keeps (around : Surroundings) : Prop :=
  ∀ number store uid, (store.sessions.find uid).isSome →
    ((around.others number store).sessions.find uid).isSome ∧
    ((around.meanwhile number store).sessions.find uid).isSome

/-- A session was there before the deletion of a round, and not after it. -/
def Round.Deleted (round : Round) (uid : String) : Prop :=
  (round.before.sessions.find uid).isSome ∧ round.after.sessions.find uid = none

instance (round : Round) (uid : String) : Decidable (round.Deleted uid) :=
  inferInstanceAs (Decidable (_ ∧ _))

/-- If nobody else deletes sessions, one that is gone after the run was deleted in one of its
rounds. -/
theorem loop_deleted (here : Position) (keeps : here.around.Keeps) (batches : Nat) {uid : String}
    (there : (here.store.sessions.find uid).isSome)
    (gone : (here.loop batches).store.sessions.find uid = none) :
    ∃ round ∈ (here.loop batches).rounds, round.Deleted uid := by
  have absurdly {found : Option Session} (some : found.isSome) (none : found = none) : False := by
    rw [none] at some
    cases some
  induction batches generalizing here with
  | zero => exact (absurdly there gone).elim
  | succ batches ih =>
    have listed := (keeps here.number here.store uid there).1
    have kept := (keeps here.number _ uid listed).2
    have turn := here.loop_turn batches
    generalize here.loop (batches + 1) = run at turn gone ⊢
    cases turn with
    | ended ending drained notBlocked | blocked pruned => exact (absurdly listed gone).elim
    | failed error => exact (absurdly kept gone).elim
    | last deletable ending pruned short notBlocked =>
      exact ⟨_, List.mem_singleton_self _, kept, gone⟩
    | more deletable pruned =>
      by_cases deleted : (here.deleted deletable).sessions.find uid = none
      · exact ⟨_, List.mem_cons_self .., kept, deleted⟩
      · obtain ⟨round, member, deleted⟩ := ih (here.next deletable) keeps
          (Option.isSome_iff_ne_none.mpr deleted) gone
        exact ⟨round, List.mem_cons_of_mem _ member, deleted⟩

end Runs

/-- Session retention deletes only what it may, whatever else happens to the store, whatever the
recording store answers and whatever fails. A run has at most a hundred rounds. A session that a
round has deleted had expired and was not active when the round listed it, and if it was recorded
and there is a recording store it was reported as purged in that round; one that was reported as not
purged is still there. And if nobody else deletes sessions, every session that is gone after the run
was deleted in one of its rounds. `loop_sound` says the first of each round, and `loop_deleted` the
last of a whole run. -/
theorem cleanup_deletes_only_expired (around : Surroundings) (pruner : Bool) (now retention : Int)
    (store : SessionStore) :
    (sessionCleanup around pruner now retention store).rounds.length ≤ sessionCleanupMaxBatches ∧
    (∀ round ∈ (sessionCleanup around pruner now retention store).rounds,
      (∀ uid, round.Deleted uid → ∃ listed ∈ round.listing.sessions.rows, listed.uid = uid ∧
        (listed.startedAt : Int) < now - retention ∧
        round.listing.activeSessions.find uid = none ∧
        (pruner = true → listed.recorded = true →
          ∃ purged, round.purged = some purged ∧ uid ∈ purged)) ∧
      ∀ purged, round.purged = some purged → ∀ expired ∈ round.sessions,
        expired.recorded = true → expired.uid ∉ purged → ¬ round.Deleted expired.uid) ∧
    (around.Keeps → ∀ session ∈ store.sessions.rows,
      (sessionCleanup around pruner now retention store).store.sessions.find session.uid = none →
      ∃ round ∈ (sessionCleanup around pruner now retention store).rounds,
        round.Deleted session.uid) := by
  unfold sessionCleanup
  split
  · refine ⟨Nat.zero_le _, by rintro _ ⟨⟩, fun _ session stored gone => ?_⟩
    rw [Table.find_of_mem stored] at gone
    cases gone
  · obtain ⟨short, sound⟩ := loop_sound ⟨around, pruner, now - retention, 0, store⟩
      sessionCleanupMaxBatches
    refine ⟨short, fun round member => ⟨?_, ?_⟩, fun keeps session stored => ?_⟩
    · rintro uid ⟨there, gone⟩
      obtain ⟨session, found⟩ := Option.isSome_iff_exists.mp there
      obtain ⟨stored, rfl⟩ := Table.find_eq_some.mp found
      obtain ⟨listed, row, same, expired, purged⟩ :=
        (sound round member).expired session stored gone
      exact ⟨listed, row, same, expired.1, same ▸ expired.2, purged⟩
    · intro purged reported expired listed recorded refused deleted
      have kept := (sound round member).kept purged reported expired listed recorded refused
      have there := deleted.1
      rw [← kept, deleted.2] at there
      cases there
    · exact loop_deleted ⟨around, pruner, now - retention, 0, store⟩ keeps sessionCleanupMaxBatches
        (Option.isSome_iff_exists.mpr ⟨session, Table.find_of_mem stored⟩)

/-- A session with what retention reads of it. -/
def sessionRow (uid : String) (startedAt : Nat) (recorded : Bool) : Session :=
  ⟨uid, "tenant", "device", "root", "", "10.0.0.7", startedAt, startedAt, true, true, recorded,
    "shell", "xterm", false⟩

/-- Four sessions, the first of them active. -/
def fourSessions : SessionStore where
  devices := .empty
  sessions := ⟨[sessionRow "active" 1 false, sessionRow "recorded" 2 true,
    sessionRow "plain" 3 false, sessionRow "recent" 90 false], by decide⟩
  activeSessions := ⟨[⟨"active", 80⟩], by decide⟩
  known := by decide

/-- Nothing else happens, and the recording store refuses some sessions. -/
def refusing (refused : List String) : Surroundings where
  others _ store := store
  meanwhile _ store := store
  deleteRecordings _ uids := .ok (uids.filter (· ∉ refused))
  listFault _ := none
  deleteFault _ := none
  cancelled _ := false

theorem cleanup_of_four_sessions :
    (sessionCleanup (refusing ["recorded"]) true 100 50 fourSessions).store.sessions.rows.map
      (·.uid) = ["active", "recorded", "recent"] ∧
    ∃ round ∈ (sessionCleanup (refusing ["recorded"]) true 100 50 fourSessions).rounds,
      round.Deleted "plain" := by
  refine ⟨by decide +kernel, ?_⟩
  apply (cleanup_deletes_only_expired _ true 100 50 fourSessions).2.2 _ (sessionRow "plain" 3 false)
  · decide
  · decide +kernel
  · intro number store uid there
    exact ⟨there, there⟩

/-- The recording store was asked about a session in a round, and has not purged its recording. -/
def Round.Refused (round : Round) (uid : String) : Prop :=
  ∃ expired ∈ round.sessions, expired.uid = uid ∧ expired.recorded = true ∧
    ∃ purged, round.purged = some purged ∧ uid ∉ purged

instance (round : Round) (uid : String) : Decidable (round.Refused uid) :=
  inferInstanceAs (Decidable (∃ expired ∈ round.sessions, _ ∧ _ ∧ ∃ purged, _ = some purged ∧ _))

/-- A thousand and one sessions, each started after the one before. -/
def inOrder (recorded : Nat → Bool) : List Session :=
  (List.range 1001).map fun number =>
    sessionRow (String.singleton (Char.ofNat (number + 33))) number (recorded number)

theorem inOrder_distinct (recorded : Nat → Bool) : ((inOrder recorded).map Session.uid).Nodup := by
  unfold inOrder
  rw [List.map_map]
  refine List.Nodup.map_on (fun one small other alsoSmall same => ?_) List.nodup_range
  have number {index : Nat} (small : index ∈ List.range 1001) :
      (Char.ofNat (index + 33)).toNat = index + 33 := by
    rw [List.mem_range] at small
    rw [Char.ofNat, dif_pos (.inl (by omega))]
    rfl
  have chars : Char.ofNat (one + 33) = Char.ofNat (other + 33) := by simpa [sessionRow] using same
  have numbers := congrArg Char.toNat chars
  rw [number small, number alsoSmall] at numbers
  omega

def thousandAndOne (recorded : Nat → Bool) : SessionStore where
  devices := .empty
  sessions := ⟨inOrder recorded, inOrder_distinct recorded⟩
  activeSessions := .empty
  known := by rintro _ ⟨⟩

/-- The recording store purges one recording, in the second round only. -/
def purgingLate (uid : String) : Surroundings :=
  { refusing [] with deleteRecordings := fun number _ => .ok (if number = 1 then [uid] else []) }

/-- All sessions but the second are recorded. The first round deletes the second session and is told
that the recording of the first one was not purged; the next round asks again and deletes it. -/
theorem cleanup_deletes_refused :
    (∃ round ∈ (sessionCleanup (purgingLate "!") true 5000 1000 (thousandAndOne (· ≠ 1))).rounds,
      round.Refused "!") ∧
    ∃ round ∈ (sessionCleanup (purgingLate "!") true 5000 1000 (thousandAndOne (· ≠ 1))).rounds,
      round.Deleted "!" := by
  decide +kernel

end ShellHub.Retention
