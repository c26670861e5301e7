import Mathlib.Data.List.Basic
import ShellHub.Sequences

/-!
# The stored presence of a device

The connection manager knows the tunnels of a device, and the column `disconnected_at` of its row
says whether it is online. A registration and every pong submit a beat to the heartbeater, which
collects beats and clears the column of all devices of a batch in one statement. The end of the last
connection of a device stamps the column at once, from another goroutine.

The two ways are not ordered. A beat that still waits when the last connection ends clears the
column after it was stamped, and a device that registers again between the end of its last
connection and the stamp may be stamped after its beat was written. The column follows the tunnels
if at every stamp either no connection is registered and no beat waits, or both.
-/

namespace ShellHub.Presence

open Sequences

/-! ## The heartbeater -/

structure Beat where
  uid : String
  time : Nat
  deriving DecidableEq, Repr

/-- The devices of a batch, and its earliest beat. The order in which a statement touches the rows
is left out. -/
structure Batch where
  uids : List String
  oldest : Nat
  deriving DecidableEq, Repr

def Batch.empty : Batch := ⟨[], 0⟩

def Batch.add (batch : Batch) (beat : Beat) : Batch where
  uids := if beat.uid ∈ batch.uids then batch.uids else beat.uid :: batch.uids
  oldest := if batch.uids = [] ∨ beat.time < batch.oldest then beat.time else batch.oldest

def deviceHeartbeatBatchSize : Nat := 1000
def deviceHeartbeatQueueSize : Nat := 4096

/-- A row of the devices, as far as it is written here. -/
structure Row where
  lastSeen : Nat
  disconnectedAt : Option Nat
  deriving DecidableEq, Repr

/-- `DeviceHeartbeat`. -/
def deviceHeartbeat (rows : String → Row) (uids : List String) (lastSeen : Nat) : String → Row :=
  fun uid => if uid ∈ uids then ⟨lastSeen, none⟩ else rows uid

/-- `DeviceOffline`. -/
def deviceOffline (rows : String → Row) (uid : String) (disconnectedAt : Nat) : String → Row :=
  fun other => if other = uid then { rows other with disconnectedAt } else rows other

/-! ## The manager and its goroutines -/

/-- Where the goroutine of a connection is: the connection is stored and its first beat comes next,
it waits, it has received a pong, its connection has ended, it was the last of its device and stamps
the row next, or it has returned. -/
inductive Phase where
  | stored
  | waiting
  | ponged
  | ended
  | last
  | gone
  deriving DecidableEq, Repr

/-- The next step submits a beat. -/
def Phase.Beating (phase : Phase) : Prop := phase = .stored ∨ phase = .ponged

instance (phase : Phase) : Decidable phase.Beating := by
  unfold Phase.Beating
  infer_instance

/-- The connection is in the manager. -/
def Phase.Registered (phase : Phase) : Prop := phase ≠ .last ∧ phase ≠ .gone

/-- A goroutine that is about to beat is in the manager. -/
theorem Phase.Beating.registered {phase : Phase} (beating : phase.Beating) : phase.Registered := by
  rcases beating with rfl | rfl <;> exact ⟨by decide, by decide⟩

structure Tunnel where
  uid : String
  phase : Phase
  deriving DecidableEq, Repr

/-- The manager's connections with the device of each, the goroutines of all connections, the
heartbeater with the statement that it has under way, and the rows. -/
structure World where
  connections : List (String × Nat)
  tunnels : List Tunnel
  queue : List Beat
  batch : Batch
  writing : Option (List String × Nat)
  rows : String → Row

/-- No device is connected. -/
def World.start (rows : String → Row) : World := ⟨[], [], [], .empty, none, rows⟩

def World.advance (world : World) (id : Nat) (phase : Phase) : World :=
  { world with tunnels := world.tunnels.modify id fun tunnel => { tunnel with phase } }

/-- `Submit`. A full queue drops the beat. -/
def World.submit (world : World) (uid : String) (now : Nat) : World :=
  if uid = "" then world
  else if world.queue.length < deviceHeartbeatQueueSize then
    { world with queue := world.queue ++ [⟨uid, now⟩] }
  else world

/-- `flush` takes the batch and starts its statement. -/
def World.flush (world : World) : World :=
  if world.batch.uids = [] then world
  else { world with batch := .empty, writing := some (world.batch.uids, world.batch.oldest) }

/-- `Connections.Delete`: the connections that remain, and how many of them belong to the device. -/
def delete (connections : List (String × Nat)) (uid : String) (id : Nat) :
    List (String × Nat) × Nat :=
  let remaining := connections.filter (· ≠ (uid, id))
  (remaining, (remaining.filter (·.1 = uid)).length)

/-- What happens: a tunnel is registered with `Set` or `Bind`, a goroutine calls the keep-alive
callback, receives a pong, sees the end of its connection, deletes the connection, or calls the done
callback; the heartbeater reads the queue, flushes, or ends its statement. -/
inductive Event where
  | register (uid : String)
  | beat (id now : Nat)
  | pong (id : Nat)
  | close (id : Nat)
  | delete (id : Nat)
  | offline (id now : Nat)
  | read
  | tick
  | write
  deriving DecidableEq, Repr

def World.next (world : World) : Event → World
  | .register uid =>
    { world with
      connections := world.connections ++ [(uid, world.tunnels.length)]
      tunnels := world.tunnels ++ [⟨uid, .stored⟩] }
  | .beat id now =>
    match world.tunnels[id]? with
    | some tunnel =>
      if tunnel.phase.Beating then (world.submit tunnel.uid now).advance id .waiting else world
    | none => world
  | .pong id =>
    match world.tunnels[id]? with
    | some ⟨_, .waiting⟩ => world.advance id .ponged
    | _ => world
  | .close id =>
    match world.tunnels[id]? with
    | some ⟨_, .waiting⟩ => world.advance id .ended
    | _ => world
  | .delete id =>
    match world.tunnels[id]? with
    | some ⟨uid, .ended⟩ =>
      let (connections, remaining) := Presence.delete world.connections uid id
      { world with connections }.advance id (if remaining = 0 then .last else .gone)
    | _ => world
  | .offline id now =>
    match world.tunnels[id]? with
    | some ⟨uid, .last⟩ =>
      { world with rows := deviceOffline world.rows uid now }.advance id .gone
    | _ => world
  | .read =>
    match world.writing, world.queue with
    | none, beat :: rest =>
      let later := { world with queue := rest, batch := world.batch.add beat }
      if deviceHeartbeatBatchSize ≤ later.batch.uids.length then later.flush else later
    | _, _ => world
  | .tick =>
    match world.writing with
    | none => world.flush
    | some _ => world
  | .write =>
    match world.writing with
    | some (uids, seenAt) =>
      { world with writing := none, rows := deviceHeartbeat world.rows uids seenAt }
    | none => world

/-! ## Beats on their way -/

/-- A connection of the device is in the manager. -/
def World.Online (world : World) (uid : String) : Prop :=
  ∃ connection ∈ world.connections, connection.1 = uid

/-- A beat of the device was submitted and not yet written. -/
def World.Queued (world : World) (uid : String) : Prop :=
  (∃ beat ∈ world.queue, beat.uid = uid) ∨ uid ∈ world.batch.uids ∨
    ∃ statement ∈ world.writing, uid ∈ statement.1

/-- A goroutine of the device is in a phase. -/
def World.Runs (world : World) (uid : String) (condition : Phase → Prop) : Prop :=
  ∃ tunnel ∈ world.tunnels, tunnel.uid = uid ∧ condition tunnel.phase

/-- A beat of the device is on its way to its row. -/
def World.Pending (world : World) (uid : String) : Prop :=
  world.Queued uid ∨ world.Runs uid Phase.Beating

/-- The row of the device is going to be stamped. -/
def World.Closing (world : World) (uid : String) : Prop := world.Runs uid (· = .last)

instance (world : World) (uid : String) : Decidable (world.Online uid) := by
  unfold World.Online
  infer_instance

instance (world : World) (uid : String) : Decidable (world.Pending uid) := by
  unfold World.Pending World.Queued World.Runs
  infer_instance

instance (world : World) (uid : String) : Decidable (world.Closing uid) := by
  unfold World.Closing World.Runs
  infer_instance

/-- No beat of the device is dropped, and its row is stamped only while no connection is registered
and no beat is on its way, or both. -/
def Careful (uid : String) (world : World) : Event → Prop
  | .beat id _ => ∀ tunnel ∈ world.tunnels[id]?, tunnel.uid = uid → tunnel.phase.Beating →
      world.queue.length < deviceHeartbeatQueueSize
  | .offline id _ => ∀ tunnel ∈ world.tunnels[id]?, tunnel.uid = uid → tunnel.phase = .last →
      (world.Online uid ↔ world.Pending uid)
  | _ => True

instance (uid : String) (world : World) (event : Event) : Decidable (Careful uid world event) := by
  unfold Careful
  split <;> infer_instance

section Phases

variable {world : World} {id : Nat} {tunnel : Tunnel} {uid : String} {condition : Phase → Prop}

/-- A goroutine moves, and the others stay where they are. -/
theorem advance_tunnels (found : world.tunnels[id]? = some tunnel) (phase : Phase) (other : Nat) :
    (world.advance id phase).tunnels[other]? =
      if id = other then some { tunnel with phase } else world.tunnels[other]? := by
  unfold World.advance
  rw [List.getElem?_modify]
  split
  · rename_i same
    subst same
    rw [found]
    rfl
  · simp

/-- A goroutine of the device other than the one of a connection is in a phase. -/
def World.Elsewhere (world : World) (id : Nat) (uid : String) (condition : Phase → Prop) : Prop :=
  ∃ index tunnel, index ≠ id ∧ world.tunnels[index]? = some tunnel ∧ tunnel.uid = uid ∧
    condition tunnel.phase

/-- Who runs is the goroutine of a connection or another one. -/
theorem runs_iff (found : world.tunnels[id]? = some tunnel) :
    world.Runs uid condition ↔
      (tunnel.uid = uid ∧ condition tunnel.phase) ∨ world.Elsewhere id uid condition := by
  constructor
  · rintro ⟨other, member, same, holds⟩
    obtain ⟨index, present⟩ := List.mem_iff_getElem?.mp member
    by_cases here : index = id
    · subst here
      cases found.symm.trans present
      exact .inl ⟨same, holds⟩
    · exact .inr ⟨index, other, here, present, same, holds⟩
  · rintro (⟨same, holds⟩ | ⟨_, other, -, present, same, holds⟩)
    · exact ⟨tunnel, List.mem_of_getElem? found, same, holds⟩
    · exact ⟨other, List.mem_of_getElem? present, same, holds⟩

/-- Who runs after a goroutine has moved: that goroutine, or another one as before. -/
theorem runs_advance (found : world.tunnels[id]? = some tunnel) {phase : Phase} :
    (world.advance id phase).Runs uid condition ↔
      (tunnel.uid = uid ∧ condition phase) ∨ world.Elsewhere id uid condition := by
  have moved : (world.advance id phase).tunnels[id]? = some { tunnel with phase } := by
    rw [advance_tunnels found, if_pos rfl]
  rw [runs_iff moved]
  refine or_congr_right (exists_congr fun index => exists_congr fun other => ?_)
  refine and_congr_right fun differs => ?_
  rw [advance_tunnels found, if_neg (Ne.symm differs)]

/-- A goroutine that moves between phases in which it does not run changes nothing. -/
theorem runs_advance_iff (found : world.tunnels[id]? = some tunnel) {phase : Phase}
    (before : ¬ condition tunnel.phase) (after : ¬ condition phase) :
    (world.advance id phase).Runs uid condition ↔ world.Runs uid condition := by
  simp [runs_advance found, runs_iff found, before, after]

/-- A goroutine of another device that moves changes nothing. -/
theorem runs_advance_other (found : world.tunnels[id]? = some tunnel) {phase : Phase}
    (other : tunnel.uid ≠ uid) :
    (world.advance id phase).Runs uid condition ↔ world.Runs uid condition := by
  simp [runs_advance found, runs_iff found, other]

end Phases

/-! ## The invariant -/

/-- Registered goroutines are in the manager. If the device is online its column is clear or is
going to be, and otherwise it is stamped for good or is going to be. -/
structure Follows (uid : String) (world : World) : Prop where
  registered : ∀ id tunnel, world.tunnels[id]? = some tunnel → tunnel.phase.Registered →
    (tunnel.uid, id) ∈ world.connections
  online : world.Online uid → (world.rows uid).disconnectedAt = none ∨ world.Pending uid
  offline : ¬ world.Online uid →
    world.Closing uid ∨ ((world.rows uid).disconnectedAt.isSome ∧ ¬ world.Pending uid)

section Steps

variable {uid : String} {world : World} {id : Nat} {tunnel : Tunnel}

/-- A beat of another device. -/
theorem queued_submit_other {other : String} (differs : other ≠ uid) (now : Nat) :
    (world.submit other now).Queued uid ↔ world.Queued uid := by
  unfold World.submit
  split
  · rfl
  split
  · simp [World.Queued, differs]
  · rfl

/-- A submitted beat changes the queue only. -/
theorem submit_fields (world : World) (other : String) (now : Nat) :
    (world.submit other now).connections = world.connections ∧
      (world.submit other now).tunnels = world.tunnels ∧
      (world.submit other now).rows = world.rows := by
  unfold World.submit
  split
  · exact ⟨rfl, rfl, rfl⟩
  split <;> exact ⟨rfl, rfl, rfl⟩

/-- Who is online after a connection was deleted. -/
theorem online_delete {connections : List (String × Nat)} {owner : String} :
    (∃ connection ∈ (delete connections owner id).1, connection.1 = owner) ↔
      (delete connections owner id).2 ≠ 0 := by
  unfold delete
  dsimp only
  rw [Ne, List.length_eq_zero_iff, List.filter_eq_nil_iff]
  push Not
  simp

/-- The other connections remain. -/
theorem mem_delete {connections : List (String × Nat)} {owner : String} {connection : String × Nat}
    (member : connection ∈ connections) (differs : connection ≠ (owner, id)) :
    connection ∈ (delete connections owner id).1 :=
  List.mem_filter.mpr ⟨member, decide_eq_true differs⟩

variable (follows : Follows uid world)

include follows

/-- A registered goroutine makes its device online. -/
theorem Follows.isOnline (found : world.tunnels[id]? = some tunnel)
    (registered : tunnel.phase.Registered) : world.Online tunnel.uid :=
  ⟨_, follows.registered id tunnel found registered, rfl⟩

/-- A goroutine that stays in the manager. -/
theorem registered_advance {phase : Phase} (found : world.tunnels[id]? = some tunnel)
    (stays : phase.Registered → tunnel.phase.Registered) :
    ∀ index other, (world.advance id phase).tunnels[index]? = some other →
      other.phase.Registered → (other.uid, index) ∈ world.connections := by
  intro index other present registered
  rw [advance_tunnels found] at present
  split at present
  · rename_i same
    cases present
    exact same ▸ follows.registered id tunnel found (stays registered)
  · exact follows.registered index other present registered

/-- What matters for the device is as before. -/
theorem Follows.transfer {later : World}
    (registered : ∀ id tunnel, later.tunnels[id]? = some tunnel → tunnel.phase.Registered →
      (tunnel.uid, id) ∈ later.connections)
    (online : later.Online uid ↔ world.Online uid) (rows : later.rows uid = world.rows uid)
    (pending : later.Pending uid ↔ world.Pending uid)
    (closing : later.Closing uid ↔ world.Closing uid) : Follows uid later := by
  refine ⟨registered, ?_, ?_⟩
  · rw [online, rows, pending]
    exact follows.online
  · rw [online, rows, pending, closing]
    exact follows.offline

/-- A new connection makes its device online, with a first beat to come. -/
theorem register_follows (newcomer : String) :
    Follows uid (world.next (.register newcomer)) := by
  have still {condition : Phase → Prop} (before : world.Runs uid condition) :
      (world.next (.register newcomer)).Runs uid condition := by
    obtain ⟨tunnel, member, rest⟩ := before
    exact ⟨tunnel, List.mem_append_left _ member, rest⟩
  refine ⟨?_, ?_, ?_⟩
  · intro index other present registered
    rw [World.next, List.getElem?_append] at present
    split at present
    · exact List.mem_append_left _ (follows.registered index other present registered)
    · rename_i beyond
      rw [List.getElem?_singleton] at present
      split at present
      · rename_i here
        have same : index = world.tunnels.length := by omega
        cases present
        rw [same]
        exact List.mem_append_right _ List.mem_cons_self
      · cases present
  · rintro ⟨connection, member, same⟩
    rcases List.mem_append.mp member with old | new
    · rcases follows.online ⟨connection, old, same⟩ with clear | queued | beating
      · exact .inl clear
      · exact .inr (.inl queued)
      · exact .inr (.inr (still beating))
    · rw [List.mem_singleton.mp new] at same
      exact .inr (.inr ⟨_, List.mem_append_right _ List.mem_cons_self, same, .inl rfl⟩)
  · intro offline
    have before : ¬ world.Online uid := by
      rintro ⟨connection, member, same⟩
      exact offline ⟨connection, List.mem_append_left _ member, same⟩
    have other : newcomer ≠ uid := fun same =>
      offline ⟨_, List.mem_append_right _ List.mem_cons_self, same⟩
    rcases follows.offline before with closing | ⟨stamped, idle⟩
    · exact .inl (still closing)
    · refine .inr ⟨stamped, ?_⟩
      rintro (queued | beating)
      · exact idle (.inl queued)
      · obtain ⟨tunnel, member, same, holds⟩ := beating
        rcases List.mem_append.mp member with old | new
        · exact idle (.inr ⟨tunnel, old, same, holds⟩)
        · rw [List.mem_singleton.mp new] at same
          exact other same

/-- A beat is submitted: it is queued, and the goroutine waits. -/
theorem beat_follows (named : uid ≠ "") (now : Nat)
    (kept : Careful uid world (.beat id now)) : Follows uid (world.next (.beat id now)) := by
  unfold World.next
  dsimp only
  split
  case h_2 => exact follows
  rename_i tunnel found
  split
  case isFalse => exact follows
  rename_i beating
  obtain ⟨connections, tunnels, rows⟩ := submit_fields world tunnel.uid now
  have present : (world.submit tunnel.uid now).tunnels[id]? = some tunnel := by rw [tunnels, found]
  have registered := beating.registered
  have submitted : Follows uid (world.submit tunnel.uid now) ∧
      (tunnel.uid = uid → (world.submit tunnel.uid now).Queued uid) := by
    by_cases mine : tunnel.uid = uid
    · have room := kept tunnel found mine beating
      have queued : (world.submit tunnel.uid now).Queued uid := by
        unfold World.submit
        rw [if_neg (mine ▸ named), if_pos room]
        exact .inl ⟨_, List.mem_append_right _ List.mem_cons_self, mine⟩
      have online : (world.submit tunnel.uid now).Online uid := by
        have here := follows.isOnline found registered
        rw [mine] at here
        rwa [World.Online, connections]
      refine ⟨⟨?_, fun _ => .inr (.inl queued), fun offline => absurd online offline⟩,
        fun _ => queued⟩
      rw [connections, tunnels]
      exact follows.registered
    · refine ⟨follows.transfer ?_ ?_ ?_ ?_ ?_, fun same => absurd same mine⟩
      · rw [connections, tunnels]
        exact follows.registered
      · rw [World.Online, World.Online, connections]
      · rw [rows]
      · rw [World.Pending, World.Pending, queued_submit_other mine, World.Runs, World.Runs, tunnels]
      · rw [World.Closing, World.Closing, World.Runs, World.Runs, tunnels]
  obtain ⟨between, queued⟩ := submitted
  refine between.transfer ?_ Iff.rfl rfl ?_ ?_
  · exact registered_advance between present fun _ => registered
  · -- the beat of the goroutine is in the queue now
    rw [World.Pending, World.Pending, runs_advance present, runs_iff present]
    refine ⟨Or.imp_right (Or.imp_left fun waits => absurd waits.2 (by decide)), ?_⟩
    rintro (queue | mine | others)
    · exact .inl queue
    · exact .inl (queued mine.1)
    · exact .inr (.inr others)
  · exact runs_advance_iff present registered.1 (by decide)

/-- A pong brings a further beat, of a device that is online. -/
theorem pong_follows : Follows uid (world.next (.pong id)) := by
  unfold World.next
  dsimp only
  split
  case h_2 => exact follows
  rename_i owner found
  have closing : (world.advance id .ponged).Closing uid ↔ world.Closing uid :=
    runs_advance_iff found (by rintro ⟨⟩) (by decide)
  have waits : Phase.waiting.Registered := ⟨by decide, by decide⟩
  refine ⟨registered_advance follows found fun _ => waits, fun online => ?_, fun offline => ?_⟩
  · refine (follows.online online).imp_right (Or.imp_right fun beating => ?_)
    rw [runs_iff found] at beating
    exact (runs_advance found).mpr (beating.imp_left fun mine => ⟨mine.1, .inr rfl⟩)
  · have other : owner ≠ uid := by
      rintro rfl
      exact offline (follows.isOnline found waits)
    rw [closing, World.Pending, runs_advance_other found other]
    exact follows.offline offline

/-- The end of a connection leaves it in the manager. -/
theorem close_follows : Follows uid (world.next (.close id)) := by
  unfold World.next
  dsimp only
  split
  case h_2 => exact follows
  rename_i owner found
  have waits : Phase.waiting.Registered := ⟨by decide, by decide⟩
  refine follows.transfer (registered_advance follows found fun _ => waits) Iff.rfl rfl ?_ ?_
  · exact or_congr Iff.rfl (runs_advance_iff found (by rintro (⟨⟨⟩⟩ | ⟨⟨⟩⟩)) (by decide))
  · exact runs_advance_iff found (by rintro ⟨⟩) (by decide)

/-- A connection is deleted. The last one of a device makes it offline, with the stamp to come. -/
theorem delete_follows : Follows uid (world.next (.delete id)) := by
  unfold World.next
  dsimp only
  split
  case h_2 => exact follows
  rename_i owner found
  generalize result : delete world.connections owner id = deleted
  obtain ⟨connections, remaining⟩ := deleted
  dsimp only
  let between : World := { world with connections }
  have present : between.tunnels[id]? = some ⟨owner, .ended⟩ := found
  -- The goroutine of the connection is no longer registered, and the others still are.
  have registered (phase : Phase) (leaves : ¬ phase.Registered) : ∀ index tunnel,
      (between.advance id phase).tunnels[index]? = some tunnel → tunnel.phase.Registered →
        (tunnel.uid, index) ∈ connections := by
    intro index tunnel moved stays
    rw [advance_tunnels present] at moved
    split at moved
    · cases moved
      exact absurd stays leaves
    · rename_i other
      have member := follows.registered index tunnel moved stays
      have kept := @mem_delete id _ owner _ member (fun same => other (Prod.mk.inj same).2.symm)
      rwa [result] at kept
  have idle (phase : Phase) (quiet : ¬ phase.Beating) :
      (between.advance id phase).Pending uid ↔ world.Pending uid :=
    or_congr Iff.rfl (runs_advance_iff present (by rintro (⟨⟨⟩⟩ | ⟨⟨⟩⟩)) quiet)
  by_cases mine : owner = uid
  · subst mine
    have counted := @online_delete id world.connections owner
    rw [result] at counted
    have before : world.Online owner := follows.isOnline found ⟨by rintro ⟨⟩, by rintro ⟨⟩⟩
    split
    · rename_i none
      refine ⟨registered .last (by rintro ⟨differs, -⟩; exact differs rfl), fun online => ?_, ?_⟩
      · exact absurd none (counted.mp online)
      · exact fun _ => .inl ((runs_advance present).mpr (.inl ⟨rfl, rfl⟩))
    · rename_i some
      refine ⟨registered .gone (by rintro ⟨-, differs⟩; exact differs rfl), fun _ => ?_, ?_⟩
      · rw [idle .gone (by decide)]
        exact follows.online before
      · exact fun offline => absurd (counted.mpr some) offline
  · have leaves : ¬ (if remaining = 0 then Phase.last else .gone).Registered := by
      split
      · exact fun registered => registered.1 rfl
      · exact fun registered => registered.2 rfl
    have quiet : ¬ (if remaining = 0 then Phase.last else .gone).Beating := by
      split <;> decide
    refine follows.transfer (registered _ leaves) ?_ rfl (idle _ quiet) ?_
    · constructor
      · rintro ⟨connection, member, same⟩
        have inside : connection ∈ (delete world.connections owner id).1 := by rwa [result]
        exact ⟨connection, (List.mem_filter.mp inside).1, same⟩
      · rintro ⟨connection, member, same⟩
        have kept := @mem_delete id _ owner _ member fun equal => mine (by rw [← same, equal])
        rw [result] at kept
        exact ⟨connection, kept, same⟩
    · exact runs_advance_other present mine

/-- The stamp of the row. -/
theorem offline_follows (now : Nat) (careful : Careful uid world (.offline id now)) :
    Follows uid (world.next (.offline id now)) := by
  unfold World.next
  dsimp only
  split
  case h_2 => exact follows
  rename_i owner found
  let between : World := { world with rows := deviceOffline world.rows owner now }
  have present : between.tunnels[id]? = some ⟨owner, .last⟩ := found
  have registered := registered_advance follows found
    fun stays : Phase.gone.Registered => absurd rfl stays.2
  have pending : (between.advance id .gone).Pending uid ↔ world.Pending uid :=
    or_congr Iff.rfl (runs_advance_iff present (by rintro (⟨⟨⟩⟩ | ⟨⟨⟩⟩)) (by decide))
  by_cases mine : owner = uid
  · subst mine
    have both := careful _ found rfl rfl
    refine ⟨registered, fun online => ?_, fun offline => ?_⟩
    · exact .inr (pending.mpr (both.mp online))
    · refine .inr ⟨?_, fun beating => offline (both.mpr (pending.mp beating))⟩
      simp [World.advance, deviceOffline]
  · exact follows.transfer registered Iff.rfl (if_neg (Ne.symm mine)) pending
      (runs_advance_other present mine)

/-- The heartbeater moves beats on. -/
theorem flush_follows (free : world.writing = none) :
    Follows uid world.flush := by
  unfold World.flush
  split
  · exact follows
  · refine follows.transfer follows.registered Iff.rfl rfl ?_ Iff.rfl
    refine or_congr ?_ Iff.rfl
    simp [World.Queued, Batch.empty, free]

/-- A beat goes from the queue to the batch. -/
theorem read_follows : Follows uid (world.next .read) := by
  unfold World.next
  dsimp only
  split
  case h_2 => exact follows
  rename_i beat rest free queue
  have moved : Follows uid { world with queue := rest, batch := world.batch.add beat } := by
    refine follows.transfer follows.registered Iff.rfl rfl ?_ Iff.rfl
    refine or_congr ?_ Iff.rfl
    simp only [World.Queued, free, queue, Batch.add]
    split <;> simp <;> grind
  split
  · exact flush_follows moved free
  · exact moved

/-- The ticker flushes the batch unless a statement is under way. -/
theorem tick_follows : Follows uid (world.next .tick) := by
  unfold World.next
  dsimp only
  split
  · rename_i free
    exact flush_follows follows free
  · exact follows

/-- The statement of the heartbeater. -/
theorem write_follows : Follows uid (world.next .write) := by
  unfold World.next
  dsimp only
  split
  case h_2 => exact follows
  rename_i uids seenAt writing
  by_cases mine : uid ∈ uids
  · have pending : world.Pending uid := .inl (.inr (.inr ⟨_, writing, mine⟩))
    refine ⟨follows.registered, fun _ => .inl ?_, fun offline => .inl ?_⟩
    · exact congrArg Row.disconnectedAt (if_pos mine)
    · rcases follows.offline offline with closing | ⟨_, idle⟩
      · exact closing
      · exact absurd pending idle
  · refine follows.transfer follows.registered Iff.rfl (if_neg mine) ?_ Iff.rfl
    refine or_congr ?_ Iff.rfl
    simp [World.Queued, writing, mine]

/-- Every step that meets the condition keeps the invariant. -/
theorem next_follows (named : uid ≠ "") (event : Event)
    (careful : Careful uid world event) : Follows uid (world.next event) := by
  cases event with
  | register newcomer => exact register_follows follows newcomer
  | beat id now => exact beat_follows follows named now careful
  | pong id => exact pong_follows follows
  | close id => exact close_follows follows
  | delete id => exact delete_follows follows
  | offline id now => exact offline_follows follows now careful
  | read => exact read_follows follows
  | tick => exact tick_follows follows
  | write => exact write_follows follows

end Steps

/-- In every run that meets the condition the column of a device is clear exactly while a connection
of it is registered, whenever none of its beats and none of its callbacks is on the way. Each step keeps
what the column has to become: a row that is not yet right has a beat or a stamp on its way. -/
theorem presence_follows_tunnels (uid : String) (named : uid ≠ "") (rows : String → Row)
    (offline : (rows uid).disconnectedAt.isSome) (events : List Event)
    (careful : Along World.next (Careful uid) (.start rows) events) :
    ∀ world ∈ visited World.next (.start rows) events,
      ¬ world.Pending uid → ¬ world.Closing uid →
        ((world.rows uid).disconnectedAt = none ↔ world.Online uid) := by
  intro world member idle open_
  have begins : Follows uid (.start rows) := by
    refine ⟨by rintro _ _ ⟨⟩, by rintro ⟨_, ⟨⟩, _⟩, fun _ => .inr ⟨offline, ?_⟩⟩
    rintro ((⟨_, ⟨⟩, _⟩ | ⟨⟨⟩⟩ | ⟨_, ⟨⟩, _⟩) | ⟨_, ⟨⟩, _⟩)
  have kept (world : World) (event : Event) (follows : Follows uid world) :
      Careful uid world event → Follows uid (world.next event) := next_follows follows named event
  have follows := visited_keeps kept begins careful world member
  constructor
  · intro clear
    by_contra gone
    rcases follows.offline gone with closing | ⟨stamped, _⟩
    · exact open_ closing
    · rw [clear] at stamped
      cases stamped
  · intro online
    rcases follows.online online with clear | pending
    · exact clear
    · exact absurd pending idle

/-- Every device is offline. -/
def nobody : String → Row := fun _ => ⟨0, some 0⟩

/-- A device connects, its beats are written, and it disconnects. -/
def visit : List Event :=
  [.register "pi", .beat 0 1, .read, .tick, .write, .pong 0, .beat 0 2, .read, .tick, .write,
    .close 0, .delete 0, .offline 0 3]

/-- The column follows a device that connects, is written online, and disconnects. -/
theorem presence_follows_visit :
    (∃ world ∈ visited World.next (.start nobody) visit, ¬ world.Pending "pi" ∧
      ¬ world.Closing "pi" ∧ world.Online "pi" ∧ (world.rows "pi").disconnectedAt = none) ∧
    ∀ world ∈ visited World.next (.start nobody) visit,
      ¬ world.Pending "pi" → ¬ world.Closing "pi" →
        ((world.rows "pi").disconnectedAt = none ↔ world.Online "pi") := by
  refine ⟨by decide +kernel, ?_⟩
  exact presence_follows_tunnels "pi" (by decide) nobody rfl visit (by decide +kernel)

/-- The last connection ends before its first beat was written. -/
def shortVisit : List Event :=
  [.register "pi", .beat 0 1, .close 0, .delete 0, .offline 0 2, .read, .tick, .write]

/-- The device registers again between the end of its last connection and the stamp. -/
def quickReturn : List Event :=
  [.register "pi", .beat 0 1, .read, .tick, .write, .close 0, .delete 0, .register "pi", .beat 1 2,
    .read, .tick, .write, .offline 0 3]

/-- Nothing waits for the heartbeater, and no callback runs. -/
def World.Quiet (world : World) : Prop :=
  world.queue = [] ∧ world.batch.uids = [] ∧ world.writing = none ∧
    ∀ tunnel ∈ world.tunnels, tunnel.phase = .waiting ∨ tunnel.phase = .gone

instance (world : World) : Decidable world.Quiet := by
  unfold World.Quiet
  infer_instance

/-- A device that is gone stays online, and one that is connected is offline. -/
theorem presence_against_tunnels :
    (∃ world ∈ visited World.next (.start nobody) shortVisit, world.Quiet ∧
      (world.rows "pi").disconnectedAt = none ∧ ¬ world.Online "pi") ∧
    ∃ world ∈ visited World.next (.start nobody) quickReturn, world.Quiet ∧
      (world.rows "pi").disconnectedAt = some 3 ∧ world.Online "pi" := by
  decide +kernel

end ShellHub.Presence
