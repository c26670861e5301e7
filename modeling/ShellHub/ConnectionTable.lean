import Mathlib.Data.List.Count
import Mathlib.Logic.Function.Basic
import ShellHub.Sequences
import ShellHub.Tables

/-!
# The table of connections

The manager keeps the connections of each device in the order of their registration. A registration
appends its connection and closes, in a goroutine of its own, those it has found there. A goroutine
of each connection deletes it when it has ended, and if it was the last of its key it calls the done
callback. A dial takes the newest connection.

Every operation on the table is atomic and says what it has seen: `Store` hands out a copy of the
connections that were there, so that later deletions in place do not change what an evictor closes,
and `Delete` the number of those that remain. The log of the operations says which connections are
live, and the table is exactly that.
-/

namespace ShellHub.ConnectionTable

open Sequences

/-! ## The map of slices -/

section SyncSliceMap

variable {κ β : Type}

/-- `SyncSliceMap`. A key that is absent is not the same as one without values. -/
structure SyncSliceMap (κ β : Type) where
  values : κ → Option (List β)

def SyncSliceMap.empty : SyncSliceMap κ β := ⟨fun _ => none⟩

def SyncSliceMap.slice (map : SyncSliceMap κ β) (key : κ) : List β := (map.values key).getD []

/-- The newest value. -/
def SyncSliceMap.load (map : SyncSliceMap κ β) (key : κ) : Option β := (map.slice key).getLast?

/-- The map holds some values under each key, and no key without values. -/
def SyncSliceMap.Holds (map : SyncSliceMap κ β) (live : κ → List β) : Prop :=
  ∀ key, map.values key = if live key = [] then none else some (live key)

theorem SyncSliceMap.Holds.slice {map : SyncSliceMap κ β} {live : κ → List β}
    (holds : map.Holds live) (key : κ) : map.slice key = live key := by
  unfold SyncSliceMap.slice
  rw [holds key]
  split
  · rename_i none
    rw [none]
    rfl
  · rfl

variable [DecidableEq κ] [DecidableEq β]

/-- `Store` returns a clone of the values that were there. -/
def SyncSliceMap.store (map : SyncSliceMap κ β) (key : κ) (value : β) :
    SyncSliceMap κ β × List β :=
  (⟨Function.update map.values key (some (map.slice key ++ [value]))⟩, map.slice key)

/-- `Delete` returns how many values remain, and drops a key without values. -/
def SyncSliceMap.delete (map : SyncSliceMap κ β) (key : κ) (value : β) : SyncSliceMap κ β × Nat :=
  let remaining := (map.slice key).filter (· ≠ value)
  if remaining = [] then (⟨Function.update map.values key none⟩, 0)
  else (⟨Function.update map.values key (some remaining)⟩, remaining.length)

variable {map : SyncSliceMap κ β} {live : κ → List β}

omit [DecidableEq β] in
theorem SyncSliceMap.Holds.store (holds : map.Holds live) (key : κ) (value : β) :
    (map.store key value).1.Holds (Function.update live key (live key ++ [value])) := by
  intro other
  unfold SyncSliceMap.store
  dsimp only
  by_cases same : other = key
  · subst same
    rw [Function.update_self, Function.update_self, holds.slice, if_neg (by simp)]
  · rw [Function.update_of_ne same, Function.update_of_ne same]
    exact holds other

theorem SyncSliceMap.Holds.delete (holds : map.Holds live) (key : κ) (value : β) :
    (map.delete key value).1.Holds
      (Function.update live key ((live key).filter (· ≠ value))) := by
  intro other
  unfold SyncSliceMap.delete
  rw [holds.slice]
  dsimp only
  by_cases same : other = key
  · subst same
    rw [Function.update_self]
    split
    · exact Function.update_self ..
    · exact Function.update_self ..
  · rw [Function.update_of_ne same, ← holds other]
    split
    · exact Function.update_of_ne same ..
    · exact Function.update_of_ne same ..

/-- What `Delete` returns is zero exactly if no value remains. -/
theorem SyncSliceMap.Holds.delete_count (holds : map.Holds live) (key : κ) (value : β) :
    (map.delete key value).2 = 0 ↔ (live key).filter (· ≠ value) = [] := by
  unfold SyncSliceMap.delete
  rw [holds.slice]
  dsimp only
  split
  · rename_i none
    simp only [none]
  · rename_i some
    simp only [List.length_eq_zero_iff, some]

end SyncSliceMap

/-! ## The manager -/

/-- Where the goroutine of a connection is. -/
inductive Phase where
  | waiting
  /-- a yamux session is being pinged -/
  | pinging
  /-- it has left its loop, and deletes the connection -/
  | deleting
  /-- the connection was the last of its key, and the done callback comes next -/
  | last
  | gone
  deriving DecidableEq, Repr

/-- A revdial dialer or a yamux session, and whether it is closed or being closed. -/
structure Tunnel where
  key : String
  session : Bool
  closed : Bool
  phase : Phase
  deriving DecidableEq, Repr

/-- The goroutine is going to call the done callback of a key. -/
abbrev Tunnel.Last (tunnel : Tunnel) (key : String) : Prop :=
  tunnel.key = key ∧ tunnel.phase = .last

/-- The goroutine has not deleted the connection. -/
def Tunnel.Registered (tunnel : Tunnel) : Prop := tunnel.phase ≠ .last ∧ tunnel.phase ≠ .gone

/-- The goroutine of a registration that closes what it has displaced. -/
structure Evictor where
  registration : Nat
  closed : List Nat
  pending : List Nat
  deriving DecidableEq, Repr

/-- What an evictor closes or has closed, with its registration. -/
def Evictor.found (evictor : Evictor) : Nat × List Nat :=
  (evictor.registration, evictor.closed ++ evictor.pending)

/-- The operations that have changed the table. -/
inductive Entry where
  | stored (key : String) (id : Nat)
  | deleted (key : String) (id : Nat)
  deriving DecidableEq, Repr

/-- The manager, its goroutines, the keys for which the done callback has run, and the log of the
table with the newest operation first. -/
structure World where
  table : SyncSliceMap String Nat
  tunnels : List Tunnel
  evictors : List Evictor
  callbacks : List String
  log : List Entry

def World.new : World := ⟨.empty, [], [], [], []⟩

/-- `NewKey`. -/
def newKey (tenant uid : String) : String := tenant ++ ":" ++ uid

/-- What happens: a registration, the end of a connection for any reason of its own, the closing of
the next displaced connection, or a step of a connection's goroutine. -/
inductive Event where
  | set (key : String)
  | bind (tenant uid : String) (created : Bool)
  | close (id : Nat)
  | evict (index : Nat)
  /-- the done channel of a dialer or the close channel of a session is ready -/
  | noticed (id : Nat)
  /-- the ping interval has passed -/
  | ping (id : Nat)
  | pinged (id : Nat) (ok : Bool)
  | delete (id : Nat)
  | done (id : Nat)
  deriving DecidableEq, Repr

namespace World

def advance (world : World) (id : Nat) (tunnel : Tunnel) : World :=
  { world with tunnels := world.tunnels.set id tunnel }

def change (world : World) (id : Nat) (update : Tunnel → Tunnel) : World :=
  match world.tunnels[id]? with
  | some tunnel => world.advance id (update tunnel)
  | none => world

/-- `Store` and `evict`. -/
def register (world : World) (key : String) (session : Bool) : World :=
  let id := world.tunnels.length
  let (table, displaced) := world.table.store key id
  { world with
    table
    tunnels := world.tunnels ++ [⟨key, session, false, .waiting⟩]
    evictors := if displaced = [] then world.evictors else world.evictors ++ [⟨id, [], displaced⟩]
    log := .stored key id :: world.log }

def next (world : World) : Event → World
  | .set key => world.register key false
  | .bind tenant uid created => if created then world.register (newKey tenant uid) true else world
  | .close id => world.change id fun tunnel => { tunnel with closed := true }
  | .evict index =>
    match world.evictors[index]? with
    | some ⟨registration, closed, id :: pending⟩ =>
      { world with
        evictors := world.evictors.set index ⟨registration, closed ++ [id], pending⟩ }.change id
          fun tunnel => { tunnel with closed := true }
    | _ => world
  | .noticed id =>
    world.change id fun tunnel =>
      if tunnel.phase = .waiting ∧ tunnel.closed = true then { tunnel with phase := .deleting }
      else tunnel
  | .ping id =>
    world.change id fun tunnel =>
      if tunnel.phase = .waiting ∧ tunnel.session = true then { tunnel with phase := .pinging }
      else tunnel
  | .pinged id ok =>
    world.change id fun tunnel =>
      if tunnel.phase = .pinging then { tunnel with phase := if ok then .waiting else .deleting }
      else tunnel
  | .delete id =>
    match world.tunnels[id]? with
    | some ⟨key, session, closed, .deleting⟩ =>
      let (table, remaining) := world.table.delete key id
      { world with table, log := .deleted key id :: world.log }.advance id
        ⟨key, session, closed, if remaining = 0 then .last else .gone⟩
    | _ => world
  | .done id =>
    match world.tunnels[id]? with
    | some ⟨key, session, closed, .last⟩ =>
      { world with callbacks := world.callbacks ++ [key] }.advance id ⟨key, session, closed, .gone⟩
    | _ => world

end World

/-! ## What the log says -/

/-- The connection that an operation has registered under a key. -/
def Entry.storedUnder (key : String) : Entry → Option Nat
  | .stored other id => if other = key then some id else none
  | .deleted _ _ => none

/-- The connections of a key in the order of their registration, without those that were deleted. -/
def live (key : String) (log : List Entry) : List Nat :=
  (log.reverse.filterMap (Entry.storedUnder key)).filter (.deleted key · ∉ log)

/-- What each registration has found in the table: the connections that it closes. -/
def evictions : List Entry → List (Nat × List Nat)
  | [] => []
  | .stored key id :: older =>
    evictions older ++ if live key older = [] then [] else [(id, live key older)]
  | .deleted _ _ :: older => evictions older

/-- How often a key has lost its last connection. -/
def endings (key : String) : List Entry → Nat
  | [] => 0
  | entry :: older =>
    (if live key older ≠ [] ∧ live key (entry :: older) = [] then 1 else 0) + endings key older

section Logs

variable {key : String} {id : Nat} {log : List Entry}

/-- A new connection is the newest of its key. -/
theorem live_stored (fresh : ∀ other, Entry.deleted other id ∉ log) (other : String) :
    live other (.stored key id :: log) =
      Function.update (live · log) key (live key log ++ [id]) other := by
  have same (others : List Nat) : others.filter (.deleted other · ∉ Entry.stored key id :: log) =
      others.filter (.deleted other · ∉ log) := by
    refine List.filter_congr fun candidate _ => ?_
    simp
  unfold live
  by_cases equal : other = key
  · subst equal
    simp [Entry.storedUnder, fresh other]
  · rw [Function.update_of_ne equal]
    simp [Entry.storedUnder, Ne.symm equal]

/-- A deleted connection is no longer live. -/
theorem live_deleted (other : String) :
    live other (.deleted key id :: log) =
      Function.update (live · log) key ((live key log).filter (· ≠ id)) other := by
  unfold live
  rw [List.reverse_cons, List.filterMap_append]
  by_cases equal : other = key
  · subst equal
    rw [Function.update_self, List.filter_filter]
    simp only [Entry.storedUnder, List.filterMap_cons, List.filterMap_nil, List.append_nil]
    refine List.filter_congr fun candidate _ => ?_
    simp
  · rw [Function.update_of_ne equal]
    simp only [Entry.storedUnder, List.filterMap_cons, List.filterMap_nil, List.append_nil]
    refine List.filter_congr fun candidate _ => ?_
    simp [equal]

end Logs

/-! ## The table is exact -/

/-- The goroutines of a key that are going to call the done callback. -/
def World.closing (world : World) (key : String) : Nat := world.tunnels.countP (·.Last key)

/-- The table holds the live connections, evictors close what their registrations have found,
callbacks are called once for each end, connections that were not deleted are live, and the log
knows only goroutines that exist. -/
structure Exact (world : World) : Prop where
  holds : world.table.Holds (live · world.log)
  evicted : world.evictors.map Evictor.found = evictions world.log
  called : ∀ key, world.callbacks.count key + world.closing key = endings key world.log
  registered : ∀ id tunnel, world.tunnels[id]? = some tunnel → tunnel.Registered →
    id ∈ live tunnel.key world.log
  known : ∀ key id, .deleted key id ∈ world.log → id < world.tunnels.length

section Steps

variable {world : World}

theorem closing_advance {id : Nat} {tunnel : Tunnel} (found : world.tunnels[id]? = some tunnel)
    (next : Tunnel) (key : String) :
    (world.advance id next).closing key + (if tunnel.Last key then 1 else 0) =
      world.closing key + if next.Last key then 1 else 0 := by
  simpa [World.closing, World.advance] using Tables.countP_replaced found (·.Last key) next

/-- A key without connections has lost none. -/
theorem endings_cons (key : String) (entry : Entry) (log : List Entry)
    (same : live key log = [] ∨ live key (entry :: log) ≠ []) :
    endings key (entry :: log) = endings key log := by
  rw [endings, if_neg, Nat.zero_add]
  rintro ⟨before, after⟩
  rcases same with none | some
  · exact before none
  · exact some after

section Invariant

variable (exact : Exact world)

include exact

/-- A connection whose goroutine has made a step is registered where it was before. -/
theorem Exact.registered_advance {id : Nat} {before after : Tunnel}
    (found : world.tunnels[id]? = some before) (sameKey : after.key = before.key)
    (still : after.Registered → before.Registered) (other : Nat) (tunnel : Tunnel)
    (there : (world.advance id after).tunnels[other]? = some tunnel)
    (registered : tunnel.Registered) : other ∈ live tunnel.key world.log := by
  unfold World.advance at there
  rw [List.getElem?_set] at there
  split at there
  · rename_i same
    subst same
    split at there
    · cases there
      rw [sameKey]
      exact exact.registered id before found (still registered)
    · cases there
  · exact exact.registered other tunnel there registered

theorem Exact.known_advance (id : Nat) (after : Tunnel) (key : String) (other : Nat)
    (logged : .deleted key other ∈ world.log) :
    other < (world.advance id after).tunnels.length := by
  unfold World.advance
  dsimp only
  rw [List.length_set]
  exact exact.known key other logged

/-- A step of a goroutine that neither changes the table nor decides about a callback. -/
theorem Exact.change (id : Nat) {update : Tunnel → Tunnel}
    (sameKey : ∀ tunnel, (update tunnel).key = tunnel.key)
    (sameLast : ∀ tunnel, (update tunnel).phase = .last ↔ tunnel.phase = .last)
    (still : ∀ tunnel, (update tunnel).Registered → tunnel.Registered) :
    Exact (world.change id update) := by
  unfold World.change
  split
  · rename_i tunnel found
    refine ⟨exact.holds, exact.evicted, fun key => ?_,
      exact.registered_advance found (sameKey tunnel) (still tunnel), fun key =>
      exact.known_advance id _ key⟩
    have count := closing_advance found (update tunnel) key
    simp only [Tunnel.Last, sameKey tunnel, sameLast tunnel] at count
    rw [Nat.add_right_cancel count]
    exact exact.called key
  · exact exact

theorem Exact.close (id : Nat) :
    Exact (world.change id fun tunnel => { tunnel with closed := true }) :=
  exact.change id (fun _ => rfl) (fun _ => Iff.rfl) fun _ registered => registered

theorem Exact.fresh (other : String) :
    Entry.deleted other world.tunnels.length ∉ world.log := fun inside =>
  Nat.lt_irrefl _ (exact.known other _ inside)

theorem Exact.register (key : String) (session : Bool) :
    Exact (world.register key session) where
  holds := by
    have stored := exact.holds.store key world.tunnels.length
    have same : (live · (.stored key world.tunnels.length :: world.log)) =
        Function.update (live · world.log) key (live key world.log ++ [world.tunnels.length]) :=
      funext (live_stored exact.fresh)
    change SyncSliceMap.Holds _ (live · (.stored key world.tunnels.length :: world.log))
    rw [same]
    exact stored
  evicted := by
    have displaced : (world.table.store key world.tunnels.length).2 = live key world.log :=
      exact.holds.slice key
    have before := exact.evicted
    dsimp only [World.register, evictions]
    rw [displaced, ← before]
    split
    · rw [List.append_nil]
    · rw [List.map_append]
      rfl
  called other := by
    have grown : live other world.log = [] ∨
        live other (.stored key world.tunnels.length :: world.log) ≠ [] := by
      rw [live_stored exact.fresh]
      by_cases same : other = key
      · subst same
        rw [Function.update_self]
        exact .inr (List.append_ne_nil_of_right_ne_nil _ (List.cons_ne_nil _ _))
      · rw [Function.update_of_ne same]
        exact Classical.em _
    have waiting : (world.register key session).closing other = world.closing other := by
      dsimp only [World.register, World.closing]
      simp [Tunnel.Last]
    rw [waiting]
    change world.callbacks.count other + _ = endings other (_ :: world.log)
    rw [endings_cons other _ world.log grown]
    exact exact.called other
  registered := by
    intro id tunnel there phase
    change id ∈ live tunnel.key (.stored key world.tunnels.length :: world.log)
    rw [live_stored exact.fresh]
    change (world.tunnels ++ [⟨key, session, false, .waiting⟩])[id]? = some tunnel at there
    rcases Nat.lt_trichotomy id world.tunnels.length with old | new | outside
    · rw [List.getElem?_append_left old] at there
      have before := exact.registered id tunnel there phase
      by_cases same : tunnel.key = key
      · rw [same, Function.update_self]
        exact List.mem_append_left _ (same ▸ before)
      · rw [Function.update_of_ne same]
        exact before
    · subst new
      rw [List.getElem?_concat_length] at there
      cases there
      rw [Function.update_self]
      exact List.mem_append_right _ (List.mem_singleton_self _)
    · rw [List.getElem?_eq_none (by rw [List.length_append, List.length_singleton]; omega)] at there
      cases there
  known other id inside := by
    change id < (world.tunnels ++ [_]).length
    rw [List.length_append]
    rcases List.mem_cons.1 inside with ⟨⟨⟩⟩ | old
    exact Nat.lt_add_right _ (exact.known other id old)

/-- The connection that a goroutine deletes is in the table, so that the goroutine takes it for the
last exactly if no other remains. -/
theorem Exact.deletes {id : Nat} {key : String} {session closed : Bool} {after : Phase}
    (found : world.tunnels[id]? = some ⟨key, session, closed, .deleting⟩)
    (decided : after = .last ↔ (live key world.log).filter (· ≠ id) = [])
    (returns : after = .last ∨ after = .gone) :
    Exact ({ world with
      table := (world.table.delete key id).1
      log := .deleted key id :: world.log }.advance id ⟨key, session, closed, after⟩) where
  holds := by
    have same : (live · (.deleted key id :: world.log)) =
        Function.update (live · world.log) key ((live key world.log).filter (· ≠ id)) :=
      funext live_deleted
    change SyncSliceMap.Holds _ (live · (.deleted key id :: world.log))
    rw [same]
    exact exact.holds.delete key id
  evicted := exact.evicted
  called other := by
    have count := closing_advance found ⟨key, session, closed, after⟩ other
    have before := exact.called other
    have there : live key world.log ≠ [] :=
      List.ne_nil_of_mem (exact.registered id _ found ⟨nofun, nofun⟩)
    change world.callbacks.count other + (world.advance id ⟨key, session, closed, after⟩).closing
      other = endings other (.deleted key id :: world.log)
    rw [if_neg (by rintro ⟨_, ⟨⟩⟩)] at count
    rw [endings, live_deleted]
    by_cases own : key = other
    · subst own
      rw [Function.update_self]
      by_cases last : after = .last
      · rw [if_pos ⟨rfl, last⟩] at count
        rw [if_pos ⟨there, decided.1 last⟩]
        omega
      · rw [if_neg (fun both => last both.2)] at count
        rw [if_neg (fun both => last (decided.2 both.2))]
        omega
    · rw [if_neg (fun both => own both.1)] at count
      rw [Function.update_of_ne (Ne.symm own), if_neg (fun both => both.1 both.2)]
      omega
  registered := by
    intro other tunnel set registered
    change other ∈ live tunnel.key (.deleted key id :: world.log)
    unfold World.advance at set
    rw [List.getElem?_set] at set
    rw [live_deleted]
    split at set
    · split at set
      · cases set
        rcases returns with rfl | rfl
        · exact absurd rfl registered.1
        · exact absurd rfl registered.2
      · cases set
    · rename_i different
      have before := exact.registered other tunnel set registered
      by_cases own : tunnel.key = key
      · rw [own] at before ⊢
        rw [Function.update_self]
        exact List.mem_filter.2 ⟨before, decide_eq_true (Ne.symm different)⟩
      · rw [Function.update_of_ne own]
        exact before
  known other candidate logged := by
    rcases List.mem_cons.1 logged with ⟨⟨⟩⟩ | old
    · unfold World.advance
      dsimp only
      rw [List.length_set]
      exact (List.getElem?_eq_some_iff.1 found).1
    · exact exact.known_advance id _ other candidate old

/-- The done callback of a goroutine that has deleted the last connection of its key. -/
theorem Exact.calls {id : Nat} {key : String} {session closed : Bool}
    (found : world.tunnels[id]? = some ⟨key, session, closed, .last⟩) :
    Exact ({ world with callbacks := world.callbacks ++ [key] }.advance id
      ⟨key, session, closed, .gone⟩) where
  holds := exact.holds
  evicted := exact.evicted
  called other := by
    have count := closing_advance found ⟨key, session, closed, .gone⟩ other
    have before := exact.called other
    have callbacks : (world.callbacks ++ [key]).count other =
        world.callbacks.count other + if key = other then 1 else 0 := by
      rw [List.count_append, List.count_singleton]
      simp only [beq_iff_eq]
    change (world.callbacks ++ [key]).count other +
      (world.advance id ⟨key, session, closed, .gone⟩).closing other = endings other world.log
    simp only [Tunnel.Last, and_true, reduceCtorEq, and_false, if_false] at count
    omega
  registered := exact.registered_advance found rfl fun registered => absurd rfl registered.2
  known key := exact.known_advance id _ key

/-- An evictor closes the next connection of what its registration has found. -/
theorem Exact.evict (index : Nat) : Exact (world.next (.evict index)) := by
  dsimp only [World.next]
  split
  · rename_i registration closed id pending found
    apply Exact.close
    have listed : (evictions world.log)[index]? = some (registration, closed ++ id :: pending) := by
      rw [← exact.evicted, List.getElem?_map, found]
      rfl
    obtain ⟨inside, value⟩ := List.getElem?_eq_some_iff.1 listed
    refine { exact with evicted := ?_ }
    dsimp only
    rw [List.map_set, exact.evicted, Evictor.found, List.append_assoc, List.singleton_append,
      ← value]
    exact List.set_getElem_self inside
  · exact exact

theorem Exact.next (event : Event) : Exact (world.next event) := by
  cases event with
  | set key => exact exact.register key false
  | bind tenant uid created =>
    cases created with
    | true => exact exact.register _ true
    | false => exact exact
  | close id => exact exact.close id
  | evict index => exact exact.evict index
  | noticed id | ping id | pinged id ok =>
    -- the goroutine stays in its loop or leaves it, and has not deleted its connection
    refine exact.change id (fun tunnel => ?_) (fun tunnel => ?_) fun tunnel => ?_
    · split <;> rfl
    · split <;> grind
    · unfold Tunnel.Registered
      split <;> grind
  | delete id =>
    dsimp only [World.next]
    split
    · rename_i key session closed found
      have count := exact.holds.delete_count key id
      apply exact.deletes found
      · rw [← count]
        split
        · rename_i none
          exact iff_of_true rfl none
        · rename_i some
          exact iff_of_false (by rintro ⟨⟩) some
      · split
        · exact .inl rfl
        · exact .inr rfl
    · exact exact
  | done id =>
    dsimp only [World.next]
    split
    · rename_i found
      exact exact.calls found
    · exact exact

end Invariant

theorem exact_new : Exact .new := by
  constructor
  · exact fun _ => rfl
  · rfl
  · exact fun _ => rfl
  · rintro _ _ ⟨⟩
  · rintro _ _ ⟨⟩

end Steps

/-- The connection table is exact in every state of every interleaving. A dial finds the connection
of the key that was registered last and has not been deleted, and fails only without one. The
evictor of a registration has closed some and is going to close the others of exactly those
connections that were live when it was registered. No key stays without connections. The done
callback has run, or a goroutine is about to call it, once for each time the key has lost its last
connection. Each event keeps the table equal to the registrations that were not deleted, in their
order. -/
theorem connections_exact (events : List Event) :
    ∀ world ∈ visited World.next .new events,
      (∀ key, world.table.load key = (live key world.log).getLast?) ∧
      world.evictors.map Evictor.found = evictions world.log ∧
      (∀ key, world.table.values key ≠ some []) ∧
      ∀ key, world.callbacks.count key + world.closing key = endings key world.log := by
  intro world reached
  have exact : Exact world :=
    visited_always Exact (fun _ event exact => exact.next event) exact_new events world reached
  refine ⟨fun key => ?_, exact.evicted, fun key => ?_, exact.called⟩
  · exact congrArg List.getLast? (exact.holds.slice key)
  · rw [exact.holds key]
    split
    · rintro ⟨⟩
    · rename_i some
      intro none
      exact some (Option.some.inj none)

/-- A device registers again before its first connection has ended: the second registration closes
the first connection, a dial finds the second, and the callback runs when the second has ended. -/
def reconnection : List Event :=
  [.set "device", .set "device", .evict 0, .noticed 0, .delete 0, .close 1, .noticed 1, .delete 1,
    .done 1]

theorem connections_exact_for_reconnection :
    ∃ world ∈ visited World.next .new reconnection,
      world.log = [.deleted "device" 1, .deleted "device" 0, .stored "device" 1,
        .stored "device" 0] ∧
      evictions world.log = [(1, [0])] ∧ world.callbacks.count "device" = 1 ∧
      world.callbacks.count "device" + world.closing "device" = endings "device" world.log := by
  let final := reconnection.foldl World.next .new
  have reached : final ∈ visited World.next .new reconnection :=
    List.mem_of_getElem? (i := 9) rfl
  exact ⟨final, reached, by decide +kernel, by decide +kernel, by decide +kernel,
    (connections_exact reconnection final reached).2.2.2 "device"⟩

end ShellHub.ConnectionTable
