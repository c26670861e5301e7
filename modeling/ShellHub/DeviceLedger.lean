import Mathlib.Data.List.Sort
import ShellHub.Enrollment

/-!
# The ledger of a fleet

What the device counters are for can be said without the store: a ledger has the device rows, the
namespaces that exist, and for each namespace and status a debt, the amount by which the counter
is ahead of the rows. Counters are exact when there is no debt.

A statement moves the ledger in one of few ways: it books an amount on a counter, it writes, adds
or drops a row, or it leaves the ledger alone. This module states these moves as a contract,
proves that the store realizes it as long as no statement fails, and derives what each of the
three transactions does to the ledger.
-/

namespace ShellHub.Devices

open Programs Tables
open Namespaces (StoreError)

/-- Device rows, existing namespaces, and the debt of each counter. -/
@[ext]
structure Ledger where
  row : String → Option Device
  tenant : String → Bool
  debt : String → DeviceStatus → Int

namespace Ledger

variable (ledger : Ledger)

/-- Book an amount on one counter. -/
def book (tenantID : String) (status : DeviceStatus) (amount : Int) : Ledger :=
  { ledger with debt := fun tenant kind =>
      ledger.debt tenant kind + if tenant = tenantID ∧ kind = status then amount else 0 }

/-- Write a row over an old one. -/
def write (old new : Device) : Ledger :=
  { (ledger.book old.tenantID old.status 1).book new.tenantID new.status (-1) with
    row := Function.update ledger.row new.uid (some new) }

/-- Add a row. -/
def add (new : Device) : Ledger :=
  { ledger.book new.tenantID new.status (-1) with
    row := Function.update ledger.row new.uid (some new) }

/-- Drop a row. -/
def drop (old : Device) : Ledger :=
  { ledger.book old.tenantID old.status 1 with row := Function.update ledger.row old.uid none }

/-- The number of listed devices that a counter counts. -/
def share (uids : List String) (tenantID : String) (status : DeviceStatus) : Nat :=
  uids.countP fun uid =>
    (ledger.row uid).any fun device => device.tenantID = tenantID && device.status = status

/-- Drop the rows of several devices. -/
def dropMany (uids : List String) : Ledger :=
  { ledger with
    row := fun uid => if uid ∈ uids then none else ledger.row uid
    debt := fun tenant kind => ledger.debt tenant kind + ledger.share uids tenant kind }

/-- Take the devices of a tally off their counters. -/
def settle (tally : List (String × DeviceStatus)) : Ledger :=
  { ledger with
    debt := fun tenant kind => ledger.debt tenant kind - (tally.count (tenant, kind) : Int) }

/-- Change the heartbeat columns of a row. -/
def beat (uid : String) (lastSeen : Nat) : Ledger :=
  { ledger with
    row := Function.update ledger.row uid ((ledger.row uid).map (Fleet.seen uid lastSeen)) }

end Ledger

namespace Fleet

variable (fleet : Fleet)

/-- The number of devices of a namespace with a status. -/
def population (tenantID : String) (status : DeviceStatus) : Nat :=
  fleet.devices.count fun device => device.tenantID = tenantID && device.status = status

/-- The value of a device counter, and zero for a namespace that does not exist. -/
def counter (tenantID : String) (status : DeviceStatus) : Int :=
  ((fleet.namespaces.find tenantID).map fun owner => owner.deviceCount status).getD 0

/-- The ledger of a fleet. -/
def ledger : Ledger where
  row := fleet.devices.find
  tenant := fun tenantID => (fleet.namespaces.find tenantID).isSome
  debt := fun tenantID status => fleet.counter tenantID status - fleet.population tenantID status

/-- Moving a counter books the amount. -/
theorem ledger_moveCount {tenantID : String} (housed : (fleet.namespaces.find tenantID).isSome)
    (status : DeviceStatus) (amount : Int) :
    (fleet.moveCount tenantID status amount).ledger = fleet.ledger.book tenantID status amount := by
  ext tenant kind
  · rfl
  · simp [ledger, moveCount, Ledger.book, Table.find_change]
  · simp only [ledger, Ledger.book, counter, population, moveCount, Table.find_change]
    cases found : fleet.namespaces.find tenant with
    | none =>
      have other : tenant ≠ tenantID := by
        rintro rfl
        simp [found] at housed
      simp [other]
    | some owner =>
      have named : owner.tenantID = tenant := (Table.find_eq_some.mp found).2
      by_cases same : tenant = tenantID
      · by_cases kindred : kind = status
        · subst kindred
          simp [named, same]
          omega
        · simp [named, same, kindred]
      · simp [named, same]

/-- The Bool test of a counter as the condition of a booking. -/
theorem toNat_counted (device : Device) (tenantID : String) (status : DeviceStatus) :
    ((device.tenantID = tenantID && device.status = status : Bool).toNat : Int) =
      if tenantID = device.tenantID ∧ status = device.status then 1 else 0 := by
  by_cases tenants : tenantID = device.tenantID <;> by_cases kinds : status = device.status <;>
    simp [tenants, kinds, eq_comm]

/-- Replacing a row writes it in the ledger. -/
theorem ledger_putDevice {row old : Device} (found : fleet.devices.find row.uid = some old)
    (housed : (fleet.namespaces.find row.tenantID).isSome) :
    (fleet.putDevice row housed).ledger = fleet.ledger.write old row := by
  ext1
  · funext uid
    simp only [ledger, putDevice, Ledger.write, Table.find_put, Function.update_apply]
    by_cases same : row.uid = uid
    · subst same
      simp [found]
    · simp [same, Ne.symm same]
  · rfl
  · funext tenant kind
    have counted := Table.count_put found fun device =>
      device.tenantID = tenant && device.status = kind
    simp only [toNat_counted] at counted
    simp only [ledger, Ledger.write, Ledger.book, population, putDevice, counter, counted]
    split <;> split <;> omega

/-- Inserting a row adds it to the ledger. -/
theorem ledger_insertDevice {row : Device} (fresh : fleet.devices.find row.uid = none)
    (housed : (fleet.namespaces.find row.tenantID).isSome) :
    (fleet.insertDevice row fresh housed).ledger = fleet.ledger.add row := by
  ext1
  · funext uid
    simp only [ledger, insertDevice, Ledger.add, Table.find_insert, Function.update_apply]
    by_cases same : row.uid = uid
    · simp [same]
    · simp [same, Ne.symm same]
  · rfl
  · funext tenant kind
    have counted := Table.count_insert fleet.devices row fresh fun device =>
      device.tenantID = tenant && device.status = kind
    rw [toNat_counted] at counted
    simp only [ledger, Ledger.add, Ledger.book, population, insertDevice, counter, counted]
    split <;> omega

/-- Deleting devices drops their rows from the ledger. -/
theorem ledger_deleteDevices {uids : List String} (distinct : uids.Nodup) :
    (fleet.deleteDevices uids).ledger = fleet.ledger.dropMany uids := by
  ext1
  · funext uid
    simp only [ledger, deleteDevices, Ledger.dropMany, Table.find_erase]
    cases found : fleet.devices.find uid with
    | none => simp
    | some device =>
      obtain ⟨_, rfl⟩ := Table.find_eq_some.mp found
      by_cases member : device.uid ∈ uids <;> simp [member]
  · rfl
  · funext tenant kind
    have erased := Table.count_erase fleet.devices (fun device => uids.contains device.uid)
      fun device => device.tenantID = tenant && device.status = kind
    have shared := Table.count_keys fleet.devices distinct fun device =>
      device.tenantID = tenant && device.status = kind
    simp only [List.contains_eq_mem] at erased
    simp only [ledger, Ledger.dropMany, Ledger.share, population, deleteDevices, counter,
      List.contains_eq_mem, erased, shared]
    omega

/-- Deleting one stored device drops its row. -/
theorem dropMany_singleton {ledger : Ledger} {old : Device} (found : ledger.row old.uid = some old) :
    ledger.dropMany [old.uid] = ledger.drop old := by
  ext1
  · funext uid
    by_cases same : uid = old.uid <;> simp [Ledger.dropMany, Ledger.drop, same]
  · rfl
  · funext tenant kind
    simp only [Ledger.dropMany, Ledger.share, Ledger.drop, Ledger.book, List.countP_singleton,
      found, Option.any_some, ← toNat_counted]
    cases (decide (old.tenantID = tenant) && decide (old.status = kind)) <;> simp

/-- Dropping a device that is not stored changes nothing. -/
theorem dropMany_missing {ledger : Ledger} {uid : String} (missing : ledger.row uid = none) :
    ledger.dropMany [uid] = ledger := by
  ext1
  · funext other
    by_cases same : other = uid <;> simp [Ledger.dropMany, same, missing]
  · rfl
  · funext tenant kind
    simp [Ledger.dropMany, Ledger.share, missing]

end Fleet

/-! ## Statements -/

/-- How a statement moves the ledger. A statement that fails leaves the ledger alone, and so do the
statements that are not listed. -/
@[reducible]
def Ledger.Moves (ledger : Ledger) : (request : Call) → request.Reply → Ledger → Prop
  | .namespaceResolve tenantID => fun reply next =>
    next = ledger ∧ (reply.isOk → ledger.tenant tenantID)
  | .namespaceIncrementDeviceCount tenantID status count => fun reply next =>
    match reply with
    | .ok _ => next = ledger.book tenantID status count
    | .error _ => next = ledger
  | .deviceResolve tenantID uid => fun reply next =>
    next = ledger ∧ ∀ device, reply = .ok device →
      ledger.row uid = some device ∧ device.uid = uid ∧ device.tenantID = tenantID ∧
        ledger.tenant tenantID ∧ tenantID ≠ ""
  | .deviceResolveAccepted tenantID _ => fun reply next =>
    next = ledger ∧ ∀ device, reply = .ok device →
      ledger.row device.uid = some device ∧ device.tenantID = tenantID ∧ device.status = .accepted
  | .deviceCreate device => fun reply next =>
    match reply with
    | .ok _ => next = ledger.add device
    | .error _ => next = ledger
  | .deviceUpdate device => fun reply next =>
    match reply with
    | .ok _ => ∃ old, ledger.row device.uid = some old ∧ old.tenantID = device.tenantID ∧
        next = ledger.write old (Fleet.refreshed old device)
    | .error _ => next = ledger
  | .deviceDelete uid => fun reply next =>
    match reply with
    | .ok _ => ∃ old, ledger.row uid = some old ∧ old.uid = uid ∧ next = ledger.drop old
    | .error _ => next = ledger
  | .deviceDeleteMany uids => fun reply next =>
    match reply with
    | .ok _ => next = ledger.dropMany uids
    | .error _ => next = ledger
  | .deviceHeartbeat uid lastSeen => fun reply next =>
    match reply with
    | .ok _ => next = ledger.beat uid lastSeen
    | .error _ => next = ledger
  | .deviceListRemoved cutoff _ => fun reply next =>
    next = ledger ∧ ∀ devices, reply = .ok devices → (devices.map Device.uid).Nodup ∧
      ∀ device ∈ devices, ledger.row device.uid = some device ∧
        device.removedAt.any fun time => time < cutoff
  | .deviceListExpiredEphemeral => fun reply next =>
    next = ledger ∧ ∀ devices, reply = .ok devices → (devices.map Device.uid).Nodup ∧
      ∀ device ∈ devices, ledger.row device.uid = some device
  | _ => fun _ next => next = ledger

/-- How a statement in calm surroundings moves the ledger: what it moves by itself, and why it was
refused if it was. -/
@[reducible]
def Ledger.Yields (ledger : Ledger) : (request : Call) → request.Reply → Ledger → Prop
  | .namespaceIncrementDeviceCount tenantID status count => fun reply next =>
    match reply with
    | .ok _ => next = ledger.book tenantID status count
    | .error _ => next = ledger ∧ ledger.tenant tenantID = false
  | .deviceUpdate device => fun reply next =>
    match reply with
    | .ok _ => ∃ old, ledger.row device.uid = some old ∧ old.tenantID = device.tenantID ∧
        next = ledger.write old (Fleet.refreshed old device)
    | .error _ => next = ledger ∧ (device.status = .accepted ∨
        ∀ old, ledger.row device.uid = some old → old.tenantID ≠ device.tenantID)
  | .deviceDelete uid => fun reply next =>
    match reply with
    | .ok _ => ∃ old, ledger.row uid = some old ∧ old.uid = uid ∧ next = ledger.drop old
    | .error _ => next = ledger ∧ ledger.row uid = none
  | request => ledger.Moves request

/-- The contract of statements. A bulk delete lists each device once. -/
def statements : Contract Call Call.Reply Ledger where
  allowed := fun _ request =>
    match request with
    | .deviceDeleteMany uids => uids.Nodup
    | _ => True
  yields := Ledger.Moves

/-- Surroundings in which the store and the cache do not fail. -/
abbrev Calm := { around : Surroundings // around.fault = none }

/-- In calm surroundings a call has its proper effect. -/
theorem callMeaning_calm (request : Call) (around : Calm) (fleet : Fleet) :
    callMeaning request around.1 fleet = fleet.perform around.1 request := by
  simp [callMeaning, around.2]

/-- A device found among those of a namespace. -/
theorem Fleet.deviceOf_eq_some {fleet : Fleet} {tenantID uid : String} {device : Device}
    (found : fleet.deviceOf tenantID uid = some device) :
    fleet.ledger.row uid = some device ∧ device.uid = uid ∧ device.tenantID = tenantID ∧
      fleet.ledger.tenant tenantID ∧ tenantID ≠ "" := by
  obtain ⟨stored, same⟩ := Option.filter_eq_some_iff.mp found
  obtain ⟨member, named⟩ := Table.find_eq_some.mp stored
  have tenants : device.tenantID = tenantID := of_decide_eq_true same
  have housed : (fleet.namespaces.find tenantID).isSome := tenants ▸ fleet.housed device member
  obtain ⟨owner, present⟩ := Option.isSome_iff_exists.mp housed
  obtain ⟨listed, owned⟩ := Table.find_eq_some.mp present
  exact ⟨stored, named, tenants, housed, owned ▸ fleet.named owner listed⟩

/-- The devices that a query lists are stored, each of them once. -/
theorem Fleet.listed_of_subperm {fleet : Fleet} {devices : List Device}
    (listed : devices.Subperm fleet.devices.rows) :
    (devices.map Device.uid).Nodup ∧
      ∀ device ∈ devices, fleet.ledger.row device.uid = some device := by
  constructor
  · obtain ⟨ordered, permuted, inside⟩ := listed
    exact (permuted.map Device.uid).nodup_iff.mp
      (fleet.devices.distinct.sublist (inside.map Device.uid))
  · intro device member
    exact Table.find_of_mem (listed.subset member)

/-- Every statement in calm surroundings yields what the contract says. -/
theorem Fleet.perform_yields (fleet : Fleet) (around : Surroundings) (request : Call)
    (allowed : statements.allowed fleet.ledger request) :
    fleet.ledger.Yields request (fleet.perform around request).1
      (fleet.perform around request).2.ledger := by
  cases request
  case namespaceResolve tenantID =>
    simp only [perform]
    split
    · exact ⟨rfl, by simp [Except.isOk, Except.toBool]⟩
    · rename_i owner found
      exact ⟨rfl, fun _ => by simp [ledger, found]⟩
  case namespaceIncrementDeviceCount tenantID status count =>
    simp only [perform]
    split
    · rename_i missing
      exact ⟨rfl, by simp [ledger, missing]⟩
    · rename_i owner found
      exact fleet.ledger_moveCount (by simp [found]) status count
  case deviceResolve tenantID uid =>
    simp only [perform]
    split
    · exact ⟨rfl, by simp⟩
    · rename_i device found
      refine ⟨rfl, ?_⟩
      rintro _ ⟨⟩
      exact deviceOf_eq_some found
  case deviceResolveAccepted tenantID trait =>
    simp only [perform]
    split
    · exact ⟨rfl, by simp⟩
    · rename_i device found
      refine ⟨rfl, ?_⟩
      rintro _ ⟨⟩
      obtain ⟨member, selected⟩ := List.mem_filter.mp (List.mem_of_getElem? found)
      simp only [Bool.and_eq_true, decide_eq_true_eq] at selected
      exact ⟨Table.find_of_mem member, selected.1.1, selected.1.2⟩
  case deviceCreate device =>
    simp only [perform]
    split
    · rename_i fresh
      split
      · rename_i housed
        split
        · rfl
        · exact fleet.ledger_insertDevice fresh housed
      · rfl
    · rfl
  case deviceUpdate device =>
    simp only [perform]
    split
    · rename_i missing
      refine ⟨rfl, .inr ?_⟩
      intro old found same
      simp [deviceOf, show fleet.devices.find device.uid = some old from found, same] at missing
    · rename_i old found
      obtain ⟨stored, _, same, housed, _⟩ := deviceOf_eq_some found
      split
      · rename_i taken
        refine ⟨rfl, .inl ?_⟩
        simp only [macTaken, Bool.and_eq_true, decide_eq_true_eq] at taken
        exact taken.1
      · have replaced : fleet.devices.find (refreshed old device).uid = some old := stored
        exact ⟨old, stored, same, fleet.ledger_putDevice replaced housed⟩
  case deviceDelete uid =>
    simp only [perform]
    split
    · rename_i missing
      rw [fleet.ledger_deleteDevices (List.nodup_singleton uid), dropMany_missing missing]
      exact ⟨rfl, missing⟩
    · rename_i old found
      obtain ⟨_, rfl⟩ := Table.find_eq_some.mp found
      refine ⟨old, found, rfl, ?_⟩
      rw [fleet.ledger_deleteDevices (List.nodup_singleton old.uid), dropMany_singleton found]
  case deviceDeleteMany uids => exact fleet.ledger_deleteDevices allowed
  case deviceHeartbeat uid lastSeen =>
    ext1
    · funext other
      refine (Table.find_change _ _ (seen_uid uid lastSeen) other).trans ?_
      by_cases same : other = uid
      · subst same
        simp [Ledger.beat, ledger]
      · cases found : fleet.devices.find other with
        | none => simp [Ledger.beat, ledger, same, found]
        | some device =>
          obtain ⟨_, named⟩ := Table.find_eq_some.mp found
          simp [Ledger.beat, ledger, same, found, seen, named]
    · rfl
    · funext tenant kind
      simp only [perform, ledger, Ledger.beat, counter, population, Table.count, Table.change,
        List.countP_map, Function.comp_def, seen_tenantID, seen_status]
  case deviceListRemoved cutoff page =>
    refine ⟨rfl, ?_⟩
    rintro _ ⟨⟩
    have selected : (fleet.removedBefore cutoff).Perm (fleet.devices.rows.filter fun device =>
        device.removedAt.any fun time => time < cutoff) := List.mergeSort_perm _ _
    have paged : (((fleet.removedBefore cutoff).drop (pageSize * page)).take pageSize).Sublist
        (fleet.removedBefore cutoff) := (List.take_sublist _ _).trans (List.drop_sublist _ _)
    obtain ⟨distinct, stored⟩ := listed_of_subperm
      (paged.subperm.trans (selected.subperm.trans List.filter_sublist.subperm))
    refine ⟨distinct, ?_⟩
    intro device member
    refine ⟨stored device member, ?_⟩
    exact (List.mem_filter.mp (selected.subset (paged.subset member))).2
  case deviceListExpiredEphemeral =>
    refine ⟨rfl, ?_⟩
    rintro _ ⟨⟩
    refine listed_of_subperm ((List.take_sublist _ _).subperm.trans ?_)
    exact (List.rotate_perm _ _).subperm.trans List.filter_sublist.subperm
  -- the other statements touch neither devices nor namespaces
  all_goals
    first
    | rfl
    | simp only [perform]
      split <;> rfl

/-- What a statement moves in calm surroundings is among its moves. -/
theorem Ledger.Yields.moves {ledger next : Ledger} {request : Call} {reply : request.Reply}
    (yielded : ledger.Yields request reply next) : ledger.Moves request reply next := by
  cases request
  case namespaceIncrementDeviceCount | deviceUpdate | deviceDelete =>
    cases reply with
    | error error => exact yielded.1
    | ok done => exact yielded
  all_goals exact yielded

/-- What a statement does to the rows: it keeps or drops each of them, or it writes one. -/
inductive Ledger.RowStep (ledger next : Ledger) : Call → Prop where
  | thinned {request : Call}
      (rows : ∀ uid, next.row uid = ledger.row uid ∨ next.row uid = none) :
      RowStep ledger next request
  | created (device : Device)
      (row : next.row = Function.update ledger.row device.uid (some device)) :
      RowStep ledger next (.deviceCreate device)
  | written (old device : Device) (found : ledger.row device.uid = some old)
      (row : next.row =
        Function.update ledger.row device.uid (some (Fleet.refreshed old device))) :
      RowStep ledger next (.deviceUpdate device)
  | beaten (uid : String) (lastSeen : Nat)
      (row : next.row =
        Function.update ledger.row uid ((ledger.row uid).map (Fleet.seen uid lastSeen))) :
      RowStep ledger next (.deviceHeartbeat uid lastSeen)

/-- Every statement changes the rows in one of these ways. -/
theorem Ledger.Moves.rows {ledger next : Ledger} {request : Call} {reply : request.Reply}
    (moved : ledger.Moves request reply next) : ledger.RowStep next request := by
  have unchanged : next = ledger → ledger.RowStep next request := by
    rintro rfl
    exact .thinned fun _ => .inl rfl
  cases request
  case namespaceResolve | deviceResolve | deviceResolveAccepted | deviceListRemoved |
      deviceListExpiredEphemeral =>
    exact unchanged moved.1
  case namespaceIncrementDeviceCount =>
    cases reply with
    | error error => exact unchanged moved
    | ok done =>
      obtain rfl : next = _ := moved
      exact .thinned fun _ => .inl rfl
  case deviceCreate device =>
    cases reply with
    | error error => exact unchanged moved
    | ok done =>
      obtain rfl : next = _ := moved
      exact .created device rfl
  case deviceUpdate device =>
    cases reply with
    | error error => exact unchanged moved
    | ok done =>
      obtain ⟨old, found, _, rfl⟩ := moved
      exact .written old device found rfl
  case deviceDelete uid =>
    cases reply with
    | error error => exact unchanged moved
    | ok done =>
      obtain ⟨old, _, _, rfl⟩ := moved
      refine .thinned fun other => ?_
      by_cases same : other = old.uid <;> simp [drop, same]
  case deviceDeleteMany uids =>
    cases reply with
    | error error => exact unchanged moved
    | ok done =>
      obtain rfl : next = _ := moved
      refine .thinned fun other => ?_
      by_cases listed : other ∈ uids <;> simp [dropMany, listed]
  case deviceHeartbeat uid lastSeen =>
    cases reply with
    | error error => exact unchanged moved
    | ok done =>
      obtain rfl : next = _ := moved
      exact .beaten uid lastSeen rfl
  all_goals exact unchanged moved

/-- A statement that fails moves nothing. -/
theorem Ledger.moves_failure (ledger : Ledger) {error : StoreError} {request : Call}
    {reply : request.Reply} (failed : failure error request = some reply) :
    ledger.Moves request reply ledger := by
  cases request <;> cases failed <;> simp [Moves, Except.isOk, Except.toBool]

/-- The store realizes the contract, whatever fails. -/
theorem statements_realized :
    Realizes callMeaning statements fun fleet ledger => fleet.ledger = ledger := by
  rintro fleet _ request around rfl allowed
  refine ⟨_, ?_, rfl⟩
  cases failed : around.fault.bind fun error => failure error request with
  | some reply =>
    obtain ⟨error, _, failed'⟩ := Option.bind_eq_some_iff.mp failed
    simp only [callMeaning, failed]
    exact fleet.ledger.moves_failure failed'
  | none =>
    simp only [callMeaning, failed]
    exact (fleet.perform_yields around request allowed).moves

/-! ## Transactions -/

/-- What a status change keeps: every debt, every namespace, and every other row unless it is
dropped. -/
structure Ledger.Keeps (uid : String) (before after : Ledger) : Prop where
  debt : after.debt = before.debt
  tenant : after.tenant = before.tenant
  others : ∀ other, other ≠ uid → after.row other = before.row other ∨ after.row other = none

namespace Ledger

variable {ledger : Ledger}

/-- An unchanged ledger keeps everything. -/
theorem Keeps.refl (uid : String) (ledger : Ledger) : ledger.Keeps uid ledger :=
  ⟨rfl, rfl, fun _ _ => .inl rfl⟩

/-- What two changes keep, they keep together. -/
theorem Keeps.trans {uid : String} {first second third : Ledger} (before : first.Keeps uid second)
    (after : second.Keeps uid third) : first.Keeps uid third := by
  refine ⟨after.debt.trans before.debt, after.tenant.trans before.tenant, ?_⟩
  intro other differs
  rcases after.others other differs with same | dropped
  · rw [same]
    exact before.others other differs
  · exact .inr dropped

/-- A row rewritten with its tenant and status costs nothing. -/
theorem keeps_write {old new : Device} {uid : String} (named : new.uid = uid)
    (tenants : old.tenantID = new.tenantID) (statuses : old.status = new.status) :
    ledger.Keeps uid (ledger.write old new) := by
  refine ⟨?_, rfl, ?_⟩
  · funext tenant kind
    simp only [write, book, tenants, statuses]
    split <;> omega
  · intro other differs
    exact .inl (by simp [write, named, differs])

/-- A dropped row that is taken off its counter costs nothing. -/
theorem keeps_drop (old : Device) (uid : String) :
    ledger.Keeps uid ((ledger.drop old).book old.tenantID old.status (-1)) := by
  refine ⟨?_, rfl, ?_⟩
  · funext tenant kind
    simp only [drop, book]
    split <;> omega
  · intro other _
    by_cases same : other = old.uid
    · exact .inr (by simp [drop, book, same])
    · exact .inl (by simp [drop, book, same])

/-- A written status that is moved between the counters costs nothing. -/
theorem keeps_status {old new : Device} {uid : String} (named : new.uid = uid)
    (tenants : old.tenantID = new.tenantID) :
    ledger.Keeps uid (((ledger.write old new).book new.tenantID old.status (-1)).book
      new.tenantID new.status 1) := by
  refine ⟨?_, rfl, ?_⟩
  · funext tenant kind
    simp only [write, book, tenants]
    split <;> split <;> omega
  · intro other differs
    exact .inl (by simp [write, book, named, differs])

end Ledger

/-- Looking for an accepted device moves nothing. -/
theorem existingDevice_meets (ledger : Ledger) (tenantID : String) (trait : Attribute) :
    (existingDevice tenantID trait).Meets statements ledger fun result next =>
      next = ledger ∧ ∀ device, result = .ok (some device) →
        ledger.row device.uid = some device ∧ device.tenantID = tenantID ∧
          device.status = .accepted := by
  refine .perform trivial ?_
  rintro (error | device) _ ⟨rfl, found⟩
  · cases error <;> exact ⟨rfl, by simp⟩
  · refine ⟨rfl, ?_⟩
    rintro _ ⟨⟩
    exact found device rfl

/-- A merge drops the old device and gives its name to the new one. -/
theorem mergeDevice_meets {ledger : Ledger} {tenantID : String} {old new : Device}
    (oldStored : ledger.row old.uid = some old) (newStored : ledger.row new.uid = some new)
    (differs : old.uid ≠ new.uid) (oldTenant : old.tenantID = tenantID) :
    (mergeDevice tenantID old new).Meets statements ledger fun result next =>
      ∀ prepared, result = .ok prepared → prepared = { new with name := old.name } ∧
        ledger.Keeps new.uid next ∧ next.row new.uid = some prepared ∧
        next.row old.uid = none := by
  refine .perform trivial ?_
  rintro (_ | _) _ rfl
  · simp
  refine .perform trivial ?_
  rintro transferred _ rfl
  split
  · simp
  refine .perform trivial ?_
  rintro (error | _) written
  · simp
  rintro ⟨stored, found, _, rfl⟩
  obtain rfl : new = stored := Option.some.inj (newStored.symm.trans found)
  refine .perform trivial ?_
  rintro (error | _) dropped
  · simp
  rintro ⟨gone, present, named, rfl⟩
  obtain rfl : old = gone := by
    simpa [Ledger.write, Fleet.refreshed, differs, oldStored] using present
  refine .perform trivial ?_
  rintro (error | _) booked
  · simp
  rintro rfl _ ⟨⟩
  refine ⟨rfl, ?_, ?_, ?_⟩
  · rw [← oldTenant]
    refine Ledger.Keeps.trans ?_ (Ledger.keeps_drop old new.uid)
    exact Ledger.keeps_write rfl rfl rfl
  · simp [Ledger.book, Ledger.drop, Ledger.write, Fleet.refreshed, Ne.symm differs]
  · simp [Ledger.book, Ledger.drop]

/-- Checking the limits of a namespace moves nothing. -/
theorem validateDeviceAcceptance_meets (server : Server) (owner : Namespace) (ledger : Ledger) :
    (validateDeviceAcceptance server owner).Meets statements ledger fun _ next =>
      next = ledger := by
  have licensed : (evaluateLicense server).Meets statements ledger fun _ next => next = ledger := by
    unfold evaluateLicense
    split
    · refine ⟨trivial, ?_⟩
      rintro (_ | _ | _) _ rfl <;> rfl
    · rfl
  have billed : (evaluateBilling server owner.tenantID).Meets statements ledger fun _ next =>
      next = ledger := by
    unfold evaluateBilling
    split
    · refine ⟨trivial, ?_⟩
      rintro (_ | _ | _) _ rfl <;> rfl
    · rfl
  unfold validateDeviceAcceptance
  split
  · split <;> rfl
  · refine billed.bind ?_
    rintro (error | _) _ rfl
    · rfl
    · exact licensed

/-- Before an acceptance a device may be merged; it keeps everything but its name. -/
theorem prepareAcceptance_meets (server : Server) (owner : Namespace) {ledger : Ledger}
    {device : Device} (stored : ledger.row device.uid = some device) :
    (prepareAcceptance server owner device).Meets statements ledger fun result next =>
      ∀ prepared, result = .ok prepared → (∃ name, prepared = { device with name }) ∧
        ledger.Keeps device.uid next ∧ next.row device.uid = some prepared := by
  refine (existingDevice_meets ledger owner.tenantID (.mac device.mac)).bind ?_
  rintro (error | existingMac) _ ⟨rfl, sameMac⟩
  · simp
  dsimp only
  split
  · rename_i old merged
    obtain ⟨rfl, differs⟩ := Option.filter_eq_some_iff.mp merged
    refine (existingDevice_meets _ owner.tenantID (.hostname device.name)).bind ?_
    rintro (error | existingName) _ ⟨rfl, _⟩
    · simp
    dsimp only
    split
    · simp
    · obtain ⟨oldStored, oldTenant, _⟩ := sameMac old rfl
      refine (mergeDevice_meets oldStored stored (by simpa using differs) oldTenant).mono ?_
      intro result next merges prepared finished
      obtain ⟨renamed, keeps, row, _⟩ := merges prepared finished
      exact ⟨⟨old.name, renamed⟩, keeps, row⟩
  · refine (existingDevice_meets _ owner.tenantID (.hostname device.name)).bind ?_
    rintro (error | _ | existing) _ ⟨rfl, _⟩
    · simp
    · refine (validateDeviceAcceptance_meets server owner _).bind ?_
      rintro (error | _) _ rfl
      · simp
      · rintro _ ⟨⟩
        exact ⟨⟨device.name, rfl⟩, .refl _ _, stored⟩
    · simp

/-- Writing a status and moving the counters keeps every debt. -/
theorem writeStatus_meets {ledger : Ledger} (stored device : Device) (new : DeviceStatus)
    (found : ledger.row device.uid = some stored) (tenants : stored.tenantID = device.tenantID)
    (seen : Fleet.refreshed stored device = device) :
    (writeStatus device.tenantID stored.status new device).Meets statements ledger
      fun result next => result = .ok () →
        ledger.Keeps device.uid next ∧ next.row device.uid = some { device with status := new } := by
  refine .perform trivial ?_
  rintro (error | _) written
  · simp
  rintro ⟨old, present, _, rfl⟩
  obtain rfl : stored = old := Option.some.inj (found.symm.trans present)
  have row : Fleet.refreshed stored { device with status := new } = { device with status := new } :=
    congrArg (fun other : Device => { other with status := new }) seen
  rw [row]
  refine .perform trivial ?_
  rintro (error | _) _ booked
  · simp
  subst booked
  refine .perform trivial ?_
  rintro (error | _) _ booked
  · simp
  subst booked
  intro _
  refine ⟨Ledger.keeps_status rfl tenants, ?_⟩
  simp [Ledger.book, Ledger.write]

/-- What a status change does to the ledger: the device keeps all but its name, which a merge may
change, and its status. -/
theorem updateDeviceStatusBody_meets (server : Server) (ledger : Ledger) (tenantID uid : String)
    (status : RequestedStatus) :
    (updateDeviceStatusBody server tenantID uid status).Meets statements ledger
      fun result next => result = .ok () → tenantID ≠ "" ∧ ledger.Keeps uid next ∧
        ∃ device name, ledger.row uid = some device ∧ device.uid = uid ∧
          device.tenantID = tenantID ∧ next.row uid = some { device with name, status := status.1 } := by
  refine .perform trivial ?_
  rintro (error | owner) _ ⟨rfl, _⟩
  · simp
  refine .perform trivial ?_
  rintro (error | device) _ ⟨rfl, found⟩
  · simp
  obtain ⟨stored, rfl, rfl, _, tenant⟩ := found device rfl
  dsimp only
  split
  · simp
  split
  · rename_i unchanged
    intro _
    exact ⟨tenant, .refl _ _, device, device.name, stored, rfl, rfl, by rw [unchanged]; exact stored⟩
  split
  · refine (prepareAcceptance_meets server owner.1 stored).bind ?_
    rintro (error | prepared) prior merged
    · simp
    obtain ⟨⟨name, rfl⟩, keeps, row⟩ := merged prepared rfl
    refine (writeStatus_meets { device with name } { device with name } status.1 row rfl
      rfl).mono ?_
    intro result next writes finished
    obtain ⟨moved, written⟩ := writes finished
    exact ⟨tenant, keeps.trans moved, device, name, stored, rfl, rfl, written⟩
  · refine (writeStatus_meets device device status.1 stored rfl rfl).mono ?_
    intro result next writes finished
    obtain ⟨moved, written⟩ := writes finished
    exact ⟨tenant, moved, device, device.name, stored, rfl, rfl, written⟩

/-! ## Cleanups -/

/-- The buckets take their devices off the counters. -/
theorem decrementBuckets_meets (tally : List (String × DeviceStatus))
    {buckets : List (String × DeviceStatus)}
    (distinct : buckets.Nodup) (ledger : Ledger) :
    (decrementBuckets tally buckets).Meets statements ledger fun result next =>
      result = .ok () → next =
        { ledger with
          debt := fun tenant kind => ledger.debt tenant kind -
            if (tenant, kind) ∈ buckets then (tally.count (tenant, kind) : Int) else 0 } := by
  induction buckets generalizing ledger with
  | nil =>
    intro _
    simp
  | cons bucket rest ih =>
    obtain ⟨fresh, distinct⟩ := List.nodup_cons.mp distinct
    refine .perform trivial ?_
    rintro (error | _) _ booked
    · simp
    subst booked
    refine (ih distinct _).mono ?_
    intro result next decremented finished
    rw [decremented finished]
    ext1
    · rfl
    · rfl
    · funext tenant kind
      simp only [Ledger.book, List.mem_cons]
      by_cases here : (tenant, kind) = bucket
      · subst here
        simp [fresh]
        omega
      · have elsewhere : ¬(tenant = bucket.1 ∧ kind = bucket.2) := fun same =>
          here (Prod.ext same.1 same.2)
        simp [here, elsewhere]

/-- A cleanup takes every device of its tally off the counters. -/
theorem decrementCounters_meets (tally : List (String × DeviceStatus)) (ledger : Ledger) :
    (decrementCounters tally).Meets statements ledger fun result next =>
      result = .ok () → next = ledger.settle tally := by
  have sorted := List.mergeSort_perm tally.dedup bucketBefore
  refine (decrementBuckets_meets tally (sorted.nodup_iff.mpr tally.nodup_dedup) ledger).mono ?_
  intro result next decremented finished
  rw [decremented finished]
  ext1
  · rfl
  · rfl
  · funext tenant kind
    by_cases listed : (tenant, kind) ∈ tally
    · simp [Ledger.settle, sorted.mem_iff, listed]
    · simp [Ledger.settle, sorted.mem_iff, listed, List.count_eq_zero_of_not_mem listed]

/-- The share of listed devices, counted on the list itself. -/
theorem Ledger.share_listed {ledger : Ledger} {devices : List Device}
    (stored : ∀ device ∈ devices, ledger.row device.uid = some device)
    (tenantID : String) (status : DeviceStatus) :
    ledger.share (devices.map Device.uid) tenantID status =
      (devices.map fun device => (device.tenantID, device.status)).count (tenantID, status) := by
  rw [share, List.countP_map, List.count, List.countP_map]
  refine List.countP_congr ?_
  intro device member
  simp [stored device member]

/-- Each row after a cleanup is as before, or it is gone. -/
def Ledger.Thins (before after : Ledger) : Prop :=
  ∀ uid, after.row uid = before.row uid ∨ after.row uid = none

/-- Two cleanups in a row thin the rows. -/
theorem Ledger.Thins.trans {first second third : Ledger} (before : first.Thins second)
    (after : second.Thins third) : first.Thins third := by
  intro uid
  rcases after uid with same | gone
  · rw [same]
    exact before uid
  · exact .inr gone

/-- Dropping devices thins the rows. -/
theorem Ledger.thins_dropMany (ledger : Ledger) (uids : List String) :
    ledger.Thins (ledger.dropMany uids) := by
  intro uid
  by_cases listed : uid ∈ uids
  · exact .inr (if_pos listed)
  · exact .inl (if_neg listed)

/-- What the removed-device cleanup selects. -/
def Device.RemovedBefore (cutoff : Nat) (device : Device) : Prop :=
  device.removedAt.any fun time => time < cutoff

/-- A selected device has a removal mark. -/
theorem Device.RemovedBefore.marked {cutoff : Nat} {device : Device}
    (removed : device.RemovedBefore cutoff) : device.removedAt.isSome := by
  unfold RemovedBefore at removed
  cases marked : device.removedAt with
  | none => simp [marked] at removed
  | some time => rfl

/-- The page loop only deletes rows. -/
theorem cleanupPages_meets (cutoff pages page : Nat) (tally : List (String × DeviceStatus))
    (ledger : Ledger) :
    (cleanupPages cutoff pages page tally).Meets statements ledger fun result next =>
      ∀ total, result = .ok total → ledger.Thins next := by
  induction pages generalizing page tally ledger with
  | zero => exact fun _ _ _ => .inl rfl
  | succ pages ih =>
    refine .perform trivial ?_
    rintro (error | _ | ⟨device, devices⟩) _ ⟨rfl, listed⟩
    · simp
    · exact ih (page + 1) tally _
    refine .perform (listed _ rfl).1 ?_
    rintro (error | _) _ dropped
    · simp
    subst dropped
    refine (ih (page + 1) _ _).mono ?_
    intro result next later total finished
    exact (Ledger.thins_dropMany _ _).trans (later total finished)

/-- The removed-device cleanup only deletes rows. -/
theorem deviceCleanupBody_meets (ledger : Ledger) :
    deviceCleanupBody.Meets statements ledger fun result next =>
      result = .ok () → ledger.Thins next := by
  refine .perform trivial ?_
  rintro now _ rfl
  refine .perform trivial ?_
  rintro (error | total) _ rfl
  · simp
  refine (cleanupPages_meets _ _ 0 [] _).bind ?_
  rintro (error | tally) thinned cleaned
  · simp
  refine (decrementCounters_meets tally thinned).mono ?_
  intro result next settled finished
  rw [settled finished]
  exact cleaned tally rfl

/-- What the ephemeral cleanup does to the ledger. -/
theorem ephemeralCleanupBody_meets (ledger : Ledger) :
    ephemeralCleanupBody.Meets statements ledger fun result next =>
      result = .ok () → ledger.Thins next ∧ next.debt = ledger.debt := by
  refine .perform trivial ?_
  rintro (error | _ | ⟨device, devices⟩) _ ⟨rfl, listed⟩
  · simp
  · exact fun _ => ⟨fun _ => .inl rfl, rfl⟩
  obtain ⟨distinct, stored⟩ := listed _ rfl
  refine .perform distinct ?_
  rintro (error | _) _ dropped
  · simp
  subst dropped
  refine (decrementCounters_meets _ _).mono ?_
  intro result next settled finished
  rw [settled finished]
  constructor
  · exact Ledger.thins_dropMany _ _
  · funext tenant kind
    simp only [Ledger.settle, Ledger.dropMany, Ledger.share_listed stored]
    omega

/-! ## Actions -/

/-- What a transaction without faults answers, and how it moves the ledger. What the removed-device
cleanup owes depends on the time, and is left open here. -/
@[reducible]
def Ledger.Settles (ledger : Ledger) (block : Transaction) :
    Except DeviceError Unit → Ledger → Prop
  | .error _, next => next = ledger
  | .ok _, next =>
    match block with
    | .updateDeviceStatus tenantID uid status => tenantID ≠ "" ∧ ledger.Keeps uid next ∧
        ∃ device name, ledger.row uid = some device ∧ device.uid = uid ∧
          device.tenantID = tenantID ∧ next.row uid = some { device with name, status := status.1 }
    | .deviceCleanup => ledger.Thins next
    | .ephemeralCleanup => ledger.Thins next ∧ next.debt = ledger.debt

/-- The contract of actions that do not fail. -/
def actions : Contract Action Action.Reply Ledger where
  allowed := fun ledger action =>
    match action with
    | .call request => statements.allowed ledger request
    | .transaction _ => True
  yields := fun ledger action =>
    match action with
    | .call request => ledger.Yields request
    | .transaction block => ledger.Settles block

/-- A transaction that returns without an error has settled the ledger. -/
theorem Transaction.body_meets (server : Server) (block : Transaction) (ledger : Ledger) :
    (block.body server).Meets statements ledger fun result next =>
      result = .ok () → ledger.Settles block result next := by
  cases block with
  | updateDeviceStatus tenantID uid status =>
    refine (updateDeviceStatusBody_meets server ledger tenantID uid status).mono ?_
    rintro _ next changed rfl
    exact changed rfl
  | deviceCleanup =>
    refine (deviceCleanupBody_meets ledger).mono ?_
    rintro _ next cleaned rfl
    exact cleaned rfl
  | ephemeralCleanup =>
    refine (ephemeralCleanupBody_meets ledger).mono ?_
    rintro _ next cleaned rfl
    exact cleaned rfl

/-- A transaction settles the ledger, or it is rolled back. -/
theorem transact_settles (server : Server) (block : Transaction) (inputs : Nat → Surroundings)
    (fleet : Fleet) :
    fleet.ledger.Settles block (transact server block inputs fleet).1
      (transact server block inputs fleet).2.ledger := by
  obtain ⟨⟨_, settled, rfl⟩, _⟩ := Program.Meets.run statements_realized
    (block.body_meets server fleet.ledger) rfl fun index => inputs (index + 1)
  unfold transact
  split
  · rfl
  dsimp only
  split
  · rfl
  · rename_i done answer
    rw [answer] at settled
    exact settled rfl

/-- In calm surroundings the fleet realizes the contract of actions. -/
theorem actions_realized (server : Server) :
    Realizes (fun action (inputs : Nat → Calm) => meaning server action fun index => (inputs index).1)
      actions fun fleet ledger => fleet.ledger = ledger := by
  rintro fleet _ (request | block) inputs rfl allowed
  · refine ⟨_, ?_, rfl⟩
    simp only [meaning, callMeaning_calm]
    exact fleet.perform_yields (inputs 0).1 request allowed
  · exact ⟨_, transact_settles server block _ fleet, rfl⟩

end ShellHub.Devices
