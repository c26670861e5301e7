import Mathlib.Data.List.Rotate
import ShellHub.Caches
import ShellHub.Devices
import ShellHub.Tables

/-!
# The store behind the devices

A fleet is the state of the store and the cache that the device services share. Its tables carry
what the schema guarantees: primary keys are distinct, every namespace has a tenant, and every
device belongs to a namespace that exists.

Each call is one atomic change of the fleet. What the store cannot know comes with the
call as its surroundings: a fault, the clock, which of several matching rows a query returns, and
the answers of the components outside the server.
-/

namespace ShellHub.Devices

open Programs Tables Caches
open Namespaces (StoreError)

/-- The shared state of the device services. Events are listed from the oldest to the newest. -/
structure Fleet where
  namespaces : Table Namespace String Namespace.tenantID
  devices : Table Device String Device.uid
  installKeys : Table InstallKey (String × String) InstallKey.primary
  sessions : Table Session String Session.uid
  tags : List Tag
  deviceTags : List (String × String)
  events : List InstallKeyEvent
  redemptions : List (String × Nat)
  authDevices : Cache CachedDevice
  named : ∀ owner ∈ namespaces.rows, owner.tenantID ≠ ""
  housed : ∀ device ∈ devices.rows, (namespaces.find device.tenantID).isSome

/-- What a call finds around it. `choice` picks one of several matching rows; `billing` and `license`
are the answers of the billing service and the license evaluator; `merge` says whether the merge hooks
succeed. -/
structure Surroundings where
  fault : Option StoreError
  now : Nat
  choice : Nat
  freshID : String
  webhook : WebhookAnswer
  merge : Bool
  billing : Option Bool
  license : Option Bool

namespace Fleet

variable (fleet : Fleet)

/-! ## Devices -/

/-- Whether another accepted device of the namespace has the MAC address of an accepted one. -/
def macTaken (device : Device) : Bool :=
  device.status = .accepted && fleet.devices.rows.any fun other =>
    other.uid ≠ device.uid && other.tenantID = device.tenantID && other.mac = device.mac &&
      other.status = .accepted

/-- The row a full update leaves: the heartbeat columns are not part of it. -/
def refreshed (old device : Device) : Device :=
  { device with lastSeen := old.lastSeen, disconnectedAt := old.disconnectedAt }

/-- The row of a device after its heartbeat. -/
def seen (uid : String) (lastSeen : Nat) (device : Device) : Device :=
  if device.uid = uid then { device with lastSeen, disconnectedAt := none } else device

@[simp]
theorem seen_uid (uid : String) (lastSeen : Nat) (device : Device) :
    (seen uid lastSeen device).uid = device.uid := by
  unfold seen
  split <;> rfl

@[simp]
theorem seen_tenantID (uid : String) (lastSeen : Nat) (device : Device) :
    (seen uid lastSeen device).tenantID = device.tenantID := by
  unfold seen
  split <;> rfl

@[simp]
theorem seen_status (uid : String) (lastSeen : Nat) (device : Device) :
    (seen uid lastSeen device).status = device.status := by
  unfold seen
  split <;> rfl

@[simp]
theorem seen_removedAt (uid : String) (lastSeen : Nat) (device : Device) :
    (seen uid lastSeen device).removedAt = device.removedAt := by
  unfold seen
  split <;> rfl

/-- Replace the row of a device, which stays in its namespace. -/
def putDevice (row : Device) (housed : (fleet.namespaces.find row.tenantID).isSome) : Fleet :=
  { fleet with
    devices := fleet.devices.put row
    housed := fun device member => by
      rcases Table.mem_put member with rfl | ⟨stored, _⟩
      · exact housed
      · exact fleet.housed device stored }

/-- Insert the row of a new device. -/
def insertDevice (row : Device) (fresh : fleet.devices.find row.uid = none)
    (housed : (fleet.namespaces.find row.tenantID).isSome) : Fleet :=
  { fleet with
    devices := fleet.devices.insert row fresh
    housed := fun device member => by
      rcases List.mem_append.mp member with stored | single
      · exact fleet.housed device stored
      · rw [List.mem_singleton.mp single]
        exact housed }

/-- Delete devices, with their sessions and tags. -/
def deleteDevices (uids : List String) : Fleet :=
  { fleet with
    devices := fleet.devices.erase fun device => uids.contains device.uid
    sessions := fleet.sessions.erase fun session => uids.contains session.deviceUID
    deviceTags := fleet.deviceTags.filter fun (_, uid) => !uids.contains uid
    housed := fun device member => fleet.housed device (List.mem_of_mem_filter member) }

/-- Move one of the device counters of a namespace. -/
def moveCount (tenantID : String) (status : DeviceStatus) (count : Int) : Fleet :=
  { fleet with
    namespaces := fleet.namespaces.change
      (fun owner =>
        if owner.tenantID = tenantID then
          { owner with deviceCount :=
              Function.update owner.deviceCount status (owner.deviceCount status + count) }
        else owner)
      (fun owner => by split <;> rfl)
    named := fun owner member => by
      obtain ⟨old, stored, rfl⟩ := List.mem_map.mp member
      split <;> exact fleet.named old stored
    housed := fun device member => by
      rw [Table.find_change, Option.isSome_map]
      exact fleet.housed device member }

/-- The device of a namespace with a given identifier. -/
def deviceOf (tenantID uid : String) : Option Device :=
  (fleet.devices.find uid).filter fun device => device.tenantID = tenantID

/-- An accepted device of a namespace with a given attribute. -/
def acceptedWith (tenantID : String) (trait : Attribute) (choice : Nat) : Option Device :=
  let found := fleet.devices.rows.filter fun device =>
    device.tenantID = tenantID && device.status = .accepted && device.has trait
  found[choice % found.length]?

/-- The removed-device cleanup selects by the removal mark, oldest first; `Sort` breaks ties downwards. -/
def removedBefore (cutoff : Nat) : List Device :=
  (fleet.devices.rows.filter fun device => device.removedAt.any fun time => time < cutoff).mergeSort
    fun first second =>
      first.removedAt.getD 0 < second.removedAt.getD 0 ||
        (first.removedAt.getD 0 = second.removedAt.getD 0 && second.uid ≤ first.uid)

/-- One page of the removed-device cleanup. -/
def pageSize : Nat := 1000

/-- The ephemeral devices that stayed offline longer than their own timeout, in minutes. The query
has a limit and no order. -/
def expiredEphemeral (now choice : Nat) : List Device :=
  ((fleet.devices.rows.filter fun device =>
    device.ephemeral && device.disconnectedAt.any fun time =>
      time + device.ephemeralTimeout * 60 < now).rotate choice).take pageSize

/-! ## Install keys and history -/

/-- Change the row of an install key. -/
def changeKey (primary : String × String) (edit : InstallKey → InstallKey)
    (keeps : ∀ key, (edit key).primary = key.primary) : Fleet :=
  { fleet with
    installKeys := fleet.installKeys.change
      (fun key => if key.primary = primary then edit key else key)
      (fun key => by split <;> simp [keeps]) }

/-- Whether another use of the key may be reserved. -/
def usable (key : InstallKey) : Bool := key.usageLimit = 0 || key.usedTimes < key.usageLimit

/-- The history with a decision stamped on the newest event of a device. -/
def stamped (tenantID uid : String) (status : DeviceStatus) (now : Nat) :
    List InstallKeyEvent → List InstallKeyEvent
  | [] => []
  | event :: later =>
    let concerns := fun other : InstallKeyEvent => other.tenantID = tenantID ∧ other.deviceUID = uid
    if concerns event ∧ ¬ later.any (fun other => concerns other) then
      { event with decidedStatus := some status, decidedAt := some now } :: later
    else event :: stamped tenantID uid status now later

/-! ## The cache -/

/-- How long an authenticated device stays in the cache. -/
def authDeviceTTL : Nat := 30

/-- The effect of a call when nothing around it fails. -/
def perform (around : Surroundings) : (call : Call) → call.Reply × Fleet
  | .namespaceResolve tenantID =>
    match found : fleet.namespaces.find tenantID with
    | none => (.error .noDocuments, fleet)
    | some owner => (.ok ⟨owner, (Table.find_eq_some.mp found).2⟩, fleet)
  | .namespaceIncrementDeviceCount tenantID status count =>
    match fleet.namespaces.find tenantID with
    | none => (.error .noDocuments, fleet)
    | some _ => (.ok (), fleet.moveCount tenantID status count)
  | .deviceResolve tenantID uid =>
    match fleet.deviceOf tenantID uid with
    | none => (.error .noDocuments, fleet)
    | some device => (.ok device, fleet)
  | .deviceResolveAccepted tenantID trait =>
    match fleet.acceptedWith tenantID trait around.choice with
    | none => (.error .noDocuments, fleet)
    | some device => (.ok device, fleet)
  | .deviceCreate device =>
    if fresh : fleet.devices.find device.uid = none then
      if housed : (fleet.namespaces.find device.tenantID).isSome then
        if fleet.macTaken device then (.error .duplicate, fleet)
        else (.ok (), fleet.insertDevice device fresh housed)
      else (.error .unavailable, fleet)
    else (.error .duplicate, fleet)
  | .deviceUpdate device =>
    match found : fleet.deviceOf device.tenantID device.uid with
    | none => (.error .noDocuments, fleet)
    | some old =>
      if fleet.macTaken device then (.error .duplicate, fleet)
      else (.ok (), fleet.putDevice (refreshed old device) (by
        obtain ⟨stored, same⟩ := Option.filter_eq_some_iff.mp found
        have housed := fleet.housed old (Table.find_eq_some.mp stored).1
        rw [of_decide_eq_true same] at housed
        exact housed))
  | .deviceDelete uid =>
    match fleet.devices.find uid with
    | none => (.error .noDocuments, fleet.deleteDevices [uid])
    | some _ => (.ok (), fleet.deleteDevices [uid])
  | .deviceDeleteMany uids =>
    (.ok (fleet.devices.count fun device => uids.contains device.uid), fleet.deleteDevices uids)
  | .deviceHeartbeat uid lastSeen =>
    (.ok (fleet.devices.count fun device => device.uid = uid),
      { fleet with
        devices := fleet.devices.change (seen uid lastSeen) (seen_uid uid lastSeen)
        housed := fun device member => by
          obtain ⟨old, stored, rfl⟩ := List.mem_map.mp member
          rw [seen_tenantID]
          exact fleet.housed old stored })
  | .deviceCountRemoved cutoff => (.ok (fleet.removedBefore cutoff).length, fleet)
  | .deviceListRemoved cutoff page =>
    (.ok (((fleet.removedBefore cutoff).drop (pageSize * page)).take pageSize), fleet)
  | .deviceListExpiredEphemeral => (.ok (fleet.expiredEphemeral around.now around.choice), fleet)
  | .sessionUpdateDeviceUID old new =>
    if fleet.sessions.rows.any fun session => session.deviceUID = old then
      (.ok (), { fleet with
        sessions := fleet.sessions.change
          (fun session =>
            if session.deviceUID = old then { session with deviceUID := new } else session)
          (fun session => by split <;> rfl) })
    else (.error .noDocuments, fleet)
  | .tagResolve tenantID name =>
    match fleet.tags.find? fun tag => tag.tenantID = tenantID && tag.name = name with
    | none => (.error .noDocuments, fleet)
    | some tag => (.ok tag, fleet)
  | .tagCreate tenantID name =>
    match fleet.tags.find? fun tag => tag.tenantID = tenantID && tag.name = name with
    | none =>
      (.ok around.freshID, { fleet with tags := fleet.tags ++ [⟨around.freshID, tenantID, name⟩] })
    | some tag => (.ok tag.id, fleet)
  | .tagPushToTarget id uid =>
    if (fleet.tags.any fun tag => tag.id = id) && (fleet.devices.find uid).isSome then
      (.ok (), { fleet with deviceTags :=
        if fleet.deviceTags.contains (id, uid) then fleet.deviceTags
        else fleet.deviceTags ++ [(id, uid)] })
    else (.error .noDocuments, fleet)
  | .installKeyResolve tenantID id =>
    match fleet.installKeys.find (tenantID, id) with
    | none => (.error .noDocuments, fleet)
    | some key => (.ok key, fleet)
  | .installKeyResolveSystem tenantID type =>
    match fleet.installKeys.rows.find? fun key => key.tenantID = tenantID && key.type = type with
    | none => (.error .noDocuments, fleet)
    | some key => (.ok key, fleet)
  | .installKeyIncrementUsage key =>
    match (fleet.installKeys.find key.primary).filter usable with
    | none => (.error .noDocuments, fleet)
    | some _ =>
      (.ok (), fleet.changeKey key.primary
        (fun stored =>
          { stored with usedTimes := stored.usedTimes + 1, lastUsedAt := some around.now })
        (fun _ => rfl))
  | .installKeyDecrementUsage key =>
    match (fleet.installKeys.find key.primary).filter fun stored => 0 < stored.usedTimes with
    | none => (.error .noDocuments, fleet)
    | some _ =>
      (.ok (), fleet.changeKey key.primary
        (fun stored => { stored with usedTimes := stored.usedTimes - 1 }) (fun _ => rfl))
  | .installKeyEventCreate event =>
    (.ok (), { fleet with events := fleet.events ++ [{ event with createdAt := around.now }] })
  | .installKeyEventStampDecision tenantID uid status =>
    (.ok (), { fleet with events := stamped tenantID uid status around.now fleet.events })
  | .enrollmentCallbackRedeem jti time =>
    if fleet.redemptions.any fun redemption => redemption.1 = jti then (.ok false, fleet)
    else (.ok true, { fleet with redemptions := fleet.redemptions ++ [(jti, time)] })
  | .enrollmentCallbackCleanup before =>
    (.ok (fleet.redemptions.countP fun redemption => redemption.2 < before),
      { fleet with
        redemptions := fleet.redemptions.filter fun redemption => !(redemption.2 < before) })
  | .cacheGetDevice uid => (.ok (fleet.authDevices.get uid around.now), fleet)
  | .cacheSetDevice uid entry =>
    (.ok (), { fleet with
      authDevices := fleet.authDevices.set uid entry (around.now + authDeviceTTL) })
  | .callEnrollmentWebhook _ _ _ _ => (around.webhook, fleet)
  | .fireDeviceMerge _ _ _ => (around.merge, fleet)
  | .validateBilling _ => (around.billing, fleet)
  | .canAcceptDevice => (around.license, fleet)
  | .clockNow => (around.now, fleet)

end Fleet

/-- A namespace without devices. -/
def emptyFleet : Fleet where
  namespaces := ⟨[⟨"acme", "acme", -1, false, fun _ => 0, []⟩], by decide⟩
  devices := .empty
  installKeys := .empty
  sessions := .empty
  tags := []
  deviceTags := []
  events := []
  redemptions := []
  authDevices := fun _ => none
  named := by decide
  housed := by decide

/-- The answer of a call that fails. The clock and the components outside the server have no
fault of the store: their failures are among their answers. -/
def failure (error : StoreError) : (call : Call) → Option call.Reply
  | .callEnrollmentWebhook _ _ _ _ | .fireDeviceMerge _ _ _ | .validateBilling _
  | .canAcceptDevice | .clockNow => none
  | .namespaceResolve _ | .namespaceIncrementDeviceCount _ _ _ | .deviceResolve _ _
  | .deviceResolveAccepted _ _ | .deviceCreate _ | .deviceUpdate _ | .deviceDelete _
  | .deviceDeleteMany _ | .deviceHeartbeat _ _ | .deviceCountRemoved _ | .deviceListRemoved _ _
  | .deviceListExpiredEphemeral | .sessionUpdateDeviceUID _ _ | .tagResolve _ _ | .tagCreate _ _
  | .tagPushToTarget _ _ | .installKeyResolve _ _ | .installKeyResolveSystem _ _
  | .installKeyIncrementUsage _ | .installKeyDecrementUsage _ | .installKeyEventCreate _
  | .installKeyEventStampDecision _ _ _ | .enrollmentCallbackRedeem _ _
  | .enrollmentCallbackCleanup _ | .cacheGetDevice _ | .cacheSetDevice _ _ => some (.error error)

/-- The meaning of a call. The environment may make any call of the store or the cache fail; it
then changes nothing. -/
def callMeaning : Meaning Call Call.Reply Surroundings Fleet :=
  fun call around fleet =>
    match around.fault.bind fun error => failure error call with
    | some reply => (reply, fleet)
    | none => fleet.perform around call

/-- An answer that is no failure is that of the call when nothing fails. -/
theorem callMeaning_performs {request : Call} {around : Surroundings} {fleet : Fleet}
    (fine : ∀ error, failure error request ≠ some (callMeaning request around fleet).1) :
    callMeaning request around fleet = fleet.perform around request := by
  unfold callMeaning at fine ⊢
  split
  · rename_i reply answer
    obtain ⟨error, -, failed⟩ := Option.bind_eq_some_iff.mp answer
    simp only [answer] at fine
    exact absurd failed (fine error)
  · rfl

end ShellHub.Devices
