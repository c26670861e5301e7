import Mathlib.Data.List.Dedup
import ShellHub.Fleet

/-!
# Status changes and cleanups

The three device services that run in a database transaction: a status change with the merge of
two devices that share a MAC address, the cleanup of removed devices, and the cleanup of offline
ephemeral devices. Each is a program over statements. A service then performs it as one action,
which takes effect as a whole or not at all.
-/

namespace ShellHub.Devices

open Programs Tables
open Namespaces (StoreError)

/-- What a server is configured with: the hash functions, the test for an IP address, and whether
it runs in the cloud, has a billing service and has a license evaluator. -/
structure Server where
  uid : (hostname mac publicKey tenantID : String) → String
  hashInstallKey : String → String
  hashPublicKey : String → String
  isIP : String → Bool
  cloud : Bool
  billing : Bool
  license : Bool

/-- A program over statements. -/
abbrev Statement := Program Call Call.Reply

/-- The program that makes one call. -/
def exec (call : Call) : Statement call.Reply := Program.perform call

/-- The statuses a request may ask for. -/
abbrev RequestedStatus := { status : DeviceStatus // status ≠ .removed }

/-! ## Accepting a device -/

/-- An accepted device with an attribute, if there is one. -/
def existingDevice (tenantID : String) (trait : Attribute) :
    Statement (Except DeviceError (Option Device)) := do
  match ← exec (.deviceResolveAccepted tenantID trait) with
  | .ok device => return .ok (some device)
  | .error .noDocuments => return .ok none
  | .error error => return .error (.store error)

/-- The error of a write, unless it only found no row to change. -/
def unlessMissing : Except StoreError Unit → Option StoreError
  | .ok _ => none
  | .error error => if error = .noDocuments then none else some error

/-- `mergeDevice`. It returns the new device under the name of the old one. -/
def mergeDevice (tenantID : String) (old new : Device) : Statement (Except DeviceError Device) := do
  let .true ← exec (.fireDeviceMerge tenantID old new) | return .error .hook
  match unlessMissing (← exec (.sessionUpdateDeviceUID old.uid new.uid)) with
  | some error => return .error (.store error)
  | none =>
    let renamed := { new with name := old.name }
    match ← exec (.deviceUpdate renamed) with
    | .error error => return .error (.store error)
    | .ok _ =>
      match ← exec (.deviceDelete old.uid) with
      | .error error => return .error (.store error)
      | .ok _ =>
        match ← exec (.namespaceIncrementDeviceCount tenantID old.status (-1)) with
        | .error error => return .error (.store error)
        | .ok _ => return .ok renamed

/-- The license part of `validateDeviceAcceptance`. An evaluator that fails lets the device in. -/
def evaluateLicense (server : Server) : Statement (Except DeviceError Unit) :=
  if server.license then do
    match ← exec .canAcceptDevice with
    | some false => return .error .licenseLimit
    | _ => return .ok ()
  else return .ok ()

/-- The billing part of `validateDeviceAcceptance`. -/
def evaluateBilling (server : Server) (tenantID : String) : Statement (Except DeviceError Unit) :=
  if server.cloud && server.billing then do
    match ← exec (.validateBilling tenantID) with
    | none => return .error .billing
    | some false => return .error .billingLimit
    | some true => return .ok ()
  else return .ok ()

/-- `validateDeviceAcceptance`. -/
def validateDeviceAcceptance (server : Server) (owner : Namespace) :
    Statement (Except DeviceError Unit) :=
  if owner.hasMaxDevices && owner.hasMaxDevicesReached then
    if server.cloud && !owner.billingActive then return .error (.deviceLimit owner.maxDevices)
    else return .error (.maxDevicesReached owner.maxDevices)
  else do
    match ← evaluateBilling server owner.tenantID with
    | .error error => return .error error
    | .ok _ => evaluateLicense server

/-- The part of `updateDeviceStatus` that runs before an acceptance: an accepted device with the
same MAC address is merged into the new one, and otherwise its name must be free and the namespace
must have room. It returns the device to write. -/
def prepareAcceptance (server : Server) (owner : Namespace) (device : Device) :
    Statement (Except DeviceError Device) := do
  match ← existingDevice owner.tenantID (.mac device.mac) with
  | .error error => return .error error
  | .ok existingMac =>
    match existingMac.filter fun other => other.uid ≠ device.uid with
    | some old =>
      match ← existingDevice owner.tenantID (.hostname device.name) with
      | .error error => return .error error
      | .ok existingName =>
        if existingName.any fun other => other.mac ≠ device.mac then
          return .error (.deviceDuplicated device.name)
        else mergeDevice owner.tenantID old device
    | none =>
      match ← existingDevice owner.tenantID (.hostname device.name) with
      | .error error => return .error error
      | .ok (some _) => return .error (.deviceDuplicated device.name)
      | .ok none =>
        match ← validateDeviceAcceptance server owner with
        | .error error => return .error error
        | .ok _ => return .ok device

/-- The two counter moves at the end of `updateDeviceStatus`. -/
def moveCounters (tenantID : String) (old new : DeviceStatus) :
    Statement (Except DeviceError Unit) := do
  match ← exec (.namespaceIncrementDeviceCount tenantID old (-1)) with
  | .error error => return .error (.store error)
  | .ok _ =>
    match ← exec (.namespaceIncrementDeviceCount tenantID new 1) with
    | .error error => return .error (.store error)
    | .ok _ => return .ok ()

/-- How `updateDeviceStatus` reports a failed write: the unique index on accepted MAC addresses
makes it a duplicate. -/
def writeError (status : DeviceStatus) (name : String) (error : StoreError) : DeviceError :=
  if status = .accepted ∧ error = .duplicate then .deviceDuplicated name else .store error

/-- Write the new status of a device and move the counters. The removal mark is left as it is. -/
def writeStatus (tenantID : String) (old new : DeviceStatus) (device : Device) :
    Statement (Except DeviceError Unit) := do
  match ← exec (.deviceUpdate { device with status := new }) with
  | .error error => return .error (writeError new device.name error)
  | .ok _ => moveCounters tenantID old new

/-- `updateDeviceStatus`, the body of the transaction. -/
def updateDeviceStatusBody (server : Server) (tenantID uid : String) (status : RequestedStatus) :
    Statement (Except DeviceError Unit) := do
  match ← exec (.namespaceResolve tenantID) with
  | .error _ => return .error (.namespaceNotFound tenantID)
  | .ok owner =>
    match ← exec (.deviceResolve tenantID uid) with
    | .error _ => return .error (.deviceNotFound uid)
    | .ok device =>
      if device.status = .accepted then return .error .deviceStatusAccepted
      else if status.1 = device.status then return .ok ()
      else if status.1 = .accepted then
        match ← prepareAcceptance server owner.1 device with
        | .error error => return .error error
        | .ok prepared => writeStatus tenantID device.status status.1 prepared
      else writeStatus tenantID device.status status.1 device

/-! ## Cleanups -/

/-- The order in which the cleanups visit their buckets. -/
def bucketBefore (first second : String × DeviceStatus) : Bool :=
  first.1 < second.1 || (first.1 = second.1 && first.2.ctorIdx ≤ second.2.ctorIdx)

/-- Take the deleted devices off the counters, one bucket after the other. -/
def decrementBuckets (tally : List (String × DeviceStatus)) :
    List (String × DeviceStatus) → Statement (Except DeviceError Unit)
  | [] => return .ok ()
  | bucket :: rest => do
    match ← exec (.namespaceIncrementDeviceCount bucket.1 bucket.2 (-(tally.count bucket))) with
    | .error error => return .error (.store error)
    | .ok _ => decrementBuckets tally rest

/-- The decrements of a cleanup, in a stable order. -/
def decrementCounters (tally : List (String × DeviceStatus)) :
    Statement (Except DeviceError Unit) :=
  decrementBuckets tally (tally.dedup.mergeSort bucketBefore)

/-- The page loop of `deviceCleanup`. A page is read at its offset after the pages before it were
deleted. Every deleted device is booked as removed. -/
def cleanupPages (cutoff : Nat) :
    (pages page : Nat) → List (String × DeviceStatus) →
      Statement (Except DeviceError (List (String × DeviceStatus)))
  | 0, _, tally => return .ok tally
  | pages + 1, page, tally => do
    match ← exec (.deviceListRemoved cutoff page) with
    | .error error => return .error (.store error)
    | .ok [] => cleanupPages cutoff pages (page + 1) tally
    | .ok (device :: devices) =>
      match ← exec (.deviceDeleteMany ((device :: devices).map Device.uid)) with
      | .error error => return .error (.store error)
      | .ok _ =>
        cleanupPages cutoff pages (page + 1)
          (tally ++ (device :: devices).map fun deleted => (deleted.tenantID, .removed))

/-- Thirty days. -/
def removedRetention : Nat := 30 * 24 * 60 * 60

/-- `deviceCleanup`, the body of the transaction. -/
def deviceCleanupBody : Statement (Except DeviceError Unit) := do
  let now ← exec .clockNow
  let cutoff := now - removedRetention
  match ← exec (.deviceCountRemoved cutoff) with
  | .error error => return .error (.store error)
  | .ok total =>
    let pages := (total + Fleet.pageSize - 1) / Fleet.pageSize
    match ← cleanupPages cutoff pages 0 [] with
    | .error error => return .error error
    | .ok tally => decrementCounters tally

/-- `ephemeralCleanup`, the body of the transaction. -/
def ephemeralCleanupBody : Statement (Except DeviceError Unit) := do
  match ← exec .deviceListExpiredEphemeral with
  | .error error => return .error (.store error)
  | .ok [] => return .ok ()
  | .ok (device :: devices) =>
    match ← exec (.deviceDeleteMany ((device :: devices).map Device.uid)) with
    | .error error => return .error (.store error)
    | .ok _ =>
      decrementCounters ((device :: devices).map fun deleted => (deleted.tenantID, deleted.status))

/-! ## Transactions -/

/-- The services that run in one database transaction. -/
inductive Transaction where
  | updateDeviceStatus (tenantID uid : String) (status : RequestedStatus)
  | deviceCleanup
  | ephemeralCleanup
  deriving DecidableEq

/-- The statements of a transaction. -/
def Transaction.body (server : Server) : Transaction → Statement (Except DeviceError Unit)
  | .updateDeviceStatus tenantID uid status => updateDeviceStatusBody server tenantID uid status
  | .deviceCleanup => deviceCleanupBody
  | .ephemeralCleanup => ephemeralCleanupBody

/-- `WithTransaction`: the statements run on the fleet, and an error rolls them back. The first
surroundings are those of opening and committing the transaction. -/
def transact (server : Server) (block : Transaction) (inputs : Nat → Surroundings)
    (fleet : Fleet) : Except DeviceError Unit × Fleet :=
  match (inputs 0).fault with
  | some error => (.error (.store error), fleet)
  | none =>
    let outcome := run callMeaning (fun index => inputs (index + 1)) (block.body server) fleet
    match outcome.result with
    | .error error => (.error error, fleet)
    | .ok _ => (.ok (), outcome.state)

/-- One atomic step of a service: a call, or a whole transaction. -/
inductive Action where
  | call (request : Call)
  | transaction (block : Transaction)
  deriving DecidableEq

/-- What each action answers. -/
@[reducible]
def Action.Reply : Action → Type
  | .call request => request.Reply
  | .transaction _ => Except DeviceError Unit

/-- The meaning of an action. Its input is the surroundings of each of its statements. -/
def meaning (server : Server) : Meaning Action Action.Reply (Nat → Surroundings) Fleet
  | .call request, inputs, fleet => callMeaning request (inputs 0) fleet
  | .transaction block, inputs, fleet => transact server block inputs fleet

end ShellHub.Devices
