import ShellHub.Namespaces
import ShellHub.Tables

/-!
# Devices and install keys

The rows behind device enrollment: devices, the install keys that decide how a device is
enrolled, and the sessions and history kept beside them. Each row carries the columns that the
enrollment, status and cleanup services read or write; the identity token, the position and the
custom fields of a device take no part in them.

The services reach these rows through the calls listed at the end. One call is one statement of
the store, one access to the cache, or one question to a component outside the server.
-/

namespace ShellHub.Devices

open Namespaces (StoreError)

/-- `DeviceStatus`. -/
inductive DeviceStatus where
  | accepted
  | pending
  | rejected
  | removed
  deriving DecidableEq, Repr

/-- `DeviceInfo`. -/
structure DeviceInfo where
  id : String
  prettyName : String
  version : String
  arch : String
  platform : String
  deriving DecidableEq, Repr

/-- A row of the devices table. Times are in seconds. -/
structure Device where
  uid : String
  tenantID : String
  name : String
  mac : String
  publicKey : String
  status : DeviceStatus
  removedAt : Option Nat
  lastSeen : Nat
  disconnectedAt : Option Nat
  info : Option DeviceInfo
  remoteAddr : String
  ephemeral : Bool
  ephemeralTimeout : Nat
  installKeyID : String
  lastEnrollmentAttemptAt : Option Nat
  deriving DecidableEq, Repr

/-- An accepted device. -/
def webDevice : Device where
  uid := "web"
  tenantID := "acme"
  name := "web"
  mac := "aa:bb"
  publicKey := "key"
  status := .accepted
  removedAt := none
  lastSeen := 0
  disconnectedAt := none
  info := none
  remoteAddr := ""
  ephemeral := false
  ephemeralTimeout := 0
  installKeyID := ""
  lastEnrollmentAttemptAt := none

/-- The accepted device as the only row. -/
def webDevices : Tables.Table Device String Device.uid := ⟨[webDevice], by decide⟩

/-- `InstallKeyMode`. A mode the server does not know is `unknown`. -/
inductive InstallKeyMode where
  | automatic
  | manual
  | webhook
  | allowlist
  | unknown
  deriving DecidableEq, Repr

/-- `InstallKeyType`. -/
inductive InstallKeyType where
  | user
  | legacy
  | pairing
  deriving DecidableEq, Repr

/-- A row of the install keys table. Its identifier is the digest of the plaintext key. -/
structure InstallKey where
  id : String
  tenantID : String
  name : String
  mode : InstallKeyMode
  webhookURL : String
  webhookSecret : String
  allowedMACs : List String
  webhookTimeout : Int
  webhookCallbackTTL : Int
  reusable : Bool
  usageLimit : Int
  usedTimes : Int
  lastUsedAt : Option Nat
  ephemeral : Bool
  ephemeralTimeout : Nat
  tags : List String
  revoked : Bool
  disabled : Bool
  type : InstallKeyType
  expiresAt : Option Nat
  deriving DecidableEq, Repr

namespace InstallKey

variable (key : InstallKey)

/-- The primary key of the table. -/
def primary : String × String := (key.tenantID, key.id)

/-- `isExpired`. -/
def isExpired (now : Nat) : Bool := key.expiresAt.any fun expiry => expiry < now

/-- `isOverused`. -/
def isOverused : Bool := !(key.usageLimit ≤ 0) && decide (key.usageLimit ≤ key.usedTimes)

/-- `IsValid`. -/
def isValid (now : Nat) : Bool :=
  !key.revoked && !key.disabled && !key.isExpired now && !key.isOverused

/-- `IsSystem`. -/
def isSystem : Bool := key.type = .legacy || key.type = .pairing

/-- `ReconcilableOnAuth`. -/
def reconcilableOnAuth : Bool := key.mode = .webhook || key.mode = .allowlist

end InstallKey

/-- A namespace, as far as devices are concerned. `billingActive` is `Billing.IsActive`; a member is a
user with a role. -/
structure Namespace where
  tenantID : String
  name : String
  maxDevices : Int
  billingActive : Bool
  deviceCount : DeviceStatus → Int
  members : List (String × Roles.Role)

/-- `HasMaxDevices`. -/
def Namespace.hasMaxDevices (owner : Namespace) : Bool := 0 < owner.maxDevices

/-- `HasMaxDevicesReached`. -/
def Namespace.hasMaxDevicesReached (owner : Namespace) : Bool :=
  owner.maxDevices ≤ owner.deviceCount .accepted

/-- A session, as far as devices are concerned. -/
structure Session where
  uid : String
  deviceUID : String
  deriving DecidableEq, Repr

/-- `Tag`. -/
structure Tag where
  id : String
  tenantID : String
  name : String
  deriving DecidableEq, Repr

/-- `InstallKeyEvent`, one row of an install key's enrollment history. -/
structure InstallKeyEvent where
  installKeyID : String
  tenantID : String
  deviceUID : String
  hostname : String
  sourceIP : String
  publicKey : String
  ephemeral : Bool
  reRegistration : Bool
  mac : String
  info : Option DeviceInfo
  createdAt : Nat
  decidedStatus : Option DeviceStatus
  decidedAt : Option Nat
  deriving DecidableEq, Repr

/-- What the cache keeps of an authenticated device. -/
structure CachedDevice where
  deviceName : String
  namespaceName : String
  deriving DecidableEq, Repr

/-- `requests.DeviceAuth`. An identity is a MAC address. The sessions that an agent says it serves
concern no table of this module, see `Sessions.touchSessions`. -/
structure DeviceAuth where
  hostname : String
  identity : Option String
  info : Option DeviceInfo
  publicKey : String
  tenantID : String
  installKey : String
  realIP : String
  deriving DecidableEq, Repr

/-- What an enrollment webhook answers: nothing usable, or the decision in its body. -/
inductive WebhookAnswer where
  | failed
  | decided (decision : String)
  deriving DecidableEq, Repr

/-- The errors of the device services. -/
inductive DeviceError where
  | namespaceNotFound (tenantID : String)
  | deviceNotFound (uid : String)
  | deviceStatusAccepted
  | deviceDuplicated (name : String)
  | deviceLimit (limit : Int)
  | maxDevicesReached (limit : Int)
  | billing
  | billingLimit
  | licenseLimit
  | deviceCreate
  | authDeviceNoIdentity
  | authDeviceNoIdentityAndHostname
  | authInvalid (field reason : String)
  | unauthorized
  | forbidden
  | installKeyForbidden
  | hook
  | store (error : StoreError)
  deriving DecidableEq, Repr

/-! ## Calls -/

/-- The attributes by which an accepted device is looked up. -/
inductive Attribute where
  | mac (value : String)
  | hostname (value : String)
  deriving DecidableEq, Repr

/-- Whether a device has the attribute. -/
def Device.has (device : Device) : Attribute → Bool
  | .mac value => device.mac = value
  | .hostname value => device.name = value

/-- The calls of the device services: statements of the store, accesses to the cache, the clock,
and questions to the webhook, the merge hooks, the billing service and the license evaluator. -/
inductive Call where
  | namespaceResolve (tenantID : String)
  | namespaceIncrementDeviceCount (tenantID : String) (status : DeviceStatus) (count : Int)
  | deviceResolve (tenantID uid : String)
  | deviceResolveAccepted (tenantID : String) (trait : Attribute)
  | deviceCreate (device : Device)
  | deviceUpdate (device : Device)
  | deviceDelete (uid : String)
  | deviceDeleteMany (uids : List String)
  | deviceHeartbeat (uid : String) (lastSeen : Nat)
  | deviceCountRemoved (cutoff : Nat)
  | deviceListRemoved (cutoff page : Nat)
  | deviceListExpiredEphemeral
  | sessionUpdateDeviceUID (old new : String)
  | tagResolve (tenantID name : String)
  | tagCreate (tenantID name : String)
  | tagPushToTarget (id uid : String)
  | installKeyResolve (tenantID id : String)
  | installKeyResolveSystem (tenantID : String) (type : InstallKeyType)
  | installKeyIncrementUsage (key : InstallKey)
  | installKeyDecrementUsage (key : InstallKey)
  | installKeyEventCreate (event : InstallKeyEvent)
  | installKeyEventStampDecision (tenantID uid : String) (status : DeviceStatus)
  | enrollmentCallbackRedeem (jti : String) (time : Nat)
  | enrollmentCallbackCleanup (before : Nat)
  | cacheGetDevice (uid : String)
  | cacheSetDevice (uid : String) (entry : CachedDevice)
  | callEnrollmentWebhook (key : InstallKey) (auth : DeviceAuth) (uid hostname : String)
  | fireDeviceMerge (tenantID : String) (old new : Device)
  | validateBilling (tenantID : String)
  | canAcceptDevice
  | clockNow
  deriving DecidableEq

/-- What each call answers. The billing service and the license evaluator answer with an error, or with
whether another device fits. -/
@[reducible]
def Call.Reply : Call → Type
  | .namespaceResolve tenantID =>
    Except StoreError { owner : Namespace // owner.tenantID = tenantID }
  | .deviceResolve _ _ => Except StoreError Device
  | .deviceResolveAccepted _ _ => Except StoreError Device
  | .deviceDeleteMany _ => Except StoreError Nat
  | .deviceHeartbeat _ _ => Except StoreError Nat
  | .deviceCountRemoved _ => Except StoreError Nat
  | .deviceListRemoved _ _ => Except StoreError (List Device)
  | .deviceListExpiredEphemeral => Except StoreError (List Device)
  | .tagResolve _ _ => Except StoreError Tag
  | .tagCreate _ _ => Except StoreError String
  | .installKeyResolve _ _ => Except StoreError InstallKey
  | .installKeyResolveSystem _ _ => Except StoreError InstallKey
  | .enrollmentCallbackRedeem _ _ => Except StoreError Bool
  | .enrollmentCallbackCleanup _ => Except StoreError Nat
  | .cacheGetDevice _ => Except StoreError (Option CachedDevice)
  | .callEnrollmentWebhook _ _ _ _ => WebhookAnswer
  | .fireDeviceMerge _ _ _ => Bool
  | .validateBilling _ => Option Bool
  | .canAcceptDevice => Option Bool
  | .clockNow => Nat
  | _ => Except StoreError Unit

end ShellHub.Devices
