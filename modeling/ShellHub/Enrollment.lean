import ShellHub.AddressTexts
import ShellHub.DeviceStatuses

/-!
# Enrollment services

The services of a device's life: authentication with first enrollment, re-registration and
reconcile; the status change and removal by a user; and the decision that an integrator
sends back later. Each is a program over actions, in the order of steps of its source.

Steps whose failure is only logged (tags, history, the cache of authenticated devices) are kept as
steps, since they take part in every interleaving. The sessions that a device names when it
authenticates are touched in tables of their own, see `Sessions.touchSessions`.
-/

namespace ShellHub.Devices

open Programs
open Addresses (trimSpace)
open LetterCase (toLower)
open Namespaces (StoreError)

/-- A program of the device services. -/
abbrev Service := Program Action Action.Reply

/-- The service step of one call. -/
def call (request : Call) : Service request.Reply := Program.perform (Action.call request)

/-- The service step of one transaction. -/
def transaction (block : Transaction) : Service (Except DeviceError Unit) :=
  Program.perform (Action.transaction block)

/-- `deviceHostname`. -/
def deviceHostname (hostname mac : String) : String :=
  if hostname ≠ "" then hostname
  else String.ofList (mac.toList.map fun letter => if letter = ':' then '-' else letter)

/-! ## Status changes -/

/-- `UpdateDeviceStatus`. A decision is stamped on the history after the transaction. -/
def updateDeviceStatus (tenantID uid : String) (status : RequestedStatus) :
    Service (Except DeviceError Unit) := do
  match ← transaction (.updateDeviceStatus tenantID uid status) with
  | .error error => return .error error
  | .ok _ =>
    if status.1 = .accepted ∨ status.1 = .rejected then
      if tenantID = "" then return .error .forbidden
      else do
        let _ ← call (.installKeyEventStampDecision tenantID uid status.1)
        return .ok ()
    else return .ok ()

/-- The request for an acceptance. -/
def accepted : RequestedStatus := ⟨.accepted, by decide⟩

/-- The request for a rejection. -/
def rejected : RequestedStatus := ⟨.rejected, by decide⟩

/-! ## Enrollment decisions -/

/-- `enrollmentDecision`. -/
inductive EnrollmentDecision where
  | accept
  | reject
  | pending
  deriving DecidableEq, Repr

/-- How the answer of an enrollment webhook is read. Anything but a clear decision, a failure of
the call included, leaves the device pending. -/
def webhookDecision : WebhookAnswer → EnrollmentDecision
  | .failed => .pending
  | .decided decision =>
    if decision = "accept" then .accept else if decision = "reject" then .reject else .pending

/-- `evaluateEnrollment`. -/
def evaluateEnrollment (key : Option InstallKey) (auth : DeviceAuth) (mac uid hostname : String)
    (paired : Bool) : Service EnrollmentDecision :=
  match key with
  | none => return .pending
  | some key =>
    if paired then return .accept
    else match key.mode with
      | .automatic => return .accept
      | .manual => return .pending
      | .allowlist =>
        return if toLower (trimSpace mac) ∈ key.allowedMACs then .accept else .reject
      | .webhook => do return webhookDecision (← call (.callEnrollmentWebhook key auth uid hostname))
      | .unknown => return .pending

/-- `recordEnrollment`: the history event of an enrollment, unless it has no key. -/
def recordEnrollment (key : Option InstallKey) (auth : DeviceAuth) (mac uid hostname : String)
    (reRegistration : Bool) : Service Unit :=
  match key with
  | none => return ()
  | some key => do
    let _ ← call (.installKeyEventCreate
      { installKeyID := key.id, tenantID := auth.tenantID, deviceUID := uid, hostname
        sourceIP := auth.realIP, publicKey := auth.publicKey, ephemeral := key.ephemeral
        reRegistration, mac, info := auth.info, createdAt := 0, decidedStatus := none
        decidedAt := none })
    return ()

/-- Reserve a use of the key, if there is one. -/
def reserveUse (key : Option InstallKey) : Service (Except StoreError Unit) :=
  match key with
  | none => return .ok ()
  | some key => call (.installKeyIncrementUsage key)

/-- Return a reserved use of the key, if there is one. -/
def releaseUse (key : Option InstallKey) : Service Unit :=
  match key with
  | none => return ()
  | some key => do
    let _ ← call (.installKeyDecrementUsage key)
    return ()

/-- The accept branch of `applyEnrollmentDecision`: reserve, accept, and release if the acceptance
fails. -/
def acceptEnrollment (key : Option InstallKey) (tenantID uid : String) : Service DeviceStatus := do
  match ← reserveUse key with
  | .error _ => return .pending
  | .ok _ =>
    match ← updateDeviceStatus tenantID uid accepted with
    | .error _ =>
      releaseUse key
      return .pending
    | .ok _ => return .accepted

/-- `applyEnrollmentDecision`, after the history event. -/
def applyEnrollmentDecision (decision : EnrollmentDecision) (key : Option InstallKey)
    (tenantID uid : String) : Service DeviceStatus :=
  match decision with
  | .accept => acceptEnrollment key tenantID uid
  | .reject => do
    match ← updateDeviceStatus tenantID uid rejected with
    | .error _ => return .pending
    | .ok _ => return .rejected
  | .pending => return .pending

/-- `applyInstallKeyTags` for one tag. -/
def applyInstallKeyTag (tenantID uid name : String) : Service Unit := do
  match ← call (.tagResolve tenantID name) with
  | .ok tag =>
    let _ ← call (.tagPushToTarget tag.id uid)
    return ()
  | .error .noDocuments =>
    match ← call (.tagCreate tenantID name) with
    | .error _ => return ()
    | .ok id =>
      let _ ← call (.tagPushToTarget id uid)
      return ()
  | .error _ => return ()

/-- `applyInstallKeyTags`. -/
def applyInstallKeyTags (tenantID uid : String) : List String → Service Unit
  | [] => return ()
  | name :: rest => do
    applyInstallKeyTag tenantID uid name
    applyInstallKeyTags tenantID uid rest

/-- The tags a key gives to its devices. -/
def keyTags (key : Option InstallKey) : List String := (key.map InstallKey.tags).getD []

/-- `enrollmentInstallKey`. -/
def enrollmentInstallKey (server : Server) (auth : DeviceAuth) (paired : Bool) :
    Service (Except DeviceError (Option InstallKey)) :=
  if auth.installKey ≠ "" then do
    match ← call (.installKeyResolve auth.tenantID (server.hashInstallKey auth.installKey)) with
    | .error _ => return .error (.authInvalid "install_key" "invalid")
    | .ok key =>
      let now ← call .clockNow
      if key.isSystem || !key.isValid now then
        return .error (.authInvalid "install_key" "invalid")
      else return .ok (some key)
  else if paired then do
    match ← call (.installKeyResolveSystem auth.tenantID .pairing) with
    | .error _ => return .ok none
    | .ok key => return .ok (some key)
  else do
    match ← call (.installKeyResolveSystem auth.tenantID .legacy) with
    | .error _ => return .ok none
    | .ok key =>
      let now ← call .clockNow
      if !key.isValid now then return .error (.authInvalid "install_key" "required")
      else return .ok (some key)

/-! ## Authentication -/

/-- What `authDevice` works on: the request, with the identity and the names derived from it. -/
structure Enrollee where
  auth : DeviceAuth
  mac : String
  hostname : String
  uid : String
  paired : Bool

/-- The row of a device that enrolls for the first time. -/
def newDevice (server : Server) (enrollee : Enrollee) (key : Option InstallKey) (now : Nat) :
    Device :=
  { uid := enrollee.uid
    tenantID := enrollee.auth.tenantID
    name := toLower enrollee.hostname
    mac := enrollee.mac
    publicKey := enrollee.auth.publicKey
    status := .pending
    removedAt := none
    lastSeen := now
    disconnectedAt := none
    info := enrollee.auth.info
    remoteAddr := if server.isIP enrollee.auth.realIP then enrollee.auth.realIP else ""
    ephemeral := key.any InstallKey.ephemeral
    ephemeralTimeout := ((key.filter InstallKey.ephemeral).map InstallKey.ephemeralTimeout).getD 0
    installKeyID := (key.map InstallKey.id).getD ""
    lastEnrollmentAttemptAt := none }

/-- The history event, the policy decision and its application for a fresh enrollment. -/
def decideEnrollment (enrollee : Enrollee) (key : Option InstallKey) (decision : EnrollmentDecision)
    (reRegistration : Bool) : Service DeviceStatus := do
  recordEnrollment key enrollee.auth enrollee.mac enrollee.uid enrollee.hostname reRegistration
  applyEnrollmentDecision decision key enrollee.auth.tenantID enrollee.uid

/-- The branch of `authDevice` for a device that is not stored. -/
def enrollDevice (server : Server) (enrollee : Enrollee) :
    Service (Except DeviceError Device) := do
  match ← enrollmentInstallKey server enrollee.auth enrollee.paired with
  | .error error => return .error error
  | .ok key =>
    let now ← call .clockNow
    let device := newDevice server enrollee key now
    match ← call (.deviceCreate device) with
    | .error _ => return .error .deviceCreate
    | .ok _ =>
      match ← call (.namespaceIncrementDeviceCount enrollee.auth.tenantID device.status 1) with
      | .error error => return .error (.store error)
      | .ok _ =>
        applyInstallKeyTags enrollee.auth.tenantID enrollee.uid (keyTags key)
        let decision ← evaluateEnrollment key enrollee.auth enrollee.mac enrollee.uid
          enrollee.hostname enrollee.paired
        let status ← decideEnrollment enrollee key decision false
        return .ok { device with status }

/-- What the in-memory device takes from a decision: a pending outcome changes nothing. -/
def withOutcome (device : Device) (status : DeviceStatus) : Device :=
  if status ≠ .pending then { device with status } else device

/-- The in-memory device of a re-registration. -/
def reRegistered (device : Device) (key : Option InstallKey) : Device :=
  { device with
    removedAt := none
    status := .pending
    ephemeral := key.any InstallKey.ephemeral
    ephemeralTimeout := ((key.filter InstallKey.ephemeral).map InstallKey.ephemeralTimeout).getD 0
    installKeyID := (key.map InstallKey.id).getD "" }

/-- The write of the pending transition, before a decision that goes through the status change. -/
def persistPending (decision : EnrollmentDecision) (device : Device) :
    Service (Except StoreError Unit) :=
  if decision = .pending then return .ok () else call (.deviceUpdate device)

/-- The branch of `authDevice` for a device that was removed. -/
def reRegisterDevice (server : Server) (enrollee : Enrollee) (device : Device) :
    Service (Except DeviceError Device) := do
  match ← enrollmentInstallKey server enrollee.auth enrollee.paired with
  | .error error => return .error error
  | .ok key =>
    let device := reRegistered device key
    match ← call (.namespaceIncrementDeviceCount enrollee.auth.tenantID .removed (-1)) with
    | .error error => return .error (.store error)
    | .ok _ =>
      match ← call (.namespaceIncrementDeviceCount enrollee.auth.tenantID .pending 1) with
      | .error error => return .error (.store error)
      | .ok _ =>
        applyInstallKeyTags enrollee.auth.tenantID enrollee.uid (keyTags key)
        let decision ← evaluateEnrollment key enrollee.auth enrollee.mac enrollee.uid
          enrollee.hostname enrollee.paired
        match ← persistPending decision device with
        | .error error => return .error (.store error)
        | .ok _ =>
          let status ← decideEnrollment enrollee key decision true
          return .ok (withOutcome device status)

/-- `EnrollmentReconcileInterval`. -/
def enrollmentReconcileInterval : Nat := 60

/-- `reconcileEnrollment`. It returns the device with the attempt and its outcome. -/
def reconcileEnrollment (enrollee : Enrollee) (device : Device) : Service Device :=
  if device.installKeyID = "" then return device
  else do
    let now ← call .clockNow
    if device.lastEnrollmentAttemptAt.any fun last => now - last < enrollmentReconcileInterval then
      return device
    else do
      match ← call (.installKeyResolve device.tenantID device.installKeyID) with
      | .error _ => return device
      | .ok key =>
        if !key.isValid now || !key.reconcilableOnAuth then return device
        else do
          let attempted := { device with lastEnrollmentAttemptAt := some now }
          let decision ← evaluateEnrollment (some key) enrollee.auth enrollee.mac enrollee.uid
            enrollee.hostname false
          let status ← applyEnrollmentDecision decision (some key) enrollee.auth.tenantID
            enrollee.uid
          return withOutcome attempted status

/-- The part of `authDevice` that brings a stored device up to date, before it is written back. -/
def advanceDevice (server : Server) (enrollee : Enrollee) (device : Device) :
    Service (Except DeviceError Device) :=
  if device.removedAt.isSome then reRegisterDevice server enrollee device
  else if device.status = .pending then do return .ok (← reconcileEnrollment enrollee device)
  else return .ok device

/-- The stored device with what the connection itself changes. -/
def reconnected (server : Server) (enrollee : Enrollee) (device : Device) (now : Nat) : Device :=
  { device with
    lastSeen := now
    disconnectedAt := none
    remoteAddr :=
      if server.isIP enrollee.auth.realIP then enrollee.auth.realIP else device.remoteAddr }

/-- The device information of a request replaces the stored one, if it is given. -/
def withInfo (device : Device) (info : Option DeviceInfo) : Device :=
  { device with info := info.or device.info }

/-- The branch of `authDevice` for a stored device: bring it up to date, write the whole row back,
and mark it online. -/
def refreshDevice (server : Server) (enrollee : Enrollee) (stored : Device) :
    Service (Except DeviceError Device) := do
  let now ← call .clockNow
  match ← advanceDevice server enrollee (reconnected server enrollee stored now) with
  | .error error => return .error error
  | .ok advanced =>
    let device := withInfo advanced enrollee.auth.info
    match ← call (.deviceUpdate device) with
    | .error error => return .error (.store error)
    | .ok _ =>
      match ← call (.deviceHeartbeat enrollee.uid device.lastSeen) with
      | .error error => return .error (.store error)
      | .ok _ => return .ok device

/-- `DeviceAuthResponse`. A response from the cache has no status. -/
structure DeviceAuthResponse where
  uid : String
  name : String
  namespaceName : String
  status : Option DeviceStatus
  deriving DecidableEq, Repr

/-- The device of an enrollee, enrolled or brought up to date. -/
def materializeDevice (server : Server) (enrollee : Enrollee) :
    Service (Except DeviceError Device) := do
  match ← call (.deviceResolve enrollee.auth.tenantID enrollee.uid) with
  | .error .noDocuments => enrollDevice server enrollee
  | .error error => return .error (.store error)
  | .ok device => refreshDevice server enrollee device

/-- `authDevice` after the request was checked. -/
def authEnrollee (server : Server) (owner : Namespace) (enrollee : Enrollee) :
    Service (Except DeviceError DeviceAuthResponse) := do
  match (((← call (.cacheGetDevice enrollee.uid)).toOption).join).filter
      fun cached => cached.deviceName ≠ "" with
  | some cached =>
    return .ok ⟨enrollee.uid, cached.deviceName, cached.namespaceName, none⟩
  | none =>
    match ← materializeDevice server enrollee with
    | .error error => return .error error
    | .ok device =>
      let _ ← call (.cacheSetDevice enrollee.uid ⟨device.name, owner.name⟩)
      return .ok ⟨enrollee.uid, device.name, owner.name, some device.status⟩

/-- The enrollee of a request with an identity and a hostname. -/
def enrolleeOf (server : Server) (auth : DeviceAuth) (mac : String) (paired : Bool) : Enrollee :=
  let hostname := deviceHostname auth.hostname mac
  { auth, mac, hostname, paired
    uid := server.uid (toLower hostname) mac auth.publicKey auth.tenantID }

/-- `authDevice`. `AuthDevice` is the case that is not paired. -/
def authDevice (server : Server) (auth : DeviceAuth) (paired : Bool) :
    Service (Except DeviceError DeviceAuthResponse) := do
  match ← call (.namespaceResolve auth.tenantID) with
  | .error _ => return .error (.namespaceNotFound auth.tenantID)
  | .ok owner =>
    match auth.identity with
    | none => return .error .authDeviceNoIdentity
    | some mac =>
      if deviceHostname auth.hostname mac = "" then return .error .authDeviceNoIdentityAndHostname
      else authEnrollee server owner.1 (enrolleeOf server auth mac paired)

/-! ## Services of a user -/

/-- The write of `DeleteDevice`: an accepted device is kept as removed, any other is deleted. -/
def removeRow (tenantID : String) (device : Device) : Service (Except StoreError Unit) :=
  if device.status = .accepted then do
    let now ← call .clockNow
    match ← call (.deviceUpdate { device with status := .removed, removedAt := some now }) with
    | .error error => return .error error
    | .ok _ => call (.namespaceIncrementDeviceCount tenantID .removed 1)
  else call (.deviceDelete device.uid)

/-- `DeleteDevice`. -/
def deleteDevice (tenantID uid : String) : Service (Except DeviceError Unit) :=
  if tenantID = "" then return .error .forbidden
  else do
    match ← call (.deviceResolve tenantID uid) with
    | .error _ => return .error (.deviceNotFound uid)
    | .ok device =>
      match ← removeRow tenantID device with
      | .error error => return .error (.store error)
      | .ok _ =>
        match ← call (.namespaceIncrementDeviceCount tenantID device.status (-1)) with
        | .error error => return .error (.store error)
        | .ok _ => return .ok ()

/-! ## Deferred decisions and cleanups -/

/-- What a valid enrollment callback token says: the device, tenant and key it was minted for, and
its own identifier. -/
structure CallbackToken where
  tenantID : String
  deviceUID : String
  installKeyID : String
  jti : String
  deriving DecidableEq, Repr

/-- The accept branch of `ResolveEnrollmentCallback`. -/
def acceptCallback (token : CallbackToken) : Service (Except DeviceError Unit) :=
  if token.tenantID = "" then return .error .installKeyForbidden
  else do
    match ← call (.installKeyResolve token.tenantID token.installKeyID) with
    | .error _ => return .error .installKeyForbidden
    | .ok key =>
      let now ← call .clockNow
      if !key.isValid now then return .error .installKeyForbidden
      else do
        match ← reserveUse (some key) with
        | .error _ => return .error .installKeyForbidden
        | .ok _ =>
          match ← updateDeviceStatus token.tenantID token.deviceUID accepted with
          | .error error =>
            releaseUse (some key)
            return .error error
          | .ok _ => return .ok ()

/-- `ResolveEnrollmentCallback`. A token that does not verify is `none`. -/
def resolveEnrollmentCallback (token : Option CallbackToken) (reject : Bool) :
    Service (Except DeviceError Unit) :=
  match token with
  | none => return .error .unauthorized
  | some token => do
    let now ← call .clockNow
    match ← call (.enrollmentCallbackRedeem token.jti now) with
    | .error error => return .error (.store error)
    | .ok false => return .error .unauthorized
    | .ok true =>
      if reject then updateDeviceStatus token.tenantID token.deviceUID rejected
      else acceptCallback token

/-- `DeviceCleanup`. -/
def deviceCleanup : Service (Except DeviceError Unit) := transaction .deviceCleanup

/-- `EphemeralCleanup`. -/
def ephemeralCleanup : Service (Except DeviceError Unit) := transaction .ephemeralCleanup

/-! ## Steps beside the devices -/

/-- Actions that touch neither devices nor counters, keys or redemptions: tags, history, the clock,
the webhook and the cache of authenticated devices. -/
def Action.Aside : Action → Prop
  | .call request =>
    match request with
    | .tagResolve _ _ | .tagCreate _ _ | .tagPushToTarget _ _ | .installKeyEventCreate _
    | .installKeyEventStampDecision _ _ _ | .cacheSetDevice _ _
    | .callEnrollmentWebhook _ _ _ _ | .clockNow => True
    | _ => False
  | .transaction _ => False

/-- Actions that touch tags, history, the clock and the webhook only. -/
def Action.Detached : Action → Prop
  | .call request =>
    match request with
    | .tagResolve _ _ | .tagCreate _ _ | .tagPushToTarget _ _ | .installKeyEventCreate _
    | .installKeyEventStampDecision _ _ _ | .callEnrollmentWebhook _ _ _ _ | .clockNow => True
    | _ => False
  | .transaction _ => False

theorem Action.Detached.aside {action : Action} (detached : action.Detached) : action.Aside := by
  cases action with
  | call request => cases request <;> trivial
  | transaction block => exact detached.elim

/-- Actions that look an install key up. -/
def Action.KeyLookup : Action → Prop
  | .call request =>
    match request with
    | .installKeyResolve _ _ | .installKeyResolveSystem _ _ | .clockNow => True
    | _ => False
  | .transaction _ => False

/-- Tags are looked up, created and pushed, and nothing else. -/
theorem applyInstallKeyTags_detached (tenantID uid : String) (tags : List String) :
    (applyInstallKeyTags tenantID uid tags).Uses Action.Detached := by
  induction tags with
  | nil => trivial
  | cons name rest ih =>
    refine Program.Uses.bind ?_ fun _ => ih
    repeat' first
      | exact True.intro | exact ⟨True.intro, fun _ => True.intro⟩ | split | refine .bind ?_ fun _ => ?_

theorem applyInstallKeyTags_uses (tenantID uid : String) (tags : List String) :
    (applyInstallKeyTags tenantID uid tags).Uses Action.Aside :=
  (applyInstallKeyTags_detached tenantID uid tags).mono fun _ => Action.Detached.aside

/-- A policy is evaluated without a step, or with the answer of the webhook. -/
theorem evaluateEnrollment_detached (key : Option InstallKey) (auth : DeviceAuth)
    (mac uid hostname : String) (paired : Bool) :
    (evaluateEnrollment key auth mac uid hostname paired).Uses Action.Detached := by
  unfold evaluateEnrollment
  repeat' first | exact True.intro | exact ⟨True.intro, fun _ => True.intro⟩ | split

theorem evaluateEnrollment_uses (key : Option InstallKey) (auth : DeviceAuth)
    (mac uid hostname : String) (paired : Bool) :
    (evaluateEnrollment key auth mac uid hostname paired).Uses Action.Aside :=
  (evaluateEnrollment_detached key auth mac uid hostname paired).mono
    fun _ => Action.Detached.aside

theorem recordEnrollment_detached (key : Option InstallKey) (auth : DeviceAuth)
    (mac uid hostname : String) (reRegistration : Bool) :
    (recordEnrollment key auth mac uid hostname reRegistration).Uses Action.Detached := by
  cases key with
  | none => trivial
  | some key => exact ⟨trivial, fun _ => trivial⟩

theorem recordEnrollment_uses (key : Option InstallKey) (auth : DeviceAuth)
    (mac uid hostname : String) (reRegistration : Bool) :
    (recordEnrollment key auth mac uid hostname reRegistration).Uses Action.Aside :=
  (recordEnrollment_detached key auth mac uid hostname reRegistration).mono
    fun _ => Action.Detached.aside

/-- A pending decision of an enrollment touches the history only. -/
theorem decideEnrollment_pending {γ : Type} {contract : Contract Action Action.Reply γ} {ghost : γ}
    (ignored : contract.Ignores Action.Aside ghost) (enrollee : Enrollee)
    (key : Option InstallKey) (reRegistration : Bool) :
    (decideEnrollment enrollee key .pending reRegistration).Meets contract ghost
      fun status next => status = .pending ∧ next = ghost := by
  refine ((recordEnrollment_uses ..).meets ignored).bind ?_
  rintro _ _ rfl
  exact ⟨rfl, rfl⟩

/-- A lookup asks for the named key or a system key, and for the time. -/
theorem enrollmentInstallKey_uses (server : Server) (auth : DeviceAuth) (paired : Bool) :
    (enrollmentInstallKey server auth paired).Uses Action.KeyLookup := by
  unfold enrollmentInstallKey
  repeat' first
    | exact True.intro | exact ⟨True.intro, fun _ => True.intro⟩ | split | refine .bind ?_ fun _ => ?_

end ShellHub.Devices
