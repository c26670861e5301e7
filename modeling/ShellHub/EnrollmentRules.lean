import ShellHub.Enrollment

/-!
# Rules for enrollments

An authentication looks a key up, evaluates its policy, and carries the decision out. Many
properties of it concern the keys or the redemptions only, and not what it reads and writes of the
device in between. The rule of this module reduces such a property to its parts: what
a lookup tells, and what carrying a decision out does.

It needs to know what the rest leaves alone. Install keys are changed by two calls only, and by no
transaction.
-/

namespace ShellHub.Devices

open Programs

/-- Actions that read or write devices, their counters, and the cache of authenticated devices, and
that create devices in one namespace only. -/
def Action.DeviceAccess (tenantID : String) : Action → Prop
  | .call request =>
    match request with
    | .deviceCreate device => device.tenantID = tenantID
    | .namespaceResolve _ | .namespaceIncrementDeviceCount _ _ _ | .deviceResolve _ _
    | .deviceUpdate _ | .deviceHeartbeat _ _ | .cacheGetDevice _ => True
    | _ => False
  | .transaction _ => False

/-! ## What is left alone -/

/-- The calls that transactions make. -/
def Call.Transactional : Call → Prop
  | .namespaceResolve _ | .namespaceIncrementDeviceCount _ _ _ | .deviceResolve _ _
  | .deviceResolveAccepted _ _ | .deviceUpdate _ | .deviceDelete _ | .deviceDeleteMany _
  | .deviceCountRemoved _ | .deviceListRemoved _ _ | .deviceListExpiredEphemeral
  | .sessionUpdateDeviceUID _ _ | .fireDeviceMerge _ _ _ | .validateBilling _ | .canAcceptDevice
  | .clockNow => True
  | _ => False

/-- Calls that change no install key. -/
def Call.SparesKeys : Call → Prop
  | .installKeyIncrementUsage _ | .installKeyDecrementUsage _ => False
  | _ => True

/-- No call of a transaction changes an install key. -/
theorem Call.Transactional.spares {request : Call} (transactional : request.Transactional) :
    request.SparesKeys := by
  cases request <;> trivial

/-- A call that spares the install keys leaves them as they are. -/
theorem callMeaning_installKeys (request : Call) (around : Surroundings) (fleet : Fleet)
    (spares : request.SparesKeys) :
    (callMeaning request around fleet).2.installKeys = fleet.installKeys := by
  unfold callMeaning
  split
  · rfl
  · cases request
    all_goals try exact spares.elim
    all_goals
      simp only [Fleet.perform]
      repeat' split
    all_goals rfl

/-- A status change and the merge before it are made of statements about devices. -/
theorem updateDeviceStatusBody_transactional (server : Server) (tenantID uid : String)
    (status : RequestedStatus) :
    (updateDeviceStatusBody server tenantID uid status).Uses Call.Transactional := by
  unfold updateDeviceStatusBody prepareAcceptance validateDeviceAcceptance evaluateBilling
    evaluateLicense mergeDevice existingDevice writeStatus moveCounters
  repeat' first
    | exact True.intro | exact ⟨True.intro, fun _ => True.intro⟩ | split | refine .bind ?_ fun _ => ?_

/-- The counters are moved bucket by bucket, inside the transaction. -/
theorem decrementBuckets_transactional (tally buckets : List (String × DeviceStatus)) :
    (decrementBuckets tally buckets).Uses Call.Transactional := by
  induction buckets with
  | nil => trivial
  | cons bucket rest ih =>
    refine ⟨trivial, ?_⟩
    rintro (error | _)
    · trivial
    · exact ih

/-- The page loop of the cleanup lists devices and deletes them. -/
theorem cleanupPages_transactional (cutoff pages page : Nat) (tally : List (String × DeviceStatus)) :
    (cleanupPages cutoff pages page tally).Uses Call.Transactional := by
  induction pages generalizing page tally with
  | zero => trivial
  | succ pages ih =>
    repeat' first
      | exact True.intro | exact ih _ _ | exact ⟨True.intro, fun _ => True.intro⟩ | split
      | refine .bind ?_ fun _ => ?_

/-- The statements of a transaction spare the install keys. -/
theorem Transaction.body_transactional (server : Server) (block : Transaction) :
    (block.body server).Uses Call.Transactional := by
  cases block with
  | updateDeviceStatus tenantID uid status =>
    exact updateDeviceStatusBody_transactional server tenantID uid status
  | deviceCleanup | ephemeralCleanup =>
    unfold Transaction.body
    dsimp only [deviceCleanupBody, ephemeralCleanupBody]
    repeat' first
      | exact True.intro | exact cleanupPages_transactional _ _ _ _
      | exact decrementBuckets_transactional _ _ | exact ⟨True.intro, fun _ => True.intro⟩ | split
      | refine .bind ?_ fun _ => ?_

/-- A transaction leaves the install keys as they are. -/
theorem transact_installKeys (server : Server) (block : Transaction)
    (inputs : Nat → Surroundings) (fleet : Fleet) :
    (transact server block inputs fleet).2.installKeys = fleet.installKeys := by
  unfold transact
  split
  · rfl
  dsimp only
  split
  · rfl
  · apply (block.body_transactional server).run_eq
    intro request around before transactional
    exact callMeaning_installKeys request around before transactional.spares

/-! ## Enrollments -/

/-- What a contract has to say for the enrollments of a device. Between its decisions a thread is in
an idle ghost state. A lookup ends in an idle one and makes its answer usable: a key that passes, or
no key. Carrying out a decision with a usable answer ends in an idle state again. -/
structure Enrolls {γ : Type} (contract : Contract Action Action.Reply γ) (idle : γ → Prop)
    (usable : γ → Option InstallKey → Prop) (tenantID uid : String) : Prop where
  aside : ∀ ghost, idle ghost → contract.Ignores Action.Aside ghost
  devices : ∀ ghost, idle ghost → contract.Ignores (Action.DeviceAccess tenantID) ghost
  resolves : ∀ ghost tenant id, idle ghost →
    contract.allowed ghost (.call (.installKeyResolve tenant id)) ∧
      ∀ reply next, contract.yields ghost (.call (.installKeyResolve tenant id)) reply next →
        idle next ∧ ∀ key now, reply = .ok key → key.isValid now → usable next (some key)
  system : ∀ ghost tenant type, idle ghost →
    contract.allowed ghost (.call (.installKeyResolveSystem tenant type)) ∧
      ∀ reply next, contract.yields ghost (.call (.installKeyResolveSystem tenant type)) reply next →
        idle next ∧ (∀ error, reply = .error error → usable next none) ∧
          ∀ key now, reply = .ok key → type = .pairing ∨ key.isValid now → usable next (some key)
  decides : ∀ ghost decision key, idle ghost → usable ghost key →
    (applyEnrollmentDecision decision key tenantID uid).Meets contract ghost fun _ next => idle next

namespace Enrolls

variable {γ : Type} {contract : Contract Action Action.Reply γ} {idle : γ → Prop}
  {usable : γ → Option InstallKey → Prop} {server : Server} {enrollee : Enrollee} {ghost : γ}

/-- An ignored call leaves the ghost state alone. -/
theorem ignored {made : Action → Prop} {request : Call} (ignores : contract.Ignores made ghost)
    (kind : made (.call request)) {α : Type} {next : request.Reply → Service α}
    {post : α → γ → Prop} (continues : ∀ reply, (next reply).Meets contract ghost post) :
    (call request >>= next).Meets contract ghost post := by
  obtain ⟨allowed, unmoved⟩ := ignores _ kind
  refine ⟨allowed, ?_⟩
  intro reply ghost' yielded
  rw [unmoved reply ghost' yielded]
  exact continues reply

/-- A key lookup returns usable keys only. -/
theorem enrollmentInstallKey {tenantID uid : String}
    (enrolls : Enrolls contract idle usable tenantID uid) (start : idle ghost) (auth : DeviceAuth)
    (paired : Bool) :
    (Devices.enrollmentInstallKey server auth paired).Meets contract ghost fun result next =>
      idle next ∧ ∀ key, result = .ok key → usable next key := by
  unfold Devices.enrollmentInstallKey
  split
  · obtain ⟨allowed, answers⟩ := enrolls.resolves ghost auth.tenantID
      (server.hashInstallKey auth.installKey) start
    refine ⟨allowed, ?_⟩
    rintro (error | key) ghost yielded
    · exact ⟨(answers _ ghost yielded).1, by rintro _ ⟨⟩⟩
    obtain ⟨still, passes⟩ := answers _ ghost yielded
    refine ignored (enrolls.aside ghost still) (by trivial) ?_
    intro now
    split
    · exact ⟨still, by rintro _ ⟨⟩⟩
    · rename_i valid
      refine ⟨still, ?_⟩
      rintro _ ⟨⟩
      simp only [Bool.or_eq_true, Bool.not_eq_eq_eq_not, Bool.not_true, not_or,
        Bool.not_eq_false] at valid
      exact passes key now rfl valid.2
  split
  · obtain ⟨allowed, answers⟩ := enrolls.system ghost auth.tenantID .pairing start
    refine ⟨allowed, ?_⟩
    rintro (error | key) ghost yielded
    all_goals
      obtain ⟨still, misses, passes⟩ := answers _ ghost yielded
      refine ⟨still, ?_⟩
      rintro _ ⟨⟩
    · exact misses error rfl
    · exact passes key 0 rfl (.inl rfl)
  · obtain ⟨allowed, answers⟩ := enrolls.system ghost auth.tenantID .legacy start
    refine ⟨allowed, ?_⟩
    rintro (error | key) ghost yielded
    all_goals obtain ⟨still, misses, passes⟩ := answers _ ghost yielded
    · refine ⟨still, ?_⟩
      rintro _ ⟨⟩
      exact misses error rfl
    refine ignored (enrolls.aside ghost still) (by trivial) ?_
    intro now
    split
    · exact ⟨still, by rintro _ ⟨⟩⟩
    · rename_i valid
      refine ⟨still, ?_⟩
      rintro _ ⟨⟩
      exact passes key now rfl (.inr (by simpa using valid))

section Enrollee

variable (enrolls : Enrolls contract idle usable enrollee.auth.tenantID enrollee.uid)
  (start : idle ghost)

include enrolls start

/-- The decision of a fresh enrollment with its history event. -/
theorem decideEnrollment {key : Option InstallKey} (known : usable ghost key)
    (decision : EnrollmentDecision) (reRegistration : Bool) :
    (Devices.decideEnrollment enrollee key decision reRegistration).Meets contract ghost
      fun _ next => idle next := by
  refine ((recordEnrollment_uses ..).meets (enrolls.aside ghost start)).bind ?_
  rintro _ _ rfl
  exact enrolls.decides _ decision key start known

/-- A fresh enrollment looks a key up, creates the device, and carries out what the key's policy decides. -/
theorem enrollDevice :
    (Devices.enrollDevice server enrollee).Meets contract ghost fun _ next => idle next := by
  refine (enrolls.enrollmentInstallKey start enrollee.auth enrollee.paired).bind ?_
  rintro (error | key) ghost ⟨start, known⟩
  · exact start
  refine ignored (enrolls.aside ghost start) (by trivial) fun now => ?_
  refine ignored (enrolls.devices ghost start) (by rfl) ?_
  rintro (error | _)
  · exact start
  refine ignored (enrolls.devices ghost start) (by trivial) ?_
  rintro (error | _)
  · exact start
  refine ((applyInstallKeyTags_uses ..).meets (enrolls.aside ghost start)).bind ?_
  rintro _ ghost rfl
  refine ((evaluateEnrollment_uses ..).meets (enrolls.aside ghost start)).bind ?_
  rintro decision ghost rfl
  refine (enrolls.decideEnrollment start (known key rfl) decision false).bind ?_
  intro status next still
  exact still

/-- Writing a device that stays pending leaves the ghost state alone. -/
theorem persistPending (decision : EnrollmentDecision) (device : Device) :
    (Devices.persistPending decision device).Meets contract ghost
      fun _ next => next = ghost := by
  unfold Devices.persistPending
  split
  · rfl
  · obtain ⟨allowed, unmoved⟩ := enrolls.devices ghost start (.call (.deviceUpdate device)) trivial
    exact ⟨allowed, unmoved⟩

/-- A removed device that comes back is enrolled again, under the key it now brings. -/
theorem reRegisterDevice (device : Device) :
    (Devices.reRegisterDevice server enrollee device).Meets contract ghost
      fun _ next => idle next := by
  refine (enrolls.enrollmentInstallKey start enrollee.auth enrollee.paired).bind ?_
  rintro (error | key) ghost ⟨start, known⟩
  · exact start
  refine ignored (enrolls.devices ghost start) (by trivial) ?_
  rintro (error | _)
  · exact start
  refine ignored (enrolls.devices ghost start) (by trivial) ?_
  rintro (error | _)
  · exact start
  refine ((applyInstallKeyTags_uses ..).meets (enrolls.aside ghost start)).bind ?_
  rintro _ ghost rfl
  refine ((evaluateEnrollment_uses ..).meets (enrolls.aside ghost start)).bind ?_
  rintro decision ghost rfl
  refine (enrolls.persistPending start decision (reRegistered device key)).bind ?_
  rintro (error | _) ghost rfl
  · exact start
  refine (enrolls.decideEnrollment start (known key rfl) decision true).bind ?_
  intro status next still
  exact still

/-- A pending device is decided on again if the key that enrolled it is still valid. -/
theorem reconcileEnrollment (device : Device) :
    (Devices.reconcileEnrollment enrollee device).Meets contract ghost
      fun _ next => idle next := by
  unfold Devices.reconcileEnrollment
  split
  · exact start
  refine ignored (enrolls.aside ghost start) (by trivial) fun now => ?_
  split
  · exact start
  obtain ⟨allowed, answers⟩ := enrolls.resolves ghost device.tenantID device.installKeyID start
  refine .perform allowed ?_
  rintro (error | key) ghost yielded
  · exact (answers _ ghost yielded).1
  obtain ⟨start, passes⟩ := answers _ ghost yielded
  dsimp only
  split
  · exact start
  rename_i valid
  refine ((evaluateEnrollment_uses ..).meets (enrolls.aside ghost start)).bind ?_
  rintro decision ghost rfl
  have known : usable ghost (some key) := by
    simp only [Bool.or_eq_true, Bool.not_eq_eq_eq_not, Bool.not_true, not_or,
      Bool.not_eq_false] at valid
    exact passes key now rfl valid.1
  refine (enrolls.decides _ decision (some key) start known).bind ?_
  intro status next still
  exact still

/-- A known device is advanced first, and then written and counted. -/
theorem refreshDevice (stored : Device) :
    (Devices.refreshDevice server enrollee stored).Meets contract ghost
      fun _ next => idle next := by
  have advanced : ∀ device, (Devices.advanceDevice server enrollee device).Meets contract ghost
      fun _ next => idle next := by
    intro device
    unfold Devices.advanceDevice
    split
    · exact enrolls.reRegisterDevice start device
    split
    · exact (enrolls.reconcileEnrollment start device).bind fun _ _ still => still
    · exact start
  refine ignored (enrolls.aside ghost start) (by trivial) fun now => ?_
  refine (advanced _).bind ?_
  rintro (error | device) ghost start
  · exact start
  refine ignored (enrolls.devices ghost start) (by trivial) ?_
  rintro (error | _)
  · exact start
  refine ignored (enrolls.devices ghost start) (by trivial) ?_
  rintro (error | _) <;> exact start

/-- An authentication that is not cached enrolls the device or refreshes it. -/
theorem authEnrollee (owner : Namespace) :
    (Devices.authEnrollee server owner enrollee).Meets contract ghost fun _ next => idle next := by
  have materialized : (Devices.materializeDevice server enrollee).Meets contract ghost
      fun _ next => idle next := by
    refine ignored (enrolls.devices ghost start) (by trivial) ?_
    rintro (error | stored)
    · cases error with
      | noDocuments => exact enrolls.enrollDevice start
      | _ => exact start
    · exact enrolls.refreshDevice start stored
  refine ignored (enrolls.devices ghost start) (by trivial) fun cached => ?_
  split
  · exact start
  refine materialized.bind ?_
  rintro (error | device) ghost start
  · exact start
  exact ignored (enrolls.aside ghost start) (by trivial) fun _ => start

end Enrollee

end Enrolls

/-- An authentication keeps what the enrollments of its device keep. -/
theorem authDevice_enrolls {γ : Type} {contract : Contract Action Action.Reply γ}
    {idle : γ → Prop} {usable : γ → Option InstallKey → Prop} {server : Server} {auth : DeviceAuth}
    {paired : Bool} {ghost : γ}
    (enrolls : ∀ mac ∈ auth.identity,
      Enrolls contract idle usable auth.tenantID (enrolleeOf server auth mac paired).uid)
    (start : idle ghost) (lookup : contract.Ignores (Action.DeviceAccess auth.tenantID) ghost) :
    (authDevice server auth paired).Meets contract ghost fun _ next => idle next := by
  refine Enrolls.ignored lookup (by trivial) ?_
  rintro (error | owner)
  · exact start
  dsimp only
  split
  · exact start
  rename_i mac identity
  split
  · exact start
  · have rules : Enrolls contract idle usable
        (enrolleeOf server auth mac paired).auth.tenantID (enrolleeOf server auth mac paired).uid :=
      enrolls mac identity
    exact rules.authEnrollee start owner.1

end ShellHub.Devices
