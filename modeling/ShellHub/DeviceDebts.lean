import ShellHub.DeviceLedger

/-!
# What the services do to the ledger

Each device service, run alone and without faults, is checked once against the contract of
actions. The result is always of the same form: the service works on the row of one device, keeps
every debt, and leaves the other rows alone, except for a device merged into that one.

Keeping the debts needs one condition. A re-registration moves the counters of a removed device,
and it takes the removal mark as the sign of one. If the row has the mark but another status, the
counters are moved for a row that is not counted there.
-/

namespace ShellHub.Devices

open Programs
open Namespaces (StoreError)

variable {ledger : Ledger}

/-- Actions beside the devices leave the ledger alone. -/
theorem actions_ignore_aside (ledger : Ledger) : actions.Ignores Action.Aside ledger := by
  rintro (request | block) aside
  · cases request
    all_goals first
      | exact aside.elim
      | exact ⟨trivial, fun _ _ yielded => yielded⟩
  · exact aside.elim

/-- Looking a key up leaves the ledger alone. -/
theorem actions_ignore_lookup (ledger : Ledger) : actions.Ignores Action.KeyLookup ledger := by
  rintro (request | block) lookup
  · cases request
    all_goals first
      | exact lookup.elim
      | exact ⟨trivial, fun _ _ yielded => yielded⟩
  · exact lookup.elim

/-! ## Decisions -/

/-- The outcome of an enrollment decision: the device stays pending and nothing moves, or it has
the new status and keeps the rest but its name. -/
def Ledger.Decided (ledger : Ledger) (device : Device) (status : DeviceStatus) (next : Ledger) :
    Prop :=
  status = .pending ∧ next = ledger ∨
    status ≠ .pending ∧ ledger.Keeps device.uid next ∧
      ∃ name, next.row device.uid = some { device with name, status }

/-- A status change settles the ledger as its transaction does; the key history comes after it. -/
theorem updateDeviceStatus_meets (ledger : Ledger) (tenantID uid : String)
    (status : RequestedStatus) :
    (updateDeviceStatus tenantID uid status).Meets actions ledger fun result next =>
      ledger.Settles (.updateDeviceStatus tenantID uid status) result next := by
  refine .perform trivial ?_
  rintro (error | _) next settled
  · exact settled
  dsimp only
  split
  · split
    · rename_i unnamed
      exact absurd unnamed settled.1
    · refine .perform trivial ?_
      rintro _ _ rfl
      exact settled
  · exact settled

/-- A decision that goes through a status change. -/
theorem Ledger.Settles.decided {ledger next : Ledger} {tenantID : String} {device : Device}
    {status : RequestedStatus} (stored : ledger.row device.uid = some device)
    (decision : status.1 ≠ .pending)
    (settled : ledger.Settles (.updateDeviceStatus tenantID device.uid status) (.ok ()) next) :
    ledger.Decided device status.1 next := by
  obtain ⟨_, keeps, old, name, found, _, _, row⟩ := settled
  obtain rfl : device = old := Option.some.inj (stored.symm.trans found)
  exact .inr ⟨decision, keeps, name, row⟩

/-- Reserving a use of a key moves no row and no counter. -/
theorem reserveUse_meets (key : Option InstallKey) (ledger : Ledger) :
    (reserveUse key).Meets actions ledger fun _ next => next = ledger := by
  cases key with
  | none => rfl
  | some key => exact ⟨trivial, fun _ _ yielded => yielded⟩

/-- Giving a use back moves no row and no counter. -/
theorem releaseUse_meets (key : Option InstallKey) (ledger : Ledger) :
    (releaseUse key).Meets actions ledger fun _ next => next = ledger := by
  cases key with
  | none => rfl
  | some key => exact ⟨trivial, fun _ _ yielded => yielded⟩

/-- A decision changes the status in a transaction, or leaves the ledger alone. -/
theorem applyEnrollmentDecision_meets {device : Device}
    (stored : ledger.row device.uid = some device) (decision : EnrollmentDecision)
    (key : Option InstallKey) (tenantID : String) :
    (applyEnrollmentDecision decision key tenantID device.uid).Meets actions ledger
      fun status next => ledger.Decided device status next := by
  cases decision with
  | pending => exact .inl ⟨rfl, rfl⟩
  | reject =>
    refine (updateDeviceStatus_meets ledger tenantID device.uid rejected).bind ?_
    rintro (error | _) next settled
    · exact .inl ⟨rfl, settled⟩
    · exact Ledger.Settles.decided stored (by decide) settled
  | accept =>
    refine (reserveUse_meets key ledger).bind ?_
    rintro (error | _) _ rfl
    · exact .inl ⟨rfl, rfl⟩
    refine (updateDeviceStatus_meets _ tenantID device.uid accepted).bind ?_
    rintro (error | _) next settled
    · obtain rfl : next = _ := settled
      refine (releaseUse_meets key _).bind ?_
      rintro _ _ rfl
      exact .inl ⟨rfl, rfl⟩
    · exact Ledger.Settles.decided stored (by decide) settled

/-- A decision with its history event decides on the stored device. -/
theorem decideEnrollment_meets (device : Device) {enrollee : Enrollee}
    (named : enrollee.uid = device.uid) (stored : ledger.row device.uid = some device)
    (key : Option InstallKey) (decision : EnrollmentDecision) (reRegistration : Bool) :
    (decideEnrollment enrollee key decision reRegistration).Meets actions ledger
      fun status next => ledger.Decided device status next := by
  refine ((recordEnrollment_uses ..).meets (actions_ignore_aside ledger)).bind ?_
  rintro _ _ rfl
  rw [named]
  exact applyEnrollmentDecision_meets stored decision key _

/-- A decision keeps every debt. -/
theorem Ledger.Decided.keeps {ledger next : Ledger} {device : Device} {status : DeviceStatus}
    (decided : ledger.Decided device status next) : ledger.Keeps device.uid next := by
  rcases decided with ⟨_, rfl⟩ | ⟨_, keeps, _⟩
  · exact .refl _ _
  · exact keeps

/-! ## First enrollment -/

/-- An added row that is put on its counter costs nothing. -/
theorem Ledger.keeps_add (ledger : Ledger) (new : Device) :
    ledger.Keeps new.uid ((ledger.add new).book new.tenantID new.status 1) := by
  refine ⟨?_, rfl, ?_⟩
  · funext tenant kind
    simp only [add, book]
    split <;> omega
  · intro other differs
    exact .inl (by simp [add, book, differs])

/-- A first enrollment adds a row that is counted as pending, and then decides on it. -/
theorem enrollDevice_meets (server : Server) (enrollee : Enrollee)
    (housed : ledger.tenant enrollee.auth.tenantID) :
    (enrollDevice server enrollee).Meets actions ledger fun _ next =>
      ledger.Keeps enrollee.uid next := by
  refine ((enrollmentInstallKey_uses ..).meets (actions_ignore_lookup ledger)).bind ?_
  rintro (error | key) ledger rfl
  · exact .refl _ _
  refine .perform trivial ?_
  rintro now ledger rfl
  have enrolled := ledger.keeps_add (newDevice server enrollee key now)
  refine ⟨trivial, ?_⟩
  rintro (error | _) _ rfl
  · exact .refl _ _
  refine .perform trivial ?_
  rintro (error | _) _ counted
  · exact absurd (counted.2.symm.trans housed) (by decide)
  subst counted
  refine ((applyInstallKeyTags_uses ..).meets (actions_ignore_aside _)).bind ?_
  rintro _ _ rfl
  refine ((evaluateEnrollment_uses ..).meets (actions_ignore_aside _)).bind ?_
  rintro decision _ rfl
  refine (decideEnrollment_meets (newDevice server enrollee key now) rfl
    (by simp [Ledger.book, Ledger.add]) key decision false).bind ?_
  intro status next decided
  exact enrolled.trans decided.keeps

/-! ## Stored devices -/

/-- Two rows of one device that count alike. -/
structure Device.Alike (first second : Device) : Prop where
  uid : first.uid = second.uid
  tenantID : first.tenantID = second.tenantID
  status : first.status = second.status

/-- Counting alike is transitive. -/
theorem Device.Alike.trans {first second third : Device} (before : first.Alike second)
    (after : second.Alike third) : first.Alike third :=
  ⟨before.uid.trans after.uid, before.tenantID.trans after.tenantID,
    before.status.trans after.status⟩

/-- Counting alike is symmetric. -/
theorem Device.Alike.symm {first second : Device} (alike : first.Alike second) :
    second.Alike first :=
  ⟨alike.uid.symm, alike.tenantID.symm, alike.status.symm⟩

/-- A device in memory is due to be written: once it is, the debts are those of the start. If the
write may still be refused, which needs an accepted device, they are so already. -/
def Ledger.Due (before : Ledger) (uid : String) (device : Device) (next : Ledger) : Prop :=
  device.uid = uid ∧ ∃ current, next.row uid = some current ∧
    current.tenantID = device.tenantID ∧
    (∀ written : Device, written.Alike device → before.Keeps uid (next.write current written)) ∧
    (device.status = .accepted → before.Keeps uid next)

namespace Ledger

variable {before next : Ledger} {uid : String}

/-- A heartbeat moves no counter. -/
theorem Keeps.beat (kept : before.Keeps uid next) (lastSeen : Nat) :
    before.Keeps uid (next.beat uid lastSeen) := by
  refine ⟨kept.debt, kept.tenant, ?_⟩
  intro other differs
  simp only [Ledger.beat, Function.update_of_ne differs]
  exact kept.others other differs

/-- A device in memory that counts like the stored one is due. -/
theorem due_of_alike {current device : Device} (kept : before.Keeps uid next)
    (found : next.row uid = some current) (named : current.uid = uid)
    (alike : device.Alike current) : before.Due uid device next := by
  refine ⟨alike.uid.trans named, current, found, alike.tenantID.symm, ?_, fun _ => kept⟩
  intro written same
  have whole := same.trans alike
  exact kept.trans (keeps_write (whole.uid.trans named) whole.tenantID.symm whole.status.symm)

/-- A decided device is due with its outcome. -/
theorem Decided.due {middle : Ledger} {current device : Device} {status : DeviceStatus}
    (decided : middle.Decided current status next) (kept : before.Keeps uid middle)
    (found : middle.row uid = some current) (named : current.uid = uid)
    (alike : device.Alike current) : before.Due uid (withOutcome device status) next := by
  subst named
  have settled := kept.trans decided.keeps
  rcases decided with ⟨rfl, rfl⟩ | ⟨decision, _, name, row⟩
  · exact due_of_alike settled found rfl alike
  · have outcome : withOutcome device status = { device with status } := by
      simp [withOutcome, decision]
    rw [outcome]
    exact due_of_alike settled row rfl ⟨alike.uid, alike.tenantID, rfl⟩

end Ledger

/-- A reconcile leaves a pending device due, with the outcome of the decision. -/
theorem reconcileEnrollment_meets {enrollee : Enrollee} {stored device : Device}
    (found : ledger.row stored.uid = some stored) (alike : device.Alike stored)
    (named : enrollee.uid = stored.uid) :
    (reconcileEnrollment enrollee device).Meets actions ledger fun result next =>
      ledger.Due stored.uid result next := by
  have due := Ledger.due_of_alike (.refl _ _) found rfl alike
  unfold reconcileEnrollment
  split
  · exact due
  refine .perform trivial ?_
  rintro now ledger rfl
  split
  · exact due
  refine .perform trivial ?_
  rintro (error | key) ledger rfl
  · exact due
  dsimp only
  split
  · exact due
  refine ((evaluateEnrollment_uses ..).meets (actions_ignore_aside _)).bind ?_
  rintro decision ledger rfl
  rw [named]
  refine (applyEnrollmentDecision_meets found decision (some key) _).bind ?_
  intro status next decided
  exact decided.due (.refl _ _) found rfl ⟨alike.uid, alike.tenantID, alike.status⟩

/-- The counters of a re-registration: the removed row is taken off its counter and expected
back on the pending one. -/
theorem Ledger.keeps_reRegistered {stored written : Device} {tenantID : String}
    (removed : stored.status = .removed) (tenants : stored.tenantID = tenantID)
    (named : written.uid = stored.uid) (same : written.tenantID = tenantID)
    (pending : written.status = .pending) :
    ledger.Keeps stored.uid
      (((ledger.book tenantID .removed (-1)).book tenantID .pending 1).write stored written) := by
  refine ⟨?_, rfl, ?_⟩
  · funext tenant kind
    simp only [write, book, removed, pending, tenants, same]
    split <;> split <;> omega
  · intro other differs
    exact .inl (by simp [write, book, named, differs])

/-- A re-registration leaves a removed device due. -/
theorem reRegisterDevice_meets (server : Server) {enrollee : Enrollee} {stored device : Device}
    (found : ledger.row stored.uid = some stored) (alike : device.Alike stored)
    (named : enrollee.uid = stored.uid) (tenants : enrollee.auth.tenantID = stored.tenantID)
    (housed : ledger.tenant enrollee.auth.tenantID) (removed : stored.status = .removed) :
    (reRegisterDevice server enrollee device).Meets actions ledger fun result next =>
      match result with
      | .error _ => ledger.Keeps stored.uid next
      | .ok advanced => ledger.Due stored.uid advanced next := by
  refine ((enrollmentInstallKey_uses ..).meets (actions_ignore_lookup ledger)).bind ?_
  rintro (error | key) ledger rfl
  · exact .refl _ _
  refine .perform trivial ?_
  rintro (error | _) _ counted
  · exact absurd (counted.2.symm.trans housed) (by decide)
  subst counted
  refine .perform trivial ?_
  rintro (error | _) _ counted
  · exact absurd (counted.2.symm.trans housed) (by decide)
  subst counted
  refine ((applyInstallKeyTags_uses ..).meets (actions_ignore_aside _)).bind ?_
  rintro _ _ rfl
  refine ((evaluateEnrollment_uses ..).meets (actions_ignore_aside _)).bind ?_
  rintro decision _ rfl
  have kept : ∀ written : Device, written.Alike (reRegistered device key) →
      ledger.Keeps stored.uid (((ledger.book enrollee.auth.tenantID .removed (-1)).book
        enrollee.auth.tenantID .pending 1).write stored written) := by
    intro written same
    exact Ledger.keeps_reRegistered removed tenants.symm (same.uid.trans alike.uid)
      (same.tenantID.trans (alike.tenantID.trans tenants.symm)) same.status
  by_cases undecided : decision = .pending
  · subst undecided
    refine (decideEnrollment_pending (actions_ignore_aside _) enrollee key true).bind ?_
    rintro _ _ ⟨rfl, rfl⟩
    refine ⟨alike.uid, stored, found, alike.tenantID.symm, kept, ?_⟩
    intro accepted
    cases accepted
  · simp only [persistPending, if_neg undecided]
    refine .perform trivial ?_
    rintro (error | _) next written
    · rcases written.2 with accepted | elsewhere
      · cases accepted
      · exact absurd alike.tenantID.symm (elsewhere stored (alike.uid ▸ found))
    obtain ⟨old, present, _, rfl⟩ := written
    have stays : ledger.row device.uid = some stored := alike.uid ▸ found
    obtain rfl : stored = old := Option.some.inj (stays.symm.trans present)
    have same : (Fleet.refreshed stored (reRegistered device key)).Alike
        (reRegistered device key) := ⟨rfl, rfl, rfl⟩
    refine (decideEnrollment_meets (Fleet.refreshed stored (reRegistered device key))
      (named.trans alike.uid.symm) (by simp [Ledger.write]) key decision true).bind ?_
    intro status next decided
    refine decided.due (kept _ same) ?_ alike.uid same.symm
    rw [← alike.uid]
    simp [Ledger.write, Fleet.refreshed, reRegistered]

/-- Bringing a stored device up to date leaves it due. -/
theorem advanceDevice_meets (server : Server) {enrollee : Enrollee} {stored device : Device}
    (found : ledger.row stored.uid = some stored) (alike : device.Alike stored)
    (named : enrollee.uid = stored.uid) (tenants : enrollee.auth.tenantID = stored.tenantID)
    (housed : ledger.tenant enrollee.auth.tenantID)
    (agreed : device.removedAt.isSome → stored.status = .removed) :
    (advanceDevice server enrollee device).Meets actions ledger fun result next =>
      match result with
      | .error _ => ledger.Keeps stored.uid next
      | .ok advanced => ledger.Due stored.uid advanced next := by
  unfold advanceDevice
  split
  · rename_i marked
    exact reRegisterDevice_meets server found alike named tenants housed (agreed marked)
  split
  · refine (reconcileEnrollment_meets found alike named).bind ?_
    intro advanced next due
    exact due
  · exact Ledger.due_of_alike (.refl _ _) found rfl alike

/-- Authenticating a stored device keeps the debts. -/
theorem refreshDevice_meets (server : Server) {enrollee : Enrollee} {stored : Device}
    (found : ledger.row stored.uid = some stored) (named : enrollee.uid = stored.uid)
    (tenants : enrollee.auth.tenantID = stored.tenantID)
    (housed : ledger.tenant enrollee.auth.tenantID)
    (agreed : stored.removedAt.isSome → stored.status = .removed) :
    (refreshDevice server enrollee stored).Meets actions ledger fun _ next =>
      ledger.Keeps stored.uid next := by
  refine .perform trivial ?_
  rintro now ledger rfl
  have alike : (reconnected server enrollee stored now).Alike stored := ⟨rfl, rfl, rfl⟩
  refine (advanceDevice_meets server found alike named tenants housed agreed).bind ?_
  rintro (error | advanced) middle due
  · exact due
  obtain ⟨own, current, present, same, paid, refused⟩ := due
  refine .perform trivial ?_
  rintro (error | _) next written
  · obtain ⟨rfl, accepted | elsewhere⟩ := written
    · exact refused accepted
    · exact absurd same (elsewhere current (own ▸ present))
  obtain ⟨old, beneath, _, rfl⟩ := written
  have stays : middle.row advanced.uid = some current := own ▸ present
  obtain rfl : current = old := Option.some.inj (stays.symm.trans beneath)
  have final := paid (Fleet.refreshed current (withInfo advanced enrollee.auth.info))
    ⟨rfl, rfl, rfl⟩
  refine .perform trivial ?_
  rw [named]
  rintro (error | _) _ rfl
  · exact final
  · exact final.beat _

/-! ## Whole services -/

/-- The row an authentication works on has the removed status if it has the removal mark. -/
def Ledger.AgreesFor (server : Server) (auth : DeviceAuth) (paired : Bool) (ledger : Ledger) :
    Prop :=
  ∀ mac stored, auth.identity = some mac →
    ledger.row (enrolleeOf server auth mac paired).uid = some stored →
    stored.tenantID = auth.tenantID → stored.removedAt.isSome → stored.status = .removed

/-- An authentication keeps the debts. -/
theorem authDevice_meets (server : Server) (auth : DeviceAuth) (paired : Bool)
    (agreed : ledger.AgreesFor server auth paired) :
    (authDevice server auth paired).Meets actions ledger fun _ next =>
      ∃ uid, ledger.Keeps uid next := by
  refine .perform trivial ?_
  rintro (error | owner) ledger ⟨rfl, housed⟩
  · exact ⟨"", .refl _ _⟩
  dsimp only
  split
  · exact ⟨"", .refl _ _⟩
  rename_i mac identified
  split
  · exact ⟨"", .refl _ _⟩
  refine .perform trivial ?_
  rintro cached ledger rfl
  split
  · exact ⟨"", .refl _ _⟩
  have materialized : (materializeDevice server (enrolleeOf server auth mac paired)).Meets actions
      ledger fun _ next => ledger.Keeps (enrolleeOf server auth mac paired).uid next := by
    refine .perform trivial ?_
    rintro (error | stored) ledger ⟨rfl, found⟩
    · cases error with
      | noDocuments => exact enrollDevice_meets server _ (housed rfl)
      | _ => exact .refl _ _
    obtain ⟨present, named, tenants, _⟩ := found stored rfl
    rw [← named] at present ⊢
    refine refreshDevice_meets server present named.symm tenants.symm (housed rfl) ?_
    exact agreed mac stored identified (named ▸ present) tenants
  refine materialized.bind ?_
  rintro (error | device) next kept
  · exact ⟨_, kept⟩
  refine .perform trivial ?_
  rintro _ _ rfl
  exact ⟨_, kept⟩

/-- The counters of a removal by a user. -/
theorem Ledger.keeps_removed {stored removed : Device} (named : removed.uid = stored.uid)
    (tenants : removed.tenantID = stored.tenantID) (status : removed.status = .removed) :
    ledger.Keeps stored.uid (((ledger.write stored removed).book stored.tenantID .removed 1).book
      stored.tenantID stored.status (-1)) := by
  refine ⟨?_, rfl, ?_⟩
  · funext tenant kind
    simp only [write, book, tenants, status]
    split <;> split <;> omega
  · intro other differs
    exact .inl (by simp [write, book, named, differs])

/-- The write of a removal keeps the debts together with the decrement that follows it. -/
theorem removeRow_meets {stored : Device} (found : ledger.row stored.uid = some stored)
    (housed : ledger.tenant stored.tenantID) :
    (removeRow stored.tenantID stored).Meets actions ledger fun result next =>
      match result with
      | .error _ => ledger.Keeps stored.uid next
      | .ok _ => next.tenant stored.tenantID ∧
          ledger.Keeps stored.uid (next.book stored.tenantID stored.status (-1)) := by
  unfold removeRow
  split
  · refine .perform trivial ?_
    rintro now ledger rfl
    refine ⟨trivial, ?_⟩
    rintro (error | _) next written
    · rcases written.2 with accepted | elsewhere
      · cases accepted
      · exact absurd rfl (elsewhere stored found)
    obtain ⟨old, beneath, _, rfl⟩ := written
    obtain rfl : stored = old := Option.some.inj (found.symm.trans beneath)
    refine ⟨trivial, ?_⟩
    rintro (error | _) _ counted
    · exact absurd (counted.2.symm.trans housed) (by decide)
    subst counted
    exact ⟨housed, Ledger.keeps_removed rfl rfl rfl⟩
  · refine ⟨trivial, ?_⟩
    rintro (error | _) next dropped
    · exact absurd (dropped.2.symm.trans found) (by simp)
    obtain ⟨old, present, _, rfl⟩ := dropped
    obtain rfl : stored = old := Option.some.inj (found.symm.trans present)
    exact ⟨housed, Ledger.keeps_drop stored stored.uid⟩

/-- A removal keeps the debts. -/
theorem deleteDevice_meets (tenantID uid : String) (ledger : Ledger) :
    (deleteDevice tenantID uid).Meets actions ledger fun _ next => ledger.Keeps uid next := by
  unfold deleteDevice
  split
  · exact .refl _ _
  refine .perform trivial ?_
  rintro (error | stored) ledger ⟨rfl, found⟩
  · exact .refl _ _
  obtain ⟨present, rfl, rfl, housed, _⟩ := found stored rfl
  refine (removeRow_meets present housed).bind ?_
  rintro (error | _) next removed
  · exact removed
  obtain ⟨stays, kept⟩ := removed
  refine .perform trivial ?_
  rintro (error | _) _ counted
  · exact absurd (counted.2.symm.trans stays) (by decide)
  subst counted
  exact kept

end ShellHub.Devices
