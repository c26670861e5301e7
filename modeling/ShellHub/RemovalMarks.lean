import ShellHub.DeviceCounters

/-!
# Removal marks

A removed device is told from the others in two ways: by its status, and by the time at which it
was removed. Access decisions read the one, the removed-device cleanup and a re-registration read
the other. This module asks whether the two ever disagree, for services that run one at a time
while any call of the store may fail.

Every row that a service writes itself has mark and status in agreement. The status change does
not look at the mark, so it keeps the agreement unless the device it changes is a removed one.
-/

namespace ShellHub.Devices

open Programs Tables
open Namespaces (StoreError)

/-- A removal mark goes with the removed status, and with no other. -/
def Device.Marked (device : Device) : Prop := device.removedAt.isSome ↔ device.status = .removed

/-- A device without a mark is marked properly unless its status is removed. -/
theorem Device.marked_of_unmarked {device : Device} (unmarked : device.removedAt = none)
    (status : device.status ≠ .removed) : device.Marked := by
  simp [Marked, unmarked, status]

/-- A properly marked device that is not removed has no mark. -/
theorem Device.Marked.unmarked {device : Device} (marked : device.Marked)
    (status : device.status ≠ .removed) : device.removedAt = none := by
  have bare : ¬ device.removedAt.isSome := fun some => status (marked.mp some)
  simpa using bare

/-- Every row is marked properly. -/
def Ledger.Marked (ledger : Ledger) : Prop :=
  ∀ uid device, ledger.row uid = some device → device.Marked

namespace Ledger

variable {ledger next : Ledger}

/-- Rows that are as before or gone are marked properly. -/
theorem Marked.of_rows (marked : ledger.Marked)
    (rows : ∀ uid, next.row uid = ledger.row uid ∨ next.row uid = none) : next.Marked := by
  intro uid device found
  rcases rows uid with same | gone
  · exact marked uid device (same ▸ found)
  · cases gone.symm.trans found

/-- Rows that are as before, but for one that is marked properly. -/
theorem Marked.update (marked : ledger.Marked) {uid : String} {new : Device}
    (proper : new.Marked) (row : next.row uid = some new)
    (others : ∀ other, other ≠ uid → next.row other = ledger.row other ∨ next.row other = none) :
    next.Marked := by
  intro other device found
  by_cases same : other = uid
  · subst same
    obtain rfl := Option.some.inj (row.symm.trans found)
    exact proper
  · rcases others other same with kept | gone
    · exact marked other device (kept ▸ found)
    · cases gone.symm.trans found

end Ledger

/-- The contract of marks. A service writes properly marked rows only, and it changes the status
of no removed device. In return every row it finds is marked properly. -/
def marking : Contract Action Action.Reply Ledger where
  allowed := fun ledger action =>
    match action with
    | .call (.deviceCreate device) => device.Marked
    | .call (.deviceUpdate device) => device.Marked
    | .call (.deviceDeleteMany uids) => uids.Nodup
    | .transaction (.updateDeviceStatus tenantID uid _) =>
      ∀ device, ledger.row uid = some device → device.tenantID = tenantID →
        device.status ≠ .removed
    | _ => True
  yields := fun ledger action reply next =>
    (match action, reply with
    | .call request, reply => ledger.Moves request reply next
    | .transaction block, reply => ledger.Settles block reply next) ∧ next.Marked

/-- A statement that may be made leaves every row marked properly. -/
theorem Ledger.Moves.marked {ledger next : Ledger} {request : Call} {reply : request.Reply}
    (moved : ledger.Moves request reply next) (marked : ledger.Marked)
    (allowed : marking.allowed ledger (.call request)) : next.Marked := by
  cases moved.rows with
  | thinned rows => exact marked.of_rows rows
  | created device row =>
    refine marked.update allowed (by rw [row, Function.update_self]) ?_
    intro other differs
    exact .inl (by rw [row, Function.update_of_ne differs])
  | written old device found row =>
    have proper : (Fleet.refreshed old device).Marked := allowed
    refine marked.update proper (by rw [row, Function.update_self]) ?_
    intro other differs
    exact .inl (by rw [row, Function.update_of_ne differs])
  | beaten uid lastSeen row =>
    intro other device found
    rw [row] at found
    by_cases same : other = uid
    · subst same
      rw [Function.update_self] at found
      obtain ⟨old, stored, rfl⟩ := Option.map_eq_some_iff.mp found
      rw [Device.Marked, Fleet.seen_removedAt, Fleet.seen_status]
      exact marked _ old stored
    · rw [Function.update_of_ne same] at found
      exact marked other device found

/-- A transaction that may be performed leaves every row marked properly. -/
theorem Ledger.Settles.marked {ledger next : Ledger} {block : Transaction}
    {reply : Except DeviceError Unit} (settled : ledger.Settles block reply next)
    (marked : ledger.Marked) (allowed : marking.allowed ledger (.transaction block)) :
    next.Marked := by
  cases reply with
  | error error => exact (show next = ledger from settled) ▸ marked
  | ok done =>
    cases block with
    | updateDeviceStatus tenantID uid status =>
      obtain ⟨_, keeps, device, name, found, _, tenants, row⟩ := settled
      have unmarked := (marked uid device found).unmarked (allowed device found tenants)
      have proper : ({ device with name, status := status.1 } : Device).Marked :=
        Device.marked_of_unmarked unmarked status.2
      exact marked.update proper row keeps.others
    | deviceCleanup => exact marked.of_rows settled
    | ephemeralCleanup => exact marked.of_rows settled.1

/-- The fleet realizes the contract of marks, whatever fails. -/
theorem marking_realized (server : Server) :
    Realizes (meaning server) marking fun fleet ledger =>
      fleet.ledger = ledger ∧ ledger.Marked := by
  rintro fleet _ (request | block) inputs ⟨rfl, marked⟩ allowed
  · have listed : statements.allowed fleet.ledger request := by
      cases request
      case deviceDeleteMany => exact allowed
      all_goals trivial
    obtain ⟨_, moved, rfl⟩ := statements_realized fleet _ request (inputs 0) rfl listed
    have proper := moved.marked marked allowed
    exact ⟨_, ⟨moved, proper⟩, rfl, proper⟩
  · have settled := transact_settles server block inputs fleet
    have proper := settled.marked marked allowed
    exact ⟨_, ⟨settled, proper⟩, rfl, proper⟩

/-! ## Services -/

/-- Actions beside the devices leave the ledger alone. -/
theorem marking_ignores_aside (ledger : Ledger) : marking.Ignores Action.Aside ledger := by
  rintro (request | block) aside
  · cases request
    all_goals first
      | exact aside.elim
      | exact ⟨trivial, fun _ _ yielded => yielded.1⟩
  · exact aside.elim

/-- Looking a key up leaves the ledger alone. -/
theorem marking_ignores_lookup (ledger : Ledger) : marking.Ignores Action.KeyLookup ledger := by
  rintro (request | block) lookup
  · cases request
    all_goals first
      | exact lookup.elim
      | exact ⟨trivial, fun _ _ yielded => yielded.1⟩
  · exact lookup.elim

/-- The device is not stored as removed. -/
def Ledger.Present (ledger : Ledger) (uid : String) : Prop :=
  ∀ device, ledger.row uid = some device → device.status ≠ .removed

section Services

variable {ledger : Ledger}

/-- The status of a device that is not removed may be changed. -/
theorem updateDeviceStatus_marks {tenantID uid : String}
    (present : ∀ device, ledger.row uid = some device → device.tenantID = tenantID →
      device.status ≠ .removed) (status : RequestedStatus) :
    (updateDeviceStatus tenantID uid status).Meets marking ledger fun _ _ => True := by
  refine .perform present ?_
  rintro (error | _) next _
  · trivial
  dsimp only
  split
  · split
    · trivial
    · exact .perform trivial fun _ _ _ => trivial
  · trivial

/-- Reserving a use of a key leaves the ledger alone. -/
theorem reserveUse_marks (key : Option InstallKey) :
    (reserveUse key).Meets marking ledger fun _ next => next = ledger := by
  cases key with
  | none => rfl
  | some key => exact ⟨trivial, fun _ _ yielded => yielded.1⟩

/-- A use of a key may be given back at any time. -/
theorem releaseUse_marks (key : Option InstallKey) :
    (releaseUse key).Meets marking ledger fun _ _ => True := by
  cases key with
  | none => trivial
  | some key => exact ⟨trivial, fun _ _ _ => trivial⟩

/-- A decision on a device that is not removed may be carried out, and it removes no device. -/
theorem applyEnrollmentDecision_marks {uid : String} (present : ledger.Present uid)
    (decision : EnrollmentDecision) (key : Option InstallKey) (tenantID : String) :
    (applyEnrollmentDecision decision key tenantID uid).Meets marking ledger
      fun status _ => status ≠ .removed := by
  cases decision with
  | pending => exact (by decide : DeviceStatus.pending ≠ .removed)
  | reject =>
    refine (updateDeviceStatus_marks (fun d found _ => present d found) rejected).bind ?_
    rintro (error | _) next - <;> exact nofun
  | accept =>
    refine (reserveUse_marks key).bind ?_
    rintro (error | _) ledger rfl
    · exact nofun
    refine (updateDeviceStatus_marks (fun d found _ => present d found) accepted).bind ?_
    rintro (error | _) next -
    · exact (releaseUse_marks key).bind fun _ _ _ => nofun
    · exact nofun

/-- A decision with its history event removes no device either. -/
theorem decideEnrollment_marks {enrollee : Enrollee} (present : ledger.Present enrollee.uid)
    (key : Option InstallKey) (decision : EnrollmentDecision) (reRegistration : Bool) :
    (decideEnrollment enrollee key decision reRegistration).Meets marking ledger
      fun status _ => status ≠ .removed := by
  refine ((recordEnrollment_uses ..).meets (marking_ignores_aside ledger)).bind ?_
  rintro _ _ rfl
  exact applyEnrollmentDecision_marks present decision key _

/-- A fresh enrollment creates a device without a mark and decides on it. -/
theorem enrollDevice_marks (server : Server) (enrollee : Enrollee) :
    (enrollDevice server enrollee).Meets marking ledger fun _ _ => True := by
  refine ((enrollmentInstallKey_uses ..).meets (marking_ignores_lookup ledger)).bind ?_
  rintro (error | key) ledger rfl
  · trivial
  refine .perform trivial ?_
  rintro now ledger ⟨rfl, _⟩
  refine ⟨Device.marked_of_unmarked rfl (by simp [newDevice]), ?_⟩
  rintro (error | _) next ⟨created, _⟩
  · trivial
  obtain rfl : next = _ := created
  refine .perform trivial ?_
  rintro (error | _) next ⟨counted, _⟩
  · trivial
  have present : next.Present enrollee.uid := by
    obtain rfl : next = _ := counted
    intro device found
    obtain rfl : newDevice server enrollee key now = device := by
      simpa [Ledger.book, Ledger.add, newDevice] using found
    simp [newDevice]
  refine ((applyInstallKeyTags_uses ..).meets (marking_ignores_aside _)).bind ?_
  rintro _ _ rfl
  refine ((evaluateEnrollment_uses ..).meets (marking_ignores_aside _)).bind ?_
  rintro decision _ rfl
  refine (decideEnrollment_marks present key decision false).bind ?_
  exact fun _ _ _ => trivial

/-- The outcome of a decision leaves a device without a mark marked properly. -/
theorem withOutcome_marked (device : Device) (unmarked : device.removedAt = none)
    (status : device.status ≠ .removed) {outcome : DeviceStatus} (decided : outcome ≠ .removed) :
    (withOutcome device outcome).Marked := by
  unfold withOutcome
  split
  · exact Device.marked_of_unmarked unmarked decided
  · exact Device.marked_of_unmarked unmarked status

/-- A pending device without a mark is decided on again, and stays marked properly. -/
theorem reconcileEnrollment_marks {enrollee : Enrollee} {device : Device}
    (present : ledger.Present enrollee.uid) (unmarked : device.removedAt = none)
    (pending : device.status = .pending) :
    (reconcileEnrollment enrollee device).Meets marking ledger fun result _ => result.Marked := by
  have stays : device.status ≠ .removed := by simp [pending]
  have proper : device.Marked := Device.marked_of_unmarked unmarked stays
  unfold reconcileEnrollment
  split
  · exact proper
  refine .perform trivial ?_
  rintro now ledger ⟨rfl, _⟩
  split
  · exact proper
  refine .perform trivial ?_
  rintro (error | key) ledger ⟨rfl, _⟩
  · exact proper
  dsimp only
  split
  · exact proper
  refine ((evaluateEnrollment_uses ..).meets (marking_ignores_aside _)).bind ?_
  rintro decision ledger rfl
  refine (applyEnrollmentDecision_marks present decision (some key) _).bind ?_
  intro status next decided
  exact withOutcome_marked { device with lastEnrollmentAttemptAt := some now } unmarked stays decided

/-- A re-registration takes the mark away. It writes the row before it decides, unless the decision
is pending. -/
theorem reRegisterDevice_marks (server : Server) {enrollee : Enrollee} {device : Device}
    (named : device.uid = enrollee.uid) :
    (reRegisterDevice server enrollee device).Meets marking ledger fun result _ =>
      ∀ advanced, result = .ok advanced → advanced.Marked := by
  refine ((enrollmentInstallKey_uses ..).meets (marking_ignores_lookup ledger)).bind ?_
  rintro (error | key) ledger rfl
  · simp
  refine .perform trivial ?_
  rintro (error | _) next -
  · simp
  refine .perform trivial ?_
  rintro (error | _) next -
  · simp
  refine ((applyInstallKeyTags_uses ..).meets (marking_ignores_aside _)).bind ?_
  rintro _ _ rfl
  refine ((evaluateEnrollment_uses ..).meets (marking_ignores_aside _)).bind ?_
  rintro decision next rfl
  have outcome : ∀ status, status ≠ DeviceStatus.removed →
      (withOutcome (reRegistered device key) status).Marked := fun status decided =>
    withOutcome_marked (reRegistered device key) rfl (by simp [reRegistered]) decided
  by_cases undecided : decision = .pending
  · subst undecided
    refine (decideEnrollment_pending (marking_ignores_aside next) enrollee key true).bind ?_
    rintro _ _ ⟨rfl, rfl⟩ _ ⟨⟩
    exact outcome .pending (by decide)
  · simp only [persistPending, if_neg undecided]
    refine .perform (Device.marked_of_unmarked rfl (by simp [reRegistered])) ?_
    rintro (error | _) next ⟨written, _⟩
    · simp
    obtain ⟨old, _, _, rfl⟩ := written
    refine (decideEnrollment_marks ?_ key decision true).bind ?_
    · intro stored found
      rw [← named] at found
      obtain rfl : Fleet.refreshed old (reRegistered device key) = stored := by
        simpa [Ledger.write, Fleet.refreshed, reRegistered] using found
      simp [Fleet.refreshed, reRegistered]
    · rintro status next decided _ ⟨⟩
      exact outcome status decided

/-- A device in memory that has status and mark of its row is advanced to one marked properly. -/
theorem advanceDevice_marks (server : Server) {enrollee : Enrollee} (device : Device)
    {stored : Device} (marked : ledger.Marked) (found : ledger.row enrollee.uid = some stored)
    (named : device.uid = enrollee.uid) (status : device.status = stored.status)
    (mark : device.removedAt = stored.removedAt) :
    (advanceDevice server enrollee device).Meets marking ledger fun result _ =>
      ∀ advanced, result = .ok advanced → advanced.Marked := by
  have proper : device.Marked := by
    rw [Device.Marked, status, mark]
    exact marked _ stored found
  unfold advanceDevice
  split
  · exact reRegisterDevice_marks server named
  rename_i unmarked
  split
  · rename_i pending
    have present : ledger.Present enrollee.uid := by
      intro other present
      obtain rfl := Option.some.inj (found.symm.trans present)
      rw [← status, pending]
      decide
    refine (reconcileEnrollment_marks present (by simpa using unmarked) pending).bind ?_
    rintro advanced next done _ ⟨⟩
    exact done
  · rintro _ ⟨⟩
    exact proper

/-- A known device is advanced from its row and written back. -/
theorem refreshDevice_marks (server : Server) {enrollee : Enrollee} {stored : Device}
    (marked : ledger.Marked) (found : ledger.row enrollee.uid = some stored)
    (named : stored.uid = enrollee.uid) :
    (refreshDevice server enrollee stored).Meets marking ledger fun _ _ => True := by
  refine .perform trivial ?_
  rintro now ledger ⟨rfl, _⟩
  refine (advanceDevice_marks server (reconnected server enrollee stored now) marked found named rfl
    rfl).bind ?_
  rintro (error | advanced) next proper
  · trivial
  refine .perform (proper advanced rfl) ?_
  rintro (error | _) next -
  · trivial
  refine .perform trivial ?_
  rintro (error | _) next - <;> trivial

/-- An authentication writes properly marked rows only, and changes the status of no removed one. -/
theorem authDevice_marks (server : Server) (auth : DeviceAuth) (paired : Bool)
    (marked : ledger.Marked) :
    (authDevice server auth paired).Meets marking ledger fun _ _ => True := by
  refine .perform trivial ?_
  rintro (error | owner) ledger ⟨⟨rfl, _⟩, _⟩
  · trivial
  dsimp only
  split
  · trivial
  rename_i mac identified
  split
  · trivial
  refine .perform trivial ?_
  rintro cached ledger ⟨rfl, _⟩
  split
  · trivial
  have materialized : (materializeDevice server (enrolleeOf server auth mac paired)).Meets marking
      ledger fun _ _ => True := by
    refine .perform trivial ?_
    rintro (error | stored) ledger ⟨⟨rfl, found⟩, _⟩
    · cases error with
      | noDocuments => exact enrollDevice_marks server _
      | _ => trivial
    obtain ⟨present, named, _⟩ := found stored rfl
    exact refreshDevice_marks server marked present named
  refine materialized.bind ?_
  rintro (error | device) next -
  · trivial
  · exact .perform trivial fun _ _ _ => trivial

/-- A removal writes mark and status together, or deletes the row. -/
theorem deleteDevice_marks (tenantID uid : String) :
    (deleteDevice tenantID uid).Meets marking ledger fun _ _ => True := by
  unfold deleteDevice
  split
  · trivial
  refine .perform trivial ?_
  rintro (error | stored) ledger -
  · trivial
  have removed : (removeRow tenantID stored).Meets marking ledger fun _ _ => True := by
    unfold removeRow
    split
    · refine .perform trivial ?_
      rintro now ledger -
      have proper : ({ stored with status := .removed, removedAt := some now } : Device).Marked := by
        simp [Device.Marked]
      refine ⟨proper, ?_⟩
      rintro (error | _) next -
      · trivial
      · exact ⟨trivial, fun _ _ _ => trivial⟩
    · exact ⟨trivial, fun _ _ _ => trivial⟩
  refine removed.bind ?_
  rintro (error | _) next -
  · trivial
  refine .perform trivial ?_
  rintro (error | _) next - <;> trivial

end Services

/-! ## What the cleanup spares -/

/-- What is stored about one device: its row and its sessions. -/
def Fleet.account (fleet : Fleet) (uid : String) : Option Device × List Session :=
  (fleet.devices.find uid, fleet.sessions.rows.filter fun session => session.deviceUID = uid)

/-- The statements of the removed-device cleanup, seen from one device that it does not list. -/
def sparing (uid : String) : Contract Call Call.Reply (Option Device × List Session) where
  allowed := fun _ request =>
    match request with
    | .clockNow | .deviceCountRemoved _ | .deviceListRemoved _ _
    | .namespaceIncrementDeviceCount _ _ _ => True
    | .deviceDeleteMany uids => uid ∉ uids
    | _ => False
  yields := fun account request reply next =>
    next = account ∧
      match request, reply with
      | .deviceListRemoved _ _, .ok devices =>
        ∀ device ∈ devices, device.uid = uid → account.1 = some device ∧ device.removedAt.isSome
      | _, _ => True

/-- Deleting other devices leaves the account of a device alone. -/
theorem Fleet.account_deleteDevices (fleet : Fleet) {uid : String} {uids : List String}
    (spared : uid ∉ uids) : (fleet.deleteDevices uids).account uid = fleet.account uid := by
  refine Prod.ext ?_ ?_
  · simp only [account, deleteDevices, Table.find_erase]
    cases found : fleet.devices.find uid with
    | none => rfl
    | some device =>
      obtain ⟨_, rfl⟩ := Table.find_eq_some.mp found
      simp [spared]
  · simp only [account, deleteDevices, Table.erase, List.filter_filter]
    refine List.filter_congr ?_
    intro session _
    by_cases same : session.deviceUID = uid <;> simp [same, spared]

/-- The store realizes the contract, whatever fails. -/
theorem sparing_realized (uid : String) :
    Realizes callMeaning (sparing uid) fun fleet account => fleet.account uid = account := by
  rintro fleet _ request around rfl allowed
  refine ⟨_, ?_, rfl⟩
  cases failed : around.fault with
  | some error =>
    cases request
    case deviceListRemoved | deviceDeleteMany | namespaceIncrementDeviceCount |
        deviceCountRemoved | clockNow =>
      simp [callMeaning, failed, failure, sparing, Fleet.perform]
    all_goals exact allowed.elim
  | none =>
    simp only [callMeaning, failed, Option.bind_none]
    cases request
    case deviceListRemoved cutoff page =>
      have moved := fleet.perform_yields around (.deviceListRemoved cutoff page) trivial
      refine ⟨rfl, ?_⟩
      intro device member named
      obtain ⟨stored, removed⟩ := (moved.2 _ rfl).2 device member
      rw [named] at stored
      exact ⟨stored, Device.RemovedBefore.marked removed⟩
    case deviceDeleteMany uids => exact ⟨fleet.account_deleteDevices allowed, trivial⟩
    case namespaceIncrementDeviceCount tenantID status count =>
      simp only [Fleet.perform]
      split <;> exact ⟨rfl, trivial⟩
    case deviceCountRemoved | clockNow => exact ⟨rfl, trivial⟩
    all_goals exact allowed.elim

/-- Moving the counters leaves the account alone. -/
theorem decrementCounters_spares (uid : String) (account : Option Device × List Session)
    (tally : List (String × DeviceStatus)) :
    (decrementCounters tally).Meets (sparing uid) account fun _ next => next = account := by
  unfold decrementCounters
  generalize tally.dedup.mergeSort bucketBefore = buckets
  induction buckets with
  | nil => rfl
  | cons bucket rest ih =>
    refine ⟨trivial, ?_⟩
    rintro (error | _) _ ⟨rfl, _⟩
    · rfl
    · exact ih

/-- The pages of a cleanup list marked devices only, so the account of another one stays. -/
theorem cleanupPages_spares {uid : String} {account : Option Device × List Session}
    (unmarked : ∀ device, account.1 = some device → device.removedAt = none)
    (cutoff pages page : Nat) (tally : List (String × DeviceStatus)) :
    (cleanupPages cutoff pages page tally).Meets (sparing uid) account fun _ next =>
      next = account := by
  induction pages generalizing page tally with
  | zero => rfl
  | succ pages ih =>
    refine .perform trivial ?_
    rintro (error | _ | ⟨first, devices⟩) _ ⟨rfl, listed⟩
    · rfl
    · exact ih (page + 1) tally
    refine .perform ?_ ?_
    · intro member
      obtain ⟨device, chosen, named⟩ := List.mem_map.mp member
      obtain ⟨stored, marked⟩ := listed device chosen named
      simp [unmarked device stored] at marked
    · rintro (error | _) _ ⟨rfl, _⟩
      · rfl
      · exact ih (page + 1) _

/-- The removed-device cleanup leaves a device without a removal mark alone, and its sessions. -/
theorem deviceCleanup_spares (server : Server) (inputs : Nat → Nat → Surroundings) {fleet : Fleet}
    {uid : String} (unmarked : ∀ device, fleet.devices.find uid = some device →
      device.removedAt = none) :
    ((Step.mk .deviceCleanup inputs).apply server fleet).account uid = fleet.account uid := by
  have spared : deviceCleanupBody.Meets (sparing uid) (fleet.account uid) fun _ next =>
      next = fleet.account uid := by
    refine .perform trivial ?_
    rintro now _ ⟨rfl, _⟩
    refine ⟨trivial, ?_⟩
    rintro (error | total) _ ⟨rfl, _⟩
    · rfl
    refine (cleanupPages_spares unmarked _ _ 0 []).bind ?_
    rintro (error | tally) _ rfl
    · rfl
    · exact decrementCounters_spares uid _ tally
  obtain ⟨⟨_, kept, same⟩, _⟩ := Program.Meets.run (sparing_realized uid) spared rfl
    fun index => inputs 0 (index + 1)
  have atomic : (Step.mk .deviceCleanup inputs).apply server fleet =
      (transact server .deviceCleanup (inputs 0) fleet).2 := rfl
  rw [atomic]
  unfold transact
  split
  · rfl
  dsimp only
  split
  · rfl
  · exact same.trans kept

/-! ## Runs -/

/-- A status change does not address a removed device. -/
def Operation.SparesRemoved (fleet : Fleet) : Operation → Prop
  | .updateDeviceStatus tenantID uid _ =>
    ∀ device, fleet.deviceOf tenantID uid = some device → device.status ≠ .removed
  | _ => True

/-- No step of a run changes the status of a removed device. -/
def Sparing (server : Server) : Fleet → List Step → Prop
  | _, [] => True
  | fleet, step :: rest =>
    step.operation.SparesRemoved fleet ∧ Sparing server (step.apply server fleet) rest

/-- Every device row of the fleet is marked properly. -/
def Fleet.Marked (fleet : Fleet) : Prop := ∀ device ∈ fleet.devices.rows, device.Marked

/-- The rows of the fleet are those of its ledger. -/
theorem Fleet.marked_iff (fleet : Fleet) : fleet.Marked ↔ fleet.ledger.Marked := by
  constructor
  · intro marked uid device found
    exact marked device (Table.find_eq_some.mp found).1
  · intro marked device member
    exact marked device.uid device (Table.find_of_mem member)

/-- An operation that spares removed devices does what the contract of marks allows. -/
theorem Operation.program_marks (server : Server) {operation : Operation} {fleet : Fleet}
    (marked : fleet.Marked) (spares : operation.SparesRemoved fleet) :
    (operation.program server).Meets marking fleet.ledger fun _ _ => True := by
  rw [Fleet.marked_iff] at marked
  cases operation with
  | authDevice auth =>
    exact (authDevice_marks server auth false marked).bind fun _ _ _ => trivial
  | updateDeviceStatus tenantID uid status =>
    refine Program.Meets.bind (updateDeviceStatus_marks ?_ status) fun _ _ _ => trivial
    intro device found tenants
    exact spares device (Option.filter_eq_some_iff.mpr ⟨found, by simpa using tenants⟩)
  | deleteDevice tenantID uid =>
    exact (deleteDevice_marks tenantID uid).bind fun _ _ _ => trivial
  | deviceCleanup | ephemeralCleanup => exact ⟨trivial, fun _ _ _ => trivial⟩

/-- A step that spares removed devices keeps every row marked properly. -/
theorem Step.marked_apply {server : Server} {step : Step} {fleet : Fleet} (marked : fleet.Marked)
    (spares : step.operation.SparesRemoved fleet) : (step.apply server fleet).Marked := by
  have start := (Fleet.marked_iff fleet).mp marked
  obtain ⟨⟨_, _, rfl, proper⟩, _⟩ := Program.Meets.run (marking_realized server)
    (step.operation.program_marks server marked spares) ⟨rfl, start⟩ step.inputs
  exact (Fleet.marked_iff _).mpr proper

/-- The rows of a run that spares removed devices are marked properly from an empty store on. -/
theorem reached_marked (server : Server) (steps : List Step) {fleet : Fleet}
    (marked : fleet.Marked) (spares : Sparing server fleet steps) :
    ∀ later ∈ reached server fleet steps, later.Marked := by
  induction steps generalizing fleet with
  | nil =>
    intro later member
    rw [List.mem_singleton.mp member]
    exact marked
  | cons step rest ih =>
    intro later member
    rcases List.mem_cons.mp member with rfl | further
    · exact marked
    · exact ih (Step.marked_apply marked spares.1) spares.2 later further

/-- A cleanup deletes removed devices only: every other device stays, with its sessions. -/
def Fleet.CleansRemoved (server : Server) (fleet : Fleet) : Prop :=
  ∀ inputs, ∀ device ∈ fleet.devices.rows, device.status ≠ .removed →
    device ∈ ((Step.mk .deviceCleanup inputs).apply server fleet).devices.rows ∧
      ∀ session ∈ fleet.sessions.rows, session.deviceUID = device.uid →
        session ∈ ((Step.mk .deviceCleanup inputs).apply server fleet).sessions.rows

/-- With every row marked properly, a cleanup deletes removed devices only. -/
theorem Fleet.Marked.cleansRemoved {fleet : Fleet} (marked : fleet.Marked) (server : Server) :
    fleet.CleansRemoved server := by
  intro inputs device member status
  have stored := Table.find_of_mem member
  have unmarked : ∀ other, fleet.devices.find device.uid = some other →
      other.removedAt = none := by
    intro other found
    obtain rfl := Option.some.inj (stored.symm.trans found)
    exact (marked device member).unmarked status
  have spared := deviceCleanup_spares server inputs unmarked
  constructor
  · have kept := (congrArg Prod.fst spared).trans stored
    exact (Table.find_eq_some.mp kept).1
  · intro session listed owned
    have kept : session ∈ (fleet.account device.uid).2 :=
      List.mem_filter.mpr ⟨listed, by simpa using owned⟩
    rw [← spared] at kept
    exact List.mem_of_mem_filter kept

/-- In every run from a store without devices in which no status change addresses a removed device,
removal mark and status agree on every row, and a cleanup deletes removed devices only. Each step
keeps the agreement on all rows, and a cleanup deletes what has a mark. -/
theorem marks_agree (server : Server) (steps : List Step) (fleet : Fleet)
    (empty : fleet.devices.rows = []) (spares : Sparing server fleet steps) :
    ∀ later ∈ reached server fleet steps,
      (∀ device ∈ later.devices.rows, device.removedAt.isSome ↔ device.status = .removed) ∧
        later.CleansRemoved server := by
  intro later member
  have start : fleet.Marked := by simp [Fleet.Marked, empty]
  have marked := reached_marked server steps start spares later member
  exact ⟨marked, marked.cleansRemoved server⟩

/-- Enroll a device, accept it and remove it. -/
def removingSteps : List Step :=
  [⟨.authDevice webAuth, fun _ _ => quietAt 0⟩,
   ⟨.updateDeviceStatus "acme" "web" accepted, fun _ _ => quietAt 50⟩,
   ⟨.deleteDevice "acme" "web", fun _ _ => quietAt 100⟩]

/-- Enroll a device, accept it, remove it, and accept it once more. -/
def restoringSteps : List Step :=
  removingSteps ++ [⟨.updateDeviceStatus "acme" "web" accepted, fun _ _ => quietAt 200⟩]

/-- A removed device that is accepted again keeps its mark, and the cleanup of forty days later
deletes it. -/
theorem acceptance_of_removed_keeps_mark :
    emptyFleet.devices.rows = [] ∧ ∃ later ∈ reached plainServer emptyFleet restoringSteps,
      (∃ device ∈ later.devices.rows, device.status = .accepted ∧ device.removedAt.isSome) ∧
        ¬ later.CleansRemoved plainServer := by
  refine ⟨rfl, ?_⟩
  have lost : (reached plainServer emptyFleet restoringSteps).any (fun later =>
      later.devices.rows.any (fun device => device.status = .accepted && device.removedAt.isSome) &&
        ((Step.mk .deviceCleanup fun _ _ => quietAt 3456000).apply plainServer
          later).devices.rows.isEmpty) := by
    decide +kernel
  obtain ⟨later, member, test⟩ := List.any_eq_true.mp lost
  simp only [Bool.and_eq_true, List.any_eq_true, decide_eq_true_eq, List.isEmpty_iff] at test
  obtain ⟨⟨device, stored, status, mark⟩, gone⟩ := test
  refine ⟨later, member, ⟨device, stored, status, mark⟩, ?_⟩
  intro cleans
  have kept := (cleans (fun _ _ => quietAt 3456000) device stored (by simp [status])).1
  simp [gone] at kept

/-- An enrollment, an acceptance and a removal leave mark and status in agreement. -/
theorem marks_agree_removing :
    (reached plainServer emptyFleet removingSteps).length = 4 ∧
      ∀ later ∈ reached plainServer emptyFleet removingSteps,
        (∀ device ∈ later.devices.rows, device.removedAt.isSome ↔ device.status = .removed) ∧
          later.CleansRemoved plainServer := by
  refine ⟨rfl, marks_agree plainServer removingSteps emptyFleet rfl ⟨trivial, ?_, trivial, trivial⟩⟩
  intro device found
  have pending : (((Step.mk (.authDevice webAuth) fun _ _ => quietAt 0).apply plainServer
      emptyFleet).deviceOf "acme" "web").map Device.status = some .pending := by
    decide +kernel
  obtain ⟨stored, present, status⟩ := Option.map_eq_some_iff.mp pending
  obtain rfl : stored = device := Option.some.inj (present.symm.trans found)
  simp [status]

end ShellHub.Devices
