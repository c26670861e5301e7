import ShellHub.DeviceCleanup
import ShellHub.DeviceDebts

/-!
# Exact device counters

A namespace keeps four counters beside its devices, one for each status. They are moved by hand
wherever a status changes. This module runs the device services one after the other, without
store failures, and asks whether the counters stay exact.

They do, as long as the two operations that read the removal mark find it where the status says
so too: an authentication that re-registers a device, and the removed-device cleanup on the devices
that it selects. A status change of a removed device leaves the mark in place, and after that either
of them moves the counters for a row that is not counted as removed.
-/

namespace ShellHub.Devices

open Programs Tables

/-- The operations on devices that move counters. A status change may merge two devices. -/
inductive Operation where
  | authDevice (auth : DeviceAuth)
  | updateDeviceStatus (tenantID uid : String) (status : RequestedStatus)
  | deleteDevice (tenantID uid : String)
  | deviceCleanup
  | ephemeralCleanup

/-- The service of an operation, without its answer. -/
def Operation.program (server : Server) : Operation → Service Unit
  | .authDevice auth => do let _ ← Devices.authDevice server auth false
  | .updateDeviceStatus tenantID uid status => do
    let _ ← Devices.updateDeviceStatus tenantID uid status
  | .deleteDevice tenantID uid => do let _ ← Devices.deleteDevice tenantID uid
  | .deviceCleanup => do let _ ← Devices.deviceCleanup
  | .ephemeralCleanup => do let _ ← Devices.ephemeralCleanup

/-- One operation with the surroundings of each statement of each of its actions. -/
structure Step where
  operation : Operation
  inputs : Nat → Nat → Surroundings

/-- No call of the store or the cache fails during a step. -/
def Step.Faultless (step : Step) : Prop :=
  ∀ action statement, (step.inputs action statement).fault = none

/-- The fleet after an operation that runs alone. -/
def Step.apply (server : Server) (step : Step) (fleet : Fleet) : Fleet :=
  (run (meaning server) step.inputs (step.operation.program server) fleet).state

/-- The fleets of a run: the first, and the one after each step. -/
def reached (server : Server) (fleet : Fleet) : List Step → List Fleet
  | [] => [fleet]
  | step :: rest => fleet :: reached server (step.apply server fleet) rest

/-- The four counters of a namespace equal the numbers of its device rows. -/
def Fleet.Exact (fleet : Fleet) (tenantID : String) : Prop :=
  ∀ owner, fleet.namespaces.find tenantID = some owner →
    ∀ status, owner.deviceCount status = fleet.population tenantID status

/-- Counters are exact when there is no debt. A namespace that does not exist has no devices. -/
theorem Fleet.exact_iff (fleet : Fleet) (tenantID : String) :
    fleet.Exact tenantID ↔ ∀ status, fleet.ledger.debt tenantID status = 0 := by
  unfold Exact
  cases found : fleet.namespaces.find tenantID with
  | none =>
    have nobody (status : DeviceStatus) : fleet.population tenantID status = 0 := by
      refine List.countP_eq_zero.mpr fun device member counted => ?_
      have housed := fleet.housed device member
      simp only [Bool.and_eq_true, decide_eq_true_eq] at counted
      rw [counted.1, found] at housed
      cases housed
    simp [ledger, counter, found, nobody]
  | some owner => simp [ledger, counter, found, sub_eq_zero]

/-- The population of the devices that a cleanup deletes. -/
theorem Fleet.Cleaned.population {fleet after : Fleet} {cutoff : Nat} {gone : List Device}
    (cleaned : fleet.Cleaned cutoff gone after) (tenantID : String) (status : DeviceStatus) :
    fleet.population tenantID status = after.population tenantID status +
      gone.countP fun device => device.tenantID = tenantID && device.status = status := by
  have split := List.countP_eq_countP_filter_add fleet.devices.rows
    (fun device => decide (device.tenantID = tenantID) && decide (device.status = status))
    fun device => (gone.map Device.uid).contains device.uid
  rw [cleaned.perm.countP_eq, ← cleaned.devices] at split
  rw [Nat.add_comm]
  exact split

/-- A cleanup that deletes only devices with the removed status keeps every debt. -/
theorem Fleet.Cleaned.debt {fleet after : Fleet} {cutoff : Nat} {gone : List Device}
    (cleaned : fleet.Cleaned cutoff gone after)
    (agreed : ∀ device ∈ fleet.devices.rows, device.RemovedBefore cutoff → device.status = .removed)
    (tenantID : String) (status : DeviceStatus) :
    after.ledger.debt tenantID status = fleet.ledger.debt tenantID status := by
  have removed : ∀ device ∈ gone, device.status = .removed := fun device member =>
    agreed device (cleaned.stored device member).1 (cleaned.stored device member).2
  have rows := cleaned.population tenantID status
  simp only [ledger]
  by_cases kind : status = .removed
  · subst kind
    have all : (gone.countP fun device => device.tenantID = tenantID && device.status = .removed) =
        gone.countP (·.tenantID = tenantID) := by
      refine List.countP_congr fun device member => ?_
      simp [removed device member]
    have counter := cleaned.removed tenantID
    omega
  · have none : (gone.countP fun device => device.tenantID = tenantID && device.status = status) =
        0 := by
      refine List.countP_eq_zero.mpr fun device member counted => ?_
      simp only [Bool.and_eq_true, decide_eq_true_eq] at counted
      exact kind (counted.2.symm.trans (removed device member))
    have counter := cleaned.others tenantID status kind
    omega

/-- The removal marks that a step reads go with the removed status: that of the device which
authenticates, and those which are older than the retention when the cleanup reads its clock. -/
def Step.FindsAgreement (server : Server) (fleet : Fleet) (step : Step) : Prop :=
  match step.operation with
  | .authDevice auth =>
    ∀ mac stored, auth.identity = some mac →
      fleet.deviceOf auth.tenantID (enrolleeOf server auth mac false).uid = some stored →
      stored.removedAt.isSome → stored.status = .removed
  | .deviceCleanup =>
    ∀ device ∈ fleet.devices.rows,
      device.RemovedBefore ((step.inputs 0 1).now - removedRetention) → device.status = .removed
  | _ => True

/-- Every step of a run finds removal marks and statuses in agreement. -/
def Agreeing (server : Server) : Fleet → List Step → Prop
  | _, [] => True
  | fleet, step :: rest =>
    step.FindsAgreement server fleet ∧ Agreeing server (step.apply server fleet) rest

/-- A removal mark that an authentication reads goes with the removed status. -/
theorem authDevice_agrees {server : Server} {fleet : Fleet} {auth : DeviceAuth}
    {inputs : Nat → Nat → Surroundings}
    (agreed : Step.FindsAgreement server fleet ⟨.authDevice auth, inputs⟩) :
    fleet.ledger.AgreesFor server auth false := by
  intro mac stored identified found tenants marked
  refine agreed mac stored identified ?_ marked
  exact Option.filter_eq_some_iff.mpr ⟨found, by simpa using tenants⟩

/-- An operation other than the removed-device cleanup keeps every debt. -/
theorem Step.program_meets (server : Server) {step : Step} {fleet : Fleet}
    (agreed : step.FindsAgreement server fleet) (other : step.operation ≠ .deviceCleanup) :
    (step.operation.program server).Meets actions fleet.ledger fun _ next =>
      next.debt = fleet.ledger.debt := by
  obtain ⟨operation, inputs⟩ := step
  cases operation with
  | authDevice auth =>
    refine (authDevice_meets server auth false (authDevice_agrees agreed)).bind ?_
    rintro _ _ ⟨_, kept⟩
    exact kept.debt
  | updateDeviceStatus tenantID uid status =>
    refine (updateDeviceStatus_meets fleet.ledger tenantID uid status).bind ?_
    rintro (error | _) next settled
    · obtain rfl : next = _ := settled
      rfl
    · exact settled.2.1.debt
  | deleteDevice tenantID uid =>
    refine (deleteDevice_meets tenantID uid fleet.ledger).bind ?_
    intro _ _ kept
    exact kept.debt
  | deviceCleanup => exact absurd rfl other
  | ephemeralCleanup =>
    refine ⟨trivial, ?_⟩
    rintro (error | _) next settled
    · obtain rfl : next = _ := settled
      rfl
    · exact settled.2

/-- A step keeps every debt. -/
theorem Step.debt_apply {server : Server} {step : Step} {fleet : Fleet}
    (faultless : step.Faultless) (agreed : step.FindsAgreement server fleet) :
    (step.apply server fleet).ledger.debt = fleet.ledger.debt := by
  by_cases cleanup : step.operation = .deviceCleanup
  · obtain ⟨operation, inputs⟩ := step
    subst cleanup
    obtain ⟨gone, cleaned, _⟩ := overdue_cleaned server (faultless 0) fleet
    funext tenantID status
    exact cleaned.debt agreed tenantID status
  · let calm : Nat → Nat → Calm := fun action statement =>
      ⟨step.inputs action statement, faultless action statement⟩
    obtain ⟨⟨_, debt, rfl⟩, _⟩ := Program.Meets.run (actions_realized server)
      (step.program_meets server agreed cleanup) rfl calm
    have same : run (fun action (inputs : Nat → Calm) =>
        meaning server action fun index => (inputs index).1) calm (step.operation.program server)
          fleet = run (meaning server) step.inputs (step.operation.program server) fleet :=
      run_comap (meaning server) (fun inputs index => (inputs index).1) calm _ fleet
    rw [same] at debt
    exact debt

/-- A step that finds agreement keeps the counters of a namespace exact. -/
theorem Step.exact_apply {server : Server} {step : Step} {fleet : Fleet} {tenantID : String}
    (faultless : step.Faultless) (agreed : step.FindsAgreement server fleet)
    (exact : fleet.Exact tenantID) : (step.apply server fleet).Exact tenantID := by
  rw [Fleet.exact_iff] at exact ⊢
  rw [Step.debt_apply faultless agreed]
  exact exact

/-- In a run without store failures, whose steps all find removal marks and statuses in agreement,
the counters of a namespace stay exact. By induction over the run: a step moves each counter as it
moves the rows that it counts. -/
theorem counters_exact (server : Server) (tenantID : String) (steps : List Step) (fleet : Fleet)
    (faultless : ∀ step ∈ steps, step.Faultless) (exact : fleet.Exact tenantID)
    (agreeing : Agreeing server fleet steps) :
    ∀ later ∈ reached server fleet steps, later.Exact tenantID := by
  induction steps generalizing fleet with
  | nil =>
    intro later member
    rw [List.mem_singleton.mp member]
    exact exact
  | cons step rest ih =>
    intro later member
    rcases List.mem_cons.mp member with rfl | further
    · exact exact
    obtain ⟨calm, calmRest⟩ := List.forall_mem_cons.mp faultless
    exact ih _ calmRest (Step.exact_apply calm agreeing.1 exact) agreeing.2
      later further

/-! ## A run that drifts -/

/-- The request with which the device authenticates. -/
def webAuth : DeviceAuth where
  hostname := "web"
  identity := some "aa:bb"
  info := none
  publicKey := "key"
  tenantID := "acme"
  installKey := ""
  realIP := ""

/-- Remove the device, accept it again, and let it authenticate. -/
def driftingSteps : List Step :=
  [⟨.deleteDevice "acme" "web", fun _ _ => quietAt 100⟩,
   ⟨.updateDeviceStatus "acme" "web" accepted, fun _ _ => quietAt 200⟩,
   ⟨.authDevice webAuth, fun _ _ => quietAt 300⟩]

/-- The counters of the sample namespace are exact. -/
theorem webFleet_exact : webFleet.Exact "acme" := by
  rw [Fleet.exact_iff]
  intro status
  cases status <;> decide +kernel

/-- The run ends with a counter of one accepted device and no such row. -/
theorem acceptance_of_removed_drifts :
    webFleet.Exact "acme" ∧ (∀ step ∈ driftingSteps, step.Faultless) ∧
      ¬ ∀ later ∈ reached plainServer webFleet driftingSteps, later.Exact "acme" := by
  refine ⟨webFleet_exact, ?_, ?_⟩
  · simp [driftingSteps, Step.Faultless, quietAt]
  · intro exact
    have drifted : (reached plainServer webFleet driftingSteps).any (fun later =>
        later.ledger.debt "acme" .accepted ≠ 0) := by
      decide +kernel
    obtain ⟨later, member, owed⟩ := List.any_eq_true.mp drifted
    exact of_decide_eq_true owed ((later.exact_iff "acme").mp (exact later member) .accepted)

/-- Remove the device and let it authenticate again. -/
def returningSteps : List Step :=
  [⟨.deleteDevice "acme" "web", fun _ _ => quietAt 100⟩,
   ⟨.authDevice webAuth, fun _ _ => quietAt 300⟩]

/-- A removal and a re-registration keep the counters exact. -/
theorem counters_exact_returning :
    (reached plainServer webFleet returningSteps).length = 3 ∧
      ∀ later ∈ reached plainServer webFleet returningSteps, later.Exact "acme" := by
  refine ⟨rfl, counters_exact plainServer "acme" returningSteps webFleet ?_ webFleet_exact ?_⟩
  · simp [returningSteps, Step.Faultless, quietAt]
  · refine ⟨trivial, ?_, trivial⟩
    intro mac stored identified found _
    obtain rfl : "aa:bb" = mac := Option.some.inj identified
    have status : (((Step.mk (.deleteDevice "acme" "web") fun _ _ => quietAt 100).apply plainServer
        webFleet).deviceOf "acme" (enrolleeOf plainServer webAuth "aa:bb" false).uid).map
          Device.status = some .removed := by
      decide +kernel
    obtain ⟨device, present, removed⟩ := Option.map_eq_some_iff.mp status
    obtain rfl : device = stored := Option.some.inj (present.symm.trans found)
    exact removed

end ShellHub.Devices
