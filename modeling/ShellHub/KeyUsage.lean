import ShellHub.DeviceCounters
import ShellHub.EnrollmentRules
import ShellHub.Interleavings
import ShellHub.RemovalMarks

/-!
# The usage limit of install keys

An install key may be used a limited number of times. An enrollment that is to be accepted reserves
a use, accepts the device, and returns the use if the acceptance fails. The three steps are reached
from first enrollments, re-registrations, reconciles and enrollment callbacks, and other threads
run between them.

A tally counts, from the answers of the steps alone, the acceptances that went through a key and
the threads that hold a reserved use. An acceptance went through the key that its thread looked up
last. The usage counter of the key is the sum of both counts at every moment, so the limit bounds the
acceptances.
-/

namespace ShellHub.Devices

open Programs Tables Interleavings
open Namespaces (StoreError)

/-- The requests that enroll devices. -/
inductive EnrollmentRequest where
  | authDevice (auth : DeviceAuth) (paired : Bool)
  | resolveEnrollmentCallback (token : Option CallbackToken) (reject : Bool)

/-- The service that answers a request. -/
def EnrollmentRequest.program (server : Server) :
    EnrollmentRequest → Service (Except DeviceError Unit)
  | .authDevice auth paired => do return (← Devices.authDevice server auth paired).map fun _ => ()
  | .resolveEnrollmentCallback token reject => Devices.resolveEnrollmentCallback token reject

/-- The acceptances that went through a key, the threads that hold a reserved use of it, and the key
that each thread looked up last. -/
structure Tally where
  accepts : Nat
  holders : List Nat
  lookups : Nat → Option (String × String)

namespace Tally

/-- Nothing was accepted and nothing is reserved. -/
def start : Tally := ⟨0, [], fun _ => none⟩

variable (tally : Tally)

/-- A thread looked a key up. -/
def lookup (thread : Nat) (found : Option (String × String)) : Tally :=
  { tally with lookups := Function.update tally.lookups thread found }

/-- A thread reserved a use. -/
def reserve (thread : Nat) : Tally := { tally with holders := thread :: tally.holders }

/-- A thread returned its use. -/
def release (thread : Nat) : Tally := { tally with holders := tally.holders.erase thread }

/-- A thread accepted a device. The reserved use is not in flight any more. -/
def accept (key : String × String) (thread : Nat) : Tally :=
  if tally.lookups thread = some key then
    { tally with accepts := tally.accepts + 1, holders := tally.holders.erase thread }
  else tally

/-- What an action of a thread adds to the tally of a key. -/
def record (key : String × String) (thread : Nat) : (action : Action) → action.Reply → Tally
  | .call (.installKeyResolve _ _), reply =>
    tally.lookup thread (reply.toOption.map InstallKey.primary)
  | .call (.installKeyResolveSystem _ _), reply =>
    tally.lookup thread (reply.toOption.map InstallKey.primary)
  | .call (.installKeyIncrementUsage used), .ok _ =>
    if used.primary = key then tally.reserve thread else tally
  | .call (.installKeyDecrementUsage used), .ok _ =>
    if used.primary = key then tally.release thread else tally
  | .transaction (.updateDeviceStatus _ _ status), .ok _ =>
    if status.1 = .accepted then tally.accept key thread else tally
  | _, _ => tally

end Tally

/-- Enrollments that run at the same time, over the fleet and the tally of one key. -/
def usageSystem (server : Server) (key : String × String) :
    System EnrollmentRequest Action Action.Reply (Except DeviceError Unit)
      (Nat → Surroundings) (Fleet × Tally) where
  program := EnrollmentRequest.program server
  effect := fun thread _ action inputs shared =>
    let (reply, fleet) := meaning server action inputs shared.1
    (reply, fleet, shared.2.record key thread action reply)

/-- The statement that returns a reserved use does not fail. -/
def Releasing (_ : Fleet × Tally) (_ : Nat) (_ : EnrollmentRequest) (action : Action)
    (inputs : Nat → Surroundings) : Prop :=
  match action with
  | .call (.installKeyDecrementUsage _) => (inputs 0).fault = none
  | _ => True

instance (shared : Fleet × Tally) (thread : Nat) (request : EnrollmentRequest) (action : Action)
    (inputs : Nat → Surroundings) : Decidable (Releasing shared thread request action inputs) := by
  unfold Releasing
  split <;> infer_instance

/-! ## Threads -/

/-- What a thread knows of its own enrollment: the key that it looked up last, and whether it holds a
use of the key under study. -/
structure Use where
  resolved : Option (String × String)
  holding : Bool

namespace Use

variable (use : Use)

/-- A thread that has done nothing. -/
def idle : Use := ⟨none, false⟩

/-- The thread reserves a use of the key it looked up. -/
def reserve (key : String × String) : Use := { use with holding := use.resolved = some key }

/-- The thread holds a use no longer. -/
def release : Use := { use with holding := false }

end Use

/-- The contract of a thread: it reserves and returns uses of the key that it looked up, it holds at
most one, and it accepts only while it holds one. -/
def reserving (key : String × String) : Contract Action Action.Reply Use where
  allowed := fun use action =>
    match action with
    | .call (.installKeyResolve _ _) | .call (.installKeyResolveSystem _ _) => use.holding = false
    | .call (.installKeyIncrementUsage used) => use = ⟨some used.primary, false⟩
    | .call (.installKeyDecrementUsage used) =>
      use = Use.reserve ⟨some used.primary, false⟩ key
    | .call request => request.SparesKeys
    | .transaction (.updateDeviceStatus _ _ status) => status.1 = .accepted → use = use.reserve key
    | .transaction _ => True
  yields := fun use action =>
    match action with
    | .call (.installKeyResolve _ _) => fun reply next =>
      next = ⟨reply.toOption.map InstallKey.primary, false⟩
    | .call (.installKeyResolveSystem _ _) => fun reply next =>
      next = ⟨reply.toOption.map InstallKey.primary, false⟩
    | .call (.installKeyIncrementUsage _) => fun reply next =>
      next = if reply.isOk then use.reserve key else use
    | .call (.installKeyDecrementUsage _) => fun _ next => next = use.release
    | .transaction (.updateDeviceStatus tenantID _ status) => fun reply next =>
      match reply with
      | .ok _ => tenantID ≠ "" ∧ next = if status.1 = .accepted then use.release else use
      | .error _ => next = use
    | _ => fun _ next => next = use

section Threads

variable {key : String × String}

/-- What a thread holds does not change through a call that reads and writes no keys. -/
theorem reserving_ignores_aside (use : Use) : (reserving key).Ignores Action.Aside use := by
  rintro (request | block) aside
  · cases request
    all_goals first
      | exact aside.elim
      | exact ⟨trivial, fun _ _ yielded => yielded⟩
  · exact aside.elim

theorem reserving_ignores_devices (tenantID : String) (use : Use) :
    (reserving key).Ignores (Action.DeviceAccess tenantID) use := by
  rintro (request | block) access
  · cases request
    all_goals first
      | exact access.elim
      | exact ⟨trivial, fun _ _ yielded => yielded⟩
  · exact access.elim

/-- An acceptance takes the use that the thread holds. -/
theorem updateDeviceStatus_reserves (tenantID uid : String) {status : RequestedStatus} {use : Use}
    (ready : status.1 = .accepted → use = use.reserve key) :
    (updateDeviceStatus tenantID uid status).Meets (reserving key) use fun result next =>
      next = if result.isOk ∧ status.1 = .accepted then use.release else use := by
  refine .perform ready ?_
  rintro (error | _) next changed
  · exact changed
  obtain ⟨named, rfl⟩ := changed
  have same : (if status.1 = .accepted then use.release else use) =
      if (Except.ok () : Except DeviceError Unit).isOk ∧ status.1 = .accepted then use.release
      else use := by
    simp [Except.isOk, Except.toBool]
  dsimp only
  split
  · refine ⟨trivial, ?_⟩
    rintro _ _ rfl
    exact same
  · exact same

theorem reserveUse_reserves (used : Option InstallKey) :
    (reserveUse used).Meets (reserving key) ⟨used.map InstallKey.primary, false⟩
      fun result next => next =
        if result.isOk then Use.reserve ⟨used.map InstallKey.primary, false⟩ key
        else ⟨used.map InstallKey.primary, false⟩ := by
  cases used with
  | none => rfl
  | some used => exact ⟨rfl, fun _ _ yielded => yielded⟩

theorem releaseUse_reserves (used : Option InstallKey) :
    (releaseUse used).Meets (reserving key)
      (Use.reserve ⟨used.map InstallKey.primary, false⟩ key)
      fun _ next => next.holding = false := by
  cases used with
  | none => rfl
  | some used =>
    refine ⟨rfl, ?_⟩
    rintro _ _ rfl
    rfl

/-- Reserve, accept, and release if the acceptance fails. Both acceptances have this shape. -/
theorem reserved_accept {α : Type} {used : Option InstallKey} {tenantID uid : String}
    {noRoom : StoreError → α} {refused : DeviceError → α} {done : α} :
    Program.Meets (reserving key)
      (do
        match ← reserveUse used with
        | .error error => return noRoom error
        | .ok _ =>
          match ← updateDeviceStatus tenantID uid accepted with
          | .error error =>
            releaseUse used
            return refused error
          | .ok _ => return done)
      ⟨used.map InstallKey.primary, false⟩ fun _ next => next.holding = false := by
  refine (reserveUse_reserves used).bind ?_
  rintro (error | _) use rfl
  · rfl
  refine (updateDeviceStatus_reserves tenantID uid fun _ => rfl).bind ?_
  rintro (error | _) use rfl
  · refine (releaseUse_reserves used).bind ?_
    intro _ _ released
    exact released
  · rfl

/-- A decision starts and ends without a reserved use: only an acceptance reserves one, and it takes
or returns it. -/
theorem applyEnrollmentDecision_reserves (decision : EnrollmentDecision) (used : Option InstallKey)
    (tenantID uid : String) :
    (applyEnrollmentDecision decision used tenantID uid).Meets (reserving key)
      ⟨used.map InstallKey.primary, false⟩ fun _ next => next.holding = false := by
  cases decision with
  | pending => rfl
  | reject =>
    refine (updateDeviceStatus_reserves tenantID uid fun asked =>
      absurd asked (by decide)).bind ?_
    rintro (error | _) next rfl <;> rfl
  | accept => exact reserved_accept

/-- Enrollments hold no use of the key between their decisions. -/
theorem reserving_enrolls (tenantID uid : String) :
    Enrolls (reserving key) (fun use => use.holding = false)
      (fun use used => use.resolved = used.map InstallKey.primary) tenantID uid where
  aside := fun use _ => reserving_ignores_aside use
  devices := fun use _ => reserving_ignores_devices _ use
  resolves := by
    intro use tenant id free
    refine ⟨free, ?_⟩
    rintro reply _ rfl
    refine ⟨rfl, ?_⟩
    rintro used _ rfl _
    rfl
  system := by
    intro use tenant type free
    refine ⟨free, ?_⟩
    rintro reply _ rfl
    refine ⟨rfl, ?_, ?_⟩
    · rintro error rfl
      rfl
    · rintro used _ rfl _
      rfl
  decides := by
    rintro ⟨resolved, holding⟩ decision used rfl rfl
    exact applyEnrollmentDecision_reserves decision used tenantID uid

/-- The deferred acceptance looks the key of the token up and then accepts like an enrollment. -/
theorem acceptCallback_reserves (token : CallbackToken) :
    (acceptCallback token).Meets (reserving key) Use.idle
      fun _ next => next.holding = false := by
  unfold acceptCallback
  split
  · rfl
  refine .perform rfl ?_
  rintro (error | used) use rfl
  · rfl
  refine .perform trivial ?_
  rintro now use rfl
  split
  · rfl
  · exact reserved_accept

/-- Every request ends without a reserved use. -/
theorem EnrollmentRequest.program_reserves (server : Server) (request : EnrollmentRequest) :
    (request.program server).Meets (reserving key) Use.idle
      fun _ next => next.holding = false := by
  cases request with
  | authDevice auth paired =>
    exact (authDevice_enrolls (fun _ _ => reserving_enrolls _ _) rfl
      (reserving_ignores_devices _ Use.idle)).bind fun _ _ still => still
  | resolveEnrollmentCallback token reject =>
    cases token with
    | none => rfl
    | some token =>
      refine ⟨trivial, ?_⟩
      rintro now use rfl
      refine ⟨trivial, ?_⟩
      rintro (error | _ | _) use rfl
      · rfl
      · rfl
      dsimp only
      split
      · refine (updateDeviceStatus_reserves _ _ fun asked =>
          absurd asked (by decide)).mono ?_
        rintro (error | _) next rfl <;> rfl
      · exact acceptCallback_reserves token

end Threads

/-! ## The counter -/

/-- The usage counter of a key is what it started from, with the acceptances and the uses in flight,
and it is within the limit. -/
def Fleet.Counts (fleet : Fleet) (key : String × String) (limit base : Int) (tally : Tally) :
    Prop :=
  ∃ row, fleet.installKeys.find key = some row ∧ row.usageLimit = limit ∧
    row.usedTimes = base + tally.accepts + tally.holders.length ∧ row.usedTimes ≤ limit

/-- Every key after a change of one key's row. -/
theorem Fleet.find_changeKey (fleet : Fleet) (primary : String × String)
    (edit : InstallKey → InstallKey) (keeps : ∀ row, (edit row).primary = row.primary)
    (key : String × String) :
    (fleet.changeKey primary edit keeps).installKeys.find key =
      (fleet.installKeys.find key).map fun row => if row.primary = primary then edit row else row := by
  simp only [Fleet.changeKey, Table.find_change]

/-- The statement that reserves a use fails, or it found room and counted the use. -/
theorem incrementUsage_cases (used : InstallKey) (around : Surroundings) (fleet : Fleet) :
    ((∃ error, (callMeaning (.installKeyIncrementUsage used) around fleet).1 = .error error) ∧
      (callMeaning (.installKeyIncrementUsage used) around fleet).2 = fleet) ∨
    ((callMeaning (.installKeyIncrementUsage used) around fleet).1 = .ok () ∧
      (∃ stored, fleet.installKeys.find used.primary = some stored ∧ Fleet.usable stored) ∧
      ∀ key, (callMeaning (.installKeyIncrementUsage used) around fleet).2.installKeys.find key =
        (fleet.installKeys.find key).map fun row => if row.primary = used.primary then
          { row with usedTimes := row.usedTimes + 1, lastUsedAt := some around.now } else row) := by
  unfold callMeaning
  split
  · rename_i reply answer
    obtain ⟨error, -, faulty⟩ := Option.bind_eq_some_iff.mp answer
    cases faulty
    exact .inl ⟨⟨error, rfl⟩, rfl⟩
  simp only [Fleet.perform]
  split
  · exact .inl ⟨⟨_, rfl⟩, rfl⟩
  · rename_i stored usable
    obtain ⟨present, room⟩ := Option.filter_eq_some_iff.mp usable
    exact .inr ⟨rfl, ⟨stored, present, room⟩,
      Fleet.find_changeKey fleet used.primary
        (fun stored =>
          { stored with usedTimes := stored.usedTimes + 1, lastUsedAt := some around.now })
        fun _ => rfl⟩

/-- The statement that returns a use fails, or it found one and returned it. -/
theorem decrementUsage_cases (used : InstallKey) (around : Surroundings) (fleet : Fleet) :
    ((∃ error, (callMeaning (.installKeyDecrementUsage used) around fleet).1 = .error error) ∧
      (callMeaning (.installKeyDecrementUsage used) around fleet).2 = fleet ∧
      (around.fault = none → ∀ stored, fleet.installKeys.find used.primary = some stored →
        stored.usedTimes ≤ 0)) ∨
    ((callMeaning (.installKeyDecrementUsage used) around fleet).1 = .ok () ∧
      ∀ key, (callMeaning (.installKeyDecrementUsage used) around fleet).2.installKeys.find key =
        (fleet.installKeys.find key).map fun row => if row.primary = used.primary then
          { row with usedTimes := row.usedTimes - 1 } else row) := by
  unfold callMeaning
  split
  · rename_i reply answer
    obtain ⟨error, fault, faulty⟩ := Option.bind_eq_some_iff.mp answer
    cases faulty
    exact .inl ⟨⟨error, rfl⟩, rfl, fun calm => absurd (calm.symm.trans fault) (by rintro ⟨⟩)⟩
  simp only [Fleet.perform]
  split
  · rename_i unused
    refine .inl ⟨⟨_, rfl⟩, rfl, ?_⟩
    intro _ stored found
    simpa [found] using unused
  · exact .inr ⟨rfl, Fleet.find_changeKey fleet used.primary
      (fun stored => { stored with usedTimes := stored.usedTimes - 1 }) fun _ => rfl⟩

/-- The tally agrees with what a thread knows. -/
def Tally.Agrees (tally : Tally) (thread : Nat) (use : Use) : Prop :=
  (thread ∈ tally.holders ↔ use.holding = true) ∧ tally.lookups thread = use.resolved

/-- The invariant of the enrollments: the counter is exact, and the tally agrees with what the threads
know. -/
structure UsageHolds (key : String × String) (limit base : Int) (shared : Fleet × Tally)
    (useOf : Nat → Use) : Prop where
  counts : shared.1.Counts key limit base shared.2
  distinct : shared.2.holders.Nodup
  agrees : ∀ thread, shared.2.Agrees thread (useOf thread)

namespace UsageHolds

variable {key : String × String} {limit base : Int} {fleet after : Fleet} {tally tally' : Tally}
  {useOf : Nat → Use} {thread : Nat} {next : Use} {around : Surroundings}
variable (hold : UsageHolds key limit base (fleet, tally) useOf)

include hold

/-- A step changes the tally and what one thread knows. -/
theorem set (counts : after.Counts key limit base tally')
    (distinct : tally'.holders.Nodup) (own : tally'.Agrees thread next)
    (others : ∀ other, other ≠ thread → (other ∈ tally'.holders ↔ other ∈ tally.holders) ∧
      tally'.lookups other = tally.lookups other) :
    UsageHolds key limit base (after, tally') (Function.update useOf thread next) := by
  refine ⟨counts, distinct, ?_⟩
  intro other
  by_cases differs : other = thread
  · subst differs
    rw [Function.update_self]
    exact own
  · rw [Function.update_of_ne differs]
    obtain ⟨holders, lookups⟩ := others other differs
    obtain ⟨held, resolved⟩ := hold.agrees other
    exact ⟨holders.trans held, lookups.trans resolved⟩

/-- A step that leaves the tally and what the thread knows alone. -/
theorem unmoved (thread : Nat) (counts : after.Counts key limit base tally) :
    UsageHolds key limit base (after, tally) (Function.update useOf thread (useOf thread)) :=
  hold.set counts hold.distinct (hold.agrees thread) fun _ _ => ⟨Iff.rfl, rfl⟩

/-- A thread that holds nothing looks a key up. -/
theorem lookup (free : (useOf thread).holding = false)
    (answer : Option (String × String)) (counts : after.Counts key limit base tally) :
    UsageHolds key limit base (after, tally.lookup thread answer)
      (Function.update useOf thread ⟨answer, false⟩) := by
  refine hold.set counts hold.distinct ⟨?_, Function.update_self ..⟩ ?_
  · rw [← free]
    exact (hold.agrees thread).1
  · intro other differs
    exact ⟨Iff.rfl, Function.update_of_ne differs ..⟩

/-- A thread that held nothing holds a use. -/
theorem reserve (free : (useOf thread).holding = false)
    (counts : after.Counts key limit base (tally.reserve thread)) :
    UsageHolds key limit base (after, tally.reserve thread)
      (Function.update useOf thread { useOf thread with holding := true }) := by
  obtain ⟨held, resolved⟩ := hold.agrees thread
  have outside : thread ∉ tally.holders := by
    rw [held, free]
    exact Bool.false_ne_true
  refine hold.set counts (List.nodup_cons.mpr ⟨outside, hold.distinct⟩) ⟨?_, resolved⟩ ?_
  · simp [Tally.reserve]
  · intro other differs
    simp [Tally.reserve, differs]

/-- A thread holds a use no longer. -/
theorem drop {accepts : Nat}
    (counts : after.Counts key limit base ⟨accepts, tally.holders.erase thread, tally.lookups⟩) :
    UsageHolds key limit base (after, ⟨accepts, tally.holders.erase thread, tally.lookups⟩)
      (Function.update useOf thread (useOf thread).release) := by
  refine hold.set counts (hold.distinct.erase thread) ⟨?_, (hold.agrees thread).2⟩ ?_
  · simp [hold.distinct.mem_erase_iff, Use.release]
  · intro other differs
    simp [hold.distinct.mem_erase_iff, differs]

/-- The counter of a key when the row of another one has changed. -/
theorem counts_of_other {primary : String × String} {edit : InstallKey → InstallKey}
    (differs : primary ≠ key)
    (rows : ∀ key, after.installKeys.find key =
      (fleet.installKeys.find key).map fun row => if row.primary = primary then edit row else row) :
    after.Counts key limit base tally := by
  obtain ⟨row, known, rest⟩ := hold.counts
  have other : row.primary ≠ primary := by
    rw [(Table.find_eq_some.mp known).2]
    exact differs.symm
  refine ⟨row, ?_, rest⟩
  rw [rows, known, Option.map_some, if_neg other]

/-- The statement that reserves a use. -/
theorem increment {used : InstallKey}
    (own : useOf thread = ⟨some used.primary, false⟩) (positive : 0 < limit)
    {reply : Except StoreError Unit}
    (answer : (callMeaning (.installKeyIncrementUsage used) around fleet).1 = reply) :
    UsageHolds key limit base
      ((callMeaning (.installKeyIncrementUsage used) around fleet).2,
        tally.record key thread (.call (.installKeyIncrementUsage used)) reply)
      (Function.update useOf thread
        (if reply.isOk then (useOf thread).reserve key else useOf thread)) := by
  subst answer
  rcases incrementUsage_cases used around fleet with ⟨⟨error, failed⟩, unchanged⟩ |
    ⟨succeeded, ⟨stored, present, room⟩, rows⟩
  · rw [failed, unchanged]
    exact hold.unmoved thread hold.counts
  have free : (useOf thread).holding = false := by rw [own]
  rw [succeeded]
  by_cases same : used.primary = key
  · subst same
    obtain ⟨row, known, limited, counted, within⟩ := hold.counts
    obtain rfl : stored = row := Option.some.inj (present.symm.trans known)
    have named : stored.primary = used.primary := (Table.find_eq_some.mp present).2
    have below : stored.usedTimes < limit := by
      simp only [Fleet.usable, Bool.or_eq_true, decide_eq_true_eq] at room
      omega
    have moved := rows used.primary
    rw [present, Option.map_some, if_pos named] at moved
    have counts : Fleet.Counts (callMeaning (.installKeyIncrementUsage used) around fleet).2
        used.primary limit base (tally.reserve thread) := by
      refine ⟨_, moved, limited, ?_, below⟩
      simp only [Tally.reserve, List.length_cons] at counted ⊢
      omega
    simpa [Tally.record, Use.reserve, own, Except.isOk, Except.toBool] using
      hold.reserve free counts
  · have counts := hold.counts_of_other same rows
    have still : (useOf thread).reserve key = useOf thread := by simp [own, Use.reserve, same]
    simpa [Tally.record, same, still] using hold.unmoved thread counts

/-- The counter without the use that a thread holds. -/
theorem counted_erase (member : thread ∈ tally.holders) :
    ∃ row, fleet.installKeys.find key = some row ∧ row.usageLimit = limit ∧
      row.usedTimes = base + tally.accepts + (tally.holders.erase thread).length + 1 ∧
      row.usedTimes ≤ limit := by
  obtain ⟨row, known, limited, counted, within⟩ := hold.counts
  have some := List.length_pos_of_mem member
  refine ⟨row, known, limited, ?_, within⟩
  simp only [List.length_erase_of_mem member] at counted ⊢
  omega

/-- The statement that returns a use. -/
theorem decrement {used : InstallKey}
    (own : useOf thread = Use.reserve ⟨some used.primary, false⟩ key)
    (started : 0 ≤ base) (calm : around.fault = none) {reply : Except StoreError Unit}
    (answer : (callMeaning (.installKeyDecrementUsage used) around fleet).1 = reply) :
    UsageHolds key limit base
      ((callMeaning (.installKeyDecrementUsage used) around fleet).2,
        tally.record key thread (.call (.installKeyDecrementUsage used)) reply)
      (Function.update useOf thread (useOf thread).release) := by
  subst answer
  by_cases same : used.primary = key
  · subst same
    have member : thread ∈ tally.holders := by
      rw [(hold.agrees thread).1, own]
      exact decide_eq_true rfl
    obtain ⟨row, known, limited, counted, within⟩ := hold.counted_erase member
    have named : row.primary = used.primary := (Table.find_eq_some.mp known).2
    rcases decrementUsage_cases used around fleet with ⟨-, -, unused⟩ | ⟨succeeded, rows⟩
    · have none := unused calm row known
      omega
    have moved := rows used.primary
    rw [known, Option.map_some, if_pos named] at moved
    have counts : Fleet.Counts (callMeaning (.installKeyDecrementUsage used) around fleet).2
        used.primary limit base ⟨tally.accepts, tally.holders.erase thread, tally.lookups⟩ := by
      refine ⟨_, moved, limited, ?_, ?_⟩
      · show row.usedTimes - 1 = base + tally.accepts + (tally.holders.erase thread).length
        omega
      · show row.usedTimes - 1 ≤ limit
        omega
    rw [succeeded]
    simpa [Tally.record, Tally.release] using hold.drop counts
  · have free : (useOf thread).release = useOf thread := by
      simp [own, Use.release, Use.reserve, same]
    rw [free]
    rcases decrementUsage_cases used around fleet with ⟨⟨error, failed⟩, unchanged, -⟩ |
      ⟨succeeded, rows⟩
    · rw [failed, unchanged]
      exact hold.unmoved thread hold.counts
    · rw [succeeded]
      simpa [Tally.record, same] using hold.unmoved thread (hold.counts_of_other same rows)

/-- A fleet with the same install keys has the same counter. -/
theorem counts_of_installKeys (spared : after.installKeys = fleet.installKeys) :
    after.Counts key limit base tally := by
  unfold Fleet.Counts
  rw [spared]
  exact hold.counts

/-- An acceptance that went through. -/
theorem accept (ready : useOf thread = (useOf thread).reserve key)
    (spared : after.installKeys = fleet.installKeys) :
    UsageHolds key limit base (after, tally.accept key thread)
      (Function.update useOf thread (useOf thread).release) := by
  obtain ⟨held, resolved⟩ := hold.agrees thread
  have holding : (useOf thread).holding = decide ((useOf thread).resolved = some key) :=
    congrArg Use.holding ready
  unfold Tally.accept
  rw [resolved]
  split
  · rename_i through
    rw [decide_eq_true through] at holding
    obtain ⟨row, known, limited, counted, within⟩ := hold.counted_erase (held.mpr holding)
    refine hold.drop ⟨row, spared ▸ known, limited, ?_, within⟩
    push_cast
    omega
  · rename_i aside
    rw [decide_eq_false aside] at holding
    have same : (useOf thread).release = useOf thread := by rw [Use.release, ← holding]
    rw [same]
    exact hold.unmoved thread (hold.counts_of_installKeys spared)

/-- A status change in a transaction. -/
theorem transaction {server : Server} {tenantID uid : String} {status : RequestedStatus}
    {inputs : Nat → Surroundings}
    (ready : status.1 = .accepted → useOf thread = (useOf thread).reserve key) {reply : Except DeviceError Unit}
    (answer : (transact server (.updateDeviceStatus tenantID uid status) inputs fleet).1 = reply) :
    ∃ next, (reserving key).yields (useOf thread)
        (.transaction (.updateDeviceStatus tenantID uid status)) reply next ∧
      UsageHolds key limit base
        ((transact server (.updateDeviceStatus tenantID uid status) inputs fleet).2,
          tally.record key thread (.transaction (.updateDeviceStatus tenantID uid status)) reply)
        (Function.update useOf thread next) := by
  have spared := transact_installKeys server (.updateDeviceStatus tenantID uid status) inputs fleet
  have counts := hold.counts_of_installKeys spared
  have settled := transact_settles server (.updateDeviceStatus tenantID uid status) inputs fleet
  rw [answer] at settled
  cases reply with
  | error error => exact ⟨_, rfl, hold.unmoved thread counts⟩
  | ok done =>
    refine ⟨_, ⟨settled.1, rfl⟩, ?_⟩
    simp only [Tally.record]
    split
    · rename_i asked
      exact hold.accept (ready asked) spared
    · exact hold.unmoved thread counts

/-- An action answers what the contract says, and the counter stays exact. -/
theorem step {server : Server} {request : EnrollmentRequest} {action : Action}
    {inputs : Nat → Surroundings} (positive : 0 < limit) (started : 0 ≤ base)
    (allowed : (reserving key).allowed (useOf thread) action)
    (releasing : Releasing (fleet, tally) thread request action inputs) :
    let outcome := meaning server action inputs fleet
    ∃ next, (reserving key).yields (useOf thread) action outcome.1 next ∧
      UsageHolds key limit base (outcome.2, tally.record key thread action outcome.1)
        (Function.update useOf thread next) := by
  cases action with
  | call made =>
    by_cases spares : made.SparesKeys
    · have counts := hold.counts_of_installKeys (callMeaning_installKeys made (inputs 0) fleet spares)
      cases made
      case installKeyResolve | installKeyResolveSystem => exact ⟨_, rfl, hold.lookup allowed _ counts⟩
      all_goals first
        | exact spares.elim
        | exact ⟨_, rfl, hold.unmoved thread counts⟩
    · cases made
      case installKeyIncrementUsage used => exact ⟨_, rfl, hold.increment allowed positive rfl⟩
      case installKeyDecrementUsage used =>
        exact ⟨_, rfl, hold.decrement allowed started releasing rfl⟩
      all_goals exact absurd trivial spares
  | transaction block =>
    have counts := hold.counts_of_installKeys (transact_installKeys server block inputs fleet)
    cases block
    case updateDeviceStatus => exact hold.transaction allowed rfl
    all_goals exact ⟨_, rfl, hold.unmoved thread counts⟩

end UsageHolds

/-- In every interleaving of enrollments in which reserved uses can be returned, the usage counter
of a limited key is at every moment the number of acceptances through the key and of reservations
that are in flight. It is never negative and never above the limit, and neither are the acceptances.
Each call moves the counter and the holders together: a thread holds a use from its reservation to
its acceptance or return. -/
theorem usage_counted (server : Server) (key : String × String) (fleet : Fleet) (row : InstallKey)
    (stored : fleet.installKeys.find key = some row) (limited : 0 < row.usageLimit)
    (started : 0 ≤ row.usedTimes) (within : row.usedTimes ≤ row.usageLimit)
    (events : List (Event EnrollmentRequest (Nat → Surroundings)))
    (releasing : (usageSystem server key).Along Releasing ⟨(fleet, .start), []⟩ events) :
    ∀ pool ∈ (usageSystem server key).reached ⟨(fleet, .start), []⟩ events,
      (∃ current, pool.shared.1.installKeys.find key = some current ∧
        current.usageLimit = row.usageLimit ∧
        current.usedTimes =
          row.usedTimes + pool.shared.2.accepts + pool.shared.2.holders.length ∧
        0 ≤ current.usedTimes ∧ current.usedTimes ≤ row.usageLimit) ∧
      row.usedTimes + pool.shared.2.accepts ≤ row.usageLimit ∧
      pool.shared.2.holders.Nodup ∧
      ∀ thread ∈ pool.shared.2.holders,
        ∃ running, pool.threads[thread]? = some running ∧ running.result = none := by
  intro pool member
  have start : UsageHolds key row.usageLimit row.usedTimes (fleet, .start) fun _ => Use.idle :=
    ⟨⟨row, stored, rfl, by simp [Tally.start], within⟩, List.nodup_nil,
      fun thread => ⟨by simp [Tally.start, Use.idle], rfl⟩⟩
  obtain ⟨useOf, hold, ended, unstarted⟩ := (usageSystem server key).reached_of_threads
    (UsageHolds key row.usageLimit row.usedTimes) (EnrollmentRequest.program_reserves server)
    (fun hold => hold.step limited started) start releasing pool member
  obtain ⟨current, known, same, counted, below⟩ := hold.counts
  refine ⟨⟨current, known, same, counted, by omega, below⟩, by omega, hold.distinct, ?_⟩
  intro thread holder
  have holding := (hold.agrees thread).1.mp holder
  cases found : pool.threads[thread]? with
  | none =>
    rw [unstarted thread (List.getElem?_eq_none_iff.mp found)] at holding
    cases holding
  | some running =>
    refine ⟨running, rfl, ?_⟩
    cases returned : running.result with
    | none => rfl
    | some result =>
      rw [ended _ _ _ found returned] at holding
      cases holding

/-- A key for one device. -/
def siteKey : InstallKey where
  id := "site"
  tenantID := "acme"
  name := "site"
  mode := .automatic
  webhookURL := ""
  webhookSecret := ""
  allowedMACs := []
  webhookTimeout := 0
  webhookCallbackTTL := 0
  reusable := false
  usageLimit := 1
  usedTimes := 0
  lastUsedAt := none
  ephemeral := false
  ephemeralTimeout := 0
  tags := []
  revoked := false
  disabled := false
  type := .user
  expiresAt := none

/-- A namespace with the key and without devices. -/
def siteFleet : Fleet := { emptyFleet with installKeys := ⟨[siteKey], by decide⟩ }

/-- A device that enrolls with the key. -/
def siteAuth (hostname : String) : DeviceAuth :=
  { webAuth with hostname, identity := some hostname, installKey := "site" }

/-- The surroundings of a step that fails. -/
def faulty : Nat → Surroundings := fun _ => { quietAt 100 with fault := some .unavailable }

/-- A thread makes a number of steps without a fault. -/
def quietSteps {Request : Type} (thread count : Nat) : List (Event Request (Nat → Surroundings)) :=
  List.replicate count (.step thread fun _ => quietAt 100)

/-- Two devices look the key up. The first reserves the only use, the second finds no room, and the
acceptance of the first fails. A third device is accepted then. -/
def siteEvents : List (Event EnrollmentRequest (Nat → Surroundings)) :=
  [.start (.authDevice (siteAuth "web") false), .start (.authDevice (siteAuth "db") false)] ++
    quietSteps 1 9 ++ quietSteps 0 10 ++ quietSteps 1 2 ++ [.step 0 faulty] ++ quietSteps 0 2 ++
    [.start (.authDevice (siteAuth "app") false)] ++ quietSteps 2 13

/-- The failed acceptance returns its use, and the counter ends at the one that went through. -/
theorem usage_counted_site :
    (((usageSystem plainServer ("acme", "site")).reached ⟨(siteFleet, .start), []⟩
      siteEvents).map fun pool => (pool.shared.2.accepts, pool.shared.2.holders)).dedup =
        [(0, [0]), (0, []), (0, [2]), (1, [])] ∧
      ∀ pool ∈ (usageSystem plainServer ("acme", "site")).reached ⟨(siteFleet, .start), []⟩
        siteEvents,
        (∃ current, pool.shared.1.installKeys.find ("acme", "site") = some current ∧
          current.usageLimit = siteKey.usageLimit ∧
          current.usedTimes =
            siteKey.usedTimes + pool.shared.2.accepts + pool.shared.2.holders.length ∧
          0 ≤ current.usedTimes ∧ current.usedTimes ≤ siteKey.usageLimit) ∧
        siteKey.usedTimes + pool.shared.2.accepts ≤ siteKey.usageLimit ∧
        pool.shared.2.holders.Nodup ∧
        ∀ thread ∈ pool.shared.2.holders,
          ∃ running, pool.threads[thread]? = some running ∧ running.result = none :=
  ⟨by decide +kernel,
    usage_counted plainServer ("acme", "site") siteFleet siteKey (by decide +kernel) (by decide)
      (by decide) (by decide) siteEvents (by decide +kernel)⟩

end ShellHub.Devices
