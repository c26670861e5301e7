import ShellHub.DeviceLedger

/-!
# The cleanup of removed devices

Every night the devices that were removed more than thirty days ago are deleted with their sessions,
page after page, and taken off the counters of their namespaces. The number of pages is fixed before
the first deletion. Each page is read at its offset in what is left, so that after the first page as
many devices are skipped as were deleted.
-/

namespace ShellHub.Devices

open Programs Tables

/-! ## What a deletion leaves -/

namespace Fleet

instance (cutoff : Nat) (device : Device) : Decidable (device.RemovedBefore cutoff) :=
  inferInstanceAs (Decidable (_ = true))

/-- The number of devices that were removed before a time. -/
def overdue (fleet : Fleet) (cutoff : Nat) : Nat :=
  fleet.devices.rows.countP (Device.RemovedBefore cutoff ·)

/-- Some overdue devices are gone with their sessions. -/
structure Deleted (fleet : Fleet) (cutoff : Nat) (gone : List Device) (after : Fleet) : Prop where
  devices : after.devices.rows =
    fleet.devices.rows.filter fun device => !(gone.map Device.uid).contains device.uid
  sessions : after.sessions.rows =
    fleet.sessions.rows.filter fun session => !(gone.map Device.uid).contains session.deviceUID
  stored : ∀ device ∈ gone, device ∈ fleet.devices.rows ∧ device.RemovedBefore cutoff
  distinct : (gone.map Device.uid).Nodup

/-- Some overdue devices are gone with their sessions, and the namespaces are as they were. -/
structure Without (fleet : Fleet) (cutoff : Nat) (gone : List Device) (after : Fleet) : Prop
    extends fleet.Deleted cutoff gone after where
  namespaces : after.namespaces = fleet.namespaces

variable {fleet middle after : Fleet} {cutoff : Nat} {gone further : List Device}

theorem Without.refl (fleet : Fleet) (cutoff : Nat) : fleet.Without cutoff [] fleet where
  devices := by simp
  sessions := by simp
  namespaces := rfl
  stored := by rintro _ ⟨⟩
  distinct := List.nodup_nil

theorem Without.trans (former : fleet.Without cutoff gone middle)
    (latter : middle.Without cutoff further after) :
    fleet.Without cutoff (gone ++ further) after where
  devices := by
    rw [latter.devices, former.devices, List.filter_filter]
    refine List.filter_congr fun device _ => ?_
    rw [List.map_append, List.contains_append, Bool.not_or, Bool.and_comm]
  sessions := by
    rw [latter.sessions, former.sessions, List.filter_filter]
    refine List.filter_congr fun session _ => ?_
    rw [List.map_append, List.contains_append, Bool.not_or, Bool.and_comm]
  namespaces := latter.namespaces.trans former.namespaces
  stored device member := by
    rcases List.mem_append.mp member with first | second
    · exact former.stored device first
    · obtain ⟨left, removed⟩ := latter.stored device second
      rw [former.devices] at left
      exact ⟨List.mem_of_mem_filter left, removed⟩
  distinct := by
    rw [List.map_append, List.nodup_append]
    refine ⟨former.distinct, latter.distinct, ?_⟩
    rintro uid first other second rfl
    obtain ⟨device, member, rfl⟩ := List.mem_map.mp second
    have left := (latter.stored device member).1
    rw [former.devices] at left
    have kept := (List.mem_filter.mp left).2
    rw [List.contains_iff_mem.mpr first] at kept
    cases kept

/-- The rows that are gone. -/
theorem Deleted.perm (deleted : fleet.Deleted cutoff gone after) :
    (fleet.devices.rows.filter fun device => (gone.map Device.uid).contains device.uid).Perm
      gone := by
  have rows : fleet.devices.rows.Nodup := fleet.devices.distinct.of_map
  refine (List.perm_ext_iff_of_nodup (rows.filter _) deleted.distinct.of_map).mpr fun device => ?_
  rw [List.mem_filter, List.contains_iff_mem, List.mem_map]
  constructor
  · rintro ⟨stored, other, member, same⟩
    have equal : other = device := List.inj_on_of_nodup_map fleet.devices.distinct
      (deleted.stored other member).1 stored same
    exact equal ▸ member
  · intro member
    exact ⟨(deleted.stored device member).1, device, member, rfl⟩

/-- Each device that is gone was overdue, and the others are as they were. -/
theorem Deleted.overdue (deleted : fleet.Deleted cutoff gone after) :
    gone.length + after.overdue cutoff = fleet.overdue cutoff := by
  have all : gone.countP (Device.RemovedBefore cutoff ·) = gone.length :=
    List.countP_eq_length.mpr fun device member => decide_eq_true (deleted.stored device member).2
  unfold Fleet.overdue
  rw [deleted.devices, ← all, ← deleted.perm.countP_eq]
  exact (List.countP_eq_countP_filter_add _ _ _).symm

/-! ## Pages -/

/-- A page of the overdue devices. -/
def page (fleet : Fleet) (cutoff number : Nat) : List Device :=
  ((fleet.removedBefore cutoff).drop (pageSize * number)).take pageSize

theorem removedBefore_perm (fleet : Fleet) (cutoff : Nat) :
    (fleet.removedBefore cutoff).Perm
      (fleet.devices.rows.filter (Device.RemovedBefore cutoff ·)) := by
  refine (List.mergeSort_perm _ _).trans (.of_eq (List.filter_congr fun device _ => ?_))
  exact Bool.eq_iff_iff.mpr decide_eq_true_iff.symm

theorem removedBefore_length (fleet : Fleet) (cutoff : Nat) :
    (fleet.removedBefore cutoff).length = fleet.overdue cutoff := by
  rw [(fleet.removedBefore_perm cutoff).length_eq]
  exact List.countP_eq_length_filter.symm

theorem page_length (fleet : Fleet) (cutoff number : Nat) :
    (fleet.page cutoff number).length =
      min pageSize (fleet.overdue cutoff - pageSize * number) := by
  unfold page
  rw [List.length_take, List.length_drop, removedBefore_length]

/-- Deleting a page. -/
theorem without_page (fleet : Fleet) (cutoff number : Nat) :
    fleet.Without cutoff (fleet.page cutoff number)
      (fleet.deleteDevices ((fleet.page cutoff number).map Device.uid)) := by
  have part : (fleet.page cutoff number).Sublist (fleet.removedBefore cutoff) :=
    (List.take_sublist _ _).trans (List.drop_sublist _ _)
  have rows : (fleet.page cutoff number).Subperm fleet.devices.rows :=
    part.subperm.trans ((fleet.removedBefore_perm cutoff).subperm.trans List.filter_sublist.subperm)
  obtain ⟨distinct, -⟩ := listed_of_subperm rows
  refine ⟨⟨rfl, rfl, fun device member => ⟨?_, ?_⟩, distinct⟩, rfl⟩
  · exact rows.subset member
  · exact of_decide_eq_true
      (List.mem_filter.mp ((fleet.removedBefore_perm cutoff).subset (part.subset member))).2

end Fleet

/-- How many devices the page loop deletes, with the number of those that are overdue. -/
def swept : (pages page total : Nat) → Nat
  | 0, _, _ => 0
  | pages + 1, page, total =>
    let listed := min Fleet.pageSize (total - Fleet.pageSize * page)
    listed + swept pages (page + 1) (total - listed)

/-- From its second page on the loop leaves as many devices as stand before the page. Whatever a page
deletes moves later devices to the front, where no later page looks. -/
theorem swept_le (pages page total : Nat) :
    swept pages page total + min total (Fleet.pageSize * page) ≤ total := by
  induction pages generalizing page total with
  | zero =>
    rw [swept, Nat.zero_add]
    exact Nat.min_le_left ..
  | succ pages ih =>
    have later := ih (page + 1)
      (total - min Fleet.pageSize (total - Fleet.pageSize * page))
    rw [Nat.mul_add, Nat.mul_one] at later
    unfold swept
    dsimp only
    omega

/-- A run deletes everything only if it all stands on the first page. -/
theorem swept_lt (pages : Nat) {total : Nat} (many : Fleet.pageSize < total) :
    swept pages 0 total < total := by
  cases pages with
  | zero => exact Nat.lt_of_le_of_lt (Nat.zero_le _) many
  | succ pages =>
    have later := swept_le pages 1 (total - min Fleet.pageSize total)
    have positive : 0 < Fleet.pageSize := by decide
    rw [swept, Nat.mul_zero, Nat.sub_zero, Nat.zero_add]
    omega

/-- The calls of a store without faults. -/
def undisturbed : Contract Call Call.Reply Fleet :=
  callMeaning.within fun around => around.fault = none

section Runs

variable {fleet : Fleet}

theorem undisturbed_yields {request : Call} {reply : request.Reply} {after : Fleet}
    (yields : undisturbed.yields fleet request reply after) :
    ∃ around, fleet.perform around request = (reply, after) := by
  obtain ⟨around, calm, answer⟩ := yields
  refine ⟨around, ?_⟩
  unfold callMeaning at answer
  rw [calm] at answer
  exact answer

/-- The page loop deletes overdue devices and books each of them. -/
theorem cleanupPages_sweeps (cutoff pages page : Nat) (tally : List (String × DeviceStatus))
    (fleet : Fleet) :
    (cleanupPages cutoff pages page tally).Meets undisturbed fleet fun result after =>
      ∃ gone, fleet.Without cutoff gone after ∧
        result = .ok (tally ++ gone.map fun device => (device.tenantID, .removed)) ∧
        gone.length = swept pages page (fleet.overdue cutoff) := by
  induction pages generalizing page tally fleet with
  | zero => exact ⟨[], .refl fleet cutoff, by simp, rfl⟩
  | succ pages ih =>
    have without := fleet.without_page cutoff page
    have length := fleet.page_length cutoff page
    refine .perform trivial fun reply after yields => ?_
    obtain ⟨around, answer⟩ := undisturbed_yields yields
    obtain ⟨rfl, rfl⟩ : reply = .ok (fleet.page cutoff page) ∧ after = fleet := by
      cases answer
      exact ⟨rfl, rfl⟩
    cases listed : after.page cutoff page with
    | nil =>
      refine (ih (page + 1) tally after).mono ?_
      rintro result later ⟨gone, swept, booked, count⟩
      rw [listed, List.length_nil] at length
      refine ⟨gone, swept, booked, ?_⟩
      rw [count, Devices.swept, ← length, Nat.zero_add, Nat.sub_zero]
    | cons device devices =>
      refine .perform trivial fun reply next yields => ?_
      obtain ⟨around, answer⟩ := undisturbed_yields yields
      rw [← listed] at answer ⊢
      cases answer
      refine (ih (page + 1) _ _).mono ?_
      rintro result later ⟨gone, swept, booked, count⟩
      refine ⟨after.page cutoff page ++ gone, without.trans swept, ?_, ?_⟩
      · rw [booked, List.map_append, List.append_assoc]
      · have left := without.overdue
        rw [List.length_append, count, Devices.swept, ← length]
        congr 2
        omega

/-- Moving a counter moves that counter only. -/
theorem Fleet.counter_moveCount {tenantID : String}
    (housed : (fleet.namespaces.find tenantID).isSome) (status : DeviceStatus) (amount : Int)
    (tenant : String) (kind : DeviceStatus) :
    (fleet.moveCount tenantID status amount).counter tenant kind =
      fleet.counter tenant kind + if tenant = tenantID ∧ kind = status then amount else 0 := by
  have booked := congrArg (fun ledger => ledger.debt tenant kind)
    (fleet.ledger_moveCount housed status amount)
  have same : (fleet.moveCount tenantID status amount).population tenant kind =
      fleet.population tenant kind := rfl
  simp only [Fleet.ledger, Ledger.book, same] at booked
  omega

/-- A namespace stays where its counters move. -/
theorem Fleet.isSome_moveCount {tenantID tenant : String} {status : DeviceStatus} {amount : Int}
    (housed : (fleet.namespaces.find tenant).isSome) :
    ((fleet.moveCount tenantID status amount).namespaces.find tenant).isSome := by
  simp only [Fleet.moveCount, Table.find_change, Option.isSome_map]
  exact housed

/-- The decrements move each counter by its bucket. -/
theorem decrementBuckets_moves (tally : List (String × DeviceStatus))
    {buckets : List (String × DeviceStatus)} (distinct : buckets.Nodup) (fleet : Fleet)
    (housed : ∀ bucket ∈ buckets, (fleet.namespaces.find bucket.1).isSome) :
    (decrementBuckets tally buckets).Meets undisturbed fleet fun result after =>
      result = .ok () ∧ after.devices = fleet.devices ∧ after.sessions = fleet.sessions ∧
        ∀ tenant kind, after.counter tenant kind = fleet.counter tenant kind -
          if (tenant, kind) ∈ buckets then (tally.count (tenant, kind) : Int) else 0 := by
  induction buckets generalizing fleet with
  | nil => exact ⟨rfl, rfl, rfl, fun tenant kind => by simp⟩
  | cons bucket rest ih =>
    obtain ⟨fresh, distinct⟩ := List.nodup_cons.mp distinct
    have owner := housed bucket (List.mem_cons_self ..)
    refine .perform trivial fun reply next yields => ?_
    obtain ⟨around, answer⟩ := undisturbed_yields yields
    obtain ⟨stored, found⟩ := Option.isSome_iff_exists.mp owner
    simp only [Fleet.perform, found] at answer
    cases answer
    have others : ∀ other ∈ rest, ((fleet.moveCount bucket.1 bucket.2
        (-(tally.count bucket))).namespaces.find other.1).isSome := fun other member =>
      Fleet.isSome_moveCount (housed other (List.mem_cons_of_mem _ member))
    refine (ih distinct _ others).mono ?_
    rintro result after ⟨finished, devices, sessions, counters⟩
    refine ⟨finished, devices, sessions, fun tenant kind => ?_⟩
    rw [counters, Fleet.counter_moveCount owner]
    by_cases own : (tenant, kind) = bucket
    · subst own
      simp [fresh]
      omega
    · have apart : ¬ (tenant = bucket.1 ∧ kind = bucket.2) := fun both =>
        own (Prod.ext both.1 both.2)
      simp [apart, own]

/-- The decrements of a cleanup take its tally off the counters. -/
theorem decrementCounters_moves (tally : List (String × DeviceStatus)) (fleet : Fleet)
    (housed : ∀ bucket ∈ tally, (fleet.namespaces.find bucket.1).isSome) :
    (decrementCounters tally).Meets undisturbed fleet fun result after =>
      result = .ok () ∧ after.devices = fleet.devices ∧ after.sessions = fleet.sessions ∧
        ∀ tenant kind, after.counter tenant kind =
          fleet.counter tenant kind - tally.count (tenant, kind) := by
  have sorted := List.mergeSort_perm tally.dedup bucketBefore
  refine (decrementBuckets_moves tally (sorted.nodup_iff.mpr tally.nodup_dedup) fleet
    fun bucket member => housed bucket (List.mem_dedup.mp (sorted.subset member))).mono ?_
  rintro result after ⟨finished, devices, sessions, counters⟩
  refine ⟨finished, devices, sessions, fun tenant kind => ?_⟩
  rw [counters]
  by_cases listed : (tenant, kind) ∈ tally
  · rw [if_pos (sorted.mem_iff.mpr (List.mem_dedup.mpr listed))]
  · rw [if_neg fun member => listed (List.mem_dedup.mp (sorted.subset member)),
      List.count_eq_zero_of_not_mem listed]
    rfl

/-- The number of pages of a cleanup. -/
def pagesOf (total : Nat) : Nat := (total + Fleet.pageSize - 1) / Fleet.pageSize

/-- What stands on one page is deleted. -/
theorem swept_all {total : Nat} (few : total ≤ Fleet.pageSize) :
    swept (pagesOf total) 0 total = total := by
  rcases Nat.eq_zero_or_pos total with rfl | some
  · rfl
  · have one : pagesOf total = 1 := by
      unfold pagesOf Fleet.pageSize at *
      omega
    rw [one, swept, swept, Nat.mul_zero, Nat.sub_zero, Nat.add_zero]
    exact Nat.min_eq_right few

/-- What a cleanup leaves: some overdue devices are gone with their sessions, and each namespace's
counter of removed devices is lower by the number of its devices that are gone. -/
structure Fleet.Cleaned (fleet : Fleet) (cutoff : Nat) (gone : List Device) (after : Fleet) : Prop
    extends fleet.Deleted cutoff gone after where
  removed : ∀ tenantID, after.counter tenantID .removed =
    fleet.counter tenantID .removed - gone.countP (·.tenantID = tenantID)
  others : ∀ tenantID status, status ≠ .removed →
    after.counter tenantID status = fleet.counter tenantID status

theorem Fleet.Without.cleaned {cutoff : Nat} {gone : List Device} {middle after : Fleet}
    (without : fleet.Without cutoff gone middle) (devices : after.devices = middle.devices)
    (sessions : after.sessions = middle.sessions)
    (counters : ∀ tenant kind, after.counter tenant kind = middle.counter tenant kind -
      (gone.map fun device => (device.tenantID, DeviceStatus.removed)).count (tenant, kind)) :
    fleet.Cleaned cutoff gone after where
  devices := by
    rw [devices]
    exact without.devices
  sessions := by
    rw [sessions]
    exact without.sessions
  stored := without.stored
  distinct := without.distinct
  removed tenantID := by
    have same : middle.counter tenantID .removed = fleet.counter tenantID .removed := by
      unfold Fleet.counter
      rw [without.namespaces]
    rw [counters, same, List.count, List.countP_map]
    congr 2
    refine List.countP_congr fun device _ => ?_
    simp
  others tenantID status other := by
    have same : middle.counter tenantID status = fleet.counter tenantID status := by
      unfold Fleet.counter
      rw [without.namespaces]
    rw [counters, same, List.count_eq_zero_of_not_mem]
    · omega
    · rintro member
      obtain ⟨device, _, equal⟩ := List.mem_map.mp member
      cases equal
      exact other rfl

/-- What a cleanup without faults does. -/
theorem deviceCleanupBody_cleans {inputs : Nat → Surroundings}
    (calm : ∀ index, (inputs index).fault = none) (fleet : Fleet) :
    ∃ gone, (run callMeaning inputs deviceCleanupBody fleet).result = .ok () ∧
      fleet.Cleaned ((inputs 0).now - removedRetention) gone
        (run callMeaning inputs deviceCleanupBody fleet).state ∧
      gone.length = swept (pagesOf (fleet.overdue ((inputs 0).now - removedRetention))) 0
        (fleet.overdue ((inputs 0).now - removedRetention)) ∧
      gone.length + (run callMeaning inputs deviceCleanupBody fleet).state.overdue
        ((inputs 0).now - removedRetention) =
          fleet.overdue ((inputs 0).now - removedRetention) := by
  have body : ∃ resume, deviceCleanupBody = Program.call .clockNow resume ∧ ∀ now,
      (resume now).Meets undisturbed fleet fun result after => ∃ gone, result = .ok () ∧
        fleet.Cleaned (now - removedRetention) gone after ∧
        gone.length = swept (pagesOf (fleet.overdue (now - removedRetention))) 0
          (fleet.overdue (now - removedRetention)) ∧
        gone.length + after.overdue (now - removedRetention) =
          fleet.overdue (now - removedRetention) := by
    refine ⟨_, rfl, fun now => ?_⟩
    refine ⟨trivial, fun reply next yields => ?_⟩
    obtain ⟨around, answer⟩ := undisturbed_yields yields
    cases answer
    dsimp only
    rw [Fleet.removedBefore_length]
    refine (cleanupPages_sweeps _ _ 0 [] fleet).bind ?_
    rintro result middle ⟨gone, without, rfl, count⟩
    dsimp only
    refine (decrementCounters_moves _ middle ?_).mono ?_
    · intro bucket member
      obtain ⟨device, gone, rfl⟩ := List.mem_map.mp member
      rw [without.namespaces]
      exact fleet.housed device (without.stored device gone).1
    · rintro result after ⟨finished, devices, sessions, counters⟩
      have left : after.overdue (now - removedRetention) =
          middle.overdue (now - removedRetention) := by
        unfold Fleet.overdue
        rw [devices]
      exact ⟨gone, finished, without.cleaned devices sessions counters, count,
        left ▸ without.overdue⟩
  obtain ⟨resume, equal, meets⟩ := body
  have clock : callMeaning .clockNow (inputs 0) fleet = ((inputs 0).now, fleet) := by
    unfold callMeaning
    rw [calm 0]
    rfl
  have reached := (meets (inputs 0).now).run_within fun index => calm (index + 1)
  rw [equal, run, clock]
  exact reached

end Runs

/-! ## The whole cleanup -/

/-- The transaction of a cleanup without faults. -/
theorem transact_deviceCleanup (server : Server) {inputs : Nat → Surroundings}
    (calm : ∀ index, (inputs index).fault = none) (fleet : Fleet) :
    transact server .deviceCleanup inputs fleet = (.ok (),
      (run callMeaning (fun index => inputs (index + 1)) deviceCleanupBody fleet).state) := by
  obtain ⟨_, finished, _⟩ := deviceCleanupBody_cleans (fun index => calm (index + 1)) fleet
  unfold transact
  rw [calm 0]
  simp only [Transaction.body]
  rw [finished]

/-- Everything that was overdue is gone exactly if nothing overdue is left. -/
theorem Fleet.Cleaned.all_iff {fleet after : Fleet} {cutoff : Nat} {gone : List Device}
    (cleaned : fleet.Cleaned cutoff gone after) :
    (∀ device ∈ fleet.devices.rows, device.RemovedBefore cutoff → device ∈ gone) ↔
      after.overdue cutoff = 0 := by
  unfold Fleet.overdue
  rw [List.countP_eq_zero, cleaned.devices]
  constructor
  · intro all device left removed
    obtain ⟨stored, kept⟩ := List.mem_filter.mp left
    have member := List.mem_map_of_mem (f := Device.uid) (all device stored (of_decide_eq_true removed))
    rw [List.contains_iff_mem.mpr member] at kept
    cases kept
  · intro none device stored removed
    by_contra kept
    refine none device (List.mem_filter.mpr ⟨stored, ?_⟩) (decide_eq_true removed)
    rw [Bool.not_eq_true', ← Bool.not_eq_true, List.contains_iff_mem]
    intro member
    obtain ⟨other, deleted, same⟩ := List.mem_map.mp member
    have equal : other = device := List.inj_on_of_nodup_map fleet.devices.distinct
      (cleaned.stored other deleted).1 stored same
    exact kept (equal ▸ deleted)

/-- What is overdue after a cleanup without faults, counted. -/
theorem overdue_cleaned (server : Server) {inputs : Nat → Surroundings}
    (calm : ∀ index, (inputs index).fault = none) (fleet : Fleet) :
    ∃ gone, fleet.Cleaned ((inputs 1).now - removedRetention) gone
        (transact server .deviceCleanup inputs fleet).2 ∧
      ((transact server .deviceCleanup inputs fleet).2.overdue ((inputs 1).now - removedRetention) = 0 ↔
        fleet.overdue ((inputs 1).now - removedRetention) ≤ Fleet.pageSize) := by
  obtain ⟨gone, _, cleaned, count, left⟩ :=
    deviceCleanupBody_cleans (fun index => calm (index + 1)) fleet
  rw [Nat.zero_add] at cleaned count left
  rw [transact_deviceCleanup server calm fleet]
  refine ⟨gone, cleaned, fun none => ?_, fun few => ?_⟩ <;> dsimp only at *
  · by_contra many
    have lost := swept_lt (pagesOf (fleet.overdue ((inputs 1).now - removedRetention)))
      (Nat.lt_of_not_le many)
    omega
  · rw [swept_all few] at count
    omega

/-- Of more than a thousand overdue devices some are left. -/
theorem overdue_left (server : Server) (inputs : Nat → Surroundings)
    (calm : ∀ index, (inputs index).fault = none) {fleet : Fleet}
    (many : Fleet.pageSize < fleet.overdue ((inputs 1).now - removedRetention)) :
    ∃ device ∈ (transact server .deviceCleanup inputs fleet).2.devices.rows,
      device.RemovedBefore ((inputs 1).now - removedRetention) := by
  obtain ⟨_, _, exactly⟩ := overdue_cleaned server calm fleet
  have some : 0 < (transact server .deviceCleanup inputs fleet).2.overdue
      ((inputs 1).now - removedRetention) :=
    Nat.pos_of_ne_zero fun none => absurd (exactly.mp none) (Nat.not_le.mpr many)
  obtain ⟨device, stored, removed⟩ := List.countP_pos_iff.mp some
  exact ⟨device, stored, of_decide_eq_true removed⟩

/-- The removed-device cleanup. Whenever no call to the store fails it succeeds; the devices that
are gone after it were removed more than thirty days ago, their sessions are gone with them, and
each namespace's counter of removed devices is lower by the number of its devices that are gone.
All devices that were removed more than thirty days ago are gone if and only if they are at most a
thousand: `swept` counts what is deleted, and a second page always leaves some behind. -/
theorem cleanup_removes_overdue (server : Server) (inputs : Nat → Surroundings)
    (calm : ∀ index, (inputs index).fault = none) (fleet : Fleet) :
    (transact server .deviceCleanup inputs fleet).1 = .ok () ∧
    ∃ gone, fleet.Cleaned ((inputs 1).now - removedRetention) gone
        (transact server .deviceCleanup inputs fleet).2 ∧
      ((∀ device ∈ fleet.devices.rows,
          device.RemovedBefore ((inputs 1).now - removedRetention) → device ∈ gone) ↔
        fleet.overdue ((inputs 1).now - removedRetention) ≤ 1000) := by
  obtain ⟨gone, cleaned, exactly⟩ := overdue_cleaned server calm fleet
  refine ⟨?_, gone, cleaned, cleaned.all_iff.trans exactly⟩
  rw [transact_deviceCleanup server calm fleet]

/-- A server without cloud, billing and license, whose identifiers are plain hostnames. -/
def plainServer : Server where
  uid := fun hostname _ _ _ => hostname
  hashInstallKey := id
  hashPublicKey := id
  isIP := fun _ => false
  cloud := false
  billing := false
  license := false

/-- Surroundings without a fault at a given time. -/
def quietAt (now : Nat) : Surroundings where
  fault := none
  now := now
  choice := 0
  freshID := "fresh"
  webhook := .failed
  merge := true
  billing := some true
  license := none

/-- A namespace with one accepted device. -/
def webFleet : Fleet :=
  { emptyFleet with
    namespaces := ⟨[⟨"acme", "acme", -1, false, fun status => if status = .accepted then 1 else 0,
      []⟩], by decide⟩
    devices := webDevices
    named := by decide
    housed := by decide }

/-- A removed device. -/
def removedDevice (uid : String) (removedAt : Nat) : Device :=
  { webDevice with uid, status := .removed, removedAt := some removedAt }

/-- A namespace with some removed devices. -/
def removedFleet (rows : List Device) (distinct : (rows.map Device.uid).Nodup)
    (own : ∀ device ∈ rows, device.tenantID = "acme") : Fleet :=
  { webFleet with
    devices := ⟨rows, distinct⟩
    housed := by
      intro device member
      rw [own device member]
      decide }

/-- Two devices that were removed long ago, and one that was not. -/
def threeRemoved : Fleet :=
  removedFleet [removedDevice "old" 5, removedDevice "older" 3, removedDevice "new" 9000000]
    (by decide) (by decide)

theorem cleanup_removes_overdue_of_three :
    threeRemoved.overdue (9000000 - removedRetention) = 2 ∧
    ∀ device ∈ threeRemoved.devices.rows, device.RemovedBefore (9000000 - removedRetention) →
      device ∉ (transact plainServer .deviceCleanup (fun _ => quietAt 9000000)
        threeRemoved).2.devices.rows := by
  refine ⟨by decide +kernel, fun device stored removed left => ?_⟩
  obtain ⟨_, gone, cleaned, all⟩ := cleanup_removes_overdue plainServer (fun _ => quietAt 9000000)
    (fun _ => rfl) threeRemoved
  rw [cleaned.devices] at left
  have member : device.uid ∈ gone.map Device.uid :=
    List.mem_map_of_mem (all.mpr (by decide +kernel) device stored removed)
  have kept := (List.mem_filter.mp left).2
  rw [List.contains_iff_mem.mpr member] at kept
  cases kept

/-- Some devices that were removed at the same time. -/
def removedRows (count : Nat) : List Device :=
  (List.range count).map fun number =>
    removedDevice (String.ofList (List.replicate number 'x')) 5

theorem removedRows_distinct (count : Nat) : ((removedRows count).map Device.uid).Nodup := by
  unfold removedRows
  rw [List.map_map]
  refine List.nodup_range.map fun one other same => ?_
  have lengths := congrArg (fun uid : String => uid.toList.length) same
  simpa [removedDevice] using lengths

theorem removedRows_own (count : Nat) :
    ∀ device ∈ (removedRows count), device.tenantID = "acme" := by
  intro device member
  obtain ⟨number, _, rfl⟩ := List.mem_map.mp member
  rfl

/-- A namespace with many devices that were removed at the same time. -/
def crowd (count : Nat) : Fleet :=
  removedFleet (removedRows count) (removedRows_distinct count) (removedRows_own count)

theorem crowd_overdue (count : Nat) {cutoff : Nat} (late : 5 < cutoff) :
    (crowd count).overdue cutoff = count := by
  have all : ∀ device ∈ removedRows count, decide (device.RemovedBefore cutoff) = true := by
    intro device member
    obtain ⟨number, _, rfl⟩ := List.mem_map.mp member
    exact decide_eq_true (decide_eq_true late)
  change (removedRows count).countP _ = count
  rw [List.countP_eq_length.mpr all]
  simp [removedRows]

theorem cleanup_leaves_overdue :
    ∃ device ∈ (transact plainServer .deviceCleanup (fun _ => quietAt 9000000)
        (crowd 1001)).2.devices.rows,
      device.RemovedBefore (9000000 - removedRetention) :=
  overdue_left plainServer (fun _ => quietAt 9000000) (fun _ => rfl)
    (Nat.lt_of_lt_of_eq (by decide) (crowd_overdue 1001 (by decide)).symm)

end ShellHub.Devices
