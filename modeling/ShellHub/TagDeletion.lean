import ShellHub.AccessPolicies
import ShellHub.TagServices

/-!
# Deleting a tag

The filter of an access policy or of a public key selects devices by their tags. Deleting a tag takes it
off the devices and out of the filters. A filter without tags and without a hostname matches every
device, so that a filter loses its last tag and then matches all devices.

This module proves which connections and keys a deletion lets through that were refused before. A
connection needs a policy that allows it but for its filter, the deleted tag alone, and no policy of that
kind that denies it; a key needs a filter with the deleted tag alone.
-/

namespace ShellHub.AccessPolicies

open Programs Tables Tags
open Namespaces (Namespace Member StoreError)
open Devices (Device Tag webDevice)

/-! ## The filters of public keys -/

/-- Why the filter of a key could not be evaluated. -/
inductive KeyFilterError where
  | service (error : TagError)
  | filter (error : MatchError)
  deriving DecidableEq, Repr

/-- `GetPublicKey`. -/
def getPublicKey (fingerprint tenantID : String) : Service (Except TagError PublicKey) :=
  if tenantID = "" then return .error .forbidden
  else do
    match ← call (.namespaceResolve tenantID) with
    | .error _ => return .error (.namespaceNotFound tenantID)
    | .ok _ =>
      match ← call (.publicKeyResolve tenantID fingerprint) with
      | .error .noDocuments => return .error (.publicKeyNotFound fingerprint)
      | .error error => return .error (.store error)
      | .ok key => return .ok key

/-- `Matches`, with an error as the services return it. -/
def keyFilterMatches (tools : Matchers) (filter : PublicKeyFilter) (dev : TaggedDevice) :
    Except KeyFilterError Bool :=
  (filterMatches tools filter dev).mapError .filter

/-- `EvaluateKeyFilter`. -/
def evaluateKeyFilter (tools : Matchers) (key : PublicKey) (dev : TaggedDevice) :
    Service (Except KeyFilterError Bool) :=
  if 0 < key.filter.tagIDs.length then
    if key.tenantID = "" then return .error (.service .forbidden)
    else do
      match ← call (.deviceResolve key.tenantID dev.device.uid) with
      | .error _ => return .error (.service (.deviceNotFound dev.device.uid))
      | .ok d => return keyFilterMatches tools key.filter { dev with tagIDs := d.tagIDs }
  else return keyFilterMatches tools key.filter dev

/-- The filter of a key of the namespace is evaluated for a device, as when a key is presented. -/
def presentKey (tools : Matchers) (fingerprint tenantID : String) (dev : TaggedDevice) :
    Service (Except KeyFilterError Bool) := do
  match ← getPublicKey fingerprint tenantID with
  | .error error => return .error (.service error)
  | .ok key => evaluateKeyFilter tools key dev

/-! ## Filters and tags -/

section Filters

variable {tools : Matchers} {id : String} {filter : PublicKeyFilter} {device : Device} {tagIDs : List String}

/-- A filter without a tag. -/
def withoutTag (id : String) (filter : PublicKeyFilter) : PublicKeyFilter :=
  { filter with tagIDs := filter.tagIDs.filter fun other => other ≠ id }

/-- The tag is all that a filter has. -/
def Emptied (id : String) (filter : PublicKeyFilter) : Prop :=
  filter.hostname = "" ∧ filter.tagIDs ≠ [] ∧ ∀ other ∈ filter.tagIDs, other = id

instance (id : String) (filter : PublicKeyFilter) : Decidable (Emptied id filter) :=
  inferInstanceAs (Decidable (_ ∧ _))

theorem withoutTag_of_emptied (emptied : Emptied id filter) : withoutTag id filter = ⟨"", []⟩ := by
  obtain ⟨hostname, tagIDs⟩ := filter
  obtain ⟨rfl, -, only⟩ := emptied
  simpa [withoutTag, List.filter_eq_nil_iff] using only

/-- A filter that loses a tag and is not emptied matches no further device, also if devices lose the
tag. -/
theorem filterMatches_withoutTag (spared : ¬ Emptied id filter)
    (matched : filterMatches tools (withoutTag id filter)
      ⟨device, tagIDs.filter fun other => other ≠ id⟩ = .ok true) :
    filterMatches tools filter ⟨device, tagIDs⟩ = .ok true := by
  unfold filterMatches withoutTag at *
  split at matched
  · rename_i named
    rw [if_pos named]
    exact matched
  · rename_i unnamed
    rw [if_neg unnamed]
    split
    · rename_i tagged
      rw [List.length_pos_iff] at tagged
      have remaining : filter.tagIDs.filter (fun other => other ≠ id) ≠ [] := by
        intro none
        rw [List.filter_eq_nil_iff] at none
        exact spared ⟨by simpa using unnamed, tagged, fun other member => by simpa using none other member⟩
      rw [if_pos (List.length_pos_iff.mpr remaining)] at matched
      simp only [Except.ok.injEq, List.any_eq_true, List.contains_iff_mem] at matched ⊢
      obtain ⟨tagID, listed, carried⟩ := matched
      exact ⟨tagID, List.mem_of_mem_filter listed, List.mem_of_mem_filter carried⟩
    · rfl

/-- Whether a filter can be evaluated does not depend on tags. -/
theorem filterMatches_error {error : MatchError} {others : List String}
    (failed : filterMatches tools (withoutTag id filter) ⟨device, others⟩ = .error error) :
    filterMatches tools filter ⟨device, tagIDs⟩ = .error error := by
  unfold filterMatches withoutTag at *
  split at failed
  · rename_i named
    rw [if_pos named]
    exact failed
  · split at failed <;> cases failed

end Filters

/-! ## The run of a deletion -/

section Deletion

variable {id : String} {store : TagStore}

/-- The tags that are read through a join table, after the rows of a tag were deleted. The tag itself
may be deleted with them. -/
theorem joined_without {before after : TagStore} {ρ : Type} (rows : List ρ) (selected : ρ → Bool)
    (tagID : ρ → String)
    (others : ∀ other, other ≠ id → after.tags.find other = before.tags.find other) :
    (after.joined (rows.filter fun row => tagID row ≠ id) selected tagID).map Tag.id =
      ((before.joined rows selected tagID).map Tag.id).filter fun other => other ≠ id := by
  unfold TagStore.joined
  induction rows with
  | nil => rfl
  | cons row rest ih =>
    cases chosen : selected row with
    | false => by_cases own : tagID row = id <;> simpa [chosen, own] using ih
    | true =>
      by_cases own : tagID row = id
      · cases found : before.tags.find id with
        | none => simpa [chosen, own, found] using ih
        | some tag =>
          have named : tag.id = id := (Table.find_eq_some.mp found).2
          simpa [chosen, own, found, named] using ih
      · cases found : before.tags.find (tagID row) with
        | none => simpa [chosen, own, found, others _ own] using ih
        | some tag =>
          have named : tag.id = tagID row := (Table.find_eq_some.mp found).2
          simpa [chosen, own, found, others _ own, named] using ih

/-- A device loses the tag with its rows. -/
theorem deviceToModel_dropTag (device : Device) : (store.dropTag id).deviceToModel device =
    ⟨device, (store.deviceToModel device).tagIDs.filter fun other => other ≠ id⟩ :=
  congrArg (TaggedDevice.mk device) (joined_without store.deviceTags _ DeviceTag.tagID
    fun _ => TagStore.find_dropTag)

/-- The filter of a key loses the tag. -/
theorem filter_publicKeyToModel_dropTag (row : PublicKeyRow) :
    ((store.dropTag id).publicKeyToModel row).filter = withoutTag id (store.publicKeyToModel row).filter :=
  congrArg (PublicKeyFilter.mk row.filterHostname) (joined_without store.publicKeyTags _
    PublicKeyTag.tagID fun _ => TagStore.find_dropTag)

/-- A policy whose filter loses a tag. -/
def policyWithout (id : String) (policy : AccessPolicy) : AccessPolicy :=
  { policy with filter := withoutTag id policy.filter }

/-- The policies of a namespace lose the tag. -/
theorem policiesOf_dropTag (tenantID : String) :
    (store.dropTag id).policiesOf tenantID = (store.policiesOf tenantID).map (policyWithout id) := by
  simp only [TagStore.policiesOf, List.map_map]
  refine List.map_congr_left fun row _ => ?_
  have filter : ((store.dropTag id).accessPolicyToModel row).filter =
      withoutTag id (store.accessPolicyToModel row).filter :=
    congrArg (PublicKeyFilter.mk row.filterHostname) (joined_without store.accessPolicyTags _
      AccessPolicyTag.tagID fun _ => TagStore.find_dropTag)
  exact congrArg (fun filter => { store.accessPolicyToModel row with filter := filter }) filter

theorem filter_untagged {ρ : Type} (rows : List ρ) (tagID : ρ → String) {drop : ρ → Bool}
    (dropped : ∀ row, drop row = true → tagID row = id) :
    (rows.filter fun row => !drop row).filter (fun row => tagID row ≠ id) =
      rows.filter fun row => tagID row ≠ id := by
  rw [List.filter_filter]
  refine List.filter_congr fun row _ => ?_
  cases dropping : drop row with
  | false => simp
  | true => simp [dropped row dropping]

theorem dropTag_untagDevices {drop : DeviceTag → Bool} (dropped : ∀ row, drop row = true → row.tagID = id) :
    (store.untagDevices drop).dropTag id = store.dropTag id := by
  simp only [TagStore.dropTag, TagStore.untagDevices,
    filter_untagged store.deviceTags DeviceTag.tagID dropped]

theorem dropTag_untagKeys {drop : PublicKeyTag → Bool} (dropped : ∀ row, drop row = true → row.tagID = id) :
    (store.untagKeys drop).dropTag id = store.dropTag id := by
  simp only [TagStore.dropTag, TagStore.untagKeys,
    filter_untagged store.publicKeyTags PublicKeyTag.tagID dropped]

/-- The calls of a store, whatever fails. -/
def anyCall : Contract Call Call.Reply TagStore := callMeaning.within fun _ => True

/-- Taking the tag off targets leaves nothing that its deletion would not take. -/
theorem pullFromAll_meets (id : String) (targets : List TagTarget) (store : TagStore) :
    (pullFromAll id targets).Meets anyCall store fun _ after =>
      after.dropTag id = store.dropTag id := by
  induction targets generalizing store with
  | nil => rfl
  | cons target rest ih =>
    refine .perform trivial ?_
    rintro reply next ⟨around, -, answered⟩
    have same : next.dropTag id = store.dropTag id := by
      have next : next = (callMeaning (.tagPullFromTarget id target []) around store).2 := by rw [answered]
      subst next
      unfold callMeaning
      split
      · rfl
      · cases target with
        | device =>
          simp only [TagStore.perform]
          split
          · rfl
          · exact dropTag_untagDevices (by simp)
        | publicKey =>
          simp only [TagStore.perform]
          split
          · rfl
          · exact dropTag_untagKeys (by simp)
    cases reply with
    | error error => exact same
    | ok done => exact (ih next).mono fun _ after kept => kept.trans same

/-- A deletion that succeeds drops the tag of the name. -/
theorem deleteTagCallback_meets (tenantID name : String) (store : TagStore) :
    (deleteTagCallback tenantID name).Meets anyCall store fun result after =>
      result = .ok () → ∃ tag, store.tagNamed tenantID name = some tag ∧ after = store.dropTag tag.id := by
  unfold deleteTagCallback namedTag
  split
  · rintro ⟨⟩
  · refine .perform trivial ?_
    rintro (error | owner) next ⟨around, -, answered⟩
    · rintro ⟨⟩
    obtain rfl : (callMeaning (.namespaceResolve tenantID) around store).2 = next := by rw [answered]
    rw [callMeaning_reads (.namespaceResolve tenantID) trivial]
    refine .perform trivial ?_
    rintro (error | tag) resolved ⟨around, -, answered⟩
    · rintro ⟨⟩
    have found : store.tagNamed tenantID name = some tag ∧ resolved = store := by
      unfold callMeaning at answered
      split at answered
      · cases answered
      · simp only [TagStore.perform] at answered
        split at answered <;> cases answered
        exact ⟨‹_›, rfl⟩
    obtain ⟨named, rfl⟩ := found
    refine (pullFromAll_meets tag.id tagTargets resolved).bind ?_
    rintro (error | done) pulled same
    · rintro ⟨⟩
    refine .perform trivial ?_
    rintro (error | done) dropped ⟨around, -, answered⟩
    · rintro ⟨⟩
    refine fun _ => ⟨tag, named, ?_⟩
    rw [← same]
    unfold callMeaning at answered
    split at answered
    · cases answered
    · simp only [TagStore.perform] at answered
      split at answered <;> cases answered
      rfl

/-- A deletion drops the tag of the name, or it fails and changes nothing. -/
theorem deleteTag_effect {tenantID name : String} {inputs : Inputs}
    (deleted : ((TagRequest.deleteTag tenantID name).perform inputs store).1 = .ok ()) :
    ∃ tag, store.tagNamed tenantID name = some tag ∧
      ((TagRequest.deleteTag tenantID name).perform inputs store).2 = store.dropTag tag.id := by
  simp only [TagRequest.perform, withTransaction] at deleted ⊢
  split at deleted
  · cases deleted
  · split at deleted
    · cases deleted
    · cases deleted
    · rename_i succeeded _
      exact (deleteTagCallback_meets tenantID name store).run_within (fun _ => trivial) succeeded

end Deletion

/-! ## Access before and after -/

/-- An answer of `Authorize` that does not allow the connection. -/
def Refused (answer : Except TagError Decision) : Prop :=
  ∀ decision, answer = .ok decision → decision.allowed = false

instance : (answer : Except TagError Decision) → Decidable (Refused answer)
  | .error _ => isTrue fun _ failed => by cases failed
  | .ok decision => decidable_of_iff (decision.allowed = false)
    ⟨fun refused _ same => by cases same; exact refused, fun refused => refused decision rfl⟩

/-- A policy denies the connection of a member to a device. -/
def DenyInvolved (tools : Matchers) (store : TagStore)
    (tenantID userID deviceUID login sourceIP : String) : Prop :=
  ∃ device owner member, store.devices.find deviceUID = some device ∧
    store.namespaces.find tenantID = some owner ∧ owner.findMember userID = some member ∧
    ∃ policy ∈ store.policiesOf tenantID,
      Denies tools (connectionOf store device userID member login sourceIP) policy

/-- A policy with a filter that matches every device. -/
def bare (policy : AccessPolicy) : AccessPolicy := { policy with filter := ⟨"", []⟩ }

/-- A policy whose filter is emptied allows the connection but for the filter, and none denies it so. -/
structure Opened (tools : Matchers) (id : String) (connection : Connection)
    (policies : List AccessPolicy) : Prop where
  allowing : ∃ policy ∈ policies, Emptied id policy.filter ∧ Allows tools connection (bare policy)
  undenied : ∀ policy ∈ policies, Emptied id policy.filter → ¬ Denies tools connection (bare policy)

/-- A member's connection to a device of the namespace that no policy denies or allows, and that the
deletion of a tag opens. -/
def Widens (tools : Matchers) (id : String) (store : TagStore)
    (tenantID userID deviceUID login sourceIP : String) : Prop :=
  tenantID ≠ "" ∧ ∃ device owner member, store.devices.find deviceUID = some device ∧
    device.tenantID = tenantID ∧ store.namespaces.find tenantID = some owner ∧
    owner.findMember userID = some member ∧
    (∀ policy ∈ store.policiesOf tenantID,
      ¬ Denies tools (connectionOf store device userID member login sourceIP) policy ∧
      ¬ Allows tools (connectionOf store device userID member login sourceIP) policy) ∧
    Opened tools id (connectionOf store device userID member login sourceIP) (store.policiesOf tenantID)

/-- A key of the namespace of a device whose filter the deletion of a tag empties, and that does not match
the device. -/
def KeyWidens (tools : Matchers) (id : String) (store : TagStore) (fingerprint : String)
    (device : Device) : Prop :=
  device.tenantID ≠ "" ∧ (store.namespaces.find device.tenantID).isSome ∧
    ∃ row, store.publicKeys.find (fingerprint, device.tenantID) = some row ∧
      Emptied id (store.publicKeyToModel row).filter ∧
      filterMatches tools (store.publicKeyToModel row).filter (store.deviceToModel device) ≠ .ok true

section Policies

variable {tools : Matchers} {id : String} {connection : Connection} {policy : AccessPolicy}

/-- A connection to a device that loses a tag. -/
def Connection.without (id : String) (connection : Connection) : Connection :=
  { connection with
    dev := ⟨connection.dev.device, connection.dev.tagIDs.filter fun other => other ≠ id⟩ }

/-- A policy whose filter is not emptied selects no further connection. -/
theorem selects_before (spared : ¬ Emptied id policy.filter)
    (selects : Selects tools (connection.without id) (policyWithout id policy)) :
    Selects tools connection policy :=
  ⟨selects.subject, filterMatches_withoutTag spared selects.filter, selects.login, selects.source⟩

theorem denies_before (spared : ¬ Emptied id policy.filter)
    (denies : Denies tools (connection.without id) (policyWithout id policy)) :
    Denies tools connection policy := by
  refine ⟨denies.1, denies.2.imp (fun fails => ⟨fails.subject, ?_⟩) (selects_before spared)⟩
  refine fails.broken.imp (fun ⟨error, failed⟩ => ⟨error, filterMatches_error failed⟩) ?_
  exact fun ⟨matched, rest⟩ => ⟨filterMatches_withoutTag spared matched, rest⟩

theorem policyWithout_of_emptied (emptied : Emptied id policy.filter) :
    policyWithout id policy = bare policy := by
  rw [policyWithout, withoutTag_of_emptied emptied, bare]

/-- A bare policy does not read the tags of the device. -/
theorem selects_bare : Selects tools (connection.without id) (bare policy) ↔
    Selects tools connection (bare policy) :=
  ⟨fun selects => ⟨selects.subject, rfl, selects.login, selects.source⟩,
    fun selects => ⟨selects.subject, rfl, selects.login, selects.source⟩⟩

theorem allows_bare : Allows tools (connection.without id) (bare policy) ↔
    Allows tools connection (bare policy) :=
  and_congr_right fun _ => selects_bare

theorem denies_bare : Denies tools (connection.without id) (bare policy) ↔
    Denies tools connection (bare policy) := by
  refine and_congr_right fun _ => or_congr ⟨fun ⟨subject, broken⟩ => ⟨subject, ?_⟩,
    fun ⟨subject, broken⟩ => ⟨subject, ?_⟩⟩ selects_bare
  · exact broken.imp (fun ⟨_, failed⟩ => by cases failed) fun ⟨_, rest⟩ => ⟨rfl, rest⟩
  · exact broken.imp (fun ⟨_, failed⟩ => by cases failed) fun ⟨_, rest⟩ => ⟨rfl, rest⟩

/-- A connection that no policy denies or allows is allowed without the tag exactly if it is opened. -/
theorem allowed_without_iff {policies : List AccessPolicy}
    (idle : ∀ policy ∈ policies, ¬ Denies tools connection policy ∧ ¬ Allows tools connection policy) :
    (decideAccess tools (connection.without id) (policies.map (policyWithout id))).allowed = true ↔
      Opened tools id connection policies := by
  rw [decideAccess_allowed]
  rw [List.forall_mem_map]
  constructor
  · rintro ⟨free, _, mapped, allows⟩
    obtain ⟨policy, listed, rfl⟩ := List.mem_map.mp mapped
    refine ⟨⟨policy, listed, ?_⟩, fun other member emptied denies => free other member ?_⟩
    · have emptied : Emptied id policy.filter := by
        by_contra spared
        exact (idle policy listed).2 ⟨allows.1, selects_before spared allows.2⟩
      rw [policyWithout_of_emptied emptied, allows_bare] at allows
      exact ⟨emptied, allows⟩
    · rw [policyWithout_of_emptied emptied]
      exact denies_bare.mpr denies
  · rintro ⟨⟨policy, listed, emptied, allows⟩, undenied⟩
    refine ⟨fun other member denies => ?_, _, List.mem_map_of_mem listed, ?_⟩
    · by_cases otherEmptied : Emptied id other.filter
      · rw [policyWithout_of_emptied otherEmptied, denies_bare] at denies
        exact undenied other member otherEmptied denies
      · exact (idle other member).1 (denies_before otherEmptied denies)
    · rw [policyWithout_of_emptied emptied]
      exact allows_bare.mpr allows

end Policies

section Access

variable {tools : Matchers} {store before after : TagStore}
  {tenantID userID deviceUID login sourceIP : String}

/-- What was read if `Authorize` allows a connection. -/
theorem authorize_allowed {inputs : Nat → TagStore.Surroundings} {decision : Decision}
    (answered : (run callMeaning inputs (authorize tools tenantID userID deviceUID login sourceIP)
      store).result = .ok decision) (allowed : decision.allowed = true) :
    tenantID ≠ "" ∧ ∃ device owner member, store.devices.find deviceUID = some device ∧
      device.tenantID = tenantID ∧ store.namespaces.find tenantID = some owner ∧
      owner.findMember userID = some member ∧
      decision = decideAccess tools (connectionOf store device userID member login sourceIP)
        (store.policiesOf tenantID) := by
  unfold authorize at answered
  split at answered
  · cases answered
  rename_i bounded
  refine ⟨bounded, ?_⟩
  simp only [call, result_perform_bind] at answered
  rw [callMeaning_reads (.deviceResolve tenantID deviceUID) trivial] at answered
  split at answered
  · cases answered
  rename_i dev resolved
  obtain ⟨device, stored, within, rfl⟩ := deviceResolve_ok resolved
  simp only [result_perform_bind] at answered
  rw [callMeaning_reads (.namespaceResolve tenantID) trivial] at answered
  split at answered
  · cases answered
  rename_i owner housed
  split at answered
  · cases answered
    cases allowed
  rename_i member found
  simp only [result_perform_bind] at answered
  split at answered
  · cases answered
  rename_i policies listed
  obtain rfl := accessPolicyList_ok listed
  cases answered
  exact ⟨device, owner.1, member, stored, within, namespaceResolve_ok housed, found, rfl⟩

/-- The filter of a key of the namespace of a device matches the device. -/
def KeyMatches (tools : Matchers) (store : TagStore) (fingerprint : String) (device : Device) : Prop :=
  device.tenantID ≠ "" ∧ (store.namespaces.find device.tenantID).isSome ∧
    ∃ row, store.publicKeys.find (fingerprint, device.tenantID) = some row ∧
      filterMatches tools (store.publicKeyToModel row).filter (store.deviceToModel device) = .ok true

/-- A filter without tags does not read the tags of the device. -/
theorem filterMatches_untagged {filter : PublicKeyFilter} (untagged : ¬ 0 < filter.tagIDs.length)
    (device : Device) (tagIDs tagIDs' : List String) :
    filterMatches tools filter ⟨device, tagIDs⟩ = filterMatches tools filter ⟨device, tagIDs'⟩ := by
  simp only [filterMatches, if_neg untagged]

theorem keyFilterMatches_ok {filter : PublicKeyFilter} {dev : TaggedDevice} {found : Bool} :
    keyFilterMatches tools filter dev = .ok found ↔ filterMatches tools filter dev = .ok found := by
  unfold keyFilterMatches
  cases filterMatches tools filter dev <;> simp [Except.mapError]

variable {fingerprint : String} {device : Device} {carried : List String}
  {inputs : Nat → TagStore.Surroundings}

/-- A key that is accepted for a device matches it. -/
theorem presentKey_matched (stored : store.devices.find device.uid = some device)
    (answered : (run callMeaning inputs
      (presentKey tools fingerprint device.tenantID ⟨device, carried⟩) store).result = .ok true) :
    KeyMatches tools store fingerprint device := by
  unfold presentKey getPublicKey at answered
  split at answered
  · cases answered
  rename_i bounded
  refine ⟨bounded, ?_⟩
  simp only [call, Program.bind_bind, result_perform_bind] at answered
  rw [callMeaning_reads (.namespaceResolve device.tenantID) trivial] at answered
  split at answered
  · cases answered
  rename_i owner housed
  refine ⟨Option.isSome_of_eq_some (namespaceResolve_ok housed), ?_⟩
  simp only [Program.bind_bind, result_perform_bind] at answered
  rw [callMeaning_reads (.publicKeyResolve device.tenantID fingerprint) trivial] at answered
  split at answered
  · cases answered
  · cases answered
  rename_i key found
  obtain ⟨row, known, rfl⟩ := publicKeyResolve_ok found
  refine ⟨row, known, ?_⟩
  simp only [Program.pure_eq, Program.done_bind, evaluateKeyFilter] at answered
  split at answered
  · split at answered
    · cases answered
    simp only [call, result_perform_bind] at answered
    split at answered
    · cases answered
    rename_i dev resolved
    obtain ⟨resolvedDevice, present, -, rfl⟩ := deviceResolve_ok resolved
    rw [stored] at present
    cases present
    exact keyFilterMatches_ok.mp answered
  · rename_i untagged
    rw [TagStore.deviceToModel, filterMatches_untagged untagged device _ carried]
    exact keyFilterMatches_ok.mp answered

/-- A key that matches a device is accepted for it, if no call fails. -/
theorem presentKey_run (faultless : ∀ index, (inputs index).fault = none)
    (stored : store.devices.find device.uid = some device)
    (selected : KeyMatches tools store fingerprint device) :
    (run callMeaning inputs
      (presentKey tools fingerprint device.tenantID ⟨device, carried⟩) store).result = .ok true := by
  obtain ⟨bounded, housed, row, known, matched⟩ := selected
  obtain ⟨owner, housed⟩ := Option.isSome_iff_exists.mp housed
  have tenant : (store.publicKeyToModel row).tenantID = device.tenantID :=
    congrArg Prod.snd (Table.find_eq_some.mp known).2
  unfold presentKey getPublicKey
  rw [if_neg bounded]
  simp only [call, Program.bind_bind, result_perform_bind,
    callMeaning_namespaceResolve (faultless _) housed,
    callMeaning_publicKeyResolve (faultless _) known, Program.pure_eq, Program.done_bind,
    evaluateKeyFilter]
  split
  · rw [if_neg (by rw [tenant]; exact bounded)]
    simp only [result_perform_bind]
    rw [callMeaning_deviceResolve (faultless _) stored tenant.symm]
    exact keyFilterMatches_ok.mpr matched
  · rename_i untagged
    rw [TagStore.deviceToModel, filterMatches_untagged untagged device _ carried] at matched
    exact keyFilterMatches_ok.mpr matched

/-- A key that does not match a device matches it without the tag exactly if its filter is emptied. -/
theorem keyMatches_dropTag_iff {id : String} (unmatched : ¬ KeyMatches tools store fingerprint device) :
    KeyMatches tools (store.dropTag id) fingerprint device ↔ KeyWidens tools id store fingerprint device := by
  have matches_iff (row : PublicKeyRow)
      (differs : filterMatches tools (store.publicKeyToModel row).filter (store.deviceToModel device) ≠ .ok true) :
      filterMatches tools ((store.dropTag id).publicKeyToModel row).filter
        ((store.dropTag id).deviceToModel device) = .ok true ↔
        Emptied id (store.publicKeyToModel row).filter := by
    rw [filter_publicKeyToModel_dropTag, deviceToModel_dropTag]
    refine ⟨fun matched => by_contra fun spared => differs (filterMatches_withoutTag spared matched), ?_⟩
    intro emptied
    rw [withoutTag_of_emptied emptied]
    rfl
  constructor
  · rintro ⟨bounded, housed, row, known, matched⟩
    have differs : filterMatches tools (store.publicKeyToModel row).filter (store.deviceToModel device) ≠ .ok true :=
      fun before => unmatched ⟨bounded, housed, row, known, before⟩
    exact ⟨bounded, housed, row, known, (matches_iff row differs).mp matched, differs⟩
  · rintro ⟨bounded, housed, row, known, emptied, differs⟩
    exact ⟨bounded, housed, row, known, (matches_iff row differs).mpr emptied⟩

/-- A connection is described without the tag. -/
theorem connectionOf_dropTag {id : String} {member : Namespaces.Member} :
    connectionOf (store.dropTag id) device userID member login sourceIP =
      (connectionOf store device userID member login sourceIP).without id := by
  rw [connectionOf, deviceToModel_dropTag]
  rfl

/-- A connection that was refused without a policy that denies it is refused without the tag, exactly if
the deletion does not open it. -/
theorem refused_dropTag_iff {id : String} :
    (∀ calls calls' : Nat → TagStore.Surroundings, (∀ index, (calls index).fault = none) →
      Refused (run callMeaning calls (authorize tools tenantID userID deviceUID login sourceIP) store).result →
      ¬ DenyInvolved tools store tenantID userID deviceUID login sourceIP →
      Refused (run callMeaning calls' (authorize tools tenantID userID deviceUID login sourceIP)
        (store.dropTag id)).result) ↔
    ¬ Widens tools id store tenantID userID deviceUID login sourceIP := by
  constructor
  · rintro still ⟨bounded, device, owner, member, stored, within, housed, found, idle, opened⟩
    have faultless : ∀ index, (quiet index).fault = none := fun _ => rfl
    have before := authorize_run tools bounded stored within housed faultless userID login sourceIP
    have kept : (store.dropTag id).devices.find deviceUID = some device := stored
    have after := authorize_run tools bounded kept within housed faultless userID login sourceIP
    rw [found] at before after
    dsimp only at after
    rw [connectionOf_dropTag, policiesOf_dropTag] at after
    have refused := still quiet quiet faultless ?_ ?_ _ after
    · exact absurd ((allowed_without_iff idle).mpr opened) (by simp [refused])
    · intro decision answered
      cases before.symm.trans answered
      by_contra granted
      obtain ⟨policy, listed, allows⟩ :=
        ((decideAccess_allowed _ _ _).mp (Bool.eq_true_of_not_eq_false granted)).2
      exact (idle policy listed).2 allows
    · rintro ⟨_, _, _, knownDevice, knownOwner, knownMember, policy, listed, denies⟩
      cases stored.symm.trans knownDevice
      cases housed.symm.trans knownOwner
      cases found.symm.trans knownMember
      exact (idle policy listed).1 denies
  · intro closed calls calls' faultless refused uninvolved decision answered
    by_contra granted
    have allowed := Bool.eq_true_of_not_eq_false granted
    obtain ⟨bounded, device, owner, member, stored, within, housed, found, rfl⟩ :=
      authorize_allowed answered allowed
    change store.devices.find deviceUID = some device at stored
    have before := authorize_run tools bounded stored within housed faultless userID login sourceIP
    rw [found] at before
    have free : ∀ policy ∈ store.policiesOf tenantID,
        ¬ Denies tools (connectionOf store device userID member login sourceIP) policy :=
      fun policy listed denies =>
        uninvolved ⟨device, owner, member, stored, housed, found, policy, listed, denies⟩
    have idle : ∀ policy ∈ store.policiesOf tenantID,
        ¬ Denies tools (connectionOf store device userID member login sourceIP) policy ∧
        ¬ Allows tools (connectionOf store device userID member login sourceIP) policy := by
      refine fun policy listed => ⟨free policy listed, fun allows => ?_⟩
      have earlier := (decideAccess_allowed _ _ _).mpr ⟨free, policy, listed, allows⟩
      exact absurd (refused _ before) (by simp [earlier])
    rw [connectionOf_dropTag, policiesOf_dropTag] at allowed
    exact closed ⟨bounded, device, owner, member, stored, within, housed, found, idle,
      (allowed_without_iff idle).mp allowed⟩

end Access

/-- Deleting a tag widens access for the connections and keys that it opens, and for no others. After a
deletion that succeeded, a connection that was refused without a policy that denies it is still refused
exactly if it is not `Widens`; and a key that did not match a device does not match it exactly if it is
not `KeyWidens`. A filter that is not emptied matches no further device without the tag, and an emptied
one matches every device. -/
theorem deletion_never_widens (tools : Matchers) (store : TagStore) (tenantID name : String)
    (inputs : Inputs)
    (deleted : ((TagRequest.deleteTag tenantID name).perform inputs store).1 = .ok ()) :
    let after := ((TagRequest.deleteTag tenantID name).perform inputs store).2
    ∃ tag, store.tagNamed tenantID name = some tag ∧
    (∀ tenant userID deviceUID login sourceIP : String,
      (∀ calls calls' : Nat → TagStore.Surroundings, (∀ index, (calls index).fault = none) →
        Refused (run callMeaning calls (authorize tools tenant userID deviceUID login sourceIP) store).result →
        ¬ DenyInvolved tools store tenant userID deviceUID login sourceIP →
        Refused (run callMeaning calls' (authorize tools tenant userID deviceUID login sourceIP) after).result) ↔
      ¬ Widens tools tag.id store tenant userID deviceUID login sourceIP) ∧
    ∀ (fingerprint : String) (device : Device), store.devices.find device.uid = some device →
      ((∀ (carried carried' : List String) (calls calls' : Nat → TagStore.Surroundings),
        (∀ index, (calls index).fault = none) →
        (run callMeaning calls
          (presentKey tools fingerprint device.tenantID ⟨device, carried⟩) store).result ≠ .ok true →
        (run callMeaning calls'
          (presentKey tools fingerprint device.tenantID ⟨device, carried'⟩) after).result ≠ .ok true) ↔
      ¬ KeyWidens tools tag.id store fingerprint device) := by
  obtain ⟨tag, named, dropped⟩ := deleteTag_effect deleted
  rw [dropped]
  refine ⟨tag, named, fun tenant userID deviceUID login sourceIP => refused_dropTag_iff,
    fun fingerprint device stored => ⟨fun still widens => ?_, ?_⟩⟩
  · have unmatched : ¬ KeyMatches tools store fingerprint device := by
      rintro ⟨-, -, row, known, matched⟩
      obtain ⟨-, -, other, found, -, differs⟩ := widens
      cases found.symm.trans known
      exact differs matched
    refine still [] [] quiet quiet (fun _ => rfl) (fun matched => unmatched (presentKey_matched stored matched)) ?_
    exact presentKey_run (fun _ => rfl) stored ((keyMatches_dropTag_iff unmatched).mpr widens)
  · intro closed carried carried' calls calls' faultless refused matched
    have unmatched : ¬ KeyMatches tools store fingerprint device := fun selected =>
      refused (presentKey_run faultless stored selected)
    exact closed ((keyMatches_dropTag_iff unmatched).mp (presentKey_matched stored matched))

/-! ## A sample -/

/-- Devices are selected by the tags `prod` and `staging`. The device `web` has no tag, and `db` is a
device for staging. One policy and the key are for production, the other policy is for both. -/
def taggedStore : TagStore where
  namespaces := acmeStore.namespaces
  devices := ⟨[webDevice, { webDevice with uid := "db", name := "db" }], by decide⟩
  tags := ⟨[⟨"t1", "acme", "prod"⟩, ⟨"t2", "acme", "staging"⟩], by decide⟩
  deviceTags := [⟨"db", "t2"⟩]
  publicKeys := ⟨[⟨"fp", "acme", ""⟩], by decide⟩
  publicKeyTags := [⟨"fp", "acme", "t1"⟩]
  accessPolicies := ⟨[acmePolicy "production" .allow ⟨.allMembers, ""⟩ none,
    acmePolicy "both" .allow ⟨.allMembers, ""⟩ none], by decide⟩
  accessPolicyTags := [⟨"production", "t1"⟩, ⟨"both", "t1"⟩, ⟨"both", "t2"⟩]
  deviceTagged := by decide
  keyTagged := by decide
  policyTagged := by decide

/-- The store after a tag was deleted without faults. -/
def afterDeletion (name : String) : TagStore :=
  ((TagRequest.deleteTag "acme" name).perform ⟨quiet, none, none⟩ taggedStore).2

/-- Whether the member is refused on the two devices. -/
def refusedOn (store : TagStore) : List Bool :=
  ["web", "db"].map fun uid =>
    Refused (run callMeaning quiet (authorize plainMatchers "acme" "eve" uid "root" "10.1.2.3")
      store).result

/-- Whether the key matches the device without tags. -/
def keyAccepted (store : TagStore) : Bool :=
  (run callMeaning quiet (presentKey plainMatchers "fp" "acme" ⟨webDevice, []⟩) store).result =
    .ok true

/-- The deletion of `staging` takes the access to `db` away, and the other device stays refused. -/
theorem deletion_never_widens_staging :
    refusedOn taggedStore = [true, false] ∧ refusedOn (afterDeletion "staging") = [true, true] ∧
    Refused (run callMeaning quiet (authorize plainMatchers "acme" "eve" "web" "root" "10.1.2.3")
      (afterDeletion "staging")).result := by
  refine ⟨by decide +kernel, by decide +kernel, ?_⟩
  obtain ⟨tag, named, connections, -⟩ := deletion_never_widens plainMatchers taggedStore "acme" "staging"
    ⟨quiet, none, none⟩ (by decide +kernel)
  refine (connections "acme" "eve" "web" "root" "10.1.2.3").mpr ?_ quiet quiet (fun _ => rfl) ?_ ?_
  · have staging : taggedStore.tagNamed "acme" "staging" = some ⟨"t2", "acme", "staging"⟩ := by
      decide +kernel
    cases staging.symm.trans named
    have spared : ∀ policy ∈ taggedStore.policiesOf "acme", ¬ Emptied "t2" policy.filter := by
      decide +kernel
    rintro ⟨-, _, _, _, -, -, -, -, -, ⟨policy, listed, emptied, -⟩, -⟩
    exact spared policy listed emptied
  · decide +kernel
  · have allowing : ∀ policy ∈ taggedStore.policiesOf "acme", policy.action ≠ .deny := by
      decide +kernel
    rintro ⟨_, _, _, _, _, _, policy, listed, deny, _⟩
    exact allowing policy listed deny

/-- The policy and the key for production match every device after the tag `prod` was deleted. -/
theorem emptied_filters_match_all :
    taggedStore.tagNamed "acme" "prod" = some ⟨"t1", "acme", "prod"⟩ ∧
    (taggedStore.policiesOf "acme").all (fun policy => policy.action ≠ .deny) = true ∧
    refusedOn taggedStore = [true, false] ∧ keyAccepted taggedStore = false ∧
    refusedOn (afterDeletion "prod") = [false, false] ∧
    keyAccepted (afterDeletion "prod") = true := by
  decide +kernel

end ShellHub.AccessPolicies
