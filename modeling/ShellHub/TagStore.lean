import ShellHub.Tables
import ShellHub.Tags

/-!
# The store of tags

The tables behind the tag services, and what each call does to them. Three join tables link tags to
devices, public keys and access policies. Their foreign keys are part of the store: a row of a join
table always refers to rows that exist, and deleting a tag deletes the rows that refer to it.
-/

namespace ShellHub.Tags

open Programs Tables
open Namespaces (Namespace NamespaceOf StoreError)
open Devices (Device Tag)

/-- A row of `device_tags`. -/
structure DeviceTag where
  deviceID : String
  tagID : String
  deriving DecidableEq, Repr

/-- A row of `public_keys`. -/
structure PublicKeyRow where
  fingerprint : String
  tenantID : String
  filterHostname : String
  deriving DecidableEq, Repr

/-- The primary key of `public_keys`. -/
def PublicKeyRow.primary (key : PublicKeyRow) : String × String := (key.fingerprint, key.tenantID)

/-- A row of `public_key_tags`. -/
structure PublicKeyTag where
  fingerprint : String
  tenantID : String
  tagID : String
  deriving DecidableEq, Repr

/-- The key that a row of `public_key_tags` refers to. -/
def PublicKeyTag.key (row : PublicKeyTag) : String × String := (row.fingerprint, row.tenantID)

/-- A row of `access_policies`. -/
structure AccessPolicyRow where
  id : String
  tenantID : String
  name : String
  subject : PolicySubject
  filterHostname : String
  logins : List String
  sourceIP : List String
  action : PolicyAction
  requireReauth : Bool
  reauthPeriod : Option Int
  deriving DecidableEq, Repr

/-- A row of `access_policy_tags`. -/
structure AccessPolicyTag where
  accessPolicyID : String
  tagID : String
  deriving DecidableEq, Repr

/-- The tables. -/
structure TagStore where
  namespaces : Table Namespace String Namespace.tenantID
  devices : Table Device String Device.uid
  tags : Table Tag String Tag.id
  deviceTags : List DeviceTag
  publicKeys : Table PublicKeyRow (String × String) PublicKeyRow.primary
  publicKeyTags : List PublicKeyTag
  accessPolicies : Table AccessPolicyRow String AccessPolicyRow.id
  accessPolicyTags : List AccessPolicyTag
  deviceTagged : ∀ row ∈ deviceTags,
    (devices.find row.deviceID).isSome ∧ (tags.find row.tagID).isSome
  keyTagged : ∀ row ∈ publicKeyTags,
    (publicKeys.find row.key).isSome ∧ (tags.find row.tagID).isSome
  policyTagged : ∀ row ∈ accessPolicyTags,
    (accessPolicies.find row.accessPolicyID).isSome ∧ (tags.find row.tagID).isSome

namespace TagStore

variable (store : TagStore)

/-! ## Reading -/

/-- The tags that the selected rows of a join table refer to. -/
def joined {ρ : Type} (rows : List ρ) (selected : ρ → Bool) (tagID : ρ → String) : List Tag :=
  (rows.filter selected).filterMap fun row => store.tags.find (tagID row)

/-- The tags of a device. -/
def tagsOfDevice (uid : String) : List Tag :=
  store.joined store.deviceTags (fun row => row.deviceID = uid) DeviceTag.tagID

/-- The tags of a public key. -/
def tagsOfKey (primary : String × String) : List Tag :=
  store.joined store.publicKeyTags (fun row => row.key = primary) PublicKeyTag.tagID

/-- The tags of an access policy. -/
def tagsOfPolicy (id : String) : List Tag :=
  store.joined store.accessPolicyTags (fun row => row.accessPolicyID = id) AccessPolicyTag.tagID

/-- `PublicKeyToModel`. -/
def publicKeyToModel (key : PublicKeyRow) : PublicKey where
  fingerprint := key.fingerprint
  tenantID := key.tenantID
  filter := ⟨key.filterHostname, (store.tagsOfKey key.primary).map Tag.id⟩

/-- `AccessPolicyToModel`. -/
def accessPolicyToModel (policy : AccessPolicyRow) : AccessPolicy where
  id := policy.id
  tenantID := policy.tenantID
  name := policy.name
  subject := policy.subject
  filter := ⟨policy.filterHostname, (store.tagsOfPolicy policy.id).map Tag.id⟩
  logins := policy.logins
  sourceIP := policy.sourceIP
  action := policy.action
  requireReauth := policy.requireReauth
  reauthPeriod := policy.reauthPeriod

/-- `DeviceToModel`. -/
def deviceToModel (device : Device) : TaggedDevice :=
  ⟨device, (store.tagsOfDevice device.uid).map Tag.id⟩

/-- The access policies of a namespace. -/
def policiesOf (tenantID : String) : List AccessPolicy :=
  (store.accessPolicies.rows.filter fun policy => policy.tenantID = tenantID).map
    store.accessPolicyToModel

/-- The tag of a namespace with a name. -/
def tagNamed (tenantID name : String) : Option Tag :=
  store.tags.rows.find? fun tag => tag.tenantID = tenantID && tag.name = name

/-! ## Writing -/

/-- Add a tag. -/
def addTag (tag : Tag) (fresh : store.tags.find tag.id = none) : TagStore :=
  { store with
    tags := store.tags.insert tag fresh
    deviceTagged := fun row member =>
      ⟨(store.deviceTagged row member).1, Table.isSome_find_insert (store.deviceTagged row member).2⟩
    keyTagged := fun row member =>
      ⟨(store.keyTagged row member).1, Table.isSome_find_insert (store.keyTagged row member).2⟩
    policyTagged := fun row member =>
      ⟨(store.policyTagged row member).1,
        Table.isSome_find_insert (store.policyTagged row member).2⟩ }

/-- Write a tag. -/
def putTag (tag : Tag) : TagStore :=
  { store with
    tags := store.tags.put tag
    deviceTagged := fun row member =>
      ⟨(store.deviceTagged row member).1, Table.isSome_find_put (store.deviceTagged row member).2⟩
    keyTagged := fun row member =>
      ⟨(store.keyTagged row member).1, Table.isSome_find_put (store.keyTagged row member).2⟩
    policyTagged := fun row member =>
      ⟨(store.policyTagged row member).1, Table.isSome_find_put (store.policyTagged row member).2⟩ }

/-- Put a tag on a device. A row that exists already stays. -/
def tagDevice (row : DeviceTag)
    (linked : (store.devices.find row.deviceID).isSome ∧ (store.tags.find row.tagID).isSome) :
    TagStore :=
  { store with
    deviceTags := if row ∈ store.deviceTags then store.deviceTags else store.deviceTags ++ [row]
    deviceTagged := by
      intro other member
      split at member
      · exact store.deviceTagged other member
      · rcases List.mem_append.mp member with old | new
        · exact store.deviceTagged other old
        · rw [List.mem_singleton.mp new]
          exact linked }

/-- Put a tag on a public key. A row that exists already stays. -/
def tagKey (row : PublicKeyTag)
    (linked : (store.publicKeys.find row.key).isSome ∧ (store.tags.find row.tagID).isSome) :
    TagStore :=
  { store with
    publicKeyTags :=
      if row ∈ store.publicKeyTags then store.publicKeyTags else store.publicKeyTags ++ [row]
    keyTagged := by
      intro other member
      split at member
      · exact store.keyTagged other member
      · rcases List.mem_append.mp member with old | new
        · exact store.keyTagged other old
        · rw [List.mem_singleton.mp new]
          exact linked }

/-- Take tags off devices. -/
def untagDevices (drop : DeviceTag → Bool) : TagStore :=
  { store with
    deviceTags := store.deviceTags.filter fun row => !drop row
    deviceTagged := fun row member => store.deviceTagged row (List.mem_of_mem_filter member) }

/-- Take tags off public keys. -/
def untagKeys (drop : PublicKeyTag → Bool) : TagStore :=
  { store with
    publicKeyTags := store.publicKeyTags.filter fun row => !drop row
    keyTagged := fun row member => store.keyTagged row (List.mem_of_mem_filter member) }

/-- Delete a tag, and with it the rows that refer to it. -/
def dropTag (id : String) : TagStore :=
  { store with
    tags := store.tags.erase fun tag => tag.id = id
    deviceTags := store.deviceTags.filter fun row => row.tagID ≠ id
    publicKeyTags := store.publicKeyTags.filter fun row => row.tagID ≠ id
    accessPolicyTags := store.accessPolicyTags.filter fun row => row.tagID ≠ id
    deviceTagged := by
      intro row member
      obtain ⟨stored, other⟩ := List.mem_filter.mp member
      obtain ⟨device, tag⟩ := store.deviceTagged row stored
      exact ⟨device, Table.isSome_find_erase tag fun known same => by simpa [same] using other⟩
    keyTagged := by
      intro row member
      obtain ⟨stored, other⟩ := List.mem_filter.mp member
      obtain ⟨key, tag⟩ := store.keyTagged row stored
      exact ⟨key, Table.isSome_find_erase tag fun known same => by simpa [same] using other⟩
    policyTagged := by
      intro row member
      obtain ⟨stored, other⟩ := List.mem_filter.mp member
      obtain ⟨policy, tag⟩ := store.policyTagged row stored
      exact ⟨policy, Table.isSome_find_erase tag fun known same => by simpa [same] using other⟩ }

/-- Other tags are found as before after a tag was deleted. -/
theorem find_dropTag {store : TagStore} {id other : String} (different : other ≠ id) :
    (store.dropTag id).tags.find other = store.tags.find other := by
  change (store.tags.erase fun tag => tag.id = id).find other = _
  rw [Table.find_erase]
  cases stored : store.tags.find other with
  | none => rfl
  | some known =>
    have named : known.id = other := (Table.find_eq_some.mp stored).2
    simp [Option.filter, named, different]

/-! ## Calls -/

/-- What a call finds around it: a fault, and a fresh identifier. -/
structure Surroundings where
  fault : Option StoreError
  freshID : String

/-- One call without a fault. -/
def perform (around : Surroundings) : (request : Call) → request.Reply × TagStore
  | .namespaceResolve tenantID =>
    match found : store.namespaces.find tenantID with
    | none => (.error .noDocuments, store)
    | some owner => (.ok ⟨owner, (Table.find_eq_some.mp found).2⟩, store)
  | .deviceResolve tenantID uid =>
    match (store.devices.find uid).filter fun device => device.tenantID = tenantID with
    | none => (.error .noDocuments, store)
    | some device => (.ok (store.deviceToModel device), store)
  | .tagConflicts tenantID name =>
    (.ok (name ≠ "" && (store.tagNamed tenantID name).isSome : Bool), store)
  | .tagCreate tenantID name =>
    match store.namespaces.find tenantID, store.tagNamed tenantID name with
    | none, _ => (.error .unavailable, store)
    | some _, some tag => (.ok tag.id, store)
    | some _, none =>
      match fresh : store.tags.find around.freshID with
      | some _ => (.error .duplicate, store)
      | none => (.ok around.freshID, store.addTag ⟨around.freshID, tenantID, name⟩ fresh)
  | .tagResolve tenantID name =>
    match store.tagNamed tenantID name with
    | none => (.error .noDocuments, store)
    | some tag => (.ok tag, store)
  | .tagUpdate tag =>
    match store.tags.find tag.id with
    | none => (.error .noDocuments, store)
    | some _ =>
      if store.tags.rows.any fun other =>
        other.id ≠ tag.id && other.tenantID = tag.tenantID && other.name = tag.name then
        (.error .duplicate, store)
      else (.ok (), store.putTag tag)
  | .tagPushToTarget id .device targetID =>
    if linked : (store.devices.find targetID).isSome ∧ (store.tags.find id).isSome then
      (.ok (), store.tagDevice ⟨targetID, id⟩ linked)
    else (.error .noDocuments, store)
  | .tagPushToTarget id .publicKey targetID =>
    match store.tags.find id with
    | none => (.error .noDocuments, store)
    | some tag =>
      if linked : (store.publicKeys.find (targetID, tag.tenantID)).isSome ∧
          (store.tags.find id).isSome then
        (.ok (), store.tagKey ⟨targetID, tag.tenantID, id⟩ linked)
      else (.error .noDocuments, store)
  | .tagPullFromTarget id .device targetIDs =>
    let drop := fun row : DeviceTag =>
      row.tagID = id && (targetIDs.isEmpty || targetIDs.contains row.deviceID)
    if (store.tags.find id).isNone || (!targetIDs.isEmpty && !store.deviceTags.any drop) then
      (.error .noDocuments, store)
    else (.ok (), store.untagDevices drop)
  | .tagPullFromTarget id .publicKey targetIDs =>
    let drop := fun row : PublicKeyTag =>
      row.tagID = id && (targetIDs.isEmpty || targetIDs.contains row.fingerprint)
    if (store.tags.find id).isNone || (!targetIDs.isEmpty && !store.publicKeyTags.any drop) then
      (.error .noDocuments, store)
    else (.ok (), store.untagKeys drop)
  | .tagDelete tag =>
    match store.tags.find tag.id with
    | none => (.error .noDocuments, store)
    | some _ => (.ok (), store.dropTag tag.id)
  | .publicKeyResolve tenantID fingerprint =>
    match store.publicKeys.find (fingerprint, tenantID) with
    | none => (.error .noDocuments, store)
    | some key => (.ok (store.publicKeyToModel key), store)
  | .accessPolicyList tenantID => (.ok (store.policiesOf tenantID), store)

end TagStore

open TagStore (Surroundings)

/-- The meaning of a call. The environment may make any call fail; it then changes nothing. -/
def callMeaning : Meaning Call Call.Reply Surroundings TagStore :=
  fun request around store =>
    match around.fault with
    | some error => (.error error, store)
    | none => store.perform around request

section Answers

variable {store : TagStore} {around : Surroundings}

/-- A device of the namespace is resolved. -/
theorem callMeaning_deviceResolve {tenantID uid : String} {device : Device}
    (quiet : around.fault = none) (stored : store.devices.find uid = some device)
    (within : device.tenantID = tenantID) :
    callMeaning (.deviceResolve tenantID uid) around store =
      (.ok (store.deviceToModel device), store) := by
  have selected : (store.devices.find uid).filter (fun device => device.tenantID = tenantID) =
      some device := by
    rw [stored, Option.filter_some, if_pos (decide_eq_true within)]
  simp only [callMeaning, quiet, TagStore.perform, selected]

/-- A namespace is resolved. -/
theorem callMeaning_namespaceResolve {tenantID : String} {owner : Namespace}
    (quiet : around.fault = none) (housed : store.namespaces.find tenantID = some owner) :
    callMeaning (.namespaceResolve tenantID) around store =
      (.ok ⟨owner, (Table.find_eq_some.mp housed).2⟩, store) := by
  simp only [callMeaning, quiet, TagStore.perform]
  split
  · rename_i missing
    rw [housed] at missing
    cases missing
  · rename_i found known
    rw [housed] at known
    cases known
    rfl

/-- The policies of a namespace are listed. -/
theorem callMeaning_accessPolicyList (quiet : around.fault = none) (tenantID : String) :
    callMeaning (.accessPolicyList tenantID) around store =
      (.ok (store.policiesOf tenantID), store) := by
  simp only [callMeaning, quiet, TagStore.perform]

/-- A public key of the namespace is resolved. -/
theorem callMeaning_publicKeyResolve {tenantID fingerprint : String} {row : PublicKeyRow}
    (quiet : around.fault = none)
    (stored : store.publicKeys.find (fingerprint, tenantID) = some row) :
    callMeaning (.publicKeyResolve tenantID fingerprint) around store =
      (.ok (store.publicKeyToModel row), store) := by
  simp only [callMeaning, quiet, TagStore.perform, stored]

/-- A device that is resolved is one of the namespace. -/
theorem deviceResolve_ok {tenantID uid : String} {dev : TaggedDevice}
    (answered : (callMeaning (.deviceResolve tenantID uid) around store).1 = .ok dev) :
    ∃ device, store.devices.find uid = some device ∧ device.tenantID = tenantID ∧
      dev = store.deviceToModel device := by
  unfold callMeaning at answered
  split at answered
  · cases answered
  · simp only [TagStore.perform] at answered
    split at answered
    · cases answered
    · rename_i device selected
      cases answered
      obtain ⟨stored, within⟩ := Option.filter_eq_some_iff.mp selected
      exact ⟨device, stored, of_decide_eq_true within, rfl⟩

/-- A namespace that is resolved is stored. -/
theorem namespaceResolve_ok {tenantID : String} {owner : NamespaceOf tenantID}
    (answered : (callMeaning (.namespaceResolve tenantID) around store).1 = .ok owner) :
    store.namespaces.find tenantID = some owner.1 := by
  unfold callMeaning at answered
  split at answered
  · cases answered
  · simp only [TagStore.perform] at answered
    split at answered
    · cases answered
    · rename_i found
      cases answered
      exact found

/-- The policies that are listed are those of the namespace. -/
theorem accessPolicyList_ok {tenantID : String} {policies : List AccessPolicy}
    (answered : (callMeaning (.accessPolicyList tenantID) around store).1 = .ok policies) :
    policies = store.policiesOf tenantID := by
  unfold callMeaning at answered
  split at answered
  · cases answered
  · cases answered
    rfl

/-- A public key that is resolved is stored. -/
theorem publicKeyResolve_ok {tenantID fingerprint : String} {key : PublicKey}
    (answered : (callMeaning (.publicKeyResolve tenantID fingerprint) around store).1 = .ok key) :
    ∃ row, store.publicKeys.find (fingerprint, tenantID) = some row ∧
      key = store.publicKeyToModel row := by
  unfold callMeaning at answered
  split at answered
  · cases answered
  · simp only [TagStore.perform] at answered
    split at answered
    · cases answered
    · rename_i row found
      cases answered
      exact ⟨row, found, rfl⟩

/-- A call that only reads. -/
def Call.Reads : Call → Prop
  | .namespaceResolve _ | .deviceResolve _ _ | .tagConflicts _ _ | .tagResolve _ _
  | .publicKeyResolve _ _ | .accessPolicyList _ => True
  | .tagCreate _ _ | .tagUpdate _ | .tagPushToTarget _ _ _ | .tagPullFromTarget _ _ _
  | .tagDelete _ => False

theorem callMeaning_reads (request : Call) (reads : request.Reads) :
    (callMeaning request around store).2 = store := by
  unfold callMeaning
  split
  · rfl
  · cases request
    case namespaceResolve | deviceResolve | tagResolve | publicKeyResolve =>
      simp only [TagStore.perform]
      split <;> rfl
    case tagConflicts | accessPolicyList => rfl
    all_goals exact reads.elim

end Answers

end ShellHub.Tags
