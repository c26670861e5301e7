import ShellHub.TagServices

/-!
# Tags and namespaces

A tag is looked up in the namespace of the caller. The store then finds a public key in the namespace of
the tag, but a device by its identifier alone, so that a caller can put a tag on the device of another
namespace.

This module proves that all links stay inside their namespace, and that no call changes the tags that
another namespace reads, if tags are put only on devices of the namespace of the caller. It gives a
call that puts a tag on the device of another namespace.
-/

namespace ShellHub.Tags

open Programs Tables
open Namespaces (StoreError plainNamespace)
open Devices (Device Tag webDevice)
open TagStore (Surroundings)

/-! ## Join tables -/

section JoinTables

variable {ρ : Type} {tags tags' : Table Tag String Tag.id} {rows rows' rows'' : List ρ}
  {tagID : ρ → String} {home : ρ → Option String} {tenantID : String}

/-- Every row links a tag with a target of the namespace of the tag. The namespace of the target of a
row is its home. -/
def Within (tags : Table Tag String Tag.id) (rows : List ρ) (tagID : ρ → String)
    (home : ρ → Option String) : Prop :=
  ∀ row ∈ rows, ∃ tag, tags.find (tagID row) = some tag ∧ home row = some tag.tenantID

/-- A change made in a namespace: no row leads out of its namespace, and what is read of rows that
belong to other namespaces is as it was. -/
structure Change (tenantID : String) (tags tags' : Table Tag String Tag.id) (rows rows' : List ρ)
    (tagID : ρ → String) (home : ρ → Option String) : Prop where
  within : Within tags' rows' tagID home
  reads : ∀ selected : ρ → Bool, (∀ row, selected row = true → home row ≠ some tenantID) →
    (rows'.filter selected).filterMap (fun row => tags'.find (tagID row)) =
      (rows.filter selected).filterMap fun row => tags.find (tagID row)

/-- Without a change the rows stay within their namespaces. -/
theorem Change.refl (within : Within tags rows tagID home) :
    Change tenantID tags tags rows rows tagID home :=
  ⟨within, fun _ _ => rfl⟩

/-- Two changes in the namespace are one. -/
theorem Change.trans {tags'' : Table Tag String Tag.id}
    (first : Change tenantID tags tags' rows rows' tagID home)
    (second : Change tenantID tags' tags'' rows' rows'' tagID home) :
    Change tenantID tags tags'' rows rows'' tagID home := by
  constructor
  · exact second.within
  · intro selected foreign
    exact (second.reads selected foreign).trans (first.reads selected foreign)

/-- A change leaves the tags and the rows of other namespaces, and its own rows refer to its own
tags. -/
theorem Change.intro (within : Within tags rows tagID home)
    (tagsKept : ∀ id tag, tags.find id = some tag → tag.tenantID ≠ tenantID →
      tags'.find id = some tag)
    (rowsKept : rows'.filter (fun row => home row ≠ some tenantID) =
      rows.filter fun row => home row ≠ some tenantID)
    (own : ∀ row ∈ rows', home row = some tenantID →
      ∃ tag, tags'.find (tagID row) = some tag ∧ tag.tenantID = tenantID) :
    Change tenantID tags tags' rows rows' tagID home := by
  have foreign : ∀ row ∈ rows, home row ≠ some tenantID →
      ∃ tag, tags.find (tagID row) = some tag ∧ tags'.find (tagID row) = some tag ∧
        home row = some tag.tenantID := by
    intro row stored elsewhere
    obtain ⟨tag, found, housed⟩ := within row stored
    have other : tag.tenantID ≠ tenantID := fun same => elsewhere (same ▸ housed)
    exact ⟨tag, found, tagsKept (tagID row) tag found other, housed⟩
  constructor
  · intro row stored
    by_cases housed : home row = some tenantID
    · obtain ⟨tag, found, same⟩ := own row stored housed
      exact ⟨tag, found, same ▸ housed⟩
    · have kept : row ∈ rows.filter fun row => home row ≠ some tenantID := by
        rw [← rowsKept]
        exact List.mem_filter.mpr ⟨stored, decide_eq_true housed⟩
      obtain ⟨tag, _, found, home⟩ := foreign row (List.mem_of_mem_filter kept) housed
      exact ⟨tag, found, home⟩
  · intro selected elsewhere
    -- The selected rows are among the rows of other namespaces.
    have chosen : ∀ list : List ρ,
        list.filter selected =
          (list.filter fun row => home row ≠ some tenantID).filter selected := by
      intro list
      rw [List.filter_filter]
      apply List.filter_congr
      intro row _
      cases picked : selected row
      · rfl
      · simp [elsewhere row picked]
    rw [chosen rows', rowsKept, ← chosen rows]
    apply List.filterMap_congr
    intro row member
    obtain ⟨stored, picked⟩ := List.mem_filter.mp member
    obtain ⟨tag, before, after, _⟩ := foreign row stored (elsewhere row picked)
    rw [before, after]

/-- Tags of the namespace change, and all rows stay. -/
theorem Change.retag (within : Within tags rows tagID home)
    (kept : ∀ id tag, tags.find id = some tag → ∃ later, tags'.find id = some later ∧
      later.tenantID = tag.tenantID ∧ (tag.tenantID ≠ tenantID → later = tag)) :
    Change tenantID tags tags' rows rows tagID home := by
  apply Change.intro within
  · intro id tag found foreign
    obtain ⟨later, known, _, same⟩ := kept id tag found
    rw [known, same foreign]
  · rfl
  · intro row stored housed
    obtain ⟨tag, found, home⟩ := within row stored
    obtain ⟨later, known, same, _⟩ := kept (tagID row) tag found
    rw [housed] at home
    exact ⟨later, known, same.trans (Option.some.inj home).symm⟩

/-- A row that links a tag and a target of the namespace is added. -/
theorem Change.link [DecidableEq ρ] (within : Within tags rows tagID home) {row : ρ} {tag : Tag}
    (found : tags.find (tagID row) = some tag) (own : tag.tenantID = tenantID)
    (housed : home row = some tenantID) :
    Change tenantID tags tags rows (if row ∈ rows then rows else rows ++ [row]) tagID home := by
  split
  · exact Change.refl within
  · apply Change.intro within
    · intro _ _ known _
      exact known
    · simp [List.filter_append, housed]
    · intro other member home
      rcases List.mem_append.mp member with old | new
      · obtain ⟨linked, known, same⟩ := within other old
        rw [home] at same
        exact ⟨linked, known, (Option.some.inj same).symm⟩
      · rw [List.mem_singleton.mp new]
        exact ⟨tag, found, own⟩

/-- Rows that refer to a tag of the namespace are deleted, and the tag may be deleted with them. -/
theorem Change.unlink (within : Within tags rows tagID home) {id : String} {tag : Tag}
    {keep : ρ → Bool} (found : tags.find id = some tag) (own : tag.tenantID = tenantID)
    (dropped : ∀ row, keep row = false → tagID row = id)
    (others : ∀ other, other ≠ id → tags'.find other = tags.find other)
    (linked : ∀ row, keep row = true → tags'.find (tagID row) = tags.find (tagID row)) :
    Change tenantID tags tags' rows (rows.filter keep) tagID home := by
  apply Change.intro within
  · intro other known stored foreign
    have different : other ≠ id := by
      rintro rfl
      rw [found] at stored
      cases stored
      exact foreign own
    rw [others other different, stored]
  · rw [List.filter_filter]
    apply List.filter_congr
    intro row stored
    cases kept : keep row
    · obtain ⟨_, known, home⟩ := within row stored
      rw [dropped row kept, found] at known
      cases known
      simp [home, own]
    · simp
  · intro row member housed
    obtain ⟨stored, kept⟩ := List.mem_filter.mp member
    obtain ⟨referred, known, home⟩ := within row stored
    rw [housed] at home
    exact ⟨referred, (linked row kept).trans known, (Option.some.inj home).symm⟩

end JoinTables

namespace TagStore

variable {store before middle after : TagStore} {tenantID : String}

/-- The namespace of the device of a row. -/
def deviceHome (store : TagStore) (row : DeviceTag) : Option String :=
  (store.devices.find row.deviceID).map Device.tenantID

/-- The namespace of the public key of a row. -/
def keyHome (store : TagStore) (row : PublicKeyTag) : Option String :=
  (store.publicKeys.find row.key).map PublicKeyRow.tenantID

/-- A tag is found as before after another one was added. -/
theorem find_addTag {id : String} {known tag : Tag} (found : store.tags.find id = some known)
    (fresh : store.tags.find tag.id = none) :
    (store.addTag tag fresh).tags.find id = some known := by
  change (store.tags.insert tag fresh).find id = some known
  rw [Table.find_insert, if_neg, found]
  rintro rfl
  rw [fresh] at found
  cases found

/-- A tag is found after a tag was written. -/
theorem find_putTag {id : String} {known : Tag} (found : store.tags.find id = some known)
    (tag : Tag) :
    (store.putTag tag).tags.find id = some (if tag.id = id then tag else known) := by
  change (store.tags.put tag).find id = _
  rw [Table.find_put, found]
  split <;> rfl

/-- Every link is between a tag and a device, or a tag and a key, of the same namespace. -/
structure Inside (store : TagStore) : Prop where
  devices : Within store.tags store.deviceTags DeviceTag.tagID store.deviceHome
  keys : Within store.tags store.publicKeyTags PublicKeyTag.tagID store.keyHome

/-- What a request of a namespace may do to the store. -/
structure Tame (tenantID : String) (before after : TagStore) : Prop where
  devices : after.devices = before.devices
  publicKeys : after.publicKeys = before.publicKeys
  deviceTags : Change tenantID before.tags after.tags before.deviceTags after.deviceTags
    DeviceTag.tagID before.deviceHome
  publicKeyTags : Change tenantID before.tags after.tags before.publicKeyTags after.publicKeyTags
    PublicKeyTag.tagID before.keyHome

namespace Tame

/-- A request that does nothing is tame. -/
theorem refl (inside : store.Inside) : Tame tenantID store store :=
  ⟨rfl, rfl, .refl inside.devices, .refl inside.keys⟩

/-- The devices stay where they are. -/
theorem deviceHome_eq (tame : Tame tenantID before after) :
    after.deviceHome = before.deviceHome := by
  funext row
  rw [deviceHome, deviceHome, tame.devices]

/-- The keys stay where they are. -/
theorem keyHome_eq (tame : Tame tenantID before after) : after.keyHome = before.keyHome := by
  funext row
  rw [keyHome, keyHome, tame.publicKeys]

/-- Two tame writes are one. -/
theorem trans (first : Tame tenantID before middle) (second : Tame tenantID middle after) :
    Tame tenantID before after := by
  constructor
  · exact second.devices.trans first.devices
  · exact second.publicKeys.trans first.publicKeys
  · exact first.deviceTags.trans (first.deviceHome_eq ▸ second.deviceTags)
  · exact first.publicKeyTags.trans (first.keyHome_eq ▸ second.publicKeyTags)

/-- No link leads out of its namespace after a tame write. -/
theorem inside (tame : Tame tenantID before after) : after.Inside := by
  constructor
  · rw [tame.deviceHome_eq]
    exact tame.deviceTags.within
  · rw [tame.keyHome_eq]
    exact tame.publicKeyTags.within

/-- The tags of a device of another namespace are read as before. -/
theorem tagsOfDevice_eq (tame : Tame tenantID before after) {uid : String} {device : Device}
    (stored : before.devices.find uid = some device) (foreign : device.tenantID ≠ tenantID) :
    after.tagsOfDevice uid = before.tagsOfDevice uid := by
  apply tame.deviceTags.reads
  intro row selected
  obtain rfl : row.deviceID = uid := by simpa using selected
  simpa [deviceHome, stored] using foreign

/-- The tags of a public key of another namespace are read as before. -/
theorem tagsOfKey_eq (tame : Tame tenantID before after) {primary : String × String}
    {key : PublicKeyRow} (stored : before.publicKeys.find primary = some key)
    (foreign : key.tenantID ≠ tenantID) : after.tagsOfKey primary = before.tagsOfKey primary := by
  apply tame.publicKeyTags.reads
  intro row selected
  obtain rfl : row.key = primary := by simpa using selected
  simpa [keyHome, stored] using foreign

/-! ## What one write does -/

/-- A new tag has no links yet. -/
theorem addTag (inside : store.Inside) (tag : Tag) (fresh : store.tags.find tag.id = none) :
    Tame tenantID store (store.addTag tag fresh) := by
  have kept : ∀ id known, store.tags.find id = some known → ∃ later,
      (store.addTag tag fresh).tags.find id = some later ∧ later.tenantID = known.tenantID ∧
        (known.tenantID ≠ tenantID → later = known) := by
    intro id known found
    exact ⟨known, find_addTag found fresh, rfl, fun _ => rfl⟩
  exact ⟨rfl, rfl, .retag inside.devices kept, .retag inside.keys kept⟩

/-- A tag of the namespace may be renamed. -/
theorem putTag (inside : store.Inside) {tag old : Tag} (known : store.tags.find tag.id = some old)
    (own : old.tenantID = tenantID) (same : tag.tenantID = tenantID) :
    Tame tenantID store (store.putTag tag) := by
  have kept : ∀ id stored, store.tags.find id = some stored → ∃ later,
      (store.putTag tag).tags.find id = some later ∧ later.tenantID = stored.tenantID ∧
        (stored.tenantID ≠ tenantID → later = stored) := by
    intro id stored found
    refine ⟨_, find_putTag found tag, ?_⟩
    split
    · rename_i self
      rw [← self, known] at found
      cases found
      exact ⟨same.trans own.symm, fun foreign => absurd own foreign⟩
    · exact ⟨rfl, fun _ => rfl⟩
  exact ⟨rfl, rfl, .retag inside.devices kept, .retag inside.keys kept⟩

/-- A tag of the namespace may be put on a device of the namespace. -/
theorem tagDevice (inside : store.Inside) {row : DeviceTag} {tag : Tag}
    (found : store.tags.find row.tagID = some tag) (own : tag.tenantID = tenantID)
    (housed : store.deviceHome row = some tenantID)
    (linked : (store.devices.find row.deviceID).isSome ∧ (store.tags.find row.tagID).isSome) :
    Tame tenantID store (store.tagDevice row linked) :=
  ⟨rfl, rfl, .link inside.devices found own housed, .refl inside.keys⟩

/-- A tag of the namespace may be put on a key of the namespace. -/
theorem tagKey (inside : store.Inside) {row : PublicKeyTag} {tag : Tag}
    (found : store.tags.find row.tagID = some tag) (own : tag.tenantID = tenantID)
    (housed : store.keyHome row = some tenantID)
    (linked : (store.publicKeys.find row.key).isSome ∧ (store.tags.find row.tagID).isSome) :
    Tame tenantID store (store.tagKey row linked) :=
  ⟨rfl, rfl, .refl inside.devices, .link inside.keys found own housed⟩

variable {id : String} {tag : Tag} (inside : store.Inside) (found : store.tags.find id = some tag)
  (own : tag.tenantID = tenantID)

include inside found own

/-- A tag of the namespace may be taken off devices. -/
theorem untagDevices {drop : DeviceTag → Bool} (dropped : ∀ row, drop row = true → row.tagID = id) :
    Tame tenantID store (store.untagDevices drop) := by
  refine ⟨rfl, rfl, ?_, .refl inside.keys⟩
  apply Change.unlink inside.devices found own
  · intro row gone
    exact dropped row (by simpa using gone)
  · intros; rfl
  · intros; rfl

/-- A tag of the namespace may be taken off keys. -/
theorem untagKeys {drop : PublicKeyTag → Bool}
    (dropped : ∀ row, drop row = true → row.tagID = id) :
    Tame tenantID store (store.untagKeys drop) := by
  refine ⟨rfl, rfl, .refl inside.devices, ?_⟩
  apply Change.unlink inside.keys found own
  · intro row gone
    exact dropped row (by simpa using gone)
  · intros; rfl
  · intros; rfl

/-- A tag of the namespace may be deleted, with its links. -/
theorem dropTag : Tame tenantID store (store.dropTag id) := by
  refine ⟨rfl, rfl, ?_, ?_⟩
  · exact .unlink inside.devices found own (by simp) (fun _ => find_dropTag) fun row kept =>
      find_dropTag (by simpa using kept)
  · exact .unlink inside.keys found own (by simp) (fun _ => find_dropTag) fun row kept =>
      find_dropTag (by simpa using kept)

end Tame

end TagStore

/-! ## What a request does -/

section Contract

variable {tenantID : String} {initial : TagStore}

/-- How a request of a namespace uses the store. The ghost state is the identifier of the tag that was
resolved; only this tag is written, put on a target, taken off one, or deleted. -/
def tagContract (tenantID : String) (initial : TagStore) :
    Contract Call Call.Reply (Option String) where
  allowed resolved
    | .tagCreate tenant _ => tenant = tenantID
    | .tagResolve tenant _ => tenant = tenantID
    | .tagUpdate tag => resolved = some tag.id ∧ tag.tenantID = tenantID
    | .tagPushToTarget id target targetID => resolved = some id ∧
      (target = .device → ((initial.devices.find targetID).all fun device =>
        device.tenantID = tenantID) = true)
    | .tagPullFromTarget id _ _ => resolved = some id
    | .tagDelete tag => resolved = some tag.id
    | _ => True
  yields resolved request reply next :=
    match request, reply with
    | .tagResolve _ _, .ok tag => next = some tag.id ∧ tag.tenantID = tenantID
    | .tagDelete _, _ => next = none
    | _, _ => next = resolved

/-- The store changed in the namespace only, and the tag that was resolved is one of the namespace. -/
structure Follows (tenantID : String) (initial store : TagStore) (resolved : Option String) :
    Prop where
  tame : initial.Tame tenantID store
  resolved : ∀ id, resolved = some id → ∃ tag, store.tags.find id = some tag ∧
    tag.tenantID = tenantID

namespace Follows

variable {store after : TagStore} {resolved : Option String}

/-- A write in the namespace that keeps the tag that was resolved. -/
theorem step (follows : Follows tenantID initial store resolved) (tame : store.Tame tenantID after)
    (kept : ∀ id tag, store.tags.find id = some tag → tag.tenantID = tenantID →
      ∃ later, after.tags.find id = some later ∧ later.tenantID = tenantID) :
    Follows tenantID initial after resolved := by
  constructor
  · exact follows.tame.trans tame
  · intro id known
    obtain ⟨tag, found, own⟩ := follows.resolved id known
    exact kept id tag found own

/-- A write in the namespace that concerns the links only. -/
theorem relink (follows : Follows tenantID initial store resolved)
    (tame : store.Tame tenantID after) (same : after.tags = store.tags) :
    Follows tenantID initial after resolved := by
  refine follows.step tame ?_
  intro id tag found own
  exact ⟨tag, same ▸ found, own⟩

end Follows

/-- The store realizes the contract, whatever fails: each write with the resolved tag is tame. -/
theorem callMeaning_realizes :
    Realizes callMeaning (tagContract tenantID initial) (Follows tenantID initial) := by
  intro store resolved request around follows allowed
  have inside := follows.tame.inside
  cases fault : around.fault with
  | some error =>
    simp only [callMeaning, fault]
    cases request
    case tagDelete => exact ⟨none, rfl, follows.tame, fun _ missing => by cases missing⟩
    all_goals exact ⟨resolved, rfl, follows⟩
  | none =>
    simp only [callMeaning, fault]
    cases request with
    | namespaceResolve | deviceResolve | publicKeyResolve =>
      simp only [TagStore.perform]
      split <;> exact ⟨resolved, rfl, follows⟩
    | tagConflicts | accessPolicyList => exact ⟨resolved, rfl, follows⟩
    | tagCreate tenant name =>
      simp only [TagStore.perform]
      split
      · exact ⟨resolved, rfl, follows⟩
      · exact ⟨resolved, rfl, follows⟩
      · split
        · exact ⟨resolved, rfl, follows⟩
        · rename_i fresh
          refine ⟨resolved, rfl, follows.step (.addTag inside _ fresh) ?_⟩
          intro id tag found own
          exact ⟨tag, TagStore.find_addTag found fresh, own⟩
    | tagResolve tenant name =>
      obtain rfl : tenant = tenantID := allowed
      simp only [TagStore.perform]
      split
      · exact ⟨resolved, rfl, follows⟩
      · rename_i tag named
        have own : tag.tenantID = tenant := by
          have selected := List.find?_some named
          simp only [Bool.and_eq_true, decide_eq_true_eq] at selected
          exact selected.1
        refine ⟨some tag.id, ⟨rfl, own⟩, follows.tame, ?_⟩
        rintro id ⟨⟩
        exact ⟨tag, Table.find_of_mem (List.mem_of_find?_eq_some named), own⟩
    | tagUpdate tag =>
      obtain ⟨known, found, own⟩ := follows.resolved tag.id allowed.1
      simp only [TagStore.perform, found]
      split
      · exact ⟨resolved, rfl, follows⟩
      · refine ⟨resolved, rfl, follows.step (.putTag inside found own allowed.2) ?_⟩
        intro id stored present tenant
        refine ⟨_, TagStore.find_putTag present tag, ?_⟩
        split
        · exact allowed.2
        · exact tenant
    | tagPushToTarget id target targetID =>
      obtain ⟨tag, found, own⟩ := follows.resolved id allowed.1
      cases target with
      | device =>
        simp only [TagStore.perform]
        split
        · rename_i linked
          have housed : store.deviceHome ⟨targetID, id⟩ = some tenantID := by
            have permitted := allowed.2 rfl
            rw [← follows.tame.devices] at permitted
            obtain ⟨device, stored⟩ := Option.isSome_iff_exists.mp linked.1
            simpa [TagStore.deviceHome, stored] using permitted
          exact ⟨resolved, rfl, follows.relink (.tagDevice inside found own housed linked) rfl⟩
        · exact ⟨resolved, rfl, follows⟩
      | publicKey =>
        simp only [TagStore.perform, found]
        split
        · rename_i linked
          have housed : store.keyHome ⟨targetID, tag.tenantID, id⟩ = some tenantID := by
            obtain ⟨key, stored⟩ := Option.isSome_iff_exists.mp linked.1
            have named : key.primary = (targetID, tag.tenantID) := (Table.find_eq_some.mp stored).2
            have tenant : key.tenantID = tag.tenantID := congrArg Prod.snd named
            exact Option.map_eq_some_iff.mpr ⟨key, stored, tenant.trans own⟩
          have present : (store.tags.find id).isSome := by
            rw [found]
            rfl
          exact ⟨resolved, rfl, follows.relink
            (.tagKey inside found own housed ⟨linked.1, present⟩) rfl⟩
        · exact ⟨resolved, rfl, follows⟩
    | tagPullFromTarget id target targetIDs =>
      obtain ⟨tag, found, own⟩ := follows.resolved id allowed
      cases target with
      | device =>
        simp only [TagStore.perform]
        split
        · exact ⟨resolved, rfl, follows⟩
        · refine ⟨resolved, rfl, follows.relink (.untagDevices inside found own ?_) rfl⟩
          intro row dropped
          simp only [Bool.and_eq_true, decide_eq_true_eq] at dropped
          exact dropped.1
      | publicKey =>
        simp only [TagStore.perform]
        split
        · exact ⟨resolved, rfl, follows⟩
        · refine ⟨resolved, rfl, follows.relink (.untagKeys inside found own ?_) rfl⟩
          intro row dropped
          simp only [Bool.and_eq_true, decide_eq_true_eq] at dropped
          exact dropped.1
    | tagDelete tag =>
      simp only [TagStore.perform]
      obtain ⟨known, found, own⟩ := follows.resolved tag.id allowed
      rw [found]
      refine ⟨none, rfl, follows.tame.trans (.dropTag inside found own), ?_⟩
      intro id missing
      cases missing

/-- A request resolves a tag of its namespace. -/
theorem namedTag_meets (name : String) :
    (namedTag tenantID name).Meets (tagContract tenantID initial) none fun result resolved =>
      ∀ tag, result = .ok tag → resolved = some tag.id ∧ tag.tenantID = tenantID := by
  unfold namedTag
  split
  · intro tag failed
    cases failed
  · refine .perform trivial ?_
    rintro (error | owner) _ rfl
    · intro tag failed
      cases failed
    · refine ⟨rfl, ?_⟩
      rintro (error | tag) resolved yielded
      · intro tag failed
        cases failed
      · rintro _ ⟨⟩
        exact yielded

/-- A request that resolves a tag and then continues with it. -/
theorem meets_of_namedTag {name : String} {next : Except TagError Tag → Service (Except TagError Unit)}
    (stops : ∀ error, next (.error error) = return .error error)
    (continues : ∀ tag, tag.tenantID = tenantID →
      (next (.ok tag)).Meets (tagContract tenantID initial) (some tag.id) fun _ _ => True) :
    (namedTag tenantID name >>= next).Meets (tagContract tenantID initial) none fun _ _ => True := by
  apply (namedTag_meets name).bind
  rintro (error | tag) resolved known
  · rw [stops]
    trivial
  · obtain ⟨rfl, own⟩ := known tag rfl
    exact continues tag own

/-- A tag is created in the namespace of the request. -/
theorem createTag_meets (name : String) :
    (createTag tenantID name).Meets (tagContract tenantID initial) none fun _ _ => True := by
  unfold createTag
  split
  · trivial
  · refine .perform trivial ?_
    rintro (error | owner) _ rfl
    · trivial
    · refine ⟨trivial, ?_⟩
      rintro (error | _ | _) _ rfl
      · trivial
      · refine ⟨rfl, ?_⟩
        rintro (error | id) _ rfl <;> trivial
      · trivial

/-- The loop over the targets takes off the tag that was resolved. -/
theorem pullFromAll_meets (id : String) (targets : List TagTarget) :
    (pullFromAll id targets).Meets (tagContract tenantID initial) (some id) fun _ resolved =>
      resolved = some id := by
  induction targets with
  | nil => rfl
  | cons target rest ih =>
    refine .perform rfl ?_
    rintro (error | done) _ rfl
    · rfl
    · exact ih

/-- Every request uses the store in its namespace. -/
theorem TagRequest.program_meets {request : TagRequest} (own : request.OwnTarget initial) :
    request.program.Meets (tagContract request.tenantID initial) none fun _ _ => True := by
  cases request with
  | createTag tenantID name =>
    apply (createTag_meets name).bind
    intros
    trivial
  | pushTagTo target tenantID name targetID =>
    apply meets_of_namedTag (fun _ => rfl)
    intro tag _
    refine .perform ⟨rfl, ?_⟩ ?_
    · rintro rfl
      exact own
    · rintro (error | done) _ rfl <;> trivial
  | pullTagFrom target tenantID name targetID =>
    apply meets_of_namedTag (fun _ => rfl)
    intro tag _
    refine .perform rfl ?_
    rintro (error | done) _ rfl <;> trivial
  | updateTag tenantID name newName =>
    apply meets_of_namedTag (fun _ => rfl)
    intro tag within
    refine .perform trivial ?_
    rintro (error | _ | _) _ rfl
    · trivial
    · refine ⟨⟨?_, ?_⟩, ?_⟩
      · split <;> rfl
      · split <;> exact within
      · rintro (error | done) _ rfl <;> trivial
    · trivial
  | deleteTag tenantID name =>
    apply meets_of_namedTag (fun _ => rfl)
    intro tag _
    apply (pullFromAll_meets tag.id tagTargets).bind
    rintro (error | done) _ rfl
    · trivial
    · refine .perform rfl ?_
      rintro (error | done) _ rfl <;> trivial

/-- A request changes the store in its namespace only. -/
theorem TagRequest.perform_tame {request : TagRequest} {store : TagStore} (inside : store.Inside)
    (own : request.OwnTarget store) (inputs : Inputs) :
    store.Tame request.tenantID (request.perform inputs store).2 := by
  rcases request.perform_cases inputs store with unchanged | ran
  · rw [unchanged]
    exact .refl inside
  · rw [ran]
    have start : Follows request.tenantID store store none :=
      ⟨.refl inside, fun _ missing => by cases missing⟩
    obtain ⟨⟨_, _, follows⟩, _⟩ :=
      (program_meets own).run callMeaning_realizes start inputs.calls
    exact follows.tame

end Contract

/-! ## Runs -/

/-- A step of a run: a request and what it finds around it. -/
structure TagStep where
  request : TagRequest
  inputs : Inputs

/-- The store after a run. -/
def afterSteps : TagStore → List TagStep → TagStore
  | store, [] => store
  | store, step :: rest => afterSteps (step.request.perform step.inputs store).2 rest

/-- The steps of a run, each with the store that it starts from. -/
def transitions : TagStore → List TagStep → List (TagStore × TagStep)
  | _, [] => []
  | store, step :: rest =>
    (store, step) :: transitions (step.request.perform step.inputs store).2 rest

/-- Whether a request puts a tag on a device of its namespace depends on the devices only. -/
theorem TagRequest.ownTarget_congr {request : TagRequest} {store other : TagStore}
    (same : other.devices = store.devices) : request.OwnTarget other ↔ request.OwnTarget store := by
  cases request <;> simp only [OwnTarget, same]

/-- A run in which tags are put only on devices of the namespace of the caller keeps every link
inside its namespace, and each of its requests leaves the tags of the devices and keys of other
namespaces as they were. By induction over the run: `perform_tame` says of one request that it
touches no links but those of its namespace. -/
theorem tags_stay_inside {store : TagStore} {steps : List TagStep} (start : store.Inside)
    (own : ∀ step ∈ steps, step.request.OwnTarget store) :
    (afterSteps store steps).Inside ∧
      ∀ before step, (before, step) ∈ transitions store steps →
        let after := (step.request.perform step.inputs before).2
        before.Inside ∧
        (∀ uid device, before.devices.find uid = some device →
          device.tenantID ≠ step.request.tenantID →
          after.tagsOfDevice uid = before.tagsOfDevice uid) ∧
        ∀ primary key, before.publicKeys.find primary = some key →
          key.tenantID ≠ step.request.tenantID →
          after.tagsOfKey primary = before.tagsOfKey primary := by
  induction steps generalizing store with
  | nil => exact ⟨start, fun _ _ member => by cases member⟩
  | cons step rest ih =>
    have tame := TagRequest.perform_tame start (own step List.mem_cons_self) step.inputs
    obtain ⟨ends, later⟩ := ih tame.inside fun next member =>
      (TagRequest.ownTarget_congr tame.devices).mpr (own next (List.mem_cons_of_mem step member))
    constructor
    · exact ends
    · intro before taken member
      rcases List.mem_cons.mp member with same | after
      · cases same
        exact ⟨start, fun _ _ => tame.tagsOfDevice_eq, fun _ _ => tame.tagsOfKey_eq⟩
      · exact later before taken after

/-! ## Two namespaces -/

/-- An accepted device of a namespace. -/
def plainDevice (tenantID uid : String) : Device := { webDevice with uid, tenantID, name := uid }

/-- Two namespaces. Each has a device, and both have the same public key. -/
def twoNamespaces : TagStore where
  namespaces := ⟨[plainNamespace "acme", plainNamespace "beta"], by decide⟩
  devices := ⟨[plainDevice "acme" "db", plainDevice "beta" "web"], by decide⟩
  tags := .empty
  deviceTags := []
  publicKeys := ⟨[⟨"fp", "acme", ""⟩, ⟨"fp", "beta", ""⟩], by decide⟩
  publicKeyTags := []
  accessPolicies := .empty
  accessPolicyTags := []
  deviceTagged := by decide
  keyTagged := by decide
  policyTagged := by decide

/-- There are no links yet. -/
theorem twoNamespaces_inside : twoNamespaces.Inside := by
  constructor <;> (intro row member; cases member)

/-- A request without faults, with the identifier of the tag that it may create. -/
def undisturbed (request : TagRequest) (freshID : String) : TagStep :=
  ⟨request, fun _ => ⟨none, freshID⟩, none, none⟩

/-- A tag is created and put on the device and the key of its namespace. -/
def ownTargets : List TagStep :=
  [undisturbed (.createTag "acme" "prod") "t1",
    undisturbed (.pushTagTo .device "acme" "prod" "db") "",
    undisturbed (.pushTagTo .publicKey "acme" "prod" "fp") ""]

/-- The tag is on the device and the key of its namespace, and only there. -/
theorem tags_stay_inside_acme :
    let after := afterSteps twoNamespaces ownTargets
    (["db", "web"].map fun uid => (after.tagsOfDevice uid).map Tag.name) = [["prod"], []] ∧
    (["acme", "beta"].map fun tenantID => (after.tagsOfKey ("fp", tenantID)).map Tag.name) =
      [["prod"], []] ∧ after.Inside := by
  refine ⟨by decide +kernel, by decide +kernel, ?_⟩
  have own : ∀ step ∈ ownTargets, step.request.OwnTarget twoNamespaces := by
    intro step member
    simp only [ownTargets, List.mem_cons, List.not_mem_nil, or_false] at member
    rcases member with rfl | rfl | rfl
    · trivial
    · exact (by decide +kernel :
        ((twoNamespaces.devices.find "db").all fun device => device.tenantID = "acme") = true)
    · trivial
  exact (tags_stay_inside twoNamespaces_inside own).1

/-- A tag is created and put on the device of the other namespace. -/
def foreignTarget : List TagStep :=
  [undisturbed (.createTag "acme" "prod") "t1",
    undisturbed (.pushTagTo .device "acme" "prod" "web") ""]

/-- The device of the other namespace has the tag, and its row leads out of its namespace. -/
theorem foreign_device_gets_tag :
    twoNamespaces.Inside ∧
    (foreignTarget.map fun step => step.request.tenantID) = ["acme", "acme"] ∧
    ((twoNamespaces.devices.find "web").map Device.tenantID) = some "beta" ∧
    twoNamespaces.tagsOfDevice "web" = [] ∧
    (afterSteps twoNamespaces foreignTarget).tagsOfDevice "web" = [⟨"t1", "acme", "prod"⟩] ∧
    ¬ (afterSteps twoNamespaces foreignTarget).Inside := by
  refine ⟨twoNamespaces_inside, rfl, by decide +kernel, rfl, by decide +kernel, ?_⟩
  intro inside
  obtain ⟨tag, found, home⟩ := inside.devices ⟨"web", "t1"⟩ (by decide +kernel)
  have linked : (afterSteps twoNamespaces foreignTarget).tags.find "t1" =
      some ⟨"t1", "acme", "prod"⟩ := by decide +kernel
  have housed : (afterSteps twoNamespaces foreignTarget).deviceHome ⟨"web", "t1"⟩ = some "beta" := by
    decide +kernel
  cases found
  exact absurd home (by decide)

end ShellHub.Tags
