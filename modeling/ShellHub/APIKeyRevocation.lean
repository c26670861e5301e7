import ShellHub.APIKeys

/-!
# Revoking an API key

A key that was deleted, or whose role was lowered, may still be in the cache. Its entry lives for
two minutes after the last write, but every use of the key writes the entry again. The old key is
therefore out of use once it has not been presented for two minutes after the change, unless by
calls that did not find it in the cache. Until then it is not: a key that is presented often enough
outlives its deletion.

The proof keeps two bounds along a run: how far the stored rows of a key reach, and how far a
cached copy reaches that lives beyond a given time. A bound is a rank that a role must not exceed,
and no bound at all means that there is no such key.
-/

namespace ShellHub.APIKeys

open Programs Tables Caches
open Roles (Role)
open Namespaces (StoreError)

/-- The key's role has at most the rank of the bound. Without a bound no key is within it. -/
def APIKey.Within (apiKey : APIKey) (bound : Option Nat) : Prop :=
  ∃ limit ∈ bound, apiKey.role.code ≤ limit

/-- Every role is within the rank of an owner. -/
theorem APIKey.within_owner (apiKey : APIKey) : apiKey.Within (some Role.owner.code) :=
  ⟨_, rfl, by cases apiKey.role <;> decide⟩

/-- A role without authority over another one has no higher rank. -/
theorem code_le_of_not_hasAuthority {active passive : Role}
    (weaker : ¬ active.hasAuthority passive) : active.code ≤ passive.code := by
  revert weaker
  cases active <;> cases passive <;> decide

/-- The cap of a role never raises it. -/
theorem APIKey.Within.capped {apiKey : APIKey} {bound : Option Nat} (within : apiKey.Within bound)
    (creatorRole : Role) : (capped apiKey creatorRole).Within bound := by
  obtain ⟨limit, present, low⟩ := within
  refine ⟨limit, present, Nat.le_trans ?_ low⟩
  unfold APIKeys.capped
  split
  · exact Nat.le_refl _
  · rename_i weaker
    exact code_le_of_not_hasAuthority weaker

/-- An update is within a bound if both rows are. -/
theorem APIKey.Within.updating {old new : APIKey} {bound : Option Nat} (before : old.Within bound)
    (given : new.Within bound) : (old.updating new).Within bound := by
  have role : (old.updating new).role = if new.role = .invalid then old.role else new.role := rfl
  rw [APIKey.Within, role]
  split
  · exact before
  · exact given

namespace Vault

/-- Every stored row with a digest is within a bound. -/
def Grants (vault : Vault) (digest : String) (bound : Option Nat) : Prop :=
  ∀ row ∈ vault.keys.rows, row.id = digest → row.Within bound

/-- What is cached under a secret is dropped by a given time, or it is within a bound. -/
def Holds (vault : Vault) (key : String) (time : Nat) (bound : Option Nat) : Prop :=
  ∀ entry, vault.cache key = some entry → entry.expiresAt ≤ time ∨ entry.value.Within bound

/-- A name of a namespace is the name of a key with the digest. -/
def Addresses (vault : Vault) (tenantID name digest : String) : Prop :=
  ∃ row, vault.named tenantID name = some row ∧ row.id = digest

/-- Only one namespace has a key with the digest. -/
def Sole (vault : Vault) (tenantID digest : String) : Prop :=
  ∀ row ∈ vault.keys.rows, row.id = digest → row.tenantID = tenantID

/-- A row found by its name is stored. -/
theorem named_mem {vault : Vault} {tenantID name : String} {row : APIKey}
    (found : vault.named tenantID name = some row) :
    row ∈ vault.keys.rows ∧ row.tenantID = tenantID := by
  refine ⟨List.mem_of_find?_eq_some found, ?_⟩
  have matching := List.find?_some found
  simp only [Bool.and_eq_true, decide_eq_true_eq] at matching
  exact matching.1

end Vault

/-! ## Leases -/

/-- What is known while an operation runs. The operation uses the key before a pause (`early`), or
without reading a copy from before it (`late`). `stored` bounds the rows of the key, and `cached` the copies that outlive the
pause. `targets` are the names under which the key is found before the operation changes rows. -/
structure Lease where
  key : String
  digest : String
  early : Prop
  late : Prop
  stored : Option Nat
  cached : Option Nat
  targets : String → String → Prop

namespace Lease

variable (lease : Lease)

/-- The contract of an operation under a lease. It caches copies beyond the pause only within the
bound, and it writes rows only within theirs. The ghost state says that no row was written yet. -/
def contract : Contract Call Call.Reply Bool where
  allowed := fun _ request =>
    match request with
    | .cacheSet key apiKey => key = lease.key →
        (lease.late → apiKey.Within lease.cached) ∧ (lease.early ∨ apiKey.Within lease.cached)
    | .apiKeyUpdate apiKey => apiKey.id = lease.digest → apiKey.Within lease.stored
    | _ => True
  yields := fun fresh request =>
    match request with
    | .cacheGet key => fun reply next => next = fresh ∧ ∀ apiKey, reply = .ok (some apiKey) →
        key = lease.key → lease.late → apiKey.Within lease.cached
    | .apiKeyResolveID digest => fun reply next => next = fresh ∧ ∀ apiKey, reply = .ok apiKey →
        digest = lease.digest → apiKey.Within lease.stored
    | .apiKeyResolveName tenantID name => fun reply next => next = fresh ∧
        ∀ apiKey, reply = .ok apiKey → apiKey.id = lease.digest →
          apiKey.Within lease.stored ∧ (fresh → lease.targets tenantID name)
    | .apiKeyUpdate _ | .apiKeyDelete _ => fun _ next => next = false
    | _ => fun _ next => next = fresh

/-- The vault as a lease knows it, in an operation that has started at a given time. -/
structure Fits (quiet start : Nat) (vault : Vault) (fresh : Bool) : Prop where
  grants : vault.Grants lease.digest lease.stored
  holds : vault.Holds lease.key (quiet + cacheTTL) lease.cached
  clean : lease.late → vault.Holds lease.key start lease.cached
  targets : fresh → ∀ tenantID name, vault.Addresses tenantID name lease.digest →
    lease.targets tenantID name

/-- Surroundings within a span of time. -/
abbrev During (start finish : Nat) :=
  { around : Surroundings // start ≤ around.now ∧ around.now ≤ finish }

variable {lease} {quiet start : Nat} {vault : Vault} {fresh : Bool}

/-- Rows that were written over are no longer found under their old names. -/
theorem Fits.stale (fits : lease.Fits quiet start vault fresh) :
    lease.Fits quiet start vault false :=
  ⟨fits.grants, fits.holds, fits.clean, by simp⟩

/-- A call that has its effect keeps the lease. -/
theorem Fits.perform (fits : lease.Fits quiet start vault fresh) (request : Call)
    {around : Surroundings} (begun : start ≤ around.now) (early : lease.early → around.now ≤ quiet)
    (allowed : lease.contract.allowed fresh request) :
    ∃ next, lease.contract.yields fresh request (vault.perform around request).1 next ∧
      lease.Fits quiet start (vault.perform around request).2 next := by
  cases request with
  | cacheGet key =>
    refine ⟨fresh, ⟨rfl, ?_⟩, fits⟩
    intro apiKey answer same after
    obtain rfl : key = lease.key := same
    obtain ⟨entry, present, alive, rfl⟩ := Cache.get_eq_some.mp (Except.ok.inj answer)
    rcases fits.clean after entry present with dropped | within
    · exact absurd (Nat.le_trans dropped begun) (Nat.not_le.mpr alive)
    · exact within
  | cacheSet key apiKey =>
    by_cases same : lease.key = key
    · subst same
      obtain ⟨clean, written⟩ := allowed rfl
      refine ⟨fresh, rfl, fits.grants, fun entry present => ?_, fun after entry present => ?_,
        fits.targets⟩ <;>
        simp only [Vault.perform, Cache.set, Function.update_self, Option.some.injEq] at present <;>
        subst present
      · rcases written with before | within
        · exact .inl (Nat.add_le_add_right (early before) _)
        · exact .inr within
      · exact .inr (clean after)
    · have untouched : (vault.perform around (.cacheSet key apiKey)).2.cache lease.key =
          vault.cache lease.key := Function.update_of_ne same ..
      refine ⟨fresh, rfl, fits.grants, fun entry present => ?_, fun after entry present => ?_,
        fits.targets⟩
      · exact fits.holds entry (untouched ▸ present)
      · exact fits.clean after entry (untouched ▸ present)
  | apiKeyResolveID digest =>
    simp only [Vault.perform]
    split
    · exact ⟨fresh, ⟨rfl, by simp⟩, fits⟩
    · rename_i row found
      refine ⟨fresh, ⟨rfl, ?_⟩, fits⟩
      rintro _ ⟨⟩ rfl
      have member := List.mem_filter.mp (List.mem_of_getElem? found)
      exact fits.grants row member.1 (of_decide_eq_true member.2)
  | apiKeyResolveName tenantID name =>
    simp only [Vault.perform]
    split
    · exact ⟨fresh, ⟨rfl, by simp⟩, fits⟩
    · rename_i row found
      refine ⟨fresh, ⟨rfl, ?_⟩, fits⟩
      rintro _ ⟨⟩ same
      refine ⟨fits.grants row (Vault.named_mem found).1 same, ?_⟩
      intro unwritten
      exact fits.targets unwritten tenantID name ⟨row, found, same⟩
  | apiKeyUpdate apiKey =>
    simp only [Vault.perform]
    split
    · exact ⟨false, rfl, fits.stale⟩
    · rename_i old found
      split
      · exact ⟨false, rfl, fits.stale⟩
      refine ⟨false, rfl, ?_, fits.holds, fits.clean, by simp⟩
      intro row member same
      rcases Table.mem_put member with rfl | ⟨stored, _⟩
      · obtain ⟨stored, keys⟩ := Table.find_eq_some.mp found
        have digests : old.id = apiKey.id := (Prod.mk.inj keys).1
        exact (fits.grants old stored same).updating (allowed (digests ▸ same))
      · exact fits.grants row stored same
  | apiKeyDelete apiKey =>
    simp only [Vault.perform]
    split
    · exact ⟨false, rfl, fits.stale⟩
    · refine ⟨false, rfl, ?_, fits.holds, fits.clean, by simp⟩
      intro row member same
      exact fits.grants row (List.mem_of_mem_filter member) same
  | apiKeyConflicts tenantID name | resolveNamespaceRole tenantID userID
  | resolveActingMember tenantID actorID role | clockNow => exact ⟨fresh, rfl, fits⟩

/-- A call that fails keeps the lease. -/
theorem Fits.failure (fits : lease.Fits quiet start vault fresh) (request : Call) {error : StoreError}
    {reply : request.Reply} (failed : failure error request = some reply) :
    ∃ next, lease.contract.yields fresh request reply next ∧ lease.Fits quiet start vault next := by
  cases request <;> cases failed
  case cacheGet | apiKeyResolveID | apiKeyResolveName => exact ⟨fresh, ⟨rfl, by simp⟩, fits⟩
  case apiKeyUpdate | apiKeyDelete => exact ⟨false, rfl, fits.stale⟩
  case cacheSet | apiKeyConflicts => exact ⟨fresh, rfl, fits⟩

/-- The vault keeps a lease while an operation runs. -/
theorem realized (lease : Lease) {quiet start finish : Nat}
    (early : lease.early → finish ≤ quiet) :
    Realizes (fun request (around : During start finish) => meaning request around.1)
      lease.contract (lease.Fits quiet start) := by
  rintro vault fresh request ⟨around, begun, ended⟩ fits allowed
  simp only [meaning]
  split
  · rename_i reply failed
    obtain ⟨error, -, answer⟩ := Option.bind_eq_some_iff.mp failed
    exact fits.failure request answer
  · exact fits.perform request begun (fun before => Nat.le_trans ended (early before)) allowed

/-! ## Operations under a lease -/

/-- An authentication with another secret is no concern of the lease. With the secret itself it
returns a key within the bound if it reads no copy from before the pause. -/
theorem authAPIKey_meets (lease : Lease) {hash : String → String} {key : String} {fresh : Bool}
    (digest : lease.digest = hash lease.key)
    (timed : key = lease.key → lease.early ∨ lease.late)
    (settled : lease.late → lease.stored = lease.cached) :
    (authAPIKey hash key).Meets lease.contract fresh fun result _ =>
      key = lease.key → lease.late → ∀ apiKey, result = .ok apiKey →
        apiKey.Within lease.cached := by
  refine .perform trivial ?_
  rintro (error | cached) fresh ⟨rfl, found⟩
  · rintro - - _ ⟨⟩
  have loaded : (loadAPIKey (hash key) (cached.filter fun apiKey => apiKey.id ≠ "")).Meets
      lease.contract fresh fun result _ => key = lease.key → lease.late →
        ∀ apiKey, result = .ok apiKey → apiKey.Within lease.cached := by
    unfold loadAPIKey
    split
    · rename_i apiKey present
      rintro same after _ ⟨⟩
      obtain ⟨stored, -⟩ := Option.filter_eq_some_iff.mp present
      exact found apiKey (congrArg Except.ok stored) same after
    · refine .perform trivial ?_
      rintro (error | apiKey) fresh ⟨rfl, resolved⟩
      · rintro - - _ ⟨⟩
      · rintro rfl after _ ⟨⟩
        exact settled after ▸ resolved apiKey rfl digest.symm
  refine loaded.bind ?_
  rintro (error | apiKey) fresh within
  · rintro - - _ ⟨⟩
  refine .perform trivial ?_
  rintro now fresh rfl
  split
  · rintro - - _ ⟨⟩
  refine .perform ?_ ?_
  · intro same
    have clean : lease.late → apiKey.Within lease.cached := fun after =>
      within same after apiKey rfl
    exact ⟨clean, (timed same).imp_right clean⟩
  rintro written fresh rfl
  refine ⟨trivial, ?_⟩
  rintro (_ | creatorRole) fresh rfl
  · rintro - - _ ⟨⟩
  · rintro same after _ ⟨⟩
    exact (within same after apiKey rfl).capped creatorRole

/-- A change of the key itself stays within the bound if the role it asks for does. -/
theorem updateAPIKey_meets (lease : Lease) {request : UpdateAPIKey}
    (lawful : lease.targets request.tenantID request.currentName →
      ∃ limit ∈ lease.stored, request.role.code ≤ limit) :
    (updateAPIKey request).Meets lease.contract true fun _ _ => True := by
  unfold updateAPIKey
  split
  · trivial
  refine .perform trivial ?_
  rintro (_ | _) fresh rfl
  · trivial
  refine .perform trivial ?_
  rintro (error | apiKey) fresh ⟨rfl, resolved⟩
  · trivial
  have checked : (nameConflicts request apiKey).Meets lease.contract true
      fun _ _ => True := by
    unfold nameConflicts
    split
    · refine ⟨trivial, ?_⟩
      rintro (error | _) _ _ <;> trivial
    · trivial
  refine checked.bind ?_
  rintro (_ | _) fresh _
  · simp only [Bool.false_eq_true, if_false]
    refine .perform ?_ ?_
    · intro same
      obtain ⟨within, targets⟩ := resolved apiKey rfl same
      unfold UpdateAPIKey.patch APIKey.Within
      dsimp only
      split
      · exact lawful (targets rfl)
      · exact within
    · rintro (error | _) _ _ <;> trivial
  · trivial

/-- A deletion makes no call that a lease forbids: it writes no row and caches no copy. -/
theorem deleteAPIKey_meets (lease : Lease) (tenantID name : String) (fresh : Bool) :
    (deleteAPIKey tenantID name).Meets lease.contract fresh fun _ _ => True := by
  unfold deleteAPIKey
  split
  · trivial
  refine .perform trivial ?_
  rintro (error | apiKey) fresh _
  · trivial
  refine ⟨trivial, ?_⟩
  rintro (error | _) _ _ <;> trivial

/-- What one step keeps, and what an authentication after the pause answers. -/
theorem Fits.step {lease : Lease} {hash : String → String} {quiet : Nat} {vault : Vault}
    {step : Step} (fits : lease.Fits quiet step.start vault true)
    (digest : lease.digest = hash lease.key)
    (timed : step.op = .authAPIKey lease.key → lease.early ∨ lease.late)
    (early : lease.early → step.finish ≤ quiet)
    (settled : lease.late → lease.stored = lease.cached)
    (lawful : ∀ request, step.op = .updateAPIKey request →
      lease.targets request.tenantID request.currentName →
        ∃ limit ∈ lease.stored, request.role.code ≤ limit) :
    (∃ fresh, lease.Fits quiet step.start (step.apply hash vault) fresh) ∧
      (step.op = .authAPIKey lease.key → lease.late →
        ∀ found, step.answer hash vault = .ok found → ∃ apiKey ∈ found,
          apiKey.Within lease.cached) := by
  have meets : (step.op.program hash).Meets lease.contract true fun result _ =>
      step.op = .authAPIKey lease.key → lease.late →
        ∀ found, result = .ok found → ∃ apiKey ∈ found, apiKey.Within lease.cached := by
    cases operation : step.op with
    | authAPIKey key =>
      have known : key = lease.key → lease.early ∨ lease.late := fun same =>
        timed (by rw [operation, same])
      refine (authAPIKey_meets lease digest known settled).bind ?_
      rintro (error | apiKey) fresh within
      · rintro - - _ ⟨⟩
      · rintro ⟨⟩ after _ ⟨⟩
        exact ⟨apiKey, rfl, within rfl after apiKey rfl⟩
    | updateAPIKey request =>
      refine (updateAPIKey_meets lease (lawful request operation)).bind ?_
      rintro result fresh - ⟨⟩
    | deleteAPIKey tenantID name =>
      refine (deleteAPIKey_meets lease tenantID name true).bind ?_
      rintro result fresh - ⟨⟩
  obtain ⟨⟨fresh, answered, kept⟩, -⟩ := meets.run (lease.realized early) fits
    fun index => ⟨step.inputs index, step.inside index⟩
  rw [run_comap meaning] at answered kept
  exact ⟨⟨fresh, kept⟩, answered⟩

end Lease

/-! ## Before the change -/

/-- As long as all operations end before a moment, no cached copy outlives the pause after it. -/
theorem holds_before (hash : String → String) {key : String} {quiet : Nat} {steps : List Step}
    {vault : Vault} (ended : ∀ step ∈ steps, step.finish ≤ quiet)
    (holds : vault.Holds key (quiet + cacheTTL) none) :
    (after hash vault steps).Holds key (quiet + cacheTTL) none := by
  induction steps generalizing vault with
  | nil => exact holds
  | cons step rest ih =>
    obtain ⟨first, others⟩ := List.forall_mem_cons.mp ended
    let lease : Lease :=
      { key, digest := hash key, early := True, late := False
        stored := some Role.owner.code, cached := none, targets := fun _ _ => True }
    have fits : lease.Fits quiet step.start vault true :=
      ⟨fun row _ _ => row.within_owner, holds, False.elim, fun _ _ _ _ => trivial⟩
    have ranked : ∀ role : Role, role.code ≤ Role.owner.code := by
      intro role
      cases role <;> decide
    obtain ⟨⟨_, kept⟩, -⟩ := fits.step rfl (fun _ => .inl trivial) (fun _ => first) False.elim
      (fun request _ _ => ⟨_, rfl, ranked request.role⟩)
    exact ih others kept.holds

/-! ## The change -/

/-- The contract of a change of the key with a given name. The ghost state says that the change was
made. -/
def changing (tenantID name digest : String) (bound : Option Nat) :
    Contract Call Call.Reply Bool where
  allowed := fun done request =>
    match request with
    | .apiKeyUpdate apiKey => done = false ∧ apiKey.id = digest ∧ apiKey.tenantID = tenantID ∧
        apiKey.role ≠ .invalid ∧ apiKey.Within bound
    | .apiKeyDelete apiKey => done = false ∧ apiKey.id = digest ∧ apiKey.tenantID = tenantID
    | _ => True
  yields := fun done request =>
    match request with
    | .apiKeyResolveName tenant wanted => fun reply next => next = done ∧
        ∀ apiKey, reply = .ok apiKey → done = false → tenant = tenantID → wanted = name →
          apiKey.id = digest ∧ apiKey.tenantID = tenantID
    | .apiKeyUpdate _ | .apiKeyDelete _ => fun reply next => next = reply.isOk
    | _ => fun _ next => next = done

/-- The vault before and after the change. -/
structure Changing (tenantID name digest : String) (bound : Option Nat) (vault : Vault)
    (done : Bool) : Prop where
  before : done = false → vault.Sole tenantID digest ∧
    ∀ row, vault.named tenantID name = some row → row.id = digest
  made : done = true → vault.Grants digest bound

section Change

variable {tenantID name digest : String} {bound : Option Nat}

variable {vault : Vault} {done : Bool}

/-- A change of a key by its name starts from the vault in which the name is found. -/
theorem Changing.start (addresses : vault.Addresses tenantID name digest)
    (sole : vault.Sole tenantID digest) : Changing tenantID name digest bound vault false := by
  obtain ⟨row, found, same⟩ := addresses
  refine ⟨fun _ => ⟨sole, ?_⟩, by simp⟩
  intro other present
  obtain rfl := Option.some.inj (found.symm.trans present)
  exact same

/-- A call that fails changes nothing. -/
theorem Changing.failure (change : Changing tenantID name digest bound vault done) (request : Call)
    {error : StoreError} {reply : request.Reply} (failed : failure error request = some reply)
    (allowed : (changing tenantID name digest bound).allowed done request) :
    ∃ next, (changing tenantID name digest bound).yields done request reply next ∧
      Changing tenantID name digest bound vault next := by
  cases request <;> cases failed
  case apiKeyResolveName => exact ⟨done, ⟨rfl, by simp⟩, change⟩
  case apiKeyUpdate | apiKeyDelete => exact ⟨false, rfl, allowed.1 ▸ change⟩
  all_goals exact ⟨done, rfl, change⟩

/-- A write of the key leaves only rows within the bound, and so does its deletion. -/
theorem Changing.perform (change : Changing tenantID name digest bound vault done)
    (around : Surroundings) (request : Call)
    (allowed : (changing tenantID name digest bound).allowed done request) :
    ∃ next, (changing tenantID name digest bound).yields done request
      (vault.perform around request).1 next ∧
        Changing tenantID name digest bound (vault.perform around request).2 next := by
  cases request with
  | apiKeyResolveName tenant wanted =>
    simp only [Vault.perform]
    split
    · exact ⟨done, ⟨rfl, by simp⟩, change⟩
    · rename_i row found
      refine ⟨done, ⟨rfl, ?_⟩, change⟩
      rintro _ ⟨⟩ unchanged rfl rfl
      exact ⟨(change.before unchanged).2 row found, (Vault.named_mem found).2⟩
  | apiKeyUpdate apiKey =>
    obtain ⟨rfl, digests, tenants, given, within⟩ := allowed
    simp only [Vault.perform]
    split
    · exact ⟨false, rfl, change⟩
    · rename_i old found
      split
      · exact ⟨false, rfl, change⟩
      refine ⟨true, rfl, by simp, fun _ row member same => ?_⟩
      rcases Table.mem_put member with rfl | ⟨stored, differs⟩
      · obtain ⟨limit, present, low⟩ := within
        exact ⟨limit, present, by simpa [APIKey.updating, given] using low⟩
      · -- another row with the digest would have the primary key of the changed one
        have tenant := (change.before rfl).1 row stored same
        have keys : old.primary = apiKey.primary := (Table.find_eq_some.mp found).2
        refine absurd ?_ differs
        show row.primary = old.primary
        rw [keys, APIKey.primary, APIKey.primary, same, digests, tenant, tenants]
  | apiKeyDelete apiKey =>
    obtain ⟨rfl, digests, tenants⟩ := allowed
    simp only [Vault.perform]
    split
    · exact ⟨false, rfl, change⟩
    refine ⟨true, rfl, by simp, fun _ row member same => ?_⟩
    obtain ⟨stored, differs⟩ := List.mem_filter.mp member
    have tenant := (change.before rfl).1 row stored same
    simp [APIKey.primary, same, digests, tenant, tenants] at differs
  | apiKeyResolveID digest =>
    simp only [Vault.perform]
    split <;> exact ⟨done, rfl, change⟩
  | cacheGet key => exact ⟨done, rfl, change⟩
  | cacheSet key apiKey => exact ⟨done, rfl, change.before, change.made⟩
  | apiKeyConflicts tenantID name | resolveNamespaceRole tenantID userID
  | resolveActingMember tenantID actorID role | clockNow => exact ⟨done, rfl, change⟩

/-- The vault does what the contract of a change says of its calls. -/
theorem changing_realized :
    Realizes meaning (changing tenantID name digest bound)
      (Changing tenantID name digest bound) := by
  rintro vault done request around change allowed
  simp only [meaning]
  split
  · rename_i reply failed
    obtain ⟨error, -, answer⟩ := Option.bind_eq_some_iff.mp failed
    exact change.failure request answer allowed
  · exact change.perform around request allowed

/-- A deletion that succeeds has deleted the row that its name was found for. -/
theorem deleteAPIKey_changes :
    (deleteAPIKey tenantID name).Meets (changing tenantID name digest bound) false
      fun result done => result.isOk → done = true := by
  unfold deleteAPIKey
  split
  · rintro ⟨⟩
  refine .perform trivial ?_
  rintro (error | apiKey) done ⟨rfl, resolved⟩
  · rintro ⟨⟩
  refine .perform ⟨rfl, resolved apiKey rfl rfl rfl rfl⟩ ?_
  rintro (error | _) done rfl
  · rintro ⟨⟩
  · exact fun _ => rfl

/-- A change that succeeds has written its role to the row that its name was found for. -/
theorem updateAPIKey_changes {request : UpdateAPIKey} (given : request.role ≠ .invalid) :
    (updateAPIKey request).Meets
      (changing request.tenantID request.currentName digest (some request.role.code)) false
      fun result done => result.isOk → done = true := by
  unfold updateAPIKey
  split
  · rintro ⟨⟩
  refine .perform trivial ?_
  rintro (_ | _) done rfl
  · rintro ⟨⟩
  refine .perform trivial ?_
  rintro (error | apiKey) done ⟨rfl, resolved⟩
  · rintro ⟨⟩
  obtain ⟨digests, tenants⟩ := resolved apiKey rfl rfl rfl rfl
  have checked : (nameConflicts request apiKey).Meets
      (changing request.tenantID request.currentName digest (some request.role.code)) false
      fun _ done => done = false := by
    unfold nameConflicts
    split
    · refine ⟨trivial, ?_⟩
      rintro (error | _) done rfl <;> rfl
    · rfl
  refine checked.bind ?_
  rintro (_ | _) done rfl
  · simp only [Bool.false_eq_true, if_false]
    refine .perform ⟨rfl, digests, tenants, ?_, _, rfl, ?_⟩ ?_
    · simp [UpdateAPIKey.patch, given]
    · simp [UpdateAPIKey.patch, given]
    · rintro (error | _) done rfl
      · rintro ⟨⟩
      · exact fun _ => rfl
  · rintro ⟨⟩

/-- After a change that succeeds, every row with the digest is within its bound. -/
theorem Step.grants_change {hash : String → String} {step : Step} {β : Type}
    {program : Service (Except APIKeyError β)} {answer : β → Option APIKey}
    (changes : program.Meets (changing tenantID name digest bound) false
      fun result done => result.isOk → done = true)
    (operation : step.op.program hash = program >>= fun result => pure (result.map answer))
    (succeeds : (step.answer hash vault).isOk)
    (addresses : vault.Addresses tenantID name digest) (sole : vault.Sole tenantID digest) :
    (step.apply hash vault).Grants digest bound := by
  have meets : (step.op.program hash).Meets (changing tenantID name digest bound) false
      fun result done => result.isOk → done = true := by
    rw [operation]
    refine changes.bind ?_
    rintro (error | _) done made
    · rintro ⟨⟩
    · exact fun _ => made rfl
  obtain ⟨⟨done, made, change⟩, -⟩ := meets.run changing_realized
    (.start addresses sole) step.inputs
  exact change.made (made succeeds)

end Change

/-! ## After the change -/

/-- No operation asks for a role above the given one for a key. -/
def Unraised (hash : String → String) (digest : String) (role : Role) :
    Vault → List Step → Prop
  | _, [] => True
  | vault, step :: rest =>
    (∀ request, step.op = .updateAPIKey request →
      vault.Addresses request.tenantID request.currentName digest →
        request.role.code ≤ role.code) ∧
      Unraised hash digest role (step.apply hash vault) rest

/-- A use of the key ends before a moment, starts two minutes after it, or does not find the key in
the cache. -/
def Step.Spares (key : String) (quiet : Nat) (vault : Vault) (step : Step) : Prop :=
  step.finish ≤ quiet ∨ quiet + cacheTTL ≤ step.start ∨ vault.cache.get key step.start = none

/-- For two minutes from a moment on, no use of the key finds it in the cache. -/
def Paused (hash : String → String) (key : String) (quiet : Nat) : Vault → List Step → Prop
  | _, [] => True
  | vault, step :: rest =>
    (step.op = .authAPIKey key → step.Spares key quiet vault) ∧
      Paused hash key quiet (step.apply hash vault) rest

/-- Rows and lasting copies of the key are within the same bound. -/
structure Revoked (hash : String → String) (key : String) (quiet : Nat) (bound : Option Nat)
    (vault : Vault) : Prop where
  grants : vault.Grants (hash key) bound
  holds : vault.Holds key (quiet + cacheTTL) bound

section Revocation

variable {hash : String → String} {key : String} {quiet : Nat} {bound : Option Nat} {vault : Vault}

/-- What one operation keeps of a revocation, and what it answers after the pause. A use that does
not find the key in the cache reads a row, and caches it within the bound. -/
theorem Revoked.step (revoked : Revoked hash key quiet bound vault) (step : Step)
    (paused : step.op = .authAPIKey key → step.Spares key quiet vault)
    (lawful : ∀ request limit, step.op = .updateAPIKey request → bound = some limit →
      vault.Addresses request.tenantID request.currentName (hash key) →
        request.role.code ≤ limit) :
    Revoked hash key quiet bound (step.apply hash vault) ∧
      (step.op = .authAPIKey key → quiet + cacheTTL ≤ step.start →
        ∀ found, step.answer hash vault = .ok found → ∃ apiKey ∈ found, apiKey.Within bound) := by
  let lease : Lease :=
    { key, digest := hash key, early := step.finish ≤ quiet
      late := quiet + cacheTTL ≤ step.start ∨ vault.cache.get key step.start = none
      stored := bound, cached := bound
      targets := fun tenantID name => vault.Addresses tenantID name (hash key) }
  have clean : lease.late → vault.Holds key step.start bound := by
    rintro (after | missing) entry present
    · exact (revoked.holds entry present).imp_left fun dropped => Nat.le_trans dropped after
    · refine .inl (Nat.not_lt.mp fun alive => ?_)
      cases missing.symm.trans (Cache.get_eq_some.mpr ⟨entry, present, alive, rfl⟩)
  have fits : lease.Fits quiet step.start vault true :=
    ⟨revoked.grants, revoked.holds, clean, fun _ _ _ addressed => addressed⟩
  obtain ⟨⟨_, kept⟩, answered⟩ := fits.step rfl paused id (fun _ => rfl) (by
    rintro request operation ⟨row, found, same⟩
    -- a row with the digest exists, so there is a bound
    obtain ⟨limit, present, -⟩ := revoked.grants row (Vault.named_mem found).1 same
    exact ⟨limit, present, lawful request limit operation present ⟨row, found, same⟩⟩)
  exact ⟨⟨kept.grants, kept.holds⟩, fun uses after => answered uses (.inl after)⟩

/-- A deletion lasts whatever is asked for, and a lower role as long as no higher one is. -/
theorem Revoked.lasts {steps : List Step} (revoked : Revoked hash key quiet bound vault)
    (paused : Paused hash key quiet vault steps)
    (unraised : ∀ limit, bound = some limit → ∃ role : Role, role.code = limit ∧
      Unraised hash (hash key) role vault steps) :
    Revoked hash key quiet bound (after hash vault steps) := by
  induction steps generalizing vault with
  | nil => exact revoked
  | cons step rest ih =>
    refine ih (revoked.step step paused.1 ?_).1 paused.2 ?_
    · rintro request limit operation limited addressed
      obtain ⟨role, rfl, unraised⟩ := unraised limit limited
      exact unraised.1 request operation addressed
    · intro limit limited
      obtain ⟨role, coded, unraised⟩ := unraised limit limited
      exact ⟨role, coded, unraised.2⟩

end Revocation

/-- A key that no use has found in the cache for two minutes after its deletion no longer
authenticates, and one that no use has found there for two minutes after its role was changed
authenticates with no higher role. Until the pause begins the copies in the cache are those of
before the change, and they end with the pause. After the change every row is within the new bound,
and so is every copy that a later use makes of it. -/
theorem revocation_takes_effect (hash : String → String) (key : String) (vault : Vault)
    (before between : List Step) (change use : Step) (quiet : Nat)
    (uncached : vault.cache key = none)
    (ordered : Ordered (before ++ change :: (between ++ [use])))
    (uses : use.op = .authAPIKey key) (begins : change.finish ≤ quiet)
    (ends : quiet + cacheTTL ≤ use.start)
    (paused : Paused hash key quiet (change.apply hash (after hash vault before)) between) :
    let changed := after hash vault before
    let later := after hash (change.apply hash changed) between
    (∀ tenantID name, change.op = .deleteAPIKey tenantID name →
      (change.answer hash changed).isOk → changed.Addresses tenantID name (hash key) →
      changed.Sole tenantID (hash key) → ¬ (use.answer hash later).isOk) ∧
    (∀ request, change.op = .updateAPIKey request → request.role ≠ .invalid →
      (change.answer hash changed).isOk →
      changed.Addresses request.tenantID request.currentName (hash key) →
      changed.Sole request.tenantID (hash key) →
      Unraised hash (hash key) request.role (change.apply hash changed) between →
      ∀ apiKey, use.answer hash later = .ok (some apiKey) →
        apiKey.role.code ≤ request.role.code) := by
  intro changed later
  have held : (change.apply hash changed).Holds key (quiet + cacheTTL) none := by
    have ended : ∀ step ∈ before ++ [change], step.finish ≤ quiet := by
      intro step member
      rcases List.mem_append.mp member with earlier | last
      · have precedes := (List.pairwise_append.mp ordered).2.2 step earlier change
          List.mem_cons_self
        have takes := change.inside 0
        omega
      · rw [List.mem_singleton.mp last]
        exact begins
    have start : vault.Holds key (quiet + cacheTTL) none := by
      intro entry present
      cases uncached.symm.trans present
    have kept := holds_before hash ended start
    rwa [after, List.foldl_append] at kept
  have revoked : ∀ bound, (change.apply hash changed).Grants (hash key) bound →
      Revoked hash key quiet bound (change.apply hash changed) := by
    intro bound grants
    refine ⟨grants, fun entry present => (held entry present).imp_right ?_⟩
    rintro ⟨_, ⟨⟩, _⟩
  refine ⟨?_, ?_⟩
  · intro tenantID name operation succeeds addresses sole answered
    have program : change.op.program hash = _ := congrArg (Operation.program hash) operation
    have deleted := (revoked none (Step.grants_change deleteAPIKey_changes program succeeds
      addresses sole)).lasts paused (by simp)
    cases answer : use.answer hash later with
    | error error =>
      rw [answer] at answered
      cases answered
    | ok found =>
      obtain ⟨_, _, _, ⟨⟩, _⟩ := (deleted.step use (fun _ => .inr (.inl ends)) (by simp)).2 uses ends
        found
        answer
  · intro request operation given succeeds addresses sole unraised apiKey answer
    have program : change.op.program hash = _ := congrArg (Operation.program hash) operation
    have lowered := (revoked _ (Step.grants_change (updateAPIKey_changes given) program succeeds
      addresses sole)).lasts paused fun limit limited => ⟨_, Option.some.inj limited, unraised⟩
    obtain ⟨_, ⟨⟩, _, ⟨⟩, low⟩ := (lowered.step use (fun _ => .inr (.inl ends)) (by simp [uses])).2
      uses ends (some apiKey) answer
    exact low

/-! ## A key that outlives its deletion -/

/-- A vault with one key. -/
def deployVault : Vault where
  keys := ⟨[⟨"secret", "deploy", "acme", .administrator, "user", 0⟩], by decide⟩
  cache := fun _ => none

/-- An operation that runs at one moment, without a fault. -/
def stepAt (time : Nat) (op : Operation) : Step where
  op := op
  start := time
  finish := time
  inputs := fun _ => ⟨none, time, 0, some .owner, true⟩
  inside := fun _ => ⟨Nat.le_refl _, Nat.le_refl _⟩

/-- The key is presented. -/
def presented (time : Nat) : Step := stepAt time (.authAPIKey "secret")

/-- The key is deleted. -/
def deleted (time : Nat) : Step := stepAt time (.deleteAPIKey "acme" "deploy")

/-- The role of the key is lowered. -/
def lowered (time : Nat) : Step :=
  stepAt time (.updateAPIKey ⟨"user", "acme", "deploy", "", .observer⟩)

/-- The vault after the key was presented for the first time. -/
def presentedVault : Vault := after id deployVault [presented 0]

/-- A key that is presented often enough still authenticates more than two minutes after it was
deleted, and keeps the role that it had more than two minutes after this was lowered. -/
theorem used_key_outlives_revocation :
    ((deleted 60).answer id presentedVault).isOk ∧ ((lowered 60).answer id presentedVault).isOk ∧
      (deleted 60).finish + cacheTTL < (presented 200).start ∧
      ((presented 200).answer id
        (after id ((deleted 60).apply id presentedVault) [presented 110])).isOk ∧
      ((presented 200).answer id
        (after id ((lowered 60).apply id presentedVault) [presented 110])).map
          (fun found => found.map APIKey.role) = .ok (some .administrator) := by
  decide +kernel

/-- A key that was not presented for two minutes after its deletion does not authenticate. -/
theorem revocation_takes_effect_unused :
    ((deleted 60).answer id presentedVault).isOk ∧
      ¬ ((presented 200).answer id (after id ((deleted 60).apply id presentedVault) [])).isOk := by
  have succeeds : ((deleted 60).answer id presentedVault).isOk := by decide +kernel
  have addresses : presentedVault.Addresses "acme" "deploy" "secret" :=
    ⟨⟨"secret", "deploy", "acme", .administrator, "user", 0⟩, by decide +kernel, rfl⟩
  have sole : presentedVault.Sole "acme" "secret" := by
    unfold Vault.Sole
    decide +kernel
  have ordered : Ordered ([presented 0] ++ deleted 60 :: ([] ++ [presented 200])) := by
    simp [Ordered, presented, deleted, stepAt]
  exact ⟨succeeds, (revocation_takes_effect id "secret" deployVault [presented 0] [] (deleted 60)
    (presented 200) 60 rfl ordered rfl (Nat.le_refl _) (by decide) trivial).1
      "acme" "deploy" rfl succeeds addresses sole⟩

end ShellHub.APIKeys
