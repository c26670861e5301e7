import ShellHub.APIKeyRevocation
import ShellHub.Sequences

/-!
# The rank of an API key

A key has the role it was given, but it never acts with more than its creator has. `AuthAPIKey`
looks up the creator's current role on every use, refuses the key if the creator has left, and caps
the role of the key. What it caches is the key as it was read, before the cap. The rank it returns
is therefore the lower one of two: that of the key when it was last read from the store, and that of
the creator now.

The namespaces and the stored keys may change in any way between two calls. A history that no
service reads remembers for each secret the key that was last read from the store.
-/

namespace ShellHub.APIKeys

open Programs Tables Caches Sequences
open Roles (Role)
open Namespaces (StoreError Namespace)

/-- A role that is capped ranks with the lower one of the two. -/
theorem code_capped (apiKey : APIKey) (creatorRole : Role) :
    (capped apiKey creatorRole).role.code = min apiKey.role.code creatorRole.code := by
  have ranks : ∀ own creator : Role, creator.hasAuthority own = true → own.code ≤ creator.code := by
    intro own creator
    cases own <;> cases creator <;> decide
  unfold capped
  split
  · rename_i authority
    exact (Nat.min_eq_left (ranks apiKey.role creatorRole authority)).symm
  · rename_i weaker
    exact (Nat.min_eq_right (code_le_of_not_hasAuthority weaker)).symm

/-! ## Keys, namespaces, and what was read -/

/-- `ResolveNamespaceRole`, whose text `AuthAPIKey` reads back into a role. -/
def resolveNamespaceRole (namespaces : String → Option Namespace) (tenantID userID : String) :
    Option Role :=
  (namespaces tenantID).bind fun stored =>
    (stored.findMember userID).map fun member => Role.ofString member.role.string

/-- The calls of an operation that runs while the namespaces stay as they are. The key that the
    operation reads from the store is remembered. -/
def observed (namespaces : String → Option Namespace) :
    Meaning Call Call.Reply Surroundings (Vault × Option APIKey)
  | .resolveNamespaceRole tenantID userID, around, state =>
    (if around.fault.isSome then none else resolveNamespaceRole namespaces tenantID userID, state)
  | .apiKeyResolveID digest, around, (vault, read) =>
    match meaning (.apiKeyResolveID digest) around vault with
    | (.ok row, next) => (.ok row, next, some row)
    | (.error error, next) => (.error error, next, read)
  | request, around, (vault, read) =>
    ((meaning request around vault).1, (meaning request around vault).2, read)

structure House where
  vault : Vault
  namespaces : String → Option Namespace
  now : Nat
  /-- The key that was last read from the store for a secret. -/
  read : String → Option APIKey

inductive Event where
  | operation (step : Step)
  /-- The stored keys change: keys are created, or go with a member who leaves. -/
  | keys (keys : Table APIKey (String × String) APIKey.primary)
  /-- Members are added, removed, or get another role. -/
  | namespaces (namespaces : String → Option Namespace)

namespace House

variable (hash : String → String) (house : House)

/-- One operation, run alone. -/
def outcome (step : Step) : Outcome Call (Except APIKeyError (Option APIKey))
    (Vault × Option APIKey) :=
  run (observed house.namespaces) step.inputs (step.op.program hash) (house.vault, none)

/-- What was last read for each secret, after an operation. -/
def readAfter (step : Step) : String → Option APIKey :=
  match step.op, (house.outcome hash step).state.2 with
  | .authAPIKey key, some row => Function.update house.read key (some row)
  | _, _ => house.read

def next : Event → House
  | .operation step =>
    { house with
      vault := (house.outcome hash step).state.1
      now := step.finish
      read := house.readAfter hash step }
  | .keys keys => { house with vault := { house.vault with keys } }
  | .namespaces namespaces => { house with namespaces }

end House

/-- Operations follow one another in time. -/
def InTime (house : House) : Event → Prop
  | .operation step => house.now ≤ step.start
  | _ => True

/-! ## One authentication -/

/-- How far an authentication is. -/
inductive Lookup where
  | fresh
  | missed
  | read (row : APIKey)

namespace Lookup

/-- The row that was read, if one was. -/
def row : Lookup → Option APIKey
  | .read row => some row
  | .fresh | .missed => none

/-- The key in hand, which is what the history knows or what was read. -/
def inHand (known : Option APIKey) : Lookup → Option APIKey
  | .fresh => known
  | .missed => none
  | .read row => some row

/-- The contract of an authentication with a secret. `known` is the key last read for the secret,
and     `roles` are the current roles. -/
def contract (key : String) (known : Option APIKey) (roles : String → String → Option Role) :
    Contract Call Call.Reply Lookup where
  allowed := fun lookup request =>
    match request with
    | .cacheGet wanted => wanted = key ∧ lookup = .fresh
    | .cacheSet wanted apiKey => wanted = key ∧ lookup.inHand known = some apiKey
    | .apiKeyResolveID _ => lookup = .missed
    | .apiKeyUpdate _ | .apiKeyDelete _ => False
    | _ => True
  yields := fun lookup request =>
    match request with
    | .cacheGet _ => fun reply next =>
      ((∃ error, reply = .error error) ∧ next = lookup) ∨
      ((∃ apiKey, reply = .ok (some apiKey) ∧ apiKey.id ≠ "" ∧ known = some apiKey) ∧
        next = lookup) ∨
      ((∃ cached, reply = .ok cached ∧ cached.filter (fun apiKey => apiKey.id ≠ "") = none) ∧
        next = .missed)
    | .apiKeyResolveID _ => fun reply next =>
      match reply with
      | .ok row => next = .read row
      | .error _ => next = lookup
    | .resolveNamespaceRole tenantID userID => fun reply next => next = lookup ∧
      ∀ role, reply = some role → roles tenantID userID = some role
    | _ => fun _ next => next = lookup

end Lookup

/-- An authentication returns the key in hand, capped at the current role of its creator. -/
theorem authAPIKey_capped (hash : String → String) (key : String) (known : Option APIKey)
    (roles : String → String → Option Role) :
    (authAPIKey hash key).Meets (Lookup.contract key known roles) .fresh fun result lookup =>
      ∀ apiKey, result = .ok apiKey → ∃ row role, lookup.inHand known = some row ∧
        roles row.tenantID row.createdBy = some role ∧ apiKey = capped row role := by
  refine .perform ⟨rfl, rfl⟩ ?_
  intro reply lookup found
  have loaded : ∀ cached, reply = .ok cached →
      (loadAPIKey (hash key) (cached.filter fun apiKey => apiKey.id ≠ "")).Meets
        (Lookup.contract key known roles) lookup fun result lookup =>
          ∀ apiKey, result = .ok apiKey → lookup.inHand known = some apiKey := by
    rintro cached rfl
    rcases found with ⟨⟨error, ⟨⟩⟩, -⟩ | ⟨⟨apiKey, same, named, recorded⟩, rfl⟩ |
      ⟨⟨_, ⟨⟩, absent⟩, rfl⟩
    · cases same
      have kept : (some apiKey).filter (fun apiKey => apiKey.id ≠ "") = some apiKey := by
        simp [named]
      rw [kept]
      rintro _ ⟨⟩
      exact recorded
    · rw [absent]
      refine .perform rfl ?_
      rintro (error | row) lookup yielded
      · rintro _ ⟨⟩
      · rintro _ ⟨⟩
        cases yielded
        rfl
  cases reply with
  | error error => rintro _ ⟨⟩
  | ok cached =>
    refine (loaded cached rfl).bind ?_
    rintro (error | apiKey) lookup inHand
    · rintro _ ⟨⟩
    have own := inHand apiKey rfl
    refine .perform trivial ?_
    rintro now lookup rfl
    split
    · rintro _ ⟨⟩
    refine .perform ⟨rfl, own⟩ ?_
    rintro written lookup rfl
    refine .perform trivial ?_
    rintro (_ | role) lookup ⟨rfl, current⟩
    · rintro _ ⟨⟩
    · rintro _ ⟨⟩
      exact ⟨apiKey, role, own, current role rfl, rfl⟩

/-! ## What the vault keeps -/

/-- A cached copy that is still usable after a time is the key that was last read. -/
def Copies (read : String → Option APIKey) (time : Nat) (cache : Cache APIKey) (key : String) :
    Prop :=
  ∀ entry, cache key = some entry → entry.value.id ≠ "" → time < entry.expiresAt →
    read key = some entry.value

/-- The vault during an authentication with a secret. -/
structure Authenticating (house : House) (key : String) (start finish : Nat)
    (state : Vault × Option APIKey) (lookup : Lookup) : Prop where
  remembered : state.2 = lookup.row
  others : ∀ other, other ≠ key → Copies house.read start state.1.cache other
  own : ∀ entry, state.1.cache key = some entry → entry.value.id ≠ "" →
    match lookup with
    | .fresh => start < entry.expiresAt → house.read key = some entry.value
    | .missed => entry.expiresAt ≤ finish
    | .read row => finish < entry.expiresAt → entry.value = row

section Runs

variable {hash : String → String} {house : House}

/-- A call whose store or cache fails changes nothing. -/
theorem meaning_cases (request : Call) (around : Surroundings) (vault : Vault) :
    (∃ error reply, failure error request = some reply ∧
      meaning request around vault = (reply, vault)) ∨
      meaning request around vault = vault.perform around request := by
  unfold meaning
  split
  · rename_i reply failed
    obtain ⟨error, -, answer⟩ := Option.bind_eq_some_iff.mp failed
    exact .inl ⟨error, reply, answer, rfl⟩
  · exact .inr rfl

/-- The calls that neither write nor read a row by its digest. -/
def Call.Plain : Call → Prop
  | .cacheSet _ _ | .apiKeyUpdate _ | .apiKeyDelete _ | .apiKeyResolveID _ => False
  | _ => True

/-- A plain call changes nothing. -/
theorem observed_plain {request : Call} (plain : request.Plain)
    (namespaces : String → Option Namespace) (around : Surroundings)
    (state : Vault × Option APIKey) : (observed namespaces request around state).2 = state := by
  obtain ⟨vault, read⟩ := state
  have unchanged : (vault.perform around request).2 = vault := by
    cases request with
    | apiKeyResolveName tenantID name =>
      dsimp only [Vault.perform]
      split <;> rfl
    | cacheSet | apiKeyUpdate | apiKeyDelete | apiKeyResolveID => exact plain.elim
    | _ => rfl
  have kept : (meaning request around vault).2 = vault := by
    rcases meaning_cases request around vault with ⟨error, reply, -, same⟩ | same
    · rw [same]
    · rw [same, unchanged]
  cases request with
  | cacheSet | apiKeyUpdate | apiKeyDelete | apiKeyResolveID => exact plain.elim
  | resolveNamespaceRole tenantID userID => rfl
  | _ => exact Prod.ext kept rfl

/-- A row that is found by its digest is remembered. -/
theorem observed_resolveID (namespaces : String → Option Namespace) (digest : String)
    (around : Surroundings) (vault : Vault) (read : Option APIKey) :
    (∃ error, observed namespaces (.apiKeyResolveID digest) around (vault, read) =
      (.error error, vault, read)) ∨
    ∃ row ∈ vault.withDigest digest,
      observed namespaces (.apiKeyResolveID digest) around (vault, read) =
        (.ok row, vault, some row) := by
  dsimp only [observed]
  rcases meaning_cases (.apiKeyResolveID digest) around vault with
    ⟨error, reply, failed, same⟩ | same
  · cases failed
    rw [same]
    exact .inl ⟨error, rfl⟩
  · rw [same]
    dsimp only [Vault.perform]
    cases found : (vault.withDigest digest)[around.choice % (vault.withDigest digest).length]? with
    | none => exact .inl ⟨_, rfl⟩
    | some row => exact .inr ⟨row, List.mem_of_getElem? found, rfl⟩

/-- The vault keeps the contract of an authentication. -/
theorem authenticating_realized (house : House) (key : String) (start finish : Nat) :
    RealizesOn (fun around : Surroundings => start ≤ around.now ∧ around.now ≤ finish)
      (observed house.namespaces)
      (Lookup.contract key (house.read key) (resolveNamespaceRole house.namespaces))
      (Authenticating house key start finish) := by
  rintro ⟨vault, read⟩ lookup request around ⟨begun, ended⟩ keeping allowed
  have plainly : ∀ plain : request.Plain, ∀ next, lookup = next →
      Authenticating house key start finish
        (observed house.namespaces request around (vault, read)).2 next := by
    rintro plain next rfl
    rw [observed_plain plain]
    exact keeping
  cases request with
  | resolveNamespaceRole tenantID userID =>
    refine ⟨lookup, ⟨rfl, ?_⟩, keeping⟩
    intro role answer
    dsimp only [observed] at answer
    split at answer
    · cases answer
    · exact answer
  | apiKeyResolveID digest =>
    cases allowed
    rcases observed_resolveID house.namespaces digest around vault read with
      ⟨error, same⟩ | ⟨row, -, same⟩
    · rw [same]
      exact ⟨.missed, rfl, keeping⟩
    · rw [same]
      refine ⟨.read row, rfl, rfl, keeping.others, ?_⟩
      intro entry present named alive
      have dead := keeping.own entry present named
      omega
  | cacheGet wanted =>
    obtain ⟨rfl, rfl⟩ := allowed
    have plain : (Call.cacheGet wanted).Plain := trivial
    rw [observed_plain plain]
    rcases meaning_cases (.cacheGet wanted) around vault with ⟨error, reply, failed, same⟩ | same
    · cases failed
      refine ⟨.fresh, .inl ⟨⟨error, ?_⟩, rfl⟩, keeping⟩
      dsimp only [observed]
      rw [same]
    have answer : (observed house.namespaces (.cacheGet wanted) around (vault, read)).1 =
        .ok (vault.cache.get wanted around.now) := by
      dsimp only [observed]
      rw [same]
      rfl
    rw [answer]
    cases usable : (vault.cache.get wanted around.now).filter (fun apiKey => apiKey.id ≠ "") with
    | some apiKey =>
      obtain ⟨found, named⟩ := Option.filter_eq_some_iff.mp usable
      obtain ⟨entry, present, alive, rfl⟩ := Cache.get_eq_some.mp found
      have named : entry.value.id ≠ "" := of_decide_eq_true named
      have known := keeping.own entry present named (Nat.lt_of_le_of_lt begun alive)
      exact ⟨.fresh, .inr (.inl ⟨⟨entry.value, congrArg _ found, named, known⟩, rfl⟩), keeping⟩
    | none =>
      refine ⟨.missed, .inr (.inr ⟨⟨_, rfl, usable⟩, rfl⟩), keeping.remembered, keeping.others, ?_⟩
      intro entry present named
      by_contra alive
      have found : vault.cache.get wanted around.now = some entry.value :=
        Cache.get_eq_some.mpr ⟨entry, present, by omega, rfl⟩
      rw [found] at usable
      simp [named] at usable
  | cacheSet wanted apiKey =>
    obtain ⟨rfl, inHand⟩ := allowed
    refine ⟨lookup, rfl, ?_⟩
    rcases meaning_cases (.cacheSet wanted apiKey) around vault with
      ⟨error, reply, failed, same⟩ | same
    · dsimp only [observed]
      rw [same]
      exact keeping
    · dsimp only [observed]
      rw [same]
      refine ⟨keeping.remembered, ?_, ?_⟩
      · intro other different entry present
        simp only [Vault.perform, Cache.set, Function.update_of_ne different] at present
        exact keeping.others other different entry present
      · intro entry present named
        simp only [Vault.perform, Cache.set, Function.update_self, Option.some.injEq] at present
        subst present
        cases lookup with
        | fresh => exact fun _ => inHand
        | missed => cases inHand
        | read row => exact fun _ => (Option.some.inj inHand).symm
  | apiKeyUpdate apiKey | apiKeyDelete apiKey => exact allowed.elim
  | apiKeyResolveName tenantID name | apiKeyConflicts tenantID name
  | resolveActingMember tenantID actorID role | clockNow =>
    exact ⟨lookup, rfl, plainly trivial lookup rfl⟩

/-- What is known of the house between two operations. -/
def House.Faithful (house : House) : Prop :=
  ∀ key, Copies house.read house.now house.vault.cache key

/-- An authentication with a secret: what it returns, and what it leaves behind. -/
theorem authenticated (faithful : house.Faithful) {step : Step} {key : String}
    (operation : step.op = .authAPIKey key) (later : house.now ≤ step.start) :
    (house.next hash (.operation step)).Faithful ∧
    ∀ found, (house.outcome hash step).result = .ok found →
      ∃ row role, (house.next hash (.operation step)).read key = some row ∧
        resolveNamespaceRole house.namespaces row.tenantID row.createdBy = some role ∧
        found = some (capped row role) := by
  have order : step.start ≤ step.finish := (step.inside 0).1.trans (step.inside 0).2
  have meets : (step.op.program hash).Meets
      (Lookup.contract key (house.read key) (resolveNamespaceRole house.namespaces)) .fresh
      fun result lookup => ∀ found, result = .ok found →
        ∃ row role, lookup.inHand (house.read key) = some row ∧
          resolveNamespaceRole house.namespaces row.tenantID row.createdBy = some role ∧
          found = some (capped row role) := by
    rw [operation]
    refine (authAPIKey_capped hash key (house.read key) _).bind ?_
    rintro (error | apiKey) lookup answered
    · rintro _ ⟨⟩
    · rintro _ ⟨⟩
      obtain ⟨row, role, inHand, current, rfl⟩ := answered apiKey rfl
      exact ⟨row, role, inHand, current, rfl⟩
  have start : Authenticating house key step.start step.finish (house.vault, none) .fresh := by
    refine ⟨rfl, ?_, ?_⟩
    · intro other _ entry present named alive
      exact faithful other entry present named (Nat.lt_of_le_of_lt later alive)
    · intro entry present named alive
      exact faithful key entry present named (Nat.lt_of_le_of_lt later alive)
  obtain ⟨⟨lookup, answered, ends⟩, -⟩ :=
    meets.run_on (authenticating_realized house key step.start step.finish) start step.inside
  -- What was read in this call is what the history gets.
  have remembered : ∀ other, (house.next hash (.operation step)).read other =
      if other = key then lookup.row.or (house.read key) else house.read other := by
    intro other
    have read : (house.outcome hash step).state.2 = lookup.row := ends.remembered
    simp only [House.next, House.readAfter, operation, read]
    cases lookup with
    | read row =>
      by_cases same : other = key
      · subst same
        simp [Lookup.row]
      · simp [Lookup.row, same]
    | fresh | missed =>
      simp only [Lookup.row, Option.none_or]
      split
      · rename_i same
        rw [same]
      · rfl
  refine ⟨?_, ?_⟩
  · intro other entry present named alive
    rw [remembered]
    by_cases same : other = key
    · subst same
      rw [if_pos rfl]
      have own := ends.own entry present named
      change step.finish < entry.expiresAt at alive
      cases lookup with
      | fresh => exact own (Nat.lt_of_le_of_lt order alive)
      | missed =>
        omega
      | read row => rw [own alive]; rfl
    · rw [if_neg same]
      exact ends.others other same entry present named (Nat.lt_of_le_of_lt order alive)
  · intro found answer
    obtain ⟨row, role, inHand, current, rfl⟩ := answered found answer
    refine ⟨row, role, ?_, current, rfl⟩
    rw [remembered, if_pos rfl]
    cases lookup with
    | fresh => exact inHand
    | missed => cases inHand
    | read _ => exact inHand

/-- The calls of an operation that does not authenticate: they write no copy and read no row by its
    digest. -/
def Call.Uncopied : Call → Prop
  | .cacheSet _ _ | .apiKeyResolveID _ => False
  | _ => True

theorem updateAPIKey_uncopied (request : UpdateAPIKey) :
    (updateAPIKey request).Uses Call.Uncopied := by
  unfold updateAPIKey
  split
  · trivial
  refine Program.uses_perform_bind.mpr ⟨trivial, ?_⟩
  rintro (_ | _)
  · trivial
  refine Program.uses_perform_bind.mpr ⟨trivial, ?_⟩
  rintro (error | apiKey)
  · trivial
  have checked : (nameConflicts request apiKey).Uses Call.Uncopied := by
    unfold nameConflicts
    split
    · refine Program.uses_perform_bind.mpr ⟨trivial, ?_⟩
      rintro (error | _) <;> trivial
    · trivial
  refine checked.bind ?_
  rintro (_ | _)
  · refine Program.uses_perform_bind.mpr ⟨trivial, ?_⟩
    rintro (error | _) <;> trivial
  · trivial

theorem deleteAPIKey_uncopied (tenantID name : String) :
    (deleteAPIKey tenantID name).Uses Call.Uncopied := by
  unfold deleteAPIKey
  split
  · trivial
  refine Program.uses_perform_bind.mpr ⟨trivial, ?_⟩
  rintro (error | apiKey)
  · trivial
  refine Program.uses_perform_bind.mpr ⟨trivial, ?_⟩
  rintro (error | _) <;> trivial

/-- Such a call leaves the cache and the history alone. -/
theorem observed_uncopied (namespaces : String → Option Namespace) {request : Call}
    (around : Surroundings) (state : Vault × Option APIKey) (uncopied : request.Uncopied) :
    ((observed namespaces request around state).2.1.cache,
      (observed namespaces request around state).2.2) = (state.1.cache, state.2) := by
  obtain ⟨vault, read⟩ := state
  cases request with
  | cacheSet | apiKeyResolveID => exact uncopied.elim
  | apiKeyUpdate apiKey =>
    dsimp only [observed]
    rcases meaning_cases (.apiKeyUpdate apiKey) around vault with ⟨error, reply, -, same⟩ | same
    · rw [same]
    · rw [same]
      dsimp only [Vault.perform]
      split
      · rfl
      · split <;> rfl
  | apiKeyDelete apiKey =>
    dsimp only [observed]
    rcases meaning_cases (.apiKeyDelete apiKey) around vault with ⟨error, reply, -, same⟩ | same
    · rw [same]
    · rw [same]
      dsimp only [Vault.perform]
      split <;> rfl
  | cacheGet | apiKeyResolveName | apiKeyConflicts | resolveNamespaceRole | resolveActingMember
  | clockNow =>
    rw [observed_plain (by trivial)]

/-- Every operation keeps the copies faithful. -/
theorem House.Faithful.operation (faithful : house.Faithful) {step : Step}
    (later : house.now ≤ step.start) : (house.next hash (.operation step)).Faithful := by
  have order : step.start ≤ step.finish := (step.inside 0).1.trans (step.inside 0).2
  have aside : (step.op.program hash).Uses Call.Uncopied →
      (house.next hash (.operation step)).Faithful := by
    intro uses
    let view : Vault × Option APIKey → Cache APIKey × Option APIKey :=
      fun state => (state.1.cache, state.2)
    have unmoved : ∀ request around state, Call.Uncopied request →
        view (observed house.namespaces request around state).2 = view state :=
      fun request around state => observed_uncopied house.namespaces around state
    have kept := uses.run_eq unmoved step.inputs (house.vault, none)
    have cache : (house.outcome hash step).state.1.cache = house.vault.cache :=
      congrArg Prod.fst kept
    have unread : (house.outcome hash step).state.2 = none := congrArg Prod.snd kept
    intro key entry present named alive
    have history : (house.next hash (.operation step)).read = house.read := by
      simp only [House.next, House.readAfter, unread]
      cases step.op <;> rfl
    rw [history]
    change (house.outcome hash step).state.1.cache key = some entry at present
    rw [cache] at present
    exact faithful key entry present named (Nat.lt_of_le_of_lt (later.trans order) alive)
  cases operation : step.op with
  | authAPIKey key => exact (authenticated faithful operation later).1
  | updateAPIKey request =>
    apply aside
    rw [operation]
    exact (updateAPIKey_uncopied request).bind fun _ => trivial
  | deleteAPIKey tenantID name =>
    apply aside
    rw [operation]
    exact (deleteAPIKey_uncopied tenantID name).bind fun _ => trivial

/-- Nothing that happens makes the copies differ from what was read. -/
theorem House.Faithful.next (faithful : house.Faithful) {event : Event}
    (inTime : InTime house event) : (house.next hash event).Faithful := by
  cases event with
  | operation step => exact faithful.operation inTime
  | keys keys | namespaces namespaces => exact faithful

end Runs

/-- In every run that starts without cached keys, whatever happens to members and stored keys: a key
that authenticates has a creator who is a member now, and it ranks with the lower one of the role it
had when it was last read from the store and the creator's current role. Without the creator it does
not authenticate. Each event keeps the cached copies equal to what was read last, and every use asks
for the creator's role anew. -/
theorem api_keys_never_outrank (hash : String → String) (house : House)
    (uncached : ∀ key, house.vault.cache key = none) (events : List Event)
    (inTime : Along (House.next hash) InTime house events) :
    ∀ later ∈ visited (House.next hash) house events, ∀ (step : Step) (key : String),
      step.op = .authAPIKey key → later.now ≤ step.start →
      (∀ apiKey, (later.outcome hash step).result = .ok (some apiKey) →
        ∃ row role, (later.next hash (.operation step)).read key = some row ∧
          resolveNamespaceRole later.namespaces row.tenantID row.createdBy = some role ∧
          apiKey = { row with role := apiKey.role } ∧
          apiKey.role.code = min row.role.code role.code) ∧
      ∀ row, (later.next hash (.operation step)).read key = some row →
        resolveNamespaceRole later.namespaces row.tenantID row.createdBy = none →
        ∃ error, (later.outcome hash step).result = .error error := by
  have kept : ∀ house event, house.Faithful → InTime house event →
      (house.next hash event).Faithful := fun _ _ faithful => faithful.next
  have start : house.Faithful := by
    intro key entry present
    cases (uncached key).symm.trans present
  intro later member step key operation after
  have faithful := visited_keeps kept start inTime later member
  obtain ⟨-, answered⟩ : (later.next hash (.operation step)).Faithful ∧ _ :=
    authenticated faithful operation after
  constructor
  · intro apiKey answer
    obtain ⟨row, role, read, current, same⟩ := answered _ answer
    cases same
    refine ⟨row, role, read, current, ?_, code_capped row role⟩
    unfold capped
    split <;> rfl
  · intro row read gone
    cases result : (later.outcome hash step).result with
    | error error => exact ⟨error, rfl⟩
    | ok found =>
      obtain ⟨row', role, read', current, -⟩ := answered found result
      cases read.symm.trans read'
      cases gone.symm.trans current

/-! ## A creator who comes and goes -/

/-- A namespace in which the creator of the key has a role, or is no member. -/
def acmeWith (role : Option Role) (tenantID : String) : Option Namespace :=
  if tenantID = "acme" then
    some ⟨"acme", "acme", "root", (role.map fun role => ⟨"user", role, false⟩).toList,
      ⟨false, "", .legacy, true⟩, false⟩
  else none

/-- The creator of an administrator key is demoted, promoted, and leaves while the key is used. -/
def comingAndGoing : List Event :=
  [.operation (presented 0), .namespaces (acmeWith (some .observer)), .operation (presented 10),
    .namespaces (acmeWith (some .owner)), .operation (presented 20), .namespaces (acmeWith none)]

/-- The house with one key, whose creator is an administrator. -/
def deployHouse : House := ⟨deployVault, acmeWith (some .administrator), 0, fun _ => none⟩

/-- The rank that a use of the key gets. -/
def House.rank (house : House) (time : Nat) : Option Nat :=
  match (house.outcome id (presented time)).result with
  | .ok (some apiKey) => some apiKey.role.code
  | _ => none

/-- The key follows its creator down, up to its own role again, and out. -/
theorem api_keys_never_outrank_demoted :
    (visited (House.next id) deployHouse comingAndGoing).map (·.rank 30) =
      [some 3, some 3, some 1, some 1, some 3, some 3, none] ∧
    ∀ later ∈ visited (House.next id) deployHouse comingAndGoing, ∀ (step : Step) (key : String),
      step.op = .authAPIKey key → later.now ≤ step.start →
      (∀ apiKey, (later.outcome id step).result = .ok (some apiKey) →
        ∃ row role, (later.next id (.operation step)).read key = some row ∧
          resolveNamespaceRole later.namespaces row.tenantID row.createdBy = some role ∧
          apiKey = { row with role := apiKey.role } ∧
          apiKey.role.code = min row.role.code role.code) ∧
      ∀ row, (later.next id (.operation step)).read key = some row →
        resolveNamespaceRole later.namespaces row.tenantID row.createdBy = none →
        ∃ error, (later.outcome id step).result = .error error :=
  ⟨by decide +kernel, api_keys_never_outrank id deployHouse (fun _ => rfl) comingAndGoing
    ⟨Nat.zero_le _, trivial, Nat.zero_le _, trivial, (by decide : 10 ≤ 20), trivial, trivial⟩⟩

end ShellHub.APIKeys
