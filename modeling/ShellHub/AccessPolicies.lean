import Mathlib
import ShellHub.SourceAddresses
import ShellHub.TagStore

/-!
# Access policies

`Authorize` decides whether a member of a namespace may reach a device as a login from an address. The
policies that apply to the connection are found by their subject, device filter, logins and sources. A
policy that denies wins over all that allow, also if it cannot be evaluated; a policy that allows and
cannot be evaluated does not count. Among the policies that allow, the strictest demand for another
authentication is taken.

The order in which the store returns policies is not specified. This module proves that the decision
is a function of the set of policies.
-/

namespace ShellHub.AccessPolicies

open Programs Tables Addresses Roles Tags
open Namespaces (Namespace Member StoreError plainNamespace)
open Devices (Device webDevice webDevices)

/-! ## Matching -/

/-- What the matchers use: addresses as text, `regexp.MatchString` (`none` if the pattern does not
compile), and `strconv.Quote`. -/
structure Matchers where
  text : AddressText
  regexp : String → String → Option Bool
  quote : String → String

/-- Why a policy could not be evaluated. -/
inductive MatchError where
  | regexp (pattern : String)
  | source (error : SourceError)
  deriving DecidableEq, Repr

/-- `PublicKeyFilter.Matches`. -/
def filterMatches (tools : Matchers) (filter : PublicKeyFilter) (dev : TaggedDevice) :
    Except MatchError Bool :=
  if filter.hostname ≠ "" then
    match tools.regexp filter.hostname dev.device.name with
    | none => .error (.regexp filter.hostname)
    | some found => .ok found
  else if 0 < filter.tagIDs.length then
    .ok (filter.tagIDs.any fun tagID => dev.tagIDs.contains tagID)
  else .ok true

/-- A connection that asks for access. -/
structure Connection where
  dev : TaggedDevice
  userID : String
  role : Role
  serviceAccount : Bool
  login : String
  sourceIP : String

/-- `subjectMatches`. -/
def subjectMatches (subject : PolicySubject) (connection : Connection) : Bool :=
  match subject.type with
  | .allMembers => !connection.serviceAccount
  | .role => subject.value = connection.role.string
  | .user => subject.value = connection.userID
  | .unknown => false

/-- `loginMatches`. -/
def loginMatches (logins : List String) (login : String) : Bool :=
  logins.any fun covered => covered = "*" || covered = login

/-- `policyApplies`. -/
def policyApplies (tools : Matchers) (policy : AccessPolicy) (connection : Connection) :
    Except MatchError Bool :=
  if !subjectMatches policy.subject connection then .ok false
  else
    match filterMatches tools policy.filter connection.dev with
    | .error error => .error error
    | .ok matched =>
      if !matched || !loginMatches policy.logins connection.login then .ok false
      else
        match sourceIPMatches tools.text policy.sourceIP connection.sourceIP with
        | .error error => .error (.source error)
        | .ok inside => .ok inside

/-! ## The decision -/

/-- `Decision`. -/
structure Decision where
  allowed : Bool
  requireReauth : Bool
  reauthPeriod : Option Int
  reason : String
  deriving DecidableEq, Repr

/-- The decision that refuses for a reason. -/
def Decision.refuse (reason : String) : Decision := ⟨false, false, none, reason⟩

/-- The first loop of `Authorize`, over the policies that deny. -/
def denyFirst (tools : Matchers) (connection : Connection) : List AccessPolicy → Option Decision
  | [] => none
  | policy :: rest =>
    if policy.action ≠ .deny then denyFirst tools connection rest
    else
      match policyApplies tools policy connection with
      | .error _ =>
        some (.refuse ("denied: policy " ++ tools.quote policy.name ++ " could not be evaluated"))
      | .ok true => some (.refuse ("denied by policy " ++ tools.quote policy.name))
      | .ok false => denyFirst tools connection rest

/-- `stricterReauthPeriod`. -/
def stricterReauthPeriod : Option Int → Option Int → Option Int
  | some first, some second => if second < first then some second else some first
  | _, _ => none

/-- What the second loop of `Authorize` has gathered. -/
structure Grants where
  allowed : Bool
  requireReauth : Bool
  reauthPeriod : Option Int
  deriving DecidableEq, Repr

/-- One turn of the second loop, over the policies that allow. -/
def Grants.add (tools : Matchers) (connection : Connection) (grants : Grants)
    (policy : AccessPolicy) : Grants :=
  if policy.action = .deny then grants
  else
    match policyApplies tools policy connection with
    | .ok true =>
      if policy.requireReauth then
        ⟨true, true,
          if grants.requireReauth then stricterReauthPeriod grants.reauthPeriod policy.reauthPeriod
          else policy.reauthPeriod⟩
      else { grants with allowed := true }
    | .ok false | .error _ => grants

/-- The second loop of `Authorize`. -/
def gather (tools : Matchers) (connection : Connection) (policies : List AccessPolicy) : Grants :=
  policies.foldl (Grants.add tools connection) ⟨false, false, none⟩

/-- `Authorize`, for a member and the policies of the namespace. -/
def decideAccess (tools : Matchers) (connection : Connection) (policies : List AccessPolicy) :
    Decision :=
  match denyFirst tools connection policies with
  | some decision => decision
  | none =>
    let grants := gather tools connection policies
    if !grants.allowed then
      .refuse ("no policy grants " ++ tools.quote connection.login ++ " on this device")
    else if connection.serviceAccount then ⟨true, false, none, ""⟩
    else ⟨true, grants.requireReauth, grants.reauthPeriod, ""⟩

/-- `Authorize`. -/
def authorize (tools : Matchers) (tenantID userID deviceUID login sourceIP : String) :
    Service (Except TagError Decision) :=
  if tenantID = "" then return .error .forbidden
  else do
    match ← call (.deviceResolve tenantID deviceUID) with
    | .error _ => return .error (.deviceNotFound deviceUID)
    | .ok dev =>
      match ← call (.namespaceResolve tenantID) with
      | .error _ => return .error (.namespaceNotFound tenantID)
      | .ok owner =>
        match owner.1.findMember userID with
        | none => return .ok (.refuse "user is not a member of the namespace")
        | some member =>
          match ← call (.accessPolicyList tenantID) with
          | .error error => return .error (.store error)
          | .ok policies =>
            return .ok (decideAccess tools
              ⟨dev, userID, member.role, member.serviceAccount, login, sourceIP⟩ policies)

/-! ## The algebra of policies -/

section Algebra

variable (tools : Matchers) (connection : Connection)

/-- A policy matches a connection on subject, filter, login and source. -/
structure Selects (policy : AccessPolicy) : Prop where
  subject : subjectMatches policy.subject connection = true
  filter : filterMatches tools policy.filter connection.dev = .ok true
  login : loginMatches policy.logins connection.login = true
  source : sourceIPMatches tools.text policy.sourceIP connection.sourceIP = .ok true

/-- The subject of a policy matches a connection, and its filter or its sources cannot be evaluated. -/
structure Fails (policy : AccessPolicy) : Prop where
  subject : subjectMatches policy.subject connection = true
  broken : (∃ error, filterMatches tools policy.filter connection.dev = .error error) ∨
    (filterMatches tools policy.filter connection.dev = .ok true ∧
      loginMatches policy.logins connection.login = true ∧
      ∃ error, sourceIPMatches tools.text policy.sourceIP connection.sourceIP = .error error)

/-- A policy denies the connection. -/
def Denies (policy : AccessPolicy) : Prop :=
  policy.action = .deny ∧ (Fails tools connection policy ∨ Selects tools connection policy)

/-- A policy allows the connection. -/
def Allows (policy : AccessPolicy) : Prop :=
  policy.action ≠ .deny ∧ Selects tools connection policy

/-- A policy allows the connection and requires another authentication. -/
def Requires (policy : AccessPolicy) : Prop :=
  Allows tools connection policy ∧ policy.requireReauth = true

variable {tools connection}

/-- Evaluating a policy finds out which of the three holds. -/
theorem policyApplies_cases (tools : Matchers) (connection : Connection) (policy : AccessPolicy) :
    (policyApplies tools policy connection = .ok true ∧ Selects tools connection policy) ∨
    (policyApplies tools policy connection = .ok false ∧
      ¬ Selects tools connection policy ∧ ¬ Fails tools connection policy) ∨
    ((∃ error, policyApplies tools policy connection = .error error) ∧
      ¬ Selects tools connection policy ∧ Fails tools connection policy) := by
  unfold policyApplies
  cases subject : subjectMatches policy.subject connection with
  | false =>
    refine .inr (.inl ⟨rfl, fun selects => ?_, fun fails => ?_⟩)
    · exact absurd (subject.symm.trans selects.subject) Bool.false_ne_true
    · exact absurd (subject.symm.trans fails.subject) Bool.false_ne_true
  | true =>
    cases filter : filterMatches tools policy.filter connection.dev with
    | error error =>
      refine .inr (.inr ⟨⟨error, rfl⟩, fun selects => ?_, ⟨subject, .inl ⟨error, filter⟩⟩⟩)
      cases filter.symm.trans selects.filter
    | ok matched =>
      cases matched with
      | false =>
        refine .inr (.inl ⟨rfl, fun selects => ?_, fun fails => ?_⟩)
        · cases filter.symm.trans selects.filter
        · rcases fails.broken with ⟨error, broken⟩ | ⟨found, -⟩
          · cases filter.symm.trans broken
          · cases filter.symm.trans found
      | true =>
        cases login : loginMatches policy.logins connection.login with
        | false =>
          refine .inr (.inl ⟨rfl, fun selects => ?_, fun fails => ?_⟩)
          · exact absurd (login.symm.trans selects.login) Bool.false_ne_true
          · rcases fails.broken with ⟨error, broken⟩ | ⟨-, covered, -⟩
            · cases filter.symm.trans broken
            · exact absurd (login.symm.trans covered) Bool.false_ne_true
        | true =>
          cases source : sourceIPMatches tools.text policy.sourceIP connection.sourceIP with
          | error error =>
            refine .inr (.inr ⟨⟨.source error, rfl⟩, fun selects => ?_,
              ⟨subject, .inr ⟨filter, login, error, source⟩⟩⟩)
            cases source.symm.trans selects.source
          | ok inside =>
            cases inside with
            | false =>
              refine .inr (.inl ⟨rfl, fun selects => ?_, fun fails => ?_⟩)
              · cases source.symm.trans selects.source
              · rcases fails.broken with ⟨error, broken⟩ | ⟨-, -, error, broken⟩
                · cases filter.symm.trans broken
                · cases source.symm.trans broken
            | true => exact .inl ⟨rfl, ⟨subject, filter, login, source⟩⟩

/-- The first loop refuses exactly when a policy denies the connection. -/
theorem denyFirst_eq_none {policies : List AccessPolicy} :
    denyFirst tools connection policies = none ↔
      ∀ policy ∈ policies, ¬ Denies tools connection policy := by
  induction policies with
  | nil => simp [denyFirst]
  | cons policy rest ih =>
    rw [List.forall_mem_cons, ← ih]
    by_cases deny : policy.action = .deny
    · rcases policyApplies_cases tools connection policy with
        ⟨applies, selects⟩ | ⟨applies, free, sound⟩ | ⟨⟨error, applies⟩, -, fails⟩
      · simp [denyFirst, deny, applies, Denies, selects]
      · simp [denyFirst, deny, applies, Denies, free, sound]
      · simp [denyFirst, deny, applies, Denies, fails]
    · simp [denyFirst, deny, Denies]

/-- A decision of the first loop refuses. -/
theorem denyFirst_refuses {policies : List AccessPolicy} {decision : Decision}
    (denied : denyFirst tools connection policies = some decision) :
    ∃ reason, decision = .refuse reason := by
  induction policies with
  | nil => cases denied
  | cons policy rest ih =>
    unfold denyFirst at denied
    split at denied
    · exact ih denied
    split at denied
    · cases denied
      exact ⟨_, rfl⟩
    · cases denied
      exact ⟨_, rfl⟩
    · exact ih denied

/-- A period of `nil` is stricter than any other, and a shorter period is stricter than a longer one. -/
abbrev Period : Type := WithBot Int

/-- The period that a policy demands. -/
def demanded (policy : AccessPolicy) : Period := policy.reauthPeriod

/-- The period that was gathered. -/
def Grants.period (grants : Grants) : Period := grants.reauthPeriod

theorem stricterReauthPeriod_eq_min (first second : Period) :
    (stricterReauthPeriod first second : Period) = min second first := by
  induction first using WithBot.recBotCoe with
  | bot =>
    rw [min_eq_right bot_le]
    rfl
  | coe first =>
    induction second using WithBot.recBotCoe with
    | bot =>
      rfl
    | coe second =>
      change (if second < first then some second else some first) = some (min second first)
      split
      · rename_i shorter
        rw [min_eq_left shorter.le]
      · rename_i longer
        rw [min_eq_right (not_lt.mp longer)]

/-- The periods that the policies of a list demand of a connection. -/
def demands (tools : Matchers) (connection : Connection) (policies : List AccessPolicy) :
    Set Period :=
  { period | ∃ policy ∈ policies, Requires tools connection policy ∧ demanded policy = period }

/-- The demands of policies in a row are those of each part. -/
theorem demands_append (policies : List AccessPolicy) {policy : AccessPolicy}
    (requires : Requires tools connection policy) :
    demands tools connection (policies ++ [policy]) =
      insert (demanded policy) (demands tools connection policies) := by
  ext period
  simp only [demands, List.mem_append, List.mem_singleton, Set.mem_ofPred_eq, Set.mem_insert_iff]
  constructor
  · rintro ⟨other, old | rfl, required, same⟩
    · exact .inr ⟨other, old, required, same⟩
    · exact .inl same.symm
  · rintro (rfl | ⟨other, old, required, same⟩)
    · exact ⟨policy, .inr rfl, requires, rfl⟩
    · exact ⟨other, .inl old, required, same⟩

/-- The demands of policies in a row are those of each part. -/
theorem demands_append_of_not (policies : List AccessPolicy) {policy : AccessPolicy}
    (free : ¬ Requires tools connection policy) :
    demands tools connection (policies ++ [policy]) = demands tools connection policies := by
  ext period
  simp only [demands, List.mem_append, List.mem_singleton, Set.mem_ofPred_eq]
  constructor
  · rintro ⟨other, old | rfl, required, same⟩
    · exact ⟨other, old, required, same⟩
    · exact absurd required free
  · rintro ⟨other, old, required, same⟩
    exact ⟨other, .inl old, required, same⟩

/-- What has been gathered from a list of policies: whether one of them allows, whether one of them
requires another authentication, and the strictest period of those that do. -/
structure Gathered (tools : Matchers) (connection : Connection) (seen : List AccessPolicy)
    (grants : Grants) : Prop where
  allowed : grants.allowed = true ↔ ∃ policy ∈ seen, Allows tools connection policy
  required : grants.requireReauth = true ↔ ∃ policy ∈ seen, Requires tools connection policy
  unset : grants.requireReauth = false → grants.reauthPeriod = none
  strictest : grants.requireReauth = true →
    IsLeast (demands tools connection seen) grants.period

namespace Gathered

variable {seen : List AccessPolicy} {grants : Grants} {policy : AccessPolicy}

/-- Nothing is gathered from no policies. -/
theorem empty : Gathered tools connection [] ⟨false, false, none⟩ := by
  constructor <;> simp

variable (gathered : Gathered tools connection seen grants)

include gathered

/-- A policy that does not allow changes nothing. -/
theorem skip (barred : ¬ Allows tools connection policy) :
    Gathered tools connection (seen ++ [policy]) grants := by
  have free : ¬ Requires tools connection policy := fun requires => barred requires.1
  constructor
  · simpa [barred] using gathered.allowed
  · simpa [free] using gathered.required
  · exact gathered.unset
  · rw [demands_append_of_not seen free]
    exact gathered.strictest

/-- A policy that allows and requires nothing. -/
theorem grant (allows : Allows tools connection policy) (lenient : policy.requireReauth = false) :
    Gathered tools connection (seen ++ [policy]) { grants with allowed := true } := by
  have free : ¬ Requires tools connection policy := by
    rintro ⟨-, required⟩
    exact absurd (lenient.symm.trans required) Bool.false_ne_true
  constructor
  · simp [allows]
  · simpa [free] using gathered.required
  · exact gathered.unset
  · rw [demands_append_of_not seen free]
    exact gathered.strictest

/-- The first policy that requires another authentication sets the period. -/
theorem first (requires : Requires tools connection policy) (none : grants.requireReauth = false) :
    Gathered tools connection (seen ++ [policy]) ⟨true, true, policy.reauthPeriod⟩ := by
  constructor
  · simp [requires.1]
  · simp [requires]
  · rintro ⟨⟩
  · intro _
    have before : demands tools connection seen = ∅ := by
      apply Set.eq_empty_of_forall_notMem
      rintro period ⟨other, member, required, -⟩
      rw [gathered.required.mpr ⟨other, member, required⟩] at none
      cases none
    rw [demands_append seen requires, before, insert_empty_eq]
    exact isLeast_singleton

/-- A further policy that requires another authentication makes the period stricter. -/
theorem tighten (requires : Requires tools connection policy)
    (earlier : grants.requireReauth = true) :
    Gathered tools connection (seen ++ [policy])
      ⟨true, true, stricterReauthPeriod grants.reauthPeriod policy.reauthPeriod⟩ := by
  constructor
  · simp [requires.1]
  · simp [requires]
  · rintro ⟨⟩
  · intro _
    rw [demands_append seen requires]
    have least := (gathered.strictest earlier).insert (demanded policy)
    rwa [← stricterReauthPeriod_eq_min grants.period (demanded policy)] at least

/-- One turn of the second loop. -/
theorem add (policy : AccessPolicy) :
    Gathered tools connection (seen ++ [policy]) (grants.add tools connection policy) := by
  unfold Grants.add
  split
  · rename_i deny
    exact gathered.skip fun allows => allows.1 deny
  rename_i grant
  rcases policyApplies_cases tools connection policy with
    ⟨applies, selects⟩ | ⟨applies, free, -⟩ | ⟨⟨error, applies⟩, free, -⟩
  · rw [applies]
    dsimp only
    cases required : policy.requireReauth with
    | false => exact gathered.grant ⟨grant, selects⟩ required
    | true =>
      cases earlier : grants.requireReauth with
      | false => exact gathered.first ⟨⟨grant, selects⟩, required⟩ earlier
      | true => exact gathered.tighten ⟨⟨grant, selects⟩, required⟩ earlier
  · rw [applies]
    exact gathered.skip fun allows => free allows.2
  · rw [applies]
    exact gathered.skip fun allows => free allows.2

/-- The second loop, from what was gathered before. -/
theorem fold (rest : List AccessPolicy) :
    Gathered tools connection (seen ++ rest) (rest.foldl (Grants.add tools connection) grants) := by
  induction rest generalizing seen grants with
  | nil => simpa using gathered
  | cons policy rest ih =>
    have later := ih (gathered.add policy)
    rwa [List.append_assoc, List.singleton_append] at later

/-- What is gathered depends on which policies there are, and not on their order. -/
theorem unique {other : List AccessPolicy} {others : Grants}
    (again : Gathered tools connection other others)
    (same : ∀ policy, policy ∈ seen ↔ policy ∈ other) : grants = others := by
  have allowed : grants.allowed = others.allowed := by
    rw [Bool.eq_iff_iff, gathered.allowed, again.allowed]
    simp only [same]
  have required : grants.requireReauth = others.requireReauth := by
    rw [Bool.eq_iff_iff, gathered.required, again.required]
    simp only [same]
  have period : grants.reauthPeriod = others.reauthPeriod := by
    cases set : grants.requireReauth with
    | false => rw [gathered.unset set, again.unset (required ▸ set)]
    | true =>
      have least := gathered.strictest set
      have demanded : demands tools connection seen = demands tools connection other := by
        simp only [demands, same]
      rw [demanded] at least
      exact least.unique (again.strictest (required ▸ set))
  cases grants
  cases others
  congr

end Gathered

/-- The second loop gathers from all policies. -/
theorem gather_gathered (tools : Matchers) (connection : Connection)
    (policies : List AccessPolicy) :
    Gathered tools connection policies (gather tools connection policies) :=
  Gathered.empty.fold policies

/-- What a decision says, without the text of its reason. -/
def Decision.verdict (decision : Decision) : Bool × Bool × Option Int :=
  (decision.allowed, decision.requireReauth, decision.reauthPeriod)

/-- A connection is allowed exactly when no policy denies it and one allows it. -/
theorem decideAccess_allowed (tools : Matchers) (connection : Connection)
    (policies : List AccessPolicy) :
    (decideAccess tools connection policies).allowed = true ↔
      (∀ policy ∈ policies, ¬ Denies tools connection policy) ∧
        ∃ policy ∈ policies, Allows tools connection policy := by
  rw [← denyFirst_eq_none, ← (gather_gathered tools connection policies).allowed]
  unfold decideAccess
  cases denied : denyFirst tools connection policies with
  | some decision =>
    obtain ⟨reason, rfl⟩ := denyFirst_refuses denied
    simp [Decision.refuse]
  | none =>
    cases allowed : (gather tools connection policies).allowed with
    | false => simp [allowed, Decision.refuse]
    | true =>
      simp only [allowed, Bool.not_true, Bool.false_eq_true, if_false, and_self, iff_true]
      split <;> rfl

/-- A connection that is allowed carries what was gathered, unless it is of a service account. -/
theorem decideAccess_reauth {policies : List AccessPolicy}
    (allowed : (decideAccess tools connection policies).allowed = true) :
    (connection.serviceAccount = true →
      (decideAccess tools connection policies).requireReauth = false ∧
        (decideAccess tools connection policies).reauthPeriod = none) ∧
    (connection.serviceAccount = false →
      (decideAccess tools connection policies).requireReauth =
          (gather tools connection policies).requireReauth ∧
        (decideAccess tools connection policies).reauthPeriod =
          (gather tools connection policies).reauthPeriod) := by
  obtain ⟨free, granted⟩ := (decideAccess_allowed tools connection policies).mp allowed
  have passed := denyFirst_eq_none.mpr free
  have grants := (gather_gathered tools connection policies).allowed.mpr granted
  constructor <;> intro service <;> simp [decideAccess, passed, grants, service]

/-- The order of the policies does not matter. -/
theorem decideAccess_perm {policies reordered : List AccessPolicy}
    (perm : reordered.Perm policies) :
    (decideAccess tools connection reordered).verdict =
      (decideAccess tools connection policies).verdict := by
  have same : ∀ policy, policy ∈ reordered ↔ policy ∈ policies := fun policy => perm.mem_iff
  have gathered : gather tools connection reordered = gather tools connection policies :=
    (gather_gathered tools connection reordered).unique
      (gather_gathered tools connection policies) same
  have denied : denyFirst tools connection reordered = none ↔
      denyFirst tools connection policies = none := by
    simp only [denyFirst_eq_none, same]
  unfold decideAccess
  rw [gathered]
  cases first : denyFirst tools connection reordered with
  | none => rw [denied.mp first]
  | some decision =>
    cases second : denyFirst tools connection policies with
    | none => rw [denied.mpr second] at first; cases first
    | some other =>
      obtain ⟨reason, rfl⟩ := denyFirst_refuses first
      obtain ⟨reason', rfl⟩ := denyFirst_refuses second
      rfl

/-- The strictest period is `nil` if one policy has none, and otherwise the shortest one. -/
theorem strictest_period {policies : List AccessPolicy} {grants : Grants}
    (gathered : Gathered tools connection policies grants) (required : grants.requireReauth = true) :
    ((∃ policy ∈ policies, Requires tools connection policy ∧ policy.reauthPeriod = none) →
      grants.reauthPeriod = none) ∧
    ((∀ policy ∈ policies, Requires tools connection policy → policy.reauthPeriod ≠ none) →
      ∃ period, grants.reauthPeriod = some period ∧
        (∃ policy ∈ policies, Requires tools connection policy ∧
          policy.reauthPeriod = some period) ∧
        ∀ policy ∈ policies, Requires tools connection policy →
          ∀ other, policy.reauthPeriod = some other → period ≤ other) := by
  obtain ⟨attained, lower⟩ := gathered.strictest required
  constructor
  · rintro ⟨policy, member, requires, always⟩
    have below : grants.period ≤ demanded policy := lower ⟨policy, member, requires, rfl⟩
    rw [show demanded policy = ⊥ from always] at below
    exact le_bot_iff.mp below
  · intro bounded
    obtain ⟨policy, member, requires, same⟩ := attained
    cases set : policy.reauthPeriod with
    | none => exact absurd set (bounded policy member requires)
    | some period =>
      have own : grants.reauthPeriod = some period := same.symm.trans set
      refine ⟨period, own, ⟨policy, member, requires, set⟩, ?_⟩
      intro other stored demands period' has
      have below : grants.period ≤ demanded other := lower ⟨other, stored, demands, rfl⟩
      rw [show grants.period = ((period : Int) : Period) from own,
        show demanded other = ((period' : Int) : Period) from has] at below
      exact WithBot.coe_le_coe.mp below

/-- A decision is the one that the algebra of the policies gives for the connection of a member. It
allows exactly when no policy denies and one allows. If it allows, a service account is not asked to
authenticate again; a human is asked exactly when a policy that allows requires it, always if one of
these policies has no period, and otherwise within the shortest of their periods. -/
structure Follows (tools : Matchers) (connection : Connection) (policies : List AccessPolicy)
    (decision : Decision) : Prop where
  allowed : decision.allowed = true ↔
    (∀ policy ∈ policies, ¬ Denies tools connection policy) ∧
      ∃ policy ∈ policies, Allows tools connection policy
  service : decision.allowed = true → connection.serviceAccount = true →
    decision.requireReauth = false ∧ decision.reauthPeriod = none
  required : decision.allowed = true → connection.serviceAccount = false →
    (decision.requireReauth = true ↔ ∃ policy ∈ policies, Requires tools connection policy)
  always : decision.requireReauth = true →
    (∃ policy ∈ policies, Requires tools connection policy ∧ policy.reauthPeriod = none) →
      decision.reauthPeriod = none
  shortest : decision.requireReauth = true →
    (∀ policy ∈ policies, Requires tools connection policy → policy.reauthPeriod ≠ none) →
      ∃ period, decision.reauthPeriod = some period ∧
        (∃ policy ∈ policies, Requires tools connection policy ∧
          policy.reauthPeriod = some period) ∧
        ∀ policy ∈ policies, Requires tools connection policy →
          ∀ other, policy.reauthPeriod = some other → period ≤ other

/-- The decision for a member follows the algebra. -/
theorem decideAccess_follows (tools : Matchers) (connection : Connection)
    (policies : List AccessPolicy) :
    Follows tools connection policies (decideAccess tools connection policies) := by
  have gathered := gather_gathered tools connection policies
  have taken : (decideAccess tools connection policies).requireReauth = true →
      (gather tools connection policies).requireReauth = true ∧
        (decideAccess tools connection policies).reauthPeriod =
          (gather tools connection policies).reauthPeriod := by
    intro required
    unfold decideAccess at required ⊢
    cases denied : denyFirst tools connection policies with
    | some decision =>
      obtain ⟨reason, rfl⟩ := denyFirst_refuses denied
      rw [denied] at required
      cases required
    | none =>
      rw [denied] at required
      dsimp only at required ⊢
      split at required
      · cases required
      · split at required
        · cases required
        · rename_i allowed service
          rw [if_neg allowed, if_neg service]
          exact ⟨required, rfl⟩
  refine ⟨decideAccess_allowed tools connection policies, ?_, ?_, ?_, ?_⟩
  · intro allowed
    exact (decideAccess_reauth allowed).1
  · intro allowed human
    rw [((decideAccess_reauth allowed).2 human).1]
    exact gathered.required
  · intro required always
    obtain ⟨also, same⟩ := taken required
    rw [same]
    exact (strictest_period gathered also).1 always
  · intro required bounded
    obtain ⟨also, same⟩ := taken required
    rw [same]
    exact (strictest_period gathered also).2 bounded

end Algebra

/-! ## Authorize -/

/-- The connection of a member to a device of the store. -/
def connectionOf (store : TagStore) (device : Device) (userID : String) (member : Member)
    (login sourceIP : String) : Connection :=
  ⟨store.deviceToModel device, userID, member.role, member.serviceAccount, login, sourceIP⟩

/-- `Authorize` for a device of the namespace, if no call fails. -/
theorem authorize_run (tools : Matchers) {store : TagStore} {tenantID deviceUID : String}
    {device : Device} {owner : Namespace} {inputs : Nat → TagStore.Surroundings}
    (bounded : tenantID ≠ "") (stored : store.devices.find deviceUID = some device)
    (within : device.tenantID = tenantID) (housed : store.namespaces.find tenantID = some owner)
    (faultless : ∀ index, (inputs index).fault = none) (userID login sourceIP : String) :
    (run callMeaning inputs (authorize tools tenantID userID deviceUID login sourceIP)
      store).result = .ok (match owner.findMember userID with
        | none => .refuse "user is not a member of the namespace"
        | some member => decideAccess tools
            (connectionOf store device userID member login sourceIP) (store.policiesOf tenantID)) := by
  unfold authorize
  rw [if_neg bounded]
  simp only [call, result_perform_bind, callMeaning_deviceResolve (faultless _) stored within,
    callMeaning_namespaceResolve (faultless _) housed]
  cases found : owner.findMember userID with
  | none => rfl
  | some member =>
    simp only [result_perform_bind, callMeaning_accessPolicyList (faultless _)]
    rfl

/-- The decision of `Authorize` is the algebra of the policies. For every namespace, user, device,
login, source and list of policies, if no call fails: a user who is no member is refused, and the
decision for a member follows the algebra. It is the same for every other order of the policies. The
loop only gathers grants, and neither a denial among them nor the strictest demand depends on their
order. -/
theorem authorize_follows_algebra (tools : Matchers) (store : TagStore)
    (tenantID userID deviceUID login sourceIP : String) (device : Device) (owner : Namespace)
    (inputs : Nat → TagStore.Surroundings) (bounded : tenantID ≠ "")
    (stored : store.devices.find deviceUID = some device) (within : device.tenantID = tenantID)
    (housed : store.namespaces.find tenantID = some owner)
    (faultless : ∀ index, (inputs index).fault = none) :
    ∃ decision, (run callMeaning inputs (authorize tools tenantID userID deviceUID login sourceIP)
        store).result = .ok decision ∧
      (owner.findMember userID = none → decision.allowed = false) ∧
      (∀ member, owner.findMember userID = some member →
        Follows tools (connectionOf store device userID member login sourceIP)
          (store.policiesOf tenantID) decision) ∧
      ∀ (other : TagStore) (inputs' : Nat → TagStore.Surroundings),
        (∀ index, (inputs' index).fault = none) → other.namespaces = store.namespaces →
        other.devices = store.devices →
        other.deviceToModel device = store.deviceToModel device →
        (other.policiesOf tenantID).Perm (store.policiesOf tenantID) →
        ∃ again, (run callMeaning inputs'
            (authorize tools tenantID userID deviceUID login sourceIP) other).result = .ok again ∧
          again.verdict = decision.verdict := by
  refine ⟨_, authorize_run tools bounded stored within housed faultless userID login sourceIP,
    ?_, ?_, ?_⟩
  · intro stranger
    rw [stranger]
    rfl
  · intro member found
    rw [found]
    exact decideAccess_follows tools _ _
  · intro other inputs' quiet namespaces devices same reordered
    have again := authorize_run tools bounded (devices ▸ stored) within (namespaces ▸ housed) quiet
      userID login sourceIP
    refine ⟨_, again, ?_⟩
    cases owner.findMember userID with
    | none => rfl
    | some member =>
      have connected : connectionOf other device userID member login sourceIP =
          connectionOf store device userID member login sourceIP := by
        simp only [connectionOf, same]
      dsimp only
      rw [connected]
      exact decideAccess_perm reordered

/-- Matchers for patterns without special characters. -/
def plainMatchers : Matchers where
  text := usualText
  regexp := fun pattern name => some (pattern = name)
  quote := fun text => "\"" ++ text ++ "\""

/-- Surroundings without faults. -/
def quiet : Nat → TagStore.Surroundings := fun _ => ⟨none, "fresh"⟩

/-- A policy of the sample namespace. -/
def acmePolicy (id : String) (action : PolicyAction) (subject : PolicySubject)
    (reauthPeriod : Option Int) : AccessPolicyRow where
  id := id
  tenantID := "acme"
  name := id
  subject := subject
  filterHostname := ""
  logins := ["root"]
  sourceIP := ["10.0.0.0/8"]
  action := action
  requireReauth := reauthPeriod.isSome
  reauthPeriod := reauthPeriod

/-- The settings of the sample namespace. -/
def acmeNamespace : Namespace :=
  { plainNamespace "acme" with
    members := [⟨"ada", .owner, false⟩, ⟨"eve", .observer, false⟩, ⟨"ci", .service, true⟩] }

/-- A namespace with a device and policies, and without tags. -/
def acmeStore : TagStore where
  namespaces := ⟨[acmeNamespace], by decide⟩
  devices := webDevices
  tags := .empty
  deviceTags := []
  publicKeys := .empty
  publicKeyTags := []
  accessPolicies := ⟨[acmePolicy "hourly" .allow ⟨.allMembers, ""⟩ (some 3600),
    acmePolicy "owner" .allow ⟨.role, "owner"⟩ (some 600),
    acmePolicy "no-eve" .deny ⟨.user, "eve"⟩ none,
    acmePolicy "automation" .allow ⟨.role, "service"⟩ (some 60)], by decide⟩
  accessPolicyTags := []
  deviceTagged := by decide
  keyTagged := by decide
  policyTagged := by decide

/-- The owner is allowed and asked again after ten minutes. The member who is denied is refused, and
the service account is never asked. -/
theorem authorize_follows_algebra_acme :
    (["ada", "eve", "ci"].map fun userID =>
      ((run callMeaning quiet (authorize plainMatchers "acme" userID "web" "root" "10.1.2.3")
        acmeStore).result.toOption.map Decision.verdict)) =
      [some (true, true, some 600), some (false, false, none), some (true, false, none)] ∧
    ∃ decision, (run callMeaning quiet
        (authorize plainMatchers "acme" "ada" "web" "root" "10.1.2.3") acmeStore).result =
          .ok decision ∧
      (acmeNamespace.findMember "ada" = none → decision.allowed = false) ∧
      (∀ member, acmeNamespace.findMember "ada" = some member →
        Follows plainMatchers (connectionOf acmeStore webDevice "ada" member "root" "10.1.2.3")
          (acmeStore.policiesOf "acme") decision) ∧
      ∀ (other : TagStore) (inputs' : Nat → TagStore.Surroundings),
        (∀ index, (inputs' index).fault = none) → other.namespaces = acmeStore.namespaces →
        other.devices = acmeStore.devices →
        other.deviceToModel webDevice = acmeStore.deviceToModel webDevice →
        (other.policiesOf "acme").Perm (acmeStore.policiesOf "acme") →
        ∃ again, (run callMeaning inputs'
            (authorize plainMatchers "acme" "ada" "web" "root" "10.1.2.3") other).result =
              .ok again ∧
          again.verdict = decision.verdict :=
  ⟨by decide +kernel,
    authorize_follows_algebra plainMatchers acmeStore "acme" "ada" "web" "root" "10.1.2.3"
      webDevice acmeNamespace quiet (by decide) (by decide +kernel) rfl (by decide +kernel)
      fun _ => rfl⟩

end ShellHub.AccessPolicies
