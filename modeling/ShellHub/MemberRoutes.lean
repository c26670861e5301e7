import ShellHub.ActingIdentity

/-!
# The member routes

Five routes change who belongs to a namespace. Their guard asks for a permission, and takes the
role from the namespace of the caller's token; the service then asks for rank only, in the
namespace that the request names. Nothing makes the two namespaces the same one.

With a token of the namespace it is used on, a success is permitted there, and a token of no
namespace is refused. With a token of another namespace, a success can lack the permission exactly
if the caller's role in the token's namespace has it and they are a member of the other one without
it: an operator changes the members there by each of the five routes.

A request runs alone, and any call may fail. What a failed request leaves behind is left out, and so
are the steps whose failures are only logged: the notification of the invitee and the removal of the
API keys, the cached token and the orphaned account of a member.
-/

namespace ShellHub.MemberRoutes

open JsonDecoding RequestBinding Identities Roles ActingIdentity
open LetterCase (toLower)
open Namespaces (Member Namespace StoreError plainNamespace)

/-! ## The services -/

/-- `MembershipInvitationStatus` -/
inductive InvitationStatus where
  | pending
  | accepted
  | rejected
  | cancelled
  deriving DecidableEq, Repr

/-- `MembershipInvitation`. Times are in seconds. -/
structure MembershipInvitation where
  id : String
  tenantID : String
  userID : String
  invitedBy : String
  createdAt : Nat
  expiresAt : Option Nat
  status : InvitationStatus
  role : Role
  invitations : Nat
  sig : String
  deriving DecidableEq, Repr

structure Account where
  id : String
  email : String
  admin : Bool
  deriving DecidableEq, Repr

/-- The tables behind the services. An invited person without an account has a placeholder, an
identifier by email. -/
structure Directory where
  namespaces : List Namespace
  users : List Account
  userInvitations : List (String × String)
  invitations : List MembershipInvitation
  deriving DecidableEq, Repr

inductive MemberError where
  | namespaceNotFound (tenantID : String)
  | namespaceMemberNotFound (id : String)
  | namespaceMemberDuplicated (id : String)
  | authForbidden
  | roleForbidden
  | store (error : StoreError)
  deriving DecidableEq, Repr

/-- The calls of a service whose failure fails it. -/
inductive Call where
  | namespaceResolve
  | withTransaction
  | namespaceUpdateMembership
  | namespaceDeleteMembership
  | membershipInvitationResolve
  | membershipInvitationUpdate
  | namespaceResolveAgain
  deriving DecidableEq, Repr

/-- What a request finds around it: which calls fail, `directMembershipAllowed`, the time, and fresh
identifiers. -/
structure Around where
  fault : Call → Option StoreError
  direct : Bool
  now : Nat
  freshID : String
  freshSig : String

/-- What a service returns. -/
inductive Response where
  | namespace_ (stored : Namespace)
  | link (url : String)
  | ok
  deriving DecidableEq, Repr

/-- The answer of a call that may fail. -/
def Around.ask {α : Type} (around : Around) (call : Call) (answer : Except StoreError α) :
    Except StoreError α :=
  match around.fault call with
  | some error => .error error
  | none => answer

section Services

variable (directory : Directory) (around : Around)

namespace Directory

/-- The namespace of a tenant. -/
def namespaceOf (tenantID : String) : Option Namespace :=
  directory.namespaces.find? fun stored => stored.tenantID == tenantID

/-- The role of a user in a namespace. -/
def roleOf (tenantID userID : String) : Option Role :=
  ((directory.namespaceOf tenantID).bind fun stored => stored.findMember userID).map Member.role

/-- `NamespaceResolve` -/
def namespaceResolve (tenantID : String) : Except StoreError Namespace :=
  match directory.namespaceOf tenantID with
  | none => .error .noDocuments
  | some stored => .ok stored

/-- The directory with the members of one namespace changed. -/
def withMembers (tenantID : String) (change : List Member → List Member) : Directory :=
  { directory with namespaces := directory.namespaces.map fun stored =>
      if stored.tenantID = tenantID then { stored with members := change stored.members }
      else stored }

/-- A write to the row of a member. -/
def writeMember (tenantID userID : String) (change : List Member → List Member) :
    Except StoreError Directory :=
  if (directory.roleOf tenantID userID).isSome then .ok (directory.withMembers tenantID change)
  else .error .noDocuments

/-- `MembershipInvitationResolve`: the newest invitation of a user to a namespace. -/
def latestInvitation (tenantID userID : String) : Option MembershipInvitation :=
  (directory.invitations.filter fun invitation =>
    invitation.tenantID == tenantID && invitation.userID == userID).foldl
      (fun newest invitation =>
        if newest.any fun other => invitation.createdAt < other.createdAt then newest
        else some invitation) none

/-- Write an invitation back over the row with its identifier. -/
def updateInvitation (invitation : MembershipInvitation) : Directory :=
  { directory with invitations := directory.invitations.map fun row =>
      if row.id = invitation.id then { invitation with role := storedRole invitation.role } else row }

end Directory

/-- `resolveActingMember`. An `invalid` required role asserts nothing. -/
def resolveActingMember (tenantID actorID : String) (requireAuthorityOver : Role) :
    Except MemberError (Namespace × Member) :=
  match around.ask .namespaceResolve (directory.namespaceResolve tenantID) with
  | .error _ => .error (.namespaceNotFound tenantID)
  | .ok stored =>
    match stored.findMember actorID with
    | none => .error (.namespaceMemberNotFound actorID)
    | some member =>
      if requireAuthorityOver ≠ .invalid ∧ !member.role.hasAuthority requireAuthorityOver then
        .error .roleForbidden
      else .ok (stored, member)

/-- Seven days. -/
def invitationLifetime : Nat := 7 * 24 * 60 * 60

/-- `createMembershipInvitation` -/
def createMembershipInvitation (tenantID invitedBy userID : String) (role : Role) :
    MembershipInvitation × Directory :=
  let invitation : MembershipInvitation :=
    { id := around.freshID, tenantID, userID, invitedBy, createdAt := around.now
      expiresAt := some (around.now + invitationLifetime), status := .pending, role
      invitations := 1, sig := around.freshSig }
  (invitation, { directory with
    invitations := directory.invitations ++ [{ invitation with role := storedRole role }] })

/-- `resendMembershipInvitation` -/
def resendMembershipInvitation (invitation : MembershipInvitation) (role : Role) :
    MembershipInvitation × Directory :=
  let refreshed := { invitation with
    status := .pending, role, expiresAt := some (around.now + invitationLifetime)
    invitations := invitation.invitations + 1, sig := around.freshSig }
  (refreshed, directory.updateInvitation refreshed)

/-- The invited person's identifier: that of the account, else that of the placeholder, which
`UserInvitationsUpsert` creates. -/
def invitee (email : String) : String × Directory :=
  match directory.users.find? fun user => user.email == email with
  | some user => (user.id, directory)
  | none =>
    match directory.userInvitations.lookup email with
    | some id => (id, directory)
    | none => (around.freshID, { directory with
        userInvitations := directory.userInvitations ++ [(email, around.freshID)] })

/-- The transaction of `intakeMembership`, over the namespace that was read before. There is no
invitation if the member is added at once. -/
def intake (stored : Namespace) (invitedBy email : String) (role : Role) :
    Except MemberError (Option MembershipInvitation × Directory) :=
  let userExists := directory.users.any fun user => user.email == email
  let (userID, prepared) := invitee directory around email
  if (stored.findMember userID).isSome then .error (.namespaceMemberDuplicated userID)
  else if userExists && around.direct then
    .ok (none, prepared.withMembers stored.tenantID (· ++ [⟨userID, storedRole role, false⟩]))
  else
    let create := createMembershipInvitation prepared around stored.tenantID invitedBy userID role
    match prepared.latestInvitation stored.tenantID userID with
    | none => .ok (some create.1, create.2)
    | some existing =>
      if existing.status ≠ .pending then .ok (some create.1, create.2)
      else if existing.expiresAt.any fun expiry => expiry < around.now then
        let resent := resendMembershipInvitation prepared around existing role
        .ok (some resent.1, resent.2)
      else .error (.namespaceMemberDuplicated userID)

/-- `intakeMembership` -/
def intakeMembership (stored : Namespace) (invitedBy email : String) (role : Role) :
    Except MemberError (Option MembershipInvitation × Directory) :=
  match around.fault .withTransaction with
  | some error => .error (.store error)
  | none => intake directory around stored invitedBy (toLower email) role

/-- The namespace that a service returns at its end. -/
def updatedNamespace (tenantID : String) : Except MemberError (Response × Directory) :=
  match around.ask .namespaceResolveAgain (directory.namespaceResolve tenantID) with
  | .error error => .error (.store error)
  | .ok stored => .ok (.namespace_ stored, directory)

/-- `AddNamespaceMember` -/
def addNamespaceMember (tenantID userID memberEmail : String) (memberRole : Role) :
    Except MemberError (Response × Directory) := do
  let (stored, active) ← resolveActingMember directory around tenantID userID memberRole
  let (_, next) ← intakeMembership directory around stored active.id memberEmail memberRole
  updatedNamespace next around tenantID

/-- `buildInviteURL`. An invite code needs no escaping. -/
def buildInviteURL (forwardedProto forwardedHost sig : String) : String :=
  (if forwardedProto = "" then "https" else forwardedProto) ++ "://" ++ forwardedHost ++
    "/accept-invite?invite=" ++ sig

/-- `GenerateInvitationLink`. The link is empty if the member was added at once. -/
def generateInvitationLink (tenantID userID memberEmail : String) (memberRole : Role)
    (forwardedHost forwardedProto : String) : Except MemberError (Response × Directory) := do
  let (stored, active) ← resolveActingMember directory around tenantID userID memberRole
  let (invitation, next) ← intakeMembership directory around stored active.id memberEmail memberRole
  .ok (.link ((invitation.map fun invitation =>
    buildInviteURL forwardedProto forwardedHost invitation.sig).getD ""), next)

/-- The member that another one may change or remove: present, somebody else, and not of a higher
rank. -/
def passiveMember (stored : Namespace) (active : Member) (memberID : String) :
    Except MemberError Member :=
  match stored.findMember memberID with
  | none => .error (.namespaceMemberNotFound memberID)
  | some passive =>
    if active.id = passive.id then .error .authForbidden
    else if !active.role.hasAuthority passive.role then .error .roleForbidden
    else .ok passive

/-- `UpdateNamespaceMember` -/
def updateNamespaceMember (tenantID userID memberID : String) (memberRole : Role) :
    Except MemberError (Response × Directory) := do
  let (stored, active) ← resolveActingMember directory around tenantID userID .invalid
  let member ← passiveMember stored active memberID
  if memberRole ≠ .invalid ∧ !active.role.hasAuthority memberRole then .error .roleForbidden
  else
    let role := storedRole (if memberRole = .invalid then member.role else memberRole)
    match around.ask .namespaceUpdateMembership (directory.writeMember stored.tenantID member.id
        fun members => members.map fun row => if row.id = member.id then { member with role } else row)
      with
    | .error error => .error (.store error)
    | .ok next => .ok (.ok, next)

/-- `RemoveNamespaceMember` -/
def removeNamespaceMember (tenantID userID memberID : String) :
    Except MemberError (Response × Directory) := do
  let (stored, active) ← resolveActingMember directory around tenantID userID .invalid
  let passive ← passiveMember stored active memberID
  match around.ask .namespaceDeleteMembership (directory.writeMember stored.tenantID passive.id
      fun members => members.filter fun row => row.id != passive.id) with
  | .error .noDocuments => .error (.namespaceNotFound stored.tenantID)
  | .error error => .error (.store error)
  | .ok next => updatedNamespace next around tenantID

/-- `CancelMembershipInvitation` -/
def cancelMembershipInvitation (tenantID userID invitedUserID : String) :
    Except MemberError (Response × Directory) := do
  let (_, active) ← resolveActingMember directory around tenantID userID .invalid
  match around.fault .membershipInvitationResolve, directory.latestInvitation tenantID invitedUserID with
  | none, some invitation =>
    if invitation.status ≠ .pending then .error (.namespaceMemberNotFound invitedUserID)
    else if !active.role.hasAuthority invitation.role then .error .roleForbidden
    else
      match around.fault .membershipInvitationUpdate with
      | some error => .error (.store error)
      | none => .ok (.ok, directory.updateInvitation { invitation with status := .cancelled })
  | _, _ => .error (.namespaceMemberNotFound invitedUserID)

end Services

/-! ## The routes -/

/-- The identifier of a namespace. -/
abbrev Tenant := { text : String // isUUID text }

/-- The routes that change the members of a namespace or its invitations. -/
inductive Route where
  | addNamespaceMember
  | generateInvitationLink
  | editNamespaceMember
  | removeNamespaceMember
  | cancelMembershipInvitation
  deriving DecidableEq, Repr

def Route.endpoint : Route → Endpoint
  | .addNamespaceMember => .addNamespaceMember
  | .generateInvitationLink => .generateInvitationLink
  | .editNamespaceMember => .editNamespaceMember
  | .removeNamespaceMember => .removeNamespaceMember
  | .cancelMembershipInvitation => .cancelMembershipInvitation

/-- The permission a route asks for. -/
def Route.permission : Route → Permission
  | .addNamespaceMember => .namespaceAddMember
  | .generateInvitationLink => .namespaceAddMember
  | .editNamespaceMember => .namespaceEditMember
  | .removeNamespaceMember => .namespaceRemoveMember
  | .cancelMembershipInvitation => .namespaceRemoveMember

/-- The `member_role` rule. -/
def isMemberRole (text : String) : Bool := Role.ofString text ≠ .invalid

/-- The `validate` tags of the request structs. -/
def validate (route : Route) (record : Record) : Bool :=
  record.text "UserID" != "" &&
    match route with
    | .addNamespaceMember | .generateInvitationLink =>
      record.text "ForwardedHost" != "" && isUUID (record.text "TenantID") &&
        record.text "MemberEmail" != "" && isMemberRole (record.text "MemberRole")
    | .editNamespaceMember =>
      isUUID (record.text "TenantID") && record.text "MemberID" != "" &&
        (record.text "MemberRole" == "" || isMemberRole (record.text "MemberRole"))
    | .removeNamespaceMember => isUUID (record.text "TenantID") && record.text "MemberID" != ""
    | .cancelMembershipInvitation =>
      record.text "TenantID" != "" && record.text "InvitedUserID" != ""

/-- The handlers' service calls. -/
def handle (directory : Directory) (around : Around) (route : Route) (record : Record) :
    Except MemberError (Response × Directory) :=
  let tenantID := record.text "TenantID"
  let userID := record.text "UserID"
  let memberRole := Role.ofString (record.text "MemberRole")
  match route with
  | .addNamespaceMember =>
    addNamespaceMember directory around tenantID userID (record.text "MemberEmail") memberRole
  | .generateInvitationLink =>
    generateInvitationLink directory around tenantID userID (record.text "MemberEmail") memberRole
      (record.text "ForwardedHost") (record.text "ForwardedProto")
  | .editNamespaceMember =>
    updateNamespaceMember directory around tenantID userID (record.text "MemberID") memberRole
  | .removeNamespaceMember =>
    removeNamespaceMember directory around tenantID userID (record.text "MemberID")
  | .cancelMembershipInvitation =>
    cancelMembershipInvitation directory around tenantID userID (record.text "InvitedUserID")

/-- The API keys and the tokens that were handed out. -/
structure Credentials where
  authAPIKey : String → Option APIKeyGrant
  claims : String → Option Claims
  keyTenant : ∀ key grant, authAPIKey key = some grant → isUUID grant.tenantID
  deviceTenant : ∀ token uid tenantID, claims token = some (.device uid tenantID) →
    isUUID tenantID

/-- What the authenticator asks, answered from the stored namespaces and users. -/
def Credentials.authn (credentials : Credentials) (directory : Directory) : AuthnService where
  authAPIKey := credentials.authAPIKey
  claims := credentials.claims
  resolveNamespaceRole tenantID id :=
    if isUUID tenantID then directory.roleOf tenantID id else none
  getUserAdmin id :=
    if id = "" then none
    else (directory.users.find? fun user => user.id == id).map Account.admin
  keyTenant := credentials.keyTenant
  deviceTenant := credentials.deviceTenant
  userTenant tenantID id role found := by
    split at found
    · assumption
    · cases found
  userID := rfl

/-- The bound request of a caller whom the route lets through. -/
def accepted (credentials : Credentials) (directory : Directory) (route : Route)
    (request : Request) : Option Record :=
  (enter (credentials.authn directory) route.endpoint request).filter (validate route)

/-- What a request to one of the member routes leads to; nothing if it is refused or fails. -/
def serve (credentials : Credentials) (directory : Directory) (around : Around) (route : Route)
    (request : Request) : Option (Response × Directory) :=
  (accepted credentials directory route request).bind fun record =>
    (handle directory around route record).toOption

/-- The request presents a user's token that was issued for a namespace, or for none. -/
def Bears (credentials : Credentials) (request : Request) (userID : String)
    (token : Option Tenant) : Prop :=
  request.headers.get "X-API-Key" = "" ∧
    ∃ username, credentials.claims (request.headers.get "Authorization") =
      some (.user userID username ((token.map Subtype.val).getD ""))

/-! ## The guard -/

/-- The guard of a route is on the role the caller's identity brought along. -/
theorem enter_permission {service : AuthnService} {route : Route} {request : Request}
    {record : Record} (entered : enter service route.endpoint request = some record) :
    ∃ identity, service.resolve request.headers = some identity ∧
      identity.role.hasPermission route.permission := by
  obtain ⟨identity, resolved, passes, -⟩ := enter_cases entered
  have asked : route.endpoint.guards.permission = some route.permission := by
    cases route <;> rfl
  have role : (writeTo (some identity) request.headers).get "X-Role" = identity.role.string :=
    get_writeTo identity request.headers "X-Role" (by decide)
  refine ⟨identity, resolved, ?_⟩
  simpa [Guards.pass, asked, requiresPermission, role, Role.ofString_string] using
    (Bool.and_eq_true_iff.mp passes).2

/-- The identity that a user's token resolves to: the user, with the current role in the namespace of
the token. -/
theorem resolve_bears {credentials : Credentials} {directory : Directory} {request : Request}
    {userID : String} {token : Option Tenant} {identity : Identity}
    (bears : Bears credentials request userID token)
    (resolved : (credentials.authn directory).resolve request.headers = some identity) :
    (credentials.authn directory).currentRole userID ((token.map Subtype.val).getD "") =
        some identity.role ∧ identity.id = userID ∧ userID ≠ "" := by
  obtain ⟨noKey, username, claims⟩ := bears
  have known : (credentials.authn directory).claims (request.headers.get "Authorization") =
      some (.user userID username ((token.map Subtype.val).getD "")) := claims
  simp only [Answers.resolve, noKey, ne_eq, not_true_eq_false, if_false, known] at resolved
  split at resolved
  · cases resolved
  · obtain ⟨role, current, rest⟩ := Option.bind_eq_some_iff.mp resolved
    obtain ⟨admin, stored, rfl⟩ := Option.map_eq_some_iff.mp rest
    refine ⟨current, rfl, ?_⟩
    rintro rfl
    cases stored

/-- The role that the guard looks at is the caller's in the namespace of the token. -/
theorem currentRole_token (credentials : Credentials) (directory : Directory) (userID : String)
    (token : Tenant) :
    (credentials.authn directory).currentRole userID token.val =
      directory.roleOf token.val userID := by
  simp [Answers.currentRole, Credentials.authn, ne_empty_of_uuid token.property,
    token.property]

/-- A request that a route lets through has the permission in the namespace of its token, and acts
as the user of the token. -/
theorem accepted_bears {credentials : Credentials} {directory : Directory} {route : Route}
    {request : Request} {record : Record} {userID : String} {token : Option Tenant}
    (bears : Bears credentials request userID token)
    (passed : accepted credentials directory route request = some record) :
    (∃ tenant, token = some tenant ∧
        (directory.roleOf tenant.val userID).any (·.hasPermission route.permission)) ∧
      record.text "UserID" = userID ∧ validate route record := by
  obtain ⟨entered, valid⟩ := Option.filter_eq_some_iff.mp passed
  obtain ⟨identity, resolved, allowed⟩ := enter_permission entered
  obtain ⟨bearer, bearing, -, bound⟩ := enter_cases entered
  cases resolved.symm.trans bearing
  obtain ⟨current, caller, named⟩ := resolve_bears bears resolved
  refine ⟨?_, ?_, valid⟩
  · cases token with
    | none =>
      -- a token of no namespace has no role, and the guard lets none through
      have roleless : Role.invalid = identity.role := Option.some.inj current
      rw [← roleless] at allowed
      cases route <;> cases allowed
    | some tenant =>
      have role := (currentRole_token credentials directory userID tenant).symm.trans current
      exact ⟨tenant, rfl, by simpa [role] using allowed⟩
  · obtain ⟨field, member, name, acting⟩ :=
      userID_acting route.endpoint (by cases route <;> rfl)
    have stamped : identity.attribute "X-ID" = userID := caller
    rw [← name, acting_text member acting bound, stamped, if_neg named]

/-! ## The services' own checks -/

/-- A role with authority over any other is a role. -/
theorem ne_invalid_of_hasAuthority {active passive : Role}
    (outranks : active.hasAuthority passive = true) : active ≠ .invalid := by
  rintro rfl
  cases outranks

section Checks

variable {directory : Directory} {around : Around} {tenantID userID : String}

/-- The first step of a service that goes on: the caller is a member with the authority it asks
for. -/
theorem resolveActingMember_bind {required : Role} {α : Type}
    {next : Namespace × Member → Except MemberError α} {result : α}
    (returned : (resolveActingMember directory around tenantID userID required >>= next) =
      .ok result) :
    ∃ stored member, directory.roleOf tenantID userID = some member.role ∧
      (required ≠ .invalid → member.role ≠ .invalid) ∧ next (stored, member) = .ok result := by
  unfold resolveActingMember at returned
  split at returned
  · cases returned
  · rename_i stored answered
    have found : directory.namespaceOf tenantID = some stored := by
      unfold Around.ask at answered
      split at answered
      · cases answered
      · unfold Directory.namespaceResolve at answered
        split at answered
        · cases answered
        · cases answered
          assumption
    split at returned
    · cases returned
    · rename_i member known
      split at returned
      · cases returned
      · rename_i ranked
        refine ⟨stored, member, by simp [Directory.roleOf, found, known], fun asked => ?_, returned⟩
        have outranks : member.role.hasAuthority required = true := by simpa [asked] using ranked
        exact ne_invalid_of_hasAuthority outranks

/-- A service that acts on another member asks for a rank. -/
theorem passiveMember_bind {stored : Namespace} {active : Member} {memberID : String} {α : Type}
    {next : Member → Except MemberError α} {result : α}
    (returned : (passiveMember stored active memberID >>= next) = .ok result) :
    active.role ≠ .invalid := by
  unfold passiveMember at returned
  split at returned
  · cases returned
  · split at returned
    · cases returned
    · split at returned
      · cases returned
      · rename_i ranked
        exact ne_invalid_of_hasAuthority (by simpa using ranked)

/-- Whoever a route serves is a member of the namespace that the request names. -/
theorem handle_member {route : Route} {record : Record} {result : Response × Directory}
    (valid : validate route record)
    (handled : handle directory around route record = .ok result) :
    ∃ role, directory.roleOf (record.text "TenantID") (record.text "UserID") = some role ∧
      role ≠ .invalid := by
  cases route with
  | addNamespaceMember | generateInvitationLink =>
    obtain ⟨_, member, role, ranked, -⟩ := resolveActingMember_bind handled
    refine ⟨member.role, role, ranked ?_⟩
    simp only [validate, isMemberRole, Bool.and_eq_true, decide_eq_true_eq] at valid
    exact valid.2.2
  | editNamespaceMember | removeNamespaceMember =>
    obtain ⟨_, member, role, -, rest⟩ := resolveActingMember_bind handled
    exact ⟨member.role, role, passiveMember_bind rest⟩
  | cancelMembershipInvitation =>
    obtain ⟨_, member, role, -, rest⟩ := resolveActingMember_bind handled
    refine ⟨member.role, role, ?_⟩
    dsimp only at rest
    split at rest
    · split at rest
      · cases rest
      · split at rest
        · cases rest
        · rename_i ranked
          exact ne_invalid_of_hasAuthority (by simpa using ranked)
    · cases rest

end Checks

/-! ## A user of two namespaces -/

def homeTenant : String := "00000000-0000-4000-8000-00000000000a"

def targetTenant : String := "00000000-0000-4000-8000-00000000000b"

/-- A namespace with the given members, under default settings. -/
def namespaceWith (tenantID : String) (members : List Member) : Namespace :=
  { plainNamespace tenantID with members }

/-- A user with roles in two namespaces; the second one has a member and an invitation of a third
role. -/
def neighbours (held role below : Role) : Directory where
  namespaces := [namespaceWith homeTenant [⟨"user", held, false⟩],
    namespaceWith targetTenant
      [⟨"owner", .owner, false⟩, ⟨"user", role, false⟩, ⟨"member", below, false⟩]]
  users := [⟨"user", "user@example.com", false⟩]
  userInvitations := []
  invitations := [⟨"invitation", targetTenant, "guest", "owner", 0, none, .pending, below, 1, "sig"⟩]

/-- The user has a token for one of the two namespaces. -/
def tokenFor (tenantID : String) : Credentials where
  authAPIKey _ := none
  claims token := if token = "Bearer user" then some (.user "user" "user" tenantID) else none
  keyTenant := no_grant
  deviceTenant token uid tenantID found := by
    split at found <;> cases found

/-- The user's request to a route, on the second namespace, with the role it asks for. -/
def attempt (route : Route) (asked : String) : Request :=
  let role := ("role", Json.string asked)
  let (method, path, body) : Method × List (String × String) × Option Json :=
    match route with
    | .addNamespaceMember | .generateInvitationLink =>
      (.POST, [], some (.object [("email", .string "new@example.com"), role]))
    | .editNamespaceMember => (.PATCH, [("uid", "member")], some (.object [role]))
    | .removeNamespaceMember => (.DELETE, [("uid", "member")], none)
    | .cancelMembershipInvitation => (.DELETE, [("uid", "guest")], none)
  { method, path := ("tenant", targetTenant) :: path, query := [], body
    headers := [("Authorization", "Bearer user"), ("X-Forwarded-Host", "host")] }

/-- Nothing fails. -/
def quiet : Around := ⟨fun _ => none, false, 0, "fresh", "code"⟩

/-! ## Permissions -/

/-- A success of a user's token on a namespace is permitted there: the caller's role in the namespace
has the permission that the route asks for. -/
def Permitted (credentials : Credentials) (directory : Directory) (around : Around) (route : Route)
    (request : Request) (userID : String) (target : Tenant) : Prop :=
  (accepted credentials directory route request).map (·.text "TenantID") = some target.val →
    (serve credentials directory around route request).isSome →
      (directory.roleOf target.val userID).any (·.hasPermission route.permission)

/-- A success leaves no other way: the caller has the permission in the namespace of the token, and
is a member of the target. -/
theorem of_success {credentials : Credentials} {directory : Directory} {around : Around}
    {route : Route} {request : Request} {userID : String} {token : Option Tenant} {target : Tenant}
    (bears : Bears credentials request userID token)
    (named : (accepted credentials directory route request).map (·.text "TenantID") =
      some target.val)
    (succeeds : (serve credentials directory around route request).isSome) :
    (∃ tenant, token = some tenant ∧
        (directory.roleOf tenant.val userID).any (·.hasPermission route.permission)) ∧
      ∃ role, directory.roleOf target.val userID = some role ∧ role ≠ .invalid := by
  obtain ⟨record, passed, tenant⟩ := Option.map_eq_some_iff.mp named
  obtain ⟨held, caller, valid⟩ := accepted_bears bears passed
  rw [serve, passed, Option.bind_some] at succeeds
  obtain ⟨result, handled⟩ : ∃ result, handle directory around route record = .ok result := by
    cases outcome : handle directory around route record with
    | error error => rw [outcome] at succeeds; cases succeeds
    | ok result => exact ⟨result, rfl⟩
  have member := handle_member valid handled
  rw [tenant, caller] at member
  exact ⟨held, member⟩

/-- The roles that the services accept without a permission to change members. -/
theorem unpermitted_succeeds : ∀ route : Route, ∀ held ∈ [Role.administrator, .owner],
    ∀ role ∈ [Role.observer, .operator, .service],
      (accepted (tokenFor homeTenant) (neighbours held role .service) route
          (attempt route "service")).map (·.text "TenantID") = some targetTenant ∧
        (serve (tokenFor homeTenant) (neighbours held role .service) quiet route
          (attempt route "service")).isSome := by
  intro route
  cases route <;> decide +kernel

/-- A success with a token of the target namespace, or of none, is permitted. With a token of another
namespace, the successes of callers with given roles in the two namespaces are all permitted if and
only if the role in the namespace of the token lacks the permission, so that the guard refuses, or
the role in the target has it, or is no role, so that the service refuses. For every other pair of
roles a call is given that succeeds. -/
theorem success_permitted (route : Route) (held role : Option Role) :
    (∀ credentials directory around request userID token target,
      Bears credentials request userID token → token = none ∨ token = some target →
        Permitted credentials directory around route request userID target) ∧
      ((∀ credentials directory around request userID token target,
          Bears credentials request userID (some token) → token ≠ target →
          directory.roleOf token.val userID = held → directory.roleOf target.val userID = role →
            Permitted credentials directory around route request userID target) ↔
        held.any (·.hasPermission route.permission) = false ∨
          role.any (·.hasPermission route.permission) ∨ role = none ∨ role = some .invalid) := by
  refine ⟨fun credentials directory around request userID token target bears own named
    succeeds => ?_, fun permitted => ?_, fun condition => ?_⟩
  · obtain ⟨⟨tenant, rfl, allowed⟩, -⟩ := of_success bears named succeeds
    rcases own with none | same
    · cases none
    · cases same
      exact allowed
  · -- a role that would be served without the permission has a run of its own
    by_contra escape
    simp only [not_or, Bool.not_eq_false, Bool.not_eq_true] at escape
    obtain ⟨allowed, refused, present, valid⟩ := escape
    obtain ⟨held, rfl⟩ : ∃ some_, held = some some_ := by
      cases held with
      | none => cases allowed
      | some held => exact ⟨held, rfl⟩
    obtain ⟨role, rfl⟩ := Option.ne_none_iff_exists'.mp present
    have holds : held ∈ [Role.administrator, .owner] := by
      revert allowed
      cases route <;> cases held <;> decide
    have lacks : role ∈ [Role.observer, .operator, .service] := by
      revert refused valid
      cases route <;> cases role <;> decide
    obtain ⟨named, succeeds⟩ := unpermitted_succeeds route held holds role lacks
    have home : isUUID homeTenant := by decide +kernel
    have target : isUUID targetTenant := by decide +kernel
    have other : (⟨homeTenant, home⟩ : Tenant) ≠ ⟨targetTenant, target⟩ := by
      have different : homeTenant ≠ targetTenant := by decide
      exact fun same => different (congrArg Subtype.val same)
    have granted := permitted (tokenFor homeTenant) (neighbours held role .service) quiet
      (attempt route "service") "user" ⟨homeTenant, home⟩ ⟨targetTenant, target⟩
      ⟨by cases route <;> decide +kernel, "user", by cases route <;> rfl⟩ other rfl rfl named succeeds
    have stored : (neighbours held role .service).roleOf targetTenant "user" = some role := rfl
    rw [stored, refused] at granted
    cases granted
  · rintro credentials directory around request userID token target bears - rfl rfl named succeeds
    obtain ⟨⟨tenant, same, allowed⟩, member, stored, valid⟩ := of_success bears named succeeds
    cases same
    rcases condition with lacks | permitted | absent | invalid
    · rw [lacks] at allowed
      cases allowed
    · exact permitted
    · rw [stored] at absent
      cases absent
    · rw [stored] at invalid
      exact absurd (Option.some.inj invalid) valid

theorem success_permitted_for_administrator :
    (serve (tokenFor targetTenant) (neighbours .owner .administrator .observer) quiet
      .editNamespaceMember (attempt .editNamespaceMember "operator")).isSome ∧
    ((neighbours .owner .administrator .observer).roleOf targetTenant "user").any
      (·.hasPermission .namespaceEditMember) :=
  ⟨by decide +kernel, (success_permitted .editNamespaceMember none none).1 (tokenFor targetTenant)
    (neighbours .owner .administrator .observer) quiet (attempt .editNamespaceMember "operator") "user"
    (some ⟨targetTenant, by decide +kernel⟩) ⟨targetTenant, by decide +kernel⟩
    ⟨by decide +kernel, "user", rfl⟩ (.inr rfl) (by decide +kernel) (by decide +kernel)⟩

/-- An operator has none of the permissions, and with the token of a namespace they own succeeds by
each route; the member is an operator after the one that edits it. -/
theorem operator_succeeds :
    ([.addNamespaceMember, .generateInvitationLink, .editNamespaceMember, .removeNamespaceMember,
        .cancelMembershipInvitation].all fun route =>
      (serve (tokenFor homeTenant) (neighbours .owner .operator .observer) quiet route
          (attempt route "operator")).isSome &&
        (neighbours .owner .operator .observer).roleOf targetTenant "user" = some .operator &&
        !Role.operator.hasPermission route.permission) ∧
    ((serve (tokenFor homeTenant) (neighbours .owner .operator .observer) quiet
        .editNamespaceMember (attempt .editNamespaceMember "operator")).bind fun result =>
          result.2.roleOf targetTenant "member") =
      some .operator := by
  decide +kernel

end ShellHub.MemberRoutes
