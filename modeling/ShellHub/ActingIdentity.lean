import ShellHub.Identities
import ShellHub.Namespaces
import ShellHub.RequestTypes

/-!
# Who a request acts as

Many request structs take the acting user, tenant, role or device from the identity headers.
These fields have no json tag, so the body can set them too, and a header overrides the body
only when it is present. Whether a body can choose who acts therefore depends on which
attributes the caller's credential lacks.

The routes with such a struct are listed with their guards. For every one of them the acting
fields are the caller's own exactly when, for each attribute the caller lacks, neither the
body nor the path gives the field a text.
-/

namespace ShellHub.ActingIdentity

open JsonDecoding RequestBinding Identities Roles Namespaces

/-- The headers that name the acting user, tenant, role and device. -/
def actingHeaders : List String := ["X-ID", "X-Tenant-ID", "X-Role", "X-Device-UID"]

/-- The acting header that a field is bound from, if it is bound from one. -/
def actingHeader (field : Field) : Option String :=
  field.header.bind fun tag => actingHeaders.find? fun header => sameName header tag

/-- The handlers whose request struct has an acting field, by route. -/
inductive Endpoint where
  | createUserToken
  | switchNamespace
  | createAPIKey
  | listAPIKeys
  | updateAPIKey
  | deleteAPIKey
  | createInstallKey
  | listInstallKeys
  | updateInstallKey
  | revealInstallKey
  | historyInstallKey
  | updateUser
  | generateInvitationLink
  | acceptInvite
  | getUserMembershipInvitationList
  | getNamespaceMembershipInvitationList
  | cancelMembershipInvitation
  | getDeviceList
  | resolveDevice
  | updateDevice
  | updateDeviceStatus
  | setDeviceCustomField
  | deleteDeviceCustomField
  | getTags
  | createTag
  | updateTag
  | deleteTag
  | pushTagToDevice
  | pullTagFromDevice
  | getSessionList
  | getStats
  | getPublicKeys
  | createNamespace
  | getNamespaceList
  | addNamespaceMember
  | editNamespaceMember
  | removeNamespaceMember
  | leaveNamespace
  | handleConnectionV2
  deriving DecidableEq, Repr

/-- The request struct of an endpoint. -/
def Endpoint.type : Endpoint → StructType
  | .createUserToken => RequestTypes.createUserToken
  | .switchNamespace => RequestTypes.createUserToken
  | .createAPIKey => RequestTypes.createAPIKey
  | .listAPIKeys => RequestTypes.listAPIKey
  | .updateAPIKey => RequestTypes.updateAPIKey
  | .deleteAPIKey => RequestTypes.deleteAPIKey
  | .createInstallKey => RequestTypes.createInstallKey
  | .listInstallKeys => RequestTypes.listInstallKey
  | .updateInstallKey => RequestTypes.updateInstallKey
  | .revealInstallKey => RequestTypes.revealInstallKey
  | .historyInstallKey => RequestTypes.listInstallKeyEvents
  | .updateUser => RequestTypes.updateUser
  | .generateInvitationLink => RequestTypes.generateInvitationLink
  | .acceptInvite => RequestTypes.acceptInvite
  | .getUserMembershipInvitationList => RequestTypes.userMembershipInvitationList
  | .getNamespaceMembershipInvitationList => RequestTypes.namespaceMembershipInvitationList
  | .cancelMembershipInvitation => RequestTypes.cancelMembershipInvitation
  | .getDeviceList => RequestTypes.deviceList
  | .resolveDevice => RequestTypes.resolveDevice
  | .updateDevice => RequestTypes.deviceUpdate
  | .updateDeviceStatus => RequestTypes.deviceUpdateStatus
  | .setDeviceCustomField => RequestTypes.deviceSetCustomField
  | .deleteDeviceCustomField => RequestTypes.deviceDeleteCustomField
  | .getTags => RequestTypes.listTags
  | .createTag => RequestTypes.createTag
  | .updateTag => RequestTypes.updateTag
  | .deleteTag => RequestTypes.deleteTag
  | .pushTagToDevice => RequestTypes.pushTag
  | .pullTagFromDevice => RequestTypes.pullTag
  | .getSessionList => RequestTypes.listSessions
  | .getStats => RequestTypes.getStats
  | .getPublicKeys => RequestTypes.listPublicKeys
  | .createNamespace => RequestTypes.namespaceCreate
  | .getNamespaceList => RequestTypes.namespaceList
  | .addNamespaceMember => RequestTypes.namespaceAddMember
  | .editNamespaceMember => RequestTypes.namespaceUpdateMember
  | .removeNamespaceMember => RequestTypes.namespaceRemoveMember
  | .leaveNamespace => RequestTypes.leaveNamespace
  | .handleConnectionV2 => RequestTypes.handleConnectionV2Data

/-- The middlewares a route is registered with. -/
structure Guards where
  authorizes : Bool
  blocksAPIKey : Bool
  permission : Option Permission

/-- A route without a middleware of its own. -/
def Guards.open_ : Guards := ⟨false, false, none⟩

/-- A route with `BlockAPIKey`. -/
def Guards.blocked : Guards := ⟨false, true, none⟩

/-- A route with `Authorize`. -/
def Guards.authorized : Guards := ⟨true, false, none⟩

/-- A route with `RequiresPermission`. -/
def Guards.permitted (permission : Permission) : Guards := ⟨false, false, some permission⟩

/-- A route with `BlockAPIKey` and `RequiresPermission`. -/
def Guards.blockedPermitted (permission : Permission) : Guards := ⟨false, true, some permission⟩

/-- The middlewares of an endpoint's route. -/
def Endpoint.guards : Endpoint → Guards
  | .createUserToken => .open_
  | .switchNamespace => .blocked
  | .createAPIKey => .blockedPermitted .apiKeyCreate
  | .listAPIKeys => .blocked
  | .updateAPIKey => .blockedPermitted .apiKeyUpdate
  | .deleteAPIKey => .blockedPermitted .apiKeyDelete
  | .createInstallKey => .blockedPermitted .installKeyCreate
  | .listInstallKeys => .blockedPermitted .installKeyList
  | .updateInstallKey => .blockedPermitted .installKeyUpdate
  | .revealInstallKey => .blockedPermitted .installKeyReveal
  | .historyInstallKey => .blockedPermitted .installKeyList
  | .updateUser => .blocked
  | .generateInvitationLink => .blockedPermitted .namespaceAddMember
  | .acceptInvite => .blocked
  | .getUserMembershipInvitationList => .open_
  | .getNamespaceMembershipInvitationList => .permitted .namespaceEditMember
  | .cancelMembershipInvitation => .permitted .namespaceRemoveMember
  | .getDeviceList => .authorized
  | .resolveDevice => .authorized
  | .updateDevice => .permitted .deviceUpdate
  | .updateDeviceStatus => .permitted .deviceAccept
  | .setDeviceCustomField => .permitted .deviceCustomFieldUpdate
  | .deleteDeviceCustomField => .permitted .deviceCustomFieldUpdate
  | .getTags => .open_
  | .createTag => .permitted .tagCreate
  | .updateTag => .permitted .tagUpdate
  | .deleteTag => .permitted .tagDelete
  | .pushTagToDevice => .permitted .tagCreate
  | .pullTagFromDevice => .permitted .tagDelete
  | .getSessionList => .authorized
  | .getStats => .authorized
  | .getPublicKeys => .open_
  | .createNamespace => .blocked
  | .getNamespaceList => .blocked
  | .addNamespaceMember => .permitted .namespaceAddMember
  | .editNamespaceMember => .permitted .namespaceEditMember
  | .removeNamespaceMember => .permitted .namespaceRemoveMember
  | .leaveNamespace => .blocked
  | .handleConnectionV2 => .open_

/-- A stamped request passes a route's middlewares. -/
def Guards.pass (guards : Guards) (request : Request) : Bool :=
  (!guards.authorizes || authorize request) && (!guards.blocksAPIKey || blockAPIKey request) &&
    guards.permission.all fun permission => requiresPermission permission request

/-- The struct an endpoint's handler is left with, when the request gets that far. -/
def enter (service : AuthnService) (endpoint : Endpoint) (request : Request) : Option Record :=
  (service.middleware false false request).bind fun stamped =>
    if endpoint.guards.pass stamped then bind endpoint.type stamped else none

/-! ## Tokens and member changes -/

/-- A user's account. -/
structure User where
  id : String
  username : String
  admin : Bool
  deriving DecidableEq, Repr

/-- What `CreateUserToken` reads: accounts by identifier, the namespace a user prefers, and
namespaces by tenant. -/
structure Accounts where
  userResolve : (id : String) → Option { user : User // user.id = id }
  namespaceGetPreferred : String → Option Namespace
  namespaceResolve : String → Option Namespace

/-- The claims of a minted token. -/
structure UserClaims where
  id : String
  tenantID : String
  username : String
  admin : Bool
  deriving DecidableEq, Repr

/-- `CreateUserToken`: a token for the named user in the named namespace, or in the one they
prefer, or in none. The user must be a member of the namespace. -/
def createUserToken (accounts : Accounts) (userID tenantID : String) : Option UserClaims := do
  let user ← accounts.userResolve userID
  let claims (tenantID : String) : UserClaims :=
    { id := user.val.id, tenantID, username := user.val.username, admin := user.val.admin }
  let within (stored : Namespace) : Option UserClaims :=
    (stored.findMember user.val.id).map fun _ => claims stored.tenantID
  if tenantID = "" then
    match accounts.namespaceGetPreferred user.val.id with
    | none => some (claims "")
    | some preferred => within preferred
  else (accounts.namespaceResolve tenantID).bind within

/-- The endpoints that mint a token. -/
def Endpoint.mintsToken (endpoint : Endpoint) : Bool :=
  endpoint = .createUserToken || endpoint = .switchNamespace

/-- The user a token is minted for by a request, through the two token routes. The struct's
tags are `required` and `omitempty,uuid`. -/
def mintedFor (service : AuthnService) (accounts : Accounts) (endpoint : Endpoint)
    (request : Request) : Option String :=
  if endpoint.mintsToken then
    (enter service endpoint request).bind fun record =>
      let userID := record.text "UserID"
      let tenantID := record.text "TenantID"
      if userID ≠ "" ∧ (tenantID = "" ∨ isUUID tenantID) then
        (createUserToken accounts userID tenantID).map UserClaims.id
      else none
  else none

/-- The endpoints that change who is a member of a namespace, or invite to it. -/
def Endpoint.changesMembers : Endpoint → Bool
  | .addNamespaceMember => true
  | .editNamespaceMember => true
  | .removeNamespaceMember => true
  | .leaveNamespace => true
  | .generateInvitationLink => true
  | .cancelMembershipInvitation => true
  | .acceptInvite => true
  | _ => false

/-- The user a member change is authorized as. -/
def memberActor (service : AuthnService) (endpoint : Endpoint) (request : Request) :
    Option String :=
  if endpoint.changesMembers then
    (enter service endpoint request).map fun record => record.text "UserID"
  else none

/-! ## The acting fields -/

/-- A request acts as its caller: its acting fields hold the attributes of the caller's
identity, a token is minted for nobody but the user whose own token was presented, and a
member change is authorized as the calling user. -/
structure ActsAsCaller (service : AuthnService) (accounts : Accounts) (endpoint : Endpoint)
    (request : Request) : Prop where
  fields : ∀ record, enter service endpoint request = some record →
    ∃ identity, service.resolve request.headers = some identity ∧
      ∀ field ∈ endpoint.type.fields, ∀ header, actingHeader field = some header →
        record.text field.name = identity.attribute header
  token : ∀ user, mintedFor service accounts endpoint request = some user →
    ∃ identity, service.resolve request.headers = some identity ∧ identity.id = user ∧ user ≠ ""
  member : ∀ user, memberActor service endpoint request = some user →
    ∃ identity, service.resolve request.headers = some identity ∧ identity.id = user

/-- For each acting attribute that the caller lacks, the request gives the field no text:
neither its body, nor, where the body does not set the field, its query or path. -/
def NamesNobody (service : AuthnService) (endpoint : Endpoint) (request : Request) : Prop :=
  (enter service endpoint request).isSome →
    ∀ identity, service.resolve request.headers = some identity →
      ∀ field ∈ endpoint.type.fields, ∀ header, actingHeader field = some header →
        identity.attribute header = "" → clientText endpoint.type field request = ""

/-- Whether a field is a string. -/
def isString (field : Field) : Bool :=
  match field.shape with
  | .scalar .string => true
  | _ => false

/-- Every acting field is a string. -/
theorem acting_string (endpoint : Endpoint) :
    ∀ field ∈ endpoint.type.fields, (actingHeader field).isSome → isString field := by
  cases endpoint <;> decide

/-- The endpoints that mint tokens or change members take the acting user from `UserID`. -/
theorem userID_acting (endpoint : Endpoint)
    (acts : endpoint.mintsToken || endpoint.changesMembers) :
    ∃ field ∈ endpoint.type.fields, field.name = "UserID" ∧ actingHeader field = some "X-ID" := by
  revert acts
  cases endpoint <;> decide

/-- What a request that reaches its handler has passed. -/
theorem enter_cases {service : AuthnService} {endpoint : Endpoint} {request : Request}
    {record : Record} (entered : enter service endpoint request = some record) :
    ∃ identity, service.resolve request.headers = some identity ∧
      endpoint.guards.pass { request with headers := writeTo (some identity) request.headers } ∧
      bind endpoint.type { request with headers := writeTo (some identity) request.headers } =
        some record := by
  obtain ⟨stamped, passed, rest⟩ := Option.bind_eq_some_iff.mp entered
  unfold Answers.middleware at passed
  cases resolved : service.resolve request.headers with
  | none => simp [resolved] at passed
  | some identity =>
    simp only [resolved, Option.isNone_some, Bool.false_and, Bool.false_eq_true, if_false,
      Option.some.injEq] at passed
    subst passed
    split at rest
    · rename_i passes
      exact ⟨identity, rfl, passes, rest⟩
    · cases rest

/-- An acting field is bound to the caller's attribute, else to the client's text. -/
theorem acting_text {endpoint : Endpoint} {request : Request} {identity : Identity}
    {record : Record} {field : Field} {header : String} (member : field ∈ endpoint.type.fields)
    (acting : actingHeader field = some header)
    (bound : bind endpoint.type
      { request with headers := writeTo (some identity) request.headers } = some record) :
    record.text field.name =
      if identity.attribute header = "" then clientText endpoint.type field request
      else identity.attribute header := by
  have string : field.shape = .scalar .string := by
    have decided := acting_string endpoint field member (by simp [acting])
    unfold isString at decided
    split at decided
    · assumption
    · cases decided
  obtain ⟨tag, tagged, found⟩ := Option.bind_eq_some_iff.mp acting
  have same : sameName header tag = true := by
    have matched := List.find?_some found
    exact matched
  have listed : header ∈ identityHeaders :=
    (by decide : ∀ header ∈ actingHeaders, header ∈ identityHeaders) header (List.mem_of_find?_eq_some found)
  have value : lookupHeader (writeTo (some identity) request.headers) tag =
      if identity.attribute header ≠ "" then some (identity.attribute header) else none := by
    rw [← lookupHeader_congr same, lookupHeader_writeTo identity request.headers header listed]
  rw [Record.text, bind_text endpoint.type member string bound]
  simp only [boundText, tagged, Option.bind_some, Request.header, value]
  by_cases empty : identity.attribute header = ""
  · simp only [empty, ne_eq, not_true_eq_false, if_false, if_true, Option.getD_none]
    rfl
  · simp [empty]

/-- A token is minted for the user it was asked for. -/
theorem createUserToken_id {accounts : Accounts} {userID tenantID : String} {claims : UserClaims}
    (minted : createUserToken accounts userID tenantID = some claims) : claims.id = userID := by
  obtain ⟨user, _, rest⟩ := Option.bind_eq_some_iff.mp minted
  split at rest
  · split at rest
    · cases rest
      exact user.property
    · obtain ⟨_, _, rfl⟩ := Option.map_eq_some_iff.mp rest
      exact user.property
  · obtain ⟨_, _, rest⟩ := Option.bind_eq_some_iff.mp rest
    obtain ⟨_, _, rfl⟩ := Option.map_eq_some_iff.mp rest
    exact user.property

/-- The user of a minted token is the bound, non-empty `UserID`. -/
theorem mintedFor_cases {service : AuthnService} {accounts : Accounts} {endpoint : Endpoint}
    {request : Request} {user : String}
    (minted : mintedFor service accounts endpoint request = some user) :
    endpoint.mintsToken ∧ ∃ record, enter service endpoint request = some record ∧
      record.text "UserID" = user ∧ user ≠ "" := by
  unfold mintedFor at minted
  split at minted
  · rename_i mints
    obtain ⟨record, entered, rest⟩ := Option.bind_eq_some_iff.mp minted
    simp only at rest
    split at rest
    · rename_i valid
      obtain ⟨claims, created, rfl⟩ := Option.map_eq_some_iff.mp rest
      have owner := createUserToken_id created
      exact ⟨mints, record, entered, owner.symm, owner ▸ valid.1⟩
    · cases rest
  · cases minted

/-- A request acts as its caller exactly when it names nobody in the caller's place. -/
theorem actsAsCaller_iff (service : AuthnService) (accounts : Accounts) (endpoint : Endpoint)
    (request : Request) :
    ActsAsCaller service accounts endpoint request ↔ NamesNobody service endpoint request := by
  constructor
  · intro acts entered identity resolved field member header acting lacks
    obtain ⟨record, entered⟩ := Option.isSome_iff_exists.mp entered
    obtain ⟨caller, calling, own⟩ := acts.fields record entered
    obtain ⟨bearer, bearing, -, bound⟩ := enter_cases entered
    cases resolved.symm.trans calling
    cases resolved.symm.trans bearing
    have text := acting_text member acting bound
    rw [own field member header acting, lacks, if_pos rfl] at text
    exact text.symm
  · intro nobody
    have fields : ∀ record, enter service endpoint request = some record →
        ∃ identity, service.resolve request.headers = some identity ∧
          ∀ field ∈ endpoint.type.fields, ∀ header, actingHeader field = some header →
            record.text field.name = identity.attribute header := by
      intro record entered
      obtain ⟨identity, resolved, -, bound⟩ := enter_cases entered
      refine ⟨identity, resolved, ?_⟩
      intro field member header acting
      rw [acting_text member acting bound]
      by_cases lacks : identity.attribute header = ""
      · rw [if_pos lacks, lacks]
        exact nobody (by simp [entered]) identity resolved field member header acting lacks
      · rw [if_neg lacks]
    have user : ∀ record, enter service endpoint request = some record →
        endpoint.mintsToken || endpoint.changesMembers →
          ∃ identity, service.resolve request.headers = some identity ∧
            identity.id = record.text "UserID" := by
      intro record entered acts
      obtain ⟨identity, resolved, own⟩ := fields record entered
      obtain ⟨field, member, named, acting⟩ := userID_acting endpoint acts
      refine ⟨identity, resolved, ?_⟩
      rw [← named, own field member "X-ID" acting]
      rfl
    refine ⟨fields, ?_, ?_⟩
    · intro minted mint
      obtain ⟨mints, record, entered, rfl, nonempty⟩ := mintedFor_cases mint
      obtain ⟨identity, resolved, same⟩ := user record entered (by simp [mints])
      exact ⟨identity, resolved, same, nonempty⟩
    · intro actor change
      unfold memberActor at change
      split at change
      · rename_i changes
        obtain ⟨record, entered, rfl⟩ := Option.map_eq_some_iff.mp change
        exact user record entered (by simp [changes])
      · cases change

/-- Two requests that differ only in their bodies both act as the caller exactly when neither body,
nor the path they share, names anybody for an attribute the caller lacks. `actsAsCaller_iff` settles
one request, and the two share everything but their bodies. -/
theorem bodies_act_as_caller_iff (service : AuthnService) (accounts : Accounts)
    (endpoint : Endpoint) (request : Request) (first second : Option Json) :
    (ActsAsCaller service accounts endpoint { request with body := first } ∧
      ActsAsCaller service accounts endpoint { request with body := second }) ↔
    (NamesNobody service endpoint { request with body := first } ∧
      NamesNobody service endpoint { request with body := second }) := by
  rw [actsAsCaller_iff, actsAsCaller_iff]

/-- An instance with one API key, of an observer. -/
def keyService : AuthnService where
  authAPIKey key :=
    if key = "key" then some ⟨"00000000-0000-4000-8000-00000000000a", .observer⟩ else none
  claims _ := none
  resolveNamespaceRole _ _ := none
  getUserAdmin _ := none
  keyTenant key grant found := by
    split at found
    · cases found
      decide
    · cases found
  deviceTenant _ _ _ found := by cases found
  userTenant _ _ _ found := by cases found
  userID := rfl

/-- Accounts for every identifier, none of them in a namespace. -/
def plainAccounts : Accounts where
  userResolve id := some ⟨{ id, username := id, admin := false }, rfl⟩
  namespaceGetPreferred _ := none
  namespaceResolve _ := none

/-- A request for a token with nothing but an API key. -/
def keyRequest (body : Option Json) : Request :=
  { method := .GET, path := [], query := [], headers := [("X-API-Key", "key")], body }

/-- An API key mints a token for the user its body names, and none without that body. -/
theorem apiKey_mints_token_of_body :
    (keyService.resolve (keyRequest none).headers).map Identity.id = some "" ∧
      mintedFor keyService plainAccounts .createUserToken (keyRequest none) = none ∧
      mintedFor keyService plainAccounts .createUserToken
        (keyRequest (some (.object [("UserID", .string "victim")]))) = some "victim" := by
  decide +kernel

end ShellHub.ActingIdentity
