import ShellHub.Identities
import ShellHub.Namespaces
import ShellHub.RequestTypes

/-!
# The namespace routes behind the tenant guard

Six routes are registered with `RequiresTenant`: the guard compares the raw path value with
the caller's tenant, and the handler then acts on the tenant of the bound request struct.
The struct's tenant field has no json tag, so the body of the request can set it as well,
after the guard has looked at the path.

A request is followed from the credential to the store calls it causes. The calls concern
the tenant the struct was bound to, and that is the caller's tenant exactly when the body
names no other one.
-/

namespace ShellHub.NamespaceRoutes

open JsonDecoding RequestBinding Identities Roles Programs Namespaces

/-- The routes registered with `RequiresTenant`. -/
inductive Route where
  | getNamespace
  | editNamespace
  | deleteNamespace
  | listNamespaceMembers
  | editSessionRecordStatus
  | editSSHAccessMode
  deriving DecidableEq, Repr

/-- The request struct of a route. -/
def Route.type : Route → StructType
  | .getNamespace => RequestTypes.namespaceGet
  | .editNamespace => RequestTypes.namespaceEdit
  | .deleteNamespace => RequestTypes.namespaceDelete
  | .listNamespaceMembers => RequestTypes.memberList
  | .editSessionRecordStatus => RequestTypes.sessionEditRecordStatus
  | .editSSHAccessMode => RequestTypes.editSSHAccessMode

/-- The field that holds the tenant a route acts on. -/
def Route.tenantField : Route → Field
  | .listNamespaceMembers => RequestTypes.fromPath "TenantID" "tenant"
  | _ => RequestTypes.tenantParam

/-- The permission a route asks for, besides the guard. -/
def Route.permission : Route → Option Permission
  | .getNamespace => none
  | .editNamespace => some .namespaceUpdate
  | .deleteNamespace => some .namespaceDelete
  | .listNamespaceMembers => none
  | .editSessionRecordStatus => some .namespaceEnableSessionRecord
  | .editSSHAccessMode => some .namespaceUpdate

/-- One label of `hostname_rfc1123`. -/
def isLabel : List Char → Bool
  | [] => false
  | first :: rest =>
    first.isAlphanum && rest.length ≤ 62 && rest.all fun letter => letter.isAlphanum || letter == '-'

/-- The rules of a namespace's new name: `omitempty,hostname_rfc1123,excludes=.`. Without
dots a host name is a single label. -/
def isNamespaceName (name : String) : Bool :=
  name == "" || (isLabel name.toList && !name.toList.contains '.')

/-- The rules of an announcement: `omitempty,min=0,max=4096`. -/
def isAnnouncement : Value → Bool
  | .string text => text.toList.length ≤ 4096
  | _ => true

/-- The access mode a request names, under `required,oneof=legacy identity`. -/
def accessMode (text : String) : Option SSHAccessMode :=
  if text = "legacy" then some .legacy
  else if text = "identity" then some .identity
  else none

/-- The `validate` tags of the request structs. Every tenant is `required,uuid`. -/
def validate (route : Route) (record : Record) : Bool :=
  isUUID (record.text route.tenantField.name) &&
    match route with
    | .editNamespace =>
      isNamespaceName (record.text "Name") &&
        isAnnouncement (record "Settings.ConnectionAnnouncement")
    | .editSSHAccessMode => (accessMode (record.text "SSHAccessMode")).isSome
    | _ => true

/-- Why a request is turned away before its handler acts. -/
inductive Refusal where
  | unauthorized
  | forbidden
  | unprocessable
  | invalid
  deriving DecidableEq, Repr

/-- The way of a request to the handler's service call: the authenticator, the two guards,
the binder and the validator. -/
def letThrough (service : AuthnService) (route : Route) (request : Request) :
    Except Refusal (Request × Record) :=
  match service.middleware false false request with
  | none => .error .unauthorized
  | some request =>
    if !requiresTenant "tenant" request then .error .forbidden
    else if route.permission.any fun permission => !requiresPermission permission request then
      .error .forbidden
    else match bind route.type request with
      | none => .error .unprocessable
      | some record => if validate route record then .ok (request, record) else .error .invalid

/-- What the caller gets back. -/
inductive Response where
  | refused (refusal : Refusal)
  | notFound
  | forbidden
  | namespace_ (stored : Namespace)
  | members (members : List Member)
  | failed (error : ServiceError)
  | noContent
  deriving DecidableEq, Repr

/-- The flag of a boolean field, or of a pointer to one that is set. -/
def flag : Value → Option Bool
  | .bool value => some value
  | _ => none

/-- The text of a pointer to a string that is set. -/
def optionalText : Value → Option String
  | .string text => some text
  | _ => none

/-- The response to a service call without a payload. -/
def plain (service : Service (Except ServiceError Unit)) : Service Response := do
  match ← service with
  | .error error => return .failed error
  | .ok _ => return .noContent

/-- The handlers' service calls. `GetNamespace` hides a namespace from a user who is no
member of it, once it has been read. -/
def handle (cloud : Bool) (route : Route) (request : Request) (record : Record) :
    Service Response :=
  let tenant := record.text route.tenantField.name
  match route with
  | .getNamespace => do
    let .ok stored ← getNamespace tenant | return .notFound
    let uid := request.headers.get "X-ID"
    if uid ≠ "" ∧ (stored.findMember uid).isNone then return .forbidden
    return .namespace_ stored
  | .editNamespace => do
    match ← editNamespace
      { tenantID := tenant
        name := record.text "Name"
        sessionRecord := flag (record "Settings.SessionRecord")
        connectionAnnouncement := optionalText (record "Settings.ConnectionAnnouncement") } with
    | .error error => return .failed error
    | .ok stored => return .namespace_ stored
  | .deleteNamespace => plain (deleteNamespace cloud tenant)
  | .listNamespaceMembers => do
    match ← listNamespaceMembers tenant with
    | .error error => return .failed error
    | .ok members => return .members members
  | .editSessionRecordStatus =>
    plain (editSessionRecordStatus ((flag (record "SessionRecord")).getD false) tenant)
  | .editSSHAccessMode =>
    plain (editSSHAccessMode ((accessMode (record.text "SSHAccessMode")).getD .identity) tenant)

/-- A request to one of the guarded routes. -/
def serve (service : AuthnService) (cloud : Bool) (route : Route) (request : Request) :
    Service Response :=
  match letThrough service route request with
  | .error refusal => return .refused refusal
  | .ok (request, record) => handle cloud route request record

/-- The tenant of the caller, empty without one. -/
def callerTenant (service : AuthnService) (request : Request) : String :=
  ((service.resolve request.headers).map Identity.tenantID).getD ""

/-- The tenant that the request's body names, if it names one. -/
def bodyTenant (route : Route) (request : Request) : Option String :=
  bodyText route.type route.tenantField.name request

/-- A service call without a payload concerns the tenants the service concerns. -/
theorem plain_onlyTenant {tenantID : String} {service : Service (Except ServiceError Unit)}
    (meets : service.Meets (onlyTenant tenantID) () fun _ _ => True) :
    (plain service).Meets (onlyTenant tenantID) () fun _ _ => True := by
  refine meets.bind ?_
  rintro (error | _) _ _ <;> trivial

/-- A handler calls the store only about the tenant its struct was bound to. -/
theorem handle_onlyTenant (cloud : Bool) (route : Route) (request : Request) (record : Record) :
    (handle cloud route request record).Meets
      (onlyTenant (record.text route.tenantField.name)) () fun _ _ => True := by
  cases route with
  | getNamespace =>
    refine (getNamespace_onlyTenant _).bind ?_
    rintro (error | stored) _ _
    · trivial
    · dsimp only
      split <;> trivial
  | editNamespace =>
    refine (editNamespace_onlyTenant _).bind ?_
    rintro (error | stored) _ _ <;> trivial
  | deleteNamespace => exact plain_onlyTenant (deleteNamespace_onlyTenant cloud _)
  | listNamespaceMembers =>
    refine (listNamespaceMembers_onlyTenant _).bind ?_
    rintro (error | members) _ _ <;> trivial
  | editSessionRecordStatus => exact plain_onlyTenant (editSessionRecordStatus_onlyTenant _ _)
  | editSSHAccessMode => exact plain_onlyTenant (editSSHAccessMode_onlyTenant _ _)

/-- A handler first reads the namespace of the tenant its struct was bound to. -/
theorem handle_first (cloud : Bool) (route : Route) (request : Request) (record : Record) :
    (handle cloud route request record).first =
      some (.namespaceResolve (record.text route.tenantField.name)) := by
  cases route <;> rfl

/-- A handler's calls all concern a tenant exactly when its struct was bound to it. -/
theorem handle_calls_iff (cloud : Bool) (route : Route) (request : Request) (record : Record)
    (inputs : Nat → Option StoreError) (database : Database) (tenantID : String) :
    (∀ call ∈ (run meaning inputs (handle cloud route request record) database).calls,
      call.tenantID = tenantID) ↔ record.text route.tenantField.name = tenantID := by
  constructor
  · intro confined
    exact confined _ (first_mem_calls (handle_first cloud route request record) _ _ _)
  · rintro rfl call made
    obtain ⟨_, allowed⟩ := (handle_onlyTenant cloud route request record).run
      (realizes_others _ _) rfl inputs |>.2 call made
    exact allowed

/-- The bound value of a path parameter is the decoded raw one. -/
theorem pathValue_of_param {request : Request} {name : String} (present : param request name ≠ "") :
    request.pathValue name = some (pathUnescape (param request name)) := by
  unfold param at present ⊢
  cases found : request.path.find? (fun pair => pair.1 == name) with
  | none => simp [found] at present
  | some pair =>
    obtain ⟨key, raw⟩ := pair
    unfold Request.pathValue lookupValue selectKey
    rw [List.find?_map]
    erw [found]
    rfl

/-- Every route's tenant field is a string of its struct, bound from the path parameter and
from no query value or header. -/
theorem tenantField_bound (route : Route) :
    route.tenantField ∈ route.type.fields ∧ route.tenantField.shape = .scalar .string ∧
      route.tenantField.param = some "tenant" ∧ route.tenantField.query = none ∧
        route.tenantField.header = none := by
  cases route <;> simp [Route.tenantField, Route.type, RequestTypes.namespaceGet,
    RequestTypes.namespaceEdit, RequestTypes.namespaceDelete, RequestTypes.memberList,
    RequestTypes.sessionEditRecordStatus, RequestTypes.editSSHAccessMode,
    RequestTypes.tenantParam, RequestTypes.fromPath]

/-- The guard lets a regular caller through only with their own tenant in the path. -/
theorem guard_tenant {service : AuthnService} {request : Request} {identity : Identity}
    (resolved : service.resolve request.headers = some identity)
    (passes : requiresTenant "tenant"
      { request with headers := writeTo (some identity) request.headers }) :
    param request "tenant" = identity.tenantID ∧ isUUID identity.tenantID := by
  have regular : ¬ (identity.id = "" ∧ identity.admin = true) := by
    rintro ⟨nobody, admin⟩
    rw [resolve_admin resolved nobody] at admin
    cases admin
  simp only [requiresTenant, get_writeTo identity request.headers "X-ID" (by decide),
    get_writeTo identity request.headers "X-Tenant-ID" (by decide), isAdmin_writeTo,
    Bool.or_eq_true, Bool.and_eq_true, beq_iff_eq, Bool.not_eq_true', Bool.or_eq_false_iff,
    beq_eq_false_iff_ne, bne_eq_false_iff_eq] at passes
  rcases passes with bypass | ⟨⟨_, present⟩, same⟩
  · exact absurd bypass regular
  · refine ⟨same.symm, ?_⟩
    rcases resolve_tenant resolved with missing | uuid
    · exact absurd missing present
    · exact uuid

/-- What an admitted request has passed. -/
theorem letThrough_cases {service : AuthnService} {route : Route} {request stamped : Request}
    {record : Record} (admitted : letThrough service route request = .ok (stamped, record)) :
    ∃ identity, service.resolve request.headers = some identity ∧
      stamped = { request with headers := writeTo (some identity) request.headers } ∧
      requiresTenant "tenant" stamped ∧ bind route.type stamped = some record := by
  unfold letThrough Answers.middleware at admitted
  cases resolved : service.resolve request.headers with
  | none => simp [resolved] at admitted
  | some identity =>
    simp only [resolved, Option.isNone_some, Bool.false_and, Bool.false_eq_true, if_false,
      Bool.not_eq_true'] at admitted
    split at admitted
    · cases admitted
    · rename_i passes
      split at admitted
      · cases admitted
      · split at admitted
        · cases admitted
        · rename_i bound
          split at admitted
          · cases admitted
            exact ⟨identity, rfl, rfl, by simpa using passes, bound⟩
          · cases admitted

/-- The tenant an admitted request acts on: the one its body names, else the caller's. -/
theorem letThrough_tenant {service : AuthnService} {route : Route} {request stamped : Request}
    {record : Record} (admitted : letThrough service route request = .ok (stamped, record)) :
    record.text route.tenantField.name =
      (bodyTenant route request).getD (callerTenant service request) := by
  obtain ⟨identity, resolved, rfl, passes, bound⟩ := letThrough_cases admitted
  obtain ⟨member, string, path, query, header⟩ := tenantField_bound route
  obtain ⟨own, uuid⟩ := guard_tenant resolved passes
  have present : param request "tenant" ≠ "" := own ▸ ne_empty_of_uuid uuid
  have fromPath : request.pathValue "tenant" = some identity.tenantID := by
    rw [pathValue_of_param present, own, pathUnescape_uuid uuid]
  have fromStamped : Request.pathValue
      { request with headers := writeTo (some identity) request.headers } "tenant" =
        some identity.tenantID := fromPath
  have caller : callerTenant service request = identity.tenantID := by
    simp [callerTenant, resolved]
  rw [Record.text, bind_text route.type member string bound]
  simp only [boundText, clientText, path, query, header, Option.bind_none, Option.bind_some,
    Option.getD_none, fromStamped, Option.getD_some, caller]
  rfl

/-- A guarded route stays inside the caller's tenant exactly when the body of a request it
admits names no other tenant. The guard alone does not see to it: it reads the path, while
the handler acts on the bound struct. -/
theorem serve_calls_iff (service : AuthnService) (cloud : Bool) (route : Route)
    (request : Request) (inputs : Nat → Option StoreError) (database : Database) :
    (∀ call ∈ (run meaning inputs (serve service cloud route request) database).calls,
      call.tenantID = callerTenant service request) ↔
    ((letThrough service route request).isOk →
      ∀ named, bodyTenant route request = some named → named = callerTenant service request) := by
  unfold serve
  cases admitted : letThrough service route request with
  | error refusal => simp [run, Except.isOk, Except.toBool]
  | ok passed =>
    obtain ⟨stamped, record⟩ := passed
    simp only [handle_calls_iff, letThrough_tenant admitted, Except.isOk, Except.toBool, true_implies]
    cases named : bodyTenant route request <;> simp

/-- The tenant of a caller and the tenant of somebody else. -/
def ownTenant : String := "00000000-0000-4000-8000-00000000000a"

def otherTenant : String := "00000000-0000-4000-8000-00000000000b"

/-- An instance on which one token belongs to the owner of `ownTenant`. -/
def ownerService : AuthnService where
  authAPIKey _ := none
  claims token :=
    if token = "Bearer owner" then some (.user "owner" "owner" ownTenant) else none
  resolveNamespaceRole tenantID id :=
    if tenantID = ownTenant ∧ id = "owner" then some .owner else none
  getUserAdmin id := if id = "owner" then some false else none
  keyTenant := no_grant
  deviceTenant token uid tenantID found := by
    split at found <;> cases found
  userTenant tenantID id role found := by
    split at found
    · rename_i named
      rw [named.1]
      decide
    · cases found
  userID := by decide

/-- A namespace without members, under a name of its own. -/
def bareNamespace (tenantID name : String) : Namespace := { plainNamespace tenantID with name }

/-- A request to delete the caller's own namespace whose body names another tenant. -/
def deleteOther : Request :=
  { method := .DELETE, path := [("tenant", ownTenant)], query := []
    headers := [("Authorization", "Bearer owner")]
    body := some (.object [("tenant", .string otherTenant)]) }

/-- The guard compares the path, and the handler deletes the namespace the body names. -/
theorem deleteNamespace_other_tenant :
    let outcome := run meaning (fun _ => none)
      (serve ownerService false .deleteNamespace deleteOther)
      { namespaces := [bareNamespace ownTenant "mine", bareNamespace otherTenant "theirs"]
        accessPolicies := [], instanceTenantID := none }
    callerTenant ownerService deleteOther = ownTenant ∧ outcome.result = .noContent ∧
      outcome.state.namespaces = [bareNamespace ownTenant "mine"] := by
  decide +kernel

end ShellHub.NamespaceRoutes
