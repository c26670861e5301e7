import ShellHub.RequestBinding

/-!
# The request structs of the API

The request types of `pkg/api/requests` that take part of the caller's identity from the
headers or a tenant from the path, field by field with their tags. A field without a json
tag is filled by its Go name, also from a body that was never meant to carry it.
-/

namespace ShellHub.RequestTypes

open JsonDecoding RequestBinding

/-- A field of the JSON body. -/
def fromBody (name key : String) (scalar : Scalar) : Field :=
  ⟨name, some key, .scalar scalar, none, none, none⟩

/-- A string field of the path, without a json tag. -/
def fromPath (name param : String) : Field :=
  ⟨name, some name, .scalar .string, some param, none, none⟩

/-- A field of the query string, without a json tag. -/
def fromQuery (name query : String) (scalar : Scalar) : Field :=
  ⟨name, some name, .scalar scalar, none, some query, none⟩

/-- A field of the headers, without a json tag. -/
def fromHeader (name header : String) (scalar : Scalar) : Field :=
  ⟨name, some name, .scalar scalar, none, none, some header⟩

/-- A string field bound from the path and then from a header. -/
def fromPathOrHeader (name param header : String) : Field :=
  ⟨name, some name, .scalar .string, some param, none, some header⟩

/-- A field that no tag binds. -/
def untagged (name : String) (scalar : Scalar) : Field :=
  ⟨name, some name, .scalar scalar, none, none, none⟩

/-! ## Shared parts -/

/-- `query.Paginator`. -/
def paginator : List Field := [fromQuery "Page" "page" .int, fromQuery "PerPage" "per_page" .int]

/-- `query.Sorter`. -/
def sorter : List Field :=
  [fromQuery "By" "sort_by" .string, fromQuery "Order" "order_by" .string,
    untagged "Tiebreak" .string]

/-- The document an aux struct with an interface holding a raw message ends up with: members
before the first `null`, the last one winning. -/
def rawMessage : List Json → Option Json → Option Json
  | [], kept => kept
  | .null :: _, kept => kept
  | document :: rest, _ => rawMessage rest (some document)

/-- `Filter.UnmarshalJSON`: the type chooses how the parameters are decoded. -/
def acceptsFilter : Json → Bool
  | .object members =>
    let slots : List Field := [fromBody "Type" "type" .string, fromBody "Params" "params" .any]
    match decodeMembers slots members (zeroRecord slots),
        rawMessage (selecting slots "Params" members) none with
    | some record, some (.object params) =>
      let decodes (inner : List Slot) := (decodeSlots inner params fun _ => .string "").isSome
      if record.text "Type" = "property" then
        decodes [⟨"Name", "name", .string⟩, ⟨"Operator", "operator", .string⟩,
          ⟨"Value", "value", .any⟩]
      else if record.text "Type" = "operator" then decodes [⟨"Name", "name", .string⟩]
      else false
    | _, _ => false
  | _ => false

/-- The document of a filter list: `null`, or an array of filters. -/
def acceptsFilters : Json → Bool
  | .null => true
  | .array items => items.all acceptsFilter
  | _ => false

/-- `query.Filters`. -/
def filters : List Field :=
  [fromQuery "Raw" "filter" .string, ⟨"Data", some "Data", .custom acceptsFilters, none, none, none⟩]

/-- The client's address as the proxy forwards it. -/
def forwarded : List Field :=
  [fromHeader "ForwardedHost" "X-Forwarded-Host" .string,
    fromHeader "ForwardedProto" "X-Forwarded-Proto" .string]

/-! ## Namespaces and members -/

/-- `TenantParam`. -/
def tenantParam : Field := fromPath "Tenant" "tenant"

/-- `NamespaceGet`. -/
def namespaceGet : StructType := ⟨[tenantParam], by decide⟩

/-- `NamespaceDelete`. -/
def namespaceDelete : StructType := ⟨[tenantParam], by decide⟩

/-- `NamespaceEdit`. -/
def namespaceEdit : StructType :=
  ⟨[tenantParam, fromBody "Name" "name" .string,
    ⟨"Settings", some "settings", .nested
      [⟨"Settings.SessionRecord", "session_record", .boolPointer⟩,
        ⟨"Settings.ConnectionAnnouncement", "connection_announcement", .stringPointer⟩],
      none, none, none⟩], by decide⟩

/-- `MemberList`. -/
def memberList : StructType := ⟨fromPath "TenantID" "tenant" :: paginator, by decide⟩

/-- `SessionEditRecordStatus`. -/
def sessionEditRecordStatus : StructType :=
  ⟨[tenantParam, fromBody "SessionRecord" "session_record" .bool], by decide⟩

/-- `EditSSHAccessMode`. -/
def editSSHAccessMode : StructType :=
  ⟨[tenantParam, fromBody "SSHAccessMode" "ssh_access_mode" .string], by decide⟩

/-- The acting user, tenant and role, as the headers of the identity carry them. -/
def userID : Field := fromHeader "UserID" "X-ID" .string

def tenantID : Field := fromHeader "TenantID" "X-Tenant-ID" .string

def callerRole : Field := fromHeader "Role" "X-Role" .string

/-- The tenant of a member or invitation route, from its path. -/
def pathTenantID : Field := fromPath "TenantID" "tenant"

/-- `NamespaceList`. -/
def namespaceList : StructType :=
  ⟨[userID, tenantID, fromHeader "IsAdmin" "X-Admin" .bool] ++ paginator ++ filters, by decide⟩

/-- `NamespaceCreate`. -/
def namespaceCreate : StructType :=
  ⟨[userID, fromBody "Name" "name" .string, fromBody "TenantID" "tenant" .string,
    fromBody "Type" "type" .string], by decide⟩

/-- `NamespaceAddMember`. -/
def namespaceAddMember : StructType :=
  ⟨forwarded ++ [userID, pathTenantID, fromBody "MemberEmail" "email" .string,
    fromBody "MemberRole" "role" .string], by decide⟩

/-- `NamespaceUpdateMember`. -/
def namespaceUpdateMember : StructType :=
  ⟨[userID, pathTenantID, fromPath "MemberID" "uid", fromBody "MemberRole" "role" .string],
    by decide⟩

/-- `NamespaceRemoveMember`. -/
def namespaceRemoveMember : StructType :=
  ⟨[userID, pathTenantID, fromPath "MemberID" "uid"], by decide⟩

/-- `LeaveNamespace`. -/
def leaveNamespace : StructType :=
  ⟨[userID, pathTenantID, fromHeader "AuthenticatedTenantID" "X-Tenant-ID" .string], by decide⟩

/-- `GenerateInvitationLink`. -/
def generateInvitationLink : StructType :=
  ⟨forwarded ++ [pathTenantID, userID, fromBody "MemberEmail" "email" .string,
    fromBody "MemberRole" "role" .string], by decide⟩

/-- `UserMembershipInvitationList`. -/
def userMembershipInvitationList : StructType :=
  ⟨userID :: paginator ++ sorter ++ filters, by decide⟩

/-- `NamespaceMembershipInvitationList`. -/
def namespaceMembershipInvitationList : StructType :=
  ⟨forwarded ++ [pathTenantID, userID] ++ paginator ++ sorter ++ filters, by decide⟩

/-- `AcceptInvite`. -/
def acceptInvite : StructType := ⟨[pathTenantID, userID], by decide⟩

/-- `CancelMembershipInvitation`. -/
def cancelMembershipInvitation : StructType :=
  ⟨[pathTenantID, userID, fromPath "InvitedUserID" "uid"], by decide⟩

/-! ## Users and tokens -/

/-- `CreateUserToken`. -/
def createUserToken : StructType :=
  ⟨[fromPathOrHeader "UserID" "id" "X-ID", pathTenantID], by decide⟩

/-- `UpdateUser`. -/
def updateUser : StructType :=
  ⟨[userID, fromBody "Name" "name" .string, fromBody "Username" "username" .string,
    fromBody "Email" "email" .string, fromBody "RecoveryEmail" "recovery_email" .string,
    fromBody "Password" "password" .string,
    fromBody "CurrentPassword" "current_password" .string], by decide⟩

/-! ## Keys -/

/-- `CreateAPIKey`. -/
def createAPIKey : StructType :=
  ⟨[userID, tenantID, callerRole, fromBody "Name" "name" .string,
    fromBody "ExpiresAt" "expires_at" .int, fromBody "Key" "key" .string,
    fromBody "OptRole" "role" .string], by decide⟩

/-- `ListAPIKey` and `ListInstallKey`. -/
def listAPIKey : StructType := ⟨tenantID :: paginator ++ sorter, by decide⟩

def listInstallKey : StructType := ⟨tenantID :: paginator ++ sorter, by decide⟩

/-- `UpdateAPIKey`. -/
def updateAPIKey : StructType :=
  ⟨[userID, tenantID, fromPath "CurrentName" "name", fromBody "Name" "name" .string,
    fromBody "Role" "role" .string], by decide⟩

/-- `DeleteAPIKey`. -/
def deleteAPIKey : StructType := ⟨[tenantID, fromPath "Name" "name"], by decide⟩

/-- `CreateInstallKey`. -/
def createInstallKey : StructType :=
  ⟨[userID, tenantID, fromBody "Name" "name" .string, fromBody "Mode" "mode" .string,
    fromBody "WebhookURL" "webhook_url" .string,
    fromBody "WebhookSecret" "webhook_secret" .string,
    fromBody "AllowedMACs" "allowed_macs" .strings,
    fromBody "WebhookTimeout" "webhook_timeout" .int,
    fromBody "WebhookCallbackTTL" "webhook_callback_ttl" .int,
    fromBody "ExpiresIn" "expires_in" .intPointer, fromBody "UsageLimit" "usage_limit" .int,
    fromBody "Ephemeral" "ephemeral" .bool,
    fromBody "EphemeralTimeout" "ephemeral_timeout" .int, fromBody "Tags" "tags" .strings],
    by decide⟩

/-- `UpdateInstallKey`. -/
def updateInstallKey : StructType :=
  ⟨[userID, tenantID, fromPath "CurrentName" "name", fromBody "Name" "name" .string,
    fromBody "Mode" "mode" .stringPointer, fromBody "WebhookURL" "webhook_url" .stringPointer,
    fromBody "WebhookSecret" "webhook_secret" .stringPointer,
    fromBody "AllowedMACs" "allowed_macs" .strings,
    fromBody "WebhookTimeout" "webhook_timeout" .intPointer,
    fromBody "WebhookCallbackTTL" "webhook_callback_ttl" .intPointer,
    fromBody "Revoked" "revoked" .boolPointer, fromBody "Disabled" "disabled" .boolPointer,
    fromBody "ExpiresIn" "expires_in" .optionalInt,
    fromBody "UsageLimit" "usage_limit" .intPointer, fromBody "Tags" "tags" .strings,
    fromBody "Ephemeral" "ephemeral" .boolPointer,
    fromBody "EphemeralTimeout" "ephemeral_timeout" .intPointer], by decide⟩

/-- `RevealInstallKey`. -/
def revealInstallKey : StructType := ⟨[tenantID, fromPath "Name" "name"], by decide⟩

/-- `ListInstallKeyEvents`. -/
def listInstallKeyEvents : StructType :=
  ⟨[tenantID, fromPath "ID" "id"] ++ paginator ++ sorter, by decide⟩

/-- `ListPublicKeys`. -/
def listPublicKeys : StructType := ⟨tenantID :: paginator ++ filters, by decide⟩

/-! ## Devices, sessions and tags -/

/-- `DeviceList`. -/
def deviceList : StructType :=
  ⟨[tenantID, fromQuery "DeviceStatus" "status" .string] ++ paginator ++ sorter ++ filters,
    by decide⟩

/-- `DeviceUpdate`. -/
def deviceUpdate : StructType :=
  ⟨[tenantID, fromPath "UID" "uid", fromBody "Name" "name" .string], by decide⟩

/-- `DeviceUpdateStatus`. -/
def deviceUpdateStatus : StructType :=
  ⟨[tenantID, fromPath "UID" "uid", fromPath "Status" "status"], by decide⟩

/-- `DeviceSetCustomField`. -/
def deviceSetCustomField : StructType :=
  ⟨[tenantID, fromPath "UID" "uid", fromPath "Key" "key", fromBody "Value" "value" .string],
    by decide⟩

/-- `DeviceDeleteCustomField`. -/
def deviceDeleteCustomField : StructType :=
  ⟨[tenantID, fromPath "UID" "uid", fromPath "Key" "key"], by decide⟩

/-- `ResolveDevice`. -/
def resolveDevice : StructType :=
  ⟨[tenantID, fromQuery "UID" "uid" .string, fromQuery "Hostname" "hostname" .string],
    by decide⟩

/-- `ListSessions`. -/
def listSessions : StructType := ⟨tenantID :: paginator ++ filters, by decide⟩

/-- `GetStats`. -/
def getStats : StructType := ⟨[tenantID], by decide⟩

/-- The tenant of a tag request, from the path of the legacy routes or from the header. -/
def tagTenantID : Field := fromPathOrHeader "TenantID" "tenant" "X-Tenant-ID"

/-- `CreateTag`. -/
def createTag : StructType := ⟨[tagTenantID, fromBody "Name" "name" .string], by decide⟩

/-- `PushTag`. -/
def pushTag : StructType :=
  ⟨[tagTenantID, fromPath "Name" "name", untagged "TargetID" .string], by decide⟩

/-- `PullTag`. -/
def pullTag : StructType :=
  ⟨[tagTenantID, fromPath "Name" "name", untagged "TargetID" .string], by decide⟩

/-- `ListTags`. -/
def listTags : StructType := ⟨tagTenantID :: paginator ++ filters ++ sorter, by decide⟩

/-- `UpdateTag`. -/
def updateTag : StructType :=
  ⟨[tagTenantID, fromPath "Name" "name", fromBody "NewName" "name" .string], by decide⟩

/-- `DeleteTag`. -/
def deleteTag : StructType := ⟨[tagTenantID, fromPath "Name" "name"], by decide⟩

/-- `HandleConnectionV2Data`, the request of an agent's tunnel. -/
def handleConnectionV2Data : StructType :=
  ⟨[fromHeader "RequestID" "x-request-id" .string, fromHeader "UID" "x-device-uid" .string,
    fromHeader "Tenant" "x-tenant-id" .string], by decide⟩

end ShellHub.RequestTypes
