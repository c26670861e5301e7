import Mathlib.Order.Basic

/-!
# Roles and permissions

The roles a namespace member can have, what each of them permits, and which role outranks
which. A role grants a fixed list of permissions; authority compares ranks only, so a role
can outrank another one in a namespace without holding the permission to act on it.
-/

namespace ShellHub.Roles

/-- The access level of a namespace member. `invalid` stands for every string that is no
role, and `service` for the role of a non-human principal. -/
inductive Role where
  | invalid
  | observer
  | operator
  | administrator
  | owner
  | service
  deriving DecidableEq, Repr

/-- `RoleFromString`. -/
def Role.ofString (text : String) : Role :=
  if text = "owner" then .owner
  else if text = "administrator" then .administrator
  else if text = "operator" then .operator
  else if text = "observer" then .observer
  else if text = "service" then .service
  else .invalid

/-- `Role.String`. -/
def Role.string : Role → String
  | .owner => "owner"
  | .administrator => "administrator"
  | .operator => "operator"
  | .observer => "observer"
  | .service => "service"
  | .invalid => ""

/-- `Role.code`, the rank of a role. -/
def Role.code : Role → Nat
  | .owner => 4
  | .administrator => 3
  | .operator => 2
  | .observer => 1
  | .service => 0
  | .invalid => 0

/-- The role that is stored: an empty role becomes that of an observer. -/
def storedRole (role : Role) : Role := if role = .invalid then .observer else role

/-- What a role can permit. -/
inductive Permission where
  | deviceAccept
  | deviceReject
  | deviceUpdate
  | deviceRemove
  | deviceConnect
  | deviceRename
  | deviceDetails
  | deviceCustomFieldUpdate
  | tagCreate
  | tagUpdate
  | tagDelete
  | sessionPlay
  | sessionClose
  | sessionRemove
  | sessionDetails
  | sessionApprove
  | firewallCreate
  | firewallEdit
  | firewallRemove
  | publicKeyCreate
  | publicKeyEdit
  | publicKeyRemove
  | namespaceUpdate
  | namespaceAddMember
  | namespaceRemoveMember
  | namespaceEditMember
  | namespaceEnableSessionRecord
  | namespaceDelete
  | billingCreateCustomer
  | billingChooseDevices
  | billingAddPaymentMethod
  | billingUpdatePaymentMethod
  | billingRemovePaymentMethod
  | billingCancelSubscription
  | billingCreateSubscription
  | billingGetPaymentMethod
  | billingGetSubscription
  | apiKeyCreate
  | apiKeyUpdate
  | apiKeyDelete
  | installKeyCreate
  | installKeyUpdate
  | installKeyReveal
  | installKeyList
  | connectorDelete
  | connectorUpdate
  | connectorSet
  | tunnelsCreate
  | tunnelsDelete
  | accessPolicyManage
  | sshIdentityAdd
  | sshIdentityManage
  deriving DecidableEq, Repr

open Permission

/-- `observerPermissions`. -/
def observerPermissions : List Permission := [deviceConnect, deviceDetails, sessionDetails]

/-- `operatorPermissions`. -/
def operatorPermissions : List Permission :=
  [deviceAccept, deviceReject, deviceConnect, deviceRename, deviceDetails, deviceUpdate,
    deviceCustomFieldUpdate, tagCreate, tagUpdate, tagDelete, sessionDetails, sessionApprove,
    sshIdentityAdd]

/-- `adminPermissions`. -/
def adminPermissions : List Permission :=
  [deviceAccept, deviceReject, deviceRemove, deviceConnect, deviceRename, deviceDetails,
    deviceUpdate, deviceCustomFieldUpdate, tagCreate, tagUpdate, tagDelete, sessionPlay,
    sessionClose, sessionRemove, sessionDetails, sessionApprove, firewallCreate, firewallEdit,
    firewallRemove, publicKeyCreate, publicKeyEdit, publicKeyRemove, namespaceUpdate,
    namespaceAddMember, namespaceRemoveMember, namespaceEditMember,
    namespaceEnableSessionRecord, apiKeyCreate, apiKeyUpdate, apiKeyDelete, installKeyCreate,
    installKeyUpdate, installKeyReveal, installKeyList, connectorDelete, connectorUpdate,
    connectorSet, tunnelsCreate, tunnelsDelete, accessPolicyManage, sshIdentityAdd,
    sshIdentityManage]

/-- `ownerPermissions`. -/
def ownerPermissions : List Permission :=
  [deviceAccept, deviceReject, deviceRemove, deviceConnect, deviceRename, deviceDetails,
    deviceUpdate, deviceCustomFieldUpdate, tagCreate, tagUpdate, tagDelete, sessionPlay,
    sessionClose, sessionRemove, sessionDetails, sessionApprove, firewallCreate, firewallEdit,
    firewallRemove, publicKeyCreate, publicKeyEdit, publicKeyRemove, namespaceUpdate,
    namespaceAddMember, namespaceRemoveMember, namespaceEditMember,
    namespaceEnableSessionRecord, namespaceDelete, billingCreateCustomer,
    billingChooseDevices, billingAddPaymentMethod, billingUpdatePaymentMethod,
    billingRemovePaymentMethod, billingCancelSubscription, billingCreateSubscription,
    billingGetSubscription, apiKeyCreate, apiKeyUpdate, apiKeyDelete, installKeyCreate,
    installKeyUpdate, installKeyReveal, installKeyList, connectorDelete, connectorUpdate,
    connectorSet, tunnelsCreate, tunnelsDelete, accessPolicyManage, sshIdentityAdd,
    sshIdentityManage]

/-- `Role.Permissions`; a service account and an invalid role have none. -/
def Role.permissions : Role → List Permission
  | .owner => ownerPermissions
  | .administrator => adminPermissions
  | .operator => operatorPermissions
  | .observer => observerPermissions
  | .service => []
  | .invalid => []

/-- `Role.HasPermission`. -/
def Role.hasPermission (role : Role) (permission : Permission) : Bool :=
  role.permissions.contains permission

/-- `Role.HasAuthority`: nobody outranks an owner, and an invalid role outranks nobody. -/
def Role.hasAuthority (active passive : Role) : Bool :=
  active ≠ .invalid && passive ≠ .owner && active.code ≥ passive.code

/-- Reading a role's text gives the role back. -/
theorem Role.ofString_string (role : Role) : Role.ofString role.string = role := by
  cases role <;> decide

end ShellHub.Roles
