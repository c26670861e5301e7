import ShellHub.LetterCase
import ShellHub.Programs
import ShellHub.Roles

/-!
# Namespaces and their services

The stored namespace, the store calls that concern it, and the namespace services behind
the tenant guard, written as programs over these calls. A namespace resolved by its tenant
carries the proof that it has that tenant, as the uuid primary key guarantees.
-/

namespace ShellHub.Namespaces

open LetterCase (toLower)
open Programs Roles

/-- A namespace member. -/
structure Member where
  id : String
  role : Role
  serviceAccount : Bool
  deriving DecidableEq, Repr

/-- `SSHAccessModeLegacy` and `SSHAccessModeIdentity`. -/
inductive SSHAccessMode where
  | legacy
  | identity
  deriving DecidableEq, Repr

/-- `NamespaceSettings`. -/
structure NamespaceSettings where
  sessionRecord : Bool
  connectionAnnouncement : String
  sshAccessMode : SSHAccessMode
  sshLegacyAllowed : Bool
  deriving DecidableEq, Repr

/-- A stored namespace. `billed` says that its billing record has a customer and a
subscription, so that its deletion is reported. -/
structure Namespace where
  tenantID : String
  name : String
  owner : String
  members : List Member
  settings : NamespaceSettings
  billed : Bool
  deriving DecidableEq, Repr

/-- A namespace without members, under default settings. -/
def plainNamespace (tenantID : String) : Namespace where
  tenantID := tenantID
  name := tenantID
  owner := "owner"
  members := []
  settings := ⟨true, "", .identity, false⟩
  billed := false

/-- `FindMember`. -/
def Namespace.findMember (namespace_ : Namespace) (id : String) : Option Member :=
  namespace_.members.find? fun member => member.id == id

/-- The namespace that has a given tenant. -/
abbrev NamespaceOf (tenantID : String) := { stored : Namespace // stored.tenantID = tenantID }

/-- The ways a store call fails. -/
inductive StoreError where
  | noDocuments
  | duplicate
  | instanceProtected
  | unavailable
  deriving DecidableEq, Repr

/-- The calls the namespace services make: to the store, to the billing service and to the
registered delete hooks. -/
inductive Call where
  | namespaceResolve (tenantID : String)
  | namespaceUpdate (stored : Namespace)
  | namespaceDelete (stored : Namespace)
  | namespaceGetMembers (tenantID : String)
  | accessPolicyList (tenantID : String)
  | accessPolicyCreate (tenantID owner : String)
  | reportBilling (tenantID : String)
  | fireNamespaceDelete (stored : Namespace)
  deriving DecidableEq

/-- The tenant whose namespace a call reads, changes or deletes. -/
def Call.tenantID : Call → String
  | .namespaceResolve tenantID => tenantID
  | .namespaceUpdate stored => stored.tenantID
  | .namespaceDelete stored => stored.tenantID
  | .namespaceGetMembers tenantID => tenantID
  | .accessPolicyList tenantID => tenantID
  | .accessPolicyCreate tenantID _ => tenantID
  | .reportBilling tenantID => tenantID
  | .fireNamespaceDelete stored => stored.tenantID

/-- What each call answers when it succeeds. -/
@[reducible]
def Call.Answer : Call → Type
  | .namespaceResolve tenantID => NamespaceOf tenantID
  | .namespaceGetMembers _ => List Member
  | .accessPolicyList _ => Nat
  | _ => Unit

/-- What each call answers. -/
@[reducible]
def Call.Reply (call : Call) : Type := Except StoreError call.Answer

/-- A program of the namespace services. -/
abbrev Service := Program Call Call.Reply

def namespaceResolve (tenantID : String) : Service (Except StoreError (NamespaceOf tenantID)) :=
  Program.perform (Call.namespaceResolve tenantID)

def namespaceUpdate (stored : Namespace) : Service (Except StoreError Unit) :=
  Program.perform (Call.namespaceUpdate stored)

def namespaceDelete (stored : Namespace) : Service (Except StoreError Unit) :=
  Program.perform (Call.namespaceDelete stored)

def namespaceGetMembers (tenantID : String) : Service (Except StoreError (List Member)) :=
  Program.perform (Call.namespaceGetMembers tenantID)

def accessPolicyList (tenantID : String) : Service (Except StoreError Nat) :=
  Program.perform (Call.accessPolicyList tenantID)

def accessPolicyCreate (tenantID owner : String) : Service (Except StoreError Unit) :=
  Program.perform (Call.accessPolicyCreate tenantID owner)

def reportBilling (tenantID : String) : Service (Except StoreError Unit) :=
  Program.perform (Call.reportBilling tenantID)

def fireNamespaceDelete (stored : Namespace) : Service (Except StoreError Unit) :=
  Program.perform (Call.fireNamespaceDelete stored)

/-- The errors of the namespace services. -/
inductive ServiceError where
  | namespaceNotFound (tenantID : String)
  | namespaceDuplicated
  | namespaceInstanceProtected
  | legacyNotAllowed
  | billingReportNamespaceDelete
  | namespaceDeleteHook
  | emptyTenant
  | store (error : StoreError)
  deriving DecidableEq, Repr

/-- `GetNamespace`. -/
def getNamespace (tenantID : String) : Service (Except ServiceError Namespace) := do
  let .ok stored ← namespaceResolve tenantID | return .error (.namespaceNotFound tenantID)
  return .ok stored.val

/-- `ListNamespaceMembers`. -/
def listNamespaceMembers (tenantID : String) : Service (Except ServiceError (List Member)) := do
  let .ok _ ← namespaceResolve tenantID | return .error (.namespaceNotFound tenantID)
  if tenantID = "" then return .error .emptyTenant
  match ← namespaceGetMembers tenantID with
  | .error error => return .error (.store error)
  | .ok members => return .ok members

/-- The report of a deletion, which only a billed namespace of a cloud instance needs. -/
def reportNamespaceDelete (cloud : Bool) (stored : Namespace) :
    Service (Except StoreError Unit) :=
  if cloud && stored.billed then reportBilling stored.tenantID else return .ok ()

/-- `DeleteNamespace`. -/
def deleteNamespace (cloud : Bool) (tenantID : String) : Service (Except ServiceError Unit) := do
  let .ok stored ← namespaceResolve tenantID | return .error (.namespaceNotFound tenantID)
  let .ok _ ← reportNamespaceDelete cloud stored.val
    | return .error .billingReportNamespaceDelete
  let .ok _ ← fireNamespaceDelete stored.val | return .error .namespaceDeleteHook
  match ← namespaceDelete stored.val with
  | .error .instanceProtected => return .error .namespaceInstanceProtected
  | .error error => return .error (.store error)
  | .ok _ => return .ok ()

/-- The changes an edit request asks for. -/
structure NamespaceEdit where
  tenantID : String
  name : String
  sessionRecord : Option Bool
  connectionAnnouncement : Option String

/-- The name an edit leaves: a new one in lower case, unless it equals the old one up to
case. -/
def NamespaceEdit.newName (edit : NamespaceEdit) (current : String) : String :=
  if edit.name ≠ "" ∧ toLower edit.name ≠ toLower current then toLower edit.name else current

/-- The namespace with an edit's changes. -/
def NamespaceEdit.apply (edit : NamespaceEdit) (stored : Namespace) : Namespace :=
  { stored with
    name := edit.newName stored.name
    settings := { stored.settings with
      sessionRecord := edit.sessionRecord.getD stored.settings.sessionRecord
      connectionAnnouncement :=
        edit.connectionAnnouncement.getD stored.settings.connectionAnnouncement } }

/-- `EditNamespace`. -/
def editNamespace (edit : NamespaceEdit) : Service (Except ServiceError Namespace) := do
  let .ok stored ← namespaceResolve edit.tenantID
    | return .error (.namespaceNotFound edit.tenantID)
  match ← namespaceUpdate (edit.apply stored.val) with
  | .error .duplicate => return .error .namespaceDuplicated
  | .error error => return .error (.store error)
  | .ok _ =>
    match ← namespaceResolve edit.tenantID with
    | .error error => return .error (.store error)
    | .ok updated => return .ok updated.val

/-- The error of the two deprecated switches when the namespace cannot be read. -/
def resolveError (tenantID : String) : StoreError → ServiceError
  | .noDocuments => .namespaceNotFound tenantID
  | error => .store error

/-- `EditSessionRecordStatus`. -/
def editSessionRecordStatus (sessionRecord : Bool) (tenantID : String) :
    Service (Except ServiceError Unit) := do
  match ← namespaceResolve tenantID with
  | .error error => return .error (resolveError tenantID error)
  | .ok stored =>
    let settings := { stored.val.settings with sessionRecord }
    match ← namespaceUpdate { stored.val with settings } with
    | .error error => return .error (.store error)
    | .ok _ => return .ok ()

/-- `seedAccessPolicy`: the owner's starter policy, for a namespace without policies. -/
def seedAccessPolicy (tenantID owner : String) : Service (Except ServiceError Unit) := do
  if tenantID = "" then return .error .emptyTenant
  match ← accessPolicyList tenantID with
  | .error error => return .error (.store error)
  | .ok count =>
    if count > 0 then return .ok ()
    match ← accessPolicyCreate tenantID owner with
    | .error error => return .error (.store error)
    | .ok _ => return .ok ()

/-- `EditSSHAccessMode`. -/
def editSSHAccessMode (sshAccessMode : SSHAccessMode) (tenantID : String) :
    Service (Except ServiceError Unit) := do
  match ← namespaceResolve tenantID with
  | .error error => return .error (resolveError tenantID error)
  | .ok stored =>
    if sshAccessMode = .legacy && !stored.val.settings.sshLegacyAllowed then
      return .error .legacyNotAllowed
    let settings := { stored.val.settings with sshAccessMode }
    match ← namespaceUpdate { stored.val with settings } with
    | .error error => return .error (.store error)
    | .ok _ =>
      if sshAccessMode = .identity then seedAccessPolicy tenantID stored.val.owner
      else return .ok ()

/-! ## The store -/

/-- The tables behind the namespace calls: namespaces, the tenants of the stored access
policies, and the namespace a single-namespace instance is bound to. -/
structure Database where
  namespaces : List Namespace
  accessPolicies : List String
  instanceTenantID : Option String
  deriving DecidableEq, Repr

/-- Some stored namespace has this tenant. -/
def Database.has (database : Database) (tenantID : String) : Bool :=
  database.namespaces.any fun stored => stored.tenantID == tenantID

/-- Another namespace already has this name, ignoring case. -/
def Database.nameTaken (database : Database) (stored : Namespace) : Bool :=
  database.namespaces.any fun other =>
    other.tenantID != stored.tenantID && toLower other.name == toLower stored.name

/-- The effect of a call when nothing around it fails. -/
def Database.perform (database : Database) : (call : Call) → call.Reply × Database
  | .namespaceResolve tenantID =>
    match found : database.namespaces.find? (fun stored => stored.tenantID == tenantID) with
    | none => (.error .noDocuments, database)
    | some stored => (.ok ⟨stored, by simpa using List.find?_some found⟩, database)
  | .namespaceUpdate stored =>
    if !database.has stored.tenantID then (.error .noDocuments, database)
    else if database.nameTaken stored then (.error .duplicate, database)
    else (.ok (), { database with namespaces := database.namespaces.map fun row =>
      if row.tenantID = stored.tenantID then stored else row })
  | .namespaceDelete stored =>
    if database.instanceTenantID = some stored.tenantID then (.error .instanceProtected, database)
    else if !database.has stored.tenantID then (.error .noDocuments, database)
    else (.ok (), { database with
      namespaces := database.namespaces.filter fun row => row.tenantID != stored.tenantID
      accessPolicies := database.accessPolicies.filter fun tenant => tenant != stored.tenantID })
  | .namespaceGetMembers tenantID =>
    (.ok ((database.namespaces.filter fun row => row.tenantID == tenantID).flatMap fun row =>
      row.members.filter fun member => !member.serviceAccount), database)
  | .accessPolicyList tenantID => (.ok (database.accessPolicies.count tenantID), database)
  | .accessPolicyCreate tenantID _ =>
    (.ok (), { database with accessPolicies := database.accessPolicies ++ [tenantID] })
  | .reportBilling _ => (.ok (), database)
  | .fireNamespaceDelete _ => (.ok (), database)

/-- The meaning of a call. The environment may make any call fail; it then changes
nothing. -/
def meaning : Meaning Call Call.Reply (Option StoreError) Database
  | _, some error, database => (.error error, database)
  | call, none, database => database.perform call

/-! ## The tenant the services stay inside -/

/-- The contract that every call concerns one tenant. -/
def onlyTenant (tenantID : String) : Contract Call Call.Reply Unit where
  allowed _ call := call.tenantID = tenantID
  yields _ _ _ _ := True

/-- The namespaces of the other tenants. -/
def Database.others (database : Database) (tenantID : String) : List Namespace :=
  database.namespaces.filter fun stored => stored.tenantID != tenantID

/-- A call changes no namespace but that of the tenant it concerns. -/
theorem perform_others (database : Database) (call : Call) :
    (database.perform call).2.others call.tenantID = database.others call.tenantID := by
  cases call with
  | namespaceResolve tenantID =>
    simp only [Database.perform]
    split <;> rfl
  | namespaceUpdate stored =>
    simp only [Database.perform]
    split
    · rfl
    split
    · rfl
    · simp only [Database.others, Call.tenantID]
      generalize database.namespaces = rows
      induction rows with
      | nil => rfl
      | cons row rows ih =>
        by_cases same : row.tenantID = stored.tenantID
        · simp [same, ih]
        · simp [same, ih]
  | namespaceDelete stored =>
    simp only [Database.perform]
    split
    · rfl
    split
    · rfl
    · simp [Database.others, Call.tenantID, List.filter_filter]
  | _ => rfl

/-- While every call concerns one tenant, the others' namespaces stay as they are. -/
theorem realizes_others (tenantID : String) (kept : List Namespace) :
    Realizes meaning (onlyTenant tenantID) fun database _ => database.others tenantID = kept := by
  rintro database _ call (_ | error) untouched rfl
  · exact ⟨(), trivial, (perform_others database call).trans untouched⟩
  · exact ⟨(), trivial, untouched⟩

theorem getNamespace_onlyTenant (tenantID : String) :
    (getNamespace tenantID).Meets (onlyTenant tenantID) () fun _ _ => True := by
  refine .perform rfl ?_
  rintro (error | stored) _ _ <;> trivial

theorem listNamespaceMembers_onlyTenant (tenantID : String) :
    (listNamespaceMembers tenantID).Meets (onlyTenant tenantID) () fun _ _ => True := by
  refine .perform rfl ?_
  rintro (error | stored) _ _
  · trivial
  · dsimp only
    split
    · trivial
    · refine ⟨rfl, ?_⟩
      rintro (error | members) _ _ <;> trivial

theorem reportNamespaceDelete_onlyTenant (cloud : Bool) (stored : Namespace) :
    (reportNamespaceDelete cloud stored).Meets (onlyTenant stored.tenantID) ()
      fun _ _ => True := by
  unfold reportNamespaceDelete
  split
  · exact ⟨rfl, fun _ _ _ => trivial⟩
  · trivial

theorem deleteNamespace_onlyTenant (cloud : Bool) (tenantID : String) :
    (deleteNamespace cloud tenantID).Meets (onlyTenant tenantID) () fun _ _ => True := by
  refine .perform rfl ?_
  rintro (error | stored) _ _
  · trivial
  obtain ⟨stored, rfl⟩ := stored
  refine (reportNamespaceDelete_onlyTenant cloud stored).bind ?_
  rintro (error | _) _ _
  · trivial
  refine ⟨rfl, ?_⟩
  rintro (error | _) _ _
  · trivial
  refine ⟨rfl, ?_⟩
  rintro (error | _) _ _
  · cases error <;> trivial
  · trivial

theorem editNamespace_onlyTenant (edit : NamespaceEdit) :
    (editNamespace edit).Meets (onlyTenant edit.tenantID) () fun _ _ => True := by
  refine .perform rfl ?_
  rintro (error | stored) _ _
  · trivial
  refine ⟨stored.property, ?_⟩
  rintro (error | _) _ _
  · cases error <;> trivial
  refine ⟨rfl, ?_⟩
  rintro (error | updated) _ _ <;> trivial

theorem editSessionRecordStatus_onlyTenant (sessionRecord : Bool) (tenantID : String) :
    (editSessionRecordStatus sessionRecord tenantID).Meets (onlyTenant tenantID) ()
      fun _ _ => True := by
  refine .perform rfl ?_
  rintro (error | stored) _ _
  · trivial
  refine ⟨stored.property, ?_⟩
  rintro (error | _) _ _ <;> trivial

theorem seedAccessPolicy_onlyTenant (tenantID owner : String) :
    (seedAccessPolicy tenantID owner).Meets (onlyTenant tenantID) () fun _ _ => True := by
  unfold seedAccessPolicy
  split
  · trivial
  refine .perform rfl ?_
  rintro (error | count) _ _
  · trivial
  dsimp only
  split
  · trivial
  refine ⟨rfl, ?_⟩
  rintro (error | _) _ _ <;> trivial

theorem editSSHAccessMode_onlyTenant (sshAccessMode : SSHAccessMode) (tenantID : String) :
    (editSSHAccessMode sshAccessMode tenantID).Meets (onlyTenant tenantID) ()
      fun _ _ => True := by
  refine .perform rfl ?_
  rintro (error | stored) _ _
  · trivial
  dsimp only
  split
  · trivial
  refine ⟨stored.property, ?_⟩
  rintro (error | _) _ _
  · trivial
  cases sshAccessMode with
  | legacy => trivial
  | identity => exact seedAccessPolicy_onlyTenant tenantID stored.val.owner

end ShellHub.Namespaces
