import ShellHub.Caches
import ShellHub.Namespaces
import ShellHub.Programs
import ShellHub.Tables

/-!
# API keys

An API key authenticates requests in one namespace with a role of its own. The store keeps a digest
of it. A key that authenticated is also kept in the cache, under the secret itself, and is read from
there as long as the entry lives.

The services here authenticate a key, change its name or role, and delete it. They reach the store
and the cache through calls. What the namespace says about members, the role of the key's creator
and whether the acting member may change a key, comes from the environment.
-/

namespace ShellHub.APIKeys

open Programs Tables Caches
open Roles (Role)
open Namespaces (StoreError)

/-- `APIKey`. An expiry of zero or less is none. -/
structure APIKey where
  id : String
  name : String
  tenantID : String
  role : Role
  createdBy : String
  expiresIn : Int
  deriving DecidableEq, Repr

namespace APIKey

/-- The primary key of the table. A digest is unique in one namespace only. -/
def primary (apiKey : APIKey) : String × String := (apiKey.id, apiKey.tenantID)

/-- `APIKey.IsValid`. -/
def isValid (apiKey : APIKey) (now : Nat) : Bool := apiKey.expiresIn ≤ 0 || now < apiKey.expiresIn

/-- The row that an update leaves: columns with a zero value are not part of it. -/
def updating (old new : APIKey) : APIKey :=
  { old with
    name := if new.name = "" then old.name else new.name
    role := if new.role = .invalid then old.role else new.role
    createdBy := if new.createdBy = "" then old.createdBy else new.createdBy
    expiresIn := if new.expiresIn = 0 then old.expiresIn else new.expiresIn }

end APIKey

/-- The errors of the API key services. -/
inductive APIKeyError where
  | forbidden
  | notFound (name : String)
  | invalid (name : String)
  | duplicated
  | acting
  | store (error : StoreError)
  deriving DecidableEq, Repr

/-! ## Calls -/

/-- The calls of the API key services. -/
inductive Call where
  | cacheGet (key : String)
  | cacheSet (key : String) (apiKey : APIKey)
  | apiKeyResolveID (digest : String)
  | apiKeyResolveName (tenantID name : String)
  | apiKeyConflicts (tenantID name : String)
  | apiKeyUpdate (apiKey : APIKey)
  | apiKeyDelete (apiKey : APIKey)
  | resolveNamespaceRole (tenantID userID : String)
  | resolveActingMember (tenantID actorID : String) (requireAuthorityOver : Role)
  | clockNow
  deriving DecidableEq

/-- What each call answers. -/
@[reducible]
def Call.Reply : Call → Type
  | .cacheGet _ => Except StoreError (Option APIKey)
  | .apiKeyResolveID _ => Except StoreError APIKey
  | .apiKeyResolveName _ _ => Except StoreError APIKey
  | .apiKeyConflicts _ _ => Except StoreError Bool
  | .resolveNamespaceRole _ _ => Option Role
  | .resolveActingMember _ _ _ => Bool
  | .clockNow => Nat
  | _ => Except StoreError Unit

/-- The stored keys and the cached ones. -/
structure Vault where
  keys : Table APIKey (String × String) APIKey.primary
  cache : Cache APIKey

/-- What a call finds around it. `choice` picks one of several matching rows; `creatorRole` is the
role of the key's creator, if that is still a member; `mayAct` says whether the acting member may
make the change. -/
structure Surroundings where
  fault : Option StoreError
  now : Nat
  choice : Nat
  creatorRole : Option Role
  mayAct : Bool

/-- How long a key that authenticated stays in the cache: two minutes. -/
def cacheTTL : Nat := 2 * 60

namespace Vault

variable (vault : Vault)

/-- The rows with a digest. -/
def withDigest (digest : String) : List APIKey :=
  vault.keys.rows.filter fun row => row.id = digest

/-- The row of a namespace with a name. -/
def named (tenantID name : String) : Option APIKey :=
  vault.keys.rows.find? fun row => row.tenantID = tenantID && row.name = name

/-- Whether another key of the namespace has the name. -/
def nameTaken (apiKey : APIKey) : Bool :=
  vault.keys.rows.any fun other =>
    other.id ≠ apiKey.id && other.tenantID = apiKey.tenantID && other.name = apiKey.name

/-- The effect of a call when nothing around it fails. -/
def perform (around : Surroundings) : (call : Call) → call.Reply × Vault
  | .cacheGet key => (.ok (vault.cache.get key around.now), vault)
  | .cacheSet key apiKey =>
    (.ok (), { vault with cache := vault.cache.set key apiKey (around.now + cacheTTL) })
  | .apiKeyResolveID digest =>
    match (vault.withDigest digest)[around.choice % (vault.withDigest digest).length]? with
    | none => (.error .noDocuments, vault)
    | some row => (.ok row, vault)
  | .apiKeyResolveName tenantID name =>
    match vault.named tenantID name with
    | none => (.error .noDocuments, vault)
    | some row => (.ok row, vault)
  | .apiKeyConflicts tenantID name =>
    (.ok (name ≠ "" && (vault.named tenantID name).isSome), vault)
  | .apiKeyUpdate apiKey =>
    match vault.keys.find apiKey.primary with
    | none => (.error .noDocuments, vault)
    | some old =>
      if vault.nameTaken (old.updating apiKey) then (.error .duplicate, vault)
      else (.ok (), { vault with keys := vault.keys.put (old.updating apiKey) })
  | .apiKeyDelete apiKey =>
    match vault.keys.find apiKey.primary with
    | none => (.error .noDocuments, vault)
    | some _ =>
      (.ok (), { vault with keys := vault.keys.erase fun row => row.primary = apiKey.primary })
  | .resolveNamespaceRole _ _ => (around.creatorRole, vault)
  | .resolveActingMember _ _ _ => (around.mayAct, vault)
  | .clockNow => (around.now, vault)

end Vault

/-- The answer of a call of the store or the cache that fails. -/
def failure (error : StoreError) : (call : Call) → Option call.Reply
  | .resolveNamespaceRole _ _ | .resolveActingMember _ _ _ | .clockNow => none
  | .cacheGet _ | .cacheSet _ _ | .apiKeyResolveID _ | .apiKeyResolveName _ _
  | .apiKeyConflicts _ _ | .apiKeyUpdate _ | .apiKeyDelete _ => some (.error error)

/-- The meaning of a call. One that fails changes nothing. -/
def meaning : Meaning Call Call.Reply Surroundings Vault :=
  fun call around vault =>
    match around.fault.bind fun error => failure error call with
    | some reply => (reply, vault)
    | none => vault.perform around call

/-! ## Services -/

/-- A program of the API key services. -/
abbrev Service := Program Call Call.Reply

/-- The service step of one call. -/
def call (request : Call) : Service request.Reply := Program.perform request

/-- The key that the cache had, or the stored one with the digest of the secret. -/
def loadAPIKey (digest : String) (cached : Option APIKey) :
    Service (Except APIKeyError APIKey) :=
  match cached with
  | some apiKey => return .ok apiKey
  | none => do
    match ← call (.apiKeyResolveID digest) with
    | .error _ => return .error (.notFound "")
    | .ok apiKey => return .ok apiKey

/-- The role of a key is capped at the current role of its creator. -/
def capped (apiKey : APIKey) (creatorRole : Role) : APIKey :=
  if creatorRole.hasAuthority apiKey.role then apiKey else { apiKey with role := creatorRole }

/-- `AuthAPIKey`. The key is written to the cache on every use, also when it came from there. -/
def authAPIKey (hash : String → String) (key : String) : Service (Except APIKeyError APIKey) := do
  match ← call (.cacheGet key) with
  | .error error => return .error (.store error)
  | .ok cached =>
    match ← loadAPIKey (hash key) (cached.filter fun apiKey => apiKey.id ≠ "") with
    | .error error => return .error error
    | .ok apiKey =>
      let now ← call .clockNow
      if !apiKey.isValid now then return .error (.invalid apiKey.name)
      else do
        let _ ← call (.cacheSet key apiKey)
        match ← call (.resolveNamespaceRole apiKey.tenantID apiKey.createdBy) with
        | none => return .error (.invalid apiKey.name)
        | some creatorRole => return .ok (capped apiKey creatorRole)

/-- `requests.UpdateAPIKey`. An empty name or role is left as it is. -/
structure UpdateAPIKey where
  userID : String
  tenantID : String
  currentName : String
  name : String
  role : Role
  deriving DecidableEq, Repr

/-- The key with the fields that a request gives. -/
def UpdateAPIKey.patch (request : UpdateAPIKey) (apiKey : APIKey) : APIKey :=
  { apiKey with
    name := if request.name ≠ "" then request.name else apiKey.name
    role := if request.role ≠ .invalid then request.role else apiKey.role }

/-- Whether the new name of a key is taken. A query that fails finds no conflict. -/
def nameConflicts (request : UpdateAPIKey) (apiKey : APIKey) : Service Bool :=
  if apiKey.name ≠ request.name then do
    match ← call (.apiKeyConflicts request.tenantID request.name) with
    | .error _ => return false
    | .ok conflicts => return conflicts
  else return false

/-- How a failed lookup by name is reported. -/
def lookupError (name : String) (error : StoreError) : APIKeyError :=
  if error = .noDocuments then .notFound name else .store error

/-- `UpdateAPIKey`. -/
def updateAPIKey (request : UpdateAPIKey) : Service (Except APIKeyError Unit) :=
  if request.tenantID = "" then return .error .forbidden
  else do
    let .true ← call (.resolveActingMember request.tenantID request.userID request.role)
      | return .error .acting
    match ← call (.apiKeyResolveName request.tenantID request.currentName) with
    | .error error => return .error (lookupError request.currentName error)
    | .ok apiKey =>
      if ← nameConflicts request apiKey then return .error .duplicated
      else do
        match ← call (.apiKeyUpdate (request.patch apiKey)) with
        | .error error => return .error (.store error)
        | .ok _ => return .ok ()

/-- `DeleteAPIKey`. -/
def deleteAPIKey (tenantID name : String) : Service (Except APIKeyError Unit) :=
  if tenantID = "" then return .error .forbidden
  else do
    match ← call (.apiKeyResolveName tenantID name) with
    | .error error => return .error (lookupError name error)
    | .ok apiKey =>
      match ← call (.apiKeyDelete apiKey) with
      | .error error => return .error (.store error)
      | .ok _ => return .ok ()

/-! ## Sequences of calls -/

/-- The operations on API keys. -/
inductive Operation where
  | authAPIKey (key : String)
  | updateAPIKey (request : UpdateAPIKey)
  | deleteAPIKey (tenantID name : String)
  deriving DecidableEq

/-- The service of an operation. Only an authentication returns a key. -/
def Operation.program (hash : String → String) :
    Operation → Service (Except APIKeyError (Option APIKey))
  | .authAPIKey key => do return (← APIKeys.authAPIKey hash key).map some
  | .updateAPIKey request => do return (← APIKeys.updateAPIKey request).map fun _ => none
  | .deleteAPIKey tenantID name => do
    return (← APIKeys.deleteAPIKey tenantID name).map fun _ => none

/-- One operation, with the time in which it runs and the surroundings of its calls. -/
structure Step where
  op : Operation
  start : Nat
  finish : Nat
  inputs : Nat → Surroundings
  inside : ∀ index, start ≤ (inputs index).now ∧ (inputs index).now ≤ finish

/-- What an operation answers. -/
def Step.answer (step : Step) (hash : String → String) (vault : Vault) :
    Except APIKeyError (Option APIKey) :=
  (run meaning step.inputs (step.op.program hash) vault).result

/-- What an operation leaves behind. -/
def Step.apply (hash : String → String) (vault : Vault) (step : Step) : Vault :=
  (run meaning step.inputs (step.op.program hash) vault).state

/-- The vault after several operations. -/
def after (hash : String → String) (vault : Vault) (steps : List Step) : Vault :=
  steps.foldl (Step.apply hash) vault

/-- Operations that follow one another in time. -/
def Ordered (steps : List Step) : Prop :=
  steps.Pairwise fun first second => first.finish ≤ second.start

end ShellHub.APIKeys
