import ShellHub.Devices
import ShellHub.Namespaces

/-!
# Tags, and what is selected by them

A tag belongs to a namespace. It is put on devices, and public keys and access policies select devices
by tags: a filter names a hostname pattern or a set of tags, and an empty filter selects every device.
This module has the models of public keys and access policies, and the calls of the store that concern
tags. A device, a key or a policy is read together with its tags.
-/

namespace ShellHub.Tags

open Programs
open Namespaces (Namespace NamespaceOf StoreError)
open Devices (Device Tag)

/-- `PublicKeyFilter`, which access policies share. -/
structure PublicKeyFilter where
  hostname : String
  tagIDs : List String
  deriving DecidableEq, Repr

/-- `PublicKey`. -/
structure PublicKey where
  fingerprint : String
  tenantID : String
  filter : PublicKeyFilter
  deriving DecidableEq, Repr

/-- `PolicySubjectType`. A type that the server does not know is `unknown`. -/
inductive PolicySubjectType where
  | user
  | role
  | allMembers
  | unknown
  deriving DecidableEq, Repr

/-- `PolicySubject`. -/
structure PolicySubject where
  type : PolicySubjectType
  value : String
  deriving DecidableEq, Repr

/-- `PolicyAction`. An action that the server does not know is `unknown`. -/
inductive PolicyAction where
  | allow
  | deny
  | unknown
  deriving DecidableEq, Repr

/-- `AccessPolicy`. A period that is not there is `nil`. -/
structure AccessPolicy where
  id : String
  tenantID : String
  name : String
  subject : PolicySubject
  filter : PublicKeyFilter
  logins : List String
  sourceIP : List String
  action : PolicyAction
  requireReauth : Bool
  reauthPeriod : Option Int
  deriving DecidableEq, Repr

/-- A device and the identifiers of its tags. -/
structure TaggedDevice where
  device : Device
  tagIDs : List String
  deriving DecidableEq, Repr

/-- `TagTarget`. -/
inductive TagTarget where
  | device
  | publicKey
  deriving DecidableEq, Repr

/-- `TagTargets`. -/
def tagTargets : List TagTarget := [.device, .publicKey]

/-- The calls to the store. Calls that are bound to a namespace name its tenant. -/
inductive Call where
  | namespaceResolve (tenantID : String)
  | deviceResolve (tenantID uid : String)
  | tagConflicts (tenantID name : String)
  | tagCreate (tenantID name : String)
  | tagResolve (tenantID name : String)
  | tagUpdate (tag : Tag)
  | tagPushToTarget (id : String) (target : TagTarget) (targetID : String)
  | tagPullFromTarget (id : String) (target : TagTarget) (targetIDs : List String)
  | tagDelete (tag : Tag)
  | publicKeyResolve (tenantID fingerprint : String)
  | accessPolicyList (tenantID : String)
  deriving DecidableEq

/-- What a call answers when it succeeds. -/
def Call.Answer : Call → Type
  | .namespaceResolve tenantID => NamespaceOf tenantID
  | .deviceResolve _ _ => TaggedDevice
  | .tagConflicts _ _ => Bool
  | .tagCreate _ _ => String
  | .tagResolve _ _ => Tag
  | .publicKeyResolve _ _ => PublicKey
  | .accessPolicyList _ => List AccessPolicy
  | .tagUpdate _ | .tagPushToTarget _ _ _ | .tagPullFromTarget _ _ _ | .tagDelete _ => Unit

/-- What a call answers. -/
abbrev Call.Reply (call : Call) : Type := Except StoreError call.Answer

/-- A service function over these calls. -/
abbrev Service (α : Type) : Type := Program Call Call.Reply α

/-- The service step of one call. -/
def call (request : Call) : Service request.Reply := Program.perform request

/-- The errors of the services. -/
inductive TagError where
  | forbidden
  | namespaceNotFound (tenantID : String)
  | deviceNotFound (uid : String)
  | tagNotFound (name : String)
  | tagDuplicated (fields : List String)
  | publicKeyNotFound (fingerprint : String)
  | store (error : StoreError)
  deriving DecidableEq, Repr

end ShellHub.Tags
