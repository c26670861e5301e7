import ShellHub.TagStore

/-!
# The tag services

Tags are created, renamed and deleted in a namespace, and they are put on devices and public keys. A
service looks a tag up in the namespace of the caller and hands its identifier to the store, together
with the identifier of the target. A deletion is one transaction: it takes the tag off all targets and
then deletes it.
-/

namespace ShellHub.Tags

open Programs Tables
open Namespaces (Namespace StoreError)
open Devices (Device Tag)
open LetterCase (equalFold)
open TagStore (Surroundings)

/-! ## The services -/

/-- `CreateTag`. -/
def createTag (tenantID name : String) : Service (Except TagError String) :=
  if tenantID = "" then return .error .forbidden
  else do
    match ← call (.namespaceResolve tenantID) with
    | .error _ => return .error (.namespaceNotFound tenantID)
    | .ok _ =>
      match ← call (.tagConflicts tenantID name) with
      | .error error => return .error (.store error)
      | .ok true => return .error (.tagDuplicated ["name"])
      | .ok false =>
        match ← call (.tagCreate tenantID name) with
        | .error error => return .error (.store error)
        | .ok id => return .ok id

/-- The tag of the namespace that a request names. -/
def namedTag (tenantID name : String) : Service (Except TagError Tag) :=
  if tenantID = "" then return .error .forbidden
  else do
    match ← call (.namespaceResolve tenantID) with
    | .error _ => return .error (.namespaceNotFound tenantID)
    | .ok _ =>
      match ← call (.tagResolve tenantID name) with
      | .error _ => return .error (.tagNotFound name)
      | .ok tag => return .ok tag

/-- `PushTagTo`. -/
def pushTagTo (target : TagTarget) (tenantID name targetID : String) :
    Service (Except TagError Unit) := do
  match ← namedTag tenantID name with
  | .error error => return .error error
  | .ok tag =>
    match ← call (.tagPushToTarget tag.id target targetID) with
    | .error error => return .error (.store error)
    | .ok _ => return .ok ()

/-- `PullTagFrom`. -/
def pullTagFrom (target : TagTarget) (tenantID name targetID : String) :
    Service (Except TagError Unit) := do
  match ← namedTag tenantID name with
  | .error error => return .error error
  | .ok tag =>
    match ← call (.tagPullFromTarget tag.id target [targetID]) with
    | .error error => return .error (.store error)
    | .ok _ => return .ok ()

/-- `UpdateTag`. -/
def updateTag (tenantID name newName : String) : Service (Except TagError Unit) := do
  match ← namedTag tenantID name with
  | .error error => return .error error
  | .ok tag =>
    let conflicting := if newName ≠ "" ∧ newName ≠ name then newName else ""
    match ← call (.tagConflicts tenantID conflicting) with
    | .error error => return .error (.store error)
    | .ok true => return .error (.tagDuplicated ["name"])
    | .ok false =>
      let renamed := if newName ≠ "" ∧ !equalFold newName tag.name then
        { tag with name := newName } else tag
      match ← call (.tagUpdate renamed) with
      | .error error => return .error (.store error)
      | .ok _ => return .ok ()

/-- The loop of `deleteTagCallback` over the targets. -/
def pullFromAll (id : String) : List TagTarget → Service (Except TagError Unit)
  | [] => return .ok ()
  | target :: rest => do
    match ← call (.tagPullFromTarget id target []) with
    | .error error => return .error (.store error)
    | .ok _ => pullFromAll id rest

/-- `deleteTagCallback`. -/
def deleteTagCallback (tenantID name : String) : Service (Except TagError Unit) := do
  match ← namedTag tenantID name with
  | .error error => return .error error
  | .ok tag =>
    match ← pullFromAll tag.id tagTargets with
    | .error error => return .error error
    | .ok _ =>
      match ← call (.tagDelete tag) with
      | .error error => return .error (.store error)
      | .ok _ => return .ok ()

/-! ## Requests -/

/-- What a request finds around it: its calls, and the start and the end of a transaction. -/
structure Inputs where
  calls : Nat → Surroundings
  begins : Option StoreError
  commits : Option StoreError

/-- `WithTransaction`. What a block did is kept if it succeeded and could be committed. -/
def withTransaction (inputs : Inputs) (block : Service (Except TagError Unit)) (store : TagStore) :
    Except TagError Unit × TagStore :=
  match inputs.begins with
  | some error => (.error (.store error), store)
  | none =>
    let outcome := run callMeaning inputs.calls block store
    match outcome.result, inputs.commits with
    | .error error, _ => (.error error, store)
    | .ok _, some error => (.error (.store error), store)
    | .ok _, none => (.ok (), outcome.state)

/-- A request to the tag services. -/
inductive TagRequest where
  | createTag (tenantID name : String)
  | pushTagTo (target : TagTarget) (tenantID name targetID : String)
  | pullTagFrom (target : TagTarget) (tenantID name targetID : String)
  | updateTag (tenantID name newName : String)
  | deleteTag (tenantID name : String)
  deriving DecidableEq

namespace TagRequest

/-- The namespace of the caller. -/
def tenantID : TagRequest → String
  | .createTag tenantID _ | .pushTagTo _ tenantID _ _ | .pullTagFrom _ tenantID _ _
  | .updateTag tenantID _ _ | .deleteTag tenantID _ => tenantID

/-- The program of a request, or of its transaction. -/
def program : TagRequest → Service (Except TagError Unit)
  | .createTag tenantID name => do return (← Tags.createTag tenantID name).map fun _ => ()
  | .pushTagTo target tenantID name targetID => Tags.pushTagTo target tenantID name targetID
  | .pullTagFrom target tenantID name targetID => Tags.pullTagFrom target tenantID name targetID
  | .updateTag tenantID name newName => Tags.updateTag tenantID name newName
  | .deleteTag tenantID name => deleteTagCallback tenantID name

/-- A request from beginning to end. -/
def perform (request : TagRequest) (inputs : Inputs) (store : TagStore) :
    Except TagError Unit × TagStore :=
  match request with
  | .deleteTag tenantID name => withTransaction inputs (deleteTagCallback tenantID name) store
  | other =>
    let outcome := run callMeaning inputs.calls other.program store
    (outcome.result, outcome.state)

/-- A device on which a tag is put belongs to the namespace of the caller. -/
def OwnTarget (request : TagRequest) (store : TagStore) : Prop :=
  match request with
  | .pushTagTo .device tenantID _ targetID =>
    ((store.devices.find targetID).all fun device => device.tenantID = tenantID) = true
  | _ => True

/-- A request leaves the store as it was, or as its program left it. -/
theorem perform_cases (request : TagRequest) (inputs : Inputs) (store : TagStore) :
    (request.perform inputs store).2 = store ∨
      (request.perform inputs store).2 =
        (run callMeaning inputs.calls request.program store).state := by
  cases request
  case deleteTag tenantID name =>
    simp only [perform, withTransaction, program]
    split
    · exact .inl rfl
    · split
      · exact .inl rfl
      · exact .inl rfl
      · exact .inr rfl
  all_goals exact .inr rfl

end TagRequest

end ShellHub.Tags
