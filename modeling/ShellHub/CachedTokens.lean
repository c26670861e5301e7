import ShellHub.Roles
import ShellHub.Sequences

/-!
# Cached tokens of members

The token of a user for a namespace is current as long as the cache has an entry for the two. An
entry is written at a login and when a token is asked for, and only for a member. A service that
changes or ends a membership has to drop the entry of that member. `UpdateNamespaceMember` does so;
`RemoveNamespaceMember` drops the entry of the acting user, and `LeaveNamespace` returns before it
drops one if the user is signed in to another namespace.

Requests run one at a time, and the cache does not fail. The key of an entry is the tenant followed
by the user; both are uuids, so that the text says which is which. An entry is kept with the role
that the user had when it was written. A token without a namespace concerns none and is left out.
-/

namespace ShellHub.CachedTokens

open Sequences Roles

/-- How a write of the store ends. The deletion of a membership is followed by a second statement,
the reset of the preferred namespace, which may fail alone. -/
inductive Write where
  | failed
  | half
  | done
  deriving DecidableEq, Repr

/-- What the store answers to a request: whether the namespace is found, how the write ends, whether
the account is found, and the namespace that it prefers, with an empty tenant for none. -/
structure Around where
  resolves : Bool
  write : Write
  account : Bool
  preferred : String

/-- The memberships and the cache, by tenant and user. -/
structure World where
  roles : String × String → Option Role
  tokens : String × String → Option Role

inductive Request where
  | authLocalUser (userID : String)
  | createUserToken (userID tenantID : String)
  | addMember (tenantID userID : String) (role : Role)
  | updateNamespaceMember (tenantID userID memberID : String) (memberRole : Role)
  | removeNamespaceMember (tenantID userID memberID : String)
  | leaveNamespace (tenantID userID authenticatedTenantID : String)

namespace World

variable (world : World)

/-- `AuthCacheToken`, after `FindMember` has found the user in the namespace. -/
def issue (key : String × String) : World :=
  match world.roles key with
  | none => world
  | some role => { world with tokens := Function.update world.tokens key (some role) }

/-- `AuthUncacheToken` -/
def uncache (key : String × String) : World :=
  { world with tokens := Function.update world.tokens key none }

/-- `AuthLocalUser`, for an account that may sign in and whose password fits. -/
def authLocalUser (userID : String) (around : Around) : World :=
  if around.account && around.write = .done then world.issue (around.preferred, userID) else world

/-- `CreateUserToken`. With a tenant, that namespace is stored as the preferred one. -/
def createUserToken (userID tenantID : String) (around : Around) : World :=
  if !around.account then world
  else if tenantID = "" then world.issue (around.preferred, userID)
  else if around.resolves && around.write = .done then world.issue (tenantID, userID)
  else world

/-- `NamespaceCreateMembership`, as an invitation that is accepted, a registration and
`AddNamespaceMember` call it. -/
def addMember (key : String × String) (role : Role) (around : Around) : World :=
  if (world.roles key).isNone && around.write = .done then
    { world with roles := Function.update world.roles key (some (storedRole role)) }
  else world

/-- `UpdateNamespaceMember` -/
def updateNamespaceMember (tenantID userID memberID : String) (memberRole : Role)
    (around : Around) : World :=
  match world.roles (tenantID, userID), world.roles (tenantID, memberID) with
  | some active, some passive =>
    if !around.resolves || userID = memberID || !active.hasAuthority passive ||
        (memberRole ≠ .invalid && !active.hasAuthority memberRole) || around.write ≠ .done then world
    else
      let role := if memberRole = .invalid then passive else memberRole
      { world with
        roles := Function.update world.roles (tenantID, memberID) (some (storedRole role)) }.uncache
          (tenantID, memberID)
  | _, _ => world

/-- `removeMember` -/
def removeMember (key : String × String) (write : Write) : World :=
  if write = .failed then world else { world with roles := Function.update world.roles key none }

/-- `RemoveNamespaceMember`. The entry that is dropped is that of the acting user. -/
def removeNamespaceMember (tenantID userID memberID : String) (around : Around) : World :=
  match world.roles (tenantID, userID), world.roles (tenantID, memberID) with
  | some active, some passive =>
    if !around.resolves || userID = memberID || !active.hasAuthority passive then world
    else
      let removed := world.removeMember (tenantID, memberID) around.write
      if around.write = .done then removed.uncache (tenantID, userID) else removed
  | _, _ => world

/-- `LeaveNamespace` -/
def leaveNamespace (tenantID userID authenticatedTenantID : String) (around : Around) : World :=
  match world.roles (tenantID, userID) with
  | none => world
  | some role =>
    if !around.resolves || role = .owner then world
    else
      let removed := world.removeMember (tenantID, userID) around.write
      if around.write ≠ .done || tenantID ≠ authenticatedTenantID || !around.account then removed
      else (removed.uncache (tenantID, userID)).createUserToken userID "" around

def next : Request × Around → World
  | (.authLocalUser userID, around) => world.authLocalUser userID around
  | (.createUserToken userID tenantID, around) => world.createUserToken userID tenantID around
  | (.addMember tenantID userID role, around) => world.addMember (tenantID, userID) role around
  | (.updateNamespaceMember tenantID userID memberID memberRole, around) =>
    world.updateNamespaceMember tenantID userID memberID memberRole around
  | (.removeNamespaceMember tenantID userID memberID, around) =>
    world.removeNamespaceMember tenantID userID memberID around
  | (.leaveNamespace tenantID userID authenticated, around) =>
    world.leaveNamespace tenantID userID authenticated around

/-- An entry belongs to a member whose role is that of when it was written. -/
def Backed : Prop := ∀ key role, world.tokens key = some role → world.roles key = some role

end World

/-- A member is removed without an entry; and somebody who leaves has none, or leaves the namespace
that they are signed in to, with an account and without a failure after the deletion. -/
def Careful (world : World) : Request × Around → Prop
  | (.removeNamespaceMember tenantID _ memberID, _) => world.tokens (tenantID, memberID) = none
  | (.leaveNamespace tenantID userID authenticated, around) =>
    world.tokens (tenantID, userID) = none ∨
      tenantID = authenticated ∧ around.write ≠ .half ∧ around.account = true
  | _ => True

instance (world : World) : (input : Request × Around) → Decidable (Careful world input)
  | (.removeNamespaceMember _ _ _, _) => inferInstanceAs (Decidable (_ = _))
  | (.leaveNamespace _ _ _, _) => inferInstanceAs (Decidable (_ ∨ _))
  | (.authLocalUser _, _) | (.createUserToken _ _, _) | (.addMember _ _ _, _)
  | (.updateNamespaceMember _ _ _ _, _) => .isTrue trivial

section Steps

variable {world : World} {key : String × String}

variable (backed : world.Backed)

include backed

theorem World.Backed.issue (key : String × String) : (world.issue key).Backed := by
  unfold World.issue
  split
  · exact backed
  · rename_i role found
    intro other written entry
    dsimp only at entry ⊢
    by_cases same : other = key
    · subst same
      rw [Function.update_self] at entry
      exact found.trans entry
    · rw [Function.update_of_ne same] at entry
      exact backed other written entry

/-- A membership may change in any way if there is no entry for it. -/
theorem World.Backed.change (free : world.tokens key = none) (value : Option Role) :
    World.Backed { world with roles := Function.update world.roles key value } := by
  intro other role entry
  have different : other ≠ key := by
    rintro rfl
    cases free.symm.trans entry
  exact (Function.update_of_ne different ..).trans (backed other role entry)

theorem World.Backed.uncache (key : String × String) : (world.uncache key).Backed := by
  intro other role entry
  by_cases same : other = key
  · simp [World.uncache, same] at entry
  · exact backed other role ((Function.update_of_ne same ..).symm.trans entry)

theorem World.Backed.removeMember (free : world.tokens key = none) (write : Write) :
    (world.removeMember key write).Backed := by
  unfold World.removeMember
  split
  · exact backed
  · exact backed.change free none

theorem World.Backed.createUserToken (userID tenantID : String) (around : Around) :
    (world.createUserToken userID tenantID around).Backed := by
  unfold World.createUserToken
  split
  · exact backed
  split
  · exact backed.issue _
  split
  · exact backed.issue _
  · exact backed

/-- A change that is followed by the removal of the entry. The order of the two does not matter. -/
theorem World.Backed.revoke (key : String × String) (value : Option Role) :
    (World.uncache { world with roles := Function.update world.roles key value } key).Backed :=
  (backed.uncache key).change (Function.update_self ..) value

theorem World.Backed.leave {tenantID userID authenticated : String} {around : Around}
    (careful : Careful world (.leaveNamespace tenantID userID authenticated, around)) :
    (world.leaveNamespace tenantID userID authenticated around).Backed := by
  unfold World.leaveNamespace
  split
  · exact backed
  split
  · exact backed
  split
  · rename_i early
    rcases careful with free | ⟨rfl, whole, account⟩
    · exact backed.removeMember free around.write
    · -- nothing was deleted
      have failed : around.write = .failed := by
        cases write : around.write with
        | failed => rfl
        | half => exact absurd write whole
        | done => simp [write, account] at early
      rw [World.removeMember, if_pos failed]
      exact backed
  · rename_i whole
    have done : around.write ≠ .failed := by
      intro failed
      simp [failed] at whole
    rw [World.removeMember, if_neg done]
    exact (backed.revoke _ none).createUserToken userID "" around

theorem World.Backed.next (input : Request × Around) (careful : Careful world input) :
    (world.next input).Backed := by
  obtain ⟨request, around⟩ := input
  cases request with
  | authLocalUser userID =>
    dsimp only [World.next, World.authLocalUser]
    split
    · exact backed.issue _
    · exact backed
  | createUserToken userID tenantID => exact backed.createUserToken userID tenantID around
  | addMember tenantID userID role =>
    dsimp only [World.next, World.addMember]
    split
    · rename_i fresh
      -- somebody who is no member has no entry
      have free : world.tokens (tenantID, userID) = none := by
        cases entry : world.tokens (tenantID, userID) with
        | none => rfl
        | some written => simp [backed _ written entry] at fresh
      exact backed.change free _
    · exact backed
  | updateNamespaceMember tenantID userID memberID memberRole =>
    dsimp only [World.next, World.updateNamespaceMember]
    split
    · split
      · exact backed
      · exact backed.revoke _ _
    · exact backed
  | removeNamespaceMember tenantID userID memberID =>
    dsimp only [World.next, World.removeNamespaceMember]
    split
    · split
      · exact backed
      · have removed := backed.removeMember careful around.write
        split
        · exact removed.uncache _
        · exact removed
    · exact backed
  | leaveNamespace tenantID userID authenticated => exact backed.leave careful

end Steps

/-- Whoever has an entry is a member with the role of when it was written, in every run of requests
that meet the condition. An entry is written with the role of that moment, and the condition lets a
membership change only while it has no entry. -/
theorem cached_tokens_backed {world : World} (empty : ∀ key, world.tokens key = none)
    (inputs : List (Request × Around)) (careful : Along World.next Careful world inputs) :
    ∀ later ∈ visited World.next world inputs, later.Backed := by
  have backed : world.Backed := fun key role entry => by cases (empty key).symm.trans entry
  exact visited_keeps (fun _ input backed condition => backed.next input condition) backed careful

/-- A namespace with its owner. -/
def ownedWorld : World := ⟨Function.update (fun _ => none) ("acme", "ada") (some .owner), fun _ => none⟩

/-- No call fails, and the account prefers no namespace. -/
def calm : Around := ⟨true, .done, true, ""⟩

/-- Somebody becomes a member and gets a token. -/
def memberJoins : List (Request × Around) :=
  [(.addMember "acme" "bob" .observer, calm), (.createUserToken "bob" "acme", calm)]

/-- The member is promoted, which drops the entry, and leaves the namespace that they are signed in
to. -/
def memberLeaves : List (Request × Around) :=
  memberJoins ++ [(.updateNamespaceMember "acme" "ada" "bob" .operator, calm),
    (.createUserToken "bob" "acme", calm), (.leaveNamespace "acme" "bob" "acme", calm)]

theorem cached_tokens_backed_after_leaving :
    ((visited World.next ownedWorld memberLeaves).map fun world => world.tokens ("acme", "bob")) =
      [none, none, some .observer, none, some .operator, none] ∧
    ∀ world ∈ visited World.next ownedWorld memberLeaves, world.Backed :=
  ⟨by decide +kernel, cached_tokens_backed (fun _ => rfl) memberLeaves (by decide +kernel)⟩

/-- The member is removed, or leaves while signed in to another namespace, and the entry stays. -/
theorem removed_member_keeps_token :
    (∃ world ∈ visited World.next ownedWorld
        (memberJoins ++ [(.removeNamespaceMember "acme" "ada" "bob", calm)]),
      world.tokens ("acme", "bob") = some .observer ∧ world.roles ("acme", "bob") = none) ∧
    ∃ world ∈ visited World.next ownedWorld
        (memberJoins ++ [(.leaveNamespace "acme" "bob" "other", calm)]),
      world.tokens ("acme", "bob") = some .observer ∧ world.roles ("acme", "bob") = none := by
  decide +kernel

end ShellHub.CachedTokens
