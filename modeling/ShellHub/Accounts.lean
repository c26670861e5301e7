import ShellHub.Caches
import ShellHub.Namespaces
import ShellHub.Programs
import ShellHub.Tables

/-!
# Accounts and passwords

Signing in with a password, changing one's data and changing one's password. The services read an
account, compare a password with the hash that they have read, and write the account back as a
whole; only the preferred namespace is left out of that write.

Wrong passwords at the login are counted in the cache, by source and account. From the third on an
account is locked out for the source, for a time that grows with the count. Counting is a read and a
later write, and the lockout is a third step.

What a hash is, and whether a text is an email address, is left to the server's libraries. The
answer to a query for the preferred namespace comes from the environment.
-/

namespace ShellHub.Accounts

open Programs Tables Caches
open LetterCase (toLower equalFold)
open Namespaces (Namespace)

/-! ## Users -/

/-- `UserType`. -/
inductive UserType where
  | human
  | service
  deriving DecidableEq, Repr

/-- `UserStatus`. -/
inductive UserStatus where
  | notConfirmed
  | confirmed
  deriving DecidableEq, Repr

/-- `UserOrigin`. -/
inductive UserOrigin where
  | native
  | saml
  deriving DecidableEq, Repr

/-- `UserAuthMethod`. `native` is a password. -/
inductive UserAuthMethod where
  | native
  | saml
  deriving DecidableEq, Repr

/-- `User`. -/
structure User where
  id : String
  type : UserType
  origin : UserOrigin
  status : UserStatus
  name : String
  username : String
  email : String
  recoveryEmail : String
  passwordHash : String
  mfaEnabled : Bool
  preferredNamespace : String
  authMethods : List UserAuthMethod
  maxNamespaces : Int
  lastLogin : Nat
  admin : Bool
  awaitingApproval : Bool
  deriving DecidableEq, Repr

/-- `UserResolver`. -/
inductive UserResolver where
  | id
  | email
  | username
  deriving DecidableEq, Repr

/-- The column that a resolver compares. -/
def UserResolver.column : UserResolver → User → String
  | .id => User.id
  | .email => User.email
  | .username => User.username

/-- `UserClaims`. -/
structure UserClaims where
  id : String
  origin : UserOrigin
  tenantID : String
  username : String
  mfa : Bool
  admin : Bool
  deriving DecidableEq, Repr

/-- `UserAuthResponse`. -/
structure UserAuthResponse where
  id : String
  origin : UserOrigin
  authMethods : List UserAuthMethod
  user : String
  name : String
  email : String
  recoveryEmail : String
  mfa : Bool
  tenant : String
  role : String
  token : String
  maxNamespaces : Int
  admin : Bool
  deriving DecidableEq, Repr

/-- The ways a store or cache call fails. A duplicate names the field, if the constraint is known.
-/
inductive StoreError where
  | noDocuments
  | duplicate (field : Option String)
  | unavailable
  deriving DecidableEq, Repr

/-- The errors of the account services. -/
inductive AccountError where
  | authMethodNotAllowed (method : UserAuthMethod)
  | authUnauthorized
  | userNotConfirmed
  | userAwaitingApproval
  | tokenSigned (error : StoreError)
  | userUpdate (error : StoreError)
  | userNotFound (id : String)
  | invalidFields (fields : List (String × String))
  | userDuplicated (fields : List String)
  | userUnhandledDuplicate
  | userPasswordNotMatch
  | userPasswordInvalid (error : StoreError)
  | passwordHash (error : StoreError)
  deriving DecidableEq, Repr

/-- What a login answers. -/
structure LoginReply where
  response : Option UserAuthResponse
  lockout : Nat
  mfaToken : String
  error : Option AccountError
  deriving DecidableEq, Repr

/-- A login that failed. -/
def LoginReply.refused (error : AccountError) (lockout : Nat) : LoginReply :=
  ⟨none, lockout, "", some error⟩

/-! ## Calls -/

/-- The calls of the account services: to the store, to the cache, to the password library and to
what else is around. A comparison names the account whose hash is compared. -/
inductive Call where
  | systemGet
  | userResolve (resolver : UserResolver) (value : String)
  | comparePassword (user : User) (plain : String)
  | hashUserPassword (plain : String)
  | cacheGet (key : String)
  | cacheSet (key : String) (value ttl : Nat)
  | cacheDelete (key : String)
  | cacheSetText (key value : String) (ttl : Nat)
  | clockNow
  | uuidGenerate
  | namespaceGetPreferred (userID : String)
  | encodeUserClaims (claims : UserClaims)
  | userUpdate (user : User)
  | userUpdatePreferredNamespace (userID tenantID : String)
  deriving DecidableEq

/-- What each call answers. The system's settings are reduced to whether passwords are allowed. -/
@[reducible]
def Call.Reply : Call → Type
  | .systemGet => Except StoreError Bool
  | .userResolve _ _ => Except StoreError User
  | .comparePassword _ _ => Bool
  | .hashUserPassword _ | .encodeUserClaims _ => Except StoreError String
  | .cacheGet _ => Except StoreError (Option Nat)
  | .clockNow => Nat
  | .uuidGenerate => String
  | .namespaceGetPreferred _ => Except StoreError Namespace
  | _ => Except StoreError Unit

/-- A program of the account services. -/
abbrev Service := Program Call Call.Reply

/-- The service that makes one call. -/
def make (request : Call) : Service request.Reply := Program.perform request

/-- The settings of a server, and the libraries it uses. -/
structure Server where
  maximumAccountLockout : Int
  isEmail : String → Bool
  sha256Hex : String → String
  bcryptMatches : (hash plain : String) → Bool

/-- Whether a hash is one of bcrypt. -/
def isBcrypt (hash : String) : Bool := hash.toList.head? = some '$'

/-- `CompareWith`. -/
def Server.compareWith (server : Server) (plain hash : String) : Bool :=
  if isBcrypt hash then server.bcryptMatches hash plain else hash = server.sha256Hex plain

/-! ## Counting attempts -/

/-- What source and account are counted under. -/
def subject (source id : String) : String := source ++ ":" ++ id

def lockoutKey (subject : String) : String := "account-lockout=" ++ subject

def attemptKey (subject : String) : String := "login-attempt=" ++ subject

/-- The end of a lockout, the number of attempts, and an error. -/
structure Lockout where
  lockout : Nat
  attempt : Nat
  error : Option StoreError
  deriving DecidableEq, Repr

/-- `HasAccountLockout`. -/
def hasAccountLockout (server : Server) (source id : String) : Service Lockout := do
  if server.maximumAccountLockout ≤ 0 then return ⟨0, 0, none⟩
  else
    match ← make (.cacheGet (lockoutKey (subject source id))) with
    | .error error => return ⟨0, 0, some error⟩
    | .ok lockout =>
      match ← make (.cacheGet (attemptKey (subject source id))) with
      | .error error => return ⟨0, 0, some error⟩
      | .ok attempt => return ⟨lockout.getD 0, attempt.getD 0, none⟩

/-- The minutes of a lockout, from the third attempt on. -/
def Server.lockoutMinutes (server : Server) (attempt : Nat) : Nat :=
  min (4 ^ (attempt - 3)) server.maximumAccountLockout.toNat

/-- The minutes that an attempt is remembered: two and a half times the lockout, but at least two.
The lockout of the first two attempts is less than a minute. -/
def Server.attemptMinutes (server : Server) (attempt : Nat) : Nat :=
  if attempt < 3 then 2
  else max (min (server.lockoutMinutes attempt * 5 / 2) server.maximumAccountLockout.toNat) 2

/-- `StoreLoginAttempt`. -/
def storeLoginAttempt (server : Server) (source id : String) : Service Lockout := do
  if server.maximumAccountLockout ≤ 0 then return ⟨0, 0, none⟩
  else
    match ← make (.cacheGet (attemptKey (subject source id))) with
    | .error error => return ⟨0, 0, some error⟩
    | .ok stored =>
      let attempt := stored.getD 0 + 1
      let now ← make .clockNow
      match ← make (.cacheSet (attemptKey (subject source id)) attempt
          (server.attemptMinutes attempt * 60)) with
      | .error error => return ⟨0, attempt, some error⟩
      | .ok _ =>
        if attempt ≤ 2 then return ⟨0, attempt, none⟩
        else
          let lockout := now + server.lockoutMinutes attempt * 60
          match ← make (.cacheSet (lockoutKey (subject source id)) lockout
              (server.lockoutMinutes attempt * 60)) with
          | .error error => return ⟨0, attempt, some error⟩
          | .ok _ => return ⟨lockout, attempt, none⟩

/-- `Delete` of the cache. A missing key is not an error. -/
def cacheDelete (key : String) : Service (Except StoreError Unit) := do
  match ← make (.cacheGet key) with
  | .ok none => return .ok ()
  | _ => make (.cacheDelete key)

/-- `ResetLoginAttempts`. -/
def resetLoginAttempts (server : Server) (source id : String) : Service (Except StoreError Unit) := do
  if server.maximumAccountLockout ≤ 0 then return .ok ()
  else
    match ← cacheDelete (attemptKey (subject source id)) with
    | .error error => return .error error
    | .ok _ => cacheDelete (lockoutKey (subject source id))

/-- The calls that count attempts. -/
def Call.Counts (source id : String) : Call → Prop
  | .cacheGet key | .cacheSet key _ _ | .cacheDelete key =>
    key = attemptKey (subject source id) ∨ key = lockoutKey (subject source id)
  | .clockNow => True
  | _ => False

theorem hasAccountLockout_uses (server : Server) (source id : String) :
    (hasAccountLockout server source id).Uses (Call.Counts source id) := by
  unfold hasAccountLockout
  split
  · trivial
  refine ⟨.inr rfl, ?_⟩
  rintro (error | lockout)
  · trivial
  refine ⟨.inl rfl, ?_⟩
  rintro (error | attempt) <;> trivial

theorem storeLoginAttempt_uses (server : Server) (source id : String) :
    (storeLoginAttempt server source id).Uses (Call.Counts source id) := by
  unfold storeLoginAttempt
  split
  · trivial
  refine ⟨.inl rfl, ?_⟩
  rintro (error | stored)
  · trivial
  refine ⟨trivial, fun now => ⟨.inl rfl, ?_⟩⟩
  rintro (error | _)
  · trivial
  split
  · trivial
  refine ⟨.inr rfl, ?_⟩
  rintro (error | _) <;> trivial

theorem cacheDelete_uses {source id key : String}
    (own : key = attemptKey (subject source id) ∨ key = lockoutKey (subject source id)) :
    (cacheDelete key).Uses (Call.Counts source id) := by
  refine ⟨own, ?_⟩
  rintro (error | _ | value)
  · exact ⟨own, fun _ => trivial⟩
  · trivial
  · exact ⟨own, fun _ => trivial⟩

theorem resetLoginAttempts_uses (server : Server) (source id : String) :
    (resetLoginAttempts server source id).Uses (Call.Counts source id) := by
  unfold resetLoginAttempts
  split
  · trivial
  refine (cacheDelete_uses (.inl rfl)).bind ?_
  rintro (error | _)
  · trivial
  · exact cacheDelete_uses (.inr rfl)

/-! ## Signing in -/

/-- Try resolvers in turn. The error is that of the last one. -/
def resolveFirst (value : String) : List UserResolver → StoreError → Service (Except StoreError User)
  | [], error => return .error error
  | resolver :: rest, _ => do
    match ← make (.userResolve resolver value) with
    | .ok user => return .ok user
    | .error error => resolveFirst value rest error

/-- `UserResolveByAuthIdentifier`. -/
def userResolveByAuthIdentifier (server : Server) (identifier : String) :
    Service (Except StoreError User) :=
  resolveFirst (toLower identifier)
    (if server.isEmail identifier then [.email, .username] else [.username]) .noDocuments

/-- Why an account that was found may not sign in at all. -/
def User.barred (user : User) : Option AccountError :=
  if user.type = .service then some .authUnauthorized
  else if .native ∉ user.authMethods then some .authUnauthorized
  else if user.status = .notConfirmed then some .userNotConfirmed
  else if user.awaitingApproval then some .userAwaitingApproval
  else none

/-- The namespace that a user prefers and the role in it, both empty without one. -/
def preferredTenant (userID : String) : Service (String × String) := do
  match ← make (.namespaceGetPreferred userID) with
  | .error _ => return ("", "")
  | .ok stored =>
    if stored.tenantID = "" then return ("", "")
    else
      match stored.findMember userID with
      | none => return ("", "")
      | some member => return (stored.tenantID, member.role.string)

/-- The account with a hash of bcrypt in the place of an older one, if that works. -/
def upgradeHash (user : User) (plain : String) : Service User := do
  if isBcrypt user.passwordHash then return user
  else
    match ← make (.hashUserPassword plain) with
    | .error _ => return user
    | .ok hash => return if hash = "" then user else { user with passwordHash := hash }

/-- The end of a login with the right password: a token, and the time of the login in the account.
-/
def completeLogin (user : User) (plain : String) : Service LoginReply := do
  let (tenantID, role) ← preferredTenant user.id
  match ← make (.encodeUserClaims
      ⟨user.id, user.origin, tenantID, user.username, user.mfaEnabled, user.admin⟩) with
  | .error error => return .refused (.tokenSigned error) 0
  | .ok token =>
    let now ← make .clockNow
    let updated ← upgradeHash { user with lastLogin := now } plain
    match ← make (.userUpdate updated) with
    | .error error => return .refused (.userUpdate error) 0
    | .ok _ =>
      match ← make (.userUpdatePreferredNamespace user.id tenantID) with
      | .error error => return .refused (.userUpdate error) 0
      | .ok _ =>
        let _ ← make (.cacheSetText ("token_" ++ tenantID ++ user.id) token (72 * 60 * 60))
        let response : UserAuthResponse :=
          { id := user.id, origin := user.origin, authMethods := user.authMethods
            user := user.username, name := user.name, email := user.email
            recoveryEmail := user.recoveryEmail, mfa := user.mfaEnabled, tenant := tenantID, role
            token, maxNamespaces := user.maxNamespaces, admin := user.admin }
        return ⟨some response, 0, "", none⟩

/-- The part of a login after the account was found: the lockout, the comparison, and what follows.
-/
def loginAs (server : Server) (user : User) (plain sourceIP : String) : Service LoginReply := do
  let standing ← hasAccountLockout server sourceIP user.id
  if 0 < standing.lockout then return .refused .authUnauthorized standing.lockout
  else
    match ← make (.comparePassword user plain) with
    | false =>
      let counted ← storeLoginAttempt server sourceIP user.id
      return .refused .authUnauthorized counted.lockout
    | true =>
      let _ ← resetLoginAttempts server sourceIP user.id
      if user.mfaEnabled then
        let mfaToken ← make .uuidGenerate
        let _ ← make (.cacheSetText ("mfa-token=\x7b" ++ mfaToken ++ "\x7d") user.id (30 * 60))
        return ⟨none, 0, mfaToken, none⟩
      else completeLogin user plain

/-- `AuthLocalUser`. -/
def authLocalUser (server : Server) (identifier plain sourceIP : String) : Service LoginReply := do
  match ← make .systemGet with
  | .error _ => return .refused (.authMethodNotAllowed .native) 0
  | .ok enabled =>
    if !enabled then return .refused (.authMethodNotAllowed .native) 0
    else
      match ← userResolveByAuthIdentifier server identifier with
      | .error _ => return .refused .authUnauthorized 0
      | .ok user =>
        match user.barred with
        | some error => return .refused error 0
        | none => loginAs server user plain sourceIP

/-! ## Changing an account -/

/-- `requests.UpdateUser`. -/
structure UserChanges where
  userID : String
  name : String
  username : String
  email : String
  recoveryEmail : String
  password : String
  currentPassword : String
  deriving DecidableEq, Repr

/-- Whether a field is changed: an empty value, or one that differs in case only, changes nothing.
-/
def isDifferentAndNotEmpty (current new : String) : Bool := new ≠ "" && !equalFold current new

/-- The account with the changes of its data, and with the old password. -/
def UserChanges.apply (changes : UserChanges) (user : User) : User :=
  { user with
    name := if isDifferentAndNotEmpty user.name changes.name then changes.name else user.name
    username :=
      if isDifferentAndNotEmpty user.username changes.username then toLower changes.username
      else user.username
    email :=
      if isDifferentAndNotEmpty user.email changes.email then toLower changes.email else user.email
    recoveryEmail :=
      if isDifferentAndNotEmpty user.recoveryEmail changes.recoveryEmail then
        toLower changes.recoveryEmail
      else user.recoveryEmail }

/-- `applyUserChanges`. A new password asks for the old one. -/
def applyUserChanges (user : User) (changes : UserChanges) : Service (Except AccountError User) := do
  if changes.password = "" then return .ok (changes.apply user)
  else
    match ← make (.comparePassword user changes.currentPassword) with
    | false => return .error .userPasswordNotMatch
    | true =>
      match ← make (.hashUserPassword changes.password) with
      | .error error => return .error (.passwordHash error)
      | .ok hash => return .ok { changes.apply user with passwordHash := hash }

/-- The error of a write that failed. -/
def updateError : StoreError → AccountError
  | .duplicate (some field) => if field = "" then .userUnhandledDuplicate else .userDuplicated [field]
  | .duplicate none => .userUnhandledDuplicate
  | error => .userUpdate error

/-- `UpdateUser`. -/
def updateUser (changes : UserChanges) : Service (Except AccountError Unit) := do
  match ← make (.userResolve .id changes.userID) with
  | .error _ => return .error (.userNotFound changes.userID)
  | .ok user =>
    if changes.recoveryEmail ≠ "" ∧ (equalFold changes.recoveryEmail user.email ∨
        equalFold changes.recoveryEmail changes.email) then
      return .error (.invalidFields [("email", "must be different from the recovery email"),
        ("recovery_email", "must be different from the email")])
    else
      match ← applyUserChanges user changes with
      | .error error => return .error error
      | .ok updated =>
        match ← make (.userUpdate updated) with
        | .error error => return .error (updateError error)
        | .ok _ => return .ok ()

/-- `UpdatePasswordUser`. -/
def updatePasswordUser (id currentPassword newPassword : String) :
    Service (Except AccountError Unit) := do
  match ← make (.userResolve .id id) with
  | .error _ => return .error (.userNotFound id)
  | .ok user =>
    match ← make (.comparePassword user currentPassword) with
    | false => return .error .userPasswordNotMatch
    | true =>
      match ← make (.hashUserPassword newPassword) with
      | .error error => return .error (.userPasswordInvalid error)
      | .ok hash =>
        match ← make (.userUpdate { user with passwordHash := hash }) with
        | .error error => return .error (.userUpdate error)
        | .ok _ => return .ok ()

/-! ## The store and the cache -/

/-- What a call finds around it: a fault, the time, what the libraries answer, and the namespace
that a user prefers. -/
structure Moment where
  fault : Option StoreError
  now : Nat
  uuid : String
  hashed : Except StoreError String
  token : Except StoreError String
  preferred : Option Namespace

/-- The accounts, and the part of the cache that holds numbers. -/
structure Console where
  localEnabled : Bool
  users : Table User String User.id
  numbers : Cache Nat
  texts : Cache String

namespace Console

variable (console : Console)

/-- The other account that has the email or the username of one. The constraint on emails is checked
first. -/
def collision (user : User) : Option String :=
  if console.users.rows.any fun row => row.id ≠ user.id && row.email = user.email then some "email"
  else if console.users.rows.any fun row => row.id ≠ user.id && row.username = user.username then
    some "username"
  else none

/-- `UserUpdate`: the whole row is written, except for the preferred namespace. -/
def userUpdate (user : User) : Except StoreError Unit × Console :=
  match console.users.find user.id with
  | none => (.error .noDocuments, console)
  | some row =>
    match console.collision user with
    | some field => (.error (.duplicate (some field)), console)
    | none =>
      (.ok (), { console with
        users := console.users.put { user with preferredNamespace := row.preferredNamespace } })

/-- The effect of a call when nothing around it fails. -/
def perform (server : Server) (around : Moment) : (call : Call) → call.Reply × Console
  | .systemGet => (.ok console.localEnabled, console)
  | .userResolve resolver value =>
    match console.users.rows.find? fun user => resolver.column user = value with
    | none => (.error .noDocuments, console)
    | some user => (.ok user, console)
  | .comparePassword user plain => (server.compareWith plain user.passwordHash, console)
  | .hashUserPassword _ => (around.hashed, console)
  | .cacheGet key => (.ok (console.numbers.get key around.now), console)
  | .cacheSet key value ttl =>
    (.ok (), { console with numbers := console.numbers.set key value (around.now + ttl) })
  | .cacheDelete key => (.ok (), { console with numbers := console.numbers.delete key })
  | .cacheSetText key value ttl =>
    (.ok (), { console with texts := console.texts.set key value (around.now + ttl) })
  | .clockNow => (around.now, console)
  | .uuidGenerate => (around.uuid, console)
  | .namespaceGetPreferred _ =>
    match around.preferred with
    | none => (.error .noDocuments, console)
    | some stored => (.ok stored, console)
  | .encodeUserClaims _ => (around.token, console)
  | .userUpdate user => console.userUpdate user
  | .userUpdatePreferredNamespace userID tenantID =>
    match console.users.find userID with
    | none => (.error .noDocuments, console)
    | some row =>
      (.ok (), { console with users := console.users.put { row with preferredNamespace := tenantID } })

end Console

/-- The answer of a call that fails. A comparison, the clock and a new identifier do not fail. -/
def failure (error : StoreError) (server : Server) (around : Moment) : (call : Call) → call.Reply
  | .comparePassword user plain => server.compareWith plain user.passwordHash
  | .clockNow => around.now
  | .uuidGenerate => around.uuid
  | .systemGet => .error error
  | .userResolve _ _ => .error error
  | .hashUserPassword _ => .error error
  | .cacheGet _ => .error error
  | .cacheSet _ _ _ => .error error
  | .cacheDelete _ => .error error
  | .cacheSetText _ _ _ => .error error
  | .namespaceGetPreferred _ => .error error
  | .encodeUserClaims _ => .error error
  | .userUpdate _ => .error error
  | .userUpdatePreferredNamespace _ _ => .error error

/-- The meaning of a call. One that fails changes nothing. -/
def meaning (server : Server) : Meaning Call Call.Reply Moment Console :=
  fun call around console =>
    match around.fault with
    | some error => (failure error server around call, console)
    | none => console.perform server around call

end ShellHub.Accounts
