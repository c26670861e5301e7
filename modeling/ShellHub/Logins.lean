import ShellHub.AccessPolicies

/-!
# Authenticating an SSH connection

In identity access mode the key that a client presents is its credential. The client may first ask
whether a key would do, and then prove that it holds one. Both look the key up; an enrolled key
leads to the authentication by identity, an unknown one to the approval by a person. Once the key is
proven the login is evaluated, the session is registered, the gateway connects to the agent, a
single-use key is burned, and the session is marked as authenticated.

The session of a connection is kept between attempts, with the state it has reached. An attempt
takes up where an earlier one has stopped: a registered session is not evaluated again.

The gateway's calls to the services and to the agent are single calls here.
-/

namespace ShellHub.Logins

open Programs
open AccessPolicies (Decision)

/-! ## Identities and approvals -/

/-- `SSHIdentity`: a public key that is bound to an account within a namespace. -/
structure SSHIdentity where
  tenantID : String
  principalID : String
  fingerprint : String
  lastReauthAt : Option Nat
  expiresAt : Option Nat
  singleUse : Bool
  consumedAt : Option Nat
  deriving DecidableEq, Repr

/-- `Active`. -/
def SSHIdentity.active (identity : SSHIdentity) (now : Nat) : Bool :=
  identity.consumedAt.isNone && identity.expiresAt.all fun expiry => now < expiry

/-- `SSHApprovalKind`: an approval binds the key that was presented, or has the owner of a key prove
a factor. -/
inductive SSHApprovalKind where
  | identity
  | reauth
  deriving DecidableEq, Repr

/-- `SSHApprovalState`. -/
inductive SSHApprovalState where
  | pending
  | confirmed
  | rejected
  deriving DecidableEq, Repr

/-- `SSHApprovalStatus`. -/
structure SSHApprovalStatus where
  state : SSHApprovalState
  userID : String
  deriving DecidableEq, Repr

/-- `requests.SSHApprovalCreate`. -/
structure SSHApprovalCreate where
  sessionUID : String
  sshid : String
  tenantID : String
  deviceUID : String
  deviceName : String
  username : String
  ipAddress : String
  kind : SSHApprovalKind
  fingerprint : String
  data : String
  reauthPeriod : Option Int
  deriving DecidableEq, Repr

/-! ## Sessions -/

/-- A public key: its fingerprint, and the key in the form in which it is enrolled. -/
structure PublicKey where
  fingerprint : String
  data : String
  deriving DecidableEq, Repr

/-- `State`, in the order of the states. -/
inductive State where
  | nil
  | created
  | dialed
  | evaluated
  | registered
  | finished
  deriving DecidableEq, Repr

/-- `Session`, as far as authentication is concerned. `agentConn` says whether there is a connection
to the agent. -/
structure Session where
  uid : String
  sshid : String
  tenantID : String
  deviceUID : String
  deviceName : String
  username : String
  ipAddress : String
  web : Bool
  state : State
  userID : String
  approvalCode : String
  fingerprint : String
  keyData : String
  lastReauthAt : Option Nat
  singleUse : Bool
  agentConn : Bool
  deriving DecidableEq, Repr

/-- The messages that are sent to the client during the handshake. -/
inductive Banner where
  | addKey (code fingerprint : String)
  | reauth (code : String)
  | webReauthRequired (code : String)
  | webAccessDenied
  deriving DecidableEq, Repr

/-- `requests.SessionCreate`. -/
structure SessionCreate where
  uid : String
  deviceUID : String
  username : String
  userID : String
  ipAddress : String
  web : Bool
  deriving DecidableEq, Repr

/-! ## Calls -/

/-- That another service or the agent has failed. -/
inductive Failure where
  | failed
  deriving DecidableEq, Repr

/-- The calls of the gateway. `pause` is the choice between the end of the wait, if true, and the
next ask. -/
inductive Call where
  | resolveSSHIdentity (tenantID fingerprint : String)
  | clockNow
  | authorize (tenantID userID deviceUID login sourceIP : String)
  | holdApprovalSlot (ipAddress : String)
  | releaseApprovalSlot (ipAddress : String)
  | createSSHApproval (req : SSHApprovalCreate)
  | sendBanner (banner : Banner)
  | getSSHApprovalStatus (code : String)
  | pause
  | createSession (req : SessionCreate)
  | createPrivateKey
  | dial (tenantID deviceUID uid : String)
  | setDeadline
  | newClientConn (username : String)
  | consumeSSHIdentity (tenantID fingerprint : String)
  | updateSession (uid : String)
  deriving DecidableEq

/-- What each call answers. -/
@[reducible]
def Call.Reply : Call → Type
  | .resolveSSHIdentity _ _ => Except Failure (Option SSHIdentity)
  | .clockNow => Nat
  | .authorize _ _ _ _ _ => Except Failure (Option Decision)
  | .holdApprovalSlot _ | .pause => Bool
  | .releaseApprovalSlot _ | .sendBanner _ => Unit
  | .createSSHApproval _ => Except Failure String
  | .getSSHApprovalStatus _ => Except Failure SSHApprovalStatus
  | .consumeSSHIdentity _ _ => Except Failure Bool
  | _ => Except Failure Unit

/-- A program of the gateway. -/
abbrev Service := Program Call Call.Reply

/-- The program that makes one call. -/
def make (request : Call) : Service request.Reply := Program.perform request

/-- The settings of a gateway: how often a waiting login can ask, and whether there is a deadline
for the handshake with the agent. -/
structure Gateway where
  approvalRounds : Nat
  deadline : Bool

/-- The errors of an authentication. -/
inductive AuthError where
  | accessDenied
  | approvalRejected
  | approvalTimeout
  | approvalBusy
  | authenticationInformation
  | invalidState
  | failure (error : Failure)
  deriving DecidableEq, Repr

/-- A step of an authentication: the session afterwards, and an error. -/
abbrev Step := Service (Session × Except AuthError Unit)

/-! ## Approvals -/

/-- One ask of `awaitApproval`. Any other answer than a decision is asked for again. -/
def askOnce (code : String) (again : Service (Except AuthError String)) :
    Service (Except AuthError String) := do
  match ← make (.getSSHApprovalStatus code) with
  | .ok ⟨.confirmed, userID⟩ => return .ok userID
  | .ok ⟨.rejected, _⟩ => return .error .approvalRejected
  | _ => again

/-- `awaitApproval`, with the number of further asks. -/
def awaitApproval (code : String) : Nat → Service (Except AuthError String)
  | 0 => askOnce code (return .error .approvalTimeout)
  | rounds + 1 => askOnce code do
    match ← make .pause with
    | true => return .error .approvalTimeout
    | false => awaitApproval code rounds

namespace Session

variable (session : Session)

/-- The request that `openApproval` makes. -/
def approvalRequest (kind : SSHApprovalKind) (reauthPeriod : Option Int) : SSHApprovalCreate where
  sessionUID := session.uid
  sshid := session.sshid
  tenantID := session.tenantID
  deviceUID := session.deviceUID
  deviceName := session.deviceName
  username := session.username
  ipAddress := session.ipAddress
  kind := kind
  fingerprint := session.fingerprint
  data := session.keyData
  reauthPeriod := reauthPeriod

/-- `openApproval`: the code of a new approval. -/
def openApproval (kind : SSHApprovalKind) (reauthPeriod : Option Int) :
    Service (Except AuthError String) := do
  match ← make (.createSSHApproval (session.approvalRequest kind reauthPeriod)) with
  | .error error => return .error (.failure error)
  | .ok code => return .ok code

/-- `authorize`. -/
def authorize : Service (Except AuthError Decision) := do
  match ← make (.authorize session.tenantID session.userID session.deviceUID session.username
      session.ipAddress) with
  | .ok (some decision) =>
    if decision.allowed then return .ok decision else return .error .accessDenied
  | _ => return .error .accessDenied

/-- A step that holds one of the places of waiting logins. -/
def holdingSlot (body : Step) : Step := do
  match ← make (.holdApprovalSlot session.ipAddress) with
  | false => return (session, .error .approvalBusy)
  | true =>
    let result ← body
    let _ ← make (.releaseApprovalSlot session.ipAddress)
    return result

end Session

/-! ## The two ways to authenticate -/

/-- The part of `approvalAuth.Evaluate` that holds a place: the key is approved by a person, whose
account the policies then have to allow. -/
def approveKey (gateway : Gateway) (session : Session) : Step := do
  match ← session.openApproval .identity none with
  | .error error => return (session, .error error)
  | .ok code =>
    let session := { session with approvalCode := code }
    let _ ← make (.sendBanner (.addKey code session.fingerprint))
    match ← awaitApproval code gateway.approvalRounds with
    | .error error => return (session, .error error)
    | .ok approver =>
      let session := { session with userID := approver }
      match ← session.authorize with
      | .error error => return (session, .error error)
      | .ok _ => return (session, .ok ())

/-- `needsReauth`. -/
def needsReauth (lastReauthAt : Option Nat) (period : Option Int) : Service Bool :=
  match period, lastReauthAt with
  | none, _ | some 0, _ | _, none => return true
  | some seconds, some at_ => do
    let now ← make .clockNow
    return decide (seconds ≤ (now : Int) - at_)

/-- The part of `identityAuth.Evaluate` that holds a place: the owner of the key proves a factor. -/
def reauthenticate (gateway : Gateway) (session : Session) (reauthPeriod : Option Int) : Step := do
  match ← session.openApproval .reauth reauthPeriod with
  | .error error => return (session, .error error)
  | .ok code =>
    let session := { session with approvalCode := code }
    let _ ← make (.sendBanner (if session.web then .webReauthRequired code else .reauth code))
    match ← awaitApproval code gateway.approvalRounds with
    | .error error => return (session, .error error)
    | .ok _ => return (session, .ok ())

/-- The authentications of identity access mode. -/
inductive Auth where
  | approval
  | identity
  deriving DecidableEq, Repr

/-- `Evaluate`. -/
def Auth.evaluate (gateway : Gateway) (session : Session) : Auth → Step
  | .approval => session.holdingSlot (approveKey gateway session)
  | .identity => do
    match ← session.authorize with
    | .error error =>
      if session.web then
        let _ ← make (.sendBanner .webAccessDenied)
        return (session, .error error)
      else return (session, .error error)
    | .ok decision =>
      if !decision.requireReauth then return (session, .ok ())
      else
        match ← needsReauth session.lastReauthAt decision.reauthPeriod with
        | false => return (session, .ok ())
        | true => session.holdingSlot (reauthenticate gateway session decision.reauthPeriod)

/-! ## Attempts -/

/-- What a call of another service or of the agent means for the authentication. -/
def outcome : Except Failure Unit → Except AuthError Unit
  | .error error => .error (.failure error)
  | .ok _ => .ok ()

namespace Session

variable (session : Session)

/-- `register`. -/
def register : Service (Except AuthError Unit) := do
  return outcome (← make (.createSession ⟨session.uid, session.deviceUID, session.username,
    session.userID, session.ipAddress, session.web⟩))

/-- The deadline of the handshake, if there is one. -/
def setDeadline (gateway : Gateway) : Service (Except AuthError Unit) := do
  if gateway.deadline then return outcome (← make .setDeadline) else return .ok ()

/-- The handshake with the agent. A connection that failed is not used again. -/
def handshake (gateway : Gateway) : Step := do
  match ← setDeadline gateway with
  | .error error => return (session, .error error)
  | .ok _ =>
    match ← make (.newClientConn session.username) with
    | .error error => return ({ session with agentConn := false }, .error (.failure error))
    | .ok _ => return (session, ← setDeadline gateway)

/-- `connect`, with a key that is minted for the session. -/
def connect (gateway : Gateway) : Step := do
  match ← make .createPrivateKey with
  | .error _ => return (session, .error .authenticationInformation)
  | .ok _ =>
    if session.agentConn then session.handshake gateway
    else
      match ← make (.dial session.tenantID session.deviceUID session.uid) with
      | .error error => return (session, .error (.failure error))
      | .ok _ => handshake { session with agentConn := true } gateway

/-- The burning of a single-use key. -/
def burn : Service (Except AuthError Unit) := do
  if session.singleUse then
    match ← make (.consumeSSHIdentity session.tenantID session.fingerprint) with
    | .error error => return .error (.failure error)
    | .ok false => return .error .accessDenied
    | .ok true => return .ok ()
  else return .ok ()

/-- `authenticate`, which marks the session. -/
def authenticate : Service (Except AuthError Unit) := do
  return outcome (← make (.updateSession session.uid))

/-- The part of `Auth` for a registered session. -/
def finish (gateway : Gateway) : Step := do
  match ← session.connect gateway with
  | (session, .error error) => return (session, .error error)
  | (session, .ok _) =>
    match ← session.burn with
    | .error error => return (session, .error error)
    | .ok _ =>
      match ← session.authenticate with
      | .error error => return (session, .error error)
      | .ok _ => return ({ session with state := .finished }, .ok ())

/-- `Auth`. -/
def auth (gateway : Gateway) (auth : Auth) : Step :=
  match session.state with
  | .evaluated => do
    match ← auth.evaluate gateway session with
    | (session, .error error) => return (session, .error error)
    | (session, .ok _) =>
      match ← session.register with
      | .error error => return (session, .error error)
      | .ok _ => finish { session with state := .registered } gateway
  | .registered => session.finish gateway
  | _ => return (session, .error .invalidState)

/-- What an active identity leaves in the session. -/
def adopt (identity : SSHIdentity) : Session :=
  { session with
    userID := identity.principalID
    lastReauthAt := identity.lastReauthAt
    singleUse := identity.singleUse }

/-- `ResolveKeyAuth`. A key that is not enrolled leaves the account of the session, its time and its
flag as they are. -/
def resolveKeyAuth (key : PublicKey) : Service (Session × Except AuthError Auth) := do
  let session := { session with fingerprint := key.fingerprint, keyData := key.data }
  match ← make (.resolveSSHIdentity session.tenantID session.fingerprint) with
  | .error error => return (session, .error (.failure error))
  | .ok (some identity) =>
    let now ← make .clockNow
    if !identity.active now then return (session, .error .accessDenied)
    else return (session.adopt identity, .ok .identity)
  | .ok none =>
    if session.web then return (session, .error .accessDenied)
    else return (session, .ok .approval)

/-- `obtain`: the session has got far enough to authenticate. -/
def ready : Bool :=
  session.state = .evaluated || session.state = .registered || session.state = .finished

/-- `PublicKeyOffer`. Both authentications accept what was found. -/
def publicKeyOffer (key : PublicKey) : Service (Session × Bool) := do
  if !session.ready then return (session, false)
  else
    match ← session.resolveKeyAuth key with
    | (session, .error _) => return (session, false)
    | (session, .ok _) => return (session, true)

/-- `PublicKeyVerified`. -/
def publicKeyVerified (gateway : Gateway) (key : PublicKey) : Service (Session × Bool) := do
  if !session.ready then return (session, false)
  else
    match ← session.resolveKeyAuth key with
    | (session, .error _) => return (session, false)
    | (session, .ok auth) =>
      match ← session.auth gateway auth with
      | (session, .error _) => return (session, false)
      | (session, .ok _) => return (session, true)

end Session

end ShellHub.Logins
