import ShellHub.Logins
import ShellHub.Sequences

/-!
# What an attempt has to show

The services and the agent answer as they like. The exchanges of an attempt record what was asked
and what was answered, the newest first.

A connection finishes only with a key that was evaluated in the very attempt, as long as no key is
proven on a session that an earlier attempt has registered: such a session is not evaluated again,
whatever key is presented then.
-/

namespace ShellHub.Logins

open AccessPolicies (Decision)
open Programs Sequences

/-! ## Exchanges -/

/-- A call with its answer. -/
abbrev Exchange := (request : Call) × request.Reply

/-- An answer for every call. -/
abbrev Answers := (request : Call) → request.Reply

/-- Each call is answered and recorded. -/
def recorder : Meaning Call Call.Reply Answers (List Exchange) :=
  fun request answers log => (answers request, ⟨request, answers request⟩ :: log)

/-- Any answer is possible, and it is recorded. -/
def recording : Contract Call Call.Reply (List Exchange) where
  allowed := fun _ _ => True
  yields := fun log request reply next => next = ⟨request, reply⟩ :: log

/-- Recording whatever was answered realizes the contract of recordings. -/
theorem recorder_recording : Realizes recorder recording Eq := by
  rintro log _ request answers rfl _
  exact ⟨_, rfl, rfl⟩

section Recording

variable {α : Type} {log : List Exchange}

/-- Whatever a program asks, it may be answered. -/
theorem recording_any (program : Service α) (log : List Exchange) :
    program.Meets recording log fun _ _ => True := by
  induction program generalizing log with
  | done result => trivial
  | call request resume ih => exact ⟨trivial, fun reply next _ => ih reply next⟩

/-- What holds after a program holds together with all that was recorded before, since exchanges are
never forgotten. -/
theorem recording_keeps {program : Service α} {post : α → List Exchange → Prop}
    (meets : program.Meets recording log post) :
    program.Meets recording log fun result next => post result next ∧ log ⊆ next := by
  refine meets.keeps (List.Subset.refl log) ?_
  rintro before request reply _ grown rfl
  exact List.subset_cons_of_subset _ grown

end Recording

/-! ## Evidence -/

/-- Where a login goes and where it comes from. It is the same in all attempts of a connection. -/
structure Destination where
  tenantID : String
  deviceUID : String
  login : String
  sourceIP : String
  deriving DecidableEq, Repr

/-- The destination of a session. -/
def Session.destination (session : Session) : Destination :=
  ⟨session.tenantID, session.deviceUID, session.username, session.ipAddress⟩

/-- The approval of a kind that was opened for a key was confirmed by an account. -/
def Confirmed (goal : Destination) (key : PublicKey) (kind : SSHApprovalKind) (userID : String)
    (log : List Exchange) : Prop :=
  ∃ (req : SSHApprovalCreate) (code : String),
    req.kind = kind ∧ req.tenantID = goal.tenantID ∧ req.fingerprint = key.fingerprint ∧
    (⟨.createSSHApproval req, .ok code⟩ : Exchange) ∈ log ∧
    (⟨.getSSHApprovalStatus code, .ok ⟨.confirmed, userID⟩⟩ : Exchange) ∈ log

/-- The policies allowed an account on the device and login. -/
def Allowed (goal : Destination) (userID : String) (decision : Decision) (log : List Exchange) : Prop :=
  decision.allowed = true ∧
    (⟨.authorize goal.tenantID userID goal.deviceUID goal.login goal.sourceIP,
      .ok (some decision)⟩ : Exchange) ∈ log

/-- The last re-authentication lies within the period. -/
def Fresh (lastReauthAt : Option Nat) (period : Option Int) (log : List Exchange) : Prop :=
  ∃ (seconds : Int) (at_ now : Nat), period = some seconds ∧ seconds ≠ 0 ∧ lastReauthAt = some at_ ∧
    (⟨.clockNow, now⟩ : Exchange) ∈ log ∧ (now : Int) - at_ < seconds

/-- A key was found to be an active identity. -/
def Resolved (goal : Destination) (key : PublicKey) (identity : SSHIdentity) (log : List Exchange) :
    Prop :=
  (⟨.resolveSSHIdentity goal.tenantID key.fingerprint, .ok (some identity)⟩ : Exchange) ∈ log ∧
    ∃ now, (⟨.clockNow, now⟩ : Exchange) ∈ log ∧ identity.active now = true

/-- A re-authentication that a decision demands has taken place. -/
def Satisfied (goal : Destination) (key : PublicKey) (lastReauthAt : Option Nat) (decision : Decision)
    (log : List Exchange) : Prop :=
  decision.requireReauth = true → Fresh lastReauthAt decision.reauthPeriod log ∨
    ∃ userID, Confirmed goal key .reauth userID log

/-- The key is an active identity whose account the policies allowed, re-authenticated if that was
demanded. -/
def ByIdentity (goal : Destination) (key : PublicKey) (log : List Exchange) : Prop :=
  ∃ identity decision, Resolved goal key identity log ∧
    Allowed goal identity.principalID decision log ∧
    Satisfied goal key identity.lastReauthAt decision log

/-- The key was approved by an account that the policies allowed. -/
def ByApproval (goal : Destination) (key : PublicKey) (log : List Exchange) : Prop :=
  ∃ userID decision, Confirmed goal key .identity userID log ∧ Allowed goal userID decision log

/-- The key was evaluated. -/
def Evaluated (goal : Destination) (key : PublicKey) (log : List Exchange) : Prop :=
  ByIdentity goal key log ∨ ByApproval goal key log

section Growing

variable {goal : Destination} {key : PublicKey} {log next : List Exchange} (grown : log ⊆ next)
include grown

/-- A confirmed approval stays in a log that grows. -/
theorem Confirmed.grow {kind : SSHApprovalKind} {userID : String}
    (confirmed : Confirmed goal key kind userID log) : Confirmed goal key kind userID next := by
  obtain ⟨req, code, isKind, tenant, fingerprint, opened, answered⟩ := confirmed
  exact ⟨req, code, isKind, tenant, fingerprint, grown opened, grown answered⟩

/-- What was allowed stays in a log that grows. -/
theorem Allowed.grow {userID : String} {decision : Decision}
    (allowed : Allowed goal userID decision log) : Allowed goal userID decision next :=
  ⟨allowed.1, grown allowed.2⟩

/-- The time at which a re-authentication was fresh stays in a log that grows. -/
theorem Fresh.grow {lastReauthAt : Option Nat} {period : Option Int}
    (fresh : Fresh lastReauthAt period log) : Fresh lastReauthAt period next := by
  obtain ⟨seconds, at_, now, given, nonzero, last, read, within⟩ := fresh
  exact ⟨seconds, at_, now, given, nonzero, last, grown read, within⟩

/-- A resolved identity stays in a log that grows. -/
theorem Resolved.grow {identity : SSHIdentity} (resolved : Resolved goal key identity log) :
    Resolved goal key identity next := by
  obtain ⟨found, now, read, active⟩ := resolved
  exact ⟨grown found, now, grown read, active⟩

/-- A demand that was satisfied stays so in a log that grows. -/
theorem Satisfied.grow {lastReauthAt : Option Nat} {decision : Decision}
    (satisfied : Satisfied goal key lastReauthAt decision log) :
    Satisfied goal key lastReauthAt decision next := by
  intro required
  rcases satisfied required with fresh | ⟨userID, confirmed⟩
  · exact .inl (fresh.grow grown)
  · exact .inr ⟨userID, confirmed.grow grown⟩

/-- An evaluation stays in a log that grows, with all its evidence. -/
theorem Evaluated.grow (evaluated : Evaluated goal key log) : Evaluated goal key next := by
  rcases evaluated with ⟨identity, decision, resolved, allowed, satisfied⟩ |
    ⟨userID, decision, confirmed, allowed⟩
  · exact .inl ⟨identity, decision, resolved.grow grown, allowed.grow grown, satisfied.grow grown⟩
  · exact .inr ⟨userID, decision, confirmed.grow grown, allowed.grow grown⟩

end Growing

/-! ## One attempt -/

section Attempts

variable {log : List Exchange} (gateway : Gateway) {session : Session} {key : PublicKey}

/-- An account that is returned has confirmed the approval with the code. -/
abbrev Confirming (code : String) (result : Except AuthError String) (log : List Exchange) : Prop :=
  ∀ userID, result = .ok userID →
    (⟨.getSSHApprovalStatus code, .ok ⟨.confirmed, userID⟩⟩ : Exchange) ∈ log

/-- Waiting for an approval ends with an account only after the approval was found confirmed by it.
By induction over the rounds: each of them asks once and goes on. -/
theorem awaitApproval_confirmed (code : String) (rounds : Nat) :
    (awaitApproval code rounds).Meets recording log (Confirming code) := by
  have asked : ∀ (log : List Exchange) (again : Service (Except AuthError String)),
      (∀ log, again.Meets recording log (Confirming code)) →
        (askOnce code again).Meets recording log (Confirming code) := by
    intro log again goesOn
    refine .perform trivial ?_
    rintro (error | ⟨_ | _ | _, userID⟩) _ rfl
    · exact goesOn _
    · exact goesOn _
    · rintro _ ⟨⟩
      exact List.mem_cons_self
    · rintro _ ⟨⟩
  induction rounds generalizing log with
  | zero => exact asked log _ fun log => by rintro _ ⟨⟩
  | succ rounds ih =>
    refine asked log _ fun log => ?_
    refine .perform trivial ?_
    rintro (_ | _) _ rfl
    · exact ih
    · rintro _ ⟨⟩

/-- The code of an opened approval is what the server answered to the session's request. -/
theorem openApproval_created (session : Session) (kind : SSHApprovalKind) (period : Option Int) :
    (session.openApproval kind period).Meets recording log fun result next => ∀ code,
      result = .ok code →
        (⟨.createSSHApproval (session.approvalRequest kind period), .ok code⟩ : Exchange) ∈ next := by
  refine .perform trivial ?_
  rintro (error | code) _ rfl
  · rintro _ ⟨⟩
  · rintro _ ⟨⟩
    exact List.mem_cons_self

/-- A session is authorized only with a decision that allows its account. -/
theorem authorize_allowed (session : Session) :
    session.authorize.Meets recording log fun result next => ∀ decision, result = .ok decision →
      Allowed session.destination session.userID decision next := by
  refine .perform trivial ?_
  rintro (error | _ | decision) _ rfl
  · rintro _ ⟨⟩
  · rintro _ ⟨⟩
  · dsimp only
    split
    · rename_i allowed
      rintro _ ⟨⟩
      exact ⟨allowed, List.mem_cons_self⟩
    · rintro _ ⟨⟩

/-- No re-authentication is needed only if the last one lies within the period. -/
theorem needsReauth_fresh (lastReauthAt : Option Nat) (period : Option Int) :
    (needsReauth lastReauthAt period).Meets recording log fun result next =>
      result = false → Fresh lastReauthAt period next := by
  unfold needsReauth
  split
  · rintro ⟨⟩
  · rintro ⟨⟩
  · rintro ⟨⟩
  · rename_i seconds at_ nonzero
    refine .perform trivial ?_
    rintro now _ rfl within
    refine ⟨seconds, at_, now, rfl, nonzero, rfl, List.mem_cons_self, ?_⟩
    simpa using within

/-- What is known after an evaluation: the session goes where it went and is in the state in which
it was, and if there is no error the key was evaluated. -/
structure Passes (goal : Destination) (state : State) (key : PublicKey)
    (result : Session × Except AuthError Unit) (log : List Exchange) : Prop where
  destination : result.1.destination = goal
  state : result.1.state = state
  evaluated : result.2 = .ok () → Evaluated goal key log

/-- What is known after an evaluation is known with a log that grows. -/
theorem Passes.grow {goal : Destination} {state : State} {result : Session × Except AuthError Unit}
    {next : List Exchange} (grown : log ⊆ next) (passes : Passes goal state key result log) : Passes goal state key result next :=
  ⟨passes.destination, passes.state, fun passed => (passes.evaluated passed).grow grown⟩

/-- An error proves nothing. -/
theorem Passes.refused {goal : Destination} {state : State} {error : AuthError}
    (destination : session.destination = goal) (same : session.state = state) :
    Passes goal state key (session, .error error) log :=
  ⟨destination, same, by rintro ⟨⟩⟩

/-- Holding a slot around an evaluation changes nothing of what it shows. -/
theorem holdingSlot_passes {body : Step}
    (meets : ∀ next, log ⊆ next → body.Meets recording next (Passes session.destination session.state key)) :
    (session.holdingSlot body).Meets recording log
      (Passes session.destination session.state key) := by
  refine .perform trivial ?_
  rintro (_ | _) _ rfl
  · exact Passes.refused rfl rfl
  · refine (meets _ (List.subset_cons_self _ _)).bind ?_
    intro result next passes
    refine .perform trivial ?_
    rintro _ _ rfl
    exact passes.grow (List.subset_cons_self _ _)

/-- A key without an identity passes once an account has confirmed it that the policies allow. -/
theorem approveKey_passes (presented : session.fingerprint = key.fingerprint) :
    (approveKey gateway session).Meets recording log
      (Passes session.destination session.state key) := by
  refine (openApproval_created session .identity none).bind ?_
  rintro (error | code) opened created
  · exact Passes.refused rfl rfl
  refine .perform trivial ?_
  rintro _ _ rfl
  refine (recording_keeps (awaitApproval_confirmed code gateway.approvalRounds)).bind ?_
  rintro (error | approver) awaited ⟨confirmed, grown⟩
  · exact Passes.refused rfl rfl
  refine (recording_keeps (authorize_allowed _)).bind ?_
  rintro (error | decision) decided ⟨allowed, further⟩
  · exact Passes.refused rfl rfl
  · refine ⟨rfl, rfl, fun _ => .inr ⟨approver, decision, ?_, allowed decision rfl⟩⟩
    exact ⟨session.approvalRequest .identity none, code, rfl, rfl, presented,
      further (grown (List.mem_cons_of_mem _ (created code rfl))), further (confirmed approver rfl)⟩

/-- A re-authentication succeeds once its approval was confirmed, and leaves the session as it was. -/
theorem reauthenticate_confirmed (presented : session.fingerprint = key.fingerprint)
    (period : Option Int) :
    (reauthenticate gateway session period).Meets recording log fun result next =>
      result.1.destination = session.destination ∧ result.1.state = session.state ∧
        (result.2 = .ok () → ∃ userID, Confirmed session.destination key .reauth userID next) := by
  refine (openApproval_created session .reauth period).bind ?_
  rintro (error | code) opened created
  · exact ⟨rfl, rfl, by rintro ⟨⟩⟩
  refine .perform trivial ?_
  rintro _ _ rfl
  refine (recording_keeps (awaitApproval_confirmed code gateway.approvalRounds)).bind ?_
  rintro (error | userID) awaited ⟨confirmed, grown⟩
  · exact ⟨rfl, rfl, by rintro ⟨⟩⟩
  · refine ⟨rfl, rfl, fun _ => ⟨userID, ?_⟩⟩
    exact ⟨session.approvalRequest .reauth period, code, rfl, rfl, presented,
      grown (List.mem_cons_of_mem _ (created code rfl)), confirmed userID rfl⟩

/-- What the lookup of a key leaves for its evaluation. -/
def Looked (session : Session) (key : PublicKey) (log : List Exchange) : Auth → Prop
  | .approval => session.fingerprint = key.fingerprint
  | .identity => session.fingerprint = key.fingerprint ∧ ∃ identity,
      Resolved session.destination key identity log ∧ session.userID = identity.principalID ∧
        session.lastReauthAt = identity.lastReauthAt

/-- Either way of evaluating a key that was looked up collects the evidence for it: an approval of the
key, or its identity, the decision on its account and the re-authentication that is demanded. -/
theorem evaluate_passes {auth : Auth} (looked : Looked session key log auth) :
    (auth.evaluate gateway session).Meets recording log
      (Passes session.destination session.state key) := by
  cases auth with
  | approval => exact holdingSlot_passes fun _ _ => approveKey_passes gateway looked
  | identity =>
    obtain ⟨presented, identity, resolved, account, last⟩ := looked
    refine (recording_keeps (authorize_allowed session)).bind ?_
    rintro (error | decision) decided ⟨allowed, grown⟩
    · dsimp only
      split
      · exact ⟨trivial, fun _ _ _ => Passes.refused rfl rfl⟩
      · exact Passes.refused rfl rfl
    have admitted : Allowed session.destination identity.principalID decision decided :=
      account ▸ allowed decision rfl
    have known := resolved.grow grown
    dsimp only
    split
    · rename_i free
      refine ⟨rfl, rfl, fun _ => .inl ⟨identity, decision, known, admitted, ?_⟩⟩
      intro required
      rw [required] at free
      cases free
    refine (recording_keeps (needsReauth_fresh _ _)).bind ?_
    rintro (_ | _) checked ⟨fresh, further⟩
    · refine ⟨rfl, rfl, fun _ => .inl ⟨identity, decision, known.grow further,
        admitted.grow further, fun _ => .inl ?_⟩⟩
      exact last ▸ fresh rfl
    · refine holdingSlot_passes fun held larger => ?_
      refine (recording_keeps (reauthenticate_confirmed gateway presented _)).mono ?_
      rintro result next ⟨⟨destination, state, confirmed⟩, last⟩
      refine ⟨destination, state, fun passed => .inl ⟨identity, decision, ?_, ?_, ?_⟩⟩
      · exact ((known.grow further).grow larger).grow last
      · exact ((admitted.grow further).grow larger).grow last
      · exact fun _ => .inr (confirmed passed)

/-- The handshake with the agent does not change where the session goes. -/
theorem handshake_destination (session : Session) :
    (session.handshake gateway).Meets recording log fun result _ =>
      result.1.destination = session.destination := by
  refine (recording_any (Session.setDeadline gateway) _).bind ?_
  rintro (error | _) next -
  · rfl
  refine .perform trivial ?_
  rintro (error | _) _ rfl
  · rfl
  · exact (recording_any _ _).bind fun _ _ _ => rfl

/-- Connecting to the agent does not change where the session goes. -/
theorem connect_destination (session : Session) :
    (session.connect gateway).Meets recording log fun result _ =>
      result.1.destination = session.destination := by
  refine .perform trivial ?_
  rintro (error | _) _ rfl
  · rfl
  dsimp only
  split
  · exact handshake_destination gateway session
  refine .perform trivial ?_
  rintro (error | _) _ rfl
  · rfl
  · exact handshake_destination gateway { session with agentConn := true }

/-- The end of an attempt does not change where the session goes. -/
theorem finish_destination (session : Session) :
    (session.finish gateway).Meets recording log fun result _ =>
      result.1.destination = session.destination := by
  refine (connect_destination gateway session).bind ?_
  rintro ⟨connected, error | _⟩ next same
  · exact same
  refine (recording_any connected.burn _).bind ?_
  rintro (error | _) next -
  · exact same
  refine (recording_any connected.authenticate _).bind ?_
  rintro (error | _) next -
  · exact same
  · exact same

/-- An attempt on a session that is not registered finishes it only with an evaluated key. -/
theorem auth_evaluated {auth : Auth} (unregistered : session.state ≠ .registered)
    (unfinished : session.state ≠ .finished) (looked : Looked session key log auth) :
    (session.auth gateway auth).Meets recording log fun result next =>
      result.1.destination = session.destination ∧
        (result.1.state = .finished → Evaluated session.destination key next) := by
  unfold Session.auth
  split
  · refine (evaluate_passes gateway looked).bind ?_
    rintro ⟨evaluated, error | _⟩ next passes
    · exact ⟨passes.destination, fun finished => absurd (passes.state ▸ finished) unfinished⟩
    refine (recording_keeps (recording_any evaluated.register _)).bind ?_
    rintro (error | _) registered ⟨-, grown⟩
    · exact ⟨passes.destination, fun finished => absurd (passes.state ▸ finished) unfinished⟩
    refine (recording_keeps (finish_destination gateway _)).mono ?_
    rintro result last ⟨same, further⟩
    exact ⟨same.trans passes.destination,
      fun _ => ((passes.evaluated rfl).grow grown).grow further⟩
  · rename_i registered
    exact absurd registered unregistered
  · exact ⟨rfl, fun finished => absurd finished unfinished⟩

/-- The lookup of a key. -/
theorem resolveKeyAuth_looked (session : Session) (key : PublicKey) :
    (session.resolveKeyAuth key).Meets recording log fun result next =>
      result.1.destination = session.destination ∧ result.1.state = session.state ∧
        ∀ auth, result.2 = .ok auth → Looked result.1 key next auth := by
  refine .perform trivial ?_
  rintro (error | _ | identity) _ rfl
  · exact ⟨rfl, rfl, by rintro _ ⟨⟩⟩
  · dsimp only
    split
    · exact ⟨rfl, rfl, by rintro _ ⟨⟩⟩
    · refine ⟨rfl, rfl, ?_⟩
      rintro _ ⟨⟩
      rfl
  · refine .perform trivial ?_
    rintro now _ rfl
    dsimp only
    split
    · exact ⟨rfl, rfl, by rintro _ ⟨⟩⟩
    · rename_i active
      refine ⟨rfl, rfl, ?_⟩
      rintro _ ⟨⟩
      refine ⟨rfl, identity, ⟨?_, now, List.mem_cons_self, by simpa using active⟩, rfl, rfl⟩
      exact List.mem_cons_of_mem _ List.mem_cons_self

/-- An offer leaves the destination and the state of the session. -/
theorem publicKeyOffer_keeps (session : Session) (key : PublicKey) :
    (session.publicKeyOffer key).Meets recording log fun result _ =>
      result.1.destination = session.destination ∧ result.1.state = session.state := by
  unfold Session.publicKeyOffer
  split
  · exact ⟨rfl, rfl⟩
  refine (resolveKeyAuth_looked session key).bind ?_
  rintro ⟨looked, error | auth⟩ next ⟨destination, state, -⟩ <;> exact ⟨destination, state⟩

/-- A proven key finishes a session that is not registered only if it was evaluated. -/
theorem publicKeyVerified_evaluated (key : PublicKey) (unregistered : session.state ≠ .registered)
    (unfinished : session.state ≠ .finished) :
    (session.publicKeyVerified gateway key).Meets recording log fun result next =>
      result.1.destination = session.destination ∧
        (result.1.state = .finished → Evaluated session.destination key next) := by
  unfold Session.publicKeyVerified
  split
  · exact ⟨rfl, fun finished => absurd finished unfinished⟩
  refine (resolveKeyAuth_looked session key).bind ?_
  rintro ⟨found, error | auth⟩ next ⟨destination, state, looked⟩
  · exact ⟨destination, fun finished => absurd (state ▸ finished) unfinished⟩
  have evaluates := auth_evaluated gateway (state ▸ unregistered) (state ▸ unfinished)
    (looked auth rfl)
  refine evaluates.bind ?_
  rintro ⟨last, error | _⟩ after ⟨same, evaluated⟩ <;>
    exact ⟨same.trans destination, fun finished => destination ▸ evaluated finished⟩

end Attempts

/-! ## Connections -/

/-- What a client does with a key. -/
inductive Presented where
  | offered (key : PublicKey)
  | proven (key : PublicKey)
  deriving DecidableEq, Repr

/-- The session of a connection, and the key and the exchanges of its last attempt. -/
structure Connection where
  session : Session
  last : Option (PublicKey × List Exchange)

/-- One step of the handshake, with the answers to its calls. It ends with the first success. -/
def Connection.next (gateway : Gateway) (connection : Connection)
    (event : Presented × (Nat → Answers)) : Connection :=
  if connection.session.state = .finished then connection
  else
    match event with
    | (.offered key, answers) =>
      { connection with
        session := (run recorder answers (connection.session.publicKeyOffer key) []).result.1 }
    | (.proven key, answers) =>
      let outcome := run recorder answers (connection.session.publicKeyVerified gateway key) []
      ⟨outcome.result.1, some (key, outcome.state)⟩

/-- A key is not proven on a session that an earlier attempt has registered. -/
def Unregistered (connection : Connection) (event : Presented × (Nat → Answers)) : Prop :=
  match event.1 with
  | .offered _ => True
  | .proven _ => connection.session.state ≠ .registered

instance (connection : Connection) (event : Presented × (Nat → Answers)) :
    Decidable (Unregistered connection event) := by
  unfold Unregistered
  split <;> infer_instance

/-- A finished connection has a key that was evaluated in its last attempt. -/
structure Authenticated (goal : Destination) (connection : Connection) : Prop where
  destination : connection.session.destination = goal
  evaluated : connection.session.state = .finished →
    ∃ key log, connection.last = some (key, log) ∧ Evaluated goal key log

/-- One step of the handshake: an offer finishes nothing, and a proof that finishes evaluates. -/
theorem Authenticated.next (gateway : Gateway) {goal : Destination} {connection : Connection}
    (authenticated : Authenticated goal connection) {event : Presented × (Nat → Answers)}
    (unregistered : Unregistered connection event) :
    Authenticated goal (connection.next gateway event) := by
  obtain ⟨rfl, evaluated⟩ := authenticated
  unfold Connection.next
  split
  · exact ⟨rfl, evaluated⟩
  rename_i unfinished
  split
  · rename_i key answers
    obtain ⟨⟨_, ⟨destination, state⟩, _⟩, _⟩ :=
      (publicKeyOffer_keeps connection.session key).run recorder_recording rfl answers
    exact ⟨destination, fun finished => absurd (state ▸ finished) unfinished⟩
  · rename_i key answers
    obtain ⟨⟨log, ⟨destination, shown⟩, rfl⟩, _⟩ :=
      (publicKeyVerified_evaluated gateway key unregistered unfinished).run recorder_recording rfl
        answers
    exact ⟨destination, fun finished => ⟨key, _, rfl, shown finished⟩⟩

/-- A connection finishes only with a key that was evaluated in the attempt in which it was proven,
in every run in which no key is proven on a registered session. Each event keeps that a finished
connection has the evaluation of its last key in its log, since an unregistered session evaluates
what is proven. -/
theorem finished_with_evaluated_key (gateway : Gateway) (session : Session)
    (start : session.state ≠ .finished) (events : List (Presented × (Nat → Answers)))
    (unregistered : Along (Connection.next gateway) Unregistered ⟨session, none⟩ events) :
    ∀ connection ∈ visited (Connection.next gateway) ⟨session, none⟩ events,
      connection.session.state = .finished →
        ∃ key log, connection.last = some (key, log) ∧ Evaluated session.destination key log := by
  intro connection member
  have begins : Authenticated session.destination ⟨session, none⟩ :=
    ⟨rfl, fun finished => absurd finished start⟩
  exact (visited_keeps (fun _ _ holds good => holds.next gateway good) begins unregistered
    connection member).evaluated

/-! ## Runs of two keys -/

/-- A gateway without deadlines. -/
def plainGateway : Gateway := ⟨3, false⟩

/-- The session of a native login to a device, before any key is presented. -/
def newSession : Session where
  uid := "session"
  sshid := "root@lab.pi"
  tenantID := "lab"
  deviceUID := "pi"
  deviceName := "pi"
  username := "root"
  ipAddress := "192.0.2.7"
  web := false
  state := .evaluated
  userID := ""
  approvalCode := ""
  fingerprint := ""
  keyData := ""
  lastReauthAt := none
  singleUse := false
  agentConn := false

def adaKey : PublicKey := ⟨"SHA256:ada", "ssh-ed25519 ada"⟩

def bobKey : PublicKey := ⟨"SHA256:bob", "ssh-ed25519 bob"⟩

/-- The key of an account, enrolled without limits. -/
def enrolledKey (principalID fingerprint : String) : SSHIdentity where
  tenantID := "lab"
  principalID := principalID
  fingerprint := fingerprint
  lastReauthAt := none
  expiresAt := none
  singleUse := false
  consumedAt := none

/-- Services that know some keys and allow one account, and an agent that accepts or not. Approvals
are confirmed by the account. -/
def answering (identity : String → Option SSHIdentity) (account : String) (agent : Except Failure Unit) :
    Answers
  | .resolveSSHIdentity _ fingerprint => .ok (identity fingerprint)
  | .clockNow => 100
  | .authorize _ userID _ _ _ => .ok (some ⟨userID = account, false, none, ""⟩)
  | .holdApprovalSlot _ => true
  | .releaseApprovalSlot _ => ()
  | .createSSHApproval _ => .ok "ABCDEFGH"
  | .sendBanner _ => ()
  | .getSSHApprovalStatus _ => .ok ⟨.confirmed, account⟩
  | .pause => true
  | .createSession _ => .ok ()
  | .createPrivateKey => .ok ()
  | .dial _ _ _ => .ok ()
  | .setDeadline => .ok ()
  | .newClientConn _ => agent
  | .consumeSSHIdentity _ _ => .ok true
  | .updateSession _ => .ok ()

/-- The keys of two accounts are enrolled. -/
def bothKnown (fingerprint : String) : Option SSHIdentity :=
  if fingerprint = adaKey.fingerprint then some (enrolledKey "ada" adaKey.fingerprint)
  else if fingerprint = bobKey.fingerprint then some (enrolledKey "bob" bobKey.fingerprint)
  else none

/-- A key is offered, and then another one is proven. -/
def offeredThenProven : List (Presented × (Nat → Answers)) :=
  [(.offered bobKey, fun _ => answering bothKnown "ada" (.ok ())),
    (.proven adaKey, fun _ => answering bothKnown "ada" (.ok ()))]

/-- A connection that offers one key and proves another finishes with the other one. -/
theorem finished_with_proven_key :
    (∃ connection ∈ visited (Connection.next plainGateway) ⟨newSession, none⟩ offeredThenProven,
      connection.session.state = .finished) ∧
    ∀ connection ∈ visited (Connection.next plainGateway) ⟨newSession, none⟩ offeredThenProven,
      connection.session.state = .finished →
        ∃ key log, connection.last = some (key, log) ∧ Evaluated newSession.destination key log :=
  ⟨by decide +kernel, finished_with_evaluated_key plainGateway newSession (by decide) offeredThenProven
    (by decide +kernel)⟩

/-- The agent refuses the session of an allowed key, and then it accepts that of another key. -/
def otherKeyAfterFailure (key : PublicKey) : List (Presented × (Nat → Answers)) :=
  [(.proven adaKey, fun _ => answering bothKnown "ada" (.error .failed)),
    (.proven key, fun _ => answering bothKnown "ada" (.ok ()))]

/-- The policies are asked, or an approval is opened. -/
def Exchange.decides (exchange : Exchange) : Bool :=
  match exchange.1 with
  | .authorize _ _ _ _ _ | .createSSHApproval _ => true
  | _ => false

/-- A connection finishes with an enrolled key whose account the policies deny, and with a key that
nobody knows: neither is evaluated after the session was registered with another key. -/
theorem finished_with_other_key :
    (∃ connection ∈ visited (Connection.next plainGateway) ⟨newSession, none⟩
        (otherKeyAfterFailure bobKey),
      connection.session.state = .finished ∧ connection.session.userID = "bob" ∧
        connection.last.any fun (key, log) => key = bobKey && !log.any Exchange.decides) ∧
    ∃ connection ∈ visited (Connection.next plainGateway) ⟨newSession, none⟩
        (otherKeyAfterFailure ⟨"SHA256:eve", "ssh-ed25519 eve"⟩),
      connection.session.state = .finished ∧ connection.session.userID = "ada" ∧
        connection.last.any fun (key, log) =>
          key.fingerprint = "SHA256:eve" && !log.any Exchange.decides := by
  constructor <;> decide +kernel

end ShellHub.Logins
