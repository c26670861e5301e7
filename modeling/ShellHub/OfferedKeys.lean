import ShellHub.LoginAttempts

/-!
# Keys that were only offered

The offer of a key looks it up, and leaves in the session what it finds: the key, and if it is an
active identity the account, the time of the last re-authentication and the single-use flag. The
proof of a key looks it up again. An enrolled key overwrites all of this; a key that is not enrolled
overwrites the account once it is approved, but never the flag.

Two runs of a connection are compared that differ in the keys that were offered between the proofs.
The same answers lead to the same exchanges, the same results and the same accounts, as long as each
key that is not enrolled is proven on a session that is not registered, and with the flag that the
proofs before it have left.
-/

namespace ShellHub.Logins

open Programs Sequences

variable (gateway : Gateway)

/-! ## Sessions after offers -/

/-- Two sessions that differ only in what keys have left in them. -/
def Traced (first second : Session) : Prop :=
  ∃ fingerprint keyData userID lastReauthAt singleUse,
    second = { first with fingerprint, keyData, userID, lastReauthAt, singleUse }

/-- A session differs in nothing from itself. -/
theorem Traced.refl (session : Session) : Traced session session := ⟨_, _, _, _, _, rfl⟩

/-- The sessions may be exchanged. -/
theorem Traced.symm {first second : Session} (traced : Traced first second) :
    Traced second first := by
  obtain ⟨_, _, _, _, _, rfl⟩ := traced
  exact ⟨_, _, _, _, _, rfl⟩

/-- What several keys have left is still only what keys leave. -/
theorem Traced.trans {first second third : Session} (one : Traced first second)
    (other : Traced second third) : Traced first third := by
  obtain ⟨_, _, _, _, _, rfl⟩ := one
  obtain ⟨_, _, _, _, _, rfl⟩ := other
  exact ⟨_, _, _, _, _, rfl⟩

/-- The session after a key was offered. -/
def Session.offering (session : Session) (key : PublicKey) (answers : Nat → Answers) : Session :=
  (run recorder answers (session.publicKeyOffer key) []).result.1

/-- An offer leaves only what belongs to the key. -/
theorem offering_traced (session : Session) (key : PublicKey) (answers : Nat → Answers) :
    Traced session (session.offering key answers) := by
  unfold Session.offering Session.publicKeyOffer
  split
  · exact .refl session
  simp only [Session.resolveKeyAuth, make, Program.perform, Program.call_bind, Program.done_bind, run,
    recorder]
  cases answers 0 (.resolveSSHIdentity session.tenantID key.fingerprint) with
  | error error => exact ⟨_, _, _, _, _, rfl⟩
  | ok answer =>
    cases answer with
    | none =>
      dsimp only
      split <;> exact ⟨_, _, _, _, _, rfl⟩
    | some identity =>
      simp only [Program.call_bind, run, recorder, Nat.zero_add]
      cases identity.active (answers 1 .clockNow) with
      | false => exact ⟨_, _, _, _, _, rfl⟩
      | true => exact ⟨_, _, _, _, _, rfl⟩

/-! ## The proof of a key after offers -/

/-- Two sessions that differ only in the time of the last re-authentication. -/
def SameLogin (first second : Session) : Prop :=
  ∃ lastReauthAt, second = { first with lastReauthAt }

/-- Two results with the same error, or with sessions for the same login. -/
def SameResult (first second : Session × Except AuthError Unit) : Prop :=
  first.2 = second.2 ∧ Traced first.1 second.1 ∧ (first.2 = .ok () → SameLogin first.1 second.1)

section Pairs

variable {first second : Session}

/-- The time is among what keys leave. -/
theorem SameLogin.traced (same : SameLogin first second) : Traced first second := by
  obtain ⟨lastReauthAt, rfl⟩ := same
  exact ⟨_, _, _, _, _, rfl⟩

/-- Two attempts that fail alike leave what keys leave. -/
theorem SameResult.error {error : AuthError} (traced : Traced first second) :
    SameResult (first, .error error) (second, .error error) :=
  ⟨rfl, traced, by rintro ⟨⟩⟩

/-- Sessions for the same login with the same outcome. -/
theorem SameLogin.result (outcome : Except AuthError Unit) (same : SameLogin first second) :
    SameResult (first, outcome) (second, outcome) :=
  ⟨rfl, same.traced, fun _ => same⟩

/-- Two sessions that ask for the same approval open it alike. -/
theorem openApproval_alike (kind : SSHApprovalKind) (period : Option Int)
    (same : first.approvalRequest kind period = second.approvalRequest kind period) :
    (first.openApproval kind period).Alike (· = ·) (second.openApproval kind period) := by
  unfold Session.openApproval
  rw [same]
  refine .call ?_
  rintro (error | code) <;> exact .done rfl

/-- The policies are asked without the time. -/
theorem authorize_alike (same : SameLogin first second) :
    first.authorize.Alike (· = ·) second.authorize := by
  obtain ⟨lastReauthAt, rfl⟩ := same
  refine .call ?_
  rintro (error | _ | decision)
  · exact .done rfl
  · exact .done rfl
  · exact Program.Alike.refl _

/-- A key that is not enrolled is approved without a look at the account or at the time. -/
theorem approveKey_alike (session : Session) (userID : String) (lastReauthAt : Option Nat) :
    (approveKey gateway session).Alike SameResult
      (approveKey gateway { session with userID, lastReauthAt }) := by
  refine (openApproval_alike .identity none (by rfl)).bind ?_
  rintro (error | code) _ rfl
  · exact .done (.error ⟨_, _, _, _, _, rfl⟩)
  refine .call fun _ => ?_
  refine (Program.Alike.refl (awaitApproval code gateway.approvalRounds)).bind ?_
  rintro (error | approver) _ rfl
  · exact .done (.error ⟨_, _, _, _, _, rfl⟩)
  refine (authorize_alike ⟨lastReauthAt, rfl⟩).bind ?_
  rintro (error | decision) _ rfl
  · exact .done (.error ⟨_, _, _, _, _, rfl⟩)
  · exact .done (SameLogin.result _ ⟨lastReauthAt, rfl⟩)

/-- A slot is held for the address, which keys do not change. -/
theorem holdingSlot_alike {body other : Step} (alike : body.Alike SameResult other)
    (traced : Traced first second) :
    (first.holdingSlot body).Alike SameResult (second.holdingSlot other) := by
  have address : first.ipAddress = second.ipAddress := by
    obtain ⟨_, _, _, _, _, rfl⟩ := traced
    rfl
  unfold Session.holdingSlot
  rw [address]
  refine .call ?_
  rintro (_ | _)
  · exact .done (.error traced)
  · refine alike.bind fun _ _ same => ?_
    exact .call fun _ => .done same

/-- The handshake does not read the time. -/
theorem handshake_alike (same : SameLogin first second) :
    (first.handshake gateway).Alike SameResult (second.handshake gateway) := by
  obtain ⟨lastReauthAt, rfl⟩ := same
  refine (Program.Alike.refl (Session.setDeadline gateway)).bind ?_
  rintro (error | _) _ rfl
  · exact .done (.error ⟨_, _, _, _, _, rfl⟩)
  refine .call ?_
  rintro (error | _)
  · exact .done (.error ⟨_, _, _, _, _, rfl⟩)
  · refine (Program.Alike.refl (Session.setDeadline gateway)).bind ?_
    rintro outcome _ rfl
    exact .done (SameLogin.result _ ⟨lastReauthAt, rfl⟩)

/-- Connecting to the agent does not read the time. -/
theorem connect_alike (same : SameLogin first second) :
    (first.connect gateway).Alike SameResult (second.connect gateway) := by
  obtain ⟨lastReauthAt, rfl⟩ := same
  refine .call ?_
  rintro (error | _)
  · exact .done (.error ⟨_, _, _, _, _, rfl⟩)
  dsimp only
  split
  · exact handshake_alike gateway ⟨lastReauthAt, rfl⟩
  refine .call ?_
  rintro (error | _)
  · exact .done (.error ⟨_, _, _, _, _, rfl⟩)
  · exact handshake_alike gateway ⟨lastReauthAt, rfl⟩

/-- A single-use key is burnt whatever the time. -/
theorem burn_alike (same : SameLogin first second) :
    first.burn.Alike (· = ·) second.burn := by
  obtain ⟨lastReauthAt, rfl⟩ := same
  unfold Session.burn
  dsimp only
  split
  · refine .call ?_
    rintro (error | _ | _) <;> exact .done rfl
  · exact .done rfl

/-- The end of an attempt does not read the time. -/
theorem finish_alike (same : SameLogin first second) :
    (first.finish gateway).Alike SameResult (second.finish gateway) := by
  refine (connect_alike gateway same).bind ?_
  rintro ⟨one, error | _⟩ ⟨other, outcome⟩ ⟨rfl, traced, connected⟩
  · exact .done (.error traced)
  obtain ⟨lastReauthAt, rfl⟩ := connected rfl
  dsimp only
  refine (burn_alike ⟨lastReauthAt, rfl⟩).bind ?_
  rintro (error | _) _ rfl
  · exact .done (.error ⟨_, _, _, _, _, rfl⟩)
  refine (Program.Alike.refl _).bind ?_
  rintro (error | _) _ rfl
  · exact .done (.error ⟨_, _, _, _, _, rfl⟩)
  · exact .done (SameLogin.result _ ⟨lastReauthAt, rfl⟩)

/-- The approval of a key, on a session that is not registered, does not depend on the account or
the time that were there before. -/
theorem auth_approval_alike {session : Session} (unregistered : session.state ≠ .registered)
    (userID : String) (lastReauthAt : Option Nat) :
    (session.auth gateway .approval).Alike SameResult
      (Session.auth { session with userID, lastReauthAt } gateway .approval) := by
  simp only [Session.auth, Auth.evaluate]
  split
  · refine (holdingSlot_alike (approveKey_alike gateway session userID lastReauthAt)
      (by exact ⟨_, _, _, _, _, rfl⟩)).bind ?_
    rintro ⟨one, error | _⟩ ⟨other, outcome⟩ ⟨rfl, traced, evaluated⟩
    · exact .done (.error traced)
    obtain ⟨time, rfl⟩ := evaluated rfl
    dsimp only
    refine (Program.Alike.refl _).bind ?_
    rintro (error | _) _ rfl
    · exact .done (.error ⟨_, _, _, _, _, rfl⟩)
    · exact finish_alike gateway ⟨time, rfl⟩
  · rename_i registered
    exact absurd registered unregistered
  · exact .done (.error ⟨_, _, _, _, _, rfl⟩)

end Pairs

/-! ## The verdicts on the proven keys -/

/-- What became of a proven key: the account that it logged in, if any, and the exchanges. -/
structure Verdict where
  key : PublicKey
  account : Option String
  exchanges : List Exchange

/-- The verdict on a key after an attempt with it. -/
def Verdict.of (key : PublicKey) (outcome : Outcome Call (Session × Bool) (List Exchange)) : Verdict where
  key := key
  account := if outcome.result.2 then some outcome.result.1.userID else none
  exchanges := outcome.state

/-- Outcomes with the same result, account and exchanges have the same verdict. -/
theorem Verdict.of_eq (key : PublicKey) {one other : Outcome Call (Session × Bool) (List Exchange)}
    (accepted : one.result.2 = other.result.2)
    (account : one.result.2 = true → other.result.1.userID = one.result.1.userID)
    (exchanges : one.state = other.state) : Verdict.of key one = Verdict.of key other := by
  unfold Verdict.of
  rw [← accepted, exchanges]
  split
  · rename_i success
    rw [account success]
  · rfl

/-- The session after a key was proven, and the verdict on the key. -/
def Session.proving (session : Session) (gateway : Gateway) (key : PublicKey)
    (answers : Nat → Answers) : Session × Verdict :=
  let outcome := run recorder answers (session.publicKeyVerified gateway key) []
  (outcome.result.1, .of key outcome)

/-- A key that is not enrolled is proven on a session that no attempt has registered, and the flag of
the session is the one that the proofs before have left. -/
def Clear (session quiet : Session) (key : PublicKey) (answers : Nat → Answers) : Prop :=
  session.web = false → answers 0 (.resolveSSHIdentity session.tenantID key.fingerprint) = .ok none →
    session.state ≠ .registered ∧ quiet.singleUse = session.singleUse

/-- The proof of a key that is not enrolled, once it was looked up. -/
theorem approval_alike (session : Session) (unregistered : session.state ≠ .registered)
    (userID : String) (lastReauthAt : Option Nat) :
    Program.Alike
      (fun (first second : Session × Bool) => first.2 = second.2 ∧ Traced first.1 second.1 ∧
        (first.2 = true → second.1.userID = first.1.userID))
      (do
        match ← session.auth gateway .approval with
        | (session, .error _) => return (session, false)
        | (session, .ok _) => return (session, true))
      (do
        match ← Session.auth { session with userID, lastReauthAt } gateway .approval with
        | (session, .error _) => return (session, false)
        | (session, .ok _) => return (session, true)) := by
  refine (auth_approval_alike gateway unregistered userID lastReauthAt).bind ?_
  rintro ⟨one, error | _⟩ ⟨other, outcome⟩ ⟨rfl, traced, same⟩
  · exact .done ⟨rfl, traced, by rintro ⟨⟩⟩
  · obtain ⟨time, rfl⟩ := same rfl
    exact .done ⟨rfl, traced, fun _ => rfl⟩

/-- The verdict on a key depends on what other keys have left only through the flag, and only if the
key is not enrolled. -/
theorem proving_traced {first second : Session} (traced : Traced first second) {key : PublicKey}
    {answers : Nat → Answers} (clear : Clear first second key answers) :
    (first.proving gateway key answers).2 = (second.proving gateway key answers).2 ∧
      Traced (first.proving gateway key answers).1 (second.proving gateway key answers).1 := by
  obtain ⟨fingerprint, keyData, userID, lastReauthAt, singleUse, rfl⟩ := traced
  unfold Session.proving Session.publicKeyVerified
  have ready : Session.ready { first with fingerprint, keyData, userID, lastReauthAt, singleUse } =
    first.ready := rfl
  rw [ready]
  split
  · exact ⟨rfl, ⟨_, _, _, _, _, rfl⟩⟩
  simp only [Session.resolveKeyAuth, make, Program.perform, Program.call_bind, Program.done_bind, run,
    recorder]
  cases found : answers 0 (.resolveSSHIdentity first.tenantID key.fingerprint) with
  | error error => exact ⟨rfl, ⟨_, _, _, _, _, rfl⟩⟩
  | ok answer =>
    cases answer with
    | none =>
      dsimp only
      split
      · exact ⟨rfl, ⟨_, _, _, _, _, rfl⟩⟩
      -- Both sessions go through the approval of the key, which sets the account anew.
      rename_i native
      obtain ⟨unregistered, rfl⟩ := clear (Bool.eq_false_iff.mpr native) found
      have alike := approval_alike gateway
        { first with fingerprint := key.fingerprint, keyData := key.data } unregistered userID
        lastReauthAt
      obtain ⟨⟨accepted, traced, account⟩, exchanges, _⟩ :=
        alike.run recorder (fun index => answers (index + 1))
          [⟨.resolveSSHIdentity first.tenantID key.fingerprint, .ok none⟩]
      exact ⟨Verdict.of_eq key accepted account exchanges, traced⟩
    | some identity =>
      simp only [Program.call_bind, run, recorder, Nat.zero_add]
      cases active : identity.active (answers 1 .clockNow) with
      | false => exact ⟨rfl, ⟨_, _, _, _, _, rfl⟩⟩
      | true => exact ⟨rfl, .refl _⟩

/-- The session after one step of the handshake. The handshake ends with the first success. -/
def Session.next (gateway : Gateway) (session : Session) (event : Presented × (Nat → Answers)) :
    Session :=
  if session.state = .finished then session
  else
    match event with
    | (.offered key, answers) => session.offering key answers
    | (.proven key, answers) => (session.proving gateway key answers).1

/-- The verdicts on the proven keys of a connection. -/
def verdicts (gateway : Gateway) : Session → List (Presented × (Nat → Answers)) → List Verdict
  | _, [] => []
  | session, event :: rest =>
    if session.state = .finished then []
    else
      match event with
      | (.offered _, _) => verdicts gateway (session.next gateway event) rest
      | (.proven key, answers) =>
        (session.proving gateway key answers).2 :: verdicts gateway (session.next gateway event) rest

/-- The proofs among the steps of a connection, with the answers to their calls. -/
def proofs (events : List (Presented × (Nat → Answers))) : List (Presented × (Nat → Answers)) :=
  events.filter fun event =>
    match event.1 with
    | .offered _ => false
    | .proven _ => true

/-- One step of a connection, and of the same connection without the offers. -/
def nextBoth (gateway : Gateway) (both : Session × Session) (event : Presented × (Nat → Answers)) :
    Session × Session :=
  (both.1.next gateway event,
    match event.1 with
    | .offered _ => both.2
    | .proven _ => both.2.next gateway event)

/-- Every key that is not enrolled is proven as it would be without the offers before. -/
def Traceless (both : Session × Session) (event : Presented × (Nat → Answers)) : Prop :=
  match event with
  | (.offered _, _) => True
  | (.proven key, answers) => Clear both.1 both.2 key answers

/-- A finished connection takes no further key. -/
theorem verdicts_finished {session : Session} (finished : session.state = .finished)
    (events : List (Presented × (Nat → Answers))) : verdicts gateway session events = [] := by
  cases events with
  | nil => rfl
  | cons event rest => exact if_pos finished

/-- The offers of a connection can be left out. -/
theorem verdicts_proofs {session other : Session} (traced : Traced session other)
    {events : List (Presented × (Nat → Answers))}
    (traceless : Along (nextBoth gateway) Traceless (session, other) events) :
    verdicts gateway session events = verdicts gateway other (proofs events) := by
  induction events generalizing session other with
  | nil => rfl
  | cons event rest ih =>
    have state : other.state = session.state := by
      obtain ⟨_, _, _, _, _, rfl⟩ := traced
      rfl
    by_cases finished : session.state = .finished
    · rw [verdicts_finished gateway finished, verdicts_finished gateway (state.trans finished)]
    have unfinished : other.state ≠ .finished := state ▸ finished
    obtain ⟨first, further⟩ := traceless
    rcases event with ⟨key | key, answers⟩
    · have offered : session.next gateway (.offered key, answers) = session.offering key answers :=
        if_neg finished
      rw [verdicts, if_neg finished]
      refine ih ?_ further
      rw [offered]
      exact (offering_traced session key answers).symm.trans traced
    · obtain ⟨verdict, after⟩ := proving_traced gateway traced first
      have one : session.next gateway (.proven key, answers) =
        (session.proving gateway key answers).1 := if_neg finished
      have same : other.next gateway (.proven key, answers) =
        (other.proving gateway key answers).1 := if_neg unfinished
      rw [proofs, List.filter_cons_of_pos rfl, ← proofs, verdicts, verdicts, if_neg finished,
        if_neg unfinished]
      refine congrArg₂ List.cons verdict (ih ?_ further)
      rw [one, same]
      exact after

/-- The verdicts on the proven keys do not depend on the keys that were only offered, as long as each
key that is not enrolled is proven on a session that is not registered, with the flag that the
proofs before it have left. Both runs have the verdicts of the run without any offer: the sessions
differ only in what keys have left, and a proof overwrites what its verdict depends on. -/
theorem verdicts_of_same_proofs (gateway : Gateway) (session : Session)
    (first second : List (Presented × (Nat → Answers))) (same : proofs first = proofs second)
    (traceless : Along (nextBoth gateway) Traceless (session, session) first)
    (other : Along (nextBoth gateway) Traceless (session, session) second) :
    verdicts gateway session first = verdicts gateway session second :=
  calc verdicts gateway session first
      = verdicts gateway session (proofs first) := verdicts_proofs gateway (.refl session) traceless
    _ = verdicts gateway session (proofs second) := by rw [same]
    _ = verdicts gateway session second := (verdicts_proofs gateway (.refl session) other).symm

/-! ## Runs with a single-use key -/

/-- Offering one key before proving another changes no verdict. -/
theorem verdicts_without_offered_key :
    verdicts plainGateway newSession offeredThenProven =
      verdicts plainGateway newSession
        [(.proven adaKey, fun _ => answering bothKnown "ada" (.ok ()))] := by
  refine verdicts_of_same_proofs plainGateway newSession offeredThenProven _ rfl
    ⟨trivial, ?_, trivial⟩ ⟨?_, trivial⟩
  · rintro _ ⟨⟩
  · rintro _ ⟨⟩

def onceKey : PublicKey := ⟨"SHA256:once", "ssh-ed25519 once"⟩

/-- One key is enrolled, for a single use. -/
def onceKnown (fingerprint : String) : Option SSHIdentity :=
  if fingerprint = onceKey.fingerprint then
    some { enrolledKey "ada" onceKey.fingerprint with singleUse := true }
  else none

/-- A key that nobody knows yet is proven. -/
def unknownProven : List (Presented × (Nat → Answers)) :=
  [(.proven bobKey, fun _ => answering onceKnown "ada" (.ok ()))]

/-- Before that, the single-use key is offered. -/
def onceOffered : List (Presented × (Nat → Answers)) :=
  (.offered onceKey, fun _ => answering onceKnown "ada" (.ok ())) :: unknownProven

/-- The keys that were burnt. -/
def Verdict.burnt (verdict : Verdict) : List String :=
  verdict.exchanges.filterMap fun exchange =>
    match exchange.1 with
    | .consumeSSHIdentity _ fingerprint => some fingerprint
    | _ => none

/-- A key that a person has just approved logs in either way, but after the offer of a single-use
key it is burnt. -/
theorem approved_key_burnt_after_offer :
    proofs onceOffered = proofs unknownProven ∧
    ((verdicts plainGateway newSession onceOffered).map fun verdict =>
      (verdict.account, verdict.burnt)) = [(some "ada", [bobKey.fingerprint])] ∧
    ((verdicts plainGateway newSession unknownProven).map fun verdict =>
      (verdict.account, verdict.burnt)) = [(some "ada", [])] := by
  refine ⟨rfl, ?_, ?_⟩ <;> decide +kernel

end ShellHub.Logins
