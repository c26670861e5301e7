import ShellHub.EnrollmentRules
import ShellHub.KeyUsage

/-!
# Enrollment callback tokens

A deferred enrollment decision is taken with a signed token that names the device, the tenant and the
install key it was minted for. A token is redeemed by recording its identifier, and a second
redemption finds the record and is refused. The record outlives the token: the lifetime of a token is
clamped to a maximum, and the cleanup keeps a record for that maximum.

The expiry of a token is checked before it is redeemed and not when it is. This module proves that a
token acts at most once if it is redeemed before it expires, and only on what it was minted for. It
gives a run in which a call verifies a token in its last second and redeems it after the cleanup.
-/

namespace ShellHub.Devices

open Programs Tables Interleavings

/-! ## Minting and decoding -/

/-- `InstallKeyWebhookDefaultCallbackTTL`, in seconds. -/
def webhookDefaultCallbackTTL : Int := 3600

/-- `InstallKeyWebhookMaxCallbackTTL`, in seconds. -/
def webhookMaxCallbackTTL : Int := 86400

/-- `clampOrDefault`. -/
def clampOrDefault (value default max : Int) : Int :=
  if value ≤ 0 then default else if value > max then max else value

/-- `WebhookCallbackTTLOrDefault`. -/
def InstallKey.webhookCallbackTTLOrDefault (key : InstallKey) : Int :=
  clampOrDefault key.webhookCallbackTTL webhookDefaultCallbackTTL webhookMaxCallbackTTL

/-- No key gives its tokens more than the maximum. -/
theorem InstallKey.webhookCallbackTTLOrDefault_le (key : InstallKey) :
    key.webhookCallbackTTLOrDefault ≤ webhookMaxCallbackTTL := by
  unfold webhookCallbackTTLOrDefault clampOrDefault webhookDefaultCallbackTTL webhookMaxCallbackTTL
  split
  · decide
  split
  · exact Int.le_refl _
  · omega

/-- A token with a valid signature: its claims, and when it is valid. -/
structure SignedToken where
  claims : CallbackToken
  notBefore : Nat
  expiresAt : Nat
  deriving DecidableEq, Repr

/-- `EncodeEnrollmentDecisionClaims`, at a time and with a fresh identifier among the claims. -/
def encodeEnrollmentDecisionClaims (claims : CallbackToken) (ttl : Int) (now : Nat) : SignedToken :=
  ⟨claims, now, (now + ttl).toNat⟩

/-- The token that `enrollmentCallbackURL` mints for a device. -/
def enrollmentCallbackToken (key : InstallKey) (uid jti : String) (now : Nat) : SignedToken :=
  encodeEnrollmentDecisionClaims ⟨key.tenantID, uid, key.id, jti⟩ key.webhookCallbackTTLOrDefault now

/-- `DecodeEnrollmentDecisionClaims`, for a token whose signature verifies. -/
def decodeEnrollmentDecisionClaims (token : SignedToken) : Service (Option CallbackToken) := do
  let now ← call .clockNow
  if token.notBefore ≤ now ∧ now < token.expiresAt then return some token.claims
  else return none

/-- `ResolveEnrollmentCallback` with a token. -/
def enrollmentCallback (token : SignedToken) (reject : Bool) : Service (Except DeviceError Unit) := do
  resolveEnrollmentCallback (← decodeEnrollmentDecisionClaims token) reject

/-- `EnrollmentCallbackCleanup`. -/
def enrollmentCallbackCleanup : Service (Except DeviceError Unit) := do
  let now ← call .clockNow
  match ← call (.enrollmentCallbackCleanup (now - webhookMaxCallbackTTL).toNat) with
  | .error error => return .error (.store error)
  | .ok _ => return .ok ()

/-! ## Callbacks and cleanups at the same time -/

/-- A callback with the token, one with another token, or a cleanup. -/
inductive CallbackRequest (token : SignedToken) where
  | resolve (reject : Bool)
  | resolveOther (other : SignedToken) (differs : other.claims.jti ≠ token.claims.jti) (reject : Bool)
  | cleanup

/-- The program of a request. -/
def CallbackRequest.program {token : SignedToken} :
    CallbackRequest token → Service (Except DeviceError Unit)
  | .resolve reject => enrollmentCallback token reject
  | .resolveOther other _ reject => enrollmentCallback other reject
  | .cleanup => enrollmentCallbackCleanup

/-- A change of the status of a device. -/
structure StatusChange where
  tenantID : String
  uid : String
  status : DeviceStatus
  deriving DecidableEq, Repr

/-- The time of the last step, the status changes that the token made, and the keys it took a use of. -/
structure CallbackHistory where
  clock : Nat
  changes : List StatusChange
  keys : List (String × String)

namespace CallbackHistory

/-- A token that was not used. -/
def fresh : CallbackHistory := ⟨0, [], []⟩

/-- The history after an action at a time. -/
def record {token : SignedToken} (history : CallbackHistory) (request : CallbackRequest token)
    (action : Action) (reply : action.Reply) (now : Nat) : CallbackHistory :=
  match request, action, reply with
  | .resolve _, .transaction (.updateDeviceStatus tenantID uid status), .ok _ =>
    { history with clock := now, changes := ⟨tenantID, uid, status.1⟩ :: history.changes }
  | .resolve _, .call (.installKeyIncrementUsage key), .ok _ =>
    { history with clock := now, keys := key.primary :: history.keys }
  | _, _, _ => { history with clock := now }

/-- A token acted at most once, and on what it was minted for. -/
structure ActsOnce (history : CallbackHistory) (claims : CallbackToken) : Prop where
  once : history.changes.length ≤ 1
  device : ∀ change ∈ history.changes,
    change.tenantID = claims.tenantID ∧ change.uid = claims.deviceUID
  key : ∀ used ∈ history.keys, used = (claims.tenantID, claims.installKeyID)

end CallbackHistory

/-- Callbacks and cleanups that run at the same time. -/
def callbackSystem (server : Server) (token : SignedToken) :
    System (CallbackRequest token) Action Action.Reply (Except DeviceError Unit)
      (Nat → Surroundings) (Fleet × CallbackHistory) where
  program := CallbackRequest.program
  effect := fun _ request action inputs shared =>
    let (reply, fleet) := meaning server action inputs shared.1
    (reply, fleet, shared.2.record request action reply (inputs 0).now)

/-- The token that an action redeems. -/
def Action.redeemed : Action → Option String
  | .call (.enrollmentCallbackRedeem jti _) => some jti
  | _ => none

/-- The clock does not run backwards, and the token is redeemed before it expires. -/
def Punctual {token : SignedToken} (shared : Fleet × CallbackHistory) (_ : Nat)
    (_ : CallbackRequest token) (action : Action) (inputs : Nat → Surroundings) : Prop :=
  shared.2.clock ≤ (inputs 0).now ∧
    (action.redeemed = some token.claims.jti → (inputs 0).now < token.expiresAt)

instance {token : SignedToken} (shared : Fleet × CallbackHistory) (thread : Nat)
    (request : CallbackRequest token) (action : Action) (inputs : Nat → Surroundings) :
    Decidable (Punctual shared thread request action inputs) :=
  inferInstanceAs (Decidable (_ ∧ _))

/-! ## Threads -/

/-- How far a thread is with the token. -/
inductive TokenPhase where
  | unredeemed
  | redeemed
  | spent
  deriving DecidableEq

/-- What a thread knows: the time it read last, and how far it is with the token. -/
structure TokenInsight where
  latest : Nat
  phase : TokenPhase

/-- A thread that has done nothing. -/
def TokenInsight.blank : TokenInsight := ⟨0, .unredeemed⟩

/-- The calls that a request may make. A callback with the token changes a status only after it
redeemed the token, and only once. -/
def CallbackRequest.allowed {token : SignedToken} (insight : TokenInsight) :
    CallbackRequest token → Action → Prop
  | .resolve _, .call (.enrollmentCallbackRedeem jti time) =>
    jti = token.claims.jti ∧ token.notBefore ≤ time
  | .resolve _, .call (.installKeyIncrementUsage key) =>
    key.primary = (token.claims.tenantID, token.claims.installKeyID)
  | .resolve _, .transaction (.updateDeviceStatus tenantID uid _) =>
    tenantID = token.claims.tenantID ∧ uid = token.claims.deviceUID ∧ insight.phase = .redeemed
  | .resolve _, .call (.installKeyResolve tenantID id) =>
    tenantID = token.claims.tenantID ∧ id = token.claims.installKeyID
  | .resolveOther _ _ _, .call (.enrollmentCallbackRedeem jti _) => jti ≠ token.claims.jti
  | .resolveOther _ _ _, .transaction _ => True
  | .cleanup, .call (.enrollmentCallbackCleanup before) =>
    before = (insight.latest - webhookMaxCallbackTTL).toNat
  | .cleanup, .call .clockNow => True
  | .cleanup, _ => False
  | _, .call (.enrollmentCallbackCleanup _) => False
  | _, .transaction _ => False
  | _, .call _ => True

/-- The contract of a request. -/
def CallbackRequest.contract {token : SignedToken} (request : CallbackRequest token) :
    Contract Action Action.Reply TokenInsight where
  allowed := fun insight action => request.allowed insight action
  yields := fun insight action =>
    match action with
    | .call .clockNow => fun now next => insight.latest ≤ now ∧ next = { insight with latest := now }
    | .call (.enrollmentCallbackRedeem jti _) => fun reply next =>
      next = if jti = token.claims.jti ∧ reply.toOption = some true then
        { insight with phase := .redeemed } else insight
    | .call (.installKeyResolve tenantID id) => fun reply next =>
      (∀ key, reply = .ok key → key.primary = (tenantID, id)) ∧ next = insight
    | .transaction _ => fun _ next => match request with
      | .resolve _ => next = { insight with phase := .spent }
      | _ => next = insight
    | _ => fun _ next => next = insight

section Threads

variable {token : SignedToken} {insight : TokenInsight}

/-- A status change by a thread that redeemed the token. -/
theorem updateDeviceStatus_spends (reject : Bool) (insight : TokenInsight)
    (ready : insight.phase = .redeemed) (status : RequestedStatus) :
    (updateDeviceStatus token.claims.tenantID token.claims.deviceUID status).Meets
      (CallbackRequest.resolve reject : CallbackRequest token).contract insight
      fun _ _ => True := by
  refine .perform ⟨rfl, rfl, ready⟩ ?_
  rintro (error | _) _ rfl
  · trivial
  dsimp only
  split
  · split
    · trivial
    · exact ⟨trivial, fun _ _ _ => trivial⟩
  · trivial

theorem acceptCallback_spends (reject : Bool) (ready : insight.phase = .redeemed) :
    (acceptCallback token.claims).Meets
      (CallbackRequest.resolve reject : CallbackRequest token).contract insight
      fun _ _ => True := by
  unfold acceptCallback
  split
  · trivial
  refine .perform ⟨rfl, rfl⟩ ?_
  rintro (error | key) _ ⟨own, rfl⟩
  · trivial
  refine .perform trivial ?_
  rintro now _ ⟨-, rfl⟩
  split
  · trivial
  refine ⟨own key rfl, ?_⟩
  rintro (error | _) _ rfl
  · trivial
  refine (updateDeviceStatus_spends reject ⟨now, _⟩ ready accepted).bind ?_
  rintro (error | _) next -
  · exact ⟨trivial, fun _ _ _ => trivial⟩
  · trivial

/-- A token that decodes is valid since the time that was read. -/
theorem decodeEnrollmentDecisionClaims_reads (request : CallbackRequest token)
    (presented : SignedToken) :
    (decodeEnrollmentDecisionClaims presented).Meets request.contract .blank fun result next =>
      ∀ claims ∈ result, claims = presented.claims ∧ presented.notBefore ≤ next.latest := by
  refine .perform (by cases request <;> trivial) ?_
  rintro now _ ⟨-, rfl⟩
  split
  · rename_i valid
    rintro _ ⟨⟩
    exact ⟨rfl, valid.1⟩
  · rintro _ ⟨⟩

/-- A callback with the token redeems it at a time after it was minted, and then changes one
status. -/
theorem enrollmentCallback_spends (reject : Bool) :
    (enrollmentCallback token reject).Meets
      (CallbackRequest.resolve reject : CallbackRequest token).contract .blank fun _ _ => True := by
  refine (decodeEnrollmentDecisionClaims_reads _ token).bind ?_
  rintro (_ | claims) insight decoded
  · trivial
  obtain ⟨rfl, since⟩ := decoded claims rfl
  refine .perform trivial ?_
  rintro now _ ⟨later, rfl⟩
  refine ⟨⟨rfl, since.trans later⟩, ?_⟩
  rintro (error | _ | _) next reached
  · trivial
  · trivial
  have ready : next.phase = .redeemed := by
    rw [show next = _ from reached, if_pos ⟨rfl, rfl⟩]
  split
  · exact updateDeviceStatus_spends reject _ ready rejected
  · exact acceptCallback_spends reject ready

/-- Actions that neither redeem a token nor prune redemptions. -/
def Action.Spares (jti : String) : Action → Prop
  | .call (.enrollmentCallbackRedeem other _) => other ≠ jti
  | .call (.enrollmentCallbackCleanup _) => False
  | _ => True

theorem updateDeviceStatus_spares (jti tenantID uid : String) (status : RequestedStatus) :
    (updateDeviceStatus tenantID uid status).Uses (Action.Spares jti) := by
  refine ⟨trivial, ?_⟩
  rintro (error | _)
  · trivial
  dsimp only
  split
  · split
    · trivial
    · exact ⟨trivial, fun _ => trivial⟩
  · trivial

theorem acceptCallback_spares (jti : String) (claims : CallbackToken) :
    (acceptCallback claims).Uses (Action.Spares jti) := by
  unfold acceptCallback
  split
  · trivial
  simp only [call, Program.uses_perform_bind]
  refine ⟨trivial, ?_⟩
  rintro (error | key)
  · trivial
  simp only [Program.uses_perform_bind]
  refine ⟨trivial, ?_⟩
  intro now
  split
  · trivial
  refine ⟨trivial, ?_⟩
  rintro (error | _)
  · trivial
  refine (updateDeviceStatus_spares jti _ _ accepted).bind ?_
  rintro (error | _)
  · exact ⟨trivial, fun _ => trivial⟩
  · trivial

theorem resolveEnrollmentCallback_spares {jti : String} {claims : CallbackToken}
    (differs : claims.jti ≠ jti) (reject : Bool) :
    (resolveEnrollmentCallback (some claims) reject).Uses (Action.Spares jti) := by
  refine ⟨trivial, ?_⟩
  intro now
  refine ⟨differs, ?_⟩
  rintro (error | _ | _)
  · trivial
  · trivial
  dsimp only
  split
  · exact updateDeviceStatus_spares jti _ _ rejected
  · exact acceptCallback_spares jti claims

/-- A callback with another token leaves the redemptions of this one alone. -/
theorem enrollmentCallback_spares {other : SignedToken}
    (differs : other.claims.jti ≠ token.claims.jti) (reject : Bool) :
    (enrollmentCallback other reject).Meets
      (CallbackRequest.resolveOther other differs reject).contract .blank fun _ _ => True := by
  refine (decodeEnrollmentDecisionClaims_reads _ other).bind ?_
  rintro (_ | claims) insight decoded
  · trivial
  obtain ⟨rfl, -⟩ := decoded claims rfl
  apply (resolveEnrollmentCallback_spares differs reject).meets_of_allowed
  rintro insight (made | block) spares
  · cases made <;> exact spares
  · trivial

theorem enrollmentCallbackCleanup_prunes :
    enrollmentCallbackCleanup.Meets (CallbackRequest.cleanup : CallbackRequest token).contract .blank
      fun _ _ => True := by
  refine ⟨trivial, ?_⟩
  rintro now _ ⟨-, rfl⟩
  refine ⟨rfl, ?_⟩
  rintro (error | _) _ _ <;> trivial

end Threads

/-! ## Redemptions -/

/-- Only redemptions and cleanups change the redemptions. -/
theorem callMeaning_redemptions (request : Call) (around : Surroundings) (fleet : Fleet)
    (redeems : ∀ jti time, request ≠ .enrollmentCallbackRedeem jti time)
    (prunes : ∀ before, request ≠ .enrollmentCallbackCleanup before) :
    (callMeaning request around fleet).2.redemptions = fleet.redemptions := by
  unfold callMeaning
  split
  · rfl
  · cases request
    case enrollmentCallbackRedeem => exact absurd rfl (redeems _ _)
    case enrollmentCallbackCleanup => exact absurd rfl (prunes _)
    all_goals
      simp only [Fleet.perform]
      repeat' split
    all_goals rfl

/-- A transaction leaves the redemptions as they are. -/
theorem transact_redemptions (server : Server) (block : Transaction)
    (inputs : Nat → Surroundings) (fleet : Fleet) :
    (transact server block inputs fleet).2.redemptions = fleet.redemptions := by
  unfold transact
  split
  · rfl
  dsimp only
  split
  · rfl
  · apply (block.body_transactional server).run_eq
    intro request around before transactional
    apply callMeaning_redemptions
    · rintro jti time rfl
      exact transactional
    · rintro limit rfl
      exact transactional

/-- The clock is read without faults. -/
theorem callMeaning_clockNow (around : Surroundings) (fleet : Fleet) :
    callMeaning .clockNow around fleet = (around.now, fleet) := by
  unfold callMeaning
  cases around.fault <;> rfl

/-- A redemption that succeeds finds no record of the token and leaves one. -/
theorem callMeaning_redeem (jti : String) (time : Nat) (around : Surroundings) (fleet : Fleet) :
    ((callMeaning (.enrollmentCallbackRedeem jti time) around fleet).1.toOption ≠ some true ∧
      (callMeaning (.enrollmentCallbackRedeem jti time) around fleet).2 = fleet) ∨
    ((callMeaning (.enrollmentCallbackRedeem jti time) around fleet).1.toOption = some true ∧
      (∀ redemption ∈ fleet.redemptions, redemption.1 ≠ jti) ∧
      (callMeaning (.enrollmentCallbackRedeem jti time) around fleet).2.redemptions =
        fleet.redemptions ++ [(jti, time)]) := by
  unfold callMeaning
  cases fault : around.fault with
  | some error => exact .inl ⟨by rintro ⟨⟩, rfl⟩
  | none =>
    simp only [Option.bind_none, Fleet.perform]
    split
    · exact .inl ⟨by rintro ⟨⟩, rfl⟩
    · rename_i unknown
      refine .inr ⟨rfl, ?_, rfl⟩
      rintro redemption stored rfl
      exact unknown (List.any_eq_true.mpr ⟨redemption, stored, decide_eq_true rfl⟩)

/-- A cleanup keeps the records that are not older than its limit. -/
theorem callMeaning_prune {before : Nat} {around : Surroundings} {fleet : Fleet}
    {redemption : String × Nat} (stored : redemption ∈ fleet.redemptions)
    (recent : before ≤ redemption.2) :
    redemption ∈ (callMeaning (.enrollmentCallbackCleanup before) around fleet).2.redemptions := by
  unfold callMeaning
  split
  · exact stored
  · exact List.mem_filter.mpr ⟨stored, by simpa using recent⟩

/-- The key that a lookup returns is the one that was asked for. -/
theorem callMeaning_installKeyResolve {tenantID id : String} {around : Surroundings} {fleet : Fleet}
    {key : InstallKey}
    (found : (callMeaning (.installKeyResolve tenantID id) around fleet).1 = .ok key) :
    key.primary = (tenantID, id) := by
  rw [callMeaning_performs (by rw [found]; rintro error ⟨⟩)] at found
  simp only [Fleet.perform] at found
  split at found
  · cases found
  · rename_i stored looked
    cases found
    exact (Table.find_eq_some.mp looked).2

/-- A record of the token that no cleanup removes before the token expires. -/
def Fleet.Remembers (fleet : Fleet) (token : SignedToken) : Prop :=
  ∃ time, (token.claims.jti, time) ∈ fleet.redemptions ∧
    (token.expiresAt : Int) ≤ time + webhookMaxCallbackTTL

theorem Fleet.Remembers.congr {fleet after : Fleet} {token : SignedToken}
    (remembers : fleet.Remembers token) (same : after.redemptions = fleet.redemptions) :
    after.Remembers token := by
  unfold Fleet.Remembers
  rw [same]
  exact remembers

/-- What is known of the token while requests run. -/
structure CallbackHolds (token : SignedToken) (shared : Fleet × CallbackHistory)
    (insightOf : Nat → TokenInsight) : Prop where
  acts : shared.2.ActsOnce token.claims
  recent : ∀ thread, (insightOf thread).latest ≤ shared.2.clock
  single : ∀ first second, (insightOf first).phase ≠ .unredeemed →
    (insightOf second).phase ≠ .unredeemed → first = second
  kept : ∀ thread, (insightOf thread).phase ≠ .unredeemed →
    shared.1.Remembers token ∨ token.expiresAt ≤ shared.2.clock
  unspent : (∀ thread, (insightOf thread).phase ≠ .spent) → shared.2.changes = []

namespace CallbackHolds

variable {token : SignedToken} {fleet after : Fleet} {history later : CallbackHistory}
  {insightOf : Nat → TokenInsight} {thread : Nat} {request : CallbackRequest token}
  {next : TokenInsight} {around : Surroundings} {reject : Bool}
variable (hold : CallbackHolds token (fleet, history) insightOf)

include hold

/-- The rule for a step. It moves one thread, and what a thread relies on stays. -/
theorem set (forward : history.clock ≤ later.clock)
    (acts : later.ActsOnce token.claims) (recent : next.latest ≤ later.clock)
    (single : next.phase ≠ .unredeemed → ∀ other, other ≠ thread →
      (insightOf other).phase = .unredeemed)
    (own : next.phase ≠ .unredeemed → after.Remembers token ∨ token.expiresAt ≤ later.clock)
    (stays : fleet.Remembers token → after.Remembers token ∨ token.expiresAt ≤ later.clock)
    (unspent : next.phase ≠ .spent →
      (∀ other, other ≠ thread → (insightOf other).phase ≠ .spent) → later.changes = []) :
    CallbackHolds token (after, later) (Function.update insightOf thread next) := by
  constructor
  · exact acts
  · intro other
    rw [Function.update_apply]
    split
    · exact recent
    · exact (hold.recent other).trans forward
  · intro first second
    rw [Function.update_apply, Function.update_apply]
    split
    · rename_i same
      intro moved holding
      split at holding
      · rename_i too
        rw [same, too]
      · rename_i differs
        exact absurd (single moved second differs) holding
    · rename_i differs
      intro holding moved
      split at moved
      · exact absurd (single moved first differs) holding
      · exact hold.single first second holding moved
  · intro other
    rw [Function.update_apply]
    split
    · exact own
    · intro holding
      rcases hold.kept other holding with remembers | expired
      · exact stays remembers
      · exact .inr (expired.trans forward)
  · intro none
    apply unspent
    · have own := none thread
      rwa [Function.update_self] at own
    · intro other differs
      have own := none other
      rwa [Function.update_of_ne differs] at own

/-- While one thread has redeemed the token, no other has. -/
theorem alone (holding : (insightOf thread).phase ≠ .unredeemed)
    (other : Nat) (differs : other ≠ thread) : (insightOf other).phase = .unredeemed := by
  by_contra also
  exact differs (hold.single other thread also holding)

/-- A step that leaves the phase of its thread and the status changes as they are. -/
theorem keep (forward : history.clock ≤ later.clock)
    (acts : later.ActsOnce token.claims) (recent : next.latest ≤ later.clock)
    (phase : next.phase = (insightOf thread).phase) (changes : later.changes = history.changes)
    (stays : fleet.Remembers token → after.Remembers token ∨ token.expiresAt ≤ later.clock) :
    CallbackHolds token (after, later) (Function.update insightOf thread next) := by
  apply hold.set forward acts recent
  · intro holding
    rw [phase] at holding
    exact hold.alone holding
  · intro holding
    rw [phase] at holding
    rcases hold.kept thread holding with remembers | expired
    · exact stays remembers
    · exact .inr (expired.trans forward)
  · exact stays
  · intro own others
    rw [changes]
    apply hold.unspent
    intro other
    by_cases same : other = thread
    · rw [same, ← phase]
      exact own
    · exact others other same

/-- A step after which the token is still recorded, and that adds nothing to the history. -/
theorem pass {now : Nat} (forward : history.clock ≤ now)
    (stays : fleet.Remembers token → after.Remembers token ∨ token.expiresAt ≤ now) :
    CallbackHolds token (after, { history with clock := now })
      (Function.update insightOf thread (insightOf thread)) := by
  apply hold.keep forward
  · exact ⟨hold.acts.once, hold.acts.device, hold.acts.key⟩
  · exact (hold.recent thread).trans forward
  · rfl
  · rfl
  · exact stays

/-- A step that touches neither redemptions nor the history. -/
theorem spare {now : Nat} (forward : history.clock ≤ now)
    (same : after.redemptions = fleet.redemptions) :
    CallbackHolds token (after, { history with clock := now })
      (Function.update insightOf thread (insightOf thread)) :=
  hold.pass forward fun remembers => .inl (remembers.congr same)

/-- A thread reads the clock. -/
theorem tick (forward : history.clock ≤ around.now) :
    ∃ next, request.contract.yields (insightOf thread) (.call .clockNow)
        (callMeaning .clockNow around fleet).1 next ∧
      CallbackHolds token ((callMeaning .clockNow around fleet).2,
        { history with clock := around.now }) (Function.update insightOf thread next) := by
  rw [callMeaning_clockNow]
  refine ⟨_, ⟨(hold.recent thread).trans forward, rfl⟩, ?_⟩
  apply hold.keep forward
  · exact ⟨hold.acts.once, hold.acts.device, hold.acts.key⟩
  · exact Nat.le_refl _
  · rfl
  · rfl
  · exact .inl

/-- A thread looks a key up. -/
theorem resolve {now : Nat} (forward : history.clock ≤ now)
    (tenantID id : String) :
    ∃ next, request.contract.yields (insightOf thread) (.call (.installKeyResolve tenantID id))
        (callMeaning (.installKeyResolve tenantID id) around fleet).1 next ∧
      CallbackHolds token ((callMeaning (.installKeyResolve tenantID id) around fleet).2,
        { history with clock := now }) (Function.update insightOf thread next) := by
  refine ⟨_, ⟨fun key answered => callMeaning_installKeyResolve answered, rfl⟩, ?_⟩
  apply hold.spare forward
  exact callMeaning_redemptions _ _ _ (by rintro _ _ ⟨⟩) (by rintro _ ⟨⟩)

/-- Another token is redeemed. -/
theorem redeemOther {now : Nat} (forward : history.clock ≤ now)
    {jti : String} (differs : jti ≠ token.claims.jti) (time : Nat) :
    ∃ next, request.contract.yields (insightOf thread) (.call (.enrollmentCallbackRedeem jti time))
        (callMeaning (.enrollmentCallbackRedeem jti time) around fleet).1 next ∧
      CallbackHolds token ((callMeaning (.enrollmentCallbackRedeem jti time) around fleet).2,
        { history with clock := now }) (Function.update insightOf thread next) := by
  refine ⟨_, (if_neg fun both => differs both.1).symm, hold.pass forward ?_⟩
  rintro ⟨known, stored, lasting⟩
  refine .inl ⟨known, ?_, lasting⟩
  rcases callMeaning_redeem jti time around fleet with ⟨-, same⟩ | ⟨-, -, added⟩
  · rwa [same]
  · rw [added]
    exact List.mem_append_left _ stored

/-- A cleanup removes a record of the token only after the token expired. -/
theorem prune {now before : Nat} (forward : history.clock ≤ now)
    (limit : before = ((insightOf thread).latest - webhookMaxCallbackTTL).toNat) :
    CallbackHolds token ((callMeaning (.enrollmentCallbackCleanup before) around fleet).2,
      { history with clock := now }) (Function.update insightOf thread (insightOf thread)) := by
  have recent := hold.recent thread
  refine hold.pass forward ?_
  rintro ⟨time, stored, lasting⟩
  by_cases kept : before ≤ time
  · exact .inl ⟨time, callMeaning_prune stored kept, lasting⟩
  · have expired : (token.expiresAt : Int) ≤ history.clock := by
      dsimp only at recent
      omega
    exact .inr ((Int.ofNat_le.mp expired).trans forward)

/-- The token is redeemed before it expires. It was not redeemed before, since its record would still
be there. -/
theorem redeem {now time : Nat}
    (forward : history.clock ≤ now) (early : now < token.expiresAt)
    (lasting : (token.expiresAt : Int) ≤ token.notBefore + webhookMaxCallbackTTL)
    (since : token.notBefore ≤ time) :
    ∃ next, request.contract.yields (insightOf thread)
        (.call (.enrollmentCallbackRedeem token.claims.jti time))
        (callMeaning (.enrollmentCallbackRedeem token.claims.jti time) around fleet).1 next ∧
      CallbackHolds token
        ((callMeaning (.enrollmentCallbackRedeem token.claims.jti time) around fleet).2,
          { history with clock := now }) (Function.update insightOf thread next) := by
  refine ⟨_, rfl, ?_⟩
  rcases callMeaning_redeem token.claims.jti time around fleet with
    ⟨refused, same⟩ | ⟨won, unknown, added⟩
  · rw [if_neg fun both => refused both.2]
    exact hold.spare forward (by rw [same])
  · rw [if_pos ⟨rfl, won⟩]
    have first : ∀ other, (insightOf other).phase = .unredeemed := by
      intro other
      by_contra holding
      rcases hold.kept other holding with ⟨known, stored, -⟩ | expired
      · exact unknown _ stored rfl
      · exact absurd (expired.trans forward) (Nat.not_le.mpr early)
    have remembered : (callMeaning (.enrollmentCallbackRedeem token.claims.jti time) around
        fleet).2.Remembers token := by
      refine ⟨time, ?_, ?_⟩
      · rw [added]
        exact List.mem_append_right _ List.mem_cons_self
      · omega
    apply hold.set forward
    · exact ⟨hold.acts.once, hold.acts.device, hold.acts.key⟩
    · exact (hold.recent thread).trans forward
    · exact fun _ other _ => first other
    · exact fun _ => .inl remembered
    · exact fun _ => .inl remembered
    · intro _ _
      apply hold.unspent
      intro other spent
      rw [first other] at spent
      cases spent

/-- The thread that redeemed the token changes the status of its device. -/
theorem spend (forward : history.clock ≤ later.clock)
    (ready : (insightOf thread).phase = .redeemed)
    (same : after.redemptions = fleet.redemptions) (keys : later.keys = history.keys)
    (changes : later.changes = history.changes ∨ ∃ status, later.changes =
      ⟨token.claims.tenantID, token.claims.deviceUID, status⟩ :: history.changes) :
    CallbackHolds token (after, later)
      (Function.update insightOf thread { insightOf thread with phase := .spent }) := by
  have holding : (insightOf thread).phase ≠ .unredeemed := by
    rw [ready]
    decide
  have others := hold.alone holding
  have before : history.changes = [] := by
    apply hold.unspent
    intro other
    by_cases own : other = thread
    · rw [own, ready]
      decide
    · rw [others other own]
      decide
  have acts : later.ActsOnce token.claims := by
    rw [before] at changes
    refine ⟨?_, ?_, keys ▸ hold.acts.key⟩
    · rcases changes with none | ⟨status, one⟩
      · simp [none]
      · simp [one]
    · rcases changes with none | ⟨status, one⟩
      · simp [none]
      · simp [one]
  apply hold.set forward acts
  · exact (hold.recent thread).trans forward
  · exact fun _ => others
  · intro _
    rcases hold.kept thread holding with remembers | expired
    · exact .inl (remembers.congr same)
    · exact .inr (expired.trans forward)
  · exact fun remembers => .inl (remembers.congr same)
  · exact fun unspent => absurd rfl unspent

/-- A use of the key is taken. -/
theorem use {now : Nat} (forward : history.clock ≤ now) {key : InstallKey}
    (own : key.primary = (token.claims.tenantID, token.claims.installKeyID)) :
    CallbackHolds token ((callMeaning (.installKeyIncrementUsage key) around fleet).2,
      history.record (.resolve reject : CallbackRequest token) (.call (.installKeyIncrementUsage key))
        (callMeaning (.installKeyIncrementUsage key) around fleet).1 now)
      (Function.update insightOf thread (insightOf thread)) := by
  have same := callMeaning_redemptions (.installKeyIncrementUsage key) around fleet
    (by rintro _ _ ⟨⟩) (by rintro _ ⟨⟩)
  generalize callMeaning (.installKeyIncrementUsage key) around fleet = outcome at same ⊢
  obtain ⟨reply, after⟩ := outcome
  cases reply with
  | error error => exact hold.spare forward same
  | ok done =>
    apply hold.keep forward
    · refine ⟨hold.acts.once, hold.acts.device, ?_⟩
      intro used member
      rcases List.mem_cons.mp member with rfl | old
      · exact own
      · exact hold.acts.key used old
    · exact (hold.recent thread).trans forward
    · rfl
    · rfl
    · exact fun remembers => .inl (remembers.congr same)

/-- The thread that redeemed the token changes the status of its device. -/
theorem change {now : Nat} (forward : history.clock ≤ now)
    (ready : (insightOf thread).phase = .redeemed) (server : Server) (status : RequestedStatus) (inputs : Nat → Surroundings) :
    CallbackHolds token
      ((transact server
          (.updateDeviceStatus token.claims.tenantID token.claims.deviceUID status) inputs fleet).2,
        history.record (.resolve reject : CallbackRequest token)
          (.transaction (.updateDeviceStatus token.claims.tenantID token.claims.deviceUID status))
          (transact server
            (.updateDeviceStatus token.claims.tenantID token.claims.deviceUID status) inputs fleet).1
          now)
      (Function.update insightOf thread { insightOf thread with phase := .spent }) := by
  have same := transact_redemptions server
    (.updateDeviceStatus token.claims.tenantID token.claims.deviceUID status) inputs fleet
  generalize transact server (.updateDeviceStatus token.claims.tenantID token.claims.deviceUID
    status) inputs fleet = outcome at same ⊢
  obtain ⟨reply, after⟩ := outcome
  cases reply with
  | error error => exact hold.spend forward ready same rfl (.inl rfl)
  | ok done => exact hold.spend forward ready same rfl (.inr ⟨status.1, rfl⟩)

/-- An action answers what the contract says, and keeps what is known of a token that expires no later
than its record. -/
theorem step {server : Server} {action : Action} {inputs : Nat → Surroundings}
    (lasting : (token.expiresAt : Int) ≤ token.notBefore + webhookMaxCallbackTTL)
    (allowed : request.contract.allowed (insightOf thread) action)
    (punctual : Punctual (fleet, history) thread request action inputs) :
    let outcome := meaning server action inputs fleet
    ∃ next, request.contract.yields (insightOf thread) action outcome.1 next ∧
      CallbackHolds token (outcome.2, history.record request action outcome.1 (inputs 0).now)
        (Function.update insightOf thread next) := by
  obtain ⟨forward, early⟩ := punctual
  cases action with
  | call made =>
    have spared := callMeaning_redemptions made (inputs 0) fleet
    cases request with
    | resolve reject =>
      cases made
      case clockNow => exact hold.tick forward
      case enrollmentCallbackRedeem jti time =>
        obtain ⟨rfl, since⟩ := allowed
        exact hold.redeem forward (early rfl) lasting since
      case installKeyResolve tenantID id => exact hold.resolve forward tenantID id
      case installKeyIncrementUsage key => exact ⟨_, rfl, hold.use forward allowed⟩
      all_goals first
        | exact allowed.elim
        | exact ⟨_, rfl, hold.spare forward (spared (by rintro _ _ ⟨⟩) (by rintro _ ⟨⟩))⟩
    | resolveOther other differs reject =>
      cases made
      case clockNow => exact hold.tick forward
      case enrollmentCallbackRedeem jti time => exact hold.redeemOther forward allowed time
      case installKeyResolve tenantID id => exact hold.resolve forward tenantID id
      all_goals first
        | exact allowed.elim
        | exact ⟨_, rfl, hold.spare forward (spared (by rintro _ _ ⟨⟩) (by rintro _ ⟨⟩))⟩
    | cleanup =>
      cases made
      case clockNow => exact hold.tick forward
      case enrollmentCallbackCleanup before => exact ⟨_, rfl, hold.prune forward allowed⟩
      all_goals exact allowed.elim
  | transaction block =>
    have spared := transact_redemptions server block inputs fleet
    cases request with
    | resolve reject =>
      cases block
      case updateDeviceStatus tenantID uid status =>
        obtain ⟨rfl, rfl, ready⟩ := allowed
        exact ⟨_, rfl, hold.change forward ready server status inputs⟩
      all_goals exact allowed.elim
    | resolveOther other differs reject => exact ⟨_, rfl, hold.spare forward spared⟩
    | cleanup => exact allowed.elim

end CallbackHolds

/-- Every request makes the calls of its contract. -/
theorem CallbackRequest.program_meets {token : SignedToken} (request : CallbackRequest token) :
    request.program.Meets request.contract .blank fun _ _ => True := by
  cases request with
  | resolve reject => exact enrollmentCallback_spends reject
  | resolveOther other differs reject => exact enrollmentCallback_spares differs reject
  | cleanup => exact enrollmentCallbackCleanup_prunes

/-- A token lives for at most the time for which its redemption is recorded. -/
theorem enrollmentCallbackToken_lasting (key : InstallKey) (uid jti : String) (minted : Nat) :
    ((enrollmentCallbackToken key uid jti minted).expiresAt : Int) ≤
      (enrollmentCallbackToken key uid jti minted).notBefore + webhookMaxCallbackTTL := by
  have clamped := key.webhookCallbackTTLOrDefault_le
  simp only [enrollmentCallbackToken, encodeEnrollmentDecisionClaims]
  unfold webhookMaxCallbackTTL at clamped ⊢
  omega

/-- In every interleaving of callbacks with any tokens and of cleanups in which the token is
redeemed before it expires, the token changes a status at most once, whether or not its record was
pruned, and acts on the device, the tenant and the key it was minted for. At most one thread has
redeemed the token, and its record is there until the token has expired. -/
theorem callback_acts_once (server : Server) (key : InstallKey) (uid jti : String) (minted : Nat)
    (fleet : Fleet)
    (events : List (Event (CallbackRequest (enrollmentCallbackToken key uid jti minted))
      (Nat → Surroundings)))
    (punctual : (callbackSystem server (enrollmentCallbackToken key uid jti minted)).Along Punctual
      ⟨(fleet, .fresh), []⟩ events) :
    ∀ pool ∈ (callbackSystem server (enrollmentCallbackToken key uid jti minted)).reached
      ⟨(fleet, .fresh), []⟩ events,
      pool.shared.2.changes.length ≤ 1 ∧
      (∀ change ∈ pool.shared.2.changes, change.tenantID = key.tenantID ∧ change.uid = uid) ∧
      ∀ used ∈ pool.shared.2.keys, used = (key.tenantID, key.id) := by
  intro pool member
  have start : CallbackHolds (enrollmentCallbackToken key uid jti minted) (fleet, .fresh)
      fun _ => .blank := by
    refine ⟨⟨Nat.zero_le 1, ?_, ?_⟩, fun _ => Nat.le_refl 0, ?_, ?_, fun _ => rfl⟩
    · intro change none
      cases none
    · intro used none
      cases none
    · intro first _ holding
      exact absurd rfl holding
    · intro first holding
      exact absurd rfl holding
  obtain ⟨insightOf, hold, -⟩ := (callbackSystem server _).reached_of_threads (CallbackHolds _)
    CallbackRequest.program_meets
    (fun hold => hold.step (enrollmentCallbackToken_lasting key uid jti minted)) start punctual pool
    member
  exact ⟨hold.acts.once, hold.acts.device, hold.acts.key⟩

/-- A key whose webhook defers its decisions, with a lifetime beyond the maximum. -/
def deferredKey : InstallKey :=
  { siteKey with mode := .webhook, reusable := true, usageLimit := 0, webhookCallbackTTL := 100000 }

/-- A namespace with the key and a pending device. -/
def deferredFleet : Fleet :=
  { webFleet with
    namespaces := ⟨[⟨"acme", "acme", -1, false, fun status => if status = .pending then 1 else 0,
      []⟩], by decide⟩
    devices := ⟨[{ webDevice with status := .pending, installKeyID := "site" }], by decide⟩
    installKeys := ⟨[deferredKey], by decide⟩
    named := by decide
    housed := by decide }

/-- The token of the device. -/
abbrev deferredToken : SignedToken := enrollmentCallbackToken deferredKey "web" "jti" 100

/-- Steps of a thread without a fault, at a time. -/
def stepsAt {Request : Type} (now thread count : Nat) :
    List (Event Request (Nat → Surroundings)) :=
  List.replicate count (.step thread fun _ => quietAt now)

/-- The token is used twice while it is valid. Its record is pruned when it has expired, and it is
used once more. -/
def replayedEvents : List (Event (CallbackRequest deferredToken) (Nat → Surroundings)) :=
  [.start (.resolve true)] ++ stepsAt 100 0 5 ++ [.start (.resolve false)] ++ stepsAt 200 1 8 ++
    [.start .cleanup] ++ stepsAt 90000 2 2 ++ [.start (.resolve false)] ++ stepsAt 90000 3 8

/-- The token rejects the device, and both replays are refused. -/
theorem callback_acts_once_replayed :
    (((callbackSystem plainServer deferredToken).reached ⟨(deferredFleet, .fresh), []⟩
      replayedEvents).map fun pool => (pool.shared.1.redemptions, pool.shared.2.changes)).dedup =
        [([], []), ([("jti", 100)], []), ([("jti", 100)], [⟨"acme", "web", .rejected⟩]),
          ([], [⟨"acme", "web", .rejected⟩])] ∧
    ∀ pool ∈ (callbackSystem plainServer deferredToken).reached ⟨(deferredFleet, .fresh), []⟩
      replayedEvents,
      pool.shared.2.changes.length ≤ 1 ∧
      (∀ change ∈ pool.shared.2.changes,
        change.tenantID = deferredKey.tenantID ∧ change.uid = "web") ∧
      ∀ used ∈ pool.shared.2.keys, used = (deferredKey.tenantID, deferredKey.id) :=
  ⟨by decide +kernel,
    callback_acts_once plainServer deferredKey "web" "jti" 100 deferredFleet replayedEvents
      (by decide +kernel)⟩

/-- The token rejects the device. A second call verifies it in its last second, and redeems it after a
cleanup. -/
def lateEvents : List (Event (CallbackRequest deferredToken) (Nat → Surroundings)) :=
  [.start (.resolve true)] ++ stepsAt 100 0 5 ++ [.start (.resolve false)] ++ stepsAt 86499 1 2 ++
    [.start .cleanup] ++ stepsAt 86501 2 2 ++ stepsAt 86502 1 6

/-- The token changes the status of the device twice. -/
theorem late_redemption_acts_twice :
    (((callbackSystem plainServer deferredToken).reached ⟨(deferredFleet, .fresh), []⟩
      lateEvents).map fun pool => pool.shared.2.changes).dedup =
        [[], [⟨"acme", "web", .rejected⟩],
          [⟨"acme", "web", .accepted⟩, ⟨"acme", "web", .rejected⟩]] ∧
    (((callbackSystem plainServer deferredToken).reached ⟨(deferredFleet, .fresh), []⟩
      lateEvents).map fun pool => (pool.shared.1.devices.find "web").map Device.status).dedup =
        [some .pending, some .rejected, some .accepted] := by
  decide +kernel

end ShellHub.Devices
