import ShellHub.Connections
import ShellHub.Interleavings

/-!
# Handoffs of the web terminal

The web terminal is an SSH client inside the SSH server. It parks what the protocol cannot carry,
the browser's address and account, under the username it dials with, and the session on the other
side of the loopback takes it. An entry that nobody takes is removed by a timer.

The connections, the terminals and the timers run at the same time, one call after another. Between
two calls anything may happen to the store of devices and namespaces, so each call reads a store of
its own. The state keeps which handoffs were parked, and which connection has taken which.
-/

namespace ShellHub.WebHandoffs

open Programs Interleavings Connections
open Connections (Handoff Session Call)

/-- What runs: the terminal parks a handoff, the timer of an entry fires, or a connection comes in.
-/
inductive Op where
  | park (user : String) (data : Handoff)
  | expire (user : String)
  | connect (uid : String) (host : Option String) (sshid : String)

/-- A handoff that a connection has taken. -/
structure Claim where
  thread : Nat
  user : String
  data : Handoff
  deriving DecidableEq, Repr

/-- The entries, and what was parked and taken so far. -/
structure Store where
  entries : String → Option Handoff
  parked : List (String × Handoff)
  claims : List Claim

def Store.new : Store := ⟨fun _ => none, [], []⟩

/-- `NewSession` for a connection; `Put` and the function of the timer for the others. Deleting an
entry leaves what taking it leaves. -/
def program : Op → Access (Option (Except ConnectError Session))
  | .park user data => do
    call (.handoffPut user data)
    return none
  | .expire user => do
    let _ ← call (.handoffTake user)
    return none
  | .connect uid host sshid => do
    return some (← newSession uid host sshid)

/-- What a call adds to the claims. -/
def claimed (store : Store) (thread : Nat) : Op → Call → List Claim
  | .connect _ _ _, .handoffTake user =>
    match store.entries user with
    | none => []
    | some data => [⟨thread, user, data⟩]
  | _, _ => []

/-- What a call adds to what was parked. -/
def parks : Call → List (String × Handoff)
  | .handoffPut user data => [(user, data)]
  | _ => []

/-- The effect of a call, with the store of devices and namespaces it finds. -/
def effect (thread : Nat) (op : Op) : Meaning Call Call.Reply (Surroundings × Site) Store :=
  fun request input store =>
    let (reply, site) := meaning request input.1 { input.2 with handoffs := store.entries }
    (reply, ⟨site.handoffs, store.parked ++ parks request,
      store.claims ++ claimed store thread op request⟩)

def gateway : System Op Call Call.Reply (Option (Except ConnectError Session))
    (Surroundings × Site) Store := ⟨program, effect⟩

/-- The usernames of handoffs are distinct. -/
def Distinct (store : Store) (_ : Nat) (_ : Op) (request : Call) (_ : Surroundings × Site) : Prop :=
  match request with
  | .handoffPut user _ => user ∉ store.parked.map Prod.fst
  | _ => True

instance (store : Store) (thread : Nat) (op : Op) (request : Call)
    (input : Surroundings × Site) : Decidable (Distinct store thread op request input) :=
  match request with
  | .handoffPut _ _ => inferInstanceAs (Decidable (_ ∉ _))
  | .handoffTake _ | .deviceResolve _ | .namespaceResolveByName _ | .deviceResolveAccepted _ _
  | .namespaceResolve _ => .isTrue trivial

/-- What each kind of operation may call. Its ghost state is the handoff it has taken. -/
def duty : Op → Contract Call Call.Reply (Option Handoff)
  | .park user data =>
    { allowed := fun _ request => request = .handoffPut user data
      yields := fun taken _ _ next => next = taken }
  | .expire user =>
    { allowed := fun _ request => request = .handoffTake user
      yields := fun taken _ _ next => next = taken }
  | .connect _ host sshid =>
    { allowed := fun _ request =>
        match request with
        | .handoffPut _ _ => False
        | .handoffTake user => user = sshid ∧ host.any isLocalhost = true
        | _ => True
      yields := fun taken request reply next =>
        match request with
        | .handoffTake _ => next = reply
        | _ => next = taken }

/-- What a session carries: nothing of a handoff and its own address, or the complete handoff that
it has taken over the loopback. -/
inductive Carries (address : String) (taken : Option Handoff) (session : Session) : Prop where
  | own (web : session.web = false) (userID : session.userID = "")
      (ipAddress : session.ipAddress = address)
  | handoff (data : Handoff) (isTaken : taken = some data) (loopback : isLocalhost address = true)
      (device : data.device ≠ "") (ip : data.ip ≠ "") (web : session.web = true)
      (userID : session.userID = data.userID) (ipAddress : session.ipAddress = data.ip)
      (target : session.target.data = data.device)

/-- What holds of the result of an operation. -/
def Ends : Op → Option (Except ConnectError Session) → Option Handoff → Prop
  | .connect _ host _, result, taken =>
    ∀ session, result = some (.ok session) → ∃ address, host = some address ∧
      Carries address taken session
  | _, _, _ => True

/-! ## A connection alone -/

section Alone

variable {uid sshid : String} {host : Option String} {taken : Option Handoff}

/-- What a session is made of. -/
structure MadeOf (ip : String) (target : Target) (web : Bool) (userID : String)
    (session : Session) : Prop where
  ipAddress : session.ipAddress = ip
  target : session.target = target
  web : session.web = web
  userID : session.userID = userID

/-- From names on, a session is made of what is given, and no handoff is touched. -/
theorem openSession_made (ip : String) (target : Target) (web : Bool)
    (userID namespaceName deviceName : String) :
    (openSession uid ip target web userID namespaceName deviceName).Meets
      (duty (.connect uid host sshid)) taken fun result next =>
        next = taken ∧ ∀ session, result = .ok session → MadeOf ip target web userID session := by
  have looksUp : (lookupDevice namespaceName deviceName).Meets (duty (.connect uid host sshid))
      taken fun _ next => next = taken := by
    refine .perform trivial ?_
    rintro (error | owner) _ rfl
    · rfl
    refine ⟨trivial, ?_⟩
    rintro (error | device) _ rfl <;> rfl
  refine looksUp.bind ?_
  rintro (error | device) _ rfl
  · exact ⟨rfl, by rintro _ ⟨⟩⟩
  refine ⟨trivial, ?_⟩
  rintro (error | tenant) _ rfl
  · exact ⟨rfl, by rintro _ ⟨⟩⟩
  refine ⟨rfl, ?_⟩
  rintro _ ⟨⟩
  exact ⟨rfl, rfl, rfl, rfl⟩

/-- From an identifier on as well. -/
theorem openIdentified_made (ip : String) (target : Target) (web : Bool) (userID : String) :
    (openIdentified uid ip target web userID).Meets (duty (.connect uid host sshid)) taken
      fun result next =>
        next = taken ∧ ∀ session, result = .ok session → MadeOf ip target web userID session := by
  refine ⟨trivial, ?_⟩
  rintro (error | ⟨device, namespaceName⟩) _ rfl
  · exact ⟨rfl, by rintro _ ⟨⟩⟩
  exact openSession_made ip target web userID namespaceName device.name

theorem newSession_carries :
    (newSession uid host sshid).Meets (duty (.connect uid host sshid)) none fun result next =>
      ∀ session, result = .ok session → ∃ address, host = some address ∧
        Carries address next session := by
  unfold newSession
  cases host with
  | none => rintro _ ⟨⟩
  | some address =>
    dsimp only
    cases Target.new sshid with
    | error error => rintro _ ⟨⟩
    | ok target =>
      dsimp only
      -- a session of its own, however the device was named
      have own : ∀ (result : Except ConnectError Session) (next : Option Handoff),
          (next = none ∧ ∀ session, result = .ok session → MadeOf address target false "" session) →
          ∀ session, result = .ok session → ∃ own, some address = some own ∧
            Carries own next session := by
        rintro result next ⟨-, made⟩ session succeeded
        obtain ⟨ipAddress, -, web, userID⟩ := made session succeeded
        exact ⟨address, rfl, .own web userID ipAddress⟩
      split
      · split
        · rintro _ ⟨⟩
        · exact (openSession_made address target false "" _ _).mono own
      split
      · rename_i loopback
        refine .perform ⟨rfl, loopback⟩ ?_
        rintro (_ | data) _ rfl
        · rintro _ ⟨⟩
        dsimp only
        split
        · rintro _ ⟨⟩
        · rename_i complete
          obtain ⟨device, ip⟩ := not_or.mp complete
          refine (openIdentified_made data.ip { target with data := data.device } true
            data.userID).mono ?_
          rintro result _ ⟨rfl, made⟩ session succeeded
          obtain ⟨ipAddress, targets, web, userID⟩ := made session succeeded
          exact ⟨address, rfl, .handoff data rfl loopback device ip web userID ipAddress
            (by rw [targets])⟩
      · exact (openIdentified_made address target false "").mono own

theorem program_meets (op : Op) : (program op).Meets (duty op) none (Ends op) := by
  cases op with
  | park user data | expire user => exact ⟨rfl, fun _ _ _ => trivial⟩
  | connect uid host sshid =>
    refine newSession_carries.bind fun result next carries => ?_
    rintro session ⟨⟩
    exact carries session rfl

end Alone

/-! ## All together -/

/-- A connection has taken a handoff over the loopback, under the username that it presents. -/
def Presents (ghosts : List (Op × Option Handoff)) (claim : Claim) : Prop :=
  ∃ uid host taken, ghosts[claim.thread]? = some (.connect uid (some host) claim.user, taken) ∧
    isLocalhost host = true

/-- What is kept: an entry was parked and is not taken, a claim is of something parked, by a
loopback connection, and there is one at most for a username; what a connection has taken is a
claim. -/
structure Inv (store : Store) (ghosts : List (Op × Option Handoff)) : Prop where
  entries : ∀ user data, store.entries user = some data →
    (user, data) ∈ store.parked ∧ user ∉ store.claims.map Claim.user
  claims : ∀ claim ∈ store.claims, (claim.user, claim.data) ∈ store.parked ∧ Presents ghosts claim
  once : (store.claims.map Claim.user).Nodup
  takes : ∀ index uid host sshid data,
    ghosts[index]? = some (.connect uid host sshid, some data) →
      ⟨index, sshid, data⟩ ∈ store.claims

/-- Starting an operation and a step that leaves the operations as they are keep who presents. -/
theorem Presents.append {ghosts : List (Op × Option Handoff)} {claim : Claim}
    (presents : Presents ghosts claim) (more : List (Op × Option Handoff)) :
    Presents (ghosts ++ more) claim := by
  obtain ⟨uid, host, taken, found, loopback⟩ := presents
  refine ⟨uid, host, taken, ?_, loopback⟩
  rw [List.getElem?_append_left (List.getElem?_eq_some_iff.mp found).1]
  exact found

theorem Presents.set {ghosts : List (Op × Option Handoff)} {claim : Claim}
    (presents : Presents ghosts claim) {thread : Nat} {op : Op} {taken : Option Handoff}
    (found : ghosts[thread]? = some (op, taken)) (next : Option Handoff) :
    Presents (ghosts.set thread (op, next)) claim := by
  obtain ⟨uid, host, kept, present, loopback⟩ := presents
  by_cases same : thread = claim.thread
  · subst same
    cases found.symm.trans present
    exact ⟨uid, host, next, by rw [List.getElem?_set_self', present]; rfl, loopback⟩
  · exact ⟨uid, host, kept, by rw [List.getElem?_set_ne same]; exact present, loopback⟩

namespace Inv

variable {store : Store} {ghosts : List (Op × Option Handoff)}

theorem new : Inv .new [] := ⟨nofun, nofun, List.nodup_nil, nofun⟩

theorem starts (inv : Inv store ghosts) (op : Op) : Inv store (ghosts ++ [(op, none)]) := by
  refine ⟨inv.entries, fun claim member => ?_, inv.once, ?_⟩
  · obtain ⟨parked, presents⟩ := inv.claims claim member
    exact ⟨parked, presents.append _⟩
  · intro index uid host sshid data found
    rw [List.getElem?_append] at found
    split at found
    · exact inv.takes index uid host sshid data found
    · rw [List.getElem?_singleton] at found
      split at found <;> cases found

/-- A step that neither parks nor takes anything for a connection. It may remove an entry. -/
theorem lessen (inv : Inv store ghosts) {thread : Nat} {op : Op} {taken next : Option Handoff}
    (found : ghosts[thread]? = some (op, taken)) (same : next = taken ∨ next = none)
    {entries : String → Option Handoff}
    (fewer : ∀ user data, entries user = some data → store.entries user = some data) :
    Inv { store with entries } (ghosts.set thread (op, next)) := by
  refine ⟨fun user data left => inv.entries user data (fewer user data left),
    fun claim member => ?_, inv.once, ?_⟩
  · obtain ⟨parked, presents⟩ := inv.claims claim member
    exact ⟨parked, presents.set found next⟩
  · intro index uid host sshid data holds
    by_cases stepped : thread = index
    · rw [← stepped, List.getElem?_set_self', found] at holds
      cases holds
      rcases same with rfl | ⟨⟨⟩⟩
      exact inv.takes index uid host sshid data (stepped ▸ found)
    · rw [List.getElem?_set_ne stepped] at holds
      exact inv.takes _ _ _ _ _ holds

/-- A handoff is parked under a new username. -/
theorem park (inv : Inv store ghosts) {user : String} (data : Handoff)
    (fresh : user ∉ store.parked.map Prod.fst) :
    Inv { store with
      entries := Function.update store.entries user (some data)
      parked := store.parked ++ [(user, data)] } ghosts := by
  refine ⟨fun other stored found => ?_, fun claim member => ?_, inv.once, inv.takes⟩
  · by_cases same : other = user
    · subst same
      dsimp only at found
      rw [Function.update_self] at found
      cases found
      refine ⟨List.mem_append_right _ List.mem_cons_self, fun claimed => fresh ?_⟩
      obtain ⟨claim, member, rfl⟩ := List.mem_map.mp claimed
      exact List.mem_map.mpr ⟨_, (inv.claims claim member).1, rfl⟩
    · dsimp only at found
      rw [Function.update_of_ne same] at found
      obtain ⟨parked, unclaimed⟩ := inv.entries other stored found
      exact ⟨List.mem_append_left _ parked, unclaimed⟩
  · obtain ⟨parked, presents⟩ := inv.claims claim member
    exact ⟨List.mem_append_left _ parked, presents⟩

/-- A connection takes the handoff parked under its username. -/
theorem take (inv : Inv store ghosts) {thread : Nat} {uid host user : String}
    {taken : Option Handoff} {data : Handoff}
    (found : ghosts[thread]? = some (.connect uid (some host) user, taken))
    (loopback : isLocalhost host = true) (stored : store.entries user = some data) :
    Inv { store with
      entries := Function.update store.entries user none
      claims := store.claims ++ [⟨thread, user, data⟩] }
      (ghosts.set thread (.connect uid (some host) user, some data)) := by
  obtain ⟨parked, unclaimed⟩ := inv.entries user data stored
  have now : (ghosts.set thread (.connect uid (some host) user, some data))[thread]? =
      some (.connect uid (some host) user, some data) := by
    rw [List.getElem?_set_self', found]
    rfl
  refine ⟨fun other left remains => ?_, fun claim member => ?_, ?_, ?_⟩
  · dsimp only at remains ⊢
    have different : other ≠ user := by
      rintro rfl
      rw [Function.update_self] at remains
      cases remains
    rw [Function.update_of_ne different] at remains
    obtain ⟨kept, free⟩ := inv.entries other left remains
    simp [kept, free, different]
  · rcases List.mem_append.mp member with old | new
    · obtain ⟨kept, presents⟩ := inv.claims claim old
      exact ⟨kept, presents.set found _⟩
    · rw [List.mem_singleton.mp new]
      exact ⟨parked, uid, host, _, now, loopback⟩
  · dsimp only
    rw [List.map_append, List.map_singleton]
    refine List.nodup_append.mpr ⟨inv.once, List.nodup_singleton _, ?_⟩
    rintro other claimed _ isUser rfl
    cases List.mem_singleton.mp isUser
    exact unclaimed claimed
  · intro index uid' host' sshid' data' holds
    by_cases same : thread = index
    · subst same
      cases now.symm.trans holds
      exact List.mem_append_right _ List.mem_cons_self
    · rw [List.getElem?_set_ne same] at holds
      exact List.mem_append_left _ (inv.takes _ _ _ _ _ holds)

end Inv

/-- Removing an entry leaves no new one. -/
theorem removed_fewer (entries : String → Option Handoff) (removed : String) :
    ∀ user data, Function.update entries removed none user = some data →
      entries user = some data := by
  intro user data left
  by_cases same : user = removed
  · rw [same, Function.update_self] at left
    cases left
  · rwa [Function.update_of_ne same] at left

/-- All interleavings keep the invariant, if the usernames of handoffs are distinct. -/
def outline : gateway.Outline (Option Handoff) Distinct where
  contract := duty
  initial := fun _ => none
  ends := Ends
  inv := Inv
  meets := program_meets
  starts := fun _ _ op inv => inv.starts op
  steps := by
    rintro ⟨entries, parked, claims⟩ ghosts thread op taken request ⟨around, site⟩ inv found allowed
      distinct
    cases op with
    | park user data =>
      cases allowed
      refine ⟨taken, rfl, ?_⟩
      have kept := (inv.park data distinct).lessen found (.inl rfl) fun _ _ => id
      simpa [gateway, effect, meaning, parks, claimed] using kept
    | expire user =>
      cases allowed
      refine ⟨taken, rfl, ?_⟩
      have kept := inv.lessen found (.inl rfl) (removed_fewer entries user)
      simpa [gateway, effect, meaning, parks, claimed] using kept
    | connect uid host sshid =>
      have quiet := inv.lessen found (.inl rfl) fun _ _ => id
      cases request with
      | handoffPut user data => exact allowed.elim
      | handoffTake user =>
        obtain ⟨rfl, loopback⟩ := allowed
        refine ⟨entries user, rfl, ?_⟩
        cases stored : entries user with
        | none =>
          have kept := inv.lessen found (.inr rfl) (removed_fewer entries user)
          simpa [gateway, effect, meaning, parks, claimed, stored] using kept
        | some data =>
          cases host with
          | none => cases loopback
          | some address =>
            have kept := inv.take found loopback stored
            simpa [gateway, effect, meaning, parks, claimed, stored] using kept
      | deviceResolve _ | namespaceResolveByName _ | deviceResolveAccepted _ _
      | namespaceResolve _ =>
        exact ⟨taken, rfl, by simpa [gateway, effect, meaning, parks, claimed] using quiet⟩

/-- A web handoff reaches only the session of the connection that presents its username over the
loopback. In every interleaving of the terminals, the timers and the connections: each handoff is
taken at most once, by a loopback connection with exactly its username; a session either carries
nothing of a handoff and its peer's own address, or a complete handoff that its connection has
taken; and the session of a peer that is not local is of the first kind. A connection takes an entry
out of the map in one step, so a username that is parked once is claimed once. -/
theorem handoffs_reach_own_session (events : List (Event Op (Surroundings × Site)))
    (distinct : gateway.Along Distinct ⟨.new, []⟩ events) :
    ∀ pool ∈ gateway.reached ⟨.new, []⟩ events,
      (pool.shared.claims.map Claim.user).Nodup ∧
      (∀ claim ∈ pool.shared.claims, (claim.user, claim.data) ∈ pool.shared.parked ∧
        ∃ uid host rest,
          pool.threads[claim.thread]? = some ⟨.connect uid (some host) claim.user, rest⟩ ∧
            isLocalhost host = true) ∧
      ∀ (index : Nat) uid host sshid rest session,
        pool.threads[index]? = some ⟨.connect uid host sshid, rest⟩ →
        rest = .done (some (.ok session)) →
          ∃ address, host = some address ∧
            (session.web = false ∧ session.userID = "" ∧ session.ipAddress = address ∨
              isLocalhost address = true ∧ session.web = true ∧
                ∃ data, ⟨index, sshid, data⟩ ∈ pool.shared.claims ∧ data.device ≠ "" ∧
                  data.ip ≠ "" ∧ session.target.data = data.device ∧
                  session.ipAddress = data.ip ∧ session.userID = data.userID) := by
  intro pool reached
  obtain ⟨ghosts, fits, inv⟩ :=
    outline.holds_reached (outline.holds_start Inv.new) distinct pool reached
  refine ⟨inv.once, fun claim member => ?_, ?_⟩
  · obtain ⟨parked, uid, host, taken, found, loopback⟩ := inv.claims claim member
    have inside : claim.thread < pool.threads.length := by
      rw [← fits.1]
      exact (List.getElem?_eq_some_iff.mp found).1
    obtain ⟨ghost, fitting, -⟩ := fits.2 _ _ (List.getElem?_eq_getElem inside)
    refine ⟨parked, uid, host, pool.threads[claim.thread].rest, ?_, loopback⟩
    rw [List.getElem?_eq_getElem inside]
    have same : pool.threads[claim.thread].op = .connect uid (some host) claim.user :=
      congrArg Prod.fst (Option.some.inj (fitting.symm.trans found))
    rw [← same]
  · rintro index uid host sshid _ session found rfl
    obtain ⟨taken, holds, ends⟩ := fits.ended outline found rfl
    obtain ⟨address, rfl, carries⟩ := ends session rfl
    refine ⟨address, rfl, ?_⟩
    cases carries with
    | own web userID ipAddress => exact .inl ⟨web, userID, ipAddress⟩
    | handoff data isTaken loopback device ip web userID ipAddress target =>
      subst isTaken
      exact .inr ⟨loopback, web, data, inv.takes _ _ _ _ _ holds, device, ip, target, ipAddress,
        userID⟩

/-- The terminal parks its data, an outsider presents the same username, and then the terminal's own
connection does. -/
def intrusion : List (Event Op (Surroundings × Site)) :=
  let input : Surroundings × Site := (⟨none, 0⟩, hallSite)
  [.start (.park "root@dial" ⟨"old", "10.0.0.1", "ada"⟩), .step 0 input,
    .start (.connect "outsider" (some "192.0.2.1") "root@dial"), .step 1 input,
    .start (.connect "own" (some "::1") "root@dial"), .step 2 input, .step 2 input, .step 2 input,
    .step 2 input, .step 2 input]

theorem handoffs_reach_own_session_despite_intrusion :
    (∃ pool ∈ gateway.reached ⟨.new, []⟩ intrusion,
      pool.shared.claims = [⟨2, "root@dial", ⟨"old", "10.0.0.1", "ada"⟩⟩] ∧
        pool.threads.map (fun thread => thread.result.map fun result => result.map Except.isOk) =
          [some none, some (some false), some (some true)]) ∧
    ∀ pool ∈ gateway.reached ⟨.new, []⟩ intrusion,
      (pool.shared.claims.map Claim.user).Nodup :=
  ⟨by decide +kernel, fun pool reached =>
    (handoffs_reach_own_session intrusion (by decide +kernel) pool reached).1⟩

end ShellHub.WebHandoffs
