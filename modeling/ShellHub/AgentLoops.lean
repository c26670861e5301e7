import ShellHub.Sequences

/-!
# The loops of an agent that listens

`Listen` starts two loops and waits for its context. The listen loop connects to the server, hands
the ping loop a notice that it listens, serves the connection until it ends, hands over a second
notice, and starts again; it returns at its next test of the closed flag. The ping loop makes the
channel of the notices, waits for the first one, and then takes notices and ticks until it sees the
flag or the end of the caller's context.

The channel has no buffer, so a notice needs a ping loop that takes it. If `Close` comes while the
ping loop is not in its select, the ping loop sees the flag and returns, the listen loop waits for
ever with its last notice, and `Listen` never returns. This module proves that the agent stops if
`Close` comes while the ping loop waits for a notice, or while there is no connection.

An attempt to connect ends, in success or in failure. A served connection ends by itself or when its
listener is closed. The ticker may fire at any time.
-/

namespace ShellHub.AgentLoops

open Sequences

/-- Where the goroutine of `listenV1` and `listenV2` is. -/
inductive ListenLoop where
  | checking
  | connecting
  /-- it has a listener that is not stored yet -/
  | connected
  | notifying (listening : Bool)
  | serving
  /-- it sends on the channel before there is one, which lasts for ever -/
  | blocked
  | returned
  deriving DecidableEq, Repr

/-- Where `ping` is. -/
inductive PingLoop where
  | starting
  /-- it waits for the first notice -/
  | waiting
  | checking
  | selecting
  | authorizing
  | returned
  deriving DecidableEq, Repr

/-- Where the call of `Listen` is: it waits for its context, is inside `Close`, or has returned. -/
inductive Listen where
  | waiting
  | closing
  | returned
  deriving DecidableEq, Repr

structure Agent where
  closed : Bool
  /-- the caller's context is done -/
  cancelled : Bool
  /-- the listen loop has cancelled the context that `Listen` waits for -/
  stopped : Bool
  /-- the stored listener is closed -/
  shut : Bool
  /-- the served connection has ended by itself -/
  ended : Bool
  /-- calls of `Close` that have set the flag and not yet loaded the listener -/
  closing : Nat
  listenLoop : ListenLoop
  pingLoop : PingLoop
  listen : Listen
  deriving DecidableEq, Repr

/-- The steps of the agent's goroutines. -/
inductive Step where
  | loopChecks
  | attemptFails
  | store
  /-- the ping loop takes the notice of the listen loop -/
  | handOver
  /-- `tun.Listen` returns -/
  | served
  | makeChannel
  | pingChecks
  | pingDone
  | tick
  | authorized
  | listenDone
  | listenLoads
  | load
  deriving DecidableEq, Repr

inductive Event where
  | close
  | cancel
  | connects
  | connectionEnds
  | own (step : Step)
  deriving DecidableEq, Repr

namespace Agent

/-- `Listen` has started both loops. -/
def started : Agent :=
  ⟨false, false, false, false, false, 0, .checking, .starting, .waiting⟩

/-- A send on `a.listening`, which is nil until `ping` has made the channel. -/
def notify (agent : Agent) (listening : Bool) : Agent :=
  { agent with
    listenLoop := if agent.pingLoop = .starting then .blocked else .notifying listening }

/-- A step of the agent, if it can be taken. -/
def take (agent : Agent) : Step → Agent
  | .loopChecks =>
    if agent.listenLoop ≠ .checking then agent
    else if agent.closed then { agent with stopped := true, listenLoop := .returned }
    else { agent with listenLoop := .connecting }
  | .attemptFails =>
    if agent.listenLoop = .connecting then { agent with listenLoop := .checking } else agent
  | .store =>
    if agent.listenLoop = .connected then
      { agent with shut := false, ended := false }.notify true
    else agent
  | .handOver =>
    if agent.pingLoop = .waiting ∨ agent.pingLoop = .selecting then
      match agent.listenLoop with
      | .notifying true => { agent with listenLoop := .serving, pingLoop := .checking }
      | .notifying false => { agent with listenLoop := .checking, pingLoop := .checking }
      | _ => agent
    else agent
  | .served =>
    if agent.listenLoop = .serving ∧ (agent.shut || agent.ended) = true then agent.notify false
    else agent
  | .makeChannel =>
    if agent.pingLoop = .starting then { agent with pingLoop := .waiting } else agent
  | .pingChecks =>
    if agent.pingLoop = .checking then
      { agent with pingLoop := if agent.closed then .returned else .selecting }
    else agent
  | .pingDone =>
    if agent.pingLoop = .selecting ∧ agent.cancelled = true then { agent with pingLoop := .returned }
    else agent
  | .tick =>
    if agent.pingLoop = .selecting then { agent with pingLoop := .authorizing } else agent
  | .authorized =>
    if agent.pingLoop = .authorizing then { agent with pingLoop := .checking } else agent
  | .listenDone =>
    if agent.listen = .waiting ∧ (agent.cancelled || agent.stopped) = true then
      { agent with closed := true, listen := .closing }
    else agent
  | .listenLoads =>
    if agent.listen = .closing then { agent with shut := true, listen := .returned } else agent
  | .load =>
    if agent.closing = 0 then agent
    else { agent with shut := true, closing := agent.closing - 1 }

def next (agent : Agent) : Event → Agent
  | .close => { agent with closed := true, closing := agent.closing + 1 }
  | .cancel => { agent with cancelled := true }
  | .connects =>
    if agent.listenLoop = .connecting then { agent with listenLoop := .connected } else agent
  | .connectionEnds => { agent with ended := true }
  | .own step => agent.take step

/-- There is a connection, and the listen loop still has a notice to hand over. -/
def Up (agent : Agent) : Prop :=
  agent.listenLoop = .connected ∨ agent.listenLoop = .notifying true ∨
    agent.listenLoop = .serving ∨ agent.listenLoop = .notifying false ∨ agent.listenLoop = .blocked

instance (agent : Agent) : Decidable agent.Up :=
  inferInstanceAs (Decidable (_ ∨ _ ∨ _ ∨ _ ∨ _))

/-- The ping loop waits for the notice that the connection has ended. -/
def Settled (agent : Agent) : Prop :=
  (agent.listenLoop = .serving ∨ agent.listenLoop = .notifying false) ∧
    agent.pingLoop = .selecting

instance (agent : Agent) : Decidable agent.Settled :=
  inferInstanceAs (Decidable ((_ ∨ _) ∧ _))

/-- The listen loop waits to hand over a notice that nobody will take. -/
def Stuck (agent : Agent) : Prop :=
  agent.listenLoop = .blocked ∨
    (∃ listening, agent.listenLoop = .notifying listening) ∧ agent.pingLoop = .returned

/-- How far the listen loop is from its return once the flag is set. -/
def loopLeft (agent : Agent) : Nat :=
  match agent.listenLoop with
  | .returned => 0
  | .checking => 1
  | .connecting => 2
  | .notifying false => 3
  | .serving => if agent.shut then 4 else 5
  | .connected | .notifying true | .blocked => 6

def listenLeft (agent : Agent) : Nat :=
  match agent.listen with
  | .returned => 0
  | .closing => 1
  | .waiting => 2

def remaining (agent : Agent) : Nat := agent.loopLeft + agent.listenLeft

end Agent

/-- The flag is set while there is no connection or while the ping loop waits for the notice of its
end. An attempt succeeds only while the flag is not set and there is a ping loop to take notices.
While there is a connection, the ping loop does not leave on the caller's context, and takes no tick
once the flag is set. -/
def Timely (agent : Agent) : Event → Prop
  | .close | .own .listenDone => agent.closed = true ∨ ¬ agent.Up ∨ agent.Settled
  | .connects =>
    agent.closed = false ∧ agent.pingLoop ≠ .starting ∧ agent.pingLoop ≠ .returned
  | .own .pingDone => ¬ agent.Up
  | .own .tick => agent.closed = false ∨ ¬ agent.Up
  | _ => True

instance (agent : Agent) : (event : Event) → Decidable (Timely agent event)
  | .close | .own .listenDone => inferInstanceAs (Decidable (_ ∨ _ ∨ _))
  | .connects => inferInstanceAs (Decidable (_ ∧ _ ∧ _))
  | .own .pingDone => inferInstanceAs (Decidable (¬ _))
  | .own .tick => inferInstanceAs (Decidable (_ ∨ _))
  | .cancel | .connectionEnds | .own .loopChecks | .own .attemptFails | .own .store
  | .own .handOver | .own .served | .own .makeChannel | .own .pingChecks | .own .authorized
  | .own .listenLoads | .own .load => .isTrue trivial

/-- What is kept: a connection has a ping loop that has made the channel; once the flag is set, that
loop waits for the last notice, and somebody has closed the listener or is about to; and the listen
loop has cancelled the context when it returns. -/
structure Agent.Inv (agent : Agent) : Prop where
  attended : agent.Up → agent.listenLoop ≠ .blocked ∧ agent.pingLoop ≠ .starting ∧
    agent.pingLoop ≠ .returned
  settled : agent.closed = true → agent.Up → agent.Settled
  shutting : agent.closed = true → agent.listenLoop = .serving →
    agent.shut = true ∨ 0 < agent.closing ∨ agent.listen = .closing
  stopped : agent.listenLoop = .returned → agent.stopped = true

section Steps

variable {agent : Agent}

/-- Without a connection there is little to keep. -/
theorem Agent.Inv.of_down (down : ¬ agent.Up)
    (stopped : agent.listenLoop = .returned → agent.stopped = true) : agent.Inv where
  attended up := absurd up down
  settled _ up := absurd up down
  shutting _ serving := absurd (.inr (.inr (.inl serving))) down
  stopped := stopped

section Invariant

variable (inv : agent.Inv)

include inv

/-- The flag is not set while a connection is up and the ping loop is elsewhere. -/
theorem Agent.Inv.open_ (up : agent.Up) (busy : ¬ agent.Settled) : agent.closed = false :=
  Bool.eq_false_iff.mpr fun closed => busy (inv.settled closed up)

/-- The flag may be set when there is no connection or the ping loop waits for the last notice, by
somebody who then closes the listener. -/
theorem Agent.Inv.flag (timely : agent.closed = true ∨ ¬ agent.Up ∨ agent.Settled) (closing : Nat)
    (listen : Listen) (pending : 0 < closing ∨ listen = .closing) :
    Agent.Inv { agent with closed := true, closing, listen } := by
  refine ⟨inv.attended, fun _ up => ?_, fun _ _ => .inr pending, inv.stopped⟩
  rcases timely with closed | down | settled
  · exact inv.settled closed up
  · exact absurd up down
  · exact settled

/-- The ping loop may move as long as it does not leave a connection, and stays in its select if
the flag is set. -/
theorem Agent.Inv.pingMoves {pingLoop : PingLoop} (made : pingLoop ≠ .starting)
    (stays : agent.Up → pingLoop ≠ .returned ∧ agent.closed = false) :
    Agent.Inv { agent with pingLoop } := by
  refine ⟨fun up => ⟨(inv.attended up).1, made, (stays up).1⟩, fun closed up => ?_, inv.shutting,
    inv.stopped⟩
  cases closed.symm.trans (stays up).2

theorem Agent.Inv.shuts (closing : Nat) (listen : Listen) :
    Agent.Inv { agent with shut := true, closing, listen } :=
  ⟨inv.attended, inv.settled, fun _ _ => .inl rfl, inv.stopped⟩

/-- The steps of the listen loop alone and of both loops together. -/
theorem Agent.Inv.takeLoop {step : Step}
    (loops : step ∈ [.loopChecks, .attemptFails, .store, .handOver, .served]) :
    (agent.take step).Inv := by
  simp only [List.mem_cons, List.not_mem_nil, or_false] at loops
  rcases loops with rfl | rfl | rfl | rfl | rfl
  · dsimp only [Agent.take]
    split
    · exact inv
    split
    · exact .of_down (by simp [Agent.Up]) (fun _ => rfl)
    · exact .of_down (by simp [Agent.Up]) (by simp)
  · dsimp only [Agent.take]
    split
    · exact .of_down (by simp [Agent.Up]) (by simp)
    · exact inv
  · dsimp only [Agent.take]
    split
    · rename_i connected
      have up : agent.Up := .inl connected
      obtain ⟨-, made, there⟩ := inv.attended up
      have opened := inv.open_ up (by simp [Agent.Settled, connected])
      rw [Agent.notify, if_neg made]
      exact ⟨fun _ => ⟨by simp, made, there⟩, by simp [opened], by simp, by simp⟩
    · exact inv
  · dsimp only [Agent.take]
    split
    · split
      · rename_i notifying
        have opened := inv.open_ (.inr (.inl notifying)) (by simp [Agent.Settled, notifying])
        exact ⟨fun _ => ⟨by simp, by simp, by simp⟩, by simp [opened], by simp [opened], by simp⟩
      · exact .of_down (by simp [Agent.Up]) (by simp)
      · exact inv
    · exact inv
  · dsimp only [Agent.take]
    split
    · rename_i serving
      have up : agent.Up := .inr (.inr (.inl serving.1))
      obtain ⟨-, made, there⟩ := inv.attended up
      rw [Agent.notify, if_neg made]
      exact ⟨fun _ => ⟨by simp, made, there⟩,
        fun closed _ => ⟨.inr rfl, (inv.settled closed up).2⟩, by simp, by simp⟩
    · exact inv

theorem Agent.Inv.take {step : Step} (timely : Timely agent (.own step)) :
    (agent.take step).Inv := by
  cases step with
  | loopChecks | attemptFails | store | handOver | served => exact inv.takeLoop (by decide)
  | makeChannel =>
    dsimp only [Agent.take]
    split
    · rename_i starting
      exact inv.pingMoves (by simp) fun up => absurd starting (inv.attended up).2.1
    · exact inv
  | pingChecks =>
    dsimp only [Agent.take]
    split
    · rename_i checking
      -- with the flag set the loop returns, so a connection must not be up
      have opened (up : agent.Up) := inv.open_ up (by simp [Agent.Settled, checking])
      refine inv.pingMoves (by split <;> simp) fun up => ⟨?_, opened up⟩
      simp [opened up]
    · exact inv
  | pingDone =>
    dsimp only [Agent.take]
    split
    · exact inv.pingMoves (by simp) fun up => absurd up timely
    · exact inv
  | tick =>
    dsimp only [Agent.take]
    split
    · exact inv.pingMoves (by simp) fun up => ⟨by simp, timely.resolve_right (absurd up)⟩
    · exact inv
  | authorized =>
    dsimp only [Agent.take]
    split
    · rename_i authorizing
      exact inv.pingMoves (by simp) fun up =>
        ⟨by simp, inv.open_ up (by simp [Agent.Settled, authorizing])⟩
    · exact inv
  | listenDone =>
    dsimp only [Agent.take]
    split
    · exact inv.flag timely _ _ (.inr rfl)
    · exact inv
  | listenLoads =>
    dsimp only [Agent.take]
    split
    · exact inv.shuts _ _
    · exact inv
  | load =>
    dsimp only [Agent.take]
    split
    · exact inv
    · exact inv.shuts _ _

end Invariant

theorem Agent.Inv.next (agent : Agent) (event : Event) (inv : agent.Inv)
    (timely : Timely agent event) : (agent.next event).Inv := by
  cases event with
  | close => exact inv.flag timely _ _ (.inl (Nat.succ_pos _))
  | cancel | connectionEnds => exact ⟨inv.attended, inv.settled, inv.shutting, inv.stopped⟩
  | connects =>
    obtain ⟨opened, made, there⟩ := timely
    dsimp only [Agent.next]
    split
    · exact ⟨fun _ => ⟨by simp, made, there⟩, by simp [opened], by simp, by simp⟩
    · exact inv
  | own step => exact inv.take timely

theorem Agent.Inv.not_stuck (inv : agent.Inv) : ¬ agent.Stuck := by
  rintro (blocked | ⟨⟨listening, notifying⟩, gone⟩)
  · exact (inv.attended (by simp [Agent.Up, blocked])).1 blocked
  · exact (inv.attended (by cases listening <;> simp [Agent.Up, notifying])).2.2 gone

/-- Once the flag is set, no event takes the agent farther from its end. -/
theorem Agent.Inv.remaining_next_le (inv : agent.Inv) (closed : agent.closed = true) {event : Event}
    (timely : Timely agent event) : (agent.next event).remaining ≤ agent.remaining := by
  cases event with
  | close | cancel | connectionEnds => exact Nat.le_refl _
  | connects => cases closed.symm.trans timely.1
  | own step =>
    cases step with
    | makeChannel | pingChecks | pingDone | tick | authorized =>
      simp only [Agent.next, Agent.take]
      split <;> exact Nat.le_refl _
    | loopChecks | attemptFails | listenDone | listenLoads | load =>
      simp only [Agent.next, Agent.take]
      grind [Agent.remaining, Agent.loopLeft, Agent.listenLeft]
    | handOver =>
      simp only [Agent.next, Agent.take]
      grind [Agent.remaining, Agent.loopLeft, Agent.listenLeft]
    | store =>
      simp only [Agent.next, Agent.take]
      split
      · rename_i connected
        obtain ⟨early | early, -⟩ := inv.settled closed (.inl connected) <;>
          cases connected.symm.trans early
      · exact Nat.le_refl _
    | served =>
      simp only [Agent.next, Agent.take]
      split
      · rename_i serving
        have made := (inv.attended (.inr (.inr (.inl serving.1)))).2.1
        simp only [Agent.notify, if_neg made, Agent.remaining, Agent.loopLeft, Agent.listenLeft,
          serving.1]
        grind
      · exact Nat.le_refl _

/-- Once the flag is set, some step of the agent brings it closer to its end. -/
theorem Agent.Inv.progress (inv : agent.Inv) (closed : agent.closed = true)
    (running : agent.listen ≠ .returned) :
    ∃ step, Timely agent (.own step) ∧ (agent.take step).remaining < agent.remaining := by
  -- a connection has only the last notice ahead of it
  have settled (up : agent.Up) := inv.settled closed up
  cases loop : agent.listenLoop with
  | returned =>
    have stopped := inv.stopped loop
    cases listen : agent.listen with
    | waiting =>
      refine ⟨.listenDone, .inl closed, ?_⟩
      simp [Agent.take, Agent.remaining, Agent.loopLeft, Agent.listenLeft, listen, loop, stopped]
    | closing =>
      refine ⟨.listenLoads, trivial, ?_⟩
      simp [Agent.take, Agent.remaining, Agent.loopLeft, Agent.listenLeft, listen, loop]
    | returned => exact absurd listen running
  | checking =>
    refine ⟨.loopChecks, trivial, ?_⟩
    simp [Agent.take, Agent.remaining, Agent.loopLeft, Agent.listenLeft, loop, closed]
  | connecting =>
    refine ⟨.attemptFails, trivial, ?_⟩
    simp [Agent.take, Agent.remaining, Agent.loopLeft, Agent.listenLeft, loop]
  | connected => simpa [Agent.Settled, loop] using settled (.inl loop)
  | blocked => exact absurd loop (inv.attended (by simp [Agent.Up, loop])).1
  | notifying listening =>
    cases listening with
    | true => simpa [Agent.Settled, loop] using settled (.inr (.inl loop))
    | false =>
      have selecting := (settled (by simp [Agent.Up, loop])).2
      refine ⟨.handOver, trivial, ?_⟩
      simp [Agent.take, Agent.remaining, Agent.loopLeft, Agent.listenLeft, loop, selecting]
  | serving =>
    have up : agent.Up := .inr (.inr (.inl loop))
    obtain ⟨-, made, -⟩ := inv.attended up
    by_cases shut : agent.shut = true
    · refine ⟨.served, trivial, ?_⟩
      simp [Agent.take, Agent.notify, Agent.remaining, Agent.loopLeft, Agent.listenLeft, loop, shut,
        made]
    -- somebody has set the flag and is about to close the listener
    rcases (inv.shutting closed loop).resolve_left shut with pending | closing
    · refine ⟨.load, trivial, ?_⟩
      simp [Agent.take, Agent.remaining, Agent.loopLeft, Agent.listenLeft, loop, shut,
        Nat.ne_of_gt pending]
    · refine ⟨.listenLoads, trivial, ?_⟩
      simp [Agent.take, Agent.remaining, Agent.loopLeft, Agent.listenLeft, loop, shut, closing]

end Steps

/-- The listen loop never waits with a notice that nobody will take; and once the flag is set, some
step of the agent brings `Listen` closer to its return until it has returned, and no event undoes
that. This covers every run, with any interleaving, that meets the condition. The invariant ties the
flag to the place of the ping loop, and the number of steps that remain falls. -/
theorem agent_never_stuck (events : List Event)
    (timely : Along Agent.next Timely Agent.started events) :
    ∀ agent ∈ visited Agent.next Agent.started events, ¬ agent.Stuck ∧
      (agent.closed = true →
        (∀ event, Timely agent event → (agent.next event).remaining ≤ agent.remaining) ∧
        (agent.listen ≠ .returned → ∃ step, Timely agent (.own step) ∧
          (agent.take step).remaining < agent.remaining)) := by
  have start : Agent.started.Inv := .of_down (by decide) (by decide)
  intro agent member
  have inv := visited_keeps Agent.Inv.next start timely agent member
  exact ⟨inv.not_stuck, fun closed =>
    ⟨fun _ timely => inv.remaining_next_le closed timely, inv.progress closed⟩⟩

/-- The agent connects, and the ping loop takes the notice. -/
def serves : List Event :=
  [.own .makeChannel, .own .loopChecks, .connects, .own .store, .own .handOver]

/-- The agent is closed while the ping loop waits for a notice, and stops. -/
def stopsInTime : List Event :=
  serves ++ [.own .pingChecks, .close, .own .load, .own .served, .own .handOver, .own .pingChecks,
    .own .loopChecks, .own .listenDone, .own .listenLoads]

theorem agent_never_stuck_in_time :
    ((visited Agent.next Agent.started stopsInTime).getLast?.map fun agent =>
      (agent.listenLoop, agent.pingLoop, agent.listen)) = some (.returned, .returned, .returned) ∧
    ∀ agent ∈ visited Agent.next Agent.started stopsInTime, ¬ agent.Stuck ∧
      (agent.closed = true →
        (∀ event, Timely agent event → (agent.next event).remaining ≤ agent.remaining) ∧
        (agent.listen ≠ .returned → ∃ step, Timely agent (.own step) ∧
          (agent.take step).remaining < agent.remaining)) :=
  ⟨by decide +kernel, agent_never_stuck stopsInTime (by decide +kernel)⟩

/-- The agent is closed before the ping loop tests the flag; or it connects before the ping loop has
made the channel. In both runs the listen loop waits for ever, and no step of the agent is left. -/
theorem closed_agent_stuck :
    (∃ agent ∈ visited Agent.next Agent.started
        (serves ++ [.close, .own .load, .own .pingChecks, .own .served]),
      agent.closed = true ∧ agent.listenLoop = .notifying false ∧ agent.pingLoop = .returned ∧
        agent.listen = .waiting ∧ ∀ step, agent.take step = agent) ∧
    ∃ agent ∈ visited Agent.next Agent.started
        [.own .loopChecks, .connects, .own .store, .own .makeChannel, .close, .own .load],
      agent.closed = true ∧ agent.listenLoop = .blocked ∧ agent.listen = .waiting ∧
        ∀ step, agent.take step = agent :=
  ⟨⟨_, List.mem_of_getLast? rfl, rfl, rfl, rfl, rfl, fun step => by cases step <;> rfl⟩,
    ⟨_, List.mem_of_getLast? rfl, rfl, rfl, rfl, fun step => by cases step <;> rfl⟩⟩

end ShellHub.AgentLoops
