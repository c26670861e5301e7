import ShellHub.ReverseDials

/-!
# Where a picked-up connection goes

The handler of a connection looks up the slot of its identifier once and then waits for the dial, or
for the end of the dialer. It returns without the connection if there is no slot, and it never
closes one. So a connection is in good hands only if the dial has stored its slot when the handler
looks, and if neither of them leaves its select before they have met.
-/

namespace ShellHub.ReverseDials

open Sequences

/-- A dial has its slot and has not left its second select. -/
def World.Awaiting (world : World) (uuid : String) : Prop :=
  world.dials uuid = some .stored ∨ world.dials uuid = some .waiting

instance (world : World) (uuid : String) : Decidable (world.Awaiting uuid) :=
  inferInstanceAs (Decidable (_ ∨ _))

/-- A connection is being handed over to a dial. -/
def World.Offered (world : World) (uuid : String) : Prop :=
  ∃ connection ∈ world.connections, connection.uuid = uuid ∧ connection.handler = .offering

instance (world : World) (uuid : String) : Decidable (world.Offered uuid) :=
  inferInstanceAs (Decidable (∃ connection ∈ world.connections, _))

/-- A handler looks up a slot while its dial awaits a connection and is offered no other, and
neither of them leaves its select while the connection is handed over. -/
def Attended (world : World) : Event → Prop
  | .matchConn index => ∀ connection ∈ world.connections[index]?, connection.handler = .upgraded →
    world.Awaiting connection.uuid ∧ ¬ world.Offered connection.uuid
  | .fail uuid => ¬ world.Offered uuid
  | .cancel uuid => ¬ world.Offered uuid
  | .done uuid => ¬ world.Offered uuid
  | .abandon index => ∀ connection ∈ world.connections[index]?, connection.handler ≠ .offering
  | _ => True

instance (world : World) : (event : Event) → Decidable (Attended world event)
  | .matchConn index => inferInstanceAs (Decidable (∀ connection ∈ world.connections[index]?,
      connection.handler = .upgraded → _ ∧ ¬ world.Offered connection.uuid))
  | .fail uuid | .cancel uuid | .done uuid => inferInstanceAs (Decidable (¬ world.Offered uuid))
  | .abandon index => inferInstanceAs (Decidable (∀ connection ∈ world.connections[index]?, _ ≠ _))
  | .dial _ | .announce _ | .store _ | .load _ | .take _ | .delete _ | .request _ | .stop
  | .message _ | .unread | .close | .observe | .pickup _ => .isTrue trivial

/-- Where a connection is: its handler has not looked up the slot, or hands it over to a dial that
awaits it, or the dial returns it. -/
def World.InHand (world : World) (index : Nat) (connection : Connection) : Prop :=
  match connection.handler with
  | .upgraded => True
  | .offering => world.Awaiting connection.uuid
  | .delivered => world.result connection.uuid = some (.connected index)
  | .dropped => False

/-- Every connection is in somebody's hands, a dial is offered one connection at a time, and a dial
that awaits a connection has its slot. -/
structure HandedOver (world : World) : Prop where
  inHand : ∀ (index : Nat) connection, world.connections[index]? = some connection →
    world.InHand index connection
  alone : ∀ (first second : Nat) one other, world.connections[first]? = some one →
    world.connections[second]? = some other → one.handler = .offering → other.handler = .offering →
    one.uuid = other.uuid → first = second
  slots : ∀ uuid, world.Awaiting uuid → uuid ∈ world.incomingConn

section HandOver

variable {world : World} {event : Event}

theorem World.Offered.of_index {index : Nat} {connection : Connection}
    (there : world.connections[index]? = some connection)
    (offering : connection.handler = .offering) :
    world.Offered connection.uuid :=
  ⟨connection, List.mem_of_getElem? there, rfl, offering⟩

theorem World.Awaiting.not_other {uuid : String} {phase : Option Phase}
    (awaits : world.Awaiting uuid) (there : world.dials uuid = phase)
    (other : phase ≠ some .stored ∧ phase ≠ some .waiting) : False := by
  subst there
  rcases awaits with stored | waiting
  · exact other.1 stored
  · exact other.2 waiting

/-- A dial that is offered a connection awaits it until it takes it. -/
theorem awaiting_next (attended : Attended world event) {uuid : String}
    (slot : world.Awaiting uuid → uuid ∈ world.incomingConn) (offered : world.Offered uuid)
    (awaits : world.Awaiting uuid) :
    (world.next event).Awaiting uuid ∨ ∃ index closed, event = .take index ∧
      world.connections[index]? = some ⟨uuid, .offering, closed⟩ ∧
      world.dials uuid = some .waiting := by
  rcases (step_next world event).dials uuid with same | ⟨phase, after, moves⟩
  · refine .inl ?_
    unfold World.Awaiting
    rw [same]
    exact awaits
  · cases moves with
    | load before =>
      rw [if_pos (slot awaits)] at after
      exact .inl (.inr after)
    | take found before => exact .inr ⟨_, _, rfl, found, before⟩
    | fail before held | cancelFirst before | cancel before | doneFirst before | done before =>
      exact absurd offered attended
    | dial before | announce before | store before | delete before =>
      exact (awaits.not_other before ⟨by simp, by simp⟩).elim

/-- What happens when a dial takes a connection. -/
theorem next_take {index : Nat} {uuid : String} {closed : Bool}
    (found : world.connections[index]? = some ⟨uuid, .offering, closed⟩)
    (waits : world.dials uuid = some .waiting) :
    (world.next (.take index)).connections[index]? = some ⟨uuid, .delivered, closed⟩ ∧
      (world.next (.take index)).result uuid = some (.connected index) := by
  have inside := (List.getElem?_eq_some_iff.1 found).1
  dsimp only [World.next]
  rw [found]
  dsimp only
  rw [waits]
  constructor
  · exact List.getElem?_set_self inside
  · exact World.result_eq (World.become_dials ..)

/-- A connection that the step does not touch. -/
theorem HandedOver.untouched (handedOver : HandedOver world) (attended : Attended world event)
    {index : Nat} {connection : Connection} (there : world.connections[index]? = some connection)
    (stays : (world.next event).connections[index]? = some connection) :
    (world.next event).InHand index connection := by
  have before := handedOver.inHand index connection there
  obtain ⟨uuid, handler, closed⟩ := connection
  cases handler with
  | upgraded => trivial
  | offering =>
    rcases awaiting_next attended (handedOver.slots uuid) (.of_index there rfl) before with
      awaits | ⟨taken, _, rfl, found, waits⟩
    · exact awaits
    · -- The dial takes the one connection that it is offered, which is not offered then.
      have same : taken = index := handedOver.alone taken index _ _ found there rfl rfl rfl
      subst same
      rw [(next_take found waits).1] at stays
      cases stays
  | delivered => exact result_kept before
  | dropped => exact before

/-- A connection that the step brings to its handler or its dial. -/
theorem HandedOver.touched (handedOver : HandedOver world) (attended : Attended world event)
    {index : Nat} {connection : Connection} (handles : Handles world event index connection) :
    (world.next event).InHand index connection := by
  cases handles with
  | pickup uuid => trivial
  | found before slot =>
    have awaits := (attended _ before rfl).1
    rcases (step_next world (.matchConn index)).dials _ with same | ⟨_, _, ⟨⟩⟩
    change World.Awaiting _ _
    unfold World.Awaiting
    rw [same]
    exact awaits
  | missed before slot => exact slot (handedOver.slots _ (attended _ before rfl).1)
  | take before waits => exact (next_take before waits).2
  | abandon before => exact absurd rfl (attended _ before)

/-- A connection is offered after a step if it was before, or if its handler has found the slot of a
dial that was offered no other. -/
theorem offering_next (attended : Attended world event) {index : Nat} {connection : Connection}
    (there : (world.next event).connections[index]? = some connection)
    (offering : connection.handler = .offering) :
    world.connections[index]? = some connection ∨
      event = .matchConn index ∧ ¬ world.Offered connection.uuid := by
  rcases (step_next world event).connections index with same | ⟨_, after, handles⟩
  · exact .inl (same ▸ there)
  · rw [after] at there
    cases there
    cases handles with
    | found before slot => exact .inr ⟨rfl, (attended _ before rfl).2⟩
    | pickup uuid | missed before slot | take before waits | abandon before => cases offering

theorem HandedOver.next (handedOver : HandedOver world) (attended : Attended world event) :
    HandedOver (world.next event) := by
  have step := step_next world event
  constructor
  · intro index connection there
    rcases step.connections index with same | ⟨_, after, handles⟩
    · exact handedOver.untouched attended (same ▸ there) there
    · rw [after] at there
      cases there
      exact handedOver.touched attended handles
  · intro first second one other thereOne thereOther offeringOne offeringOther same
    rcases offering_next attended thereOne offeringOne with oldOne | ⟨rfl, newOne⟩
    · rcases offering_next attended thereOther offeringOther with oldOther | ⟨rfl, newOther⟩
      · exact handedOver.alone first second one other oldOne oldOther offeringOne offeringOther same
      · exact absurd (same ▸ .of_index oldOne offeringOne) newOther
    · rcases offering_next attended thereOther offeringOther with oldOther | ⟨equal, _⟩
      · exact absurd (same ▸ .of_index oldOther offeringOther) newOne
      · cases equal
        rfl
  · intro uuid awaits
    have kept (before : world.Awaiting uuid) : uuid ∈ (world.next event).incomingConn := by
      rcases step.slots uuid (handedOver.slots uuid before) with there | ⟨result, leaving⟩
      · exact there
      · exact (before.not_other leaving ⟨by simp, by simp⟩).elim
    rcases step.dials uuid with same | ⟨phase, after, moves⟩
    · apply kept
      unfold World.Awaiting at awaits ⊢
      rw [← same]
      exact awaits
    · cases moves with
      | store before => exact step.stored uuid rfl before
      | load before => exact kept (.inl before)
      | dial before | announce before | take found before | fail before held | cancelFirst before
      | cancel before | doneFirst before | done before | delete before =>
        exact (awaits.not_other after ⟨by simp, by simp⟩).elim

/-- A connection that is offered to a dial that awaits it is returned once the dial has come to its
select and both have met there. -/
theorem HandedOver.takes (handedOver : HandedOver world) {index : Nat} {connection : Connection}
    (there : world.connections[index]? = some connection)
    (offering : connection.handler = .offering) :
    ((world.next (.load connection.uuid)).next (.take index)).result connection.uuid =
      some (.connected index) := by
  have awaits : world.Awaiting connection.uuid := by
    have inHand := handedOver.inHand index connection there
    unfold World.InHand at inHand
    rw [offering] at inHand
    exact inHand
  obtain ⟨uuid, handler, closed⟩ := connection
  cases offering
  have found : (world.next (.load uuid)).connections[index]? = some ⟨uuid, .offering, closed⟩ := by
    rcases (step_next world (.load uuid)).connections index with same | ⟨_, _, ⟨⟩⟩
    exact same.trans there
  have waits : (world.next (.load uuid)).dials uuid = some .waiting := by
    dsimp only [World.next]
    rcases awaits with stored | waiting
    · rw [stored]
      dsimp only
      rw [if_pos (handedOver.slots uuid (.inl stored))]
      exact world.become_dials ..
    · rw [waiting]
      exact waiting
  exact (next_take found waits).2

end HandOver

/-- No reverse connection is leaked or lost. In every run in which a handler looks up a slot only
while the dial awaits a connection and is offered no other, and in which neither leaves its select
while a connection is handed over, every connection that was picked up is still with its handler,
which has yet to look up the slot, or is offered to the dial with its identifier, which returns it
once it has come to its select, or is returned by that dial, or is closed. Each event keeps every
connection in the hands of exactly one of these. -/
theorem pickups_returned (pickupPath : String) (events : List Event)
    (attended : Along World.next Attended (.new pickupPath) events) :
    ∀ world ∈ visited World.next (.new pickupPath) events, ∀ (index : Nat) connection,
      world.connections[index]? = some connection →
        connection.handler = .upgraded ∨
        connection.handler = .offering ∧
          ((world.next (.load connection.uuid)).next (.take index)).result connection.uuid =
            some (.connected index) ∨
        world.result connection.uuid = some (.connected index) ∨
        connection.closed = true := by
  intro world reached index connection there
  have start : HandedOver (.new pickupPath) :=
    ⟨by rintro _ _ ⟨⟩, by rintro _ _ _ _ ⟨⟩, by rintro _ (⟨⟨⟩⟩ | ⟨⟨⟩⟩)⟩
  have handedOver : HandedOver world :=
    visited_keeps (fun _ _ handedOver attended => handedOver.next attended) start attended world
      reached
  have inHand := handedOver.inHand index connection there
  unfold World.InHand at inHand
  split at inHand
  · rename_i upgraded
    exact .inl upgraded
  · rename_i offering
    exact .inr (.inl ⟨offering, handedOver.takes there offering⟩)
  · exact .inr (.inr (.inl inHand))
  · exact inHand.elim

/-- The agent connects back to a dial that waits. -/
def callback : List Event :=
  [.dial "a", .announce "a", .store "a", .request true, .pickup "a", .matchConn 0, .load "a",
    .take 0, .delete "a"]

theorem pickups_returned_for_callback :
    (∃ world ∈ visited World.next (.new "/revdial?revdial.dialer=1f") callback,
      world.connections = [⟨"a", .delivered, false⟩] ∧
      world.result "a" = some (.connected 0)) ∧
    ∀ world ∈ visited World.next (.new "/revdial?revdial.dialer=1f") callback,
      ∀ (index : Nat) connection, world.connections[index]? = some connection →
        connection.handler = .upgraded ∨
        connection.handler = .offering ∧
          ((world.next (.load connection.uuid)).next (.take index)).result connection.uuid =
            some (.connected index) ∨
        world.result connection.uuid = some (.connected index) ∨
        connection.closed = true :=
  ⟨by decide +kernel, pickups_returned _ callback (by decide +kernel)⟩

/-- The agent connects back before the dial has stored its slot. -/
def earlyPickup : List Event :=
  [.dial "a", .announce "a", .request true, .pickup "a", .matchConn 0, .store "a", .load "a"]

/-- The agent connects back to a dial that gives up while the connection is handed over. -/
def latePickup : List Event :=
  [.dial "a", .announce "a", .store "a", .load "a", .request true, .pickup "a", .matchConn 0,
    .cancel "a", .delete "a"]

/-- An early connection is lost to a dial that waits for it, a late one is offered to a dial that
has returned, and no handler closes its connection. -/
theorem pickups_leaked :
    (∃ world ∈ visited World.next (.new "/revdial?revdial.dialer=1f") earlyPickup,
      world.dials "a" = some .waiting ∧ world.connections = [⟨"a", .dropped, false⟩]) ∧
    ∃ world ∈ visited World.next (.new "/revdial?revdial.dialer=1f") latePickup,
      world.dials "a" = some (.returned .cancelled) ∧
      world.connections = [⟨"a", .offering, false⟩] ∧
      ((world.next .close).next (.abandon 0)).connections = [⟨"a", .dropped, false⟩] := by
  decide +kernel

end ShellHub.ReverseDials
