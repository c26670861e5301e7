import Mathlib.Logic.Function.Basic
import ShellHub.Sequences

/-!
# Reverse dials

A `Dial` asks the agent for a connection: it hands its identifier to the serve loop, which announces
a pick-up path to the agent, and waits. The agent connects back to that path, and the handler looks
up the slot of the identifier and hands the connection over. If the agent cannot connect back it
sends a message with the path, and the reader of the control connection hands an error over.

All channels between these goroutines but one are unbuffered, so that handing over is one step of
both sides. The slots are found by identifier, but there is one channel for the errors of all dials.
The serve loop may announce a path before the slot of its identifier is there.
-/

namespace ShellHub.ReverseDials

open Sequences

/-! ## The dialer -/

/-- A `pickup-failed` message of the agent. -/
structure Failure where
  connPath : String
  err : String
  deriving DecidableEq, Repr

/-- What `Dial` returns: a connection, the error of a message, `ErrDialerClosed`, the error of its
context, or the error of a slot that is gone. -/
inductive Result where
  | connected (index : Nat)
  | failed (message : Failure)
  | closed
  | cancelled
  | unloaded
  deriving DecidableEq, Repr

/-- Where a `Dial` is: at its first select, before it stores its slot, before it loads it again, at
its second select, before the deferred deletion of the slot, or it has returned. -/
inductive Phase where
  | announcing
  | announced
  | stored
  | waiting
  | leaving (result : Result)
  | returned (result : Result)
  deriving DecidableEq, Repr

/-- What a dial has decided to return. -/
def Phase.result : Phase → Option Result
  | .leaving result => some result
  | .returned result => some result
  | _ => none

/-- Where the handler of a picked-up connection is: before it looks up the slot, at its select, or
it has returned with the connection handed over or not. -/
inductive Handler where
  | upgraded
  | offering
  | delivered
  | dropped
  deriving DecidableEq, Repr

/-- A connection that was picked up with an identifier. -/
structure Connection where
  uuid : String
  handler : Handler
  closed : Bool
  deriving DecidableEq, Repr

/-- `close` first sends one value on `donec` and closes it when that was received. -/
inductive Closing where
  | running
  | sending
  | closed
  deriving DecidableEq, Repr

/-- The dialer with its goroutines. The connections are numbered in the order of their arrival. -/
structure World where
  pickupPath : String
  dials : String → Option Phase
  connReady : List String
  incomingConn : List String
  requested : List String
  serving : Bool
  reading : Bool
  pickupFailed : Option Failure
  received : List Failure
  connections : List Connection
  closing : Closing

def World.new (pickupPath : String) : World :=
  ⟨pickupPath, fun _ => none, [], [], [], true, true, none, [], [], .running⟩

/-- The path that the agent is told to connect back to. -/
def World.path (world : World) (uuid : String) : String := world.pickupPath ++ "&uuid=" ++ uuid

def World.become (world : World) (uuid : String) (phase : Phase) : World :=
  { world with dials := Function.update world.dials uuid (some phase) }

def World.handle (world : World) (index : Nat) (connection : Connection) : World :=
  { world with connections := world.connections.set index connection }

/-- A dial is in the phase to which it has moved. -/
theorem World.become_dials (world : World) (uuid : String) (phase : Phase) :
    (world.become uuid phase).dials uuid = some phase :=
  Function.update_self ..

/-- What happens. A step of a goroutine that is not there, or not there yet, does nothing. -/
inductive Event where
  /-- `Dial` is called; `uuid.Generate` yields an identifier that was not used before. -/
  | dial (uuid : String)
  /-- The first select sends the identifier to the serve loop. -/
  | announce (uuid : String)
  | store (uuid : String)
  | load (uuid : String)
  /-- The handler of a connection and the second select of a dial meet. -/
  | take (index : Nat)
  /-- The reader and the second select of a dial meet. -/
  | fail (uuid : String)
  /-- A select sees the end of the dial's context. -/
  | cancel (uuid : String)
  /-- A select of a dial receives from `donec`. -/
  | done (uuid : String)
  /-- The deferred deletion of the slot. -/
  | delete (uuid : String)
  /-- The serve loop announces the next path to the agent, or returns because it cannot write. -/
  | request (written : Bool)
  /-- The serve loop returns: it cannot write a keep-alive message, or has received from `donec`. -/
  | stop
  /-- The reader gets a message. -/
  | message (failure : Failure)
  /-- The reader returns: it cannot read, or it has received from `donec`. -/
  | unread
  | close
  /-- The serve loop or the owner of the dialer receives from `donec`. -/
  | observe
  /-- A connection arrives for the dialer. -/
  | pickup (uuid : String)
  /-- The handler looks up the slot. -/
  | matchConn (index : Nat)
  /-- The select of the handler receives from `donec`. -/
  | abandon (index : Nat)
  deriving DecidableEq, Repr

def World.next (world : World) : Event → World
  | .dial uuid =>
    match world.dials uuid with
    | none => world.become uuid .announcing
    | some _ => world
  | .announce uuid =>
    match world.dials uuid with
    | some .announcing =>
      if world.connReady.length < 8 then
        { world with connReady := world.connReady ++ [uuid] }.become uuid .announced
      else world
    | _ => world
  | .store uuid =>
    match world.dials uuid with
    | some .announced =>
      { world with incomingConn := uuid :: world.incomingConn }.become uuid .stored
    | _ => world
  | .load uuid =>
    match world.dials uuid with
    | some .stored =>
      world.become uuid (if uuid ∈ world.incomingConn then .waiting else .leaving .unloaded)
    | _ => world
  | .take index =>
    match world.connections[index]? with
    | some ⟨uuid, .offering, closed⟩ =>
      match world.dials uuid with
      | some .waiting =>
        (world.handle index ⟨uuid, .delivered, closed⟩).become uuid (.leaving (.connected index))
      | _ => world
    | _ => world
  | .fail uuid =>
    match world.dials uuid, world.pickupFailed with
    | some .waiting, some message =>
      { world with pickupFailed := none }.become uuid (.leaving (.failed message))
    | _, _ => world
  | .cancel uuid =>
    match world.dials uuid with
    | some .announcing => world.become uuid (.returned .cancelled)
    | some .waiting => world.become uuid (.leaving .cancelled)
    | _ => world
  | .done uuid =>
    if world.closing = .running then world
    else
      match world.dials uuid with
      | some .announcing => { world with closing := .closed }.become uuid (.returned .closed)
      | some .waiting => { world with closing := .closed }.become uuid (.leaving .closed)
      | _ => world
  | .delete uuid =>
    match world.dials uuid with
    | some (.leaving result) =>
      { world with incomingConn := world.incomingConn.filter (· ≠ uuid) }.become uuid
        (.returned result)
    | _ => world
  | .request written =>
    match world.serving, world.connReady, written with
    | true, uuid :: rest, true =>
      { world with connReady := rest, requested := world.requested ++ [world.path uuid] }
    | true, _ :: rest, false => { world with connReady := rest, serving := false }
    | _, _, _ => world
  | .stop => { world with serving := false }
  | .message failure =>
    match world.reading, world.pickupFailed with
    | true, none =>
      { world with pickupFailed := some failure, received := world.received ++ [failure] }
    | _, _ => world
  | .unread =>
    if world.pickupFailed = none then { world with reading := false }
    else if world.closing = .running then world
    else { world with reading := false, pickupFailed := none, closing := .closed }
  | .close => if world.closing = .running then { world with closing := .sending } else world
  | .observe => if world.closing = .sending then { world with closing := .closed } else world
  | .pickup uuid =>
    -- A dialer that is closing is no longer registered.
    if world.closing = .running then
      { world with connections := world.connections ++ [⟨uuid, .upgraded, false⟩] }
    else world
  | .matchConn index =>
    match world.connections[index]? with
    | some ⟨uuid, .upgraded, closed⟩ =>
      world.handle index ⟨uuid, if uuid ∈ world.incomingConn then .offering else .dropped, closed⟩
    | _ => world
  | .abandon index =>
    match world.connections[index]? with
    | some ⟨uuid, .offering, closed⟩ =>
      if world.closing = .running then world
      else { world with closing := .closed }.handle index ⟨uuid, .dropped, closed⟩
    | _ => world

/-! ## What a step can do -/

/-- How a step brings a dial to a phase. -/
inductive Moves (world : World) : Event → String → Phase → Prop where
  | dial {uuid : String} (new : world.dials uuid = none) : Moves world (.dial uuid) uuid .announcing
  | announce {uuid : String} (before : world.dials uuid = some .announcing) :
      Moves world (.announce uuid) uuid .announced
  | store {uuid : String} (before : world.dials uuid = some .announced) :
      Moves world (.store uuid) uuid .stored
  | load {uuid : String} (before : world.dials uuid = some .stored) :
      Moves world (.load uuid) uuid
        (if uuid ∈ world.incomingConn then .waiting else .leaving .unloaded)
  | take {index : Nat} {uuid : String} {closed : Bool}
      (offered : world.connections[index]? = some ⟨uuid, .offering, closed⟩)
      (before : world.dials uuid = some .waiting) :
      Moves world (.take index) uuid (.leaving (.connected index))
  | fail {uuid : String} {message : Failure} (before : world.dials uuid = some .waiting)
      (held : world.pickupFailed = some message) :
      Moves world (.fail uuid) uuid (.leaving (.failed message))
  | cancelFirst {uuid : String} (before : world.dials uuid = some .announcing) :
      Moves world (.cancel uuid) uuid (.returned .cancelled)
  | cancel {uuid : String} (before : world.dials uuid = some .waiting) :
      Moves world (.cancel uuid) uuid (.leaving .cancelled)
  | doneFirst {uuid : String} (before : world.dials uuid = some .announcing) :
      Moves world (.done uuid) uuid (.returned .closed)
  | done {uuid : String} (before : world.dials uuid = some .waiting) :
      Moves world (.done uuid) uuid (.leaving .closed)
  | delete {uuid : String} {result : Result} (before : world.dials uuid = some (.leaving result)) :
      Moves world (.delete uuid) uuid (.returned result)

/-- How a step brings a connection to the handler. -/
inductive Handles (world : World) : Event → Nat → Connection → Prop where
  | pickup (uuid : String) :
      Handles world (.pickup uuid) world.connections.length ⟨uuid, .upgraded, false⟩
  | found {index : Nat} {uuid : String} {closed : Bool}
      (before : world.connections[index]? = some ⟨uuid, .upgraded, closed⟩)
      (slot : uuid ∈ world.incomingConn) :
      Handles world (.matchConn index) index ⟨uuid, .offering, closed⟩
  | missed {index : Nat} {uuid : String} {closed : Bool}
      (before : world.connections[index]? = some ⟨uuid, .upgraded, closed⟩)
      (slot : uuid ∉ world.incomingConn) :
      Handles world (.matchConn index) index ⟨uuid, .dropped, closed⟩
  | take {index : Nat} {uuid : String} {closed : Bool}
      (before : world.connections[index]? = some ⟨uuid, .offering, closed⟩)
      (waits : world.dials uuid = some .waiting) :
      Handles world (.take index) index ⟨uuid, .delivered, closed⟩
  | abandon {index : Nat} {uuid : String} {closed : Bool}
      (before : world.connections[index]? = some ⟨uuid, .offering, closed⟩) :
      Handles world (.abandon index) index ⟨uuid, .dropped, closed⟩

/-- What a step can do: a dial or a connection is where it was or moves, only a dial that returns
loses its slot, and messages stay received. -/
structure Step (world : World) (event : Event) (after : World) : Prop where
  path : after.pickupPath = world.pickupPath
  dials : ∀ uuid, after.dials uuid = world.dials uuid ∨
    ∃ phase, after.dials uuid = some phase ∧ Moves world event uuid phase
  connections : ∀ index, after.connections[index]? = world.connections[index]? ∨
    ∃ connection, after.connections[index]? = some connection ∧
      Handles world event index connection
  slots : ∀ uuid ∈ world.incomingConn, uuid ∈ after.incomingConn ∨
    ∃ result, world.dials uuid = some (.leaving result)
  stored : ∀ uuid, event = .store uuid → world.dials uuid = some .announced →
    uuid ∈ after.incomingConn
  received : ∀ message ∈ world.received, message ∈ after.received
  held : ∀ message, after.pickupFailed = some message → world.pickupFailed = some message ∨
    event = .message message ∧ message ∈ after.received

section Steps

variable {world after : World} {event : Event}

/-- A step without dials, connections, slots and messages. -/
theorem Step.aside (path : after.pickupPath = world.pickupPath)
    (dials : after.dials = world.dials) (connections : after.connections = world.connections)
    (slots : after.incomingConn = world.incomingConn)
    (stores : ∀ uuid, event = .store uuid → world.dials uuid ≠ some .announced)
    (received : after.received = world.received)
    (held : after.pickupFailed = world.pickupFailed ∨ after.pickupFailed = none) :
    Step world event after where
  path := path
  dials uuid := .inl (congrFun dials uuid)
  connections index := .inl (by rw [connections])
  slots uuid there := .inl (slots ▸ there)
  stored uuid store announced := absurd announced (stores uuid store)
  received message member := received ▸ member
  held message equal := by
    rcases held with same | none
    · exact .inl (same ▸ equal)
    · rw [none] at equal
      cases equal

/-- A step that finds nothing to do. -/
theorem Step.idle (stores : ∀ uuid, event = .store uuid → world.dials uuid ≠ some .announced) :
    Step world event world :=
  .aside rfl rfl rfl rfl stores rfl (.inl rfl)

/-- A step of one dial. -/
theorem Step.become (step : Step world event after) (same : after.dials = world.dials)
    {uuid : String} {phase : Phase} (moves : Moves world event uuid phase) :
    Step world event (after.become uuid phase) where
  path := step.path
  dials other := by
    by_cases own : other = uuid
    · subst own
      exact .inr ⟨phase, after.become_dials .., moves⟩
    · refine .inl ?_
      unfold World.become
      dsimp only
      rw [Function.update_of_ne own, same]
  connections := step.connections
  slots := step.slots
  stored := step.stored
  received := step.received
  held := step.held

/-- A step of one handler. -/
theorem Step.handle (step : Step world event after) (same : after.connections = world.connections)
    {index : Nat} {before connection : Connection}
    (found : world.connections[index]? = some before)
    (handles : Handles world event index connection) :
    Step world event (after.handle index connection) where
  path := step.path
  dials := step.dials
  connections other := by
    unfold World.handle
    dsimp only
    rw [same]
    by_cases own : index = other
    · subst own
      have inside := (List.getElem?_eq_some_iff.1 found).1
      exact .inr ⟨connection, List.getElem?_set_self inside, handles⟩
    · exact .inl (List.getElem?_set_ne own)
  slots := step.slots
  stored := step.stored
  received := step.received
  held := step.held

/-- A dial stores its slot. -/
theorem step_store (uuid : String) : Step world (.store uuid) (world.next (.store uuid)) := by
  dsimp only [World.next]
  split
  · rename_i before
    refine Step.become ?_ ?_ (.store before)
    · refine ⟨rfl, fun _ => .inl rfl, fun _ => .inl rfl,
        fun _ there => .inl (List.mem_cons_of_mem _ there), ?_, fun _ member => member,
        fun _ equal => .inl equal⟩
      rintro _ ⟨⟩ _
      exact List.mem_cons_self ..
    · rfl
  · rename_i other
    apply Step.idle
    rintro _ ⟨⟩
    exact other

/-- A dial that returns deletes its own slot and no other. -/
theorem step_delete (uuid : String) : Step world (.delete uuid) (world.next (.delete uuid)) := by
  dsimp only [World.next]
  split
  · rename_i result before
    refine Step.become ?_ ?_ (.delete before)
    · refine ⟨rfl, fun _ => .inl rfl, fun _ => .inl rfl, fun other there => ?_,
        by rintro _ ⟨⟩, fun _ member => member, fun _ equal => .inl equal⟩
      by_cases own : other = uuid
      · subst own
        exact .inr ⟨result, before⟩
      · exact .inl (List.mem_filter.2 ⟨there, decide_eq_true own⟩)
    · rfl
  · apply Step.idle
    rintro _ ⟨⟩

/-- The reader holds a message until a dial takes it. -/
theorem step_message (failure : Failure) :
    Step world (.message failure) (world.next (.message failure)) := by
  dsimp only [World.next]
  split
  · refine ⟨rfl, fun _ => .inl rfl, fun _ => .inl rfl, fun _ there => .inl there, by rintro _ ⟨⟩,
      fun _ member => List.mem_append_left _ member, ?_⟩
    rintro _ ⟨⟩
    exact .inr ⟨rfl, List.mem_append_right _ (List.mem_singleton_self _)⟩
  · apply Step.idle
    rintro _ ⟨⟩

/-- A connection that arrives gets the next number. -/
theorem step_pickup (uuid : String) : Step world (.pickup uuid) (world.next (.pickup uuid)) := by
  dsimp only [World.next]
  split
  · refine ⟨rfl, fun _ => .inl rfl, fun index => ?_, fun _ there => .inl there, by rintro _ ⟨⟩,
      fun _ member => member, fun _ equal => .inl equal⟩
    dsimp only
    rcases Nat.lt_trichotomy index world.connections.length with old | new | outside
    · exact .inl (List.getElem?_append_left old)
    · subst new
      exact .inr ⟨_, List.getElem?_concat_length .., .pickup uuid⟩
    · have length : (world.connections ++ [(⟨uuid, .upgraded, false⟩ : Connection)]).length =
          world.connections.length + 1 := List.length_append
      refine .inl ?_
      rw [List.getElem?_eq_none (by omega), List.getElem?_eq_none (by omega)]
  · apply Step.idle
    rintro _ ⟨⟩

/-- Every step is one of these. -/
theorem step_next (world : World) (event : Event) : Step world event (world.next event) := by
  by_cases stores : ∃ uuid, event = .store uuid
  · obtain ⟨uuid, rfl⟩ := stores
    exact step_store uuid
  have other (uuid : String) (equal : event = .store uuid) : world.dials uuid ≠ some .announced :=
    absurd ⟨uuid, equal⟩ stores
  have nothing : Step world event world := .idle other
  cases event
  all_goals dsimp only [World.next]
  case dial uuid =>
    split
    · rename_i new
      exact nothing.become rfl (.dial new)
    · exact nothing
  case announce uuid =>
    split
    · rename_i before
      split
      · refine Step.become ?_ ?_ (.announce before)
        · exact .aside rfl rfl rfl rfl other rfl (.inl rfl)
        · rfl
      · exact nothing
    · exact nothing
  case store uuid => exact absurd ⟨uuid, rfl⟩ stores
  case load uuid =>
    split
    · rename_i before
      exact nothing.become rfl (.load before)
    · exact nothing
  case take index =>
    split
    · rename_i uuid closed found
      split
      · rename_i before
        exact (nothing.handle rfl found (.take found before)).become rfl
          (.take found before)
      · exact nothing
    · exact nothing
  case fail uuid =>
    split
    · rename_i message before held
      refine Step.become ?_ ?_ (.fail before held)
      · exact .aside rfl rfl rfl rfl other rfl (.inr rfl)
      · rfl
    · exact nothing
  case cancel uuid =>
    split
    · rename_i before
      exact nothing.become rfl (.cancelFirst before)
    · rename_i before
      exact nothing.become rfl (.cancel before)
    · exact nothing
  case done uuid =>
    have ended : Step world (.done uuid) { world with closing := .closed } :=
      .aside rfl rfl rfl rfl other rfl (.inl rfl)
    split
    · exact nothing
    · split
      · rename_i before
        exact ended.become rfl (.doneFirst before)
      · rename_i before
        exact ended.become rfl (.done before)
      · exact nothing
  case delete uuid => exact step_delete uuid
  case request written =>
    split
    · exact .aside rfl rfl rfl rfl other rfl (.inl rfl)
    · exact .aside rfl rfl rfl rfl other rfl (.inl rfl)
    · exact nothing
  case stop => exact .aside rfl rfl rfl rfl other rfl (.inl rfl)
  case message failure => exact step_message failure
  case unread =>
    split
    · exact .aside rfl rfl rfl rfl other rfl (.inl rfl)
    · split
      · exact nothing
      · exact .aside rfl rfl rfl rfl other rfl (.inr rfl)
  case close | observe =>
    split
    · exact .aside rfl rfl rfl rfl other rfl (.inl rfl)
    · exact nothing
  case pickup uuid => exact step_pickup uuid
  case matchConn index =>
    split
    · rename_i uuid closed found
      refine nothing.handle rfl found ?_
      split
      · rename_i slot
        exact .found found slot
      · rename_i slot
        exact .missed found slot
    · exact nothing
  case abandon index =>
    split
    · rename_i uuid closed found
      split
      · exact nothing
      · refine Step.handle ?_ ?_ found (.abandon found)
        · exact .aside rfl rfl rfl rfl other rfl (.inl rfl)
        · rfl
    · exact nothing

end Steps

/-! ## Whose answer a dial gets -/

/-- What a dial has decided to return. -/
def World.result (world : World) (uuid : String) : Option Result :=
  (world.dials uuid).bind Phase.result

section Answers

variable {world : World} {event : Event}

/-- The result is that of the phase. -/
theorem World.result_eq {uuid : String} {phase : Phase} (there : world.dials uuid = some phase) :
    world.result uuid = phase.result := by
  unfold World.result
  rw [there]
  rfl

/-- A dial that has decided what to return returns it. -/
theorem result_kept {uuid : String} {result : Result} (decided : world.result uuid = some result) :
    (world.next event).result uuid = some result := by
  rcases (step_next world event).dials uuid with same | ⟨phase, after, moves⟩
  · unfold World.result
    rw [same]
    exact decided
  · rw [World.result_eq after]
    cases moves with
    | dial new =>
      unfold World.result at decided
      rw [new] at decided
      cases decided
    | delete before =>
      rw [World.result_eq before] at decided
      exact decided
    | announce before | store before | load before | take offered before | fail before held
    | cancelFirst before | cancel before | doneFirst before | done before =>
      rw [World.result_eq before] at decided; cases decided

/-- A dial that has not decided yet returns a connection that it has taken from a handler, or the
error of a message that it has taken from the reader at its second select. -/
theorem result_next {uuid : String} {result : Result}
    (after : (world.next event).result uuid = some result) :
    world.result uuid = some result ∨
      (∀ index, result = .connected index →
        ∃ closed, world.connections[index]? = some ⟨uuid, .offering, closed⟩) ∧
      ∀ message, result = .failed message → event = .fail uuid ∧
        world.dials uuid = some .waiting ∧ world.pickupFailed = some message := by
  rcases (step_next world event).dials uuid with same | ⟨phase, there, moves⟩
  · refine .inl ?_
    unfold World.result at after ⊢
    rw [← same]
    exact after
  · rw [World.result_eq there] at after
    cases moves with
    | take offered before =>
      cases after
      exact .inr ⟨fun _ same => by cases same; exact ⟨_, offered⟩, by rintro _ ⟨⟩⟩
    | fail before held =>
      cases after
      exact .inr ⟨by rintro _ ⟨⟩, fun _ same => by cases same; exact ⟨rfl, before, held⟩⟩
    | delete before =>
      rw [World.result_eq before]
      exact .inl after
    | load before =>
      split at after <;> cases after <;> exact .inr ⟨by rintro _ ⟨⟩, by rintro _ ⟨⟩⟩
    | _ => cases after <;> exact .inr ⟨by rintro _ ⟨⟩, by rintro _ ⟨⟩⟩

/-- A connection keeps the identifier with which it was picked up. -/
theorem uuid_kept (event : Event) {index : Nat} {connection : Connection}
    (there : world.connections[index]? = some connection) :
    ∃ later, (world.next event).connections[index]? = some later ∧
      later.uuid = connection.uuid := by
  rcases (step_next world event).connections index with same | ⟨later, after, handles⟩
  · exact ⟨connection, same.trans there, rfl⟩
  · refine ⟨later, after, ?_⟩
    cases handles with
    | pickup uuid =>
      rw [List.getElem?_eq_none (Nat.le_refl _)] at there
      cases there
    | found before slot | missed before slot | take before waits | abandon before =>
      rw [before] at there; cases there; rfl

/-- Every connection that a dial returns was picked up with its identifier. -/
def Identified (world : World) : Prop :=
  ∀ uuid index, world.result uuid = some (.connected index) →
    ∃ connection, world.connections[index]? = some connection ∧ connection.uuid = uuid

/-- Every step keeps the connections identified: a dial takes one that was offered for its slot. -/
theorem Identified.next (identified : Identified world) (event : Event) :
    Identified (world.next event) := by
  intro uuid index after
  have before : ∃ connection, world.connections[index]? = some connection ∧
      connection.uuid = uuid := by
    rcases result_next after with decided | ⟨connected, -⟩
    · exact identified uuid index decided
    · obtain ⟨closed, offered⟩ := connected index rfl
      exact ⟨_, offered, rfl⟩
  obtain ⟨connection, there, own⟩ := before
  obtain ⟨later, stays, same⟩ := uuid_kept event there
  exact ⟨later, stays, same.trans own⟩

/-- When a dial takes an error, no dial waits for another path than that of the message. -/
def Undisputed (world : World) : Event → Prop
  | .fail _ => ∀ message, world.pickupFailed = some message →
    ∀ uuid, world.dials uuid = some .waiting → message.connPath = world.path uuid
  | _ => True

/-- Every error that a dial returns comes from a message that was received for its path. -/
structure Answered (world : World) : Prop where
  held : ∀ message, world.pickupFailed = some message → message ∈ world.received
  own : ∀ uuid message, world.result uuid = some (.failed message) →
    message ∈ world.received ∧ message.connPath = world.path uuid

/-- Every step that is undisputed keeps the errors answers to their own dials. -/
theorem Answered.next (answered : Answered world) (undisputed : Undisputed world event) :
    Answered (world.next event) := by
  have step := step_next world event
  constructor
  · intro message holds
    rcases step.held message holds with before | ⟨-, received⟩
    · exact step.received message (answered.held message before)
    · exact received
  · intro uuid message after
    have before : message ∈ world.received ∧ message.connPath = world.path uuid := by
      rcases result_next after with decided | ⟨-, failed⟩
      · exact answered.own uuid message decided
      · obtain ⟨rfl, waits, held⟩ := failed message rfl
        exact ⟨answered.held message held, undisputed message held uuid waits⟩
    refine ⟨step.received message before.1, ?_⟩
    unfold World.path
    rw [step.path]
    exact before.2

/-- When a message comes, no dial waits for another path than that of the message, and none comes to
wait for another path while the message is held. -/
def Expected (world : World) : Event → Prop
  | .message failure => ∀ uuid, world.dials uuid = some .waiting →
    failure.connPath = world.path uuid
  | .load uuid => ∀ message, world.pickupFailed = some message → message.connPath = world.path uuid
  | _ => True

/-- The dials that wait while a message is held wait for its path. -/
def Matched (world : World) : Prop :=
  ∀ message, world.pickupFailed = some message →
    ∀ uuid, world.dials uuid = some .waiting → message.connPath = world.path uuid

/-- Every expected step keeps the dials that wait matched with the message. -/
theorem Matched.next (matched : Matched world) (expected : Expected world event) :
    Matched (world.next event) := by
  intro message holds uuid waits
  have step := step_next world event
  have path : (world.next event).path uuid = world.path uuid := by
    unfold World.path
    rw [step.path]
  rw [path]
  -- A dial comes to wait by loading its slot, and then no message comes.
  have before : world.dials uuid = some .waiting ∨ event = .load uuid := by
    rcases step.dials uuid with same | ⟨phase, after, moves⟩
    · exact .inl (same ▸ waits)
    · cases moves with
      | load before => exact .inr rfl
      | _ =>
        rw [after] at waits
        cases waits
  rcases step.held message holds with held | ⟨rfl, -⟩
  · rcases before with waiting | rfl
    · exact matched message held uuid waiting
    · exact expected message held
  · rcases before with waiting | ⟨⟨⟩⟩
    exact expected uuid waiting

/-- Who takes a message while all dials that wait are matched takes its own. -/
theorem Matched.undisputed (matched : Matched world) (event : Event) : Undisputed world event := by
  cases event with
  | fail uuid => exact matched
  | _ => exact True.intro

end Answers

/-- A reverse dial gets its own answer. In every run, every connection that a dial returns was
picked up with its identifier. Every error that a dial returns is that of a message for its own
path, in every run in which no dial takes an error while a dial waits for another path than that of
the message. No such dial waits if none did when the message came and none has come since. Each
event keeps the connection of a slot one with its identifier, and the error that is to be taken one
for the path of the dials that wait. -/
theorem dial_own_answer (pickupPath : String) (events : List Event) :
    (∀ world ∈ visited World.next (.new pickupPath) events, ∀ uuid index,
      world.result uuid = some (.connected index) →
        ∃ connection, world.connections[index]? = some connection ∧ connection.uuid = uuid) ∧
    (Along World.next Undisputed (.new pickupPath) events ∨
        Along World.next Expected (.new pickupPath) events →
      ∀ world ∈ visited World.next (.new pickupPath) events, ∀ uuid message,
        world.result uuid = some (.failed message) →
          message ∈ world.received ∧ message.connPath = world.path uuid) := by
  constructor
  · apply visited_always Identified fun world event identified => identified.next event
    rintro uuid index ⟨⟩
  · intro along world reached
    have start : Answered (.new pickupPath) := ⟨by rintro _ ⟨⟩, by rintro _ _ ⟨⟩⟩
    rcases along with undisputed | expected
    · exact (visited_keeps (fun world event answered undisputed => answered.next undisputed) start
        undisputed world reached).own
    · have unmatched : Matched (.new pickupPath) := by rintro _ ⟨⟩
      have kept : ∀ world event, Answered world ∧ Matched world → Expected world event →
          Answered (world.next event) ∧ Matched (world.next event) :=
        fun world event both expected =>
          ⟨both.1.next (both.2.undisputed event), both.2.next expected⟩
      exact (visited_keeps kept ⟨start, unmatched⟩ expected world reached).1.own

/-- A dial that the agent refuses, with the dialer's path. -/
def refusal : List Event :=
  [.dial "a", .announce "a", .store "a", .load "a", .request true,
    .message ⟨"/revdial?revdial.dialer=1f&uuid=a", "refused"⟩, .fail "a", .delete "a"]

/-- A dial that is refused gets the refusal of its own path. -/
theorem dial_own_answer_refused :
    (∃ world ∈ visited World.next (.new "/revdial?revdial.dialer=1f") refusal,
      world.result "a" = some (.failed ⟨"/revdial?revdial.dialer=1f&uuid=a", "refused"⟩)) ∧
    ∀ world ∈ visited World.next (.new "/revdial?revdial.dialer=1f") refusal, ∀ uuid message,
      world.result uuid = some (.failed message) →
        message ∈ world.received ∧ message.connPath = world.path uuid := by
  refine ⟨by decide +kernel, (dial_own_answer _ refusal).2 (.inl ?_)⟩
  refine ⟨trivial, trivial, trivial, trivial, trivial, trivial, ?_, trivial, trivial⟩
  intro message held uuid waits
  cases held
  -- The only dial that waits is `a`.
  have own : uuid = "a" := by
    by_contra other
    simp [World.next, World.new, World.become, World.path, other] at waits
  subst own
  decide +kernel

/-- The first dial gives up, a second one waits, and the agent's message for the path of the first
comes late. -/
def lateRefusal : List Event :=
  [.dial "a", .announce "a", .store "a", .load "a", .request true, .cancel "a", .delete "a",
    .dial "b", .announce "b", .store "b", .load "b", .request true,
    .message ⟨"/revdial?revdial.dialer=1f&uuid=a", "refused"⟩, .fail "b"]

/-- The second dial returns the error of the first. -/
theorem dial_other_answer :
    ∃ world ∈ visited World.next (.new "/revdial?revdial.dialer=1f") lateRefusal,
      world.result "a" = some .cancelled ∧
      world.result "b" = some (.failed ⟨world.path "a", "refused"⟩) ∧
      world.path "a" ≠ world.path "b" := by
  decide +kernel

end ShellHub.ReverseDials
