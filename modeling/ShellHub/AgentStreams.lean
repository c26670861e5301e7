import ShellHub.Sequences

/-!
# The streams to an agent

The gateway opens a stream to the agent before the client has authenticated, in the banner handler.
An authentication attempt runs the SSH handshake on it. If the handshake fails the stream is closed,
and the next attempt dials again; if it succeeds the stream belongs to an SSH client connection,
whose read loop closes it when the agent goes. When the client's connection is closed the session is
finished: a request is written on the stream, and the stream is left as it is. A request to close a
session opens a stream too, and drops it.

So a client that leaves before an attempt leaves a stream behind, and so does each request. This
module proves that nothing else does.
-/

namespace ShellHub.AgentStreams

open Sequences

/-- A stream to the agent: whether an SSH client connection reads it, and whether it was closed. -/
structure Stream where
  served : Bool
  closed : Bool
  deriving DecidableEq, Repr

/-- The stream is closed, or a read loop will close it when the peer goes. -/
def Stream.Tended (stream : Stream) : Prop := stream.closed = true ∨ stream.served = true

instance (stream : Stream) : Decidable stream.Tended := inferInstanceAs (Decidable (_ ∨ _))

/-- The state of the snapshot. -/
inductive State where
  | none
  | created
  | evaluated
  | registered
  | finished
  deriving DecidableEq, Repr

/-- The outcomes in the banner handler: of parsing the target, of creating the session, of dialing
and of the evaluation. -/
structure Greeting where
  target : Bool
  session : Bool
  dialed : Bool
  evaluated : Bool
  deriving DecidableEq, Repr

/-- The outcomes in an authentication attempt, in their order. -/
structure Attempt where
  /-- the handler passes the credential to `Auth` -/
  accepted : Bool
  evaluated : Bool
  registered : Bool
  /-- `authOpt` -/
  options : Bool
  dialed : Bool
  deadline : Bool
  /-- `NewClientConn` -/
  handshake : Bool
  cleared : Bool
  /-- the burn of a single-use key, if there is one -/
  consumed : Bool
  authenticated : Bool
  deriving DecidableEq, Repr

/-- A client's connection with its session: the streams opened on its behalf, the position of
`Agent.Conn` among them, and whether the connection is closed and `Finish` has run. -/
structure Connection where
  state : State
  streams : List Stream
  conn : Option Nat
  ended : Bool
  deriving DecidableEq, Repr

namespace Connection

def new : Connection := ⟨.none, [], none, false⟩

/-- `Dial`, when it succeeds. -/
def dial (connection : Connection) : Connection :=
  { connection with
    streams := connection.streams ++ [⟨false, false⟩]
    conn := some connection.streams.length }

/-- The handler of the banner. -/
def greet (connection : Connection) (greeting : Greeting) : Connection :=
  if !greeting.target || !greeting.session then connection
  else
    let connection := { connection with state := .created }
    if !greeting.dialed then connection
    else
      let connection := connection.dial
      if greeting.evaluated then { connection with state := .evaluated } else connection

/-- The middle of `connect`, with a stream at hand: the deadline, the handshake and the end of the
deadline. A handshake that fails closes the stream. -/
def shake (timeout : Bool) (connection : Connection) (attempt : Attempt) (id : Nat) :
    Connection × Bool :=
  if timeout && !attempt.deadline then (connection, false)
  else if !attempt.handshake then
    ({ connection with
        streams := connection.streams.modify id fun stream => { stream with closed := true }
        conn := none }, false)
  else
    ({ connection with
        streams := connection.streams.modify id fun stream => { stream with served := true } },
      !(timeout && !attempt.cleared))

/-- `connect`, and whether it succeeds. It dials again if the last handshake has failed. -/
def connect (timeout : Bool) (connection : Connection) (attempt : Attempt) : Connection × Bool :=
  if !attempt.options then (connection, false)
  else
    match connection.conn with
    | some id => connection.shake timeout attempt id
    | none =>
      if attempt.dialed then
        connection.dial.shake timeout attempt connection.streams.length
      else (connection, false)

/-- The end of `Auth`, from a registered session on. -/
def establish (timeout : Bool) (connection : Connection) (attempt : Attempt) : Connection :=
  let (connection, connected) := connection.connect timeout attempt
  if connected && attempt.consumed && attempt.authenticated then
    { connection with state := .finished }
  else connection

/-- `Auth`. -/
def auth (timeout : Bool) (connection : Connection) (attempt : Attempt) : Connection :=
  match connection.state with
  | .evaluated =>
    if attempt.evaluated && attempt.registered then
      { connection with state := .registered }.establish timeout attempt
    else connection
  | .registered => connection.establish timeout attempt
  | .none | .created | .finished => connection

/-- The connection is closed, and `Finish` runs. -/
def close (connection : Connection) : Connection := { connection with ended := true }

/-- The session has not got far enough to authenticate. -/
def early (connection : Connection) : Bool :=
  connection.state = .none || connection.state = .created

/-- The handlers of passwords and of public keys. One that comes too early closes the connection. -/
def attempt (timeout : Bool) (connection : Connection) (attempt : Attempt) : Connection :=
  if connection.early then connection.close
  else if attempt.accepted then connection.auth timeout attempt
  else connection

end Connection

/-- The connections of clients, and the streams opened for requests that were answered. -/
structure World where
  connections : List Connection
  requested : List Stream
  deriving DecidableEq, Repr

def World.new : World := ⟨[], []⟩

inductive Event where
  | accept
  | greet (client : Nat) (greeting : Greeting)
  | attempt (client : Nat) (attempt : Attempt)
  | close (client : Nat)
  /-- the agent's end of a stream goes -/
  | gone (client id : Nat)
  /-- `HandleSSHClose`: whether the role has the permission, and the outcome of the dial -/
  | closeSession (permitted dialed : Bool)
  deriving DecidableEq, Repr

/-- A step of the gateway. The server's configuration says whether handshakes have a time limit. -/
def World.next (timeout : Bool) (world : World) : Event → World
  | .accept => { world with connections := world.connections ++ [.new] }
  | .greet client greeting =>
    { world with
      connections := world.connections.modify client fun connection =>
        if connection.state = .none ∧ connection.ended = false then connection.greet greeting
        else connection }
  | .attempt client attempt =>
    { world with
      connections := world.connections.modify client fun connection =>
        if connection.ended then connection else connection.attempt timeout attempt }
  | .close client =>
    { world with connections := world.connections.modify client Connection.close }
  | .gone client id =>
    { world with
      connections := world.connections.modify client fun connection =>
        { connection with
          streams := connection.streams.modify id fun stream =>
            { stream with closed := stream.closed || stream.served } } }
  | .closeSession permitted dialed =>
    if permitted && dialed then { world with requested := world.requested ++ [⟨false, false⟩] }
    else world

/-- The session holds no stream, or one on which a handshake has succeeded. -/
def Connection.Settled (connection : Connection) : Prop :=
  ∀ id ∈ connection.conn, ∀ stream ∈ connection.streams[id]?, stream.Tended

instance (connection : Connection) : Decidable connection.Settled :=
  inferInstanceAs (Decidable (∀ id ∈ connection.conn, ∀ stream ∈ connection.streams[id]?, _))

/-- No client's connection is closed while its session holds a stream without a handshake, and no
request to close a session reaches a device. -/
def Orderly (world : World) : Event → Prop
  | .close client => ∀ connection ∈ world.connections[client]?, connection.Settled
  | .attempt client _ =>
    ∀ connection ∈ world.connections[client]?, connection.early = true → connection.Settled
  | .closeSession permitted dialed => (permitted && dialed) = false
  | _ => True

instance (world : World) (event : Event) : Decidable (Orderly world event) :=
  match event with
  | .close client => inferInstanceAs (Decidable (∀ connection ∈ world.connections[client]?, _))
  | .attempt client _ => inferInstanceAs (Decidable (∀ connection ∈ world.connections[client]?, _))
  | .closeSession _ _ => inferInstanceAs (Decidable (_ = _))
  | .accept | .greet _ _ | .gone _ _ => .isTrue trivial

/-- A stream that is not tended is the one the session holds, and the connection is open. A
connection without a session holds none. -/
structure Connection.Inv (connection : Connection) : Prop where
  held : ∀ id stream, connection.streams[id]? = some stream →
    stream.Tended ∨ connection.conn = some id ∧ connection.ended = false
  idle : connection.state = .none → connection.conn = none

namespace Connection

variable {connection : Connection}

/-- A session that holds no stream dials. -/
theorem Inv.dial (inv : connection.Inv) (holdsNone : connection.conn = none)
    (isOpen : connection.ended = false) (hasSession : connection.state ≠ .none) :
    connection.dial.Inv := by
  refine ⟨fun id stream found => ?_, fun missing => absurd missing hasSession⟩
  rcases Nat.lt_or_ge id connection.streams.length with old | new
  · have foundBefore : connection.streams[id]? = some stream := by
      rw [← found]
      exact (List.getElem?_append_left old).symm
    rcases inv.held id stream foundBefore with tended | ⟨held, -⟩
    · exact .inl tended
    · cases holdsNone.symm.trans held
  · have inside := (List.getElem?_eq_some_iff.mp found).1
    simp only [Connection.dial, List.length_append, List.length_singleton] at inside
    exact .inr ⟨congrArg some (by omega), isOpen⟩

/-- A change of one stream that leaves it tended. -/
theorem Inv.tend (inv : connection.Inv) (id : Nat) (update : Stream → Stream)
    (tends : ∀ stream, (update stream).Tended) (conn : Option Nat)
    (same : conn = connection.conn ∨ conn = none ∧ connection.conn = some id) :
    { connection with streams := connection.streams.modify id update, conn }.Inv := by
  refine ⟨fun other stream found => ?_, fun missing => ?_⟩
  · dsimp only at found
    rw [List.getElem?_modify] at found
    obtain ⟨before, foundBefore, rfl⟩ := Option.map_eq_some_iff.mp found
    by_cases changed : id = other
    · rw [if_pos changed]
      exact .inl (tends before)
    · rw [if_neg changed]
      rcases inv.held other before foundBefore with tended | ⟨held, isOpen⟩
      · exact .inl tended
      · rcases same with same | ⟨-, holds⟩
        · exact .inr ⟨same.trans held, isOpen⟩
        · exact absurd (Option.some.inj (holds.symm.trans held)) changed
  · rcases same with same | ⟨dropped, -⟩
    · exact same.trans (inv.idle missing)
    · exact dropped

theorem Inv.shake (timeout : Bool) (attempt : Attempt) {id : Nat} (inv : connection.Inv)
    (holds : connection.conn = some id) : (connection.shake timeout attempt id).1.Inv := by
  unfold Connection.shake
  split
  · exact inv
  split
  · exact inv.tend id _ (fun _ => .inl rfl) none (.inr ⟨rfl, holds⟩)
  · exact inv.tend id _ (fun _ => .inr rfl) connection.conn (.inl rfl)

theorem Inv.connect (timeout : Bool) (attempt : Attempt) (inv : connection.Inv)
    (isOpen : connection.ended = false) (hasSession : connection.state ≠ .none) :
    (connection.connect timeout attempt).1.Inv := by
  unfold Connection.connect
  split
  · exact inv
  split
  · rename_i id holds
    exact inv.shake timeout attempt holds
  · rename_i holdsNone
    split
    · exact (inv.dial holdsNone isOpen hasSession).shake timeout attempt rfl
    · exact inv

/-- A connection that has a session is in any state with one. -/
theorem Inv.setState (inv : connection.Inv) {state : State} (hasSession : state ≠ .none) :
    { connection with state }.Inv :=
  ⟨inv.held, fun missing => absurd missing hasSession⟩

theorem Inv.establish (timeout : Bool) (attempt : Attempt) (inv : connection.Inv)
    (isOpen : connection.ended = false) (hasSession : connection.state ≠ .none) :
    (connection.establish timeout attempt).Inv := by
  have connected := inv.connect timeout attempt isOpen hasSession
  unfold Connection.establish
  dsimp only
  split
  · exact connected.setState nofun
  · exact connected

theorem Inv.auth (timeout : Bool) (attempt : Attempt) (inv : connection.Inv)
    (isOpen : connection.ended = false) : (connection.auth timeout attempt).Inv := by
  unfold Connection.auth
  split
  · split
    · have registered : { connection with state := .registered }.Inv := inv.setState nofun
      exact registered.establish timeout attempt isOpen nofun
    · exact inv
  · rename_i registered
    exact inv.establish timeout attempt isOpen (by rw [registered]; nofun)
  all_goals exact inv

/-- The connection is closed when the stream that its session holds is tended. -/
theorem Inv.close (inv : connection.Inv) (settled : connection.Settled) : connection.close.Inv := by
  refine ⟨fun id stream found => .inl ?_, inv.idle⟩
  rcases inv.held id stream found with tended | ⟨held, -⟩
  · exact tended
  · exact settled id held stream found

theorem Inv.attempt (timeout : Bool) (attempt : Attempt) (inv : connection.Inv)
    (isOpen : connection.ended = false) (settled : connection.early = true → connection.Settled) :
    (connection.attempt timeout attempt).Inv := by
  unfold Connection.attempt
  split
  · rename_i early
    exact inv.close (settled early)
  split
  · exact inv.auth timeout attempt isOpen
  · exact inv

theorem Inv.greet (greeting : Greeting) (inv : connection.Inv) (unused : connection.state = .none)
    (isOpen : connection.ended = false) : (connection.greet greeting).Inv := by
  have created : { connection with state := .created }.Inv := inv.setState nofun
  unfold Connection.greet
  split
  · exact inv
  split
  · exact created
  have dialed := created.dial (inv.idle unused) isOpen nofun
  split
  · exact dialed.setState nofun
  · exact dialed

/-- The agent's end of a stream goes. -/
theorem Inv.gone (inv : connection.Inv) (id : Nat) :
    { connection with
      streams := connection.streams.modify id fun stream =>
        { stream with closed := stream.closed || stream.served } }.Inv := by
  refine ⟨fun other stream found => ?_, inv.idle⟩
  rw [List.getElem?_modify] at found
  obtain ⟨before, foundBefore, rfl⟩ := Option.map_eq_some_iff.mp found
  refine (inv.held other before foundBefore).imp (fun tended => ?_) fun held => held
  split
  · rcases tended with closed | served
    · exact .inl (by simp [closed])
    · exact .inr served
  · exact tended

end Connection

/-- Every connection keeps its streams, and no stream was opened for a request. -/
structure World.Inv (world : World) : Prop where
  connections : ∀ connection ∈ world.connections, connection.Inv
  requested : world.requested = []

theorem mem_modify {α : Type} {list : List α} {index : Nat} {update : α → α} {value : α}
    (member : value ∈ list.modify index update) :
    value ∈ list ∨ ∃ before, list[index]? = some before ∧ value = update before := by
  obtain ⟨position, found⟩ := List.getElem?_of_mem member
  rw [List.getElem?_modify] at found
  obtain ⟨before, foundBefore, rfl⟩ := Option.map_eq_some_iff.mp found
  split
  · rename_i same
    exact .inr ⟨before, same ▸ foundBefore, rfl⟩
  · exact .inl (List.mem_of_getElem? foundBefore)

/-- A change of one connection that keeps what is known of it. -/
theorem World.Inv.modify {world : World} (inv : world.Inv) (client : Nat)
    (update : Connection → Connection)
    (kept : ∀ connection, world.connections[client]? = some connection → connection.Inv →
      (update connection).Inv) :
    { world with connections := world.connections.modify client update }.Inv := by
  refine ⟨fun connection member => ?_, inv.requested⟩
  rcases mem_modify member with old | ⟨before, found, rfl⟩
  · exact inv.connections connection old
  · exact kept before found (inv.connections before (List.mem_of_getElem? found))

theorem World.Inv.next (timeout : Bool) {world : World} (event : Event) (inv : world.Inv)
    (orderly : Orderly world event) : (world.next timeout event).Inv := by
  cases event with
  | accept =>
    refine ⟨fun connection member => ?_, inv.requested⟩
    rcases List.mem_append.mp member with old | new
    · exact inv.connections connection old
    · rw [List.mem_singleton.mp new]
      exact ⟨nofun, fun _ => rfl⟩
  | greet client greeting =>
    refine inv.modify client _ fun connection _ known => ?_
    split
    · rename_i fresh
      exact known.greet greeting fresh.1 fresh.2
    · exact known
  | attempt client attempt =>
    refine inv.modify client _ fun connection found known => ?_
    split
    · exact known
    · rename_i isOpen
      exact known.attempt timeout attempt (by simpa using isOpen) (orderly connection found)
  | close client =>
    exact inv.modify client _ fun connection found known => known.close (orderly connection found)
  | gone client id => exact inv.modify client _ fun connection _ known => known.gone id
  | closeSession permitted dialed =>
    have unreached : (permitted && dialed) = false := orderly
    simp only [World.next, unreached, Bool.false_eq_true, if_false]
    exact inv

/-- No stream to an agent outlives its use, in every run in which no client's connection is closed
while its session holds a stream without a handshake, and no request to close a session reaches a
device. Each event keeps every stream tended, or its connection open. -/
theorem streams_tended (timeout : Bool) (events : List Event)
    (orderly : Along (World.next timeout) Orderly .new events) :
    ∀ world ∈ visited (World.next timeout) .new events,
      (∀ connection ∈ world.connections, connection.ended = true →
        ∀ stream ∈ connection.streams, stream.Tended) ∧
      ∀ stream ∈ world.requested, stream.Tended := by
  intro world reached
  have first : World.new.Inv := ⟨nofun, rfl⟩
  obtain ⟨connections, requested⟩ := visited_keeps
    (fun _ event inv orderly => inv.next timeout event orderly) first orderly world reached
  refine ⟨fun connection member ended stream opened => ?_, ?_⟩
  · obtain ⟨id, found⟩ := List.getElem?_of_mem opened
    rcases (connections connection member).held id stream found with tended | ⟨-, isOpen⟩
    · exact tended
    · cases isOpen.symm.trans ended
  · rw [requested]
    nofun

/-- A session that was evaluated, with a stream. -/
def greeted : Greeting := ⟨true, true, true, true⟩

/-- An attempt in which everything succeeds. -/
def welcome : Attempt := ⟨true, true, true, true, true, true, true, true, true, true⟩

/-- A wrong password and then the right one. -/
def secondTry : List Event :=
  [.accept, .greet 0 greeted, .attempt 0 { welcome with handshake := false }, .attempt 0 welcome,
    .close 0]

theorem streams_tended_after_second_try :
    (∃ world ∈ visited (World.next true) .new secondTry,
      world.connections = [⟨.finished, [⟨false, true⟩, ⟨true, false⟩], some 1, true⟩]) ∧
    ∀ world ∈ visited (World.next true) .new secondTry, ∀ connection ∈ world.connections,
      connection.ended = true → ∀ stream ∈ connection.streams, stream.Tended :=
  ⟨by decide +kernel, fun world reached =>
    (streams_tended true secondTry (by decide +kernel) world reached).1⟩

/-- A client that leaves without an attempt leaves a stream behind, and so does a request to close
a session. -/
theorem streams_left_behind :
    ∃ world ∈ visited (World.next true) .new
        [.accept, .greet 0 greeted, .close 0, .closeSession true true],
      world.connections = [⟨.evaluated, [⟨false, false⟩], some 0, true⟩] ∧
        world.requested = [⟨false, false⟩] ∧ ¬ Stream.Tended ⟨false, false⟩ := by
  decide +kernel

end ShellHub.AgentStreams
