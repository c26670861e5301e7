import ShellHub.JsonTexts
import ShellHub.Sequences

/-!
# The envelope of a tunnel stream

Before a stream of the second transport version carries an SSH session or a proxied connection, the
two ends exchange JSON: `prepare` writes what the stream is for, and for a proxied connection it
waits for the status that the agent's handler answers. The encoder ends each value with a newline. A
decoder takes what the transport hands out in one read, which may be less than the value or more,
and knows with the closing brace that the value is complete. What it has read beyond stays in its
buffer.

The server hands its buffer on to the caller, with the newline of the status in front. The agent
drops its buffer: a newline that comes with a later read reaches the SSH server or the proxied
service, and what the caller wrote is lost if it comes with the end of the value. The streams are
exact for an SSH session if the read that ends the value ends with the newline.
-/

namespace ShellHub.Envelopes

open JsonTexts Scanners Sequences
open Runes (Bytes)

/-! ## The two ends -/

/-- What the server opens a stream for: `SSHOpenTarget` and `HTTPProxyTarget`. -/
inductive Target where
  | sshOpen (sessionID : String)
  | httpProxy (requestID host : String) (port : Int)
  deriving DecidableEq, Repr

/-- The members that `prepare` writes. The encoder sorts them by name. -/
def Target.headers : Target → List (String × String)
  | .sshOpen sessionID => [("id", sessionID)]
  | .httpProxy requestID host port =>
    [("host", host), ("id", requestID), ("port", toString port)]

/-- `Encode` writes the value and a newline. -/
def encoded (members : List (String × String)) : Bytes := encode members ++ [newline]

/-- A member of a decoded object, or the empty text. -/
def get (members : List (Bytes × Bytes)) (name : String) : Bytes :=
  (members.reverse.lookup (utf8 name)).getD []

/-- Why `prepare` fails: the agent's status is not ok, the limit was reached before a value was
complete, or the bytes are no value. -/
inductive PrepareError where
  | negotiation (message : Bytes)
  | unexpectedEOF
  | invalid
  deriving DecidableEq, Repr

/-- How far `prepare` is. Its decoder has a buffer and reads at most a limit of further bytes. The
connection that it returns reads what was buffered, and then from the stream. -/
inductive Prepare where
  | start
  | decoding (buffer : Bytes) (limit : Nat)
  | ready (buffered : Bytes)
  | failed (error : PrepareError)
  deriving DecidableEq, Repr

/-- Whom the agent joins to a stream. -/
inductive Peer where
  | session (id : Bytes)
  | service (host port : Bytes)
  deriving DecidableEq, Repr

/-- How far the agent's handler is. Its decoder has a buffer. It may fail with a message for the
server. -/
inductive Handler where
  | headers (buffer : Bytes)
  | dialing (host port : Bytes)
  | serving (peer : Peer)
  | failed (message : Option String)
  deriving DecidableEq, Repr

/-- A stream with its two ends: the bytes on their way in both directions, and what was written to
it and read from it after the exchange. -/
structure Stream where
  toAgent : Bytes
  toServer : Bytes
  server : Prepare
  agent : Handler
  callerWrote : Bytes
  callerRead : Bytes
  agentWrote : Bytes
  agentRead : Bytes
  deriving DecidableEq, Repr

/-- A stream for which both ends have agreed on the protocol. -/
def Stream.new : Stream := ⟨[], [], .start, .headers [], [], [], [], []⟩

/-- What the ends of a stream do. A read takes at most the given number of bytes of those that are
on their way. -/
inductive Event where
  | encode
  | decodeStatus (count : Nat)
  | decodeHeaders (count : Nat)
  | dial (result : Except String Unit)
  | callerWrite (bytes : Bytes)
  | callerRead (count : Nat)
  | agentWrite (bytes : Bytes)
  | agentRead (count : Nat)
  deriving DecidableEq, Repr

/-- The limit of `prepare` for the status. -/
def statusLimit : Nat := 512

/-- What `prepare` does after the headers: for an SSH session they are all, for a proxied connection
it waits for the status. -/
def Target.prepared : Target → Prepare
  | .sshOpen _ => .ready []
  | .httpProxy _ _ _ => .decoding [] statusLimit

/-- What the agent does after the headers: `sshHandlerV2` serves the session, and
`httpProxyHandlerV2` dials the service. -/
def Target.handled (members : List (Bytes × Bytes)) : Target → Handler
  | .sshOpen _ => .serving (.session (get members "id"))
  | .httpProxy _ _ _ => .dialing (get members "host") (get members "port")

/-- `prepare` writes the headers. -/
def Stream.encode (target : Target) (stream : Stream) : Stream :=
  match stream.server with
  | .start =>
    { stream with
      toAgent := stream.toAgent ++ encoded target.headers, server := target.prepared }
  | _ => stream

/-- `prepare` reads the status. -/
def Stream.decodeStatus (stream : Stream) (count : Nat) : Stream :=
  match stream.server with
  | .decoding _ 0 => { stream with server := .failed .unexpectedEOF }
  | .decoding buffer (limit + 1) =>
    let size := min count (limit + 1)
    let chunk := stream.toServer.take size
    let rest := stream.toServer.drop size
    match scan (buffer ++ chunk) with
    | .pending _ =>
      { stream with
        toServer := rest, server := .decoding (buffer ++ chunk) (limit + 1 - chunk.length) }
    | .complete members buffered =>
      { stream with
        toServer := rest
        server :=
          if get members "status" = utf8 "ok" then .ready buffered
          else .failed (.negotiation (get members "message")) }
    | .invalid => { stream with toServer := rest, server := .failed .invalid }
  | _ => stream

/-- `Context.Headers` of the agent's handlers. -/
def Stream.decodeHeaders (target : Target) (stream : Stream) (count : Nat) : Stream :=
  match stream.agent with
  | .headers buffer =>
    let chunk := stream.toAgent.take count
    let rest := stream.toAgent.drop count
    match scan (buffer ++ chunk) with
    | .pending _ => { stream with toAgent := rest, agent := .headers (buffer ++ chunk) }
    | .complete members _ =>
      { stream with toAgent := rest, agent := target.handled members }
    | .invalid => { stream with toAgent := rest, agent := .failed none }
  | _ => stream

/-- `httpProxyHandlerV2` has dialed the service, or could not reach it, and says so with
`Context.Status` or `Context.Error`. -/
def Stream.dial (stream : Stream) (result : Except String Unit) : Stream :=
  match stream.agent with
  | .dialing host port =>
    match result with
    | .ok () =>
      { stream with
        toServer := stream.toServer ++ encoded [("status", "ok")]
        agent := .serving (.service host port) }
    | .error message =>
      { stream with
        toServer := stream.toServer ++ encoded [("error", message)]
        agent := .failed (some message) }
  | _ => stream

/-- The caller of `prepare` writes to the connection. -/
def Stream.callerWrite (stream : Stream) (bytes : Bytes) : Stream :=
  match stream.server with
  | .ready _ =>
    { stream with
      toAgent := stream.toAgent ++ bytes, callerWrote := stream.callerWrote ++ bytes }
  | _ => stream

/-- The caller of `prepare` reads from the connection: what was buffered first (`withBuffered`). -/
def Stream.callerReads (stream : Stream) (count : Nat) : Stream :=
  match stream.server with
  | .ready [] =>
    { stream with
      toServer := stream.toServer.drop count
      callerRead := stream.callerRead ++ stream.toServer.take count }
  | .ready (byte :: buffered) =>
    { stream with
      server := .ready ((byte :: buffered).drop count)
      callerRead := stream.callerRead ++ (byte :: buffered).take count }
  | _ => stream

/-- The SSH server writes to the stream, or the proxied service does and the handler copies it. -/
def Stream.agentWrite (stream : Stream) (bytes : Bytes) : Stream :=
  match stream.agent with
  | .serving _ =>
    { stream with
      toServer := stream.toServer ++ bytes, agentWrote := stream.agentWrote ++ bytes }
  | _ => stream

/-- The SSH server reads from the stream, or the handler copies to the proxied service. -/
def Stream.agentReads (stream : Stream) (count : Nat) : Stream :=
  match stream.agent with
  | .serving _ =>
    { stream with
      toAgent := stream.toAgent.drop count
      agentRead := stream.agentRead ++ stream.toAgent.take count }
  | _ => stream

def Stream.next (target : Target) (stream : Stream) : Event → Stream
  | .encode => stream.encode target
  | .decodeStatus count => stream.decodeStatus count
  | .decodeHeaders count => stream.decodeHeaders target count
  | .dial result => stream.dial result
  | .callerWrite bytes => stream.callerWrite bytes
  | .callerRead count => stream.callerReads count
  | .agentWrite bytes => stream.agentWrite bytes
  | .agentRead count => stream.agentReads count

/-! ## From the caller to the agent -/

/-- `prepare` has written the headers. -/
def Prepare.begun : Prepare → Bool
  | .start => false
  | _ => true

/-- What `prepare` and its caller have written. -/
def Stream.sent (target : Target) (stream : Stream) : Bytes :=
  if stream.server.begun then encoded target.headers ++ stream.callerWrote else []

/-- A read of the agent's decoder does not end between the value and its newline, and not beyond the
newline. -/
def Aligned (target : Target) (stream : Stream) (event : Event) : Prop :=
  match event, stream.agent with
  | .decodeHeaders count, .headers buffer =>
    (buffer ++ stream.toAgent.take count).length ≠ (encode target.headers).length ∧
      (buffer ++ stream.toAgent.take count).length ≤ (encode target.headers).length + 1
  | _, _ => True

instance (target : Target) (stream : Stream) (event : Event) :
    Decidable (Aligned target stream event) := by
  unfold Aligned
  split <;> infer_instance

/-- The bytes on their way to the agent. As long as its handler decodes the headers they are the
rest of what was sent, afterwards the rest of what the caller wrote. -/
structure Forward (target : Target) (stream : Stream) : Prop where
  silent : stream.server.begun = false → stream.callerWrote = []
  decoding : ∀ buffer, stream.agent = .headers buffer →
    stream.agentRead = [] ∧ buffer ++ stream.toAgent = stream.sent target
  decoded : (∀ buffer, stream.agent ≠ .headers buffer) →
    stream.server.begun = true ∧ stream.agentRead ++ stream.toAgent = stream.callerWrote

section Forward

variable {target : Target} {stream : Stream} (forward : Forward target stream)

include forward

/-- What only concerns the other direction. -/
theorem Forward.frame {server : Prepare} {toServer callerRead agentWrote : Bytes}
    (begun : server.begun = stream.server.begun) :
    Forward target { stream with toServer, server, callerRead, agentWrote } := by
  constructor
  · simp only [begun]
    exact forward.silent
  · simp only [Stream.sent, begun]
    exact forward.decoding
  · simp only [begun]
    exact forward.decoded

/-- The headers are sent first, before `prepare` returns and the caller can write. -/
theorem encode_forward : Forward target (stream.encode target) := by
  unfold Stream.encode
  split
  · rename_i start
    have unbegun : stream.server.begun = false := by rw [start]; rfl
    have begun : target.prepared.begun = true := by cases target <;> rfl
    refine ⟨?_, fun buffer decoding => ?_, fun decoded => ?_⟩
    · exact fun _ => forward.silent unbegun
    · obtain ⟨none, same⟩ := forward.decoding buffer decoding
      rw [Stream.sent, if_neg (by rw [unbegun]; decide)] at same
      obtain ⟨rfl, empty⟩ := List.append_eq_nil_iff.mp same
      refine ⟨none, ?_⟩
      rw [Stream.sent, if_pos begun, empty, forward.silent unbegun]
      simp
    · have started := (forward.decoded decoded).1
      rw [unbegun] at started
      cases started
  · exact forward

/-- Reading the status takes nothing from what is on its way to the agent. -/
theorem decodeStatus_forward (count : Nat) : Forward target (stream.decodeStatus count) := by
  unfold Stream.decodeStatus
  split
  · rename_i decoding
    exact forward.frame (by rw [decoding]; rfl)
  · rename_i decoding
    dsimp only
    split
    · exact forward.frame (by rw [decoding]; rfl)
    · exact forward.frame (by rw [decoding]; split <;> rfl)
    · exact forward.frame (by rw [decoding]; rfl)
  · exact forward

/-- The agent's decoder drops the newline, and nothing else, if the read that ends the headers ends
with it. -/
theorem decodeHeaders_forward (count : Nat) (aligned : Aligned target stream (.decodeHeaders count)) :
    Forward target (stream.decodeHeaders target count) := by
  unfold Stream.decodeHeaders
  split
  case h_2 => exact forward
  rename_i buffer decoding
  simp only [Aligned, decoding] at aligned
  obtain ⟨none, same⟩ := forward.decoding buffer decoding
  have cut : (buffer ++ stream.toAgent.take count) ++ stream.toAgent.drop count =
      stream.sent target := by
    rw [List.append_assoc, List.take_append_drop, same]
  dsimp only at aligned ⊢
  generalize buffer ++ stream.toAgent.take count = chunk at aligned cut ⊢
  by_cases begun : stream.server.begun = true
  · rw [Stream.sent, if_pos begun, encoded, List.append_assoc] at cut
    rcases scan_part cut with ⟨-, state, waits⟩ | ⟨tail, rfl, complete⟩
    · rw [waits]
      refine ⟨forward.silent, ?_, fun decoded => absurd rfl (decoded _)⟩
      rintro _ ⟨⟩
      refine ⟨none, ?_⟩
      rw [Stream.sent, if_pos begun, encoded, List.append_assoc]
      exact cut
    · rw [complete]
      refine ⟨forward.silent, ?_, fun _ => ⟨begun, ?_⟩⟩
      · intro _ impossible
        cases target <;> cases impossible
      · -- The rest of what was scanned is the newline.
        rw [List.append_assoc] at cut
        have rest := List.append_cancel_left cut
        rw [List.length_append] at aligned
        have single : tail.length = [newline].length := by
          simp only [List.length_singleton]
          omega
        rw [none]
        exact (List.append_inj rest single).2
  · rw [Stream.sent, if_neg begun] at cut
    obtain ⟨rfl, empty⟩ := List.append_eq_nil_iff.mp cut
    have waits : scan [] = .pending .initial := rfl
    rw [waits]
    refine ⟨forward.silent, ?_, fun decoded => absurd rfl (decoded _)⟩
    rintro _ ⟨⟩
    refine ⟨none, ?_⟩
    rw [Stream.sent, if_neg begun]
    exact List.append_eq_nil_iff.mpr ⟨rfl, empty⟩

/-- A handler that dials has decoded the headers, and so it has when the service is reached or not. -/
theorem dial_forward (result : Except String Unit) : Forward target (stream.dial result) := by
  unfold Stream.dial
  split
  · rename_i dialing
    have decoded := forward.decoded (by rw [dialing]; rintro _ ⟨⟩)
    split
    · exact ⟨forward.silent, by rintro _ ⟨⟩, fun _ => decoded⟩
    · exact ⟨forward.silent, by rintro _ ⟨⟩, fun _ => decoded⟩
  · exact forward

/-- What the caller writes is sent behind all that was sent before. -/
theorem callerWrite_forward (bytes : Bytes) : Forward target (stream.callerWrite bytes) := by
  unfold Stream.callerWrite
  split
  · rename_i ready
    have begun : stream.server.begun = true := by rw [ready]; rfl
    refine ⟨fun unbegun => ?_, fun buffer decoding => ?_, fun decoded => ⟨begun, ?_⟩⟩
    · exact absurd (begun.symm.trans unbegun) (by decide)
    · obtain ⟨none, same⟩ := forward.decoding buffer decoding
      refine ⟨none, ?_⟩
      rw [Stream.sent, if_pos begun] at same ⊢
      rw [← List.append_assoc, same, List.append_assoc]
    · rw [← List.append_assoc, (forward.decoded decoded).2]
  · exact forward

/-- The agent reads the next of the bytes that are on their way. -/
theorem agentReads_forward (count : Nat) : Forward target (stream.agentReads count) := by
  unfold Stream.agentReads
  split
  · rename_i serving
    obtain ⟨begun, same⟩ := forward.decoded (by rw [serving]; rintro _ ⟨⟩)
    refine ⟨forward.silent, ?_, fun _ => ⟨begun, ?_⟩⟩
    · rw [serving]
      rintro _ ⟨⟩
    · rw [List.append_assoc, List.take_append_drop, same]
  · exact forward

end Forward

/-! ## From the agent to the caller -/

/-- The stream of an SSH session towards the caller. -/
structure SessionBackward (stream : Stream) : Prop where
  agent : ∀ host port, stream.agent ≠ .dialing host port
  server : stream.server = .start ∨ stream.server = .ready []
  same : stream.callerRead ++ stream.toServer = stream.agentWrote

/-- The stream of a session carries nothing to the caller but what the SSH server writes: `prepare`
waits for no status, and the handler dials nobody. -/
theorem next_sessionBackward {sessionID : String} {stream : Stream}
    (backward : SessionBackward stream) (event : Event) :
    SessionBackward (stream.next (.sshOpen sessionID) event) := by
  obtain ⟨agent, server, same⟩ := backward
  cases event with
  | encode =>
    unfold Stream.next Stream.encode
    dsimp only
    split
    · exact ⟨agent, .inr rfl, same⟩
    · exact ⟨agent, server, same⟩
  | decodeStatus count =>
    unfold Stream.next Stream.decodeStatus
    rcases server with start | ready
    · simp only [start]
      exact ⟨agent, .inl start, same⟩
    · simp only [ready]
      exact ⟨agent, .inr ready, same⟩
  | decodeHeaders count =>
    unfold Stream.next Stream.decodeHeaders
    dsimp only
    split
    · split <;> exact ⟨by rintro _ _ ⟨⟩, server, same⟩
    · exact ⟨agent, server, same⟩
  | dial result =>
    unfold Stream.next Stream.dial
    dsimp only
    split
    · rename_i dialing
      exact absurd dialing (agent _ _)
    · exact ⟨agent, server, same⟩
  | callerRead count =>
    unfold Stream.next Stream.callerReads
    rcases server with start | ready
    · simp only [start]
      exact ⟨agent, .inl start, same⟩
    · simp only [ready]
      refine ⟨agent, .inr rfl, ?_⟩
      rw [List.append_assoc, List.take_append_drop, same]
  | agentWrite bytes =>
    unfold Stream.next Stream.agentWrite
    dsimp only
    split
    · refine ⟨agent, server, ?_⟩
      rw [← List.append_assoc, same]
    · exact ⟨agent, server, same⟩
  | callerWrite | agentRead =>
    simp only [Stream.next, Stream.callerWrite, Stream.agentReads]
    split <;> exact ⟨agent, server, same⟩

/-- What the agent's handler has answered. -/
def Handler.answer : Handler → Bytes
  | .serving _ => encoded [("status", "ok")]
  | .failed (some message) => encoded [("error", message)]
  | _ => []

/-- The stream of a proxied connection towards the caller. As long as `prepare` decodes the status,
its buffer and the bytes on their way are what the agent's end has written. Afterwards the caller
reads a newline and what the service has written. -/
structure ProxyBackward (stream : Stream) : Prop where
  quiet : (∀ peer, stream.agent ≠ .serving peer) → stream.agentWrote = []
  start : stream.server = .start → stream.callerRead = [] ∧
    stream.toServer = stream.agent.answer ++ stream.agentWrote
  decoding : ∀ buffer limit, stream.server = .decoding buffer limit → stream.callerRead = [] ∧
    buffer ++ stream.toServer = stream.agent.answer ++ stream.agentWrote
  ready : ∀ buffered, stream.server = .ready buffered →
    (∃ peer, stream.agent = .serving peer) ∧
      stream.callerRead ++ buffered ++ stream.toServer = newline :: stream.agentWrote

/-- Nothing is on its way in a new stream. -/
theorem new_proxyBackward : ProxyBackward .new :=
  ⟨fun _ => rfl, fun _ => ⟨rfl, rfl⟩, by rintro _ _ ⟨⟩, by rintro _ ⟨⟩⟩

/-- An error of the agent has no other member. -/
theorem get_error {name : String} (differs : (utf8 name == utf8 "error") = false)
    (message : String) : get ([("error", message)].map memberBytes) name = [] := by
  simp [get, memberBytes, differs]

/-- A value that is complete in what was read is the first that was written. Behind it, in the buffer
and on its way, there is its newline and all that was written later. -/
theorem complete_of_cut {members : List (String × String)} {found : List (Bytes × Bytes)}
    {chunk rest bytes buffered : Bytes} (cut : chunk ++ rest = encoded members ++ bytes)
    (complete : scan chunk = .complete found buffered) :
    found = members.map memberBytes ∧ buffered ++ rest = newline :: bytes := by
  rw [encoded, List.append_assoc] at cut
  rcases scan_part cut with ⟨-, state, waits⟩ | ⟨tail, rfl, first⟩
  · rw [waits] at complete
    cases complete
  · rw [first] at complete
    obtain ⟨rfl, rfl⟩ := Progress.complete.inj complete
    rw [List.append_assoc] at cut
    exact ⟨rfl, List.append_cancel_left cut⟩

section ProxyBackward

variable {stream later : Stream} {requestID host : String} {port : Int}
  (backward : ProxyBackward stream)

include backward

/-- A handler that has neither answered nor written goes on without doing so. -/
theorem ProxyBackward.silent (before : ∀ peer, stream.agent ≠ .serving peer)
    (unanswered : stream.agent.answer = []) (still : later.agent.answer = [])
    (toServer : later.toServer = stream.toServer)
    (agentWrote : later.agentWrote = stream.agentWrote)
    (callerRead : later.callerRead = stream.callerRead) (server : later.server = stream.server) :
    ProxyBackward later := by
  have answer := still.trans unanswered.symm
  constructor
  · rw [agentWrote]
    exact fun _ => backward.quiet before
  · rw [server, callerRead, toServer, agentWrote, answer]
    exact backward.start
  · rw [server, callerRead, toServer, agentWrote, answer]
    exact backward.decoding
  · intro buffered ready
    rw [server] at ready
    obtain ⟨peer, serving⟩ := (backward.ready buffered ready).1
    exact absurd serving (before peer)

/-- When `prepare` starts to decode the status, it has read nothing of it. -/
theorem encode_backward : ProxyBackward (stream.encode (.httpProxy requestID host port)) := by
  unfold Stream.encode
  split
  · rename_i start
    refine ⟨backward.quiet, by rintro ⟨⟩, ?_, by rintro _ ⟨⟩⟩
    rintro _ _ ⟨⟩
    exact backward.start start
  · exact backward

/-- A status that is ok comes from a handler that serves, and the buffer keeps its newline. -/
theorem ProxyBackward.served {members : List (Bytes × Bytes)} {chunk rest buffered : Bytes}
    (cut : chunk ++ rest = stream.agent.answer ++ stream.agentWrote)
    (complete : scan chunk = .complete members buffered) (ok : get members "status" = utf8 "ok") :
    (∃ peer, stream.agent = .serving peer) ∧ buffered ++ rest = newline :: stream.agentWrote := by
  have answered (silent : stream.agent.answer = [])
      (idle : ∀ peer, stream.agent ≠ .serving peer) : False := by
    rw [silent, backward.quiet idle] at cut
    rw [(List.append_eq_nil_iff.mp cut).1] at complete
    cases complete
  cases agent : stream.agent with
  | serving peer =>
    rw [agent] at cut
    exact ⟨⟨peer, rfl⟩, (complete_of_cut cut complete).2⟩
  | failed message =>
    cases message with
    | none => exact (answered (by rw [agent]; rfl) (by rw [agent]; rintro _ ⟨⟩)).elim
    | some message =>
      rw [agent] at cut
      obtain ⟨rfl, -⟩ := complete_of_cut cut complete
      rw [get_error (by decide +kernel)] at ok
      exact absurd ok (by decide)
  | headers buffer | dialing host port =>
    exact (answered (by rw [agent]; rfl) (by rw [agent]; rintro _ ⟨⟩)).elim

/-- The decoder of `prepare` keeps the newline of the status. -/
theorem decodeStatus_backward (count : Nat) : ProxyBackward (stream.decodeStatus count) := by
  unfold Stream.decodeStatus
  split
  · exact ⟨backward.quiet, by rintro ⟨⟩, by rintro _ _ ⟨⟩, by rintro _ ⟨⟩⟩
  · rename_i buffer limit decoding
    obtain ⟨none, same⟩ := backward.decoding _ _ decoding
    have cut : (buffer ++ stream.toServer.take (min count (limit + 1))) ++
        stream.toServer.drop (min count (limit + 1)) =
          stream.agent.answer ++ stream.agentWrote := by
      rw [List.append_assoc, List.take_append_drop, same]
    dsimp only
    split
    · refine ⟨backward.quiet, by rintro ⟨⟩, ?_, by rintro _ ⟨⟩⟩
      rintro _ _ ⟨⟩
      exact ⟨none, cut⟩
    · rename_i members buffered complete
      refine ⟨backward.quiet, ?_, ?_, ?_⟩
      · dsimp only
        split <;> rintro ⟨⟩
      · dsimp only
        split <;> rintro _ _ ⟨⟩
      · intro rest ready
        split at ready
        · rename_i ok
          cases ready
          obtain ⟨serving, kept⟩ := backward.served cut complete ok
          refine ⟨serving, ?_⟩
          rw [none]
          exact kept
        · cases ready
    · exact ⟨backward.quiet, by rintro ⟨⟩, by rintro _ _ ⟨⟩, by rintro _ ⟨⟩⟩
  · exact backward

/-- A handler that decodes the headers of a proxied connection has not answered, and dials next. -/
theorem decodeHeaders_backward (count : Nat) :
    ProxyBackward (stream.decodeHeaders (.httpProxy requestID host port) count) := by
  unfold Stream.decodeHeaders
  split
  · rename_i buffer headers
    have before : ∀ peer, stream.agent ≠ .serving peer := by rw [headers]; rintro _ ⟨⟩
    have unanswered : stream.agent.answer = [] := by rw [headers]; rfl
    dsimp only
    split <;> exact backward.silent before unanswered rfl rfl rfl rfl rfl
  · exact backward

/-- The answer of the handler comes before all that the service writes. -/
theorem dial_backward (result : Except String Unit) : ProxyBackward (stream.dial result) := by
  unfold Stream.dial
  split
  · rename_i host port dialing
    have unserved : ∀ peer, stream.agent ≠ .serving peer := by rw [dialing]; rintro _ ⟨⟩
    have silent := backward.quiet unserved
    have unanswered : stream.agent.answer ++ stream.agentWrote = [] := by rw [dialing, silent]; rfl
    -- Whatever is answered is all that the server has to read.
    have answers (agent : Handler) :
        ProxyBackward { stream with toServer := stream.toServer ++ agent.answer, agent } := by
      refine ⟨fun _ => silent, fun start => ?_, fun buffer limit decoding => ?_, ?_⟩
      · obtain ⟨none, same⟩ := backward.start start
        rw [unanswered] at same
        simp [none, same, silent]
      · obtain ⟨none, same⟩ := backward.decoding _ _ decoding
        rw [unanswered] at same
        refine ⟨none, ?_⟩
        rw [← List.append_assoc, same, silent, List.nil_append, List.append_nil]
      · intro buffered ready
        obtain ⟨peer, serving⟩ := (backward.ready buffered ready).1
        exact absurd serving (unserved peer)
    split
    · exact answers (.serving (.service host port))
    · exact answers (.failed (some _))
  · exact backward

/-- The caller reads the buffer of `prepare` first and then the bytes on their way. -/
theorem callerReads_backward (count : Nat) : ProxyBackward (stream.callerReads count) := by
  unfold Stream.callerReads
  split
  · rename_i ready
    obtain ⟨serving, same⟩ := backward.ready _ ready
    refine ⟨backward.quiet, by rw [ready]; rintro ⟨⟩, by rw [ready]; rintro _ _ ⟨⟩, ?_⟩
    rw [ready]
    rintro _ ⟨⟩
    refine ⟨serving, ?_⟩
    rw [← same]
    simp
  · rename_i byte buffered ready
    obtain ⟨serving, same⟩ := backward.ready _ ready
    refine ⟨backward.quiet, by rintro ⟨⟩, by rintro _ _ ⟨⟩, ?_⟩
    rintro _ ⟨⟩
    refine ⟨serving, ?_⟩
    rw [← same, List.append_assoc stream.callerRead, List.take_append_drop]
  · exact backward

/-- What the service writes comes behind the answer of the handler. -/
theorem agentWrite_backward (bytes : Bytes) : ProxyBackward (stream.agentWrite bytes) := by
  unfold Stream.agentWrite
  split
  · rename_i peer serving
    refine ⟨fun idle => absurd serving (idle peer), fun start => ?_,
      fun buffer limit decoding => ?_, fun buffered ready => ?_⟩
    · obtain ⟨none, same⟩ := backward.start start
      refine ⟨none, ?_⟩
      rw [same, List.append_assoc]
    · obtain ⟨none, same⟩ := backward.decoding _ _ decoding
      refine ⟨none, ?_⟩
      rw [← List.append_assoc, same, List.append_assoc]
    · obtain ⟨peer, same⟩ := backward.ready _ ready
      refine ⟨peer, ?_⟩
      rw [← List.append_assoc, same, List.cons_append]
  · exact backward

/-- Every event keeps the bytes of a proxied connection in order towards the caller. -/
theorem next_proxyBackward (event : Event) :
    ProxyBackward (stream.next (.httpProxy requestID host port) event) := by
  cases event with
  | encode => exact encode_backward backward
  | decodeStatus count => exact decodeStatus_backward backward count
  | decodeHeaders count => exact decodeHeaders_backward backward count
  | dial result => exact dial_backward backward result
  | callerRead count => exact callerReads_backward backward count
  | agentWrite bytes => exact agentWrite_backward backward bytes
  | callerWrite | agentRead =>
    simp only [Stream.next, Stream.callerWrite, Stream.agentReads]
    split <;> exact ⟨backward.quiet, backward.start, backward.decoding, backward.ready⟩

end ProxyBackward

/-! ## Transparency -/

/-- The SSH server or the service reads exactly what the caller wrote: what was read and what is
still on its way is what was written. -/
def Stream.ExactToAgent (stream : Stream) : Prop :=
  match stream.agent with
  | .serving _ => stream.agentRead ++ stream.toAgent = stream.callerWrote
  | _ => True

/-- The caller reads exactly what the SSH server or the service wrote. -/
def Stream.ExactToCaller (stream : Stream) : Prop :=
  match stream.server with
  | .ready buffered => stream.callerRead ++ buffered ++ stream.toServer = stream.agentWrote
  | _ => True

instance (stream : Stream) : Decidable stream.ExactToAgent := by
  unfold Stream.ExactToAgent
  split <;> infer_instance

instance (stream : Stream) : Decidable stream.ExactToCaller := by
  unfold Stream.ExactToCaller
  split <;> infer_instance

/-- The service of a proxied connection cannot be reached. -/
def Unreached (stream : Stream) (event : Event) : Prop :=
  match event, stream.agent with
  | .dial result, .dialing _ _ => result ≠ .ok ()
  | _, _ => True

/-- Every event keeps the bytes in order towards the agent, if the reads of its decoder are aligned
with the headers. -/
theorem next_forward {target : Target} {stream : Stream} {event : Event}
    (forward : Forward target stream) (aligned : Aligned target stream event) :
    Forward target (stream.next target event) := by
  cases event with
  | encode => exact encode_forward forward
  | decodeStatus count => exact decodeStatus_forward forward count
  | decodeHeaders count => exact decodeHeaders_forward forward count aligned
  | dial result => exact dial_forward forward result
  | callerWrite bytes => exact callerWrite_forward forward bytes
  | agentRead count => exact agentReads_forward forward count
  | callerRead count =>
    unfold Stream.next Stream.callerReads
    dsimp only
    split
    · exact forward.frame rfl
    · rename_i ready
      exact forward.frame (by rw [ready]; rfl)
    · exact forward
  | agentWrite bytes =>
    unfold Stream.next Stream.agentWrite
    dsimp only
    split
    · exact forward.frame rfl
    · exact forward

/-- A proxied connection whose service cannot be reached is never served. -/
theorem next_unserved {requestID host : String} {port : Int} {stream : Stream} {event : Event}
    (unserved : ∀ peer, stream.agent ≠ .serving peer)
    (unreached : Unreached stream event) :
    ∀ peer, (stream.next (.httpProxy requestID host port) event).agent ≠ .serving peer := by
  cases event with
  | encode =>
    unfold Stream.next Stream.encode
    dsimp only
    split <;> exact unserved
  | decodeStatus count =>
    unfold Stream.next Stream.decodeStatus
    dsimp only
    split
    · exact unserved
    · split <;> exact unserved
    · exact unserved
  | decodeHeaders count =>
    unfold Stream.next Stream.decodeHeaders
    dsimp only
    split
    · split <;> rintro _ ⟨⟩
    · exact unserved
  | dial result =>
    unfold Stream.next Stream.dial
    dsimp only
    split
    · rename_i dialing
      simp only [Unreached, dialing] at unreached
      split
      · exact absurd rfl unreached
      · rintro _ ⟨⟩
    · exact unserved
  | callerWrite | callerRead =>
    simp only [Stream.next, Stream.callerWrite, Stream.callerReads]
    split <;> exact unserved
  | agentWrite | agentRead =>
    simp only [Stream.next, Stream.agentWrite, Stream.agentReads]
    exact unserved

/-- The stream of a session is exact towards the caller. -/
theorem session_exact (sessionID : String) (events : List Event) :
    ∀ stream ∈ visited (Stream.next (.sshOpen sessionID)) .new events, stream.ExactToCaller := by
  intro stream member
  have begins : SessionBackward .new := ⟨by rintro _ _ ⟨⟩, .inl rfl, rfl⟩
  have backward := visited_always SessionBackward
    (fun _ event backward => next_sessionBackward backward event) begins events stream member
  unfold Stream.ExactToCaller
  rcases backward.server with start | ready
  · rw [start]
    trivial
  · rw [ready]
    dsimp only
    rw [List.append_nil]
    exact backward.same

/-- The caller of a proxied connection whose service cannot be reached gets no connection. -/
theorem proxied_refused (requestID host : String) (port : Int) (events : List Event)
    (unreached : Along (Stream.next (.httpProxy requestID host port)) Unreached .new events) :
    ∀ stream ∈ visited (Stream.next (.httpProxy requestID host port)) .new events,
      ∀ buffered, stream.server ≠ .ready buffered := by
  intro stream member buffered ready
  have begins : ProxyBackward .new ∧ ∀ peer, Stream.new.agent ≠ .serving peer :=
    ⟨new_proxyBackward, by rintro _ ⟨⟩⟩
  have kept (stream : Stream) (event : Event)
      (inv : ProxyBackward stream ∧ ∀ peer, stream.agent ≠ .serving peer)
      (condition : Unreached stream event) :
      ProxyBackward (stream.next (.httpProxy requestID host port) event) ∧
        ∀ peer, (stream.next (.httpProxy requestID host port) event).agent ≠ .serving peer :=
    ⟨next_proxyBackward inv.1 event, next_unserved inv.2 condition⟩
  obtain ⟨backward, unserved⟩ := visited_keeps kept begins unreached stream member
  obtain ⟨peer, serving⟩ := (backward.ready buffered ready).1
  exact unserved peer serving

/-- The stream is exact towards the agent if the reads of its decoder are aligned with the headers,
and towards the caller if it carries a session, or if there is nobody to connect the caller with.
Each event keeps the bytes on their way the rest of what was sent, behind what was read of it. -/
theorem envelope_transparent (target : Target) (events : List Event) :
    (Along (Stream.next target) (Aligned target) .new events →
      ∀ stream ∈ visited (Stream.next target) .new events, stream.ExactToAgent) ∧
    ((∃ sessionID, target = .sshOpen sessionID) ∨
        Along (Stream.next target) Unreached .new events →
      ∀ stream ∈ visited (Stream.next target) .new events, stream.ExactToCaller) := by
  constructor
  · intro aligned stream member
    have begins : Forward target .new := ⟨fun _ => rfl, by rintro _ ⟨⟩; exact ⟨rfl, rfl⟩,
      fun decoded => absurd rfl (decoded _)⟩
    have forward := visited_keeps (fun stream event => next_forward) begins aligned stream member
    unfold Stream.ExactToAgent
    split
    · rename_i serving
      exact (forward.decoded (by rw [serving]; rintro _ ⟨⟩)).2
    · trivial
  · intro condition stream member
    cases target with
    | sshOpen sessionID => exact session_exact sessionID events stream member
    | httpProxy requestID host port =>
      rcases condition with ⟨_, ⟨⟩⟩ | unreached
      unfold Stream.ExactToCaller
      split
      · rename_i ready
        exact absurd ready (proxied_refused requestID host port events unreached stream member _)
      · trivial

/-- The headers of the session come in two reads, of which the second ends with the newline. -/
def alignedSession : List Event :=
  [.encode, .callerWrite (utf8 "SSH-2.0-Go"), .decodeHeaders 4, .decodeHeaders 7,
    .agentWrite (utf8 "SSH-2.0-ShellHub"), .agentRead 16, .callerRead 16]

/-- A session whose headers are read up to the newline is exact in both directions. -/
theorem envelope_transparent_for_session :
    (∃ stream ∈ visited (Stream.next (.sshOpen "x")) .new alignedSession,
      stream.agent = .serving (.session (utf8 "x")) ∧ stream.agentRead = utf8 "SSH-2.0-Go" ∧
      stream.callerRead = utf8 "SSH-2.0-ShellHub") ∧
    ∀ stream ∈ visited (Stream.next (.sshOpen "x")) .new alignedSession,
      stream.ExactToAgent ∧ stream.ExactToCaller := by
  refine ⟨by decide +kernel, fun stream member => ?_⟩
  obtain ⟨toAgent, toCaller⟩ := envelope_transparent (.sshOpen "x") alignedSession
  exact ⟨toAgent (by decide +kernel) stream member, toCaller (.inl ⟨_, rfl⟩) stream member⟩

/-- The caller's first bytes come with the end of the headers. -/
def greetingLost : List Event :=
  [.encode, .callerWrite (utf8 "SSH-2.0-Go"), .decodeHeaders 512, .agentRead 512]

/-- The newline comes after the end of the headers. -/
def newlineServed : List Event :=
  [.encode, .decodeHeaders 10, .callerWrite (utf8 "SSH-2.0-Go"), .agentRead 512]

/-- The service greets its client. -/
def greetingProxied : List Event :=
  [.encode, .decodeHeaders 512, .dial (.ok ()), .agentWrite (utf8 "220 ready"), .decodeStatus 512,
    .callerRead 512]

/-- What the caller of a session wrote is lost, or a newline comes before it; and the caller of a
proxied connection reads a newline first. -/
theorem envelope_not_transparent :
    (∃ stream ∈ visited (Stream.next (.sshOpen "x")) .new greetingLost, ¬ stream.ExactToAgent ∧
      stream.callerWrote = utf8 "SSH-2.0-Go" ∧ stream.agentRead = [] ∧ stream.toAgent = []) ∧
    (∃ stream ∈ visited (Stream.next (.sshOpen "x")) .new newlineServed, ¬ stream.ExactToAgent ∧
      stream.callerWrote = utf8 "SSH-2.0-Go" ∧ stream.agentRead = utf8 "\nSSH-2.0-Go") ∧
    ∃ stream ∈ visited (Stream.next (.httpProxy "r" "127.0.0.1" 25)) .new greetingProxied,
      ¬ stream.ExactToCaller ∧ stream.agentWrote = utf8 "220 ready" ∧
      stream.callerRead = utf8 "\n220 ready" := by
  decide +kernel

end ShellHub.Envelopes
