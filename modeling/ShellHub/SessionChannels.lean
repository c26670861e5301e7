import ShellHub.Sequences

/-!
# The session channel handler

The handler of a session channel passes requests on in both directions, each in a loop of its own.
The first request that puts the session into service starts a pipe for the data. The loop of the
agent's requests, when it has ended, waits for the pipe to signal that the agent's data has been
passed on, and the handler returns when both loops have.

If no request starts the pipe, nobody signals. This module proves that the handler returns once
client and agent are gone, if the pipe was started before that, and gives a run in which it waits
for a pipe that was never started.
-/

namespace ShellHub.SessionChannels

open Sequences

/-- `startsDataPipe`. -/
def startsDataPipe (requestType : String) : Bool :=
  requestType ∈ ["shell", "pty-req", "exec", "subsystem"]

/-- A request of the client. Its payload parses as the type demands, or not. -/
structure Request where
  type : String
  wantReply : Bool
  parses : Bool
  deriving DecidableEq, Repr

/-- What becomes of `SendRequest`. -/
inductive Sent where
  | failed
  | replied (ok : Bool)
  deriving DecidableEq, Repr

/-- The loop of the agent's requests. -/
inductive AgentLoop where
  | looping
  /-- it has left the loop and waits for the pipe -/
  | waiting
  | finished
  deriving DecidableEq, Repr

/-- The pipe: its copies that still run, and whether it has signalled. -/
structure Pipe where
  output : Bool
  errors : Bool
  input : Bool
  signalled : Bool
  deriving DecidableEq, Repr

/-- The copies of the pipe. -/
inductive Copy where
  | output
  | errors
  | input
  deriving DecidableEq, Repr

def Pipe.stop (pipe : Pipe) : Copy → Pipe
  | .output => { pipe with output := false }
  | .errors => { pipe with errors := false }
  | .input => { pipe with input := false }

/-- A handler after both channels are open. -/
structure Handler where
  clientLoops : Bool
  agentLoop : AgentLoop
  pipe : Option Pipe
  /-- the client's request stream is closed -/
  clientEnded : Bool
  /-- the agent's request stream is closed -/
  agentEnded : Bool
  /-- the context of the connection is done -/
  cancelled : Bool
  clientClosed : Bool
  agentClosed : Bool
  hasPty : Bool
  returned : Bool
  deriving DecidableEq, Repr

namespace Handler

/-- Both loops run. -/
def opened : Handler := ⟨true, .looping, none, false, false, false, false, false, false, false⟩

/-- `oncePipe`. -/
def startPipe (handler : Handler) : Handler :=
  { handler with pipe := handler.pipe.or (some ⟨true, true, true, false⟩) }

/-- The client's loop takes a request, and is told what becomes of it at the agent. -/
def serve (handler : Handler) (request : Request) (sent : Sent) : Handler :=
  if request.type ∈ ["pty-req", "window-change"] ∧ request.parses = false then handler
  else match sent with
    | .failed => handler
    | .replied ok =>
      let granted := request.type = "pty-req" && (ok || !request.wantReply)
      let handler := { handler with hasPty := handler.hasPty || granted }
      if startsDataPipe request.type then handler.startPipe else handler

end Handler

/-- The steps of the handler's goroutines that are no requests. -/
inductive Step where
  /-- the client's loop sees its stream closed or the context done -/
  | leaveClient
  /-- the agent's loop sees its stream closed or the context done -/
  | leaveAgent
  /-- a copy ends; one that fails closes both channels -/
  | copied (copy : Copy) (failed : Bool)
  | signal
  /-- the agent's loop receives the signal and closes the client's channel -/
  | signalled
  | return_
  deriving DecidableEq, Repr

/-- A request, the end of a stream, a cancellation, or a step of the handler. -/
inductive Event where
  | clientRequest (request : Request) (sent : Sent)
  | agentRequest (type : String) (sent : Sent)
  | endClient
  | endAgent
  | cancel
  | own (step : Step)
  deriving DecidableEq, Repr

namespace Handler

/-- A step of the handler, if it can be taken. -/
def take (handler : Handler) : Step → Handler
  | .leaveClient =>
    if handler.clientEnded || handler.cancelled then { handler with clientLoops := false }
    else handler
  | .leaveAgent =>
    if handler.agentLoop = .looping ∧ (handler.agentEnded || handler.cancelled) = true then
      { handler with agentLoop := .waiting }
    else handler
  | .copied copy failed =>
    match handler.pipe with
    | none => handler
    | some pipe =>
      { handler with
        pipe := some (pipe.stop copy)
        clientClosed := handler.clientClosed || failed
        agentClosed := handler.agentClosed || failed }
  | .signal =>
    match handler.pipe with
    | none => handler
    | some pipe =>
      if pipe.output || pipe.errors then handler
      else { handler with pipe := some { pipe with signalled := true } }
  | .signalled =>
    if handler.agentLoop = .waiting ∧ handler.pipe.any Pipe.signalled = true then
      { handler with agentLoop := .finished, clientClosed := true }
    else handler
  | .return_ =>
    if handler.clientLoops = false ∧ handler.agentLoop = .finished then
      { handler with returned := true, clientClosed := true, agentClosed := true }
    else handler

def next (handler : Handler) : Event → Handler
  | .clientRequest request sent =>
    if handler.clientLoops then handler.serve request sent else handler
  | .agentRequest _ _ => handler
  | .endClient => { handler with clientEnded := true }
  | .endAgent => { handler with agentEnded := true }
  | .cancel => { handler with cancelled := true }
  | .own step => handler.take step

/-- Client and agent are gone. -/
def Gone (handler : Handler) : Prop :=
  handler.clientEnded = true ∧ handler.agentEnded = true ∨ handler.cancelled = true

instance (handler : Handler) : Decidable handler.Gone := inferInstanceAs (Decidable (_ ∨ _))

/-- The handler waits for a pipe that was never started, and client and agent are gone. -/
def Stuck (handler : Handler) : Prop :=
  handler.agentLoop = .waiting ∧ handler.pipe = none ∧ handler.Gone

instance (handler : Handler) : Decidable handler.Stuck := inferInstanceAs (Decidable (_ ∧ _ ∧ _))

/-- How many steps the handler has left. -/
def remaining (handler : Handler) : Nat :=
  handler.clientLoops.toNat + (if handler.agentLoop = .looping then 2 else
    if handler.agentLoop = .waiting then 1 else 0) +
    (match handler.pipe with
      | none => 0
      | some pipe => pipe.output.toNat + pipe.errors.toNat + (!pipe.signalled).toNat) +
    (!handler.returned).toNat

end Handler

/-- The agent has taken a request that starts the pipe before both streams are closed and before the
context is done. -/
def InService (handler : Handler) : Event → Prop
  | .endClient => handler.agentEnded = true → handler.pipe ≠ none
  | .endAgent => handler.clientEnded = true → handler.pipe ≠ none
  | .cancel => handler.pipe ≠ none
  | _ => True

instance (handler : Handler) (event : Event) : Decidable (InService handler event) :=
  match event with
  | .endClient | .endAgent => inferInstanceAs (Decidable (_ → _))
  | .cancel => inferInstanceAs (Decidable (_ ≠ _))
  | .clientRequest _ _ | .agentRequest _ _ | .own _ => .isTrue trivial

/-- What is kept: the pipe was started when client and agent are gone, and a handler that has
returned has closed both channels. -/
structure Handler.Inv (handler : Handler) : Prop where
  started : handler.Gone → handler.pipe ≠ none
  closed : handler.returned = true → handler.clientClosed = true ∧ handler.agentClosed = true

/-- What a step of the handler leaves alone. -/
theorem take_keeps (handler : Handler) (step : Step) :
    ((handler.take step).Gone ↔ handler.Gone) ∧
      (handler.pipe ≠ none → (handler.take step).pipe ≠ none) := by
  cases step with
  | copied copy failed =>
    cases pipe : handler.pipe <;> simp [Handler.take, Handler.Gone, pipe]
  | signal =>
    cases pipe : handler.pipe with
    | none => simp [Handler.take, Handler.Gone, pipe]
    | some running =>
      simp only [Handler.take, pipe]
      split <;> simp [Handler.Gone, pipe]
  | leaveClient | leaveAgent | signalled | return_ =>
    simp only [Handler.take]
    split <;> simp [Handler.Gone]

theorem take_closed (handler : Handler) (step : Step)
    (closed : handler.returned = true → handler.clientClosed = true ∧ handler.agentClosed = true) :
    (handler.take step).returned = true →
      (handler.take step).clientClosed = true ∧ (handler.take step).agentClosed = true := by
  cases step with
  | copied copy failed =>
    cases pipe : handler.pipe with
    | none => simpa only [Handler.take, pipe] using closed
    | some running =>
      intro returned
      obtain ⟨client, agent⟩ := closed (by simpa only [Handler.take, pipe] using returned)
      simp [Handler.take, pipe, client, agent]
  | signal =>
    cases pipe : handler.pipe with
    | none => simpa only [Handler.take, pipe] using closed
    | some running =>
      simp only [Handler.take, pipe]
      split <;> exact closed
  | signalled =>
    simp only [Handler.take]
    split
    · exact fun returned => ⟨rfl, (closed returned).2⟩
    · exact closed
  | return_ =>
    simp only [Handler.take]
    split
    · exact fun _ => ⟨rfl, rfl⟩
    · exact closed
  | leaveClient | leaveAgent =>
    simp only [Handler.take]
    split <;> exact closed

/-- A request changes only the pipe, which it may start, and the mark of a terminal. -/
theorem serve_eq (handler : Handler) (request : Request) (sent : Sent) :
    ∃ pipe hasPty, handler.serve request sent = { handler with pipe, hasPty } ∧
      (handler.pipe ≠ none → pipe ≠ none) := by
  have unchanged : ∃ pipe hasPty, handler = { handler with pipe, hasPty } ∧
      (handler.pipe ≠ none → pipe ≠ none) := ⟨_, _, rfl, id⟩
  unfold Handler.serve
  split
  · exact unchanged
  split
  · exact unchanged
  dsimp only
  split
  · exact ⟨_, _, rfl, by simp⟩
  · exact ⟨_, _, rfl, id⟩

theorem Handler.Inv.next (handler : Handler) (event : Event) (inv : handler.Inv)
    (inService : InService handler event) : (handler.next event).Inv := by
  cases event with
  | clientRequest request sent =>
    simp only [Handler.next]
    split
    · obtain ⟨pipe, hasPty, served, kept⟩ := serve_eq handler request sent
      rw [served]
      exact ⟨fun gone => kept (inv.started gone), inv.closed⟩
    · exact inv
  | agentRequest type sent => exact inv
  | endClient =>
    refine ⟨fun gone => ?_, inv.closed⟩
    rcases gone with ⟨-, ended⟩ | cancelled
    · exact inService ended
    · exact inv.started (.inr cancelled)
  | endAgent =>
    refine ⟨fun gone => ?_, inv.closed⟩
    rcases gone with ⟨ended, -⟩ | cancelled
    · exact inService ended
    · exact inv.started (.inr cancelled)
  | cancel => exact ⟨fun _ => inService, inv.closed⟩
  | own step =>
    obtain ⟨same, kept⟩ := take_keeps handler step
    exact ⟨fun gone => kept (inv.started (same.mp gone)), take_closed handler step inv.closed⟩

/-- When client and agent are gone and the pipe was started, some step brings the handler closer to
its end. -/
theorem progress (handler : Handler) (gone : handler.Gone) (started : handler.pipe ≠ none)
    (running : handler.returned = false) :
    ∃ step, (handler.take step).remaining < handler.remaining := by
  obtain ⟨pipe, piped⟩ := Option.ne_none_iff_exists'.mp started
  by_cases client : handler.clientLoops = true
  · have left : (handler.clientEnded || handler.cancelled) = true := by
      rcases gone with ⟨ended, -⟩ | cancelled
      · rw [ended, Bool.true_or]
      · rw [cancelled, Bool.or_true]
    refine ⟨.leaveClient, ?_⟩
    simp [Handler.take, Handler.remaining, left, client, piped]
  have clientLeft : handler.clientLoops = false := by simpa using client
  cases agent : handler.agentLoop with
  | looping =>
    have left : (handler.agentEnded || handler.cancelled) = true := by
      rcases gone with ⟨-, ended⟩ | cancelled
      · rw [ended, Bool.true_or]
      · rw [cancelled, Bool.or_true]
    refine ⟨.leaveAgent, ?_⟩
    simp [Handler.take, Handler.remaining, left, agent, piped]
  | finished =>
    refine ⟨.return_, ?_⟩
    simp [Handler.take, Handler.remaining, agent, clientLeft, running, piped]
  | waiting =>
    by_cases output : pipe.output = true
    · exact ⟨.copied .output false, by
        simp [Handler.take, Handler.remaining, agent, piped, Pipe.stop, output]⟩
    by_cases errors : pipe.errors = true
    · exact ⟨.copied .errors false, by
        simp [Handler.take, Handler.remaining, agent, piped, Pipe.stop, errors]⟩
    by_cases told : pipe.signalled = true
    · exact ⟨.signalled, by simp [Handler.take, Handler.remaining, agent, piped, told]⟩
    · exact ⟨.signal, by
        simp [Handler.take, Handler.remaining, agent, piped, told, output, errors]⟩

/-- The handler never gets stuck, in every run in which the pipe is started before client and agent
are gone: then it has returned and closed both channels, or a step of its own brings it closer to
that. Each event keeps the pipe started once both are gone, and from there the handler has a step of
its own until it returns. -/
theorem session_channel_returns (events : List Event)
    (inService : Along Handler.next InService .opened events) :
    ∀ handler ∈ visited Handler.next .opened events, ¬ handler.Stuck ∧
      (handler.Gone →
        handler.returned = true ∧ handler.clientClosed = true ∧ handler.agentClosed = true ∨
          ∃ step, (handler.take step).remaining < handler.remaining) := by
  have first : Handler.opened.Inv := ⟨fun gone => absurd gone (by decide), nofun⟩
  intro handler reached
  have inv := visited_keeps Handler.Inv.next first inService handler reached
  constructor
  · rintro ⟨-, missing, gone⟩
    exact inv.started gone missing
  · intro gone
    cases running : handler.returned with
    | true => exact .inl ⟨rfl, inv.closed running⟩
    | false => exact .inr (progress handler gone (inv.started gone) running)

/-- A command is run, both ends close, and the handler returns. -/
def command : List Event :=
  [.clientRequest ⟨"exec", true, true⟩ (.replied true), .endAgent, .own .leaveAgent, .endClient,
    .own .leaveClient, .own (.copied .output false), .own (.copied .errors false), .own .signal,
    .own .signalled, .own .return_]

theorem session_channel_returns_for_command :
    (∃ handler ∈ visited Handler.next .opened command,
      handler.Gone ∧ handler.returned = true ∧ handler.clientClosed = true) ∧
    ∀ handler ∈ visited Handler.next .opened command, ¬ handler.Stuck :=
  ⟨by decide +kernel, fun handler reached =>
    (session_channel_returns command (by decide +kernel) handler reached).1⟩

/-- The client sets a variable and leaves, and so does the agent. -/
def abandoned : List Event :=
  [.clientRequest ⟨"env", true, true⟩ (.replied true), .endClient, .own .leaveClient, .endAgent,
    .own .leaveAgent]

/-- Nobody started the pipe, both channels are open, and no step of the handler leads out of the
wait. -/
theorem session_channel_stuck :
    ∃ handler ∈ visited Handler.next .opened abandoned,
      handler.Stuck ∧ handler.clientClosed = false ∧ handler.agentClosed = false ∧
        ∀ step, handler.take step = handler := by
  refine ⟨abandoned.foldl Handler.next .opened, by decide +kernel, by decide +kernel, rfl, rfl, ?_⟩
  intro step
  cases step <;> rfl

end ShellHub.SessionChannels
