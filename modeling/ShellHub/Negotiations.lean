import ShellHub.Envelopes

/-!
# The negotiation of a proxied connection

The agent reports to the server how it went with the service: a status, or an error with a text. The
two programs agree on the status. However the bytes are cut, `prepare` succeeds if the agent has
reported that it is connected and fails if the agent has reported an error, and it ends after
finitely many reads.

They do not agree on the text. The agent writes it under the name `error` and the server looks for
it under the name `message`, so that the caller reads only the words that come before it; and of a
text that does not fit into the limit the caller reads that the end was unexpected.
-/

namespace ShellHub.Envelopes

open JsonTexts Scanners Sequences
open Runes (Bytes)

/-- The words before the message of the agent. -/
def negotiationFailed : Bytes := utf8 "http proxy negotiation failed: "

/-- The text of an error of `prepare`. That of bytes which are no value is the decoder's own. -/
def PrepareError.text : PrepareError → Option Bytes
  | .negotiation message => some (negotiationFailed ++ message)
  | .unexpectedEOF => some (utf8 "unexpected EOF")
  | .invalid => none

/-- What the agent's handler has reported. -/
def Handler.report : Handler → Option (List (String × String))
  | .serving _ => some [("status", "ok")]
  | .failed (some message) => some [("error", message)]
  | _ => none

/-- The error of the agent has a text that the server's words contain. -/
def Told (message : String) : Prop := utf8 message <:+: negotiationFailed

/-! ## Sizes of texts -/

theorem length_escape_le (char : Char) : (escape char).length ≤ 6 := by
  unfold escape
  split
  · simp
  · split
    · simp [unicodeEscape]
    · rw [String.length_utf8EncodeChar]
      have := char.utf8Size_le_four
      omega

theorem length_escaped_le (text : List Char) : (text.flatMap escape).length ≤ 6 * text.length := by
  induction text with
  | nil => simp
  | cons char rest ih =>
    have := length_escape_le char
    rw [List.flatMap_cons, List.length_append, List.length_cons]
    omega

theorem length_le_utf8 (text : List Char) :
    text.length ≤ (text.flatMap String.utf8EncodeChar).length := by
  induction text with
  | nil => simp
  | cons char rest ih =>
    have := char.utf8Size_pos
    rw [List.flatMap_cons, List.length_append, List.length_cons, String.length_utf8EncodeChar]
    omega

/-- An error whose text the server's words contain fits into the limit. -/
theorem told_fits {message : String} (told : Told message) :
    (encode [("error", message)]).length ≤ statusLimit := by
  have short : (utf8 message).length ≤ 31 := told.length_le
  have chars := length_le_utf8 message.toList
  have escaped := length_escaped_le message.toList
  have name : (encodeText "error").length = 7 := by decide +kernel
  have bound : (message.toList.flatMap escape).length ≤ 186 := by
    unfold utf8 at short
    omega
  simp only [encode, encodeMembers, encodeMember, encodeText, statusLimit, List.length_cons,
    List.length_append, List.length_nil] at name ⊢
  omega

/-! ## What the server makes of the report -/

section Reports

variable {stream : Stream}

/-- As long as the agent has not reported, nothing is on its way to the server. -/
theorem unreported (backward : ProxyBackward stream) (silent : stream.agent.report = none) :
    stream.agent.answer ++ stream.agentWrote = [] := by
  have unserved : ∀ peer, stream.agent ≠ .serving peer := by
    intro peer serving
    rw [serving] at silent
    cases silent
  rw [backward.quiet unserved, List.append_nil]
  cases agent : stream.agent with
  | headers buffer | dialing host port => rfl
  | serving peer => exact absurd agent (unserved peer)
  | failed message =>
    cases message with
    | none => rfl
    | some text =>
      rw [agent] at silent
      cases silent

/-- What is on its way begins with the report. -/
theorem answer_report {members : List (String × String)}
    (reported : stream.agent.report = some members) :
    stream.agent.answer ++ stream.agentWrote =
      encode members ++ (newline :: stream.agentWrote) := by
  have answer : stream.agent.answer = encoded members := by
    cases agent : stream.agent with
    | headers buffer | dialing host port => rw [agent] at reported; cases reported
    | serving peer => rw [agent] at reported; cases reported; rfl
    | failed message =>
      rw [agent] at reported
      cases message with
      | none => cases reported
      | some text => cases reported; rfl
  rw [answer, encoded, List.append_assoc]
  rfl

end Reports

/-- How far the negotiation is. The decoder of `prepare` waits within its limit, and a failure was
reported by the agent. -/
structure Negotiated (stream : Stream) : Prop where
  backward : ProxyBackward stream
  decoding : ∀ buffer limit, stream.server = .decoding buffer limit →
    (∃ state, scan buffer = .pending state) ∧ buffer.length + limit = statusLimit
  failed : ∀ error, stream.server = .failed error → ∃ message,
    stream.agent = .failed (some message) ∧
      (error = .negotiation [] ∨
        error = .unexpectedEOF ∧ statusLimit < (encode [("error", message)]).length)

section Steps

variable {stream later : Stream} {requestID host : String} {port : Int}

/-- An event that neither moves the server nor takes back a failure of the agent. -/
theorem Negotiated.frame (negotiated : Negotiated stream) (backward : ProxyBackward later)
    (server : later.server = stream.server)
    (agent : ∀ message, stream.agent = .failed (some message) →
      later.agent = .failed (some message)) : Negotiated later := by
  refine ⟨backward, ?_, ?_⟩
  · rw [server]
    exact negotiated.decoding
  · rw [server]
    intro error failed
    obtain ⟨message, reported, reason⟩ := negotiated.failed error failed
    exact ⟨message, agent message reported, reason⟩

/-- The limit is reached only by an error of the agent that is too long. -/
theorem exhausted {buffer : Bytes} (negotiated : Negotiated stream)
    (decoding : stream.server = .decoding buffer 0) :
    ∃ message, stream.agent = .failed (some message) ∧
      statusLimit < (encode [("error", message)]).length := by
  obtain ⟨⟨state, waits⟩, full⟩ := negotiated.decoding _ _ decoding
  obtain ⟨-, same⟩ := negotiated.backward.decoding _ _ decoding
  have size : buffer.length = statusLimit := full
  cases reported : stream.agent.report with
  | none =>
    rw [unreported negotiated.backward reported] at same
    rw [(List.append_eq_nil_iff.mp same).1] at size
    cases size
  | some members =>
    rw [answer_report reported] at same
    rcases scan_part same with ⟨shorter, -⟩ | ⟨tail, -, complete⟩
    · rw [size] at shorter
      cases agent : stream.agent with
      | headers buffer | dialing host port => rw [agent] at reported; cases reported
      | serving peer =>
        rw [agent] at reported
        cases reported
        exact absurd shorter (by decide +kernel)
      | failed message =>
        rw [agent] at reported
        cases message with
        | none => cases reported
        | some text =>
          cases reported
          exact ⟨text, rfl, shorter⟩
    · rw [waits] at complete
      cases complete

/-- What a part of the bytes for the server is: not yet a value, or the report of the agent. -/
theorem scan_report (backward : ProxyBackward stream) {part later : Bytes}
    (cut : part ++ later = stream.agent.answer ++ stream.agentWrote) :
    (∃ state, scan part = .pending state) ∨
      (∃ peer tail, stream.agent = .serving peer ∧
        scan part = .complete ([("status", "ok")].map memberBytes) tail) ∨
      ∃ message tail, stream.agent = .failed (some message) ∧
        scan part = .complete ([("error", message)].map memberBytes) tail := by
  cases agent : stream.agent with
  | headers buffer | dialing host port =>
    rw [unreported backward (by rw [agent]; rfl)] at cut
    rw [(List.append_eq_nil_iff.mp cut).1]
    exact .inl ⟨_, rfl⟩
  | serving peer =>
    rw [answer_report (by rw [agent]; rfl)] at cut
    rcases scan_part cut with ⟨-, waits⟩ | ⟨tail, -, complete⟩
    · exact .inl waits
    · exact .inr (.inl ⟨peer, tail, rfl, complete⟩)
  | failed message =>
    cases message with
    | none =>
      rw [unreported backward (by rw [agent]; rfl)] at cut
      rw [(List.append_eq_nil_iff.mp cut).1]
      exact .inl ⟨_, rfl⟩
    | some text =>
      rw [answer_report (by rw [agent]; rfl)] at cut
      rcases scan_part cut with ⟨-, waits⟩ | ⟨tail, -, complete⟩
      · exact .inl waits
      · exact .inr (.inr ⟨text, tail, rfl, complete⟩)

/-- What a read of `prepare` leads to: it waits with what it has read, or it is done. -/
theorem decodeStatus_cases (negotiated : Negotiated stream) {buffer : Bytes} {limit : Nat}
    (decoding : stream.server = .decoding buffer (limit + 1)) (count : Nat) :
    let chunk := stream.toServer.take (min count (limit + 1))
    (∃ state, scan (buffer ++ chunk) = .pending state ∧
      (stream.decodeStatus count).server =
        .decoding (buffer ++ chunk) (limit + 1 - chunk.length)) ∨
    (∃ peer buffered, stream.agent = .serving peer ∧
      (stream.decodeStatus count).server = .ready buffered) ∨
    ∃ message, stream.agent = .failed (some message) ∧
      (stream.decodeStatus count).server = .failed (.negotiation []) := by
  intro chunk
  obtain ⟨-, same⟩ := negotiated.backward.decoding _ _ decoding
  have cut : (buffer ++ chunk) ++ stream.toServer.drop (min count (limit + 1)) =
      stream.agent.answer ++ stream.agentWrote := by
    rw [List.append_assoc, List.take_append_drop, same]
  unfold Stream.decodeStatus
  rw [decoding]
  dsimp only
  rcases scan_report negotiated.backward cut with
    ⟨state, waits⟩ | ⟨peer, tail, agent, complete⟩ | ⟨message, tail, agent, complete⟩
  · rw [waits]
    exact .inl ⟨state, rfl, rfl⟩
  · have ok : get ([("status", "ok")].map memberBytes) "status" = utf8 "ok" := by decide +kernel
    rw [complete]
    refine .inr (.inl ⟨peer, tail, agent, ?_⟩)
    dsimp only
    rw [if_pos ok]
  · rw [complete]
    refine .inr (.inr ⟨message, agent, ?_⟩)
    dsimp only
    rw [get_error (by decide +kernel), get_error (by decide +kernel), if_neg (by decide +kernel)]

theorem decodeStatus_agent (stream : Stream) (count : Nat) :
    (stream.decodeStatus count).agent = stream.agent := by
  unfold Stream.decodeStatus
  split
  · rfl
  · dsimp only
    split <;> rfl
  · rfl

theorem decodeStatus_negotiated (negotiated : Negotiated stream) (count : Nat) :
    Negotiated (stream.decodeStatus count) := by
  have backward := decodeStatus_backward negotiated.backward count
  have agent := decodeStatus_agent stream count
  cases server : stream.server with
  | start | ready buffered | failed error =>
    refine negotiated.frame backward ?_ fun message same => agent.trans same
    simp only [Stream.decodeStatus, server]
  | decoding buffer limit =>
    cases limit with
    | zero =>
      have fails : (stream.decodeStatus count).server = .failed .unexpectedEOF := by
        simp only [Stream.decodeStatus, server]
      obtain ⟨message, reported, long⟩ := exhausted negotiated server
      refine ⟨backward, by rw [fails]; rintro _ _ ⟨⟩, ?_⟩
      rw [fails]
      rintro _ ⟨⟩
      exact ⟨message, agent.trans reported, .inr ⟨rfl, long⟩⟩
    | succ limit =>
      obtain ⟨-, full⟩ := negotiated.decoding _ _ server
      rcases decodeStatus_cases negotiated server count with
        ⟨state, waits, moved⟩ | ⟨peer, buffered, serving, moved⟩ | ⟨message, reported, moved⟩
      · refine ⟨backward, ?_, by rw [moved]; rintro _ ⟨⟩⟩
        rw [moved]
        rintro _ _ ⟨⟩
        refine ⟨⟨state, waits⟩, ?_⟩
        have bound : (stream.toServer.take (min count (limit + 1))).length ≤ limit + 1 := by
          rw [List.length_take]
          omega
        rw [List.length_append]
        omega
      · refine ⟨backward, by rw [moved]; rintro _ _ ⟨⟩, by rw [moved]; rintro _ ⟨⟩⟩
      · refine ⟨backward, by rw [moved]; rintro _ _ ⟨⟩, ?_⟩
        rw [moved]
        rintro _ ⟨⟩
        exact ⟨message, agent.trans reported, .inl rfl⟩

theorem next_negotiated (negotiated : Negotiated stream) (event : Event) :
    Negotiated (stream.next (.httpProxy requestID host port) event) := by
  have backward := @next_proxyBackward stream requestID host port negotiated.backward event
  cases event with
  | decodeStatus count => exact decodeStatus_negotiated negotiated count
  | encode =>
    unfold Stream.next Stream.encode at backward ⊢
    dsimp only at backward ⊢
    split at backward
    · refine ⟨backward, ?_, by rintro _ ⟨⟩⟩
      rintro _ _ ⟨⟩
      exact ⟨⟨_, rfl⟩, rfl⟩
    · exact negotiated
  | decodeHeaders count =>
    refine negotiated.frame backward ?_ ?_
    · unfold Stream.next Stream.decodeHeaders
      dsimp only
      split
      · split <;> rfl
      · rfl
    · intro message failed
      simp only [Stream.next, Stream.decodeHeaders, failed]
  | dial result =>
    refine negotiated.frame backward ?_ ?_
    · unfold Stream.next Stream.dial
      dsimp only
      split
      · split <;> rfl
      · rfl
    · intro message failed
      simp only [Stream.next, Stream.dial, failed]
  | callerWrite bytes =>
    refine negotiated.frame backward ?_ ?_
    · unfold Stream.next Stream.callerWrite
      dsimp only
      split <;> rfl
    · intro message failed
      unfold Stream.next Stream.callerWrite
      dsimp only
      split <;> exact failed
  | callerRead count =>
    unfold Stream.next Stream.callerReads at backward ⊢
    dsimp only at backward ⊢
    split at backward
    · exact negotiated.frame backward rfl fun _ => id
    · rename_i ready
      refine ⟨backward, by rintro _ _ ⟨⟩, by rintro _ ⟨⟩⟩
    · exact negotiated
  | agentWrite bytes =>
    refine negotiated.frame backward ?_ ?_
    · unfold Stream.next Stream.agentWrite
      dsimp only
      split <;> rfl
    · intro message failed
      simp only [Stream.next, Stream.agentWrite, failed]
  | agentRead count =>
    refine negotiated.frame backward ?_ ?_
    · unfold Stream.next Stream.agentReads
      dsimp only
      split <;> rfl
    · intro message failed
      simp only [Stream.next, Stream.agentReads, failed]

end Steps

/-! ## Agreement -/

/-- `prepare` has returned. -/
def Prepare.Ended : Prepare → Prop
  | .ready _ => True
  | .failed _ => True
  | _ => False

section Progress

variable {stream : Stream} {requestID host : String} {port : Int}

/-- As long as `prepare` waits for a report that was made, some of it is on its way. -/
theorem report_underway (negotiated : Negotiated stream) {buffer : Bytes} {limit : Nat}
    (decoding : stream.server = .decoding buffer limit) (reported : stream.agent.report ≠ none) :
    stream.toServer ≠ [] := by
  intro empty
  obtain ⟨⟨state, waits⟩, -⟩ := negotiated.decoding _ _ decoding
  obtain ⟨-, same⟩ := negotiated.backward.decoding _ _ decoding
  obtain ⟨members, report⟩ := Option.ne_none_iff_exists'.mp reported
  rw [empty, List.append_nil, answer_report report] at same
  rw [same, scan_encode] at waits
  cases waits

/-- A read of `prepare` after the report ends it, or leaves less of the limit. -/
theorem decodeStatus_progress (negotiated : Negotiated stream) {buffer : Bytes} {limit : Nat}
    (decoding : stream.server = .decoding buffer limit) (reported : stream.agent.report ≠ none)
    {count : Nat} (some : 0 < count) :
    (stream.decodeStatus count).server.Ended ∨ ∃ buffer left, left < limit ∧
      (stream.decodeStatus count).server = .decoding buffer left := by
  cases limit with
  | zero =>
    left
    simp only [Stream.decodeStatus, decoding, Prepare.Ended]
  | succ limit =>
    rcases decodeStatus_cases negotiated decoding count with
      ⟨state, waits, moved⟩ | ⟨peer, buffered, serving, moved⟩ | ⟨message, failed, moved⟩
    · refine .inr ⟨_, _, ?_, moved⟩
      have underway := List.length_pos_iff.mpr (report_underway negotiated decoding reported)
      rw [List.length_take]
      omega
    · exact .inl (by rw [moved]; trivial)
    · exact .inl (by rw [moved]; trivial)

/-- Once `prepare` has returned, reads of it do nothing. -/
theorem decodeStatus_ended (ended : stream.server.Ended) (count : Nat) :
    stream.decodeStatus count = stream := by
  cases server : stream.server with
  | start | decoding buffer limit => rw [server] at ended; exact ended.elim
  | ready buffered | failed error => simp only [Stream.decodeStatus, server]

/-- After the report, `prepare` returns after as many reads as its limit has left. -/
theorem reads_end (counts : List Nat) (some : ∀ count ∈ counts, 0 < count) {buffer : Bytes}
    {limit : Nat} (negotiated : Negotiated stream)
    (decoding : stream.server = .decoding buffer limit) (reported : stream.agent.report ≠ none)
    (enough : limit < counts.length) :
    (counts.foldl Stream.decodeStatus stream).server.Ended := by
  induction counts generalizing stream buffer limit with
  | nil => cases enough
  | cons count rest ih =>
    have positive := some count List.mem_cons_self
    have further : ∀ count ∈ rest, 0 < count :=
      fun count member => some count (List.mem_cons_of_mem _ member)
    rw [List.foldl_cons]
    rcases decodeStatus_progress negotiated decoding reported positive with
      ended | ⟨next, left, less, moved⟩
    · have still : rest.foldl Stream.decodeStatus (stream.decodeStatus count) =
          stream.decodeStatus count := by
        clear ih enough some further
        induction rest with
        | nil => rfl
        | cons other rest ih =>
          rw [List.foldl_cons, decodeStatus_ended ended, ih]
      rw [still]
      exact ended
    · refine ih further (decodeStatus_negotiated negotiated count) moved ?_ ?_
      · rw [decodeStatus_agent]
        exact reported
      · rw [List.length_cons] at enough
        omega

end Progress

/-- Both ends agree on the outcome of the negotiation: `prepare` succeeds only after the agent has
reported that it is connected and fails only after the agent has reported an error, whose text it
then tells if that is contained in the server's own words, and after either report it returns. Each
event keeps `prepare` behind the report that it reads, and enough reads bring a report to its end.
-/
theorem negotiation_agrees (requestID host : String) (port : Int) (events : List Event) :
    ∀ stream ∈ visited (Stream.next (.httpProxy requestID host port)) .new events,
      (∀ buffered, stream.server = .ready buffered →
        stream.agent.report = some [("status", "ok")]) ∧
      (∀ error, stream.server = .failed error → ∃ message,
        stream.agent.report = some [("error", message)] ∧
        (Told message → ∃ text, error.text = some text ∧ utf8 message <:+: text)) ∧
      ∀ buffer limit, stream.server = .decoding buffer limit → stream.agent.report ≠ none →
        ∀ counts : List Nat, (∀ count ∈ counts, 0 < count) → limit < counts.length →
          (counts.foldl Stream.decodeStatus stream).server.Ended := by
  intro stream member
  have begins : Negotiated .new := ⟨new_proxyBackward, by rintro _ _ ⟨⟩, by rintro _ ⟨⟩⟩
  have negotiated := visited_always Negotiated
    (fun _ event negotiated => next_negotiated negotiated event) begins events stream member
  refine ⟨fun buffered ready => ?_, fun error failed => ?_, ?_⟩
  · obtain ⟨⟨peer, serving⟩, -⟩ := negotiated.backward.ready buffered ready
    rw [serving]
    rfl
  · obtain ⟨message, reported, reason⟩ := negotiated.failed error failed
    refine ⟨message, by rw [reported]; rfl, fun told => ?_⟩
    rcases reason with rfl | ⟨-, long⟩
    · refine ⟨_, rfl, ?_⟩
      exact told
    · exact absurd (told_fits told) (Nat.not_le.mpr long)
  · intro buffer limit decoding reported counts some enough
    exact reads_end counts some negotiated decoding reported enough

/-- The service is reached, and the status comes in single bytes. -/
def connectedProxy : List Event :=
  [.encode, .decodeHeaders 512, .dial (.ok ())] ++ List.replicate 15 (.decodeStatus 1)

/-- The agent fails with a text. -/
def refusedProxy (message : String) : List Event :=
  [.encode, .decodeHeaders 512, .dial (.error message), .decodeStatus 512]

theorem negotiation_agrees_when_connected :
    (∃ stream ∈ visited (Stream.next (.httpProxy "r" "127.0.0.1" 25)) .new connectedProxy,
      stream.server = .ready []) ∧
    ∀ stream ∈ visited (Stream.next (.httpProxy "r" "127.0.0.1" 25)) .new connectedProxy,
      ∀ buffered, stream.server = .ready buffered →
        stream.agent.report = some [("status", "ok")] := by
  refine ⟨by decide +kernel, fun stream member => ?_⟩
  exact (negotiation_agrees "r" "127.0.0.1" 25 connectedProxy stream member).1

/-- The text of the agent's error is not told. -/
theorem negotiation_text_lost :
    ∃ stream ∈ visited (Stream.next (.httpProxy "r" "127.0.0.1" 25)) .new
        (refusedProxy "failed to dial to the address and port"),
      stream.agent.report = some [("error", "failed to dial to the address and port")] ∧
      stream.server = .failed (.negotiation []) ∧
      (PrepareError.negotiation []).text = some (utf8 "http proxy negotiation failed: ") ∧
      ¬ utf8 "failed to dial to the address and port" <:+:
        utf8 "http proxy negotiation failed: " := by
  decide +kernel

end ShellHub.Envelopes
