import ShellHub.ConnectionTable

/-!
# Tunnels that leave the table

A connection leaves the table by its own goroutine only. The goroutine of a dialer waits for the
dialer to be done, and the dialer closes its connection before that. The goroutine of a yamux
session waits for the session to be closed, and pings it meanwhile. When a ping fails it deletes the
session and returns, and it does not close it. A ping may fail because the answer takes too long,
with the session open: then the device keeps a tunnel that the server has forgotten.

The model follows both goroutines. Every connection that has left the table is closed, if no ping of
an open session fails.
-/

namespace ShellHub.TunnelClosing

open ConnectionTable Sequences

/-- No ping of an open session fails. -/
def PingsAnswered (world : World) : Event → Prop
  | .pinged id false => ∀ tunnel ∈ world.tunnels[id]?, tunnel.closed = true
  | _ => True

instance (world : World) (event : Event) : Decidable (PingsAnswered world event) :=
  match event with
  | .pinged id false => inferInstanceAs (Decidable (∀ tunnel ∈ world.tunnels[id]?, _))
  | .set _ | .bind _ _ _ | .close _ | .evict _ | .noticed _ | .ping _ | .pinged _ true
  | .delete _ | .done _ => .isTrue trivial

/-- The goroutine of a connection is in its loop, or the connection is closed. -/
def Orderly (tunnel : Tunnel) : Prop :=
  tunnel.phase = .waiting ∨ tunnel.phase = .pinging ∨ tunnel.closed = true

/-- Goroutines have left their loops only after their connections were closed. -/
def AllOrderly (world : World) : Prop := ∀ tunnel ∈ world.tunnels, Orderly tunnel

section Steps

variable {world : World}

theorem AllOrderly.advance (orderly : AllOrderly world) (id : Nat) {tunnel : Tunnel}
    (new : Orderly tunnel) : AllOrderly (world.advance id tunnel) :=
  set_keeps orderly new

theorem AllOrderly.change (orderly : AllOrderly world) (id : Nat) {update : Tunnel → Tunnel}
    (kept : ∀ tunnel ∈ world.tunnels[id]?, Orderly tunnel → Orderly (update tunnel)) :
    AllOrderly (world.change id update) := by
  unfold World.change
  split
  · rename_i tunnel found
    exact orderly.advance id (kept tunnel found (orderly tunnel (List.mem_of_getElem? found)))
  · exact orderly

/-- A new connection is waited for. -/
theorem AllOrderly.register (orderly : AllOrderly world) (key : String) (session : Bool) :
    AllOrderly (world.register key session) := by
  intro tunnel inside
  rcases List.mem_append.mp inside with old | new
  · exact orderly tunnel old
  · rw [List.mem_singleton.mp new]
    exact .inl rfl

/-- The goroutine leaves its loop when it notices that the connection is closed, or when a ping has
failed. -/
theorem AllOrderly.next (orderly : AllOrderly world) (event : Event)
    (answered : PingsAnswered world event) : AllOrderly (world.next event) := by
  cases event with
  | set key => exact orderly.register key false
  | bind tenant uid created =>
    cases created with
    | true => exact orderly.register _ true
    | false => exact orderly
  | close id => exact orderly.change id fun _ _ _ => .inr (.inr rfl)
  | evict index =>
    dsimp only [World.next]
    split
    · exact AllOrderly.change (by exact orderly) _ fun _ _ _ => .inr (.inr rfl)
    · exact orderly
  | noticed id =>
    refine orderly.change id fun tunnel _ kept => ?_
    split
    · rename_i ready
      exact .inr (.inr ready.2)
    · exact kept
  | ping id =>
    refine orderly.change id fun tunnel _ kept => ?_
    split
    · exact .inr (.inl rfl)
    · exact kept
  | pinged id ok =>
    refine orderly.change id fun tunnel found kept => ?_
    split
    · cases ok with
      | true => exact .inl rfl
      | false => exact .inr (.inr (answered tunnel found))
    · exact kept
  | delete id | done id =>
    dsimp only [World.next]
    split
    · rename_i found
      obtain ⟨⟨⟩⟩ | ⟨⟨⟩⟩ | closed := orderly _ (List.mem_of_getElem? found)
      exact AllOrderly.advance (by exact orderly) id (.inr (.inr closed))
    · exact orderly

end Steps

/-- Every connection that has left the table is closed, in every run in which no ping of an open
session fails. A goroutine has left its loop only after its connection was closed, and until it
leaves the connection is in the table. -/
theorem removed_tunnels_closed (events : List Event)
    (answered : Along World.next PingsAnswered .new events) :
    ∀ world ∈ visited World.next .new events, ∀ id tunnel,
      world.tunnels[id]? = some tunnel → id ∉ world.table.slice tunnel.key →
        tunnel.closed = true := by
  intro world reached id tunnel found absent
  have exact : Exact world :=
    visited_always Exact (fun _ event exact => exact.next event) exact_new events world reached
  have start : AllOrderly .new := fun _ inside => nomatch inside
  have orderly := visited_keeps (fun _ event orderly answered => orderly.next event answered) start
    answered world reached tunnel (List.mem_of_getElem? found)
  -- a connection whose goroutine is in its loop has not been deleted
  rw [exact.holds.slice] at absent
  have deleted : ¬ tunnel.Registered := fun registered =>
    absent (exact.registered id tunnel found registered)
  rcases orderly with waiting | pinging | closed
  · exact absurd ⟨by simp [waiting], by simp [waiting]⟩ deleted
  · exact absurd ⟨by simp [pinging], by simp [pinging]⟩ deleted
  · exact closed

/-- A device reconnects. Its first session is evicted and deleted. -/
def reconnection : List Event :=
  [.bind "tenant" "device" true, .ping 0, .pinged 0 true, .bind "tenant" "device" true, .evict 0,
    .noticed 0, .delete 0]

theorem removed_tunnels_closed_for_reconnection :
    (∃ world ∈ visited World.next .new reconnection,
      world.tunnels.length = 2 ∧ world.table.slice "tenant:device" = [1]) ∧
    ∀ world ∈ visited World.next .new reconnection, ∀ id tunnel,
      world.tunnels[id]? = some tunnel → id ∉ world.table.slice tunnel.key →
        tunnel.closed = true :=
  ⟨by decide +kernel, removed_tunnels_closed reconnection (by decide +kernel)⟩

/-- A ping of an open session times out. The session leaves the table and stays open, and nobody is
left to close it. -/
theorem forgotten_tunnel_open :
    ∃ world ∈ visited World.next .new
        [.bind "tenant" "device" true, .ping 0, .pinged 0 false, .delete 0, .done 0],
      world.tunnels = [⟨"tenant:device", true, false, .gone⟩] ∧
        world.table.slice "tenant:device" = [] ∧ world.evictors = [] := by
  decide +kernel

end ShellHub.TunnelClosing
