import Mathlib.Tactic.SplitIfs
import ShellHub.AddressTexts
import ShellHub.Sequences
import ShellHub.Tables

/-!
# Slots for logins that wait for an approval

A login that waits for an approval holds a slot. The limiter bounds the slots of one address and of all
addresses together. Taking a slot gives a function that gives it back, which does so at its first call
only; loopback addresses are exempt, and their functions do nothing.

Both critical sections run under one lock and are steps of their own. A call of a function that gives a
slot back begins before it holds the lock, so other steps can come between.
-/

namespace ShellHub.ApprovalSlots

open Addresses (AddressText usualText)
open Tables (Table countP_replaced)
open Sequences (visited visited_always)

/-! ## Counts of addresses -/

/-- The logins in flight by their address. -/
abbrev Counts := Table (String × Int) String Prod.fst

namespace Counts

/-- The count of an address, zero when none is stored. -/
def read (counts : Counts) (addr : String) : Int := ((counts.find addr).map Prod.snd).getD 0

def delete (counts : Counts) (addr : String) : Counts := counts.erase fun entry => entry.1 = addr

/-- Set the count of an address. -/
def store (counts : Counts) (addr : String) (count : Int) : Counts :=
  ⟨(addr, count) :: (counts.delete addr).rows, by
    refine List.nodup_cons.mpr ⟨?_, (counts.delete addr).distinct⟩
    rintro member
    obtain ⟨entry, stored, same⟩ := List.mem_map.mp member
    exact absurd same (by simpa using (List.mem_filter.mp stored).2)⟩

def sum (counts : Counts) : Int := (counts.rows.map Prod.snd).sum

/-- A deleted address counts for nothing. -/
theorem read_delete (counts : Counts) (addr other : String) :
    (counts.delete addr).read other = if other = addr then 0 else counts.read other := by
  rw [read, delete, Table.find_erase, read]
  cases found : counts.find other with
  | none => simp
  | some entry =>
    obtain ⟨-, rfl⟩ := Table.find_eq_some.mp found
    by_cases same : entry.1 = addr <;> simp [same, Option.filter_some]

/-- A stored count is read back, and the others are as before. -/
theorem read_store (counts : Counts) (addr other : String) (count : Int) :
    (counts.store addr count).read other = if other = addr then count else counts.read other := by
  by_cases same : other = addr
  · subst same
    simp [read, Table.find, store]
  · have below : (counts.store addr count).read other = (counts.delete addr).read other := by
      simp [read, Table.find, store, Ne.symm same]
    rw [below, read_delete, if_neg same, if_neg same]

/-- Deleting an address takes its count off the sum. -/
theorem sum_delete (counts : Counts) (addr : String) :
    (counts.delete addr).sum = counts.sum - counts.read addr := by
  obtain ⟨rows, distinct⟩ := counts
  simp only [sum, delete, Table.erase, read, Table.find]
  induction rows with
  | nil => rfl
  | cons entry rest ih =>
    obtain ⟨fresh, others⟩ := List.nodup_cons.mp distinct
    have later := ih others
    by_cases same : entry.1 = addr
    · have absent : rest.filter (fun row => !decide (row.1 = addr)) = rest := by
        refine List.filter_eq_self.mpr fun row member => ?_
        have differs : row.1 ≠ addr := fun alike =>
          fresh (List.mem_map.mpr ⟨row, member, alike.trans same.symm⟩)
        simpa using differs
      simp [same, absent]
    · simp only [List.find?_cons, List.filter_cons, same, decide_false, Bool.not_false, if_true,
        List.map_cons, List.sum_cons, later]
      omega

/-- A stored count takes the place of the old one in the sum. -/
theorem sum_store (counts : Counts) (addr : String) (count : Int) :
    (counts.store addr count).sum = counts.sum - counts.read addr + count := by
  have step : (counts.store addr count).sum = count + (counts.delete addr).sum := rfl
  rw [step, sum_delete, Int.add_comm]

end Counts

/-! ## The limiter -/

/-- The slots that are held, and the two limits. -/
structure Limiter where
  perSource : Nat
  total : Nat
  inFlight : Counts
  current : Int

def newApprovalLimiter (perSource total : Nat) : Limiter := ⟨perSource, total, Table.empty, 0⟩

def isLoopback (text : AddressText) (addr : String) : Bool :=
  match text.parseAddr addr with
  | some ip => ip.zone = "" && match ip.unmap with
    | .v4 bits => bits.toNat / 2 ^ 24 = 127
    | .v6 bits _ => bits.toNat = 1
  | none => false

/-- How far the single effective call of a function has come. -/
inductive Once where
  | idle
  | running
  | done
deriving DecidableEq, Repr

/-- A function that gives a slot back. -/
inductive Release where
  | noop
  | once (addr : String) (progress : Once)
deriving DecidableEq, Repr

/-- Take a slot for an address. -/
def Limiter.acquire (text : AddressText) (limiter : Limiter) (addr : String) : Limiter × Option Release :=
  if isLoopback text addr then (limiter, some .noop)
  else if limiter.current ≥ limiter.total ∨ limiter.inFlight.read addr ≥ limiter.perSource then
    (limiter, none)
  else
    ({ limiter with
        inFlight := limiter.inFlight.store addr (limiter.inFlight.read addr + 1)
        current := limiter.current + 1 },
      some (.once addr .idle))

/-- Give a slot of an address back. -/
def Limiter.release (limiter : Limiter) (addr : String) : Limiter :=
  let lowered := limiter.inFlight.store addr (limiter.inFlight.read addr - 1)
  { limiter with
    inFlight := if lowered.read addr ≤ 0 then lowered.delete addr else lowered
    current := limiter.current - 1 }

/-- The limiter and the functions that it has handed out. -/
structure State where
  limiter : Limiter
  releases : List Release

def start (perSource total : Nat) : State := ⟨newApprovalLimiter perSource total, []⟩

inductive Event where
  | acquire (addr : String)
  /-- A function is called. -/
  | call (index : Nat)
  /-- A call that has begun goes through the critical section. -/
  | run (index : Nat)
deriving DecidableEq, Repr

def next (text : AddressText) (state : State) : Event → State
  | .acquire addr =>
    let outcome := state.limiter.acquire text addr
    ⟨outcome.1, state.releases ++ outcome.2.toList⟩
  | .call index =>
    match state.releases[index]? with
    | some (.once addr .idle) => { state with releases := state.releases.set index (.once addr .running) }
    -- Every later call waits for the first one and does nothing.
    | _ => state
  | .run index =>
    match state.releases[index]? with
    | some (.once addr .running) =>
      ⟨state.limiter.release addr, state.releases.set index (.once addr .done)⟩
    | _ => state

/-! ## Accounting -/

/-- A slot is held until the critical section of its function has run. -/
def Release.held : Release → Bool
  | .noop => false
  | .once _ progress => progress ≠ .done

def Release.heldBy (addr : String) : Release → Bool
  | .noop => false
  | .once source progress => source = addr && progress ≠ .done

/-- The counts are those of the slots that are held, within the limits. -/
structure Inv (perSource total : Nat) (state : State) : Prop where
  limits : state.limiter.perSource = perSource ∧ state.limiter.total = total
  read : ∀ addr, state.limiter.inFlight.read addr = state.releases.countP (Release.heldBy addr)
  positive : ∀ entry ∈ state.limiter.inFlight.rows, 0 < entry.2
  current : state.limiter.current = state.releases.countP Release.held
  sum : state.limiter.inFlight.sum = state.limiter.current
  within : state.limiter.current ≤ total
  share : ∀ addr, state.limiter.inFlight.read addr ≤ perSource

variable {perSource total : Nat} {text : AddressText} {state : State}

/-- A new limiter has handed out nothing. -/
theorem Inv.start : Inv perSource total (start perSource total) where
  limits := ⟨rfl, rfl⟩
  read _ := rfl
  positive := nofun
  current := rfl
  sum := rfl
  within := Int.natCast_nonneg _
  share _ := Int.natCast_nonneg _

/-- Functions may come and go as long as the slots that are held are the same. -/
theorem Inv.relabel (inv : Inv perSource total state) {releases : List Release}
    (same : ∀ addr, releases.countP (Release.heldBy addr) = state.releases.countP (Release.heldBy addr))
    (all : releases.countP Release.held = state.releases.countP Release.held) :
    Inv perSource total ⟨state.limiter, releases⟩ where
  limits := inv.limits
  read addr := by rw [inv.read, same]
  positive := inv.positive
  current := by rw [inv.current, all]
  sum := inv.sum
  within := inv.within
  share := inv.share

/-- A slot that is taken within the limits is counted, for its address and in total. -/
theorem Inv.acquire (inv : Inv perSource total state) (addr : String) :
    Inv perSource total (next text state (.acquire addr)) := by
  unfold next Limiter.acquire
  dsimp only
  split_ifs with loopback refused
  · exact inv.relabel (by simp [Release.heldBy]) (by simp [Release.held])
  · exact inv.relabel (by simp) (by simp)
  · obtain ⟨⟨rfl, rfl⟩, read, positive, current, sum, within, share⟩ := inv
    constructor
    · exact ⟨rfl, rfl⟩
    · intro other
      simp only [Counts.read_store, Option.toList_some, List.countP_append, List.countP_singleton, read]
      by_cases same : other = addr
      · subst same
        simp [Release.heldBy]
      · simp [Release.heldBy, same, Ne.symm same]
    · intro entry member
      rcases List.mem_cons.mp member with rfl | old
      · have := read addr
        dsimp only
        omega
      · exact positive entry (List.mem_of_mem_filter old)
    · simp [Release.held, current]
    · dsimp only
      rw [Counts.sum_store, sum]
      omega
    · dsimp only
      omega
    · intro other
      simp only [Counts.read_store]
      have := share other
      split <;> omega

/-- The call of a function changes no count. -/
theorem Inv.call (inv : Inv perSource total state) (index : Nat) :
    Inv perSource total (next text state (.call index)) := by
  unfold next
  dsimp only
  split
  · rename_i addr found
    refine inv.relabel (fun other => ?_) ?_
    · have := countP_replaced found (Release.heldBy other) (.once addr .running)
      simpa [Release.heldBy] using this
    · have := countP_replaced found Release.held (.once addr .running)
      simpa [Release.held] using this
  · exact inv

/-- Giving a slot back lowers the count of its address, which is there. -/
theorem read_release {limiter : Limiter} {addr : String} (held : 1 ≤ limiter.inFlight.read addr)
    (other : String) : (limiter.release addr).inFlight.read other =
    if other = addr then limiter.inFlight.read addr - 1 else limiter.inFlight.read other := by
  simp only [Limiter.release, Counts.read_store, if_true]
  split_ifs with last same same
  · rw [Counts.read_delete, if_pos same]
    omega
  · rw [Counts.read_delete, if_neg same, Counts.read_store, if_neg same]
  · rw [Counts.read_store, if_pos same]
  · rw [Counts.read_store, if_neg same]

/-- Giving a slot back lowers the sum by one. -/
theorem sum_release (limiter : Limiter) {addr : String} (held : 1 ≤ limiter.inFlight.read addr) :
    (limiter.release addr).inFlight.sum = limiter.inFlight.sum - 1 := by
  simp only [Limiter.release, Counts.read_store, if_true]
  split_ifs with last
  · rw [Counts.sum_delete, Counts.sum_store, Counts.read_store, if_pos rfl]
    omega
  · rw [Counts.sum_store]
    omega

/-- The count that drops to zero is deleted. -/
theorem positive_release {limiter : Limiter} (positive : ∀ entry ∈ limiter.inFlight.rows, 0 < entry.2)
    (addr : String) : ∀ entry ∈ (limiter.release addr).inFlight.rows, 0 < entry.2 := by
  have kept : ∀ entry ∈ (limiter.inFlight.delete addr).rows, 0 < entry.2 := fun entry member =>
    positive entry (List.mem_of_mem_filter member)
  simp only [Limiter.release, Counts.read_store, if_true]
  intro entry member
  split_ifs at member with last
  · obtain ⟨stored, other⟩ := List.mem_filter.mp member
    rcases List.mem_cons.mp stored with rfl | old
    · simp at other
    · exact kept entry old
  · rcases List.mem_cons.mp member with rfl | old
    · exact not_le.mp last
    · exact kept entry old

/-- The slot of a function that has not run is counted for its address. -/
theorem Inv.counted (inv : Inv perSource total state) {index : Nat} {addr : String} {progress : Once}
    (found : state.releases[index]? = some (.once addr progress)) (pending : progress ≠ .done) :
    1 ≤ state.limiter.inFlight.read addr := by
  have here : 0 < state.releases.countP (Release.heldBy addr) :=
    List.countP_pos_iff.mpr ⟨_, List.mem_of_getElem? found, by simp [Release.heldBy, pending]⟩
  rw [inv.read]
  omega

/-- The critical section of a function takes one slot off the counts. -/
theorem Inv.run (inv : Inv perSource total state) (index : Nat) :
    Inv perSource total (next text state (.run index)) := by
  unfold next
  dsimp only
  split
  · rename_i addr found
    have one := fun other => countP_replaced found (Release.heldBy other) (.once addr .done)
    have all := countP_replaced found Release.held (.once addr .done)
    simp only [Release.heldBy, Release.held, ne_eq, reduceCtorEq, not_false_eq_true, not_true_eq_false,
      decide_true, decide_false, Bool.and_true, Bool.and_false, Bool.false_eq_true, if_true, if_false,
      decide_eq_true_eq] at one all
    have held := inv.counted found (by decide)
    obtain ⟨⟨rfl, rfl⟩, read, positive, current, sum, within, share⟩ := inv
    have dropped : (state.limiter.release addr).current = state.limiter.current - 1 := rfl
    refine ⟨⟨rfl, rfl⟩, fun other => ?_, positive_release positive addr, ?_, ?_, ?_, fun other => ?_⟩
    · have lowered := one other
      dsimp only
      rw [read_release held]
      by_cases same : other = addr
      · subst same
        rw [if_pos rfl] at lowered
        rw [if_pos rfl, read]
        omega
      · rw [if_neg (Ne.symm same)] at lowered
        rw [if_neg same, read]
        omega
    · dsimp only
      omega
    · dsimp only
      rw [sum_release _ held, sum, dropped]
    · dsimp only
      omega
    · have := share other
      have := share addr
      dsimp only
      rw [read_release held]
      split <;> omega
  · exact inv

/-- Every event keeps the counts right. -/
theorem Inv.next (inv : Inv perSource total state) (event : Event) :
    Inv perSource total (next text state event) := by
  cases event with
  | acquire addr => exact inv.acquire addr
  | call index => exact inv.call index
  | run index => exact inv.run index

/-- The counts are right after every run. -/
theorem Inv.foldl (inv : Inv perSource total state) (events : List Event) :
    Inv perSource total (events.foldl (ApprovalSlots.next text) state) := by
  induction events generalizing state with
  | nil => exact inv
  | cons event rest ih => exact ih (inv.next event)

/-! ## The calls of a run -/

/-- The events after a function was handed out. -/
def since (text : AddressText) (index : Nat) : State → List Event → List Event
  | _, [] => []
  | state, event :: rest =>
    if index < (next text state event).releases.length then rest
    else since text index (next text state event) rest

/-- A function was called, and then the call went through the critical section. -/
def Returned (index : Nat) (events : List Event) : Prop := [.call index, .run index].Sublist events

instance (index : Nat) (events : List Event) : Decidable (Returned index events) :=
  inferInstanceAs (Decidable (List.Sublist _ _))

/-- What an event does to the call of a function. -/
def Once.next (index : Nat) : Once → Event → Once
  | .idle, .call other => if other = index then .running else .idle
  | .running, .run other => if other = index then .done else .running
  | progress, _ => progress

def Release.next (index : Nat) : Release → Event → Release
  | .noop, _ => .noop
  | .once addr progress, event => .once addr (progress.next index event)

section Runs

variable (text : AddressText) (perSource total : Nat) (events : List Event)

/-- The state at the end of a run. -/
def run : State := events.foldl (next text) (start perSource total)

variable {text perSource total events}

end Runs

/-- When every slot was given back the limiter is as new, in every run. The counts are those of the
functions that hold a slot, so without one no count is positive and no entry is left. -/
theorem slots_returned (text : AddressText) (perSource total : Nat) (events : List Event) :
    ∀ state ∈ visited (next text) (start perSource total) events,
      (∀ release ∈ state.releases, release.held = false) →
      state.limiter = newApprovalLimiter perSource total := by
  intro state member returned
  have inv := visited_always (Inv perSource total) (fun _ event inv => inv.next event) Inv.start events state member
  obtain ⟨⟨each, all, ⟨rows, distinct⟩, count⟩, releases⟩ := state
  obtain ⟨⟨rfl, rfl⟩, read, positive, current, -⟩ := inv
  have zero : count = 0 :=
    current.trans (congrArg Int.ofNat (List.countP_eq_zero.mpr (by simpa using returned)))
  have empty : rows = [] := by
    refine List.eq_nil_iff_forall_not_mem.mpr fun entry stored => ?_
    have found := read entry.1
    rw [Counts.read, Table.find_of_mem stored, List.countP_eq_zero.mpr] at found
    · exact absurd found (Int.ne_of_gt (positive entry stored))
    · rintro (_ | ⟨source, progress⟩) given held
      · cases held
      · have := returned _ given
        simp_all [Release.held, Release.heldBy]
  subst zero empty
  rfl

theorem slots_returned_by_one :
    ([.acquire "192.0.2.7", .call 0, .run 0].foldl (next usualText) (start 1 1)).limiter =
      newApprovalLimiter 1 1 :=
  slots_returned usualText 1 1 [.acquire "192.0.2.7", .call 0, .run 0] _
    (.tail _ (.tail _ (.tail _ (.head _)))) (by decide +kernel)

end ShellHub.ApprovalSlots
