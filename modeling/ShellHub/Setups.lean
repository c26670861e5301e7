import Mathlib.Data.Finset.Card
import ShellHub.LetterCase
import ShellHub.Sequences

/-!
# Setting up an instance

`Setup` makes a new instance ready: it creates the first account, which is an administrator, then a
namespace that the account owns, and at last it stores that the instance is set up and which
namespace it is bound to. The system row is read at the start and written at the end, so that the
reading is only a first guard. The second one is in the store: a bound instance creates no further
namespace. When the namespace cannot be created the account is deleted again; no other step is taken
back.

Any number of setups run at the same time, one store call after the other, and any call may fail.
Identifiers are generated, so an account is known by the setup that created it, and so is a tenant
other than that of the development stack. What follows the writing of the system row, the eviction
from the cache and the token, changes neither the store nor whether the setup succeeds.
-/

namespace ShellHub.Setups

open LetterCase (toLower)
open Sequences

/-- A request, and whether the account data and the password pass the validator. -/
structure Request where
  email : String
  username : String
  namespaceName : String
  valid : Bool
  deriving DecidableEq, Repr

/-- An account, with the setup that created it. -/
structure Account where
  setup : Option Nat
  email : String
  username : String
  deriving DecidableEq, Repr

/-- The account that a setup creates. -/
def Request.account (request : Request) (setup : Nat) : Account :=
  ⟨some setup, request.email, request.username⟩

inductive Tenant where
  | generated (setup : Nat)
  /-- `devTenantID` -/
  | dev
  deriving DecidableEq, Repr

structure Namespace where
  tenant : Tenant
  name : String
  /-- the setup whose account owns it -/
  owner : Nat
  deriving DecidableEq, Repr

/-- The system row. An instance that is not bound has no tenant. -/
structure System where
  setup : Bool
  instanceTenant : Option Tenant
  deriving DecidableEq, Repr

/-- The next store call of a setup, or its outcome. -/
inductive Phase where
  | systemGet
  | userCreate
  | namespaceCreate
  | userDelete
  | systemSet
  | returned (ok : Bool)
  deriving DecidableEq, Repr

structure Call where
  request : Request
  phase : Phase
  deriving DecidableEq, Repr

/-- The store and the setups, by their number. -/
structure World where
  development : Bool
  system : System
  accounts : List Account
  namespaces : List Namespace
  calls : List Call
  deriving DecidableEq, Repr

namespace World

def goTo (world : World) (call : Nat) (phase : Phase) : World :=
  { world with calls := world.calls.modify call fun made => { made with phase } }

/-- The account of a setup is stored. -/
def hasAccount (world : World) (call : Nat) : Bool :=
  world.accounts.any fun account => account.setup = some call

/-- `UserCreate`: the email address and the username are unique. -/
def userCreate (world : World) (call : Nat) (request : Request) (fault : Bool) : World :=
  if fault || world.accounts.any fun account =>
      account.email = request.email || account.username = request.username then
    world.goTo call (.returned false)
  else
    { world with accounts := world.accounts ++ [request.account call] }.goTo call .namespaceCreate

/-- The namespace of a setup. -/
def founded (world : World) (call : Nat) (request : Request) : Namespace :=
  let name := toLower request.namespaceName
  ⟨if world.development ∧ name = "dev" then .dev else .generated call, name, call⟩

/-- `NamespaceCreate`: a bound instance refuses it, tenants and names are unique, and the owner
exists. -/
def namespaceCreate (world : World) (call : Nat) (request : Request) (fault : Bool) : World :=
  let created := world.founded call request
  if fault || world.system.instanceTenant.isSome || !world.hasAccount call ||
      world.namespaces.any fun stored =>
        stored.tenant = created.tenant || stored.name = created.name then
    world.goTo call .userDelete
  else { world with namespaces := world.namespaces ++ [created] }.goTo call .systemSet

/-- `UserDelete`: the namespaces of the account go with it, but not the one that the instance is
bound to. -/
def userDelete (world : World) (call : Nat) (fault : Bool) : World :=
  if fault || !world.hasAccount call || world.namespaces.any fun stored =>
      stored.owner = call && world.system.instanceTenant = some stored.tenant then
    world.goTo call (.returned false)
  else
    { world with
      accounts := world.accounts.filter fun account => account.setup ≠ some call
      namespaces := world.namespaces.filter fun stored => stored.owner ≠ call }.goTo call
        (.returned false)

/-- `SystemSet`: the binding refers to a namespace. -/
def systemSet (world : World) (call : Nat) (request : Request) (fault : Bool) : World :=
  let tenant := (world.founded call request).tenant
  if fault || !world.namespaces.any fun stored => stored.tenant = tenant then
    world.goTo call (.returned false)
  else { world with system := ⟨true, some tenant⟩ }.goTo call (.returned true)

/-- The next store call of a setup. -/
def step (world : World) (call : Nat) (request : Request) (fault : Bool) : Phase → World
  | .systemGet =>
    if fault || world.system.setup || !request.valid then world.goTo call (.returned false)
    else world.goTo call .userCreate
  | .userCreate => world.userCreate call request fault
  | .namespaceCreate => world.namespaceCreate call request fault
  | .userDelete => world.userDelete call fault
  | .systemSet => world.systemSet call request fault
  | .returned _ => world

end World

/-- A setup starts, or it makes its next store call, which may fail. -/
inductive Event where
  | start (request : Request)
  | step (call : Nat) (fault : Bool)
  deriving DecidableEq, Repr

def World.next (world : World) : Event → World
  | .start request => { world with calls := world.calls ++ [⟨request, .systemGet⟩] }
  | .step call fault =>
    match world.calls[call]? with
    | none => world
    | some made => world.step call made.request fault made.phase

/-- A namespace is created only when no setup has created one that it has still to bind, and the
deletion of an account and the writing of the system row do not fail. -/
def InTurn (world : World) : Event → Prop
  | .start _ => True
  | .step call fault =>
    ∀ made ∈ world.calls[call]?, match made.phase with
      | .namespaceCreate => ∀ other ∈ world.calls, other.phase ≠ .systemSet
      | .userDelete | .systemSet => fault = false
      | _ => True

instance (world : World) (event : Event) : Decidable (InTurn world event) :=
  match event with
  | .start _ => .isTrue trivial
  | .step call fault =>
    have (made : Call) : Decidable (match made.phase with
        | .namespaceCreate => ∀ other ∈ world.calls, other.phase ≠ .systemSet
        | .userDelete | .systemSet => fault = false
        | _ => True) := by
      split <;> infer_instance
    inferInstanceAs (Decidable (∀ made ∈ world.calls[call]?, _))

/-- An instance that is not set up, with any accounts of other origin. -/
structure World.New (world : World) : Prop where
  system : world.system = ⟨false, none⟩
  accounts : ∀ account ∈ world.accounts, account.setup = none
  namespaces : world.namespaces = []
  calls : world.calls = []

/-- The setups have all returned. -/
def World.Quiet (world : World) : Prop :=
  ∀ call ∈ world.calls, ∃ ok, call.phase = .returned ok

/-- The accounts that setups have created. -/
def World.administrators (world : World) : List Nat := world.accounts.filterMap Account.setup

/-- An instance is set up once: one call succeeds at most, there is one namespace at most, and when
all calls have returned the instance is bound to it and one account at most is left. -/
structure SetUpOnce (world : World) : Prop where
  success : ∀ (first second : Nat) (one other : Call), world.calls[first]? = some one →
    world.calls[second]? = some other → one.phase = .returned true →
    other.phase = .returned true → first = second
  administrator : world.Quiet → world.administrators.length ≤ 1
  single : world.namespaces.length ≤ 1
  bound : world.Quiet → ∀ stored ∈ world.namespaces,
    world.system.instanceTenant = some stored.tenant

/-! ## One holder -/

/-- A setup in this phase has an account. -/
def Phase.hasAccount : Phase → Prop
  | .namespaceCreate | .userDelete | .systemSet | .returned true => True
  | _ => False

/-- A setup in this phase has a namespace. -/
def Phase.holds : Phase → Prop
  | .systemSet | .returned true => True
  | _ => False

/-- Who has the namespace, if there is one. -/
inductive Held (world : World) : Prop where
  | free (namespaces : world.namespaces = []) (unbound : world.system.instanceTenant = none)
      (nobody : ∀ (call : Nat) (made : Call), world.calls[call]? = some made → ¬ made.phase.holds)
  | held (call : Nat) (made : Call) (found : world.calls[call]? = some made)
      (namespaces : world.namespaces = [world.founded call made.request])
      (phase : made.phase = .systemSet ∧ world.system.instanceTenant = none ∨
        made.phase = .returned true ∧
          world.system.instanceTenant = some (world.founded call made.request).tenant)
      (others : ∀ (other : Nat) (another : Call), world.calls[other]? = some another →
        other ≠ call → ¬ another.phase.holds)

/-- What is kept: one setup at most has the namespace, an account of a setup belongs to one that has
come far enough, and a setup has one account at most. -/
structure Inv (world : World) : Prop where
  held : Held world
  accounts : ∀ call ∈ world.administrators, ∃ made, world.calls[call]? = some made ∧
    made.phase.hasAccount
  once : world.administrators.Nodup

section Setups

variable {world later : World} {call : Nat} {made : Call} {phase : Phase}

/-- The calls of a world after one of them has gone to another phase. -/
structure Moved (world later : World) (call : Nat) (made : Call) (phase : Phase) : Prop where
  development : later.development = world.development
  now : later.calls[call]? = some { made with phase }
  others : ∀ other, other ≠ call → later.calls[other]? = world.calls[other]?

/-- Writing rows and going to a phase moves one call only. -/
theorem goTo_moved {written : World} (found : world.calls[call]? = some made) (phase : Phase)
    (calls : written.calls = world.calls) (development : written.development = world.development) :
    Moved world (written.goTo call phase) call made phase := by
  refine ⟨development, ?_, fun other different => ?_⟩
  · simp [World.goTo, calls, found]
  · simp [World.goTo, calls, Ne.symm different]

/-- The namespace of a setup does not depend on how far the calls are. -/
theorem Moved.founded (moved : Moved world later call made phase) (other : Nat)
    (request : Request) : later.founded other request = world.founded other request := by
  simp only [World.founded, moved.development]

/-- A setup that has no namespace goes on without one. -/
theorem Held.move (held : Held world) (found : world.calls[call]? = some made)
    (moved : Moved world later call made phase) (before : ¬ made.phase.holds)
    (after : ¬ phase.holds) (namespaces : later.namespaces = world.namespaces)
    (system : later.system = world.system) : Held later := by
  have spread : ∀ free : Nat → Prop, (∀ (other : Nat) (another : Call),
      world.calls[other]? = some another → free other → ¬ another.phase.holds) →
      ∀ (other : Nat) (another : Call), later.calls[other]? = some another → free other →
        ¬ another.phase.holds := by
    intro free none other another present isFree
    by_cases same : other = call
    · rw [same, moved.now] at present
      cases present
      exact after
    · exact none other another (by rw [← moved.others other same]; exact present) isFree
  cases held with
  | free empty unbound nobody =>
    refine .free (namespaces.trans empty) (by rw [system]; exact unbound) fun other another present =>
      spread (fun _ => True) (fun other another found _ => nobody other another found) other another
        present trivial
  | held holder kept present stored inPhase others =>
    have different : holder ≠ call := by
      rintro rfl
      cases found.symm.trans present
      rcases inPhase with ⟨isPhase, -⟩ | ⟨isPhase, -⟩ <;> rw [isPhase] at before <;>
        exact before trivial
    refine .held holder kept ((moved.others holder different).trans present) ?_ ?_ (spread _ others)
    · rw [namespaces, stored, moved.founded]
    · rw [system, moved.founded]
      exact inPhase

/-- The accounts that are left belong to setups that have come far enough. -/
theorem Inv.move (inv : Inv world) (held : Held later)
    (moved : Moved world later call made phase)
    (fewer : later.administrators.Sublist world.administrators)
    (mine : phase.hasAccount ∨ call ∉ later.administrators) : Inv later := by
  refine ⟨held, fun other present => ?_, inv.once.sublist fewer⟩
  by_cases same : other = call
  · subst same
    rcases mine with has | hasNot
    · exact ⟨_, moved.now, has⟩
    · exact absurd present hasNot
  · obtain ⟨another, found, has⟩ := inv.accounts other (fewer.subset present)
    exact ⟨another, (moved.others other same).trans found, has⟩

/-- A setup whose account is not stored is none of the administrators. -/
theorem hasAccount_eq_false (absent : world.hasAccount call = false) :
    call ∉ world.administrators := by
  intro present
  obtain ⟨account, member, setup⟩ := List.mem_filterMap.mp present
  simp only [World.hasAccount, List.any_eq_false, decide_eq_true_eq] at absent
  exact absent account member setup

section Steps

variable (inv : Inv world) (found : world.calls[call]? = some made)

include inv found

/-- A setup without an account in its phase has none in the store. -/
theorem Inv.none_stored (without : ¬ made.phase.hasAccount) : call ∉ world.administrators := by
  intro present
  obtain ⟨same, again, has⟩ := inv.accounts call present
  cases found.symm.trans again
  exact without has

/-- A setup that has no namespace ends or goes on, and nothing is written. -/
theorem Inv.pass (before : ¬ made.phase.holds) (after : ¬ phase.holds)
    (mine : phase.hasAccount ∨ call ∉ world.administrators) : Inv (world.goTo call phase) :=
  have moved := goTo_moved found phase rfl rfl
  inv.move (inv.held.move found moved before after rfl rfl) moved (.refl _) mine

/-- The account of a setup is stored, as its first one, or the setup ends. -/
theorem Inv.userCreate (isPhase : made.phase = .userCreate) (fault : Bool) :
    Inv (world.userCreate call made.request fault) := by
  have without : ¬ made.phase.holds := by rw [isPhase]; exact id
  have fresh := inv.none_stored found (by rw [isPhase]; exact id)
  unfold World.userCreate
  split
  · exact inv.pass found without id (.inr fresh)
  · let stored := { world with accounts := world.accounts ++ [made.request.account call] }
    have moved : Moved world (stored.goTo call .namespaceCreate) call made .namespaceCreate :=
      goTo_moved found _ rfl rfl
    have more : (stored.goTo call .namespaceCreate).administrators =
        world.administrators ++ [call] := by
      simp [stored, World.administrators, World.goTo, Request.account]
    refine ⟨inv.held.move found moved without id rfl rfl, fun other present => ?_, ?_⟩
    · rcases List.mem_append.mp (more ▸ present) with old | new
      · obtain ⟨another, foundOther, has⟩ := inv.accounts other old
        have different : other ≠ call := by
          rintro rfl
          exact fresh old
        exact ⟨another, (moved.others other different).trans foundOther, has⟩
      · rw [List.mem_singleton.mp new]
        exact ⟨_, moved.now, trivial⟩
    · rw [more]
      refine List.nodup_append.mpr ⟨inv.once, by simp, ?_⟩
      rintro other present _ isNew rfl
      cases List.mem_singleton.mp isNew
      exact fresh present

/-- A namespace is created when there is none: one that is there would be bound, or about to be. -/
theorem Inv.namespaceCreate (isPhase : made.phase = .namespaceCreate) (fault : Bool)
    (alone : ∀ other ∈ world.calls, other.phase ≠ .systemSet) :
    Inv (world.namespaceCreate call made.request fault) := by
  have without : ¬ made.phase.holds := by rw [isPhase]; exact id
  unfold World.namespaceCreate
  dsimp only
  split
  · exact inv.pass found without id (.inl trivial)
  · rename_i taken
    simp only [Bool.or_eq_true, not_or, Bool.not_eq_true] at taken
    obtain ⟨⟨⟨-, unbound⟩, -⟩, -⟩ := taken
    -- a namespace that is there belongs to a setup that has bound the instance
    cases inv.held with
    | held holder kept present stored inPhase others =>
      rcases inPhase with ⟨binding, -⟩ | ⟨-, bound⟩
      · exact absurd binding (alone kept (List.mem_of_getElem? present))
      · rw [bound] at unbound
        cases unbound
    | free empty isUnbound nobody =>
      let created := { world with namespaces := world.namespaces ++ [world.founded call made.request] }
      have moved : Moved world (created.goTo call .systemSet) call made .systemSet :=
        goTo_moved found _ rfl rfl
      refine inv.move ?_ moved (.refl _) (.inl trivial)
      refine .held call _ moved.now ?_ (.inl ⟨rfl, isUnbound⟩) fun other another present different => ?_
      · change world.namespaces ++ _ = _
        rw [empty]
        rfl
      · exact nobody other another ((moved.others other different).symm.trans present)

/-- The deletion of the account leaves the namespace, which belongs to another setup. -/
theorem Inv.userDelete (isPhase : made.phase = .userDelete) :
    Inv (world.userDelete call false) := by
  have without : ¬ made.phase.holds := by rw [isPhase]; exact id
  -- the namespace that is there belongs to another setup
  have foreign : ∀ stored ∈ world.namespaces, stored.owner ≠ call := by
    cases inv.held with
    | free empty _ _ => rw [empty]; nofun
    | held holder kept present stored inPhase others =>
      rintro _ member rfl
      rw [stored, List.mem_singleton] at member
      subst member
      cases found.symm.trans present
      rcases inPhase with ⟨holds, -⟩ | ⟨holds, -⟩ <;> rw [holds] at without <;> exact without trivial
  unfold World.userDelete
  split
  · rename_i fails
    simp only [Bool.false_or, Bool.or_eq_true, Bool.not_eq_true', List.any_eq_true, Bool.and_eq_true,
      decide_eq_true_eq] at fails
    rcases fails with absent | ⟨stored, member, mine, -⟩
    · exact inv.pass found without id (.inr (hasAccount_eq_false absent))
    · exact absurd mine (foreign stored member)
  · let left := { world with
      accounts := world.accounts.filter fun account => account.setup ≠ some call
      namespaces := world.namespaces.filter fun stored => stored.owner ≠ call }
    have moved : Moved world (left.goTo call (.returned false)) call made (.returned false) :=
      goTo_moved found _ rfl rfl
    have same : left.namespaces = world.namespaces :=
      List.filter_eq_self.mpr fun stored member => decide_eq_true (foreign stored member)
    refine inv.move (inv.held.move found moved without id same rfl) moved
      (List.filter_sublist.filterMap _) (.inr ?_)
    intro present
    obtain ⟨account, member, setup⟩ := List.mem_filterMap.mp present
    exact of_decide_eq_true (List.mem_filter.mp member).2 setup

/-- The instance is bound to the namespace of the setup that has it. -/
theorem Inv.systemSet (isPhase : made.phase = .systemSet) :
    Inv (world.systemSet call made.request false) := by
  cases inv.held with
  | free _ _ nobody =>
    have holds : made.phase.holds := by rw [isPhase]; trivial
    exact absurd holds (nobody call made found)
  | held holder kept present stored inPhase others =>
    have mine : holder = call := by
      refine Decidable.byContradiction fun different => ?_
      exact others call made found (Ne.symm different) (by rw [isPhase]; trivial)
    subst mine
    cases found.symm.trans present
    have there : (world.namespaces.any fun one =>
        one.tenant = (world.founded holder made.request).tenant) = true := by
      rw [stored]
      simp
    unfold World.systemSet
    simp only [there, Bool.not_true, Bool.or_false, Bool.false_eq_true, if_false]
    let bound := { world with system := ⟨true, some (world.founded holder made.request).tenant⟩ }
    have moved : Moved world (bound.goTo holder (.returned true)) holder made (.returned true) :=
      goTo_moved found _ rfl rfl
    refine inv.move ?_ moved (.refl _) (.inl trivial)
    refine .held holder _ moved.now stored (.inr ⟨rfl, rfl⟩) fun other another there different => ?_
    exact others other another ((moved.others other different).symm.trans there) different

end Steps

/-- A setup that starts has nothing yet. -/
theorem Inv.start (inv : Inv world) (request : Request) :
    Inv { world with calls := world.calls ++ [⟨request, .systemGet⟩] } := by
  have kept : ∀ {other : Nat} {another : Call}, world.calls[other]? = some another →
      (world.calls ++ [⟨request, .systemGet⟩])[other]? = some another := by
    intro other another found
    rw [List.getElem?_append_left (List.getElem?_eq_some_iff.mp found).1]
    exact found
  have old : ∀ {other : Nat} {another : Call},
      (world.calls ++ [⟨request, .systemGet⟩])[other]? = some another → another.phase.holds →
        world.calls[other]? = some another := by
    intro other another found holds
    rw [List.getElem?_append] at found
    split at found
    · exact found
    · rw [List.getElem?_singleton] at found
      split at found <;> cases found
      exact holds.elim
  refine ⟨?_, fun other present => ?_, inv.once⟩
  · cases inv.held with
    | free empty unbound nobody =>
      exact .free empty unbound fun other another found holds =>
        nobody other another (old found holds) holds
    | held holder made found stored inPhase others =>
      exact .held holder made (kept found) stored inPhase fun other another present different holds =>
        others other another (old present holds) different holds
  · obtain ⟨made, found, has⟩ := inv.accounts other present
    exact ⟨made, kept found, has⟩

/-- Every call that meets the condition keeps one holder at most. -/
theorem Inv.next (inv : Inv world) (event : Event) (inTurn : InTurn world event) :
    Inv (world.next event) := by
  cases event with
  | start request => exact inv.start request
  | step call fault =>
    simp only [World.next]
    split
    · exact inv
    · rename_i made found
      have condition := inTurn made found
      cases isPhase : made.phase with
      | systemGet =>
        have before : ¬ made.phase.holds := by rw [isPhase]; exact id
        have none := inv.none_stored found (by rw [isPhase]; exact id)
        simp only [World.step]
        split <;> exact inv.pass found before id (.inr none)
      | userCreate => exact inv.userCreate found isPhase fault
      | namespaceCreate =>
        rw [isPhase] at condition
        exact inv.namespaceCreate found isPhase fault condition
      | userDelete =>
        rw [isPhase] at condition
        cases condition
        exact inv.userDelete found isPhase
      | systemSet =>
        rw [isPhase] at condition
        cases condition
        exact inv.systemSet found isPhase
      | returned ok => exact inv

/-- A new instance has no holder. -/
theorem World.New.inv (new : world.New) : Inv world := by
  have none : world.administrators = [] :=
    List.filterMap_eq_nil_iff.mpr fun account member => new.accounts account member
  refine ⟨.free new.namespaces (by rw [new.system]) ?_, ?_, by rw [none]; exact List.nodup_nil⟩
  · intro other another found
    rw [new.calls] at found
    cases found
  · rw [none]
    nofun

/-- When all setups have returned, an account belongs to one that has succeeded. -/
theorem Inv.returned (inv : Inv world) (quiet : world.Quiet) {call : Nat}
    (present : call ∈ world.administrators) :
    ∃ made, world.calls[call]? = some made ∧ made.phase = .returned true := by
  obtain ⟨made, found, has⟩ := inv.accounts call present
  obtain ⟨ok, phase⟩ := quiet made (List.mem_of_getElem? found)
  rw [phase] at has
  cases ok with
  | true => exact ⟨made, found, phase⟩
  | false => exact has.elim

/-- With one holder at most, the instance is set up once. -/
theorem Inv.setUpOnce (inv : Inv world) : SetUpOnce world := by
  have success : ∀ (first second : Nat) (one other : Call), world.calls[first]? = some one →
      world.calls[second]? = some other → one.phase = .returned true →
      other.phase = .returned true → first = second := by
    intro first second one other foundOne foundOther oneSucceeds otherSucceeds
    have oneHolds : one.phase.holds := by rw [oneSucceeds]; trivial
    have otherHolds : other.phase.holds := by rw [otherSucceeds]; trivial
    cases inv.held with
    | free _ _ nobody => exact absurd oneHolds (nobody first one foundOne)
    | held holder _ _ _ _ others =>
      have isFirst : first = holder := Decidable.byContradiction fun different =>
        others first one foundOne different oneHolds
      have isSecond : second = holder := Decidable.byContradiction fun different =>
        others second other foundOther different otherHolds
      rw [isFirst, isSecond]
  refine ⟨success, fun quiet => ?_, ?_, fun quiet stored member => ?_⟩
  · -- two administrators would be two setups that have succeeded
    have same : ∀ first ∈ world.administrators, ∀ second ∈ world.administrators,
        first = second := by
      intro first one second other
      obtain ⟨_, foundOne, oneSucceeds⟩ := inv.returned quiet one
      obtain ⟨_, foundOther, otherSucceeds⟩ := inv.returned quiet other
      exact success first second _ _ foundOne foundOther oneSucceeds otherSucceeds
    rw [← List.toFinset_card_of_nodup inv.once]
    refine Finset.card_le_one.mpr ?_
    simpa only [List.mem_toFinset] using same
  · cases inv.held with
    | free empty _ _ => rw [empty]; exact Nat.zero_le 1
    | held _ _ _ stored _ _ => rw [stored]; exact Nat.le_refl 1
  · cases inv.held with
    | free empty _ _ =>
      rw [empty] at member
      cases member
    | held holder made found only inPhase _ =>
      rw [only, List.mem_singleton] at member
      rcases inPhase with ⟨phase, -⟩ | ⟨-, bound⟩
      · obtain ⟨ok, returned⟩ := quiet made (List.mem_of_getElem? found)
        cases phase.symm.trans returned
      · rw [member]
        exact bound

end Setups

/-- A new instance is set up once, in every run of setups whose calls meet the condition. Each call
keeps one setup at most with a namespace, and accounts only of setups that have come far enough. -/
theorem set_up_once_in_turn {world : World} (new : world.New) (events : List Event)
    (inTurn : Along World.next InTurn world events) :
    ∀ later ∈ visited World.next world events, SetUpOnce later := fun later reached =>
  (visited_keeps (fun _ event inv condition => inv.next event condition) new.inv inTurn later
    reached).setUpOnce

/-- An instance without rows. -/
def emptyWorld : World := ⟨false, ⟨false, none⟩, [], [], []⟩

/-- An instance without rows is not set up. -/
theorem emptyWorld_new : emptyWorld.New := ⟨rfl, nofun, rfl, rfl⟩

def adaSetup : Request := ⟨"ada@example.com", "ada", "engines", true⟩

def bobSetup : Request := ⟨"bob@example.com", "bob", "spoons", true⟩

/-- Two setups read the system row, then the first runs alone, and the second comes to the guard of
the store too late. -/
def oneAfterTheOther : List Event :=
  [.start adaSetup, .start bobSetup, .step 0 false, .step 1 false, .step 0 false, .step 0 false,
    .step 0 false, .step 1 false, .step 1 false, .step 1 false]

/-- Two setups, of which one runs alone after both have read the system row, set the instance up once. -/
theorem set_up_once_one_after_the_other :
    (∃ world ∈ visited World.next emptyWorld oneAfterTheOther,
      world.calls.map Call.phase = [.returned true, .returned false] ∧
        world.administrators = [0]) ∧
    ∀ world ∈ visited World.next emptyWorld oneAfterTheOther, SetUpOnce world :=
  ⟨by decide +kernel, set_up_once_in_turn emptyWorld_new oneAfterTheOther (by decide +kernel)⟩

/-- Without a fault two setups that overlap both succeed: there are two administrators and two
namespaces. When the writing of the system row fails, a second setup adds an administrator and a
namespace to those of the first. -/
theorem instance_set_up_twice :
    (∃ world ∈ visited World.next emptyWorld
        [.start adaSetup, .start bobSetup, .step 0 false, .step 0 false, .step 0 false, .step 1 false,
          .step 1 false, .step 1 false, .step 0 false, .step 1 false],
      world.calls.map Call.phase = [.returned true, .returned true] ∧
        world.administrators = [0, 1] ∧ world.namespaces.length = 2) ∧
    ∃ world ∈ visited World.next emptyWorld
        [.start adaSetup, .step 0 false, .step 0 false, .step 0 false, .step 0 true, .start bobSetup,
          .step 1 false, .step 1 false, .step 1 false, .step 1 false],
      world.calls.map Call.phase = [.returned false, .returned true] ∧
        world.administrators = [0, 1] ∧ world.namespaces.length = 2 := by
  decide +kernel

end ShellHub.Setups
