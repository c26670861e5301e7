import ShellHub.Fleet

/-!
# Connections and the devices they name

An SSH connection says in its username which device it wants: by the names of a namespace and of a
device, or by the device's identifier. A browser's terminal is such a connection from the loopback
address; what the username cannot carry was handed over before, under the username itself.

`NewSession` resolves an identifier to a device of any status, and then looks that device's names up
again, this time among accepted devices only. The two lookups agree if the device is accepted. If it
is not, the second one may find an accepted device that has the same name.
-/

namespace ShellHub.Connections

open Programs Tables
open LetterCase (toLower toLower_toLower)
open Namespaces (StoreError)
open Devices (Fleet Device Namespace)

/-! ## Usernames -/

/-- The text before and after the first separator, as `strings.SplitN` with a limit of two. -/
def splitOnce (separator : Char) (text : String) : Option (String × String) :=
  match text.toList.span (· ≠ separator) with
  | (_, []) => none
  | (before, _ :: after) => some (String.ofList before, String.ofList after)

/-- `Target`. -/
structure Target where
  username : String
  data : String
  deriving DecidableEq, Repr

/-- The errors of a connection. -/
inductive ConnectError where
  | host
  | splitTarget
  | notSSHID
  | webData
  | deviceNotFound (uid : String)
  | namespaceNotFound (name : String)
  deriving DecidableEq, Repr

namespace Target

/-- `NewTarget`. -/
def new (sshid : String) : Except ConnectError Target :=
  match splitOnce '@' sshid with
  | none => .error .splitTarget
  | some (username, data) => .ok ⟨username, data⟩

/-- `IsSSHID`. -/
def isSSHID (target : Target) : Bool := target.data.toList.contains '.'

/-- `SplitSSHID`. -/
def splitSSHID (target : Target) : Except ConnectError (String × String) :=
  if !target.isSSHID then .error .notSSHID
  else
    match splitOnce '.' target.data with
    | none => .error .splitTarget
    | some parts => .ok parts

end Target

/-- `IsLocalhost`. -/
def isLocalhost (host : String) : Bool := host = "127.0.0.1" || host = "::1"

/-! ## The store and the handoffs -/

/-- `webhandoff.Data`. -/
structure Handoff where
  device : String
  ip : String
  userID : String
  deriving DecidableEq, Repr

/-- What a connection reads: the store, in which the names of namespaces are unique up to case, and
the handoffs parked by the web terminal. -/
structure Site where
  fleet : Fleet
  handoffs : String → Option Handoff
  indexed : ∀ first ∈ fleet.namespaces.rows, ∀ second ∈ fleet.namespaces.rows,
    toLower first.name = toLower second.name → first.tenantID = second.tenantID

/-- The calls of a connection. -/
inductive Call where
  | handoffPut (id : String) (data : Handoff)
  | handoffTake (id : String)
  | deviceResolve (uid : String)
  | namespaceResolveByName (name : String)
  | deviceResolveAccepted (tenantID name : String)
  | namespaceResolve (tenantID : String)

/-- What each call answers. A device resolved in any namespace comes with the name of its own. -/
@[reducible]
def Call.Reply : Call → Type
  | .handoffPut _ _ => Unit
  | .handoffTake _ => Option Handoff
  | .deviceResolve _ => Except StoreError (Device × String)
  | .namespaceResolveByName _ => Except StoreError Namespace
  | .deviceResolveAccepted _ _ => Except StoreError Device
  | .namespaceResolve _ => Except StoreError Namespace

/-- What a call finds around it: a fault, and which of several matching rows a query returns. -/
structure Surroundings where
  fault : Option StoreError
  choice : Nat

/-- The answer of a query: an absent row is an error, and so is a fault. -/
def answer {α : Type} (around : Surroundings) (found : Option α) : Except StoreError α :=
  match around.fault, found with
  | some error, _ => .error error
  | none, none => .error .noDocuments
  | none, some row => .ok row

/-- The meaning of each call. -/
def meaning : Meaning Call Call.Reply Surroundings Site
  | .handoffPut id data, _, site =>
    ((), { site with handoffs := Function.update site.handoffs id (some data) })
  | .handoffTake id, _, site =>
    (site.handoffs id, { site with handoffs := Function.update site.handoffs id none })
  | .deviceResolve uid, around, site =>
    (answer around ((site.fleet.devices.find uid).bind fun device =>
      (site.fleet.namespaces.find device.tenantID).map fun owner => (device, owner.name)), site)
  | .namespaceResolveByName name, around, site =>
    (answer around (site.fleet.namespaces.rows.find? fun owner => owner.name = name), site)
  | .deviceResolveAccepted tenantID name, around, site =>
    (answer around (site.fleet.acceptedWith tenantID (.hostname name) around.choice), site)
  | .namespaceResolve tenantID, around, site =>
    (answer around (site.fleet.namespaces.find tenantID), site)

/-- A program over the calls of a connection. -/
abbrev Access := Program Call Call.Reply

/-- The program that makes one call. -/
def call (request : Call) : Access request.Reply := Program.perform request

/-! ## Opening a session -/

/-- `GetDevice`, with the name of the device's namespace. -/
def getDevice (uid : String) : Access (Except ConnectError (Device × String)) := do
  match ← call (.deviceResolve uid) with
  | .error _ => return .error (.deviceNotFound uid)
  | .ok device => return .ok device

/-- `LookupDevice`. -/
def lookupDevice (namespaceName name : String) : Access (Except ConnectError Device) := do
  match ← call (.namespaceResolveByName (toLower namespaceName)) with
  | .error _ => return .error (.namespaceNotFound namespaceName)
  | .ok owner =>
    match ← call (.deviceResolveAccepted owner.tenantID name) with
    | .error _ => return .error (.deviceNotFound name)
    | .ok device => return .ok device

/-- `GetNamespace`. -/
def getNamespace (tenantID : String) : Access (Except ConnectError Namespace) := do
  match ← call (.namespaceResolve tenantID) with
  | .error _ => return .error (.namespaceNotFound tenantID)
  | .ok owner => return .ok owner

/-- A session and its `Data`. -/
structure Session where
  uid : String
  ipAddress : String
  target : Target
  device : Device
  owner : Namespace
  web : Bool
  userID : String
  sshid : String

/-- The end of `NewSession`: from the names of a namespace and of a device to a session. -/
def openSession (uid host : String) (target : Target) (web : Bool) (userID namespaceName
    deviceName : String) : Access (Except ConnectError Session) := do
  match ← lookupDevice namespaceName deviceName with
  | .error error => return .error error
  | .ok device =>
    match ← getNamespace device.tenantID with
    | .error error => return .error error
    | .ok owner =>
      return .ok ⟨uid, host, target, device, owner, web, userID,
        target.username ++ "@" ++ namespaceName ++ "." ++ deviceName⟩

/-- The middle of `NewSession`: from the identifier in a target to the names of the device. -/
def openIdentified (uid host : String) (target : Target) (web : Bool) (userID : String) :
    Access (Except ConnectError Session) := do
  match ← getDevice target.data with
  | .error error => return .error error
  | .ok (device, namespaceName) =>
    openSession uid host target web userID namespaceName device.name

/-- `NewSession`. The host is absent if the remote address could not be split. -/
def newSession (uid : String) (host : Option String) (sshid : String) :
    Access (Except ConnectError Session) := do
  match host with
  | none => return .error .host
  | some host =>
    match Target.new sshid with
    | .error error => return .error error
    | .ok target =>
      if target.isSSHID then
        match target.splitSSHID with
        | .error error => return .error error
        | .ok (namespaceName, deviceName) =>
          openSession uid host target false "" namespaceName deviceName
      else if isLocalhost host then
        match ← call (.handoffTake sshid) with
        | none => return .error .webData
        | some data =>
          if data.device = "" ∨ data.ip = "" then return .error .webData
          else openIdentified uid data.ip { target with data := data.device } true data.userID
      else openIdentified uid host target false ""

/-- What the web terminal dials with. The identifier is generated for the connection. -/
structure Dial where
  username : String
  device : String
  ip : String
  userID : String
  uuid : String
  loopback : { host : String // isLocalhost host }

/-- The username of the dial. -/
def Dial.user (dial : Dial) : String := dial.username ++ "@" ++ dial.uuid

/-- The web terminal parks its data and connects over the loopback. -/
def connectWeb (uid : String) (dial : Dial) : Access (Except ConnectError Session) := do
  call (.handoffPut dial.user ⟨dial.device, dial.ip, dial.userID⟩)
  newSession uid (some dial.loopback.1) dial.user

/-- A connection: a native one, or one of the web terminal. -/
inductive Connection where
  | native (host : Option String) (sshid : String)
  | web (dial : Dial)

/-- What `NewSession` looks up: nothing, the device with an identifier, or the device with names. -/
inductive Opening where
  | fails
  | identifier (uid : String)
  | names (namespaceName deviceName : String)
  deriving DecidableEq, Repr

namespace Connection

/-- What the server does with a connection. -/
def program (uid : String) : Connection → Access (Except ConnectError Session)
  | .native host sshid => newSession uid host sshid
  | .web dial => connectWeb uid dial

/-- The identifier by which a connection names its device, if it names it so. A connection from the
loopback address is the web terminal's, and its identifier is the one that was handed over. -/
def identifies (site : Site) : Connection → Option String
  | .native host sshid =>
    match Target.new sshid with
    | .error _ => none
    | .ok target =>
      if target.isSSHID then none
      else if host.any isLocalhost then (site.handoffs sshid).map Handoff.device
      else some target.data
  | .web dial => some dial.device

/-- What a connection makes `NewSession` look up. -/
def nativeOpening (handoffs : String → Option Handoff) (host : Option String) (sshid : String) : Opening :=
  match host, Target.new sshid with
  | some host, .ok target =>
    if target.isSSHID then
      match target.splitSSHID with
      | .error _ => .fails
      | .ok (namespaceName, deviceName) => .names namespaceName deviceName
    else if isLocalhost host then
      match handoffs sshid with
      | none => .fails
      | some data => if data.device = "" ∨ data.ip = "" then .fails else .identifier data.device
    else .identifier target.data
  | _, _ => .fails

def opening (site : Site) : Connection → Opening
  | .native host sshid => nativeOpening site.handoffs host sshid
  | .web dial =>
    nativeOpening (Function.update site.handoffs dial.user (some ⟨dial.device, dial.ip, dial.userID⟩))
      (some dial.loopback.1) dial.user

end Connection

/-! ## Which device is reached -/

/-- Accepted devices of one namespace have different names. -/
def DistinctNames (fleet : Fleet) : Prop :=
  ∀ first ∈ fleet.devices.rows, ∀ second ∈ fleet.devices.rows, first.status = .accepted →
    second.status = .accepted → first.tenantID = second.tenantID → first.name = second.name →
      first.uid = second.uid

/-- The device with an identifier is accepted, or its namespace is not found by its name in lower case, or
no accepted device of its namespace has its name. -/
def Unmistakable (fleet : Fleet) (uid : String) : Prop :=
  ∀ device ∈ fleet.devices.rows, device.uid = uid → device.status = .accepted ∨
    ∀ owner ∈ fleet.namespaces.rows, owner.tenantID = device.tenantID → owner.name = toLower owner.name →
      ∀ other ∈ fleet.devices.rows, other.status = .accepted → other.tenantID = device.tenantID →
        other.name ≠ device.name

/-- A row found by the second lookup: an accepted device with a name, in the namespace whose name is
the given one in lower case. -/
structure Reached (fleet : Fleet) (namespaceName name : String) (device : Device) : Prop where
  stored : device ∈ fleet.devices.rows
  accepted : device.status = .accepted
  named : device.name = name
  housed : ∃ owner ∈ fleet.namespaces.rows, owner.name = toLower namespaceName ∧
    device.tenantID = owner.tenantID

/-- A device found by what is looked up. -/
def Found (fleet : Fleet) : Opening → Device → Prop
  | .fails, _ => False
  | .names namespaceName name, found => Reached fleet namespaceName name found
  | .identifier uid, found => ∃ device, fleet.devices.find uid = some device ∧
      ∃ owner, fleet.namespaces.find device.tenantID = some owner ∧
        Reached fleet owner.name device.name found

theorem Found.stored {fleet : Fleet} {opening : Opening} {device : Device}
    (found : Found fleet opening device) : device ∈ fleet.devices.rows := by
  cases opening with
  | fails => cases found
  | names namespaceName name => exact Reached.stored found
  | identifier uid =>
    obtain ⟨_, _, _, _, reached⟩ := found
    exact reached.stored

/-- Some run of a program opens a session on the device. -/
def Opens (program : Access (Except ConnectError Session)) (site : Site) (device : Device) : Prop :=
  ∃ inputs session, (run meaning inputs program site).result = .ok session ∧ session.device = device

section Opening

variable {site : Site} {device : Device} {uid : String}

theorem not_opens_error {error : ConnectError} : ¬ Opens (pure (.error error)) site device := by
  rintro ⟨_, _, ⟨⟩, _⟩

theorem opens_call {request : Call} {next : request.Reply → Access (Except ConnectError Session)} :
    Opens (call request >>= next) site device ↔
      ∃ around, Opens (next (meaning request around site).1) (meaning request around site).2 device := by
  constructor
  · rintro ⟨inputs, session, opened, same⟩
    exact ⟨inputs 0, fun index => inputs (index + 1), session, opened, same⟩
  · rintro ⟨around, inputs, session, opened, same⟩
    let later : Nat → Surroundings := fun index => Nat.casesOn index around inputs
    exact ⟨later, session, opened, same⟩

/-- A query that fails ends the connection; without a fault it answers with what is there. -/
theorem opens_answer {α : Type} (found : Nat → Option α)
    {next : Except StoreError α → Access (Except ConnectError Session)}
    (fails : ∀ error, ¬ Opens (next (.error error)) site device) :
    (∃ around, Opens (next (answer around (found around.choice))) site device) ↔
      ∃ choice row, found choice = some row ∧ Opens (next (.ok row)) site device := by
  constructor
  · rintro ⟨around, opens⟩
    unfold answer at opens
    split at opens
    · exact absurd opens (fails _)
    · exact absurd opens (fails _)
    · exact ⟨around.choice, _, ‹_›, opens⟩
  · rintro ⟨choice, row, known, opens⟩
    refine ⟨⟨none, choice⟩, ?_⟩
    simpa only [answer, known] using opens

section Calls

variable {name tenantID : String}

theorem opens_deviceResolve {next : Except StoreError (Device × String) → Access (Except ConnectError Session)}
    (fails : ∀ error, ¬ Opens (next (.error error)) site device) :
    Opens (call (.deviceResolve uid) >>= next) site device ↔
      ∃ found, site.fleet.devices.find uid = some found ∧
        ∃ owner, site.fleet.namespaces.find found.tenantID = some owner ∧
          Opens (next (.ok (found, owner.name))) site device := by
  refine opens_call.trans ((opens_answer (fun _ => _) fails).trans ?_)
  simp only [exists_const, Option.bind_eq_some_iff, Option.map_eq_some_iff]
  constructor
  · rintro ⟨_, ⟨found, known, owner, houses, rfl⟩, opens⟩
    exact ⟨found, known, owner, houses, opens⟩
  · rintro ⟨found, known, owner, houses, opens⟩
    exact ⟨_, ⟨found, known, owner, houses, rfl⟩, opens⟩

theorem opens_namespaceResolve {next : Except StoreError Namespace → Access (Except ConnectError Session)}
    (fails : ∀ error, ¬ Opens (next (.error error)) site device) :
    Opens (call (.namespaceResolve tenantID) >>= next) site device ↔
      ∃ owner, site.fleet.namespaces.find tenantID = some owner ∧ Opens (next (.ok owner)) site device := by
  refine opens_call.trans ((opens_answer (fun _ => _) fails).trans ?_)
  simp only [exists_const]

/-- The namespace with a name in lower case: there is one at most. -/
theorem opens_namespaceResolveByName
    {next : Except StoreError Namespace → Access (Except ConnectError Session)}
    (fails : ∀ error, ¬ Opens (next (.error error)) site device) :
    Opens (call (.namespaceResolveByName name) >>= next) site device ↔
      ∃ owner ∈ site.fleet.namespaces.rows, owner.name = name ∧ Opens (next (.ok owner)) site device := by
  refine opens_call.trans ((opens_answer (fun _ => _) fails).trans ?_)
  simp only [exists_const]
  constructor
  · rintro ⟨owner, found, opens⟩
    exact ⟨owner, List.mem_of_find?_eq_some found, by simpa using List.find?_some found, opens⟩
  · rintro ⟨owner, member, rfl, opens⟩
    cases found : site.fleet.namespaces.rows.find? fun peer => peer.name = owner.name with
    | none => exact absurd (List.find?_eq_none.mp found owner member) (by simp)
    | some peer =>
      have same : peer = owner := by
        refine List.inj_on_of_nodup_map site.fleet.namespaces.distinct (List.mem_of_find?_eq_some found) member ?_
        refine site.indexed peer (List.mem_of_find?_eq_some found) owner member ?_
        rw [show peer.name = owner.name by simpa using List.find?_some found]
      exact ⟨peer, rfl, same ▸ opens⟩

theorem opens_deviceResolveAccepted {next : Except StoreError Device → Access (Except ConnectError Session)}
    (fails : ∀ error, ¬ Opens (next (.error error)) site device) :
    Opens (call (.deviceResolveAccepted tenantID name) >>= next) site device ↔
      ∃ found ∈ site.fleet.devices.rows, found.tenantID = tenantID ∧ found.status = .accepted ∧
        found.name = name ∧ Opens (next (.ok found)) site device := by
  refine opens_call.trans ((opens_answer (fun choice =>
    site.fleet.acceptedWith tenantID (.hostname name) choice) fails).trans ?_)
  have matching (found : Device) : found ∈ (site.fleet.devices.rows.filter fun device =>
      device.tenantID = tenantID && device.status = .accepted && device.has (.hostname name)) ↔
      found ∈ site.fleet.devices.rows ∧ found.tenantID = tenantID ∧ found.status = .accepted ∧
        found.name = name := by
    simp only [List.mem_filter, Bool.and_eq_true, decide_eq_true_eq, Device.has, and_assoc]
  constructor
  · rintro ⟨choice, found, picked, opens⟩
    obtain ⟨stored, own, accepted, named⟩ := (matching found).mp (List.mem_of_getElem? picked)
    exact ⟨found, stored, own, accepted, named, opens⟩
  · rintro ⟨found, stored, own, accepted, named, opens⟩
    obtain ⟨choice, small, same⟩ := List.mem_iff_getElem.mp ((matching found).mpr ⟨stored, own, accepted, named⟩)
    refine ⟨choice, found, ?_, opens⟩
    rw [Fleet.acceptedWith, Nat.mod_eq_of_lt small, List.getElem?_eq_getElem small, same]

end Calls

/-- A session opened from names has a device with these names, and any such device may be it. -/
theorem opens_openSession {host : String} {target : Target} {web : Bool}
    {userID namespaceName deviceName : String} :
    Opens (openSession uid host target web userID namespaceName deviceName) site device ↔
      Reached site.fleet namespaceName deviceName device := by
  unfold openSession lookupDevice getNamespace
  rw [Program.bind_bind, opens_namespaceResolveByName fun _ => not_opens_error]
  constructor
  · rintro ⟨owner, member, lowered, opens⟩
    rw [Program.bind_bind, opens_deviceResolveAccepted fun _ => not_opens_error] at opens
    obtain ⟨found, stored, own, accepted, named, opens⟩ := opens
    dsimp only [Program.pure_eq, Program.done_bind] at opens
    rw [Program.bind_bind, opens_namespaceResolve fun _ => not_opens_error] at opens
    obtain ⟨_, _, _, _, ⟨⟩, rfl⟩ := opens
    exact ⟨stored, accepted, named, owner, member, lowered, own⟩
  · rintro ⟨stored, accepted, named, owner, member, lowered, own⟩
    refine ⟨owner, member, lowered, ?_⟩
    rw [Program.bind_bind, opens_deviceResolveAccepted fun _ => not_opens_error]
    refine ⟨device, stored, own, accepted, named, ?_⟩
    dsimp only [Program.pure_eq, Program.done_bind]
    rw [Program.bind_bind, opens_namespaceResolve fun _ => not_opens_error]
    obtain ⟨houses, found⟩ := Option.isSome_iff_exists.mp (site.fleet.housed device stored)
    exact ⟨houses, found, fun _ => ⟨none, 0⟩, _, rfl, rfl⟩

theorem opens_openIdentified {host : String} {target : Target} {web : Bool} {userID : String} :
    Opens (openIdentified uid host target web userID) site device ↔
      Found site.fleet (.identifier target.data) device := by
  unfold openIdentified getDevice
  rw [Program.bind_bind, opens_deviceResolve fun _ => not_opens_error]
  simp only [Program.pure_eq, Program.done_bind, opens_openSession, Found]

/-- A native connection may open sessions on the devices that are found by what it makes the server look
up, and on no others. -/
theorem opens_newSession {host : Option String} {sshid : String} :
    Opens (newSession uid host sshid) site device ↔
      Found site.fleet (Connection.nativeOpening site.handoffs host sshid) device := by
  unfold newSession Connection.nativeOpening
  cases host with
  | none => exact iff_of_false not_opens_error id
  | some host =>
    dsimp only
    cases parsed : Target.new sshid with
    | error error => exact iff_of_false not_opens_error id
    | ok target =>
      dsimp only
      split
      · cases split : target.splitSSHID with
        | error error => exact iff_of_false not_opens_error id
        | ok names => exact opens_openSession
      · split
        · refine opens_call.trans ?_
          simp only [meaning]
          cases site.handoffs sshid with
          | none => exact iff_of_false (fun ⟨_, opens⟩ => not_opens_error opens) id
          | some data =>
            dsimp only
            split
            · exact iff_of_false (fun ⟨_, opens⟩ => not_opens_error opens) id
            · exact ⟨fun ⟨_, opens⟩ => opens_openIdentified.mp opens,
                fun found => ⟨⟨none, 0⟩, opens_openIdentified.mpr found⟩⟩
        · exact opens_openIdentified

theorem opens_program (uid : String) {connection : Connection} :
    Opens (connection.program uid) site device ↔ Found site.fleet (connection.opening site) device := by
  cases connection with
  | native host sshid => exact opens_newSession
  | web dial =>
    exact opens_call.trans ⟨fun ⟨_, opens⟩ => opens_newSession.mp opens,
      fun found => ⟨⟨none, 0⟩, opens_newSession.mpr found⟩⟩

end Opening

/-- The names of a stored device lead to that device only, exactly if it cannot be mistaken for another.
The namespace is the device's own, since names that agree in lower case belong to one namespace. -/
theorem found_identifier_iff {site : Site} (distinct : DistinctNames site.fleet) (uid : String) :
    (∀ found, Found site.fleet (.identifier uid) found → found.uid = uid) ↔ Unmistakable site.fleet uid := by
  constructor
  · rintro only device stored rfl
    refine or_iff_not_imp_left.mpr fun free owner member tenant lowered other present accepted home same => free ?_
    have found : Found site.fleet (.identifier device.uid) other :=
      ⟨device, Table.find_of_mem stored, owner, tenant ▸ Table.find_of_mem member, present, accepted, same,
        owner, member, lowered, home.trans tenant.symm⟩
    rwa [← List.inj_on_of_nodup_map site.fleet.devices.distinct present stored (only other found)]
  · rintro unmistakable found ⟨device, identified, owner, houses, present, accepted, named, peer, member, lowered, own⟩
    obtain ⟨stored, rfl⟩ := Table.find_eq_some.mp identified
    obtain ⟨kept, tenant⟩ := Table.find_eq_some.mp houses
    have same : peer = owner := by
      refine List.inj_on_of_nodup_map site.fleet.namespaces.distinct member kept ?_
      refine site.indexed peer member owner kept ?_
      rw [lowered]
      exact toLower_toLower owner.name
    subst same
    rcases unmistakable device stored rfl with taken | alone
    · exact distinct found present device stored accepted taken (own.trans tenant) named
    · exact absurd named (alone peer member tenant lowered found present accepted (own.trans tenant))

/-- What is looked up by an identifier is looked up by the one that the connection names. -/
theorem opening_identifier {site : Site} {connection : Connection} {identifier uid : String}
    (identified : connection.identifies site = some identifier)
    (opening : connection.opening site = .identifier uid) : uid = identifier := by
  have native {handoffs : String → Option Handoff} {host : Option String} {sshid : String}
      (opening : Connection.nativeOpening handoffs host sshid = .identifier uid) :
      ∃ target, Target.new sshid = .ok target ∧ target.isSSHID = false ∧
        if host.any isLocalhost then (handoffs sshid).map Handoff.device = some uid
        else target.data = uid := by
    unfold Connection.nativeOpening at opening
    split at opening
    · rename_i host target parsed
      refine ⟨target, parsed, ?_⟩
      rw [Option.any_some]
      split at opening
      · split at opening <;> cases opening
      · rename_i plain
        refine ⟨by simpa using plain, ?_⟩
        split at opening
        · rename_i loopback
          rw [if_pos loopback]
          split at opening
          · cases opening
          · rename_i data parked
            split at opening <;> cases opening
            rw [parked]
            rfl
        · rename_i remote
          rw [if_neg remote]
          exact Opening.identifier.inj opening
    · cases opening
  cases connection with
  | native host sshid =>
    obtain ⟨target, parsed, plain, same⟩ := native opening
    simp only [Connection.identifies, parsed, plain, Bool.false_eq_true, if_false] at identified
    split at same
    · rename_i loopback
      rw [if_pos loopback, same] at identified
      exact Option.some.inj identified
    · rename_i remote
      rw [if_neg remote, same] at identified
      exact Option.some.inj identified
  | web dial =>
    obtain ⟨target, -, -, same⟩ := native opening
    rw [Option.any_some, if_pos dial.loopback.2, Function.update_self] at same
    exact Option.some.inj (same.symm.trans identified)

/-- Given that accepted devices of a namespace have different names, a connection that names a device by
an identifier fails, or its session has this very device, whatever faults and choices a run meets,
exactly if what is looked up leads to no other device: an identifier to a device that cannot be mistaken
for an accepted one, and the names in the username of a dial to this device only. The sessions that the
runs can open are those on the devices that `Found` describes. -/
theorem identified_connection_reaches_device (site : Site) (distinct : DistinctNames site.fleet)
    (connection : Connection) (identifier : String)
    (identified : connection.identifies site = some identifier) :
    (∀ uid inputs session, (run meaning inputs (connection.program uid) site).result = .ok session →
      session.device.uid = identifier ∧ session.device ∈ site.fleet.devices.rows) ↔
    match connection.opening site with
    | .fails => True
    | .identifier uid => Unmistakable site.fleet uid
    | .names namespaceName name =>
      ∀ device, Reached site.fleet namespaceName name device → device.uid = identifier := by
  have runs : (∀ uid inputs session, (run meaning inputs (connection.program uid) site).result = .ok session →
      session.device.uid = identifier ∧ session.device ∈ site.fleet.devices.rows) ↔
      ∀ device, Found site.fleet (connection.opening site) device → device.uid = identifier := by
    constructor
    · intro always device found
      obtain ⟨inputs, session, opened, rfl⟩ := (opens_program "").mpr found
      exact (always _ inputs session opened).1
    · intro only uid inputs session opened
      have found := (opens_program uid).mp ⟨inputs, session, opened, rfl⟩
      exact ⟨only _ found, found.stored⟩
  rw [runs]
  cases opening : connection.opening site with
  | fails => simp [Found]
  | names namespaceName name => rfl
  | identifier uid =>
    cases opening_identifier identified opening
    exact found_identifier_iff distinct identifier

/-- A device of the namespace `acme`. -/
def hallDevice (uid : String) (status : Devices.DeviceStatus) : Device :=
  { Devices.webDevice with uid, mac := uid, status }

/-- An accepted device, and a pending one with the same name. -/
def hallFleet : Fleet :=
  { Devices.emptyFleet with
    devices := ⟨[hallDevice "old" .accepted, hallDevice "new" .pending], by decide⟩
    housed := by decide }

/-- The devices, and no handoffs. -/
def hallSite : Site := ⟨hallFleet, fun _ => none, by decide⟩

/-- A dial of the web terminal. -/
def hallDial (device : String) : Dial :=
  ⟨"root", device, "10.0.0.1", "ada", "dial", ⟨"::1", by decide⟩⟩

/-- Calls without a fault. -/
def calm : Nat → Surroundings := fun _ => ⟨none, 0⟩

/-- A connection to the accepted device reaches it, although another device has its name. -/
theorem identified_connection_reaches_accepted :
    (run meaning calm ((Connection.web (hallDial "old")).program "sid") hallSite).result.isOk ∧
    ∀ uid inputs session,
      (run meaning inputs ((Connection.web (hallDial "old")).program uid) hallSite).result = .ok session →
        session.device.uid = "old" ∧ session.device ∈ hallSite.fleet.devices.rows := by
  refine ⟨by decide +kernel, (identified_connection_reaches_device hallSite
    (by unfold DistinctNames; decide +kernel) (.web (hallDial "old")) "old" rfl).mpr ?_⟩
  have opening : Connection.opening hallSite (.web (hallDial "old")) = .identifier "old" := by
    decide +kernel
  intro device stored same
  refine .inl ?_
  revert device
  decide +kernel

/-- A connection that asks for the pending device gets a session on the accepted one. -/
theorem pending_device_leads_to_namesake :
    DistinctNames hallSite.fleet ∧
      (∀ connection ∈ [Connection.native (some "10.0.0.1") "root@new", .web (hallDial "new")],
        connection.identifies hallSite = some "new" ∧
        ((run meaning calm (connection.program "sid") hallSite).result.toOption.map
          fun session => session.device.uid) = some "old") := by
  constructor
  · unfold DistinctNames
    decide +kernel
  · decide +kernel

end ShellHub.Connections
