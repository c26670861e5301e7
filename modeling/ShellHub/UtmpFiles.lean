import ShellHub.LoginRecords
import ShellHub.Sequences

/-!
# The file of login records

Each session has a record in the utmp file, under an id made of the last four bytes of its terminal. To
write it, `updUtmp` searches the file from its beginning and overwrites the record that has the id, or
writes where the file ended. Every call opens the file for itself and so has its own position in it.

The file is a list of whole records. One event is one file operation of one session, and the
operations of the sessions interleave in any order: a POSIX lock belongs to the process, so that a
session never waits for another one of the same agent. File operations succeed. The wtmp file, to which
records are only appended, is left out.
-/

namespace ShellHub.UtmpFiles

open Addresses (AddressText usualText)
open LoginRecords
open Runes (Bytes)
open Sequences (visited visited_keeps Along set_keeps)

/-- How far a call of `updUtmp` has come, with its position in the file in records. -/
inductive Phase where
  | locking
  | searching (offset : Nat)
  /-- The record at the offset has the id, and the position is behind it. -/
  | found (offset : Nat)
  | writing (offset : Nat)
  | returned
deriving DecidableEq

/-- A session with the arguments of its call of `updUtmp`. -/
structure Session where
  u : Utmpx
  id : Bytes
  phase : Phase

/-- The file, the sessions, and the records that were written so far, the last one first. -/
structure State where
  file : List Utmpx
  sessions : List Session
  written : List Utmpx

/-- The arguments of `UtmpStartSession`, with the process and the time. -/
structure Login where
  pid : Int
  now : TimeVal
  line : Bytes
  user : Bytes
  remoteAddr : List Char

inductive Event where
  /-- A new session calls `UtmpStartSession`. -/
  | start (login : Login)
  /-- A session whose first call has returned calls `UtmpEndSession`. -/
  | finish (session : Nat) (now : TimeVal)
  /-- The call of a session makes its next file operation. -/
  | operate (session : Nat)

/-- The bytes without zeros at either end. -/
def trimZeros (bytes : Bytes) : Bytes := (bytes.dropWhile (· = 0)).rdropWhile (· = 0)

/-- The id of a record, as bytes. -/
def idOf (record : Utmpx) : Bytes := record.id.toList

/-- The record of the end of a session. -/
def ended (u : Utmpx) (now : TimeVal) : Utmpx :=
  { u with type := deadProcess, user := copyInto 32 [], host := copyInto 256 [], tv := now }

/-- Write a record at an offset. A gap before it would be filled with zeros. -/
def writeAt (file : List Utmpx) (offset : Nat) (u : Utmpx) : List Utmpx :=
  if offset < file.length then file.set offset u
  else file ++ List.replicate (offset - file.length)
    ⟨0, 0, copyInto 32 [], copyInto 4 [], copyInto 32 [], copyInto 256 [], ⟨0, 0⟩, Vector.replicate 4 0, []⟩ ++ [u]

/-- One file operation of `updUtmp`. -/
def operate (state : State) (index : Nat) (session : Session) : State :=
  let moved := fun phase => state.sessions.set index { session with phase }
  match session.phase with
  | .locking => { state with sessions := moved (.searching 0) }
  | .searching offset =>
    match state.file[offset]? with
    -- At the end of the file the position stays.
    | none => { state with sessions := moved (.writing offset) }
    | some ut =>
      if trimZeros (idOf ut) = session.id then { state with sessions := moved (.found offset) }
      else { state with sessions := moved (.searching (offset + 1)) }
  | .found offset => { state with sessions := moved (.writing offset) }
  | .writing offset =>
    ⟨writeAt state.file offset session.u, moved .returned, session.u :: state.written⟩
  | .returned => state

def next (text : AddressText) (state : State) : Event → State
  | .start login =>
    match utmpStartSession text login.pid login.now login.line login.user login.remoteAddr with
    | none => state
    | some u => { state with sessions := state.sessions ++ [⟨u, idOf u, .locking⟩] }
  | .finish index now =>
    match state.sessions[index]? with
    | some session =>
      if session.phase = .returned ∧ session.u.type = userProcess then
        { state with sessions := state.sessions.set index ⟨ended session.u now, idOf session.u, .locking⟩ }
      else state
    | none => state
  | .operate index =>
    match state.sessions[index]? with
    | some session => operate state index session
    | none => state

/-- The record that the last call for an id has written. -/
def latest (written : List Utmpx) (id : Bytes) : Option Utmpx := written.find? fun record => idOf record = id

/-- Every call has returned. -/
def Quiet (state : State) : Prop := ∀ session ∈ state.sessions, session.phase = .returned

/-- The file is as the calls should leave it: one record for each of their ids, with what the last call
has written, and every other record in its place. -/
structure Kept (initial : List Utmpx) (state : State) : Prop where
  own : ∀ session ∈ state.sessions, ∃ record, latest state.written session.id = some record ∧
    state.file.filter (fun stored => idOf stored = session.id) = [record]
  others : ∀ (index : Nat) (record : Utmpx), initial[index]? = some record →
    (∀ session ∈ state.sessions, session.id ≠ idOf record) → state.file[index]? = some record
  nothing : ∀ record ∈ state.file, (∀ session ∈ state.sessions, session.id ≠ idOf record) → record ∈ initial

/-- The events under which the file is kept. An id does not begin or end with a zero byte, and a call
reaches the end of the file only while no call for another id is about to write there. -/
def Undisturbed (text : AddressText) (state : State) : Event → Prop
  | .start login =>
    ∀ u ∈ utmpStartSession text login.pid login.now login.line login.user login.remoteAddr,
      trimZeros (idOf u) = idOf u
  | .finish _ _ => True
  | .operate index =>
    ∀ session ∈ state.sessions[index]?, session.phase = .searching state.file.length →
      ∀ other ∈ state.sessions, other.phase = .writing state.file.length → other.id = session.id

instance (text : AddressText) (state : State) (event : Event) : Decidable (Undisturbed text state event) := by
  unfold Undisturbed
  cases event <;> infer_instance

instance (state : State) : Decidable (Quiet state) :=
  inferInstanceAs (Decidable (∀ session ∈ state.sessions, session.phase = .returned))

/-! ## Ids -/

/-- The ids in a file, in order. -/
def ids (file : List Utmpx) : List Bytes := file.map idOf

@[simp] theorem ids_length (file : List Utmpx) : (ids file).length = file.length := List.length_map ..

/-- What a session knows about the ids in the file. -/
def Knows (ids : List Bytes) (id : Bytes) : Phase → Prop
  | .locking => True
  | .searching offset => offset ≤ ids.length ∧ id ∉ ids.take offset
  | .found offset => ids[offset]? = some id
  | .writing offset => ids[offset]? = some id ∨ offset = ids.length ∧ id ∉ ids
  | .returned => id ∈ ids

theorem getElem?_append_of_some {α : Type} {list more : List α} {index : Nat} {value : α}
    (found : list[index]? = some value) : (list ++ more)[index]? = some value := by
  rw [List.getElem?_append_left (List.getElem?_eq_some_iff.mp found).1, found]

/-- A new id at the end of the file is no news, unless for a session that was about to write there. -/
theorem Knows.append {ids : List Bytes} {id new : Bytes} {phase : Phase} (knows : Knows ids id phase)
    (alike : phase = .writing ids.length → id = new) : Knows (ids ++ [new]) id phase := by
  cases phase with
  | locking => trivial
  | searching offset =>
    refine ⟨by simpa using Nat.le_succ_of_le knows.1, ?_⟩
    rw [List.take_append_of_le_length knows.1]
    exact knows.2
  | found offset => exact getElem?_append_of_some knows
  | writing offset =>
    rcases knows with here | ⟨rfl, absent⟩
    · exact .inl (getElem?_append_of_some here)
    · exact .inl (by rw [alike rfl, List.getElem?_concat_length])
  | returned => exact List.mem_append_left _ knows

/-- Replacing an element by one with the same value changes no value. -/
theorem map_set_same {α β : Type} {f : α → β} {list : List α} {index : Nat} {old new : α}
    (found : list[index]? = some old) (same : f new = f old) :
    (list.set index new).map f = list.map f := by
  obtain ⟨inside, rfl⟩ := List.getElem?_eq_some_iff.mp found
  have mapped : index < (list.map f).length := by simpa using inside
  rw [List.map_set, same, ← List.getElem_map f (h := mapped), List.set_getElem_self]

/-- Where ids are distinct, an id selects one element. -/
theorem filter_eq_singleton {file : List Utmpx} (distinct : (ids file).Nodup) {record : Utmpx}
    (stored : record ∈ file) : file.filter (fun other => idOf other = idOf record) = [record] := by
  induction file with
  | nil => cases stored
  | cons first rest ih =>
    obtain ⟨fresh, others⟩ := List.nodup_cons.mp distinct
    rcases List.mem_cons.mp stored with rfl | later
    · have none : rest.filter (fun other => idOf other = idOf record) = [] := by
        refine List.filter_eq_nil_iff.mpr fun other member same => ?_
        exact fresh (List.mem_map.mpr ⟨other, member, by simpa using same⟩)
      rw [List.filter_cons_of_pos (by simp), none]
    · have differs : idOf first ≠ idOf record := fun same =>
        fresh (List.mem_map.mpr ⟨record, later, same.symm⟩)
      rw [List.filter_cons_of_neg (by simpa using differs)]
      exact ih others later

/-- Only an id with no zero cut off is found as a session's id. -/
theorem idOf_eq_of_trimZeros {record u : Utmpx} (same : trimZeros (idOf record) = idOf u) :
    idOf record = idOf u := by
  have part : List.Sublist (trimZeros (idOf record)) (idOf record) :=
    (List.rdropWhile_prefix _ _).sublist.trans (List.dropWhile_sublist _)
  rw [← part.eq_of_length (by rw [same]; simp [idOf]), same]

/-- An id of four bytes is found as it is, unless it has a zero at one of its ends. -/
theorem trimZeros_eq_iff {record u : Utmpx} (solid : trimZeros (idOf u) = idOf u) :
    trimZeros (idOf record) = idOf u ↔ idOf record = idOf u :=
  ⟨idOf_eq_of_trimZeros, fun same => by rw [same, solid]⟩

/-- What a write leaves of the file. -/
structure Written (file : List Utmpx) (u : Utmpx) (after : List Utmpx) : Prop where
  names : ids after = ids file ∨ ids after = ids file ++ [idOf u] ∧ idOf u ∉ ids file
  stored : u ∈ after
  origin : ∀ record ∈ after, record = u ∨ record ∈ file
  place : ∀ (index : Nat) (record : Utmpx), file[index]? = some record → idOf record ≠ idOf u →
    after[index]? = some record

theorem writeAt_written {file : List Utmpx} {u : Utmpx} {offset : Nat}
    (knows : Knows (ids file) (idOf u) (.writing offset)) : Written file u (writeAt file offset u) := by
  rcases knows with here | ⟨rfl, absent⟩
  · obtain ⟨old, found, same⟩ := Option.map_eq_some_iff.mp ((List.getElem?_map ..).symm.trans here)
    have inside := (List.getElem?_eq_some_iff.mp found).1
    rw [writeAt, if_pos inside]
    refine ⟨.inl (map_set_same found same.symm), List.mem_set inside u, ?_, ?_⟩
    · intro record member
      exact (List.mem_or_eq_of_mem_set member).symm
    · intro index record stored differs
      have elsewhere : offset ≠ index := by
        rintro rfl
        cases found.symm.trans stored
        exact differs same
      rw [List.getElem?_set_ne elsewhere, stored]
  · rw [ids_length, writeAt, if_neg (Nat.lt_irrefl _), Nat.sub_self, List.replicate_zero, List.append_nil]
    refine ⟨.inr ⟨List.map_append, absent⟩, by simp, ?_, ?_⟩
    · intro record member
      rcases List.mem_append.mp member with old | new
      · exact .inr old
      · exact .inl (List.mem_singleton.mp new)
    · intro index record stored _
      exact getElem?_append_of_some stored

/-! ## The file over time -/

structure Inv (initial : List Utmpx) (state : State) : Prop where
  distinct : (ids state.file).Nodup
  named : ∀ session ∈ state.sessions, session.id = idOf session.u ∧ trimZeros session.id = session.id
  knows : ∀ session ∈ state.sessions, Knows (ids state.file) session.id session.phase
  alike : ∀ first ∈ state.sessions, ∀ second ∈ state.sessions,
    first.phase = .writing state.file.length → second.phase = .writing state.file.length →
    first.id = second.id
  logged : ∀ session ∈ state.sessions, session.phase = .returned →
    (latest state.written session.id).isSome
  written : ∀ record ∈ state.written, idOf record ∈ state.sessions.map Session.id
  last : ∀ record ∈ state.file, latest state.written (idOf record) = some record ∨
    latest state.written (idOf record) = none ∧ record ∈ initial
  place : ∀ (index : Nat) (record : Utmpx), initial[index]? = some record →
    latest state.written (idOf record) = none → state.file[index]? = some record

variable {text : AddressText} {initial : List Utmpx} {state : State}

theorem latest_cons (u : Utmpx) (written : List Utmpx) (id : Bytes) :
    latest (u :: written) id = if idOf u = id then some u else latest written id := by
  by_cases same : idOf u = id <;> simp [latest, same]

theorem Inv.begin (distinct : (ids initial).Nodup) : Inv initial ⟨initial, [], []⟩ where
  distinct := distinct
  named := nofun
  knows := nofun
  alike := nofun
  logged := nofun
  written := nofun
  last _ stored := .inr ⟨rfl, stored⟩
  place _ _ found _ := found

/-- When all calls have returned the file is as they should leave it. -/
theorem Inv.kept (inv : Inv initial state) (quiet : Quiet state) : Kept initial state := by
  have unwritten : ∀ record : Utmpx, (∀ session ∈ state.sessions, session.id ≠ idOf record) →
      latest state.written (idOf record) = none := by
    intro record other
    refine List.find?_eq_none.mpr fun earlier member same => ?_
    obtain ⟨session, present, named⟩ := List.mem_map.mp (inv.written earlier member)
    exact other session present (named.trans (by simpa using same))
  refine ⟨?_, ?_, ?_⟩
  · intro session member
    have known : session.id ∈ ids state.file := by
      have knows := inv.knows session member
      rw [quiet session member] at knows
      exact knows
    obtain ⟨record, stored, same⟩ := List.mem_map.mp known
    have some := inv.logged session member (quiet session member)
    refine ⟨record, ?_, ?_⟩
    · rw [← same] at some ⊢
      rcases inv.last record stored with written | ⟨none, -⟩
      · exact written
      · rw [none] at some
        cases some
    · rw [← same]
      exact filter_eq_singleton inv.distinct stored
  · intro index record found other
    exact inv.place index record found (unwritten record other)
  · intro record stored other
    rcases inv.last record stored with written | ⟨-, old⟩
    · rw [unwritten record other] at written
      cases written
    · exact old

theorem Inv.enter (inv : Inv initial state) {u : Utmpx} (solid : trimZeros (idOf u) = idOf u) :
    Inv initial { state with sessions := state.sessions ++ [⟨u, idOf u, .locking⟩] } where
  distinct := inv.distinct
  named := List.forall_mem_append.mpr ⟨inv.named, List.forall_mem_singleton.mpr ⟨rfl, solid⟩⟩
  knows := List.forall_mem_append.mpr ⟨inv.knows, List.forall_mem_singleton.mpr trivial⟩
  alike := by
    have old : ∀ session ∈ state.sessions ++ [⟨u, idOf u, .locking⟩],
        session.phase = .writing state.file.length → session ∈ state.sessions := by
      intro session member writing
      rcases List.mem_append.mp member with before | new
      · exact before
      · rw [List.mem_singleton.mp new] at writing
        cases writing
    intro first one second two here there
    exact inv.alike first (old first one here) second (old second two there) here there
  logged := List.forall_mem_append.mpr ⟨inv.logged, List.forall_mem_singleton.mpr nofun⟩
  written record member := by
    rw [List.map_append]
    exact List.mem_append_left _ (inv.written record member)
  last := inv.last
  place := inv.place

/-- A session goes on without a write. -/
theorem Inv.move (inv : Inv initial state) {index : Nat} {old new : Session}
    (found : state.sessions[index]? = some old) (same : new.id = old.id) (named : new.id = idOf new.u)
    (knows : Knows (ids state.file) new.id new.phase) (running : new.phase ≠ .returned)
    (alone : new.phase = .writing state.file.length →
      ∀ other ∈ state.sessions, other.phase = .writing state.file.length → other.id = new.id) :
    Inv initial { state with sessions := state.sessions.set index new } := by
  have solid := (inv.named old (List.mem_of_getElem? found)).2
  refine ⟨inv.distinct, set_keeps inv.named ⟨named, same ▸ solid⟩, set_keeps inv.knows knows, ?_,
    set_keeps inv.logged fun returned => absurd returned running, ?_, inv.last, inv.place⟩
  · intro first one second two here there
    rcases List.mem_or_eq_of_mem_set one with first | rfl <;>
      rcases List.mem_or_eq_of_mem_set two with second | rfl
    · exact inv.alike _ first _ second here there
    · exact alone there _ first here
    · exact (alone here _ second there).symm
    · rfl
  · intro record member
    dsimp only
    rw [map_set_same found same]
    exact inv.written record member

theorem Written.distinct {file after : List Utmpx} {u : Utmpx} (written : Written file u after)
    (distinct : (ids file).Nodup) : (ids after).Nodup := by
  rcases written.names with same | ⟨longer, absent⟩
  · rw [same]
    exact distinct
  · rw [longer, ← List.concat_eq_append]
    exact distinct.concat absent

/-- What the sessions know stays true when one of them writes. -/
theorem Inv.knows_after (inv : Inv initial state) {after : List Utmpx} {session : Session}
    (member : session ∈ state.sessions) {offset : Nat} (writing : session.phase = .writing offset)
    (written : Written state.file session.u after) :
    ∀ other ∈ state.sessions, Knows (ids after) other.id other.phase := by
  intro other present
  have named := (inv.named session member).1
  rcases written.names with same | ⟨longer, absent⟩
  · rw [same]
    exact inv.knows other present
  · rw [longer]
    refine (inv.knows other present).append fun ending => ?_
    have knows := inv.knows session member
    rw [named, writing] at knows
    rcases knows with here | ⟨final, -⟩
    · exact absurd (List.mem_of_getElem? here) absent
    · rw [ids_length] at ending final
      rw [← named]
      exact inv.alike other present session member ending (final ▸ writing)

/-- Nobody is about to write behind a record that was just appended. -/
theorem Inv.unmoved (inv : Inv initial state) {after : List Utmpx} {u : Utmpx}
    (written : Written state.file u after) {other : Session} (present : other ∈ state.sessions)
    (ending : other.phase = .writing after.length) : other.phase = .writing state.file.length := by
  rcases written.names with same | ⟨longer, -⟩
  · rw [ending, ← ids_length, same, ids_length]
  · have knows := inv.knows other present
    have length := congrArg List.length longer
    rw [ids_length, List.length_append, List.length_singleton] at length
    rw [ending, length] at knows
    rcases knows with here | ⟨final, -⟩
    · have inside := (List.getElem?_eq_some_iff.mp here).1
      omega
    · omega

/-- A session writes its record. -/
theorem Inv.write (inv : Inv initial state) {index offset : Nat} {session : Session}
    (found : state.sessions[index]? = some session) (writing : session.phase = .writing offset) :
    Inv initial ⟨writeAt state.file offset session.u,
      state.sessions.set index { session with phase := .returned }, session.u :: state.written⟩ := by
  have member := List.mem_of_getElem? found
  obtain ⟨named, solid⟩ := inv.named session member
  have knows := inv.knows session member
  rw [named, writing] at knows
  have after := writeAt_written knows
  have distinct := after.distinct inv.distinct
  refine ⟨distinct, set_keeps inv.named ⟨named, solid⟩, ?_, ?_, ?_, ?_, ?_, ?_⟩
  · have own : session.id ∈ ids _ := List.mem_map.mpr ⟨session.u, after.stored, named.symm⟩
    exact set_keeps (inv.knows_after member writing after) own
  · intro first one second two here there
    rcases List.mem_or_eq_of_mem_set one with before | rfl
    · rcases List.mem_or_eq_of_mem_set two with earlier | rfl
      · exact inv.alike first before second earlier (inv.unmoved after before here)
          (inv.unmoved after earlier there)
      · cases there
    · cases here
  · intro other present returned
    rw [latest_cons]
    split
    · rfl
    · rename_i differs
      rcases List.mem_or_eq_of_mem_set present with before | rfl
      · exact inv.logged other before returned
      · exact absurd named.symm differs
  · intro record present
    have unchanged : (state.sessions.set index { session with phase := .returned }).map Session.id =
        state.sessions.map Session.id := map_set_same found rfl
    rw [unchanged]
    rcases List.mem_cons.mp present with rfl | earlier
    · exact List.mem_map.mpr ⟨session, member, named⟩
    · exact inv.written record earlier
  · intro record stored
    rw [latest_cons]
    by_cases same : idOf session.u = idOf record
    · cases List.inj_on_of_nodup_map distinct after.stored stored same
      exact .inl (if_pos rfl)
    · rw [if_neg same]
      rcases after.origin record stored with rfl | old
      · exact absurd rfl same
      · exact inv.last record old
  · intro position record first
    rw [latest_cons]
    split
    · nofun
    · rename_i differs
      intro none
      exact after.place position record (inv.place position record first none) (Ne.symm differs)

/-- The search goes on behind a record with another id. -/
theorem Knows.pass {file : List Utmpx} {id : Bytes} {offset : Nat} {ut : Utmpx}
    (knows : Knows (ids file) id (.searching offset)) (read : file[offset]? = some ut)
    (differs : idOf ut ≠ id) : Knows (ids file) id (.searching (offset + 1)) := by
  have inside : offset < (ids file).length := by
    rw [ids_length]
    exact (List.getElem?_eq_some_iff.mp read).1
  have stored : (ids file)[offset]? = some (idOf ut) := by rw [ids, List.getElem?_map, read, Option.map_some]
  refine ⟨inside, ?_⟩
  rw [List.take_add_one, stored]
  simpa [Ne.symm differs] using knows.2

theorem Inv.operate (inv : Inv initial state) {index : Nat} {session : Session}
    (found : state.sessions[index]? = some session)
    (good : session.phase = .searching state.file.length →
      ∀ other ∈ state.sessions, other.phase = .writing state.file.length → other.id = session.id) :
    Inv initial (operate state index session) := by
  have member := List.mem_of_getElem? found
  obtain ⟨named, solid⟩ := inv.named session member
  have knows := inv.knows session member
  have length := ids_length state.file
  cases phase : session.phase with
  | locking =>
    simp only [UtmpFiles.operate, phase]
    exact inv.move found rfl named ⟨Nat.zero_le _, List.not_mem_nil⟩ nofun nofun
  | searching offset =>
    rw [phase] at knows
    cases read : state.file[offset]? with
    | none =>
      have final : offset = state.file.length :=
        Nat.le_antisymm (length ▸ knows.1) (List.getElem?_eq_none_iff.mp read)
      subst final
      have absent : session.id ∉ ids state.file := by
        have all := knows.2
        rwa [← length, List.take_length] at all
      simp only [UtmpFiles.operate, phase, read]
      exact inv.move found rfl named (.inr ⟨length.symm, absent⟩) nofun fun _ => good phase
    | some ut =>
      have compare : trimZeros (idOf ut) = session.id ↔ idOf ut = session.id := by
        rw [named] at solid ⊢
        exact trimZeros_eq_iff solid
      by_cases same : trimZeros (idOf ut) = session.id
      · have here : (ids state.file)[offset]? = some session.id := by
          rw [ids, List.getElem?_map, read, Option.map_some, compare.mp same]
        simp only [UtmpFiles.operate, phase, read, if_pos same]
        exact inv.move found rfl named here nofun nofun
      · simp only [UtmpFiles.operate, phase, read, if_neg same]
        exact inv.move found rfl named (knows.pass read (mt compare.mpr same)) nofun nofun
  | found offset =>
    rw [phase] at knows
    simp only [UtmpFiles.operate, phase]
    refine inv.move found rfl named (.inl knows) nofun fun ending => ?_
    have inside := (List.getElem?_eq_some_iff.mp knows).1
    cases ending
    omega
  | writing offset =>
    simp only [UtmpFiles.operate, phase]
    exact inv.write found phase
  | returned =>
    simp only [UtmpFiles.operate, phase]
    exact inv

/-- What one event leaves of the file when it is not disturbed. -/
theorem Inv.next (inv : Inv initial state) (event : Event) (good : Undisturbed text state event) :
    Inv initial (next text state event) := by
  unfold UtmpFiles.next
  cases event with
  | start login =>
    dsimp only
    split
    · exact inv
    · rename_i u made
      exact inv.enter (good u made)
  | finish index now =>
    dsimp only
    split
    · rename_i session found
      split
      · obtain ⟨named, -⟩ := inv.named session (List.mem_of_getElem? found)
        exact inv.move found named.symm rfl trivial nofun nofun
      · exact inv
    · exact inv
  | operate index =>
    dsimp only
    split
    · rename_i session found
      exact inv.operate found (good session found)
    · exact inv

/-- Every session keeps its record, and no other record is touched, in every run in which no two
calls for different ids are at the end of the file at the same time. Each call keeps the ids in the
file distinct and each record the last one written for its id. -/
theorem records_kept (text : AddressText) (initial : List Utmpx) (distinct : (initial.map idOf).Nodup)
    (events : List Event) (undisturbed : Along (next text) (Undisturbed text) ⟨initial, [], []⟩ events) :
    ∀ state ∈ visited (next text) ⟨initial, [], []⟩ events, Quiet state → Kept initial state := by
  have always : ∀ state ∈ visited (next text) ⟨initial, [], []⟩ events, Inv initial state :=
    visited_keeps (fun _ event inv good => Inv.next inv event good) (Inv.begin distinct) undisturbed
  intro state member quiet
  exact (always state member).kept quiet

/-- A login on the terminal `pts/` with one more byte. -/
def sampleLogin (byte : UInt8) : Login := ⟨1, ⟨0, 0⟩, [112, 116, 115, 47, byte], [], []⟩

/-- One session from its beginning to its end. -/
def sampleEvents : List Event :=
  .start (sampleLogin 48) :: List.replicate 3 (.operate 0) ++
    .finish 0 ⟨1, 0⟩ :: List.replicate 4 (.operate 0)

theorem records_kept_of_one :
    Kept [] (sampleEvents.foldl (next usualText) ⟨[], [], []⟩) ∧
    (sampleEvents.foldl (next usualText) ⟨[], [], []⟩).file.map Utmpx.type = [deadProcess] := by
  refine ⟨records_kept usualText [] List.nodup_nil sampleEvents (by decide +kernel) _ ?_ (by decide +kernel),
    by decide +kernel⟩
  exact .tail _ (.tail _ (.tail _ (.tail _ (.tail _ (.tail _ (.tail _ (.tail _ (.tail _ (.head _)))))))))

/-- Two new sessions that search at the same time. -/
def race : List Event :=
  [.start (sampleLogin 48), .start (sampleLogin 49), .operate 0, .operate 1, .operate 0, .operate 1,
    .operate 0, .operate 1]

/-- Both sessions write where the file ended, and the record of the first one is lost. -/
theorem record_lost :
    Quiet (race.foldl (next usualText) ⟨[], [], []⟩) ∧
    (race.foldl (next usualText) ⟨[], [], []⟩).sessions.map Session.id =
      [[116, 115, 47, 48], [116, 115, 47, 49]] ∧
    (race.foldl (next usualText) ⟨[], [], []⟩).file.map idOf = [[116, 115, 47, 49]] ∧
    ¬ Kept [] (race.foldl (next usualText) ⟨[], [], []⟩) := by
  refine ⟨by decide +kernel, by decide +kernel, by decide +kernel, fun kept => ?_⟩
  have first : [116, 115, 47, 48] ∈ (race.foldl (next usualText) ⟨[], [], []⟩).sessions.map Session.id := by
    decide +kernel
  obtain ⟨session, member, named⟩ := List.mem_map.mp first
  obtain ⟨record, -, only⟩ := kept.own session member
  have none : (race.foldl (next usualText) ⟨[], [], []⟩).file.filter
      (fun stored => idOf stored = [116, 115, 47, 48]) = [] := by
    decide +kernel
  rw [named, none] at only
  cases only

/-! ## Records of others -/

/-- A session of another id that is not about to write at an index. -/
structure Spares (index : Nat) (record : Utmpx) (session : Session) : Prop where
  named : session.id = idOf session.u
  other : idOf record ≠ session.id
  elsewhere : session.phase ≠ .found index ∧ session.phase ≠ .writing index

/-- A record in its place that no session aims at. -/
def Stays (index : Nat) (record : Utmpx) (state : State) : Prop :=
  state.file[index]? = some record ∧ ∀ session ∈ state.sessions, Spares index record session

/-- No login gets the id of a record. -/
def Foreign (text : AddressText) (record : Utmpx) : Event → Prop
  | .start login => ∀ u ∈ utmpStartSession text login.pid login.now login.line login.user login.remoteAddr,
    idOf record ≠ idOf u
  | _ => True

variable {index : Nat} {record : Utmpx}

theorem Stays.replace (stays : Stays index record state) {file : List Utmpx}
    (stored : file[index]? = some record) (new : Session) (spares : Spares index record new) (place : Nat)
    (written : List Utmpx) : Stays index record ⟨file, state.sessions.set place new, written⟩ := by
  exact ⟨stored, set_keeps stays.2 spares⟩

theorem Stays.operate (stays : Stays index record state) {place : Nat} {session : Session}
    (found : state.sessions[place]? = some session) : Stays index record (operate state place session) := by
  obtain ⟨named, other, elsewhere⟩ := stays.2 session (List.mem_of_getElem? found)
  have move := fun phase apart =>
    stays.replace stays.1 { session with phase } ⟨named, other, apart⟩ place state.written
  unfold UtmpFiles.operate
  cases phase : session.phase with
  | locking => exact move _ ⟨nofun, nofun⟩
  | searching offset =>
    dsimp only
    split
    next read =>
      refine move _ ⟨nofun, ?_⟩
      rintro ⟨⟩
      cases read.symm.trans stays.1
    next ut read =>
      split_ifs with same
      · refine move _ ⟨?_, nofun⟩
        rintro ⟨⟩
        cases read.symm.trans stays.1
        exact other ((idOf_eq_of_trimZeros (same.trans named)).trans named.symm)
      · exact move _ ⟨nofun, nofun⟩
  | found offset =>
    refine move _ ⟨nofun, ?_⟩
    rintro ⟨⟩
    exact elsewhere.1 phase
  | writing offset =>
    refine stays.replace ?_ { session with phase := .returned } ⟨named, other, nofun, nofun⟩ place _
    have apart : offset ≠ index := fun same => elsewhere.2 (same ▸ phase)
    unfold writeAt
    split_ifs
    · rw [List.getElem?_set_ne apart, stays.1]
    · exact getElem?_append_of_some (getElem?_append_of_some stays.1)
  | returned => exact stays

theorem Stays.next {event : Event} (stays : Stays index record state) (foreign : Foreign text record event) :
    Stays index record (next text state event) := by
  unfold UtmpFiles.next
  cases event with
  | start login =>
    dsimp only
    split
    · exact stays
    · rename_i u made
      refine ⟨stays.1, List.forall_mem_append.mpr ⟨stays.2, List.forall_mem_singleton.mpr ?_⟩⟩
      exact ⟨rfl, foreign u made, nofun, nofun⟩
  | finish place now =>
    dsimp only
    split
    · rename_i session found
      obtain ⟨named, other, -⟩ := stays.2 session (List.mem_of_getElem? found)
      split
      · exact stays.replace stays.1 ⟨_, _, .locking⟩ ⟨rfl, named ▸ other, nofun, nofun⟩ place _
      · exact stays
    · exact stays
  | operate place =>
    dsimp only
    split
    · exact stays.operate ‹_›
    · exact stays

/-- However the calls interleave, a record stays where it is as long as no login gets its id. Each
write keeps the record in a place that no session aims at. -/
theorem foreign_record_stays (text : AddressText) (initial : List Utmpx)
    (stored : initial[index]? = some record) (events : List Event)
    (foreign : Along (next text) (fun _ => Foreign text record) ⟨initial, [], []⟩ events) :
    ∀ state ∈ visited (next text) ⟨initial, [], []⟩ events, state.file[index]? = some record := by
  have always : ∀ state ∈ visited (next text) ⟨initial, [], []⟩ events, Stays index record state :=
    visited_keeps (fun _ _ => Stays.next) ⟨stored, nofun⟩ foreign
  intro state member
  exact (always state member).1

def boot : Utmpx :=
  ⟨2, 0, copyInto 32 [], copyInto 4 [126, 126], copyInto 32 [], copyInto 256 [], ⟨0, 0⟩, Vector.replicate 4 0, []⟩

theorem foreign_record_stays_in_race :
    (race.foldl (next usualText) ⟨[boot], [], []⟩).file[0]? = some boot :=
  foreign_record_stays usualText [boot] rfl race (by simp only [race, Along, Foreign]; decide +kernel) _
    (.tail _ (.tail _ (.tail _ (.tail _ (.tail _ (.tail _ (.tail _ (.tail _ (.head _)))))))))

end ShellHub.UtmpFiles
