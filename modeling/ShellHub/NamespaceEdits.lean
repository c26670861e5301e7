import ShellHub.Interleavings
import ShellHub.Namespaces
import Mathlib.Data.List.Nodup

/-!
# Edits of one namespace at the same time

`EditNamespace`, `EditSessionRecordStatus` and `EditSSHAccessMode` read a namespace, set some of its
fields and write the whole row back. Several of them run at the same time, one store call after
another. A log says who has read which row and who has written.

What a call has set stays stored until a call that names the same field writes, as long as each call
names every field that was written since it has read the namespace. Otherwise it writes back an old
value of a field that it does not name. A call may also fail after it has written: the starter
policy is seeded after the switch of the access mode, and an edit reads the namespace again.
-/

namespace ShellHub.Namespaces

open LetterCase (toLower)
open Programs Interleavings

/-! ## Fields and requests -/

/-- The fields that the edits set. -/
inductive NamespaceField where
  | name
  | sessionRecord
  | connectionAnnouncement
  | sshAccessMode
  deriving DecidableEq, Repr

/-- The values of a field. -/
@[reducible]
def NamespaceField.Value : NamespaceField → Type
  | .name => String
  | .sessionRecord => Bool
  | .connectionAnnouncement => String
  | .sshAccessMode => SSHAccessMode

/-- The value of a field in a row. -/
def NamespaceField.of : (field : NamespaceField) → Namespace → field.Value
  | .name, row => row.name
  | .sessionRecord, row => row.settings.sessionRecord
  | .connectionAnnouncement, row => row.settings.connectionAnnouncement
  | .sshAccessMode, row => row.settings.sshAccessMode

instance (holds : NamespaceField → Prop) [DecidablePred holds] :
    Decidable (∀ field, holds field) :=
  decidable_of_iff (holds .name ∧ holds .sessionRecord ∧ holds .connectionAnnouncement ∧
      holds .sshAccessMode) <| by
    constructor
    · rintro ⟨name, record, announcement, mode⟩ (_ | _ | _ | _)
      · exact name
      · exact record
      · exact announcement
      · exact mode
    · intro all
      exact ⟨all _, all _, all _, all _⟩

/-- The requests that edit a namespace. -/
inductive EditRequest where
  | edit (name : String) (record : Option Bool) (announcement : Option String)
  | recordStatus (record : Bool)
  | accessMode (mode : SSHAccessMode)
  deriving DecidableEq, Repr

/-- What the requests answer. -/
inductive EditReply where
  | edited (result : Except ServiceError Namespace)
  | switched (result : Except ServiceError Unit)
  deriving DecidableEq

/-- The answer is no error. -/
def EditReply.succeeded : EditReply → Bool
  | .edited result => result.isOk
  | .switched result => result.isOk

/-- The program of a request. -/
def EditRequest.program (tenantID : String) : EditRequest → Service EditReply
  | .edit name record announcement => do
    return .edited (← editNamespace ⟨tenantID, name, record, announcement⟩)
  | .recordStatus record => do return .switched (← editSessionRecordStatus record tenantID)
  | .accessMode mode => do return .switched (← editSSHAccessMode mode tenantID)

/-- The request names the field. -/
def EditRequest.names : EditRequest → NamespaceField → Bool
  | .edit name _ _, .name => name ≠ ""
  | .edit _ record _, .sessionRecord => record.isSome
  | .edit _ _ announcement, .connectionAnnouncement => announcement.isSome
  | .recordStatus _, .sessionRecord => true
  | .accessMode _, .sshAccessMode => true
  | _, _ => false

/-- The value that a request gives to a field of the row that it has read. A name that equals the
old one up to case changes nothing. -/
def EditRequest.sets (loaded : Namespace) :
    EditRequest → (field : NamespaceField) → Option field.Value
  | .edit name _ _, .name =>
    if name ≠ "" ∧ toLower name ≠ toLower loaded.name then some (toLower name) else none
  | .edit _ record _, .sessionRecord => record
  | .edit _ _ announcement, .connectionAnnouncement => announcement
  | .recordStatus record, .sessionRecord => some record
  | .accessMode mode, .sshAccessMode => some mode
  | _, _ => none

/-- The row that a request writes over the one that it has read. -/
def EditRequest.apply (loaded : Namespace) : EditRequest → Namespace
  | .edit name record announcement =>
    NamespaceEdit.apply ⟨loaded.tenantID, name, record, announcement⟩ loaded
  | .recordStatus record =>
    { loaded with settings := { loaded.settings with sessionRecord := record } }
  | .accessMode mode =>
    { loaded with settings := { loaded.settings with sshAccessMode := mode } }

/-- The row that is written has the values that the request gives. -/
theorem EditRequest.apply_sets {request : EditRequest} {loaded : Namespace} {field : NamespaceField}
    {value : field.Value} (given : request.sets loaded field = some value) :
    field.of (request.apply loaded) = value := by
  cases request with
  | edit name record announcement =>
    cases field with
    | name =>
      simp only [EditRequest.sets] at given
      split at given
      · rename_i renamed
        cases given
        exact if_pos renamed
      · cases given
    | sessionRecord =>
      have asked : record = some value := given
      subst asked
      rfl
    | connectionAnnouncement =>
      have asked : announcement = some value := given
      subst asked
      rfl
    | sshAccessMode => cases given
  | recordStatus record =>
    cases field with
    | sessionRecord => exact Option.some.inj given
    | name | connectionAnnouncement | sshAccessMode => cases given
  | accessMode mode =>
    cases field with
    | sshAccessMode => exact Option.some.inj given
    | name | sessionRecord | connectionAnnouncement => cases given

/-- A field that is not named is written as it was read. -/
theorem EditRequest.apply_keeps {request : EditRequest} {field : NamespaceField}
    (unnamed : request.names field = false) (loaded : Namespace) :
    field.of (request.apply loaded) = field.of loaded := by
  cases request with
  | edit name record announcement =>
    cases field with
    | name =>
      have empty : name = "" := by simpa [EditRequest.names] using unnamed
      exact if_neg fun asked => asked.1 empty
    | sessionRecord =>
      have empty : record = none := by simpa [EditRequest.names] using unnamed
      subst empty
      rfl
    | connectionAnnouncement =>
      have empty : announcement = none := by simpa [EditRequest.names] using unnamed
      subst empty
      rfl
    | sshAccessMode => rfl
  | recordStatus record =>
    cases field with
    | sessionRecord => cases unnamed
    | name | connectionAnnouncement | sshAccessMode => rfl
  | accessMode mode =>
    cases field with
    | sshAccessMode => cases unnamed
    | name | sessionRecord | connectionAnnouncement => rfl

/-! ## The log -/

/-- What is logged: rows that were read, and writes with the row that their thread has read. -/
inductive EditTrace where
  | loaded (thread : Nat) (row : Namespace)
  | wrote (thread : Nat) (request : EditRequest) (loaded : Namespace)
  deriving DecidableEq, Repr

/-- The row that an entry says a thread has read. -/
def EditTrace.loadedBy (thread : Nat) : EditTrace → Option Namespace
  | .loaded reader row => if reader = thread then some row else none
  | .wrote _ _ _ => none

/-- The thread that has written. -/
def EditTrace.writer : EditTrace → Option Nat
  | .loaded _ _ => none
  | .wrote thread _ _ => some thread

/-- The entry is a write that names the field. -/
def EditTrace.names (field : NamespaceField) : EditTrace → Bool
  | .loaded _ _ => false
  | .wrote _ request _ => request.names field

/-- What a call adds to the log. -/
def editTraces (thread : Nat) (op : EditRequest) (log : List EditTrace) :
    (request : Call) → request.Reply → List EditTrace
  | .namespaceResolve _, .ok row => [.loaded thread row.val]
  | .namespaceUpdate _, .ok _ =>
    (lastLoaded EditTrace.loadedBy thread log).toList.map fun loaded => .wrote thread op loaded
  | _, _ => []

/-- The edits of one namespace at the same time. The newest entry of the log comes first. -/
def editing (tenantID : String) :
    System EditRequest Call Call.Reply EditReply (Option StoreError) (Database × List EditTrace) where
  program := EditRequest.program tenantID
  effect := fun thread op request around shared =>
    let (reply, database) := meaning request around shared.1
    (reply, (database, editTraces thread op shared.2 request reply ++ shared.2))

/-- A call that writes names each field that was written since it has read the namespace, and after
its write no store call fails. -/
def Careful (shared : Database × List EditTrace) (thread : Nat) (op : EditRequest) (request : Call)
    (around : Option StoreError) : Prop :=
  match request with
  | .namespaceUpdate _ =>
    ∀ entry ∈ sinceLoaded EditTrace.loadedBy thread shared.2, ∀ field, entry.names field → op.names field
  | _ => (∃ entry ∈ shared.2, entry.writer = some thread) → around = none

instance (shared : Database × List EditTrace) (thread : Nat) (op : EditRequest) (request : Call)
    (around : Option StoreError) : Decidable (Careful shared thread op request around) := by
  unfold Careful
  split <;> infer_instance

/-- The stored row of a tenant. -/
def Database.row (database : Database) (tenantID : String) : Option Namespace :=
  database.namespaces.find? fun stored => stored.tenantID == tenantID

/-- The edits of one namespace, and what they share. -/
abbrev Edits := Pool EditRequest Call Call.Reply EditReply (Database × List EditTrace)

/-- What the call of a thread has returned. -/
def Edits.reply (pool : Edits) (thread : Nat) : Option EditReply :=
  pool.threads[thread]?.bind Thread.result

/-- A value that a call has given to a field is stored, unless another call that names the field has
written since, and has not failed. -/
def Lasts (tenantID : String) (pool : Edits) (thread : Nat) (newer : List EditTrace)
    (field : NamespaceField) (value : field.Value) : Prop :=
  (pool.shared.1.row tenantID).map field.of = some value ∨
    ∃ entry ∈ newer, entry.names field ∧ ∃ other ∈ entry.writer, other ≠ thread ∧
      (Edits.reply pool other).all EditReply.succeeded

instance : (field : NamespaceField) → DecidableEq field.Value
  | .name | .connectionAnnouncement => inferInstanceAs (DecidableEq String)
  | .sessionRecord => inferInstanceAs (DecidableEq Bool)
  | .sshAccessMode => inferInstanceAs (DecidableEq SSHAccessMode)

instance (tenantID : String) (pool : Edits) (thread : Nat) (newer : List EditTrace)
    (field : NamespaceField) (value : field.Value) :
    Decidable (Lasts tenantID pool thread newer field value) :=
  inferInstanceAs (Decidable (_ ∨ _))

/-! ## A call seen from its own steps -/

/-- How far a call has come. -/
inductive Phase where
  | unread
  | read (loaded : Namespace)
  | written (request : EditRequest) (loaded : Namespace)

/-- The contract of a call: it reads the namespace, writes it once with its changes, and after that
nothing fails. -/
def editContract (tenantID : String) (op : EditRequest) : Contract Call Call.Reply Phase where
  allowed := fun phase request =>
    match phase, request with
    | .unread, .namespaceResolve tenant => tenant = tenantID
    | .read loaded, .namespaceUpdate row => row = op.apply loaded ∧ loaded.tenantID = tenantID
    | .written _ _, .namespaceResolve tenant => tenant = tenantID
    | .written _ _, .accessPolicyList _ => True
    | .written _ _, .accessPolicyCreate _ _ => True
    | _, _ => False
  yields := fun phase request =>
    match request with
    | .namespaceResolve _ => fun reply next =>
      match phase, reply with
      | .unread, .ok row => next = .read row.val
      | .unread, .error _ => next = .unread
      | _, reply => reply.isOk ∧ next = phase
    | .namespaceUpdate _ => fun reply next =>
      match phase, reply with
      | .read loaded, .ok _ => next = .written op loaded
      | _, _ => next = phase
    | _ => fun reply next => reply.isOk ∧ next = phase

/-- A call succeeds exactly if it has written. -/
def EditRequest.Ends (request : EditRequest) (reply : EditReply) : Phase → Prop
  | .written written _ => written = request ∧ reply.succeeded = true
  | _ => reply.succeeded = false

theorem EditRequest.Ends.written {request : EditRequest} {reply : EditReply} {phase : Phase}
    (ends : request.Ends reply phase) (succeeded : reply.succeeded = true) :
    ∃ loaded, phase = .written request loaded := by
  cases phase with
  | unread | read loaded => cases succeeded.symm.trans ends
  | written wrote loaded =>
    obtain ⟨rfl, _⟩ := ends
    exact ⟨loaded, rfl⟩

section Programs

variable {tenantID : String}

theorem editNamespace_edits (name : String) (record : Option Bool) (announcement : Option String) :
    (editNamespace ⟨tenantID, name, record, announcement⟩).Meets
      (editContract tenantID (.edit name record announcement)) .unread fun result phase =>
        (EditRequest.edit name record announcement).Ends (.edited result) phase := by
  refine .perform rfl ?_
  rintro (error | stored) _ rfl
  · exact rfl
  refine .perform ⟨rfl, stored.property⟩ ?_
  rintro (error | _) _ rfl
  · cases error <;> rfl
  refine .perform rfl ?_
  rintro (error | updated) _ ⟨succeeded, rfl⟩
  · cases succeeded
  · exact ⟨rfl, rfl⟩

theorem editSessionRecordStatus_edits (record : Bool) :
    (editSessionRecordStatus record tenantID).Meets (editContract tenantID (.recordStatus record))
      .unread fun result phase => (EditRequest.recordStatus record).Ends (.switched result) phase := by
  refine .perform rfl ?_
  rintro (error | stored) _ rfl
  · exact rfl
  refine .perform ⟨rfl, stored.property⟩ ?_
  rintro (error | _) _ rfl
  · exact rfl
  · exact ⟨rfl, rfl⟩

/-- Seeding is not refused to a namespace that has a tenant. -/
theorem seedAccessPolicy_edits (proper : tenantID ≠ "") (owner : String) (op : EditRequest)
    (loaded : Namespace) :
    (seedAccessPolicy tenantID owner).Meets (editContract tenantID op) (.written op loaded)
      fun result phase => op.Ends (.switched result) phase := by
  unfold seedAccessPolicy
  rw [if_neg proper]
  have done : op.Ends (.switched (.ok ())) (.written op loaded) :=
    ⟨rfl, rfl⟩
  refine .perform trivial ?_
  rintro (error | count) _ ⟨succeeded, rfl⟩
  · cases succeeded
  dsimp only
  split
  · exact done
  refine .perform trivial ?_
  rintro (error | _) _ ⟨succeeded, rfl⟩
  · cases succeeded
  · exact done

theorem editSSHAccessMode_edits (proper : tenantID ≠ "") (mode : SSHAccessMode) :
    (editSSHAccessMode mode tenantID).Meets (editContract tenantID (.accessMode mode)) .unread
      fun result phase => (EditRequest.accessMode mode).Ends (.switched result) phase := by
  refine .perform rfl ?_
  rintro (error | stored) _ rfl
  · exact rfl
  dsimp only
  split
  · exact rfl
  refine .perform ⟨rfl, stored.property⟩ ?_
  rintro (error | _) _ rfl
  · exact rfl
  cases mode with
  | legacy => exact ⟨rfl, rfl⟩
  | identity => exact seedAccessPolicy_edits proper stored.val.owner _ stored.val

/-- Every request reads the namespace before it writes it, once. -/
theorem EditRequest.program_edits (proper : tenantID ≠ "") (request : EditRequest) :
    (request.program tenantID).Meets (editContract tenantID request) .unread request.Ends := by
  cases request with
  | edit name record announcement =>
    exact (editNamespace_edits name record announcement).bind fun _ _ ends => ends
  | recordStatus record =>
    exact (editSessionRecordStatus_edits record).bind fun _ _ ends => ends
  | accessMode mode => exact (editSSHAccessMode_edits proper mode).bind fun _ _ ends => ends

end Programs

/-! ## The store -/

section Store

variable {database : Database} {tenantID : String}

/-- Reading a namespace answers the stored row, or says that there is none. -/
theorem namespaceResolve_cases (database : Database) (tenantID : String) :
    (database.row tenantID = none ∧
        database.perform (.namespaceResolve tenantID) = (.error .noDocuments, database)) ∨
      ∃ row : NamespaceOf tenantID, database.row tenantID = some row.val ∧
        database.perform (.namespaceResolve tenantID) = (.ok row, database) := by
  unfold Database.row Database.perform
  dsimp only
  split
  · rename_i absent
    exact .inl ⟨absent, rfl⟩
  · rename_i row found
    exact .inr ⟨⟨row, by simpa using List.find?_some found⟩, found, rfl⟩

/-- Writing a namespace fails and changes nothing, or stores the row. -/
theorem namespaceUpdate_cases (database : Database) (row : Namespace) :
    (∃ error, database.perform (.namespaceUpdate row) = (.error error, database)) ∨
      ∃ next, database.perform (.namespaceUpdate row) = (.ok (), next) ∧
        next.row row.tenantID = some row := by
  unfold Database.perform
  dsimp only
  split
  · exact .inl ⟨_, rfl⟩
  split
  · exact .inl ⟨_, rfl⟩
  rename_i present _
  refine .inr ⟨_, rfl, ?_⟩
  have some_ : ∃ old ∈ database.namespaces, old.tenantID = row.tenantID := by
    simpa [Database.has] using present
  unfold Database.row
  dsimp only
  generalize database.namespaces = rows at some_
  induction rows with
  | nil =>
    obtain ⟨old, member, _⟩ := some_
    cases member
  | cons head rest ih =>
    rw [List.map_cons, List.find?_cons]
    by_cases here : head.tenantID = row.tenantID
    · rw [if_pos here, beq_self_eq_true]
    · rw [if_neg here, beq_false_of_ne here]
      obtain ⟨old, member, same⟩ := some_
      rcases List.mem_cons.mp member with rfl | further
      · exact absurd same here
      · exact ih ⟨old, further, same⟩

end Store

/-! ## The invariant -/

/-- The row that a thread has read is still stored, but for the fields that were written since. -/
structure Fresh (row : Option Namespace) (log : List EditTrace) (thread : Nat)
    (loaded : Namespace) : Prop where
  last : lastLoaded EditTrace.loadedBy thread log = some loaded
  same : ∃ stored, row = some stored ∧ ∀ field : NamespaceField,
    (∀ entry ∈ sinceLoaded EditTrace.loadedBy thread log, entry.names field = false) → field.of stored = field.of loaded

/-- What is known about the stored row of the namespace, the log and the phases of all threads. -/
structure Settled (row : Option Namespace) (log : List EditTrace) (phaseOf : Nat → Phase) :
    Prop where
  kept : ∀ newer thread request loaded older, log = newer ++ .wrote thread request loaded :: older →
    ∃ stored, row = some stored ∧ ∀ field value, request.sets loaded field = some value →
      field.of stored = value ∨ ∃ entry ∈ newer, entry.names field = true
  writers : (log.filterMap EditTrace.writer).Nodup
  logged : ∀ thread request loaded,
    .wrote thread request loaded ∈ log ↔ phaseOf thread = .written request loaded
  fresh : ∀ thread loaded, phaseOf thread = .read loaded → Fresh row log thread loaded

section Steps

variable {row : Option Namespace} {log : List EditTrace} {phaseOf : Nat → Phase} {thread : Nat}

/-- Nobody has written while no thread is in its last phase. -/
theorem Settled.unwritten (settled : Settled row log phaseOf)
    (before : ∀ request loaded, phaseOf thread ≠ .written request loaded) :
    thread ∉ log.filterMap EditTrace.writer := by
  intro member
  obtain ⟨entry, entered, own⟩ := List.mem_filterMap.mp member
  cases entry with
  | loaded reader row => cases own
  | wrote writer request loaded =>
    cases own
    exact before request loaded ((settled.logged thread request loaded).mp entered)

/-- A row that was read is noted. The thread reads for the first time, or it has already written. -/
theorem Settled.load (settled : Settled row log phaseOf) {stored : Namespace}
    (present : row = some stored) {phase : Phase}
    (moved : phaseOf thread = .unread ∧ phase = .read stored ∨
      (∃ request loaded, phaseOf thread = .written request loaded) ∧ phase = phaseOf thread) :
    Settled row (.loaded thread stored :: log) (Function.update phaseOf thread phase) where
  kept := by
    intro newer writer request loaded older split
    cases newer with
    | nil => cases split
    | cons entry newer =>
      obtain ⟨rfl, rest⟩ := List.cons.inj split
      obtain ⟨stored, found, values⟩ := settled.kept newer writer request loaded older rest
      refine ⟨stored, found, fun field value given => ?_⟩
      rcases values field value given with same | ⟨entry, member, named⟩
      · exact .inl same
      · exact .inr ⟨entry, List.mem_cons_of_mem _ member, named⟩
  writers := settled.writers
  logged := by
    intro other request loaded
    have old : .wrote other request loaded ∈ EditTrace.loaded thread stored :: log ↔
        phaseOf other = .written request loaded := by
      rw [← settled.logged other request loaded]
      simp
    rw [old]
    by_cases here : other = thread
    · subst here
      rw [Function.update_self]
      rcases moved with ⟨unread, rfl⟩ | ⟨_, rfl⟩
      · rw [unread]
        constructor <;> rintro ⟨⟩
      · rfl
    · rw [Function.update_of_ne here]
  fresh := by
    intro other loaded reading
    by_cases here : other = thread
    · subst here
      rw [Function.update_self] at reading
      rcases moved with ⟨_, rfl⟩ | ⟨⟨request, old, wrote⟩, rfl⟩
      · cases reading
        constructor
        · exact lastLoaded_cons_self log (if_pos rfl)
        · exact ⟨stored, present, fun _ _ => rfl⟩
      · rw [wrote] at reading
        cases reading
    · rw [Function.update_of_ne here] at reading
      obtain ⟨last, stored', found, same⟩ := settled.fresh other loaded reading
      have silent : (EditTrace.loaded thread stored).loadedBy other = none := if_neg (Ne.symm here)
      constructor
      · rw [lastLoaded_cons_other _ silent]
        exact last
      · refine ⟨stored', found, fun field quiet => same field ?_⟩
        rw [sinceLoaded_cons_other _ silent] at quiet
        exact fun entry member => quiet entry (List.mem_cons_of_mem _ member)

/-- A call writes, and names each field that was written since it has read. -/
theorem Settled.write (settled : Settled row log phaseOf) {op : EditRequest} {loaded : Namespace}
    (reading : phaseOf thread = .read loaded)
    (careful : ∀ entry ∈ sinceLoaded EditTrace.loadedBy thread log, ∀ field, entry.names field → op.names field) :
    Settled (some (op.apply loaded)) (.wrote thread op loaded :: log)
      (Function.update phaseOf thread (.written op loaded)) := by
  obtain ⟨_, stored, found, same⟩ := settled.fresh thread loaded reading
  -- a field that the call does not name is written as it is stored
  have unnamed : ∀ field, op.names field = false →
      field.of (op.apply loaded) = field.of stored := by
    intro field silent
    rw [EditRequest.apply_keeps silent loaded]
    refine (same field fun entry member => ?_).symm
    cases named : entry.names field with
    | false => rfl
    | true => exact (careful entry member field named).symm.trans silent
  have newcomer : ∀ request loaded, phaseOf thread ≠ .written request loaded := by
    intro request row wrote
    rw [reading] at wrote
    cases wrote
  constructor
  · intro newer writer request row older split
    refine ⟨_, rfl, fun field value given => ?_⟩
    cases newer with
    | nil =>
      cases split
      exact .inl (EditRequest.apply_sets given)
    | cons entry newer =>
      obtain ⟨rfl, rest⟩ := List.cons.inj split
      obtain ⟨stored', found', values⟩ := settled.kept newer writer request row older rest
      obtain rfl := Option.some.inj (found.symm.trans found')
      rcases values field value given with old | ⟨entry, member, named⟩
      · cases named : op.names field with
        | false => exact .inl ((unnamed field named).trans old)
        | true => exact .inr ⟨_, List.mem_cons_self, named⟩
      · exact .inr ⟨entry, List.mem_cons_of_mem _ member, named⟩
  · exact List.nodup_cons.mpr ⟨settled.unwritten newcomer, settled.writers⟩
  · intro other request row
    by_cases here : other = thread
    · subst here
      rw [Function.update_self]
      constructor
      · intro member
        rcases List.mem_cons.mp member with same | old
        · cases same
          rfl
        · exact absurd ((settled.logged _ _ _).mp old) (newcomer request row)
      · rintro ⟨⟩
        exact List.mem_cons_self
    · rw [Function.update_of_ne here, ← settled.logged other request row, List.mem_cons]
      constructor
      · rintro (same | old)
        · cases same
          exact absurd rfl here
        · exact old
      · exact Or.inr
  · intro other row readingOther
    have different : other ≠ thread := by
      rintro rfl
      rw [Function.update_self] at readingOther
      cases readingOther
    rw [Function.update_of_ne different] at readingOther
    obtain ⟨last, stored', found', sameOther⟩ := settled.fresh other row readingOther
    obtain rfl := Option.some.inj (found.symm.trans found')
    constructor
    · exact last
    · refine ⟨_, rfl, fun field quiet => ?_⟩
      rw [unnamed field (quiet _ List.mem_cons_self)]
      exact sameOther field fun entry member => quiet entry (List.mem_cons_of_mem _ member)

variable {tenantID : String} {database : Database} {op : EditRequest} {around : Option StoreError}

/-- A thread that has written meets no more failures. -/
theorem Settled.calm (settled : Settled row log phaseOf) {request : EditRequest} {loaded : Namespace}
    (wrote : phaseOf thread = .written request loaded)
    (careful : (∃ entry ∈ log, entry.writer = some thread) → around = none) :
    around = none ∧ ∃ stored, row = some stored := by
  have entered := (settled.logged thread request loaded).mpr wrote
  obtain ⟨newer, older, split⟩ := List.append_of_mem entered
  obtain ⟨stored, found, _⟩ := settled.kept newer thread request loaded older split
  exact ⟨careful ⟨_, entered, rfl⟩, stored, found⟩

/-- A call that moves nothing keeps what is known. -/
theorem Settled.unmoved (settled : Settled row log phaseOf) (thread : Nat) :
    Settled row log (Function.update phaseOf thread (phaseOf thread)) := by
  rw [Function.update_eq_self]
  exact settled

/-- A call answers as the contract says, and what is known holds for the new phase of its thread. -/
def Advances (tenantID : String) (database : Database) (log : List EditTrace)
    (phaseOf : Nat → Phase) (thread : Nat) (op : EditRequest) (around : Option StoreError)
    (request : Call) : Prop :=
  let (reply, next) := meaning request around database
  ∃ phase, (editContract tenantID op).yields (phaseOf thread) request reply phase ∧
    Settled (next.row tenantID) (editTraces thread op log request reply ++ log)
      (Function.update phaseOf thread phase)

/-- The namespace is read, for the first time or after the write. -/
theorem Settled.resolve (settled : Settled (database.row tenantID) log phaseOf) {tenant : String}
    (allowed : (editContract tenantID op).allowed (phaseOf thread) (.namespaceResolve tenant))
    (careful : Careful (database, log) thread op (.namespaceResolve tenant) around) :
    Advances tenantID database log phaseOf thread op around (.namespaceResolve tenant) := by
  unfold Advances
  cases reached : phaseOf thread with
  | unread =>
    rw [reached] at allowed
    obtain rfl : tenant = tenantID := allowed
    have still := settled.unmoved thread
    rw [reached] at still
    cases around with
    | some error => exact ⟨.unread, rfl, still⟩
    | none =>
      dsimp only [meaning]
      rcases namespaceResolve_cases database tenant with ⟨_, answered⟩ | ⟨stored, found, answered⟩
      · rw [answered]
        exact ⟨.unread, rfl, still⟩
      · rw [answered]
        exact ⟨.read stored.val, rfl, settled.load found (.inl ⟨reached, rfl⟩)⟩
  | read loaded =>
    rw [reached] at allowed
    cases allowed
  | written request loaded =>
    rw [reached] at allowed
    obtain rfl : tenant = tenantID := allowed
    obtain ⟨rfl, stored, found⟩ := settled.calm reached careful
    dsimp only [meaning]
    rcases namespaceResolve_cases database tenant with ⟨absent, _⟩ | ⟨stored, found, answered⟩
    · rw [found] at absent
      cases absent
    · rw [answered]
      have moved := settled.load found (.inr ⟨⟨request, loaded, reached⟩, rfl⟩)
      rw [reached] at moved
      exact ⟨.written request loaded, ⟨rfl, rfl⟩, moved⟩

/-- The namespace is written. -/
theorem Settled.update (settled : Settled (database.row tenantID) log phaseOf) {new : Namespace}
    (allowed : (editContract tenantID op).allowed (phaseOf thread) (.namespaceUpdate new))
    (careful : Careful (database, log) thread op (.namespaceUpdate new) around) :
    Advances tenantID database log phaseOf thread op around (.namespaceUpdate new) := by
  unfold Advances
  cases reached : phaseOf thread with
  | unread | written request loaded =>
    rw [reached] at allowed
    cases allowed
  | read loaded =>
    rw [reached] at allowed
    obtain ⟨rfl, named⟩ := allowed
    have still := settled.unmoved thread
    rw [reached] at still
    cases around with
    | some error => exact ⟨.read loaded, rfl, still⟩
    | none =>
      dsimp only [meaning]
      rcases namespaceUpdate_cases database (op.apply loaded) with
        ⟨error, answered⟩ | ⟨next, answered, stored⟩
      · rw [answered]
        exact ⟨.read loaded, rfl, still⟩
      · rw [answered]
        have kept : (op.apply loaded).tenantID = loaded.tenantID := by cases op <;> rfl
        rw [kept, named] at stored
        have last := (settled.fresh thread loaded reached).last
        have entry : editTraces thread op log (.namespaceUpdate (op.apply loaded)) (.ok ()) =
            [.wrote thread op loaded] := by
          simp [editTraces, last]
        refine ⟨.written op loaded, rfl, ?_⟩
        rw [entry, stored]
        exact settled.write reached careful

/-- A call moves the phase of its thread, and keeps what is known. -/
theorem Settled.step (settled : Settled (database.row tenantID) log phaseOf) {request : Call}
    (allowed : (editContract tenantID op).allowed (phaseOf thread) request)
    (careful : Careful (database, log) thread op request around) :
    Advances tenantID database log phaseOf thread op around request := by
  cases request
  case namespaceResolve tenant => exact settled.resolve allowed careful
  case namespaceUpdate new => exact settled.update allowed careful
  -- the policies are listed and seeded after the write only
  case accessPolicyList | accessPolicyCreate =>
    cases reached : phaseOf thread with
    | unread | read loaded =>
      rw [reached] at allowed
      cases allowed
    | written wrote loaded =>
      obtain ⟨rfl, _⟩ := settled.calm reached careful
      unfold Advances
      rw [reached]
      refine ⟨.written wrote loaded, ⟨rfl, rfl⟩, ?_⟩
      rw [← reached]
      exact settled.unmoved thread
  all_goals
    revert allowed
    cases phaseOf thread <;> rintro ⟨⟩

end Steps

/-- What an edit has set is not overwritten, in every run whose steps meet the condition: a call
that has returned success has written, and each value that it has given to a field is stored until
another call that names the field writes. Each call keeps what a thread has read current in all
fields that nobody has written since, so a write changes only fields that it names. -/
theorem edits_not_overwritten (tenantID : String) (proper : tenantID ≠ "") (database : Database)
    (events : List (Event EditRequest (Option StoreError)))
    (careful : (editing tenantID).Along Careful ⟨(database, []), []⟩ events) :
    ∀ pool ∈ (editing tenantID).reached ⟨(database, []), []⟩ events, ∀ thread running,
      pool.threads[thread]? = some running → (Edits.reply pool thread).any EditReply.succeeded →
        ∃ newer loaded older, pool.shared.2 = newer ++ .wrote thread running.op loaded :: older ∧
          ∀ field value, running.op.sets loaded field = some value →
            Lasts tenantID pool thread newer field value := by
  intro pool member thread running found succeeded
  have initially : Settled (database.row tenantID) [] fun _ => .unread := by
    constructor
    · intro newer _ _ _ _ split
      cases newer <;> cases split
    · exact List.nodup_nil
    · intro _ _ _
      constructor <;> rintro ⟨⟩
    · rintro _ _ ⟨⟩
  obtain ⟨phaseOf, settled, ended, -⟩ := (editing tenantID).reached_of_threads
    (fun shared => Settled (shared.1.row tenantID) shared.2) (EditRequest.program_edits proper)
    (fun settled => settled.step) initially careful pool member
  obtain ⟨reply, answered, ok⟩ := (Option.any_eq_true _ _).mp succeeded
  obtain ⟨_, found', returned⟩ := Option.bind_eq_some_iff.mp answered
  obtain rfl := Option.some.inj (found.symm.trans found')
  obtain ⟨loaded, phase⟩ := EditRequest.Ends.written (ended _ _ _ found returned) ok
  have wrote := (settled.logged thread running.op loaded).mpr phase
  obtain ⟨newer, older, split⟩ := List.append_of_mem wrote
  obtain ⟨stored, present, values⟩ := settled.kept newer thread _ loaded older split
  refine ⟨newer, loaded, older, split, fun field value given => ?_⟩
  rcases values field value given with same | ⟨entry, entered, named⟩
  · exact .inl (by rw [present, Option.map_some, same])
  cases entry with
  | loaded reader row => cases named
  | wrote other request row =>
    refine .inr ⟨_, entered, named, other, rfl, ?_, ?_⟩
    · -- nobody writes twice
      rintro rfl
      have once := settled.writers
      rw [split, List.filterMap_append] at once
      have apart := (List.nodup_append.mp once).2.2
      exact apart other (List.mem_filterMap.mpr ⟨_, entered, rfl⟩) other
        (List.mem_filterMap.mpr ⟨_, List.mem_cons_self, rfl⟩) rfl
    · refine (Option.all_eq_true _ _).mpr fun reply answered => ?_
      obtain ⟨running, foundOther, returned⟩ := Option.bind_eq_some_iff.mp answered
      have ends := ended _ _ _ foundOther returned
      have whole : .wrote other request row ∈ pool.shared.2 := by
        rw [split]
        exact List.mem_append_left _ entered
      rw [(settled.logged other request row).mp whole] at ends
      exact ends.2

/-! ## Runs -/

/-- A namespace that may still use the legacy access mode. -/
def acme : Namespace :=
  { plainNamespace "acme" with settings := ⟨false, "", .legacy, true⟩ }

def acmeDatabase : Database := ⟨[acme], [], none⟩

/-- Some store calls of a thread, none of which fails. -/
def editCalls (count thread : Nat) : List (Event EditRequest (Option StoreError)) :=
  List.replicate count (.step thread none)

/-- A switch to the identity mode, and then two edits at the same time. The one that writes last
names every field that the other one names. -/
def switchThenRenames : List (Event EditRequest (Option StoreError)) :=
  [.start (.accessMode .identity)] ++ editCalls 4 0 ++
    [.start (.edit "One" none (some "hello")), .start (.edit "Two" (some true) (some "bye"))] ++
    editCalls 1 1 ++ editCalls 1 2 ++ editCalls 2 1 ++ editCalls 2 2

/-- In the run all three succeed, and the mode is still the one that the first has set. -/
theorem edits_not_overwritten_after_renames :
    (∃ pool ∈ (editing "acme").reached ⟨(acmeDatabase, []), []⟩ switchThenRenames,
      (∀ thread < 3, (Edits.reply pool thread).any EditReply.succeeded) ∧
        (pool.shared.1.row "acme").map NamespaceField.sshAccessMode.of = some .identity ∧
        (pool.shared.1.row "acme").map NamespaceField.name.of = some "two") ∧
      ∀ pool ∈ (editing "acme").reached ⟨(acmeDatabase, []), []⟩ switchThenRenames,
        ∀ thread running, pool.threads[thread]? = some running →
          (Edits.reply pool thread).any EditReply.succeeded →
            ∃ newer loaded older,
              pool.shared.2 = newer ++ .wrote thread running.op loaded :: older ∧
                ∀ field value, running.op.sets loaded field = some value →
                  Lasts "acme" pool thread newer field value :=
  ⟨by decide +kernel, edits_not_overwritten "acme" (by decide) acmeDatabase switchThenRenames
    (by decide +kernel)⟩

/-- The access mode is switched while an edit of the announcement is under way. -/
def switchDuringEdit : List (Event EditRequest (Option StoreError)) :=
  [.start (.edit "" none (some "hello")), .start (.accessMode .identity)] ++
    editCalls 1 0 ++ editCalls 4 1 ++ editCalls 2 0

/-- The switch to the identity mode has returned success, and the edit, which does not name the
mode, has written the legacy mode back. -/
theorem edit_undoes_switch :
    ∃ pool ∈ (editing "acme").reached ⟨(acmeDatabase, []), []⟩ switchDuringEdit,
      (Edits.reply pool 1).any EditReply.succeeded ∧
        pool.shared.2[2]? = some (.wrote 1 (.accessMode .identity) acme) ∧
        (pool.shared.1.row "acme").map NamespaceField.sshAccessMode.of = some .legacy ∧
        ¬ Lasts "acme" pool 1 (pool.shared.2.take 2) .sshAccessMode .identity := by
  decide +kernel

/-- A switch that fails because the policies cannot be listed has changed the mode all the same. -/
example :
    let run := [.start (.accessMode .legacy)] ++ editCalls 2 0 ++
      [.start (.accessMode .identity)] ++ editCalls 2 1 ++ [.step 1 (some .unavailable)]
    ∃ pool ∈ (editing "acme").reached ⟨(acmeDatabase, []), []⟩ run,
      (Edits.reply pool 0).any EditReply.succeeded ∧
        (Edits.reply pool 1).any (fun reply => !reply.succeeded) ∧
        (pool.shared.1.row "acme").map NamespaceField.sshAccessMode.of = some .identity := by
  decide +kernel

end ShellHub.Namespaces
