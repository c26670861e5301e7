import ShellHub.Retention

/-!
# Recordings that cannot be purged

A session whose recording the recording store refuses to purge keeps its row and its place at the
head of the list. A session is reached by the run exactly if fewer than a batch of them are before it:
a whole batch of them ends the run. Without a recording store nothing is refused.
-/

namespace ShellHub.Retention

open Tables Sessions Position

/-! ## A run on its own -/

/-- Two stores with the same sessions, in any order, of which the same are active. -/
structure Same (one other : SessionStore) : Prop where
  sessions : one.sessions.rows.Perm other.sessions.rows
  active : one.activeSessions = other.activeSessions

/-- Nobody else changes the sessions, and the recording store refuses a fixed set of them. -/
structure Surroundings.Quiet (around : Surroundings) (refused : List String) : Prop where
  others : ∀ number store, Same (around.others number store) store
  meanwhile : ∀ number store, Same (around.meanwhile number store) store
  refuses : ∀ number uids, ∃ purged, around.deleteRecordings number uids = .ok purged ∧
    ∀ uid ∈ uids, uid ∈ purged ↔ uid ∉ refused

/-- The expired sessions whose recordings are refused. -/
def Stuck (store : SessionStore) (cutoff : Int) (refused : List String) (session : Session) :
    Prop :=
  Expired store cutoff session ∧ session.recorded = true ∧ session.uid ∈ refused

instance (store : SessionStore) (cutoff : Int) (refused : List String) (session : Session) :
    Decidable (Stuck store cutoff refused session) :=
  inferInstanceAs (Decidable (_ ∧ _))

/-- The number of stuck sessions among some of the sessions. -/
def stuck (store : SessionStore) (cutoff : Int) (refused : List String) (among : Session → Bool) : Nat :=
  store.sessions.rows.countP fun session => Stuck store cutoff refused session && among session

/-- The sessions that may come before a session in a list. -/
def notAfter (session other : Session) : Bool := other.startedAt ≤ session.startedAt && other.uid ≠ session.uid

/-- The sessions that come before a session in every list. -/
def before (session other : Session) : Bool := other.startedAt < session.startedAt

section Stores

variable {one other : SessionStore} {cutoff : Int} {refused : List String} {session : Session}

theorem Same.expired (same : Same one other) :
    Expired one cutoff session ↔ Expired other cutoff session := by
  unfold Expired
  rw [same.active]

theorem Same.stuck (same : Same one other) (among : Session → Bool) :
    stuck one cutoff refused among = stuck other cutoff refused among := by
  have predicate : (fun session => decide (Stuck one cutoff refused session) && among session) =
      fun session => decide (Stuck other cutoff refused session) && among session := by
    funext session
    have isStuck : Stuck one cutoff refused session ↔ Stuck other cutoff refused session :=
      and_congr_left fun _ => same.expired
    rw [decide_eq_decide.mpr isStuck]
  unfold Retention.stuck
  rw [predicate]
  exact same.sessions.countP_eq _

/-- A session that is left after a deletion was there before and is expired if it was. -/
theorem left_after_delete (cutoff : Int) {deletable : List String}
    (left : session ∈ (sessionDeleteMany one deletable).sessions.rows) :
    session ∈ one.sessions.rows ∧ session.uid ∉ deletable ∧
      (Expired (sessionDeleteMany one deletable) cutoff session ↔ Expired one cutoff session) := by
  obtain ⟨stored, kept⟩ := List.mem_filter.mp left
  have notDeleted : session.uid ∉ deletable := by simpa using kept
  refine ⟨stored, notDeleted, ?_⟩
  unfold Expired
  change _ ∧ (one.activeSessions.erase _).find session.uid = none ↔ _
  rw [Table.find_erase]
  cases found : one.activeSessions.find session.uid with
  | none => rfl
  | some active =>
    have uid : active.uid = session.uid := (Table.find_eq_some.mp found).2
    simp [uid, notDeleted]

/-- A deletion does not make more sessions stuck. -/
theorem stuck_delete (one : SessionStore) (cutoff : Int) (refused deletable : List String)
    (among : Session → Bool) :
    stuck (sessionDeleteMany one deletable) cutoff refused among ≤ stuck one cutoff refused among := by
  calc
    _ ≤ (sessionDeleteMany one deletable).sessions.rows.countP
          (fun session => Stuck one cutoff refused session && among session) := by
      apply List.countP_mono_left
      intro session left test
      rw [Bool.and_eq_true, decide_eq_true_eq] at test ⊢
      exact ⟨⟨(left_after_delete cutoff left).2.2.mp test.1.1, test.1.2⟩, test.2⟩
    _ ≤ _ := List.filter_sublist.countP_le

/-- A deletion of sessions that are not stuck makes no fewer stuck. -/
theorem stuck_delete_others {deletable : List String} (others : ∀ uid ∈ deletable, ∀ session ∈ one.sessions.rows,
      session.uid = uid → ¬ Stuck one cutoff refused session) (among : Session → Bool) :
    stuck one cutoff refused among ≤ stuck (sessionDeleteMany one deletable) cutoff refused among := by
  calc
    _ ≤ (sessionDeleteMany one deletable).sessions.rows.countP
          (fun session => Stuck one cutoff refused session && among session) := by
      change _ ≤ (one.sessions.rows.filter _).countP _
      rw [List.countP_filter]
      apply List.countP_mono_left
      intro session stored test
      have isStuck := (Bool.and_eq_true_iff.mp test).1
      have kept : session.uid ∉ deletable := fun deleted =>
        others _ deleted session stored rfl (of_decide_eq_true isStuck)
      simpa [kept] using test
    _ ≤ _ := by
      apply List.countP_mono_left
      intro session left test
      rw [Bool.and_eq_true, decide_eq_true_eq] at test ⊢
      exact ⟨⟨(left_after_delete cutoff left).2.2.mpr test.1.1, test.1.2⟩, test.2⟩

end Stores

/-! ## A batch -/

section Batches

variable {here : Position} {refused : List String} {session : Session} {deletable : List String}

/-- A session is in the batch of the round. -/
def Position.InBatch (here : Position) (session : Session) : Prop :=
  session ∈ (oldest here.listing here.cutoff).take sessionCleanupBatchSize

/-- A short batch has every expired session. -/
theorem inBatch_of_short (short : here.batch.length < sessionCleanupBatchSize)
    (stored : session ∈ here.listing.sessions.rows)
    (expired : Expired here.listing here.cutoff session) : here.InBatch session := by
  rw [batch, sessionListExpired, List.length_map, List.length_take] at short
  unfold InBatch
  rw [List.take_of_length_le (by omega)]
  exact mem_oldest.mpr ⟨stored, expired⟩

/-- What the recording store has reported is what it has answered about the recorded sessions. -/
theorem report_eq_some {answers : Option (List String → Except String (List String))}
    {sessions : List ExpiredSession} {purged : List String}
    (reported : report answers sessions = some purged) :
    ∃ deleteRecordings, answers = some deleteRecordings ∧
      deleteRecordings ((sessions.filter (·.recorded)).map (·.uid)) = .ok purged := by
  unfold report at reported
  cases answers with
  | none => cases reported
  | some deleteRecordings =>
    refine ⟨deleteRecordings, rfl, ?_⟩
    dsimp only at reported
    split at reported
    · cases reported
    · generalize deleteRecordings _ = answer at reported ⊢
      cases answer with
      | error error => cases reported
      | ok uids =>
        cases reported
        rfl

/-- The recordings of the batch that are reported as purged are those that are not refused. -/
theorem purged_iff (quiet : here.around.Quiet refused) {purged : List String}
    (reported : report here.answers here.batch = some purged) {expired : ExpiredSession}
    (listed : expired ∈ here.batch) (recorded : expired.recorded = true) :
    expired.uid ∈ purged ↔ expired.uid ∉ refused := by
  obtain ⟨deleteRecordings, configured, answer⟩ := report_eq_some reported
  obtain ⟨uids, answered, refuses⟩ := quiet.refuses here.number
    ((here.batch.filter (·.recorded)).map (·.uid))
  unfold answers at configured
  split at configured
  · cases configured
    cases answered.symm.trans answer
    exact refuses _ (List.mem_map.mpr ⟨expired, List.mem_filter.mpr ⟨listed, recorded⟩, rfl⟩)
  · cases configured

/-- A session of the batch that may not be deleted is one whose recording was refused. -/
theorem refused_of_kept (quiet : here.around.Quiet refused) (pruned : here.MayDelete deletable)
    (inBatch : here.InBatch session) (kept : session.uid ∉ deletable)
    (before after : SessionStore) :
    session.recorded = true ∧ session.uid ∈ refused ∧
      (here.record before after).Refused session.uid := by
  have listed : ⟨session.uid, session.recorded⟩ ∈ here.batch := List.mem_map_of_mem inBatch
  have notPurged : ¬ (session.recorded = true →
      ∀ purged ∈ report here.answers here.batch, session.uid ∈ purged) :=
    fun purged => kept ((mem_deletable pruned).mpr ⟨_, listed, rfl, purged⟩)
  simp only [not_forall] at notPurged
  obtain ⟨recorded, purged, reported, missing⟩ := notPurged
  have isRefused := mt (purged_iff quiet reported listed recorded).mpr missing
  exact ⟨recorded, not_not.mp isRefused, _, listed, rfl, recorded, purged, reported, missing⟩

/-- A session outside of the batch has another identifier than those in it. -/
theorem uid_ne_of_outside (outside : ¬ here.InBatch session)
    (stored : session ∈ here.listing.sessions.rows) {other : Session}
    (inBatch : here.InBatch other) : other.uid ≠ session.uid := by
  intro same
  have otherStored := (mem_oldest.mp (List.mem_of_mem_take inBatch)).1
  exact outside (List.inj_on_of_nodup_map here.listing.sessions.distinct otherStored stored same ▸
    inBatch)

theorem oldest_sorted (store : SessionStore) (cutoff : Int) :
    (oldest store cutoff).Pairwise (·.startedAt ≤ ·.startedAt) :=
  List.pairwise_insertionSort _ _

/-- The stuck sessions are all in the list. -/
theorem countP_oldest (store : SessionStore) (cutoff : Int) (refused : List String)
    (among : Session → Bool) :
    (oldest store cutoff).countP (fun session => Stuck store cutoff refused session && among session) =
      stuck store cutoff refused among := by
  rw [oldest, (List.perm_insertionSort _ _).countP_eq, List.countP_filter, stuck]
  refine List.countP_congr fun session _ => ?_
  simp only [Bool.and_eq_true]
  exact and_iff_left_of_imp fun test => decide_eq_true (of_decide_eq_true test.1).1

/-- A batch that may not be deleted has every expired session that fewer than a thousand stuck ones may
come before. Otherwise the batch is full of stuck sessions, none of them after it. -/
theorem inBatch_of_blocked (quiet : here.around.Quiet refused) (pruned : here.MayDelete [])
    (stored : session ∈ here.listing.sessions.rows) (expired : Expired here.listing here.cutoff session)
    (few : here.pruner = true → stuck here.listing here.cutoff refused (notAfter session) < 1000) :
    here.InBatch session := by
  by_contra outside
  have refusedAll : ∀ other, here.InBatch other → other.recorded = true ∧
      other.uid ∈ refused ∧ (here.record here.store here.store).Refused other.uid :=
    fun other inBatch => refused_of_kept quiet pruned inBatch List.not_mem_nil _ _
  have apart : ∀ other, here.InBatch other → other.uid ≠ session.uid :=
    fun other => uid_ne_of_outside outside stored
  unfold InBatch at outside refusedAll apart
  generalize whole : oldest here.listing here.cutoff = sorted at outside refusedAll apart
  have listed : session ∈ sorted := whole ▸ mem_oldest.mpr ⟨stored, expired⟩
  rw [← List.take_append_drop sessionCleanupBatchSize sorted] at listed
  have later := (List.mem_append.mp listed).resolve_left outside
  have full : (sorted.take sessionCleanupBatchSize).length = sessionCleanupBatchSize := by
    have positive := List.length_pos_of_mem later
    rw [List.length_drop] at positive
    rw [List.length_take]
    omega
  have counted : ∀ other ∈ sorted.take sessionCleanupBatchSize,
      (decide (Stuck here.listing here.cutoff refused other) && notAfter session other) = true := by
    intro other inBatch
    obtain ⟨recorded, isRefused, -⟩ := refusedAll other inBatch
    have member := List.mem_of_mem_take inBatch
    rw [← whole] at member
    have otherExpired := (mem_oldest.mp member).2
    have order := oldest_sorted here.listing here.cutoff
    rw [whole, ← List.take_append_drop sessionCleanupBatchSize sorted] at order
    have older := (List.pairwise_append.mp order).2.2 other inBatch session later
    simp [Stuck, otherExpired, recorded, isRefused, notAfter, older, apart other inBatch]
  have many : 1000 ≤ stuck here.listing here.cutoff refused (notAfter session) := by
    calc
      1000 = (sorted.take sessionCleanupBatchSize).countP _ :=
        (List.countP_eq_length.mpr counted |>.trans full).symm
      _ ≤ sorted.countP _ := (List.take_sublist _ _).countP_le
      _ = _ := whole ▸ countP_oldest _ _ _ _
  by_cases configured : here.pruner = true
  · exact absurd (few configured) (by omega)
  · -- without a recording store nothing is refused
    obtain ⟨other, inBatch⟩ := List.exists_mem_of_length_pos (full.trans_gt (Nat.succ_pos 999))
    obtain ⟨-, -, _, -, -, -, purged, reported, -⟩ := refusedAll other inBatch
    rw [record, answers, if_neg configured] at reported
    cases reported

/-- A session that a thousand stuck ones come before is in no batch. -/
theorem not_inBatch (many : 1000 ≤ stuck here.listing here.cutoff refused (before session)) :
    ¬ here.InBatch session := by
  intro inBatch
  obtain ⟨front, back, split⟩ := List.append_of_mem inBatch
  have order := oldest_sorted here.listing here.cutoff
  have counted := countP_oldest here.listing here.cutoff refused (before session)
  have short := congrArg List.length split
  rw [← List.take_append_drop sessionCleanupBatchSize (oldest _ _), split, List.append_assoc] at order counted
  -- what is strictly older than the session stands in front of it
  have behind : (session :: back ++ (oldest here.listing here.cutoff).drop
      sessionCleanupBatchSize).countP (fun other =>
        Stuck here.listing here.cutoff refused other && before session other) = 0 := by
    refine List.countP_eq_zero.mpr fun other member test => ?_
    have younger : session.startedAt ≤ other.startedAt := by
      rcases List.mem_cons.mp member with rfl | later
      · exact Nat.le_refl _
      · exact List.rel_of_pairwise_cons (List.pairwise_append.mp order).2.1 later
    have older := of_decide_eq_true (Bool.and_eq_true_iff.mp test).2
    omega
  rw [List.countP_append, behind] at counted
  have bounded := List.countP_le_length (p := fun other =>
    decide (Stuck here.listing here.cutoff refused other) && before session other) (l := front)
  rw [List.length_take, List.length_append, List.length_cons] at short
  have : sessionCleanupBatchSize = 1000 := rfl
  omega

/-- What may be deleted of a batch is not stuck, if there is a recording store. -/
theorem not_stuck_of_deletable (quiet : here.around.Quiet refused) (configured : here.pruner = true)
    (pruned : here.MayDelete deletable) {uid : String} (deletes : uid ∈ deletable) :
    ∃ other, here.InBatch other ∧ other.uid = uid ∧
      ¬ Stuck here.listing here.cutoff refused other := by
  obtain ⟨listed, member, rfl, purged⟩ := (mem_deletable pruned).mp deletes
  obtain ⟨other, inBatch, rfl⟩ := List.mem_map.mp member
  refine ⟨other, inBatch, rfl, fun ⟨_, recorded, isRefused⟩ => ?_⟩
  obtain ⟨uids, reported⟩ := report_recorded pruned (by rw [answers, if_pos configured]; rfl) member
    recorded
  exact (purged_iff quiet reported member recorded).mp (purged recorded _ reported) isRefused

end Batches

/-! ## The whole run -/

/-- Every expired session that is left was refused in the run. -/
def LeftRefused (cutoff : Int) (refused : List String) (run : Run) : Prop :=
  ∀ session ∈ run.store.sessions.rows, Expired run.store cutoff session →
    session.recorded = true ∧ session.uid ∈ refused ∧ ∃ round ∈ run.rounds, round.Refused session.uid

/-- Fewer than a batch of stuck sessions are among those of each expired session. -/
def Reached (store : SessionStore) (cutoff : Int) (refused : List String)
    (among : Session → Session → Bool) : Prop :=
  ∀ session ∈ store.sessions.rows, Expired store cutoff session →
    stuck store cutoff refused (among session) < 1000

instance (store : SessionStore) (cutoff : Int) (refused : List String)
    (among : Session → Session → Bool) : Decidable (Reached store cutoff refused among) :=
  inferInstanceAs (Decidable (∀ session ∈ store.sessions.rows, _ → _))

section Loops

variable {refused : List String}

theorem Reached.of_same {one other : SessionStore} {cutoff : Int} {among : Session → Session → Bool}
    (reached : Reached other cutoff refused among) (same : Same one other) : Reached one cutoff refused among := by
  intro session stored expired
  rw [same.stuck]
  exact reached session (same.sessions.mem_iff.mp stored) (same.expired.mp expired)

/-- An expired session that is left after the run was refused in it: a run ends with a short batch or one
that may not be deleted, and such a batch has all of them. -/
theorem loop_leftover (here : Position) (quiet : here.around.Quiet refused) (batches : Nat)
    (few : here.pruner = true → Reached here.store here.cutoff refused notAfter) :
    (here.loop batches).ending = .finished ∨ (here.loop batches).ending = .blocked →
    LeftRefused here.cutoff refused (here.loop batches) := by
  induction batches generalizing here with
  | zero => rintro (⟨⟨⟩⟩ | ⟨⟨⟩⟩)
  | succ batches ih =>
    have listed : Same here.listing here.store := quiet.others _ _
    have same : Same here.opened here.listing := quiet.meanwhile _ _
    have turn := here.loop_turn batches
    generalize here.loop (batches + 1) = run at turn ⊢
    cases turn with
    | ended ending drained notBlocked =>
      rintro (finished | blocked) session stored expired
      · have empty := drained finished
        have member : ⟨session.uid, session.recorded⟩ ∈ here.batch :=
          List.mem_map_of_mem (inBatch_of_short (by rw [empty]; decide) stored expired)
        rw [empty] at member
        cases member
      · exact absurd blocked notBlocked
    | blocked pruned =>
      intro _ session stored expired
      have inBatch := inBatch_of_blocked quiet pruned stored expired fun configured =>
        (few configured).of_same listed session stored expired
      obtain ⟨recorded, isRefused, round⟩ := refused_of_kept quiet pruned inBatch List.not_mem_nil _ _
      exact ⟨recorded, isRefused, _, List.mem_singleton_self _, round⟩
    | failed error => rintro (⟨⟨⟩⟩ | ⟨⟨⟩⟩)
    | last deletable ending pruned short notBlocked =>
      rintro (finished | blocked) session left expired
      · obtain ⟨stored, kept, still⟩ := left_after_delete here.cutoff left
        have inBatch : here.InBatch session := inBatch_of_short (short finished)
          (same.sessions.mem_iff.mp stored) (same.expired.mp (still.mp expired))
        obtain ⟨recorded, isRefused, round⟩ := refused_of_kept quiet pruned inBatch kept _ _
        exact ⟨recorded, isRefused, _, List.mem_singleton_self _, round⟩
      · exact absurd blocked notBlocked
    | more deletable pruned =>
      have fewer (configured : here.pruner = true) :
          Reached (here.deleted deletable) here.cutoff refused notAfter := by
        intro session left expired
        obtain ⟨stored, -, still⟩ := left_after_delete here.cutoff left
        exact (stuck_delete _ _ _ _ _).trans_lt
          (((few configured).of_same listed).of_same same session stored (still.mp expired))
      intro ends session left expired
      obtain ⟨recorded, isRefused, round, member, asked⟩ :=
        ih (here.next deletable) quiet fewer ends session left expired
      exact ⟨recorded, isRefused, round, List.mem_cons_of_mem _ member, asked⟩

/-- A session that a thousand stuck ones come before stays, and no round asks about it. -/
theorem loop_unreached (here : Position) (quiet : here.around.Quiet refused)
    (configured : here.pruner = true) (batches : Nat) {session : Session}
    (stored : session ∈ here.store.sessions.rows) (expired : Expired here.store here.cutoff session)
    (many : 1000 ≤ stuck here.store here.cutoff refused (before session)) :
    session ∈ (here.loop batches).store.sessions.rows ∧
      Expired (here.loop batches).store here.cutoff session ∧
      ∀ round ∈ (here.loop batches).rounds, ¬ round.Refused session.uid := by
  induction batches generalizing here with
  | zero => exact ⟨stored, expired, by rintro _ ⟨⟩⟩
  | succ batches ih =>
    have listed : Same here.listing here.store := quiet.others _ _
    have same : Same here.opened here.listing := quiet.meanwhile _ _
    have inList := listed.sessions.mem_iff.mpr stored
    have inOpened := same.sessions.mem_iff.mpr inList
    have listExpired := listed.expired.mpr expired
    have openExpired := same.expired.mpr listExpired
    rw [← listed.stuck] at many
    have apart : ∀ other, here.InBatch other → other.uid ≠ session.uid :=
      fun other => uid_ne_of_outside (not_inBatch many) inList
    have notRefused (before after : SessionStore) : ¬ (here.record before after).Refused session.uid := by
      rintro ⟨_, member, alike, -⟩
      obtain ⟨other, inBatch, rfl⟩ := List.mem_map.mp member
      exact apart other inBatch alike
    have single (before after : SessionStore) :
        ∀ round ∈ [here.record before after], ¬ round.Refused session.uid := by
      simpa using notRefused before after
    have deletes {deletable : List String} (pruned : here.MayDelete deletable) :
        session ∈ (here.deleted deletable).sessions.rows ∧
          Expired (here.deleted deletable) here.cutoff session := by
      have kept : session.uid ∉ deletable := by
        intro deletes
        obtain ⟨other, inBatch, alike, -⟩ := not_stuck_of_deletable quiet configured pruned deletes
        exact apart other inBatch alike
      have left : session ∈ (here.deleted deletable).sessions.rows :=
        List.mem_filter.mpr ⟨inOpened, by simpa using kept⟩
      exact ⟨left, (left_after_delete here.cutoff left).2.2.mpr openExpired⟩
    have turn := here.loop_turn batches
    generalize here.loop (batches + 1) = run at turn ⊢
    cases turn with
    | ended ending drained notBlocked => exact ⟨inList, listExpired, by rintro _ ⟨⟩⟩
    | blocked pruned => exact ⟨inList, listExpired, single _ _⟩
    | failed error => exact ⟨inOpened, openExpired, single _ _⟩
    | last deletable ending pruned short notBlocked =>
      exact ⟨(deletes pruned).1, (deletes pruned).2, single _ _⟩
    | more deletable pruned =>
      have others : ∀ uid ∈ deletable, ∀ other ∈ here.opened.sessions.rows,
          other.uid = uid → ¬ Stuck here.opened here.cutoff refused other := by
        rintro _ deletes other otherStored rfl isStuck
        obtain ⟨found, inBatch, alike, free⟩ := not_stuck_of_deletable quiet configured pruned deletes
        have foundStored := (mem_oldest.mp (List.mem_of_mem_take inBatch)).1
        have equal := List.inj_on_of_nodup_map here.listing.sessions.distinct
          foundStored (same.sessions.mem_iff.mp otherStored) alike
        exact free ⟨same.expired.mp (equal ▸ isStuck.1), equal ▸ isStuck.2⟩
      rw [← same.stuck] at many
      obtain ⟨left, stillExpired, unasked⟩ := ih (here.next deletable) quiet configured
        (deletes pruned).1 (deletes pruned).2 (many.trans (stuck_delete_others others _))
      refine ⟨left, stillExpired, fun round member => ?_⟩
      rcases List.mem_cons.mp member with rfl | later
      · exact notRefused _ _
      · exact unasked round later

end Loops

/-- A stuck recording stops retention for the sessions that a thousand of them come before, and for no
others. If nobody else changes the sessions and the recording store refuses a fixed set of recordings,
then after a run without an error, a cancelled context or the cap, every session that has expired and is
still stored is one whose recording was refused in that run, as long as there is no recording store or
fewer than a thousand stuck sessions may come before any expired one; and where no two sessions started
at the same time, only then. A batch that may not be deleted is full of stuck sessions, so it has every
such session; and a session behind a thousand of them is in no batch. -/
theorem stuck_recordings_stop_nobody (around : Surroundings) (refused : List String)
    (quiet : around.Quiet refused) (pruner : Bool) (now retention : Int) (positive : 0 < retention)
    (store : SessionStore)
    (ends : (sessionCleanup around pruner now retention store).ending = .finished ∨
      (sessionCleanup around pruner now retention store).ending = .blocked) :
    ((pruner = true → Reached store (now - retention) refused notAfter) →
      LeftRefused (now - retention) refused (sessionCleanup around pruner now retention store)) ∧
    ((∀ one ∈ store.sessions.rows, ∀ other ∈ store.sessions.rows,
        one.startedAt = other.startedAt → one = other) →
      (LeftRefused (now - retention) refused (sessionCleanup around pruner now retention store) ↔
        (pruner = true → Reached store (now - retention) refused before))) := by
  unfold sessionCleanup at ends ⊢
  rw [if_neg (by omega)] at ends ⊢
  let start : Position := ⟨around, pruner, now - retention, 0, store⟩
  have enough := fun reached => loop_leftover start quiet sessionCleanupMaxBatches reached ends
  refine ⟨enough, fun distinct => ⟨?_, fun reached => enough fun configured session stored expired => ?_⟩⟩
  · rintro left rfl session stored expired
    by_contra many
    obtain ⟨kept, still, unasked⟩ := loop_unreached start quiet rfl sessionCleanupMaxBatches stored
      expired (not_lt.mp many)
    obtain ⟨-, -, round, member, asked⟩ := left session kept still
    exact unasked round member asked
  · -- without equal times, what may come before a session does come before it
    refine lt_of_le_of_lt (List.countP_mono_left fun other member test => ?_)
      (reached configured session stored expired)
    simp only [Bool.and_eq_true, notAfter, decide_eq_true_eq, before] at test ⊢
    refine ⟨test.1, lt_of_le_of_ne test.2.1 fun same => ?_⟩
    rw [distinct other member session stored same] at test
    simp at test

theorem stuck_recording_stops_nobody :
    (sessionCleanup (refusing ["recorded"]) true 100 50 fourSessions).store.sessions.rows.map
      (·.uid) = ["active", "recorded", "recent"] ∧
    LeftRefused 50 ["recorded"] (sessionCleanup (refusing ["recorded"]) true 100 50 fourSessions) := by
  have quiet : (refusing ["recorded"]).Quiet ["recorded"] := by
    refine ⟨fun _ _ => ⟨.refl _, rfl⟩, fun _ _ => ⟨.refl _, rfl⟩, fun number uids => ⟨_, rfl, ?_⟩⟩
    intro uid member
    rw [List.mem_filter, decide_eq_true_iff]
    exact and_iff_right member
  exact ⟨by decide +kernel, (stuck_recordings_stop_nobody _ _ quiet true 100 50 (by decide)
    fourSessions (.inl (by decide +kernel))).1 fun _ => by decide +kernel⟩

/-- Nothing else happens, and the recording store purges nothing. -/
def purgingNothing : Surroundings :=
  { refusing [] with deleteRecordings := fun _ _ => .ok [] }

/-- A thousand recorded sessions, and one that is not recorded and started after them. The run ends with
the first batch, and the session that is not recorded is still there. -/
theorem stuck_recordings_stop_retention :
    (sessionCleanup purgingNothing true 5000 1000 (thousandAndOne (· < 1000))).ending = .blocked ∧
    ∃ session ∈ (sessionCleanup purgingNothing true 5000 1000 (thousandAndOne (· < 1000))).store.sessions.rows,
      session.recorded = false ∧
      Expired (sessionCleanup purgingNothing true 5000 1000 (thousandAndOne (· < 1000))).store (5000 - 1000)
        session := by
  decide +kernel

end ShellHub.Retention
