import LeaseQueue.Proofs.Sql.Tables
import LeaseQueue.Proofs.Sql.Transaction

/-!
# Calls to the tables of a store

The tables of a store are read back as that store (`Tables.read_ofStore`), and each call to a
database that holds them answers as the same call to the store does, and leaves the tables of the
store that the latter leaves: `Tables.enqueue_holding`, `Tables.claim_holding`,
`Tables.move_holding`, `Tables.getJob_holding` and `Tables.statsOn_holding`.
-/

namespace LeaseQueue

namespace Sql

/-! ### Stores that a database can hold -/

/-- What a database relies on to hold a store: the store was made by its operations, and the numbers
that producers chose fit. -/
structure Holdable (s : Store) : Prop where
  coherent : s.Coherent
  storable : ∀ j ∈ s.jobs, Storable j.maxAttempts j.timeoutSeconds
  ledger : s.ledger.Coherent

/-- The operations that are covered here: putting in a job whose numbers fit, and all others but the
selection by a condition. -/
def Covered : Operation → Prop
  | .enqueue _ submission => Storable submission.maxAttempts submission.timeoutSeconds
  | .select _ => False
  | _ => True

namespace Holdable

variable {s : Store}

/-- A store in use can be held when the numbers in it fit. -/
lemma of_reachable (hs : s.Reachable)
    (hstorable : ∀ j ∈ s.jobs, Storable j.maxAttempts j.timeoutSeconds) : Holdable s where
  coherent := .of_reachable hs
  storable := hstorable
  ledger := Store.ledger_of_reachable hs

/-- The numbers of all jobs fit. -/
lemma fits (hs : Holdable s) {j : Job} (hj : j ∈ s.jobs) : Fits j :=
  .of_wellFormed (hs.coherent.wellFormed j hj) (hs.storable j hj)

/-- A change of a job that leaves alone what its producer chose does so in all jobs. -/
lemma storable_update (hs : Holdable s) (id : Ident) {f : Job → Job}
    (hmax : ∀ j, (f j).maxAttempts = j.maxAttempts)
    (htimeout : ∀ j, (f j).timeoutSeconds = j.timeoutSeconds) :
    ∀ j ∈ (s.update id f).jobs, Storable j.maxAttempts j.timeoutSeconds := by
  intro j hj
  obtain ⟨k, hk, rfl⟩ := List.mem_map.1 hj
  split
  · rw [hmax, htimeout]
    exact hs.storable k hk
  · exact hs.storable k hk

/-- A store stays one that a database can hold. -/
lemma step (hs : Holdable s) (now : Instant) {op : Operation} (hop : Covered op) :
    Holdable (s.step now op).2 where
  coherent := hs.coherent.step now op
  storable := by
    have houtcome := Store.step_outcome s now op
    generalize (s.step now op).1 = reply, (s.step now op).2 = t at houtcome
    cases houtcome with
    | enqueued =>
      intro j hj
      rcases List.mem_append.1 hj with hold | hadded
      · exact hs.storable j hold
      · rw [List.mem_singleton.1 hadded]
        exact hop
    | claimed => exact hs.storable_update _ (fun _ => rfl) fun _ => rfl
    | @moved id m job =>
      rw [Store.settle_jobs]
      refine hs.storable_update id (fun j => ?_) fun j => ?_
      · cases m <;> rfl
      · cases m <;> rfl
    | kept => exact hs.storable
  ledger := Store.ledger_step hs.ledger now op

/-- A submission leaves such a store when its numbers fit. -/
lemma enqueue (hs : Holdable s) (now : Instant) (fresh : Ident) {submission : Submission}
    (hsubmission : Storable submission.maxAttempts submission.timeoutSeconds) :
    Holdable (s.enqueue now fresh submission).2 := by
  have hcovered : Covered (.enqueue fresh submission) := hsubmission
  rw [← Store.step_enqueue_snd]
  exact hs.step now hcovered

/-- A move leaves such a store. -/
lemma move (hs : Holdable s) (now : Instant) (id : Ident) (m : Move) :
    Holdable (s.move now id m).2 := by
  have hcovered : Covered (.move id m) := trivial
  rw [← Store.step_move_snd]
  exact hs.step now hcovered

/-- Any job that is up for a claim can be handed out. -/
lemma hand (hs : Holdable s) {queues : List String} {now : Instant} {job : Job}
    (hjob : job ∈ s.eligible queues now) (worker : String) (lease : Span) :
    Holdable (s.hand now worker lease job.id) where
  coherent := hs.coherent.hand hjob worker lease
  storable := hs.storable_update job.id (fun _ => rfl) fun _ => rfl
  ledger := hs.ledger

end Holdable

/-! ### Reading tables back -/

namespace Tables

/-- The job in a row. -/
def readJob (r : Row) : Except StoreError Job := do
  let row ← (JobRow.ofRow r).mapError DbError.storeError
  row.toJob

/-- The record in a row. -/
def readStats (r : Row) : Except StoreError Stats := (statsOfRow r).mapError DbError.storeError

/-- The store that tables hold. -/
def read (t : Tables) : Except StoreError Store := do
  let jobs ← t.jobs.mapM readJob
  let ledger ← t.stats.mapM readStats
  return ⟨jobs, ledger⟩

/-- What is read back from each value is read back from a list of them. -/
lemma mapM_map_of_forall {α : Type} {f : α → Row} {g : Row → Except StoreError α} {l : List α}
    (h : ∀ a ∈ l, g (f a) = .ok a) : (l.map f).mapM g = .ok l := by
  induction l with
  | nil => rfl
  | cons a rest ih =>
    obtain ⟨ha, hrest⟩ := List.forall_mem_cons.1 h
    rw [List.map_cons, List.mapM_cons, ha, ok_bind, ih hrest]
    rfl

/-- The tables of a store are read back as the store. -/
lemma read_ofStore {s : Store} (hs : Holdable s) : (ofStore s).read = .ok s := by
  have hjobs : (s.jobs.map rowOf).mapM readJob = .ok s.jobs := by
    refine mapM_map_of_forall fun j hj => ?_
    have hrow : JobRow.ofRow (rowOf j) = .ok (JobRow.ofJob j) := JobRow.ofRow_toRow _
    rw [readJob, hrow]
    exact JobRow.toJob_ofJob (hs.fits hj)
  have hledger : (s.ledger.map statsRow).mapM readStats = .ok s.ledger := by
    refine mapM_map_of_forall fun r hr => ?_
    rw [readStats, statsOfRow_statsRow (hs.ledger.averaged r hr)]
    rfl
  show (do
    let jobs ← (s.jobs.map rowOf).mapM readJob
    let ledger ← (s.ledger.map statsRow).mapM readStats
    return ⟨jobs, ledger⟩ : Except StoreError Store) = .ok s
  rw [hjobs, hledger]
  rfl

end Tables

/-! ### Moves -/

namespace LockedRow

/-- What a move looks at in the row of a job. -/
def ofJob (j : Job) : LockedRow :=
  ⟨j.status, j.queue, Cell.signed j.attempts, Cell.signed j.maxAttempts, j.startedAt⟩

/-- A move applies to the row of a job when it applies to the job. -/
lemma allows_ofJob {j : Job} (hj : Fits j) (m : Move) : (ofJob j).allows m = m.allowed j := by
  cases m with
  | complete _ => rfl
  | fail _ | cancel =>
    show (decide (j.status = .pending) || decide (j.status = .processing)) = !j.status.isTerminal
    cases j.status <;> rfl
  | retry _ =>
    have hlt : Cell.signed j.attempts < Cell.signed j.maxAttempts ↔ j.attempts < j.maxAttempts := by
      rw [Int32.lt_iff_toInt_lt, Cell.toInt_signed hj.attempts_le,
        Cell.toInt_signed hj.chosen.maxAttempts_le, UInt32.lt_iff_toNat_lt]
      omega
    unfold allows ofJob Move.allowed
    rw [decide_eq_decide.2 hlt]

/-- A move of the row of a job counts as it does for the job. -/
lemma delta?_ofJob (j : Job) (m : Move) (now : Instant) :
    (ofJob j).delta? m now = m.delta? now j := by
  cases m <;> rfl

end LockedRow

/-! ### Calls -/

namespace Tables

/-- The database that holds a store, no transaction being open. -/
def holding (s : Store) : Live := ⟨ofStore s, none⟩

variable {choose : List Row → Option Row} {s : Store}

/-- What a statement does to the tables it does to the database. -/
lemma databaseBy_execute {statement : Statement} {t : Tables}
    {r : Except DbError (List Row) × Tables} (h : t.executeBy choose statement = r)
    (before : Option Tables) :
    databaseBy choose (.execute statement) ⟨t, before⟩ = (r.1, ⟨r.2, before⟩) := by
  rw [← h]
  rfl

section Transaction

variable {α : Type} {body : Action Live StoreError (Database.Resolution α)} {t t' : Tables}

/-- A transaction that opens keeps the tables for the case that it is rolled back. -/
lemma databaseBy_begin (t : Tables) (before : Option Tables) :
    databaseBy choose .begin ⟨t, before⟩ = (.ok [], ⟨t, some t⟩) := rfl

/-- What is committed is in the tables. -/
lemma transaction_commit {a : α} {before : Option Tables}
    (hbody : body ⟨t, some t⟩ = (.ok (.commit a), ⟨t', before⟩)) :
    (databaseBy choose).transaction body ⟨t, none⟩ = (.ok a, ⟨t', none⟩) := by
  have hcommit : databaseBy choose .commit ⟨t', before⟩ = (.ok [], ⟨t', none⟩) := rfl
  exact Database.transaction_of_commit (databaseBy_begin t none) hbody hcommit

/-- What is given up leaves no trace. -/
lemma transaction_abandon {a : α} (hbody : body ⟨t, some t⟩ = (.ok (.abandon a), ⟨t', some t⟩)) :
    (databaseBy choose).transaction body ⟨t, none⟩ = (.ok a, ⟨t, none⟩) :=
  Database.transaction_of_abandon (databaseBy_begin t none) hbody

/-- What fails leaves no trace. -/
lemma transaction_error {e : StoreError} (hbody : body ⟨t, some t⟩ = (.error e, ⟨t', some t⟩)) :
    (databaseBy choose).transaction body ⟨t, none⟩ = (.error e, ⟨t, none⟩) :=
  Database.transaction_of_error (databaseBy_begin t none) hbody

end Transaction

/-- A job whose row comes first is what a statement for a job gives. -/
lemma fetch_rowOf {δ : Type} {db : Database δ} {c c' : δ} {statement : Statement} {rows : List Row}
    (hexecute : db (.execute statement) c = (.ok rows, c')) {found : Option Job}
    (hrows : rows.head? = found.map rowOf) (hfits : ∀ j, found = some j → Fits j) :
    (db.fetch? statement JobRow.ofRow >>= fun
      | none => pure none
      | some row => Database.given row.toJob >>= fun job => pure (some job) :
      Action δ StoreError (Option Job)) c = (.ok found, c') := by
  cases found with
  | none =>
    rw [Action.bind_of_ok (Database.fetch?_of_none hexecute hrows)]
    rfl
  | some j =>
    have hrow : JobRow.ofRow (rowOf j) = .ok (JobRow.ofJob j) := JobRow.ofRow_toRow _
    have hgiven : (Database.given (JobRow.ofJob j).toJob : Action δ StoreError Job) c' =
        (.ok j, c') := by
      rw [JobRow.toJob_ofJob (hfits j rfl)]
      rfl
    rw [Action.bind_of_ok (Database.fetch?_of_some hexecute hrows hrow)]
    show (Database.given (JobRow.ofJob j).toJob >>= fun job => pure (some job) :
      Action δ StoreError (Option Job)) c' = _
    rw [Action.bind_of_ok hgiven]
    rfl

/-- The job of an identifier is found in the tables. -/
lemma getJob_holding (hs : Holdable s) (id : Ident) :
    (databaseBy choose).getJob id (holding s) = (.ok (s.find? id), holding s) := by
  have hexecute : databaseBy choose (.execute (.selectJob id)) (holding s) =
      (.ok (((ofStore s).jobs.filter (isNamed [.ident id])).map fun r => r.project jobColumns),
        holding s) := rfl
  have hrows : (((ofStore s).jobs.filter (isNamed [.ident id])).map fun r =>
      r.project jobColumns).head? = (s.find? id).map rowOf := by
    rw [List.head?_map, head?_filter_isNamed, Option.map_map]
    exact Option.map_congr fun j _ => JobRow.project_toRow (JobRow.ofJob j)
  exact fetch_rowOf hexecute hrows fun j hj => hs.fits (Store.mem_of_find? hj)

/-- The statistics of a queue and a day are found in the tables. -/
lemma statsOn_holding (hs : Holdable s) (queue : String) (date : Date) :
    (databaseBy choose).statsOn queue date (holding s) =
      (.ok (s.statsOn queue date), holding s) := by
  have hexecute : databaseBy choose (.execute (.selectStats queue date)) (holding s) =
      (.ok (((ofStore s).stats.filter (isCounted [.text queue, .date date])).map fun r =>
        r.project statsColumns), holding s) := rfl
  have hrows : (((ofStore s).stats.filter (isCounted [.text queue, .date date])).map fun r =>
      r.project statsColumns).head? = (s.ledger.find? queue date).map statsRow := by
    rw [List.head?_map, head?_filter_isCounted, Option.map_map]
    exact Option.map_congr fun r _ => project_statsRow r
  have hon : s.statsOn queue date = (s.ledger.find? queue date).getD (Stats.empty queue date) := rfl
  unfold Database.statsOn
  rw [hon]
  cases hfound : s.ledger.find? queue date with
  | none =>
    rw [hfound] at hrows
    rw [Action.bind_of_ok (Database.fetch?_of_none hexecute hrows)]
    rfl
  | some r =>
    have haveraged := hs.ledger.averaged r (List.mem_of_find?_eq_some hfound)
    rw [hfound] at hrows
    rw [Action.bind_of_ok
      (Database.fetch?_of_some hexecute hrows (statsOfRow_statsRow haveraged))]
    rfl

/-- A claim hands out the job whose row is chosen. -/
lemma claim_holding (hs : Holdable s) (now : Instant) (worker : String) (queues : List String)
    (lease : Span) {chosen : Option Job}
    (hchosen : choose ((s.eligible queues now).map rowOf) = chosen.map rowOf)
    (hmem : ∀ job, chosen = some job → job ∈ s.eligible queues now) :
    (databaseBy choose).claim now worker queues lease (holding s) =
      (.ok (chosen.map fun job => job.leased worker lease now),
        holding (chosen.elim s fun job => s.hand now worker lease job.id)) := by
  have hjobs : ∀ job, chosen = some job → job ∈ s.jobs :=
    fun job h => List.mem_of_mem_filter (hmem job h)
  obtain ⟨rows, hrows, hexecute⟩ :=
    executeBy_claimJob choose s hs.coherent.distinct now worker queues lease hchosen hjobs
  refine fetch_rowOf (databaseBy_execute hexecute none) hrows ?_
  intro j hj
  obtain ⟨job, hjob, rfl⟩ := Option.map_eq_some_iff.1 hj
  obtain ⟨hattempts, hstorable⟩ := hs.fits (hjobs job hjob)
  exact ⟨hattempts, hstorable⟩

/-- A job whose identifier is taken is not inserted. -/
lemma insertJob_of_known {submission : Submission} {fresh : Ident} {now : Instant}
    (hknown : s.find? (submission.pendingJob fresh now).id ≠ none) (before : Option Tables) :
    (databaseBy choose).insertJob (submission.pendingJob fresh now) ⟨ofStore s, before⟩ =
      (.error (.duplicateJob (submission.pendingJob fresh now).id), ⟨ofStore s, before⟩) := by
  have hinsert := databaseBy_execute (executeBy_insertJob choose s submission fresh now) before
  unfold Database.insertJob
  rw [hinsert, if_pos (Option.isSome_iff_ne_none.2 hknown)]
  rfl

/-- A job with a new identifier is inserted. -/
lemma insertJob_of_new {submission : Submission} {fresh : Ident} {now : Instant}
    (hnew : s.find? (submission.pendingJob fresh now).id = none) (before : Option Tables) :
    (databaseBy choose).insertJob (submission.pendingJob fresh now) ⟨ofStore s, before⟩ =
      (.ok (), ⟨⟨(s.jobs ++ [submission.pendingJob fresh now]).map rowOf,
        s.ledger.map statsRow⟩, before⟩) := by
  have hinsert := databaseBy_execute (executeBy_insertJob choose s submission fresh now) before
  unfold Database.insertJob
  rw [hinsert, hnew]
  rfl

/-- An event is added to the statistics; the jobs stay as they are. -/
lemma execute_addStats (hs : s.ledger.Coherent) (rows : List Row) (queue : String) (now : Instant)
    (d : Stats.Delta) (before : Option Tables) :
    (databaseBy choose).execute (.addStats queue now.date d)
        ⟨⟨rows, s.ledger.map statsRow⟩, before⟩ =
      (.ok (), ⟨⟨rows, (s.record queue now d).ledger.map statsRow⟩, before⟩) :=
  Database.execute_of_ok
    (databaseBy_execute (executeBy_addStats choose s hs rows queue now d) before)

/-- A submission becomes a row, or is refused, as it becomes a job of the store, or is refused. -/
lemma enqueue_holding (hs : Holdable s) (now : Instant) (fresh : Ident) (submission : Submission) :
    (databaseBy choose).enqueue now fresh submission (holding s) =
      ((s.enqueue now fresh submission).1, holding (s.enqueue now fresh submission).2) := by
  unfold Database.enqueue
  cases hvalid : submission.validate with
  | error reason =>
    rw [Submission.toJob_of_invalid hvalid, Store.enqueue_of_invalid hvalid]
    rfl
  | ok =>
    rw [Submission.toJob_eq_ok_iff.2 ⟨hvalid, rfl⟩]
    by_cases hnew : s.find? (submission.pendingJob fresh now).id = none
    · rw [Store.enqueue_of_new hvalid hnew]
      apply transaction_commit
      rw [Action.bind_of_ok (insertJob_of_new hnew _),
        Action.bind_of_ok (execute_addStats hs.ledger _ _ now .ofEnqueue _)]
      rfl
    · rw [Store.enqueue_of_known hvalid hnew]
      exact transaction_error (Action.bind_of_error (insertJob_of_known hnew _))

/-- A move is made, skipped or refused in the tables as it is in the store. -/
lemma move_holding (hs : Holdable s) (now : Instant) (id : Ident) (m : Move) :
    (databaseBy choose).move now id m (holding s) =
      ((s.move now id m).1, holding (s.move now id m).2) := by
  have hexecute : databaseBy choose (.execute (.lockJob id)) ⟨ofStore s, some (ofStore s)⟩ =
      (.ok (((ofStore s).jobs.filter (isNamed [.ident id])).map fun r => r.project lockColumns),
        ⟨ofStore s, some (ofStore s)⟩) := rfl
  have hrows : (((ofStore s).jobs.filter (isNamed [.ident id])).map fun r =>
      r.project lockColumns).head? = (s.find? id).map fun j => (rowOf j).project lockColumns := by
    rw [List.head?_map, head?_filter_isNamed, Option.map_map]
    rfl
  unfold Database.move
  cases hfound : s.find? id with
  | none =>
    rw [hfound] at hrows
    rw [Store.move_of_unknown hfound]
    apply transaction_error
    rw [Action.bind_of_ok (Database.fetch?_of_none hexecute hrows)]
    rfl
  | some job =>
    have hrow : LockedRow.ofRow ((rowOf job).project lockColumns) = .ok (LockedRow.ofJob job) :=
      JobRow.lockedRow_toRow _
    have hfits := hs.fits (Store.mem_of_find? hfound)
    have hallows := LockedRow.allows_ofJob hfits m
    rw [hfound] at hrows
    have hlocked := Database.fetch?_of_some hexecute hrows hrow
    cases hallowed : m.allowed job with
    | false =>
      rw [Store.move_of_not_allowed hfound hallowed]
      -- Nothing was written, so rolling back leaves what was there.
      apply transaction_abandon
      rw [Action.bind_of_ok hlocked]
      simp only [hallows, hallowed, Bool.false_eq_true, if_false]
      rfl
    | true =>
      -- Identifiers are distinct: what was looked at is all that the statement changes.
      have hmovable : ∀ j ∈ s.jobs, j.id = id → Fits j ∧ m.allowed j = true := by
        intro j hj hid
        obtain rfl := hs.coherent.distinct.eq_of_find? hfound hj hid
        exact ⟨hfits, hallowed⟩
      have hmoved := Database.execute_of_ok
        (databaseBy_execute (executeBy_ofMove choose s hmovable now) (some (ofStore s)))
      rw [Store.move_of_allowed hfound hallowed]
      apply transaction_commit
      rw [Action.bind_of_ok hlocked]
      simp only [hallows, hallowed, if_true, LockedRow.delta?_ofJob]
      rw [Action.bind_of_ok hmoved, Store.settle]
      cases m.delta? now job with
      | none => rfl
      | some d =>
        have hledger : (s.update id (m.apply now)).ledger.Coherent := hs.ledger
        exact Action.bind_of_ok (execute_addStats hledger _ job.queue now d _)

end Tables

end Sql

end LeaseQueue
