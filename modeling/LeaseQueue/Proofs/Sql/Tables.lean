import LeaseQueue.Proofs.Sql.Rows
import LeaseQueue.Proofs.Store.Urgency

/-!
# Statements on the tables of a store

What each statement does to the tables that hold a store row by row: it finds the row of the job
that is looked for, and it leaves the tables of the store as it is after the change that the
statement stands for.

The text of a claim does not say which of several rows it takes that are as urgent and due at the
same time.  `Tables.databaseBy` leaves that to a choice of its own, which has only to keep to the
order in the text (`IsChoice`); `Tables.database` is the one that takes the first
(`Tables.databaseBy_foremost?`).
-/

namespace LeaseQueue

namespace Sql

/-- A choice among the rows of jobs that keeps to the order of a claim: if there are any, it takes
one of them, and no other one comes before it. -/
structure IsChoice (choose : List Row → Option Row) : Prop where
  nil : choose [] = none
  foremost : ∀ {js : List Job}, js ≠ [] → ∃ j ∈ js, choose (js.map rowOf) = some (rowOf j) ∧
    ∀ k ∈ js, Tables.precedes (rowOf k) (rowOf j) = false

namespace Tables

variable (choose : List Row → Option Row)

/-- Does what a statement says, a claim taking the row that is chosen. -/
def executeBy (t : Tables) (s : Statement) : Except DbError (List Row) × Tables :=
  match s with
  | .claimJob _ _ _ _ =>
    match choose (t.jobs.filter (isClaimable s.values)) with
    | none => (.ok [], t)
    | some chosen =>
      let r := t.change s.values s.assignments fun row => isNamed [chosen.cell "id"] row
      (.ok (r.1.map fun row => row.project jobColumns), r.2)
  | _ => t.execute s

/-- The tables as a database whose claims take the row that is chosen. -/
def databaseBy : Database Live := fun c s =>
  match c with
  | .execute statement =>
    let r := s.tables.executeBy choose statement
    (r.1, { s with tables := r.2 })
  | _ => database c s

/-- The database that takes the first of equals is one of them. -/
lemma databaseBy_foremost? : databaseBy foremost? = database := by
  funext c s
  cases c with
  | execute statement => cases statement <;> rfl
  | begin | commit | rollback | runScript _ | noteMigration _ => rfl

/-- To take the first of equals is such a choice. -/
lemma isChoice_foremost? : IsChoice foremost? where
  nil := rfl
  foremost := by
    intro js hjs
    rw [foremost?_map]
    cases hfirst : Job.foremost? js with
    | none => exact absurd (Job.foremost?_eq_none_iff.1 hfirst) hjs
    | some j =>
      refine ⟨j, Job.mem_of_foremost? hfirst, rfl, fun k hk => ?_⟩
      rw [precedes_rowOf]
      exact Job.not_precedes_of_foremost? hfirst k hk

/-! ### Statements about one job -/

variable (s : Store)

/-- The first row of an identifier is that of the job that is found under it. -/
lemma head?_filter_isNamed (id : Ident) (rest : List Cell) :
    ((ofStore s).jobs.filter (isNamed (.ident id :: rest))).head? = (s.find? id).map rowOf := by
  have hnamed : isNamed (.ident id :: rest) ∘ rowOf = fun j => decide (j.id = id) :=
    funext fun j => isNamed_rowOf id rest j
  show ((s.jobs.map rowOf).filter (isNamed (.ident id :: rest))).head? = _
  rw [List.filter_map, List.head?_map, List.head?_filter, hnamed]
  rfl

/-- There is a row of an identifier when there is a job under it. -/
lemma any_isNamed (id : Ident) (rest : List Cell) :
    (ofStore s).jobs.any (isNamed (.ident id :: rest)) = (s.find? id).isSome := by
  have hhead := congrArg Option.isSome (head?_filter_isNamed s id rest)
  rw [List.head?_filter, Option.isSome_map] at hhead
  rw [← hhead]
  exact List.isSome_find?.symm

/-- A new job is added unless its identifier is taken. -/
lemma executeBy_insertJob (submission : Submission) (fresh : Ident) (now : Instant) :
    let job := submission.pendingJob fresh now
    let statement := Statement.insertJob job
    (ofStore s).executeBy choose statement =
      if (s.find? job.id).isSome then
        (.error (.refused DbError.uniqueViolation
          "duplicate key value violates unique constraint"), ofStore s)
      else (.ok [], { ofStore s with jobs := (s.jobs ++ [job]).map rowOf }) := by
  intro job statement
  have htaken : (ofStore s).jobs.any (isNamed statement.values) = (s.find? job.id).isSome :=
    any_isNamed s job.id _
  have hadded : Row.create jobColumns statement.values statement.assignments = rowOf job :=
    create_insertJob submission fresh now
  have hexecute : (ofStore s).executeBy choose statement =
      (ofStore s).insert statement.values statement.assignments := rfl
  rw [hexecute, insert, htaken, hadded, List.map_append]
  rfl

/-- Changing the row of an identifier changes the job under it. -/
lemma change_isNamed (id : Ident) (rest bound : List Cell) (as : List Assignment)
    {f : Job → Job} (hf : ∀ j ∈ s.jobs, j.id = id → (rowOf j).assign bound as = rowOf (f j)) :
    ((ofStore s).change bound as (isNamed (.ident id :: rest))).1.head? =
        (s.find? id).map (fun j => rowOf (f j)) ∧
      ((ofStore s).change bound as (isNamed (.ident id :: rest))).2 = ofStore (s.update id f) := by
  constructor
  · unfold change
    rw [List.head?_map, head?_filter_isNamed, Option.map_map]
    refine Option.map_congr fun j hj => ?_
    exact hf j (Store.mem_of_find? hj) (Store.id_of_find? hj)
  · have hrows : ∀ j ∈ s.jobs,
        (if isNamed (.ident id :: rest) (rowOf j) then (rowOf j).assign bound as else rowOf j) =
          rowOf (if j.id = id then f j else j) := by
      intro j hj
      rw [isNamed_rowOf]
      by_cases hid : j.id = id
      · simp [hid, hf j hj hid]
      · simp [hid]
    have hjobs : (s.jobs.map rowOf).map
        (fun r => if isNamed (.ident id :: rest) r then r.assign bound as else r) =
          (s.update id f).jobs.map rowOf := by
      unfold Store.update
      rw [List.map_map, List.map_map]
      exact List.map_congr_left hrows
    exact congrArg (fun rows => Tables.mk rows (ofStore s).stats) hjobs

/-- A statement that moves a job moves the job under its identifier. -/
lemma executeBy_ofMove {id : Ident} {m : Move}
    (hfits : ∀ j ∈ s.jobs, j.id = id → Fits j ∧ m.allowed j = true) (now : Instant) :
    (ofStore s).executeBy choose (.ofMove id now m) =
      (.ok [], ofStore (s.update id (m.apply now))) := by
  have hassign : ∀ j ∈ s.jobs, j.id = id → (rowOf j).assign (Statement.ofMove id now m).values
      (Statement.ofMove id now m).assignments = rowOf (m.apply now j) := by
    intro j hj hid
    obtain ⟨hj, hallowed⟩ := hfits j hj hid
    exact assign_ofMove hj id now hallowed
  obtain ⟨rest, hvalues⟩ : ∃ rest, (Statement.ofMove id now m).values = .ident id :: rest := by
    cases m <;> exact ⟨_, rfl⟩
  have hexecute : (ofStore s).executeBy choose (.ofMove id now m) =
      (.ok [], ((ofStore s).change (Statement.ofMove id now m).values
        (Statement.ofMove id now m).assignments
        (isNamed (Statement.ofMove id now m).values)).2) := by
    cases m <;> rfl
  rw [hexecute, congrArg isNamed hvalues, (change_isNamed s id rest _ _ hassign).2]

/-- A claim leases the job whose row is chosen among those that are up for it. -/
lemma executeBy_claimJob (hs : s.Distinct) (now : Instant) (worker : String) (queues : List String)
    (lease : Span) {chosen : Option Job}
    (hchosen : choose ((s.eligible queues now).map rowOf) = chosen.map rowOf)
    (hmem : ∀ job, chosen = some job → job ∈ s.jobs) :
    ∃ rows, rows.head? = (chosen.map fun job => job.leased worker lease now).map rowOf ∧
      (ofStore s).executeBy choose (.claimJob worker now (now.after lease) queues) =
        (.ok rows, ofStore (chosen.elim s fun job => s.hand now worker lease job.id)) := by
  let statement := Statement.claimJob worker now (now.after lease) queues
  have hclaimable : (ofStore s).jobs.filter (isClaimable statement.values) =
      (s.eligible queues now).map rowOf := by
    have hpred : isClaimable statement.values ∘ rowOf =
        fun j => queues.contains j.queue && j.isClaimable now :=
      funext fun j => isClaimable_rowOf worker now (now.after lease) queues j
    show (s.jobs.map rowOf).filter _ = _
    rw [List.filter_map, hpred]
    rfl
  have hexecute : (ofStore s).executeBy choose statement =
      match choose ((ofStore s).jobs.filter (isClaimable statement.values)) with
      | none => (.ok [], ofStore s)
      | some row =>
        let r := (ofStore s).change statement.values statement.assignments
          fun other => isNamed [row.cell "id"] other
        (.ok (r.1.map fun row => row.project jobColumns), r.2) := rfl
  rw [hclaimable, hchosen] at hexecute
  cases chosen with
  | none => exact ⟨[], rfl, hexecute⟩
  | some job =>
    obtain ⟨hhead, htables⟩ := change_isNamed s job.id [] statement.values statement.assignments
      fun j _ _ => assign_claimJob j worker now lease queues
    refine ⟨_, ?_, hexecute.trans (congrArg _ htables)⟩
    -- The choice hands on no more than an identifier, which finds the job it was taken from.
    rw [List.head?_map]
    show (((ofStore s).change _ _ (isNamed [.ident job.id])).1.head?).map _ = _
    rw [hhead, Store.find?_of_mem hs (hmem job rfl)]
    exact congrArg some (JobRow.project_toRow _)

/-! ### Statements about statistics -/

/-- The first row of a queue and a day is that of their record. -/
lemma head?_filter_isCounted (queue : String) (date : Date) :
    ((ofStore s).stats.filter (isCounted [.text queue, .date date])).head? =
      (s.ledger.find? queue date).map statsRow := by
  have hcounted : isCounted [.text queue, .date date] ∘ statsRow =
      fun r => r.countsFor queue date :=
    funext fun r => isCounted_statsRow queue date [] r
  show ((s.ledger.map statsRow).filter _).head? = _
  rw [List.filter_map, List.head?_map, List.head?_filter, hcounted]
  rfl

/-- A row in which the count of another one is added to its own. -/
def plus (added row : Row) (column : String) : Row :=
  match row.cell column, added.cell column with
  | .integer m, .integer n => row.set column (.integer (m + n))
  | _, _ => row.set column .null

/-- An event is added to the counts of its row, or its row is added. -/
lemma addUp_eq (t : Tables) (bound : List Cell) (as : List Assignment) :
    t.addUp bound as =
      let added := Row.create statsColumns bound as
      if t.stats.any (isCounted bound) then
        ⟨t.jobs, t.stats.map fun r =>
          if isCounted bound r then countColumns.foldl (plus added) r else r⟩
      else ⟨t.jobs, t.stats ++ [added]⟩ := rfl

/-- All counts of a row are increased by those of an event. -/
lemma foldl_plus (r : Stats) (queue : String) (date : Date) (d : Stats.Delta) :
    countColumns.foldl (plus (statsRow ((Stats.empty queue date).apply d))) (statsRow r) =
      statsRow (r.apply d) := by
  simp [countColumns, plus, statsRow, Row.cell_cons, Row.set, Stats.apply, Stats.ofCounts,
    Stats.empty]

/-- An event is added to the statistics; the jobs stay as they are. -/
lemma executeBy_addStats (hs : s.ledger.Coherent) (rows : List Row) (queue : String) (now : Instant)
    (d : Stats.Delta) :
    executeBy choose ⟨rows, s.ledger.map statsRow⟩ (.addStats queue now.date d) =
      (.ok [], ⟨rows, (s.record queue now d).ledger.map statsRow⟩) := by
  let statement := Statement.addStats queue now.date d
  have hcounted : ∀ r, isCounted statement.values (statsRow r) = r.countsFor queue now.date :=
    isCounted_statsRow queue now.date _
  have hany : (s.ledger.map statsRow).any (isCounted statement.values) =
      s.ledger.any fun r => r.countsFor queue now.date := by
    rw [List.any_map]
    exact congrArg s.ledger.any (funext hcounted)
  have hledger : (s.record queue now d).ledger = _ := hs.record_eq queue now.date d
  have hstats : addUp ⟨rows, s.ledger.map statsRow⟩ statement.values statement.assignments =
      ⟨rows, (s.record queue now d).ledger.map statsRow⟩ := by
    rw [addUp_eq, create_addStats, hledger]
    simp only [hany]
    cases s.ledger.any fun r => r.countsFor queue now.date with
    | false =>
      simp only [Bool.false_eq_true, if_false, List.map_append]
      rfl
    | true =>
      simp only [if_true, List.map_map]
      refine congrArg (Tables.mk rows) (List.map_congr_left fun r _ => ?_)
      simp only [Function.comp_apply, hcounted, foldl_plus]
      split <;> rfl
  exact congrArg (Prod.mk (Except.ok [])) hstats

end Tables

end Sql

end LeaseQueue
