import LeaseQueue.Proofs.Ledger
import LeaseQueue.Proofs.Store.Coherent
import LeaseQueue.Sql.Tables
import Mathlib.Tactic.SplitIfs

/-!
# Rows of jobs and of statistics

The row of a job is read back as the job, as long as its numbers fit the words of the database
(`Job.Fits`), and the row of a record of statistics as the record.
-/

namespace LeaseQueue

namespace Sql

/-! ### Columns -/

namespace Row

variable {α : Type} {r : Row} {column other : String}

/-- The value in the first column, or in a later one. -/
lemma cell_cons (column other : String) (value : Cell) (r : Row) :
    cell ((column, value) :: r) other = if column = other then value else r.cell other := by
  unfold cell
  by_cases h : column = other <;> simp [h]

/-- A column that must be there is read from the first one of its name. -/
lemma required_cons (column other : String) (value : Cell) (r : Row) (decode : Cell → Option α) :
    required ((column, value) :: r) other decode =
      if column = other then (decode value).elim (.error (.undecodable other)) .ok
      else r.required other decode := by
  unfold required
  rw [cell_cons]
  split_ifs
  · cases decode value <;> rfl
  · rfl

/-- An optional value in the first column is read back. -/
lemma optional_cons_self {β : Type} {f : β → Cell} {decode : Cell → Option β} (column : String)
    (o : Option β) (r : Row) (hf : ∀ b, f b ≠ .null ∧ decode (f b) = some b) :
    optional ((column, Cell.ofOption f o) :: r) column decode = .ok o := by
  unfold optional
  rw [cell_cons, if_pos rfl]
  cases o with
  | none => rfl
  | some b =>
    obtain ⟨hnull, hdecode⟩ := hf b
    simp only [Cell.ofOption, hdecode]

/-- Another column is read from the others. -/
lemma optional_cons_ne {value : Cell} (h : column ≠ other) (decode : Cell → Option α) :
    optional ((column, value) :: r) other decode = r.optional other decode := by
  unfold optional
  rw [cell_cons, if_neg h]

end Row

/-! ### Words -/

/-- The greatest number that a signed word holds. -/
def greatestWord : Nat := 2147483647

/-- Below the greatest word there is a next one. -/
lemma toNat_succ_of_lt {n : UInt32} (hn : n.toNat < greatestWord) :
    (n + 1).toNat = n.toNat + 1 := by
  unfold greatestWord at hn
  rw [UInt32.toNat_add, UInt32.toNat_one]
  omega

namespace Cell

/-- A word that fits is kept as it is. -/
lemma toInt_signed {n : UInt32} (hn : n.toNat ≤ greatestWord) : (signed n).toInt = n.toNat := by
  unfold greatestWord at hn
  have hmin : min 2147483647 (n.toNat : Int) = n.toNat := by omega
  rw [signed, hmin]
  exact Int32.toInt_ofInt_of_le (by omega) (by omega)

/-- A word that fits is read back. -/
lemma unsigned_signed {n : UInt32} (hn : n.toNat ≤ greatestWord) : unsigned (signed n) = n := by
  rw [unsigned, toInt_signed hn]
  simp

/-- A signed word is read back. -/
lemma asWord?_ofWord (n : Int32) : asWord? (ofWord n) = some n := by
  have hlow := n.le_toInt
  have hhigh := n.toInt_lt
  have hrange : -2147483648 ≤ n.toInt ∧ n.toInt ≤ 2147483647 := by omega
  rw [ofWord, asWord?, if_pos hrange, Int32.ofInt_toInt]

/-- A word is not null. -/
lemma ofWord_ne_null (n : Int32) : ofWord n ≠ .null := Cell.noConfusion

/-- A status is read back. -/
lemma asStatus?_ofStatus (s : Status) : asStatus? (ofStatus s) = some s := by
  simp [asStatus?, ofStatus, asText?, Status.ofName?_name]

end Cell

/-- Names tell statuses apart. -/
lemma status_name_inj {s t : Status} : s.name = t.name ↔ s = t := by
  constructor
  · intro h
    have hs := Status.ofName?_name s
    rw [h, Status.ofName?_name] at hs
    exact (Option.some.inj hs).symm
  · rintro rfl
    rfl

/-- The rest of a computation after a value. -/
lemma ok_bind {ε α β : Type} (a : α) (f : α → Except ε β) : (Except.ok a >>= f) = f a := rfl

/-! ### Jobs -/

/-- Whether the numbers that a producer chooses for a job fit the words of a database. -/
structure Storable (maxAttempts : UInt32) (timeoutSeconds : Option UInt32) : Prop where
  maxAttempts_le : maxAttempts.toNat ≤ greatestWord
  timeoutSeconds_le : ∀ n, timeoutSeconds = some n → n.toNat ≤ greatestWord

/-- Whether all numbers of a job do. -/
structure Fits (j : Job) : Prop where
  attempts_le : j.attempts.toNat ≤ greatestWord
  chosen : Storable j.maxAttempts j.timeoutSeconds

namespace Fits

/-- The attempts of a job stay within their limit, so that they fit when the limit does. -/
lemma of_wellFormed {j : Job} (hj : j.WellFormed)
    (hchosen : Storable j.maxAttempts j.timeoutSeconds) : Fits j where
  attempts_le := Nat.le_trans hj.attempts_le hchosen.maxAttempts_le
  chosen := hchosen

end Fits

namespace JobRow

/-- The columns of a job are read back. -/
lemma ofRow_toRow (r : JobRow) : ofRow r.toRow = .ok r := by
  simp only [ofRow, toRow, Row.required_cons, Row.optional_cons_self, Row.optional_cons_ne,
    Cell.asIdent?, Cell.asText?, Cell.asJson?, Cell.asTime?, Cell.asWord?_ofWord,
    Cell.ofWord_ne_null, Cell.asStatus?_ofStatus, ne_eq, String.reduceEq, not_false_eq_true,
    if_true, if_false, implies_true, and_self, Option.elim_some, ok_bind, reduceCtorEq]
  rfl

/-- The job of a row is the one that the row holds. -/
lemma toJob_ofJob {j : Job} (hj : Fits j) : (ofJob j).toJob = .ok j := by
  have hkind : (j.errorKind.map FailureKind.name).mapM failureKind = .ok j.errorKind := by
    cases j.errorKind with
    | none => rfl
    | some kind =>
      have hname : failureKind kind.name = .ok kind := by
        simp [failureKind, FailureKind.parse, FailureKind.ofName?_name]
      simp [hname]
  have hresult : (j.result.map Value.object).mapM document = .ok j.result := by
    cases j.result <;> rfl
  have htimeout : (j.timeoutSeconds.map Cell.signed).map Cell.unsigned = j.timeoutSeconds := by
    cases ht : j.timeoutSeconds with
    | none => rfl
    | some n => exact congrArg some (Cell.unsigned_signed (hj.chosen.timeoutSeconds_le n ht))
  simp only [toJob, ofJob, hkind, hresult, htimeout, document, ok_bind,
    Cell.unsigned_signed hj.attempts_le,
    Cell.unsigned_signed hj.chosen.maxAttempts_le]
  rfl

/-- The columns of a job, in their order, are its row. -/
lemma project_toRow (r : JobRow) : r.toRow.project jobColumns = r.toRow := by
  simp [Row.project, jobColumns, toRow, Row.cell_cons]

/-- The columns that decide about a move are read from the row of a job. -/
lemma lockedRow_toRow (r : JobRow) : LockedRow.ofRow (r.toRow.project lockColumns) =
    .ok ⟨r.status, r.queue, r.attempts, r.maxAttempts, r.startedAt⟩ := by
  have hrow : r.toRow.project lockColumns =
      [("status", .ofStatus r.status), ("queue_name", .text r.queue),
        ("attempt_count", .ofWord r.attempts), ("max_attempts", .ofWord r.maxAttempts),
        ("started_at", .ofOption .time r.startedAt)] := by
    simp [Row.project, lockColumns, toRow, Row.cell_cons]
  rw [hrow]
  simp only [LockedRow.ofRow, Row.required_cons, Row.optional_cons_self, Row.optional_cons_ne,
    Cell.asText?, Cell.asTime?, Cell.asWord?_ofWord, Cell.asStatus?_ofStatus, ne_eq,
    String.reduceEq, not_false_eq_true, if_true, if_false, implies_true, and_self,
    Option.elim_some, ok_bind, reduceCtorEq]
  rfl

end JobRow

/-- The row of a job. -/
def rowOf (j : Job) : Row := (JobRow.ofJob j).toRow

/-! ### What statements make of the row of a job -/

/-- A new row holds the job that is put in. -/
lemma create_insertJob (submission : Submission) (fresh : Ident) (now : Instant) :
    let statement := Statement.insertJob (submission.pendingJob fresh now)
    Row.create jobColumns statement.values statement.assignments =
      rowOf (submission.pendingJob fresh now) := by
  intro statement
  have htimeout : Cell.ofOption (fun n => .ofWord (Cell.signed n)) submission.timeoutSeconds =
      Cell.ofOption .ofWord (submission.timeoutSeconds.map Cell.signed) := by
    cases submission.timeoutSeconds <;> rfl
  simp [statement, rowOf, Row.create, Row.assign, Row.set, jobColumns, Statement.assignments,
    Statement.values, Term.value, JobRow.toRow, JobRow.ofJob, Submission.pendingJob, htimeout]
  exact ⟨rfl, rfl, rfl, rfl, rfl, rfl⟩

/-- A claim leases the job of a row. -/
lemma assign_claimJob (j : Job) (worker : String) (now : Instant) (lease : Span)
    (queues : List String) :
    let statement := Statement.claimJob worker now (now.after lease) queues
    (rowOf j).assign statement.values statement.assignments =
      rowOf (j.leased worker lease now) := by
  intro statement
  simp [statement, rowOf, Row.assign, Row.set, Statement.assignments, Statement.values, Term.value,
    JobRow.toRow, JobRow.ofJob, Job.leased, Cell.ofOption]

/-- A move moves the job of a row, as long as the next attempt can be counted. -/
lemma assign_ofMove_of_countable {j : Job} (id : Ident) (now : Instant) {m : Move}
    (hcountable : ∀ next, m = .retry next → j.attempts.toNat < greatestWord) :
    (rowOf j).assign (Statement.ofMove id now m).values (Statement.ofMove id now m).assignments =
      rowOf (m.apply now j) := by
  cases m with
  | retry next =>
    have hlt := hcountable next rfl
    have hcount : Cell.integer ((Cell.signed j.attempts).toInt + 1) =
        Cell.integer (Cell.signed (j.attempts + 1)).toInt := by
      have hsucc := toNat_succ_of_lt hlt
      rw [Cell.toInt_signed (by omega), Cell.toInt_signed (by omega), hsucc]
      rfl
    simp [rowOf, Row.assign, Row.set, Row.cell_cons, Statement.ofMove, Statement.assignments,
      Statement.releasing, Statement.values, Term.value, JobRow.toRow, JobRow.ofJob, Move.apply,
      Job.released, Cell.ofOption, Cell.ofWord, hcount]
  | complete _ | fail _ | cancel =>
    simp [rowOf, Row.assign, Row.set, Statement.ofMove, Statement.assignments,
      Statement.releasing, Statement.values, Term.value, JobRow.toRow, JobRow.ofJob, Move.apply,
      Job.released, Cell.ofOption]

/-- A move that applies to a job whose numbers fit moves the job of a row. -/
lemma assign_ofMove {j : Job} (hj : Fits j) (id : Ident) (now : Instant) {m : Move}
    (hallowed : m.allowed j = true) :
    (rowOf j).assign (Statement.ofMove id now m).values (Statement.ofMove id now m).assignments =
      rowOf (m.apply now j) := by
  refine assign_ofMove_of_countable id now fun next hm => ?_
  subst hm
  obtain ⟨-, hlt⟩ := Job.attempts_succ_of_allowed hallowed
  exact Nat.lt_of_lt_of_le hlt hj.chosen.maxAttempts_le

/-! ### Statistics -/

namespace Tables

/-- The columns of a record, in their order, are its row. -/
lemma project_statsRow (r : Stats) : (statsRow r).project statsColumns = statsRow r := by
  simp [Row.project, statsColumns, countColumns, statsRow, Row.cell_cons]

/-- The record of a row is the one that the row holds, the mean being that of the total. -/
lemma statsOfRow_statsRow {r : Stats}
    (hr : r.averageMillis = Stats.average r.totalMillis r.finished) :
    statsOfRow (statsRow r) = .ok r := by
  have hcounts :
      Stats.ofCounts r.queue r.date r.enqueued r.completed r.failed r.totalMillis = r := by
    unfold Stats.ofCounts
    rw [show r.completed + r.failed = r.finished from rfl, ← hr]
  simp only [statsOfRow, statsRow, Row.required_cons, Cell.asText?, Cell.asDate?, Cell.asInteger?,
    String.reduceEq, if_true, if_false, Option.elim_some, ok_bind, hcounts]
  rfl

/-- A new row counts one event. -/
lemma create_addStats (queue : String) (date : Date) (d : Stats.Delta) :
    let statement := Statement.addStats queue date d
    Row.create statsColumns statement.values statement.assignments =
      statsRow ((Stats.empty queue date).apply d) := by
  intro statement
  simp [statement, Row.create, Row.assign, Row.set, statsColumns, countColumns,
    Statement.assignments, Statement.values, Term.value, statsRow, Stats.apply, Stats.ofCounts,
    Stats.empty]

end Tables

/-! ### Which rows statements are about -/

namespace Truth

/-- What is known is negated as a Boolean. -/
lemma not_ofBool (a : Bool) : (ofBool a).not = ofBool !a := by cases a <;> rfl

/-- What is known is combined as Booleans are. -/
lemma and_ofBool (a b : Bool) : (ofBool a).and (ofBool b) = ofBool (a && b) := by
  cases a <;> cases b <;> rfl

/-- What is known is combined as Booleans are. -/
lemma or_ofBool (a b : Bool) : (ofBool a).or (ofBool b) = ofBool (a || b) := by
  cases a <;> cases b <;> rfl

/-- What is known is selected when it is true. -/
lemma selects_ofBool (a : Bool) : (ofBool a).selects = a := by cases a <;> rfl

end Truth

namespace Tables

/-- A row is named by the identifier of its job. -/
lemma isNamed_rowOf (id : Ident) (rest : List Cell) (j : Job) :
    isNamed (.ident id :: rest) (rowOf j) = decide (j.id = id) := by
  have hid : (rowOf j).cell "id" = .ident j.id := rfl
  by_cases h : j.id = id <;>
    simp [isNamed, argument, hid, Cell.same, h, Truth.ofBool, Truth.selects]

/-- A row is up for a claim when its job is. -/
lemma isClaimable_rowOf (worker : String) (now limit : Instant) (queues : List String) (j : Job) :
    isClaimable [.text worker, .time now, .time limit, .texts queues] (rowOf j) =
      (queues.contains j.queue && j.isClaimable now) := by
  have hqueue : (rowOf j).cell "queue_name" = .text j.queue := rfl
  have hschedule : (rowOf j).cell "scheduled_at" = .time j.scheduledAt := rfl
  have hdue : j.isDue now = !decide (now < j.scheduledAt) := by
    rw [Job.isDue, ← decide_not]
    exact decide_eq_decide.2 Int.not_lt.symm
  -- A lease that is not there has not run out: in the database because that is unknown.
  have hlease : ((rowOf j).cell "locked_until").before (.time now) =
      j.lockedUntil.elim .unknown fun l => .ofBool (decide (l < now)) := by
    rw [show (rowOf j).cell "locked_until" = .ofOption .time j.lockedUntil from rfl]
    cases j.lockedUntil <;> rfl
  have hbefore : ((.time now : Cell).before ((rowOf j).cell "scheduled_at")).not =
      .ofBool (j.isDue now) := by
    rw [hdue, hschedule, ← Truth.not_ofBool]
    rfl
  have hstatus : ∀ s, ((rowOf j).cell "status").same (.ofStatus s) =
      .ofBool (decide (j.status = s)) := fun s =>
    congrArg Truth.ofBool (decide_eq_decide.2 status_name_inj)
  unfold isClaimable Job.isClaimable Job.leaseExpired
  simp only [argument, List.getElem?_cons_succ, List.getElem?_cons_zero, Option.getD_some, hqueue,
    hbefore, hstatus, hlease, Cell.among]
  cases j.lockedUntil with
  | none =>
    cases queues.contains j.queue <;> cases j.isDue now <;> cases j.status <;> rfl
  | some l =>
    simp only [Option.elim_some, Option.any_some, Truth.and_ofBool, Truth.or_ofBool,
      Truth.selects_ofBool]

/-- A row counts for a queue and a day when its record does. -/
lemma isCounted_statsRow (queue : String) (date : Date) (rest : List Cell) (r : Stats) :
    isCounted (.text queue :: .date date :: rest) (statsRow r) = r.countsFor queue date := by
  have hqueue : ((statsRow r).cell "queue_name").same (.text queue) =
      .ofBool (decide (r.queue = queue)) := rfl
  have hdate : ((statsRow r).cell "date").same (.date date) =
      .ofBool (decide (r.date = date)) := rfl
  have hfirst : argument (.text queue :: .date date :: rest) 1 = .text queue := rfl
  have hsecond : argument (.text queue :: .date date :: rest) 2 = .date date := rfl
  rw [isCounted, hfirst, hsecond, hqueue, hdate, Truth.and_ofBool, Truth.selects_ofBool]
  rfl

/-- A row is chosen before another one when its job is. -/
lemma precedes_rowOf (a b : Job) : precedes (rowOf a) (rowOf b) = a.precedes b := by
  have hpriority : ∀ j, (rowOf j).cell "priority" = .integer j.priority.toInt := fun _ => rfl
  have hschedule : ∀ j, (rowOf j).cell "scheduled_at" = .time j.scheduledAt := fun _ => rfl
  unfold precedes Job.precedes
  simp only [hpriority, hschedule, Cell.before, Cell.same, Truth.and_ofBool, Truth.or_ofBool,
    Truth.selects_ofBool, Int32.lt_iff_toInt_lt, Int32.toInt_inj]

/-- The row that is chosen from those of some jobs is that of the foremost one. -/
lemma foremost?_map (js : List Job) : foremost? (js.map rowOf) = (Job.foremost? js).map rowOf := by
  induction js with
  | nil => rfl
  | cons j rest ih =>
    rw [List.map_cons, foremost?, ih, Job.foremost?]
    cases Job.foremost? rest with
    | none => rfl
    | some k =>
      simp only [Option.map_some, precedes_rowOf]
      split_ifs <;> rfl

end Tables

end Sql

end LeaseQueue
