import LeaseQueue.Proofs.Sql.Holding

/-!
# Jobs that come back from the database

The columns of a job are written by an insertion, by claims and by moves, and a word of the database
is narrower than a count of attempts.  `Written` says which rows the statements make, and
`Written.eq_rowOf` that they are the rows of the jobs that the same changes make.  The row of a job
becomes that job again, but for the numbers that its producer chose and that do not fit
(`Job.narrowed`); and a row becomes a job exactly when its kind of failure is a known name and its
documents are documents (`JobRow.Readable`, `JobRow.toJob_eq_ok_iff`).
-/

namespace LeaseQueue

/-- What is left of an unsigned word in a signed one. -/
def narrow (n : UInt32) : UInt32 := UInt32.ofNat (min Sql.greatestWord n.toNat)

/-- A job whose producer asked for no more than the words of a database can hold. -/
def Job.narrowed (j : Job) : Job :=
  { j with
    maxAttempts := narrow j.maxAttempts
    timeoutSeconds := j.timeoutSeconds.map narrow }

namespace Sql

/-! ### Words -/

/-- A narrow word is the lesser of the word and the greatest that fits. -/
lemma toNat_narrow (n : UInt32) : (narrow n).toNat = min greatestWord n.toNat := by
  have hn := n.toNat_lt
  unfold narrow greatestWord
  rw [UInt32.toNat_ofNat']
  exact Nat.mod_eq_of_lt (by omega)

/-- A word that fits is not narrowed. -/
lemma narrow_of_le {n : UInt32} (hn : n.toNat ≤ greatestWord) : narrow n = n := by
  rw [← UInt32.toNat_inj, toNat_narrow]
  omega

namespace Cell

/-- A negative word is read as zero, any other as it is. -/
lemma toNat_unsigned (n : Int32) : (unsigned n).toNat = n.toInt.toNat := by
  have hhigh := n.toInt_lt
  unfold unsigned
  rw [UInt32.toNat_ofNat']
  exact Nat.mod_eq_of_lt (by omega)

/-- The same, in numbers. -/
lemma natCast_unsigned (n : Int32) : ((unsigned n).toNat : Int) = max 0 n.toInt := by
  rw [toNat_unsigned]
  omega

/-- A word is read back as far as it fits. -/
lemma unsigned_signed_eq (n : UInt32) : unsigned (signed n) = narrow n := by
  have hn := n.toNat_lt
  have hsigned : (signed n).toInt = min 2147483647 (n.toNat : Int) := by
    have hlow : -2 ^ 31 ≤ min 2147483647 (n.toNat : Int) := by omega
    have hhigh : min 2147483647 (n.toNat : Int) < 2 ^ 31 := by omega
    exact Int32.toInt_ofInt_of_le hlow hhigh
  rw [← UInt32.toNat_inj, toNat_unsigned, hsigned, toNat_narrow, greatestWord]
  omega

end Cell

/-- A job whose numbers fit is not narrowed. -/
lemma narrowed_of_storable {j : Job} (hj : Storable j.maxAttempts j.timeoutSeconds) :
    j.narrowed = j := by
  have htimeout : j.timeoutSeconds.map narrow = j.timeoutSeconds := by
    cases ht : j.timeoutSeconds with
    | none => rfl
    | some n => exact congrArg some (narrow_of_le (hj.timeoutSeconds_le n ht))
  unfold Job.narrowed
  rw [narrow_of_le hj.maxAttempts_le, htimeout]

/-! ### From rows to jobs -/

/-- Whether a value can stand for a document. -/
def IsDocument (v : Value) : Prop := v = .null ∨ ∃ d, v = .object d

/-- The document that a value stands for. -/
def documentOf (v : Value) : Document := v.asDocument?.getD []

namespace JobRow

/-- Whether a row can be read as a job. -/
structure Readable (r : JobRow) : Prop where
  errorKind : ∀ name, r.errorKind = some name →
    name ∈ ["validation", "no_handler", "handler", "panic", "infrastructure"]
  payload : IsDocument r.payload
  result : ∀ v, r.result = some v → IsDocument v
  metadata : IsDocument r.metadata

/-- The job in a row, its documents and its kind of failure read as well as possible. -/
def content (r : JobRow) : Job where
  id := r.id
  queue := r.queue
  type := r.type
  payload := documentOf r.payload
  result := r.result.map documentOf
  errorMessage := r.errorMessage
  errorKind := r.errorKind.bind FailureKind.ofName?
  priority := r.priority
  status := r.status
  attempts := Cell.unsigned r.attempts
  maxAttempts := Cell.unsigned r.maxAttempts
  worker := r.worker
  lockedAt := r.lockedAt
  lockedUntil := r.lockedUntil
  scheduledAt := r.scheduledAt
  createdAt := r.createdAt
  startedAt := r.startedAt
  completedAt := r.completedAt
  updatedAt := r.updatedAt
  organization := r.organization
  user := r.user
  timeoutSeconds := r.timeoutSeconds.map Cell.unsigned
  metadata := documentOf r.metadata

/-- A computation in two steps comes to a value when both do. -/
lemma bind_eq_ok_iff {ε α β : Type} {x : Except ε α} {f : α → Except ε β} {b : β} :
    (x >>= f) = .ok b ↔ ∃ a, x = .ok a ∧ f a = .ok b := by
  cases x <;> simp [bind, Except.bind]

/-- A document is read exactly from what can stand for one. -/
lemma document_eq_ok_iff {v : Value} {d : Document} :
    document v = .ok d ↔ IsDocument v ∧ documentOf v = d := by
  cases v <;> simp [document, IsDocument, documentOf, Value.asDocument?]

/-- The same of a document that may be missing. -/
lemma mapM_document_eq_ok_iff {v : Option Value} {d : Option Document} :
    v.mapM document = .ok d ↔ (∀ w, v = some w → IsDocument w) ∧ v.map documentOf = d := by
  cases v with
  | none => simp [pure, Except.pure]
  | some v =>
    rw [Option.mapM_some, map_eq_pure_bind, bind_eq_ok_iff]
    simp only [document_eq_ok_iff, pure, Except.pure, Except.ok.injEq, Option.some.injEq,
      forall_eq', Option.map_some, and_assoc, exists_and_left, exists_eq_left']

/-- Exactly five names are names of kinds of failure. -/
lemma isSome_ofName?_iff {name : String} : (FailureKind.ofName? name).isSome ↔
    name ∈ ["validation", "no_handler", "handler", "panic", "infrastructure"] := by
  constructor
  · intro hsome
    obtain ⟨kind, hkind⟩ := Option.isSome_iff_exists.1 hsome
    have hname : kind.name = name := by simpa using List.find?_some hkind
    rw [← hname]
    cases kind <;> decide
  · intro hname
    simp only [List.mem_cons, List.not_mem_nil, or_false] at hname
    rcases hname with rfl | rfl | rfl | rfl | rfl <;> decide

/-- A kind of failure that may be missing is read exactly from these names. -/
lemma mapM_failureKind_eq_ok_iff {name : Option String} {kind : Option FailureKind} :
    name.mapM failureKind = .ok kind ↔
      (∀ n, name = some n →
        n ∈ ["validation", "no_handler", "handler", "panic", "infrastructure"]) ∧
      name.bind FailureKind.ofName? = kind := by
  cases name with
  | none => simp [pure, Except.pure]
  | some n =>
    rw [Option.mapM_some, map_eq_pure_bind, bind_eq_ok_iff]
    simp only [Option.some.injEq, forall_eq', Option.bind_some, ← isSome_ofName?_iff]
    unfold failureKind FailureKind.parse
    cases FailureKind.ofName? n <;> simp [pure, Except.pure]

/-- Exactly the readable rows become jobs, and these are what the rows hold. -/
theorem toJob_eq_ok_iff {r : JobRow} {j : Job} : r.toJob = .ok j ↔ r.Readable ∧ r.content = j := by
  unfold toJob
  simp only [bind_eq_ok_iff, mapM_failureKind_eq_ok_iff, mapM_document_eq_ok_iff,
    document_eq_ok_iff]
  constructor
  · rintro ⟨_, ⟨hkind, rfl⟩, _, ⟨hpayload, rfl⟩, _, ⟨hresult, rfl⟩, _, ⟨hmetadata, rfl⟩, hj⟩
    exact ⟨⟨hkind, hpayload, hresult, hmetadata⟩, Except.ok.inj hj⟩
  · rintro ⟨⟨hkind, hpayload, hresult, hmetadata⟩, rfl⟩
    exact ⟨_, ⟨hkind, rfl⟩, _, ⟨hpayload, rfl⟩, _, ⟨hresult, rfl⟩, _, ⟨hmetadata, rfl⟩, rfl⟩

/-- The row of a job is readable. -/
lemma readable_ofJob (j : Job) : (ofJob j).Readable where
  errorKind := by
    intro name hname
    obtain ⟨kind, -, rfl⟩ := Option.map_eq_some_iff.1 hname
    cases kind <;> decide
  payload := .inr ⟨_, rfl⟩
  result := by
    intro v hv
    obtain ⟨d, -, rfl⟩ := Option.map_eq_some_iff.1 hv
    exact .inr ⟨d, rfl⟩
  metadata := .inr ⟨_, rfl⟩

/-- The row of a job whose attempts fit holds the job, narrowed. -/
lemma content_ofJob {j : Job} (hj : j.attempts.toNat ≤ greatestWord) :
    (ofJob j).content = j.narrowed := by
  have hkind : (j.errorKind.map FailureKind.name).bind FailureKind.ofName? = j.errorKind := by
    cases j.errorKind with
    | none => rfl
    | some kind => exact FailureKind.ofName?_name kind
  have hresult : (j.result.map Value.object).map documentOf = j.result := by
    cases j.result <;> rfl
  have htimeout : (j.timeoutSeconds.map Cell.signed).map Cell.unsigned =
      j.timeoutSeconds.map narrow := by
    cases j.timeoutSeconds with
    | none => rfl
    | some n => exact congrArg some (Cell.unsigned_signed_eq n)
  unfold content ofJob Job.narrowed
  simp only [hkind, hresult, htimeout, Cell.unsigned_signed_eq, narrow_of_le hj]
  rfl

/-- The row of a job whose attempts fit becomes the job, narrowed. -/
lemma toJob_ofJob_narrowed {j : Job} (hj : j.attempts.toNat ≤ greatestWord) :
    (ofJob j).toJob = .ok j.narrowed :=
  toJob_eq_ok_iff.2 ⟨readable_ofJob j, content_ofJob hj⟩

end JobRow

/-! ### From jobs to rows -/

/-- The rows that statements make of each other, and the jobs that the same changes make: a job is
put in, is claimed, and is moved when its row allows it. -/
inductive Written : Row → Job → Prop
  | inserted {submission : Submission} {fresh : Ident} {now : Instant} {job : Job}
      (hjob : submission.toJob fresh now = .ok job) :
      Written (.create jobColumns (Statement.insertJob job).values
        (Statement.insertJob job).assignments) job
  | claimed {row : Row} {job : Job} (hrow : Written row job) (worker : String) (now : Instant)
      (lease : Span) (queues : List String) :
      Written (row.assign (Statement.claimJob worker now (now.after lease) queues).values
        (Statement.claimJob worker now (now.after lease) queues).assignments)
        (job.leased worker lease now)
  | moved {row : Row} {job : Job} {locked : LockedRow} (hrow : Written row job) (id : Ident)
      (now : Instant) (m : Move)
      (hlocked : LockedRow.ofRow (row.project lockColumns) = .ok locked)
      (hallowed : locked.allows m = true) :
      Written (row.assign (Statement.ofMove id now m).values
        (Statement.ofMove id now m).assignments) (m.apply now job)

/-- A row that allows a retry leaves room for the attempt that it counts. -/
lemma lt_of_allows_retry {j : Job} (hj : j.attempts.toNat ≤ greatestWord) {next : Instant}
    (hallowed : (LockedRow.ofJob j).allows (.retry next) = true) :
    j.attempts.toNat < greatestWord := by
  have hlt : (Cell.signed j.attempts).toInt < (Cell.signed j.maxAttempts).toInt :=
    Int32.lt_iff_toInt_lt.1 (of_decide_eq_true (Bool.and_eq_true_iff.1 hallowed).2)
  have hmax := (Cell.signed j.maxAttempts).toInt_lt
  rw [Cell.toInt_signed hj] at hlt
  unfold greatestWord
  omega

/-- What is written for a job is its row. -/
lemma Written.eq_rowOf {row : Row} {job : Job} (h : Written row job) :
    row = rowOf job ∧ job.attempts.toNat ≤ greatestWord := by
  induction h with
  | @inserted submission fresh now job hjob =>
    obtain ⟨-, rfl⟩ := Submission.toJob_eq_ok_iff.1 hjob
    exact ⟨create_insertJob submission fresh now, Nat.zero_le _⟩
  | @claimed row job hrow worker now lease queues ih =>
    obtain ⟨rfl, hattempts⟩ := ih
    exact ⟨assign_claimJob job worker now lease queues, hattempts⟩
  | @moved row job locked hrow id now m hlocked hallowed ih =>
    obtain ⟨rfl, hattempts⟩ := ih
    have hrow : LockedRow.ofRow ((rowOf job).project lockColumns) = .ok (LockedRow.ofJob job) :=
      JobRow.lockedRow_toRow _
    obtain rfl : LockedRow.ofJob job = locked := Except.ok.inj (hrow.symm.trans hlocked)
    have hcountable : ∀ next, m = .retry next → job.attempts.toNat < greatestWord := by
      rintro next rfl
      exact lt_of_allows_retry hattempts hallowed
    refine ⟨assign_ofMove_of_countable id now hcountable, ?_⟩
    cases m with
    | retry next =>
      have hlt := hcountable next rfl
      have hsucc : ((Move.retry next).apply now job).attempts.toNat = job.attempts.toNat + 1 :=
        toNat_succ_of_lt hlt
      omega
    | complete _ | fail _ | cancel => exact hattempts

/-- The row of a job whose attempts fit is read as the job, narrowed. -/
lemma Tables.readJob_rowOf {j : Job} (hj : j.attempts.toNat ≤ greatestWord) :
    readJob (rowOf j) = .ok j.narrowed := by
  have hrow : JobRow.ofRow (rowOf j) = .ok (JobRow.ofJob j) := JobRow.ofRow_toRow _
  rw [readJob, hrow]
  exact JobRow.toJob_ofJob_narrowed hj

/-- The row of any job whose attempts fit is read as that job, the numbers that its producer chose
cut off where they do not fit; statements write this row and no other, and a job that was just put
in comes back as its submission made it.  Of all rows exactly the readable ones become jobs, and
negative counts are zero in them. -/
theorem rows_decoded :
    (∀ j : Job, j.attempts.toNat ≤ greatestWord →
      Tables.readJob (rowOf j) = .ok j.narrowed) ∧
    (∀ row job, Written row job → row = rowOf job ∧ Tables.readJob row = .ok job.narrowed) ∧
    (∀ (submission : Submission) (fresh : Ident) (now : Instant) (job : Job),
      submission.toJob fresh now = .ok job →
      Storable submission.maxAttempts submission.timeoutSeconds →
      Tables.readJob (.create jobColumns (Statement.insertJob job).values
        (Statement.insertJob job).assignments) = .ok job) ∧
    ∀ r : JobRow, JobRow.ofRow r.toRow = .ok r ∧ ((∃ j, r.toJob = .ok j) ↔ r.Readable) ∧
      ∀ j, r.toJob = .ok j →
        (j.attempts.toNat : Int) = max 0 r.attempts.toInt ∧
        (j.maxAttempts.toNat : Int) = max 0 r.maxAttempts.toInt ∧
        (j.timeoutSeconds.map fun n => (n.toNat : Int)) =
          r.timeoutSeconds.map fun n => max 0 n.toInt := by
  have hwritten : ∀ row job, Written row job → row = rowOf job ∧
      Tables.readJob row = .ok job.narrowed := by
    intro row job h
    obtain ⟨rfl, hattempts⟩ := h.eq_rowOf
    exact ⟨rfl, Tables.readJob_rowOf hattempts⟩
  refine ⟨fun j hj => Tables.readJob_rowOf hj, hwritten, ?_, fun r => ?_⟩
  · intro submission fresh now job hjob hstorable
    have hread := (hwritten _ _ (.inserted hjob)).2
    obtain ⟨-, rfl⟩ := Submission.toJob_eq_ok_iff.1 hjob
    rw [hread]
    exact congrArg Except.ok (narrowed_of_storable hstorable)
  · refine ⟨JobRow.ofRow_toRow r, ⟨?_, fun h => ⟨_, JobRow.toJob_eq_ok_iff.2 ⟨h, rfl⟩⟩⟩, ?_⟩
    · rintro ⟨j, hj⟩
      exact (JobRow.toJob_eq_ok_iff.1 hj).1
    · intro j hj
      obtain ⟨-, rfl⟩ := JobRow.toJob_eq_ok_iff.1 hj
      refine ⟨Cell.natCast_unsigned r.attempts, Cell.natCast_unsigned r.maxAttempts, ?_⟩
      unfold JobRow.content
      rw [Option.map_map]
      exact Option.map_congr fun n _ => Cell.natCast_unsigned n

/-- A mail that may be tried more often, and may take longer, than a word of the database counts. -/
def patientMail : Submission :=
  { Submission.plain "mail" "send" (.object []) .epoch with
    maxAttempts := 4294967295
    timeoutSeconds := some 4294967295 }

/-- When the mail has failed once it comes back with its attempt counted, and with as many attempts
and seconds as a word holds.  A mail that asks for less comes back as it was put in, and in a row
that someone else wrote a negative count is zero. -/
theorem patient_mail_narrowed :
    (∃ row job, Written row job ∧ job.attempts.toNat ≤ greatestWord ∧
      Tables.readJob row = .ok job.narrowed ∧ Tables.readJob (rowOf job) = .ok job.narrowed ∧
      job.maxAttempts = 4294967295 ∧ job.narrowed.attempts = 1 ∧
      job.narrowed.maxAttempts = 2147483647 ∧ job.narrowed.timeoutSeconds = some 2147483647) ∧
    (∃ job, (Submission.plain "mail" "send" (.object []) .epoch).toJob .nil .epoch = .ok job ∧
      Storable 3 none ∧
      Tables.readJob (.create jobColumns (Statement.insertJob job).values
        (Statement.insertJob job).assignments) = .ok job) ∧
    ∃ j, ({ JobRow.ofJob (patientMail.pendingJob .nil .epoch) with attempts := -5 }).toJob = .ok j ∧
      (j.attempts.toNat : Int) = max 0 (-5 : Int32).toInt ∧ j.attempts = 0 := by
  have hput : patientMail.toJob .nil .epoch = .ok (patientMail.pendingJob .nil .epoch) :=
    Submission.toJob_eq_ok_iff.2 ⟨by decide, rfl⟩
  have hclaimed := Written.claimed (.inserted hput) "worker" .epoch .zero ["mail"]
  have hlocked := congrArg (fun row : Row => LockedRow.ofRow (row.project lockColumns))
    hclaimed.eq_rowOf.1
  have hretried := Written.moved hclaimed .nil .epoch (.retry .epoch)
    (hlocked.trans (JobRow.lockedRow_toRow _)) (by decide)
  have hattempts := hretried.eq_rowOf.2
  have hplain : (Submission.plain "mail" "send" (.object []) .epoch).toJob .nil .epoch =
      .ok ((Submission.plain "mail" "send" (.object []) .epoch).pendingJob .nil .epoch) :=
    Submission.toJob_eq_ok_iff.2 ⟨by decide, rfl⟩
  have hstorable : Storable 3 none := ⟨by decide, fun _ h => by cases h⟩
  obtain ⟨hrow, hwritten, hfresh, hany⟩ := rows_decoded
  refine ⟨⟨_, _, hretried, hattempts, (hwritten _ _ hretried).2, hrow _ hattempts, rfl, by decide,
    by decide, by decide⟩, ⟨_, hplain, hstorable, hfresh _ _ _ _ hplain hstorable⟩, _, rfl, ?_, ?_⟩
  · exact ((hany { JobRow.ofJob (patientMail.pendingJob .nil .epoch) with attempts := -5 }).2.2 _
      rfl).1
  · decide

end Sql

end LeaseQueue
