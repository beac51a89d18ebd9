import LeaseQueue.Proofs.Store.Coherent

/-!
# Refused and skipped operations

`Store.Answered` fixes what a store answers to each operation: the first fault of a submission, the
clash of identifiers, the unknown job, the move that does not apply.  Every answer that reports no
change leaves the store as it was, statistics included.  The faults of a submission are listed by
`Submission.faults` in the order in which they are looked for, and `Move.Admits` says by the status
of a job, and by its attempts where they count, whether a move applies to it.
-/

namespace LeaseQueue

namespace Submission

/-- What is wrong with a submission, in the order of the checks. -/
def faults (s : Submission) : List Invalid :=
  [(isBlank s.queue, .missingQueue), (isBlank s.type, .missingType),
    (s.payload.asDocument?.isNone, .malformedPayload s.payload.kind),
    (!isMetadata s.metadata, .malformedMetadata s.metadata.kind),
    (decide (s.maxAttempts = 0), .noAttempts)].filterMap fun check =>
      if check.1 then some check.2 else none

/-- A submission is refused for its first fault. -/
lemma validate_eq (s : Submission) :
    s.validate =
      match s.faults with
      | [] => .ok ()
      | reason :: _ => .error reason := by
  unfold validate faults
  split_ifs with hqueue htype hpayload hmetadata hattempts <;> simp_all

end Submission

namespace Move

/-- Whether a job is in a state that a move can take it from. -/
def Admits : Move → Job → Prop
  | complete _, j => j.status = .processing
  | fail _, j | cancel, j => j.status = .pending ∨ j.status = .processing
  | retry _, j => j.status = .processing ∧ j.attempts.toNat < j.maxAttempts.toNat

instance (m : Move) (j : Job) : Decidable (m.Admits j) := by
  cases m <;> unfold Admits <;> infer_instance

/-- A move applies to the jobs that it admits. -/
lemma allowed_iff {m : Move} {j : Job} : m.allowed j = true ↔ m.Admits j := by
  have hopen : (!j.status.isTerminal) = true ↔ j.status = .pending ∨ j.status = .processing := by
    cases j.status <;> decide
  cases m with
  | complete result => exact decide_eq_true_iff
  | fail failure => exact hopen
  | retry next => simp [allowed, Admits, UInt32.lt_iff_toNat_lt]
  | cancel => exact hopen

end Move

namespace Store

/-- What a store answers, and when it stays as it is. -/
structure Answered (s : Store) (now : Instant) : Prop where
  /-- A submission is refused for its first fault, then for an identifier that is in use, and put in
  otherwise. -/
  enqueue : ∀ (fresh : Ident) (submission : Submission),
    (s.step now (.enqueue fresh submission)).1 =
      match submission.faults with
      | reason :: _ => .refused (.invalid reason)
      | [] =>
        if ∃ j ∈ s.jobs, j.id = submission.id.getD fresh then
          .refused (.duplicateJob (submission.id.getD fresh))
        else .enqueued (submission.id.getD fresh)
  /-- A move is refused exactly when there is no job to move. -/
  unknown : ∀ (id : Ident) (m : Move),
    (s.step now (.move id m)).1 = .refused (.jobNotFound id) ↔ ∀ j ∈ s.jobs, j.id ≠ id
  /-- The move of a job applies if its state admits it, and is skipped otherwise. -/
  moved : ∀ j ∈ s.jobs, ∀ m : Move,
    (s.step now (.move j.id m)).1 =
      .moved (if m.Admits j then .applied else .skipped j.status)
  /-- After a refusal, a skipped move or a claim that comes back empty nothing has changed. -/
  kept : ∀ op : Operation, (s.step now op).1.isIdle = true → (s.step now op).2 = s
  /-- Looking at the store changes nothing either. -/
  read : ∀ (id : Ident) (queue : String) (date : Date) (f : Filter),
    (s.step now (.get id)).2 = s ∧ (s.step now (.stats queue date)).2 = s ∧
      (s.step now (.select f)).2 = s

variable {s : Store} {now : Instant}

/-- What is said to a submission. -/
lemma reply_enqueue (s : Store) (now : Instant) (fresh : Ident) (submission : Submission) :
    (s.step now (.enqueue fresh submission)).1 =
      match submission.faults with
      | reason :: _ => .refused (.invalid reason)
      | [] =>
        if ∃ j ∈ s.jobs, j.id = submission.id.getD fresh then
          .refused (.duplicateJob (submission.id.getD fresh))
        else .enqueued (submission.id.getD fresh) := by
  have hvalidate := submission.validate_eq
  unfold step
  cases hfaults : submission.faults with
  | cons reason rest =>
    rw [hfaults] at hvalidate
    simp only [enqueue_of_invalid hvalidate]
  | nil =>
    rw [hfaults] at hvalidate
    by_cases hused : ∃ j ∈ s.jobs, j.id = submission.id.getD fresh
    · have hknown : s.find? (submission.pendingJob fresh now).id ≠ none := by
        obtain ⟨j, hj, hid⟩ := hused
        exact fun hnone => find?_eq_none_iff.1 hnone j hj hid
      simp only [enqueue_of_known hvalidate hknown, if_pos hused]
      rfl
    · have hnew : s.find? (submission.pendingJob fresh now).id = none :=
        find?_eq_none_iff.2 fun j hj hid => hused ⟨j, hj, hid⟩
      simp only [enqueue_of_new hvalidate hnew, if_neg hused]
      rfl

/-- What is said to the move of a job that is there. -/
lemma reply_move {id : Ident} {job : Job} (hfound : s.find? id = some job) (m : Move) :
    (s.step now (.move id m)).1 =
      .moved (if m.Admits job then .applied else .skipped job.status) := by
  by_cases hadmits : m.Admits job
  · rw [if_pos hadmits]
    exact (step_of_allowed hfound (Move.allowed_iff.2 hadmits)).1
  · have hallowed : m.allowed job = false :=
      Bool.eq_false_iff.2 fun h => hadmits (Move.allowed_iff.1 h)
    rw [if_neg hadmits, step_of_not_allowed hfound hallowed]

/-- A reply that reports no change tells the truth. -/
lemma step_of_isIdle {op : Operation} (hidle : (s.step now op).1.isIdle = true) :
    (s.step now op).2 = s := by
  have houtcome := step_outcome s now op
  generalize (s.step now op).1 = reply, (s.step now op).2 = t at houtcome hidle
  cases houtcome with
  | enqueued => cases hidle
  | claimed => cases hidle
  | moved => cases hidle
  | kept => rfl

/-- In every store in use each operation gets the answer that the submission or the state of the job
calls for, and whatever is refused, skipped or comes back empty leaves jobs and statistics exactly
as they were. -/
theorem refusals_keep_store (hs : s.Reachable) (now : Instant) : s.Answered now where
  enqueue := reply_enqueue s now
  unknown := by
    intro id m
    cases hfound : s.find? id with
    | none =>
      refine iff_of_true ?_ (find?_eq_none_iff.1 hfound)
      simp only [step, move_of_unknown hfound]
    | some job =>
      refine iff_of_false ?_ fun hnone => hnone job (mem_of_find? hfound) (id_of_find? hfound)
      rw [reply_move hfound]
      exact Reply.noConfusion
  moved := by
    intro j hj m
    exact reply_move (find?_of_mem (Coherent.of_reachable hs).distinct hj) m
  kept := fun _ hidle => step_of_isIdle hidle
  read := fun _ _ _ _ => ⟨rfl, rfl, rfl⟩

/-- A job with a single attempt that was handed out, retried and handed out again. -/
def exhaustedRun : List (Instant × Operation) :=
  let mail := { Submission.plain "mail" "send" (.object []) .epoch with maxAttempts := 1 }
  [(.epoch, .enqueue .nil mail), (.epoch, .claim "first" ["mail"] .zero),
    (.epoch, .move .nil (.retry .epoch)), (.epoch, .claim "second" ["mail"] .zero)]

/-- Its attempts are used up, so although a worker runs it, it is not retried once more. -/
theorem exhausted_retry_skipped :
    let s := (empty.run exhaustedRun).2
    s.Reachable ∧ s.Answered .epoch ∧
      s.step .epoch (.move .nil (.retry .epoch)) = (.moved (.skipped .processing), s) := by
  intro s
  have hs : s.Reachable := ⟨exhaustedRun, rfl⟩
  have hanswered := refusals_keep_store hs .epoch
  have hreply : (s.step .epoch (.move .nil (.retry .epoch))).1 = .moved (.skipped .processing) := by
    rfl
  have hkept := hanswered.kept (.move .nil (.retry .epoch)) (by rw [hreply]; rfl)
  exact ⟨hs, hanswered, Prod.ext hreply hkept⟩

end Store

end LeaseQueue
