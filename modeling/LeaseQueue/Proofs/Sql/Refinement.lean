import LeaseQueue.Proofs.Sql.Holding

/-!
# A database does what a store does

Each call to a database that holds a store row by row answers as the same call to the store does,
and leaves tables that hold the store as it is then (`Tables.Refines`).  `Tables.backend_refines`
says so of every store in use whose numbers fit the words of a database.  Only a claim is free in
one point: its text does not say which of several jobs it takes that are as urgent and due at the
same time (`Store.MayClaim`).  A database that takes the first of them goes through every run as a
store does (`Tables.performAll_database`).
-/

namespace LeaseQueue

namespace Store

/-- What a claim may come to when it is left open which of the jobs it takes that are as urgent and
due at the same time: what the claim of the store comes to, or the same with such a job in place of
the one that the store hands out. -/
def MayClaim (s : Store) (now : Instant) (worker : String) (queues : List String) (lease : Span)
    (r : Option Job × Store) : Prop :=
  r = s.claim now worker queues lease ∨
    ∃ first job, Job.foremost? (s.eligible queues now) = some first ∧
      job ∈ s.eligible queues now ∧ job.priority = first.priority ∧
      job.scheduledAt = first.scheduledAt ∧
      r = (some (job.leased worker lease now), s.hand now worker lease job.id)

/-- The claim of a store in terms of the job that is handed out. -/
lemma claim_eq (s : Store) (now : Instant) (worker : String) (queues : List String) (lease : Span) :
    s.claim now worker queues lease =
      ((Job.foremost? (s.eligible queues now)).map fun job => job.leased worker lease now,
        (Job.foremost? (s.eligible queues now)).elim s fun job =>
          s.hand now worker lease job.id) := by
  cases hforemost : Job.foremost? (s.eligible queues now) with
  | none => exact claim_of_none hforemost
  | some job => exact claim_of_some hforemost

end Store

namespace Backend

variable {σ : Type}

/-- What a backend answers to an operation, and what it leaves. -/
def perform (b : Backend σ) (now : Instant) (op : Operation) (c : σ) : Except Fault Reply × σ :=
  match op with
  | .enqueue fresh submission =>
    (b.enqueue now fresh submission c).map (Except.map Reply.enqueued) id
  | .claim worker queues lease =>
    (b.claim now worker queues lease c).map (Except.map Reply.claimed) id
  | .move i m => (b.move now i m c).map (Except.map Reply.moved) id
  | .get i => (b.get i c).map (Except.map Reply.found) id
  | .stats queue date => (b.stats queue date c).map (Except.map Reply.stats) id
  | .select f => (b.select f c).map (Except.map Reply.selected) id

/-- The answers of a backend to operations one after the other, and what it leaves. -/
def performAll (b : Backend σ) : List (Instant × Operation) → σ → List (Except Fault Reply) × σ
  | [], c => ([], c)
  | (now, op) :: ops, c =>
    let r := b.perform now op c
    let rs := performAll b ops r.2
    (r.1 :: rs.1, rs.2)

/-- An answer is about what was left with it. -/
lemma answer_snd {α : Type} (r : Except StoreError α × σ) : (answer r).2 = r.2 := by
  obtain ⟨answer | answer, t⟩ := r <;> rfl

/-- The store itself as a backend leaves what the store leaves. -/
lemma perform_ofStore (now : Instant) (op : Operation) (s : Store) :
    (ofStore.perform now op s).2 = (s.step now op).2 := by
  cases op with
  | enqueue fresh submission =>
    rw [Store.step_enqueue_snd]
    exact answer_snd (s.enqueue now fresh submission)
  | move i m =>
    rw [Store.step_move_snd]
    exact answer_snd (s.move now i m)
  | claim | get | stats | select => rfl

end Backend

namespace Sql

namespace Tables

/-- Whether a call to a database ended as one to a store did: it gave the same answer, left no
transaction open, and left the tables of the store that the other one left, which are read back as
exactly that store. -/
structure Mirrors {α : Type} (c : Except Fault α × Live) (d : Except Fault α × Store) : Prop where
  answer : c.1 = d.1
  tables : c.2 = holding d.2
  read : c.2.tables.read = .ok d.2

/-- Whether a backend on the tables of a store does what the store does. -/
structure Refines (b : Backend Live) (s : Store) (now : Instant) : Prop where
  enqueue : ∀ fresh submission, Storable submission.maxAttempts submission.timeoutSeconds →
    Mirrors (b.enqueue now fresh submission (holding s))
      (Backend.ofStore.enqueue now fresh submission s)
  claim : ∀ worker queues lease, ∃ r, s.MayClaim now worker queues lease r ∧
    Mirrors (b.claim now worker queues lease (holding s)) (.ok r.1, r.2)
  move : ∀ id m, Mirrors (b.move now id m (holding s)) (Backend.ofStore.move now id m s)
  get : ∀ id, Mirrors (b.get id (holding s)) (Backend.ofStore.get id s)
  stats : ∀ queue date,
    Mirrors (b.stats queue date (holding s)) (Backend.ofStore.stats queue date s)

variable {choose : List Row → Option Row} {s : Store}

/-- A call that gives the answer and leaves the tables of one to a store does so as a call to a
backend. -/
lemma answer_eq {α : Type} {c : Except StoreError α × Live} {d : Except StoreError α × Store}
    (h : c = (d.1, holding d.2)) :
    Backend.answer c = ((Backend.answer d).1, holding (Backend.answer d).2) := by
  subst h
  obtain ⟨answer | answer, t⟩ := d <;> rfl

/-- It ends as the call to the store does if the store that is left can be held. -/
lemma Mirrors.of_eq {α : Type} {c : Except StoreError α × Live} {d : Except StoreError α × Store}
    (h : c = (d.1, holding d.2)) (hd : Holdable d.2) :
    Mirrors (Backend.answer c) (Backend.answer d) := by
  rw [answer_eq h]
  refine ⟨rfl, rfl, ?_⟩
  rw [Backend.answer_snd]
  exact read_ofStore hd

/-- A claim comes to what it may come to. -/
lemma exists_mayClaim (hchoose : IsChoice choose) (hs : Holdable s) (now : Instant)
    (worker : String) (queues : List String) (lease : Span) :
    ∃ r, s.MayClaim now worker queues lease r ∧ Holdable r.2 ∧
      (databaseBy choose).claim now worker queues lease (holding s) = (.ok r.1, holding r.2) := by
  by_cases hnone : s.eligible queues now = []
  · have hchosen : choose ((s.eligible queues now).map rowOf) = (none : Option Job).map rowOf := by
      rw [hnone]
      exact hchoose.nil
    refine ⟨(none, s), Or.inl ?_, hs, claim_holding hs now worker queues lease hchosen ?_⟩
    · exact (Store.claim_of_none (Job.foremost?_eq_none_iff.2 hnone)).symm
    · intro job h
      cases h
  · obtain ⟨job, hjob, hchosen, hforemost⟩ := hchoose.foremost hnone
    have hrow : choose ((s.eligible queues now).map rowOf) = (some job).map rowOf := hchosen
    have hclaim := claim_holding hs now worker queues lease hrow fun k hk =>
      Option.some.inj hk ▸ hjob
    refine ⟨(some (job.leased worker lease now), s.hand now worker lease job.id), Or.inr ?_,
      hs.hand hjob worker lease, hclaim⟩
    cases hfirst : Job.foremost? (s.eligible queues now) with
    | none => exact absurd (Job.foremost?_eq_none_iff.1 hfirst) hnone
    | some first =>
      -- The database chose one job and the store another; neither precedes the other.
      have hafter : first.precedes job = false := by
        rw [← precedes_rowOf]
        exact hforemost first (Job.mem_of_foremost? hfirst)
      have hbefore : job.precedes first = false := Job.not_precedes_of_foremost? hfirst job hjob
      obtain ⟨hpriority, hscheduled⟩ := Job.eq_of_not_precedes hbefore hafter
      exact ⟨first, job, rfl, hjob, hpriority, hscheduled, rfl⟩

/-- Two mails are put in, and the urgent one is handed out. -/
def urgentMail : List (Instant × Operation) :=
  let mail := Submission.plain "mail" "send" (.object []) .epoch
  [(.epoch, .enqueue (.ofNat 1) mail), (.epoch, .enqueue (.ofNat 2) { mail with priority := 5 }),
    (.epoch, .claim "worker" ["mail"] .zero)]

/-- The claim of a database that takes the first of equals is that of the store. -/
lemma claim_first (hs : Holdable s) (now : Instant) (worker : String) (queues : List String)
    (lease : Span) : (databaseBy foremost?).claim now worker queues lease (holding s) =
      (.ok (s.claim now worker queues lease).1, holding (s.claim now worker queues lease).2) := by
  rw [Store.claim_eq]
  exact claim_holding hs now worker queues lease (foremost?_map _) fun _ => Job.mem_of_foremost?

/-- An operation on a database that takes the first of equals is answered as by the store. -/
lemma perform_database (hs : Holdable s) (now : Instant) {op : Operation} (hop : Covered op) :
    database.backend.perform now op (holding s) =
      ((Backend.ofStore.perform now op s).1, holding (Backend.ofStore.perform now op s).2) := by
  rw [← databaseBy_foremost?]
  cases op with
  | enqueue fresh submission =>
    exact congrArg (Prod.map (Except.map Reply.enqueued) id)
      (answer_eq (enqueue_holding hs now fresh submission))
  | claim worker queues lease =>
    exact congrArg (Prod.map (Except.map Reply.claimed) id)
      (answer_eq (d := (.ok _, _)) (claim_first hs now worker queues lease))
  | move i m =>
    exact congrArg (Prod.map (Except.map Reply.moved) id)
      (answer_eq (move_holding hs now i m))
  | get i =>
    exact congrArg (Prod.map (Except.map Reply.found) id)
      (answer_eq (d := (.ok _, s)) (getJob_holding hs i))
  | stats queue date =>
    exact congrArg (Prod.map (Except.map Reply.stats) id)
      (answer_eq (d := (.ok _, s)) (statsOn_holding hs queue date))
  | select f => exact hop.elim

/-- From one store on, and whatever its clock shows, a database that takes the first of equals gives
the answers that the store gives, to every sequence of operations that is covered, and holds the
store that is left in the end. -/
theorem performAll_database (hs : Holdable s) (ops : List (Instant × Operation))
    (hops : ∀ step ∈ ops, Covered step.2) :
    database.backend.performAll ops (holding s) =
      ((Backend.ofStore.performAll ops s).1, holding (Backend.ofStore.performAll ops s).2) := by
  induction ops generalizing s with
  | nil => rfl
  | cons head rest ih =>
    obtain ⟨hhead, hrest⟩ := List.forall_mem_cons.1 hops
    have hleft : Holdable (Backend.ofStore.perform head.1 head.2 s).2 := by
      rw [Backend.perform_ofStore]
      exact hs.step head.1 hhead
    unfold Backend.performAll
    rw [perform_database hs head.1 hhead]
    simp only [ih hleft hrest]

end Tables

end Sql

end LeaseQueue
