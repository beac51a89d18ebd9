import LeaseQueue.Proofs.Sql.Conversation

/-!
# The courses of the calls that write

A call that writes says its statements between the brackets of a transaction.  `Insertion` lists the
courses that the statements of an enqueue can take, and `Change` those of a move, each with what the
call makes of it; `Tells.enqueue` and `Tells.move` say that there are no others.
-/

namespace LeaseQueue

/-- Whether a move counts in the statistics. -/
def Move.isCounted : Move → Bool
  | complete _ | fail _ => true
  | retry _ | cancel => false

namespace Sql

/-- What a completion or a failure adds to the statistics is never left out, and nothing is added for
the other moves. -/
lemma LockedRow.isSome_delta? (locked : LockedRow) (m : Move) (now : Instant) :
    (locked.delta? m now).isSome = m.isCounted := by
  cases m <;> rfl

/-- Whether what the database was told is a statement. -/
def Exchange.IsStatement (x : Exchange) : Prop := ∃ statement, x.command = .execute statement

namespace Database

variable {δ α : Type} {db : Database δ}

/-! ### The courses of the bodies -/

/-- How the insertion of a job and of its count can go. -/
inductive Insertion (job : Job) (count : Statement) :
    List Exchange → Except StoreError (Resolution Ident) → Prop
  | duplicate {message : String} :
      Insertion job count
        [⟨.execute (.insertJob job), .error (.refused DbError.uniqueViolation message)⟩]
        (.error (.duplicateJob job.id))
  | refused {e : DbError} (hother : ∀ message, e ≠ .refused DbError.uniqueViolation message) :
      Insertion job count [⟨.execute (.insertJob job), .error e⟩] (.error e.storeError)
  | uncounted {rows : List Row} {e : DbError} :
      Insertion job count [⟨.execute (.insertJob job), .ok rows⟩, ⟨.execute count, .error e⟩]
        (.error e.storeError)
  | counted {rows rows' : List Row} :
      Insertion job count [⟨.execute (.insertJob job), .ok rows⟩, ⟨.execute count, .ok rows'⟩]
        (.ok (.commit job.id))

/-- How the change of a job can go after its row was read, with the statistics that belong to it. -/
inductive Changing (id : Ident) (m : Move) (now : Instant) (locked : LockedRow) :
    List Exchange → Except StoreError (Resolution Transition) → Prop
  | skipped (hallows : locked.allows m = false) :
      Changing id m now locked [] (.ok (.abandon (.skipped locked.status)))
  | unchanged {e : DbError} :
      Changing id m now locked [⟨.execute (.ofMove id now m), .error e⟩] (.error e.storeError)
  | uncounted {rows : List Row} {d : Stats.Delta} {e : DbError} :
      Changing id m now locked
        [⟨.execute (.ofMove id now m), .ok rows⟩,
          ⟨.execute (.addStats locked.queue now.date d), .error e⟩]
        (.error e.storeError)
  | counted {rows rows' : List Row} {d : Stats.Delta} (hallows : locked.allows m = true)
      (hdelta : locked.delta? m now = some d) :
      Changing id m now locked
        [⟨.execute (.ofMove id now m), .ok rows⟩,
          ⟨.execute (.addStats locked.queue now.date d), .ok rows'⟩]
        (.ok (.commit .applied))
  | uncountable {rows : List Row} (hallows : locked.allows m = true)
      (hdelta : locked.delta? m now = none) :
      Changing id m now locked [⟨.execute (.ofMove id now m), .ok rows⟩] (.ok (.commit .applied))

/-- How looking at a job and changing it can go. -/
inductive Change (id : Ident) (m : Move) (now : Instant) :
    List Exchange → Except StoreError (Resolution Transition) → Prop
  | refused {e : DbError} :
      Change id m now [⟨.execute (.lockJob id), .error e⟩] (.error e.storeError)
  | unknown :
      Change id m now [⟨.execute (.lockJob id), .ok []⟩] (.error (.jobNotFound id))
  | unreadable {row : Row} {rows : List Row} {e : DbError}
      (hread : LockedRow.ofRow row = .error e) :
      Change id m now [⟨.execute (.lockJob id), .ok (row :: rows)⟩] (.error e.storeError)
  | read {row : Row} {rows : List Row} {locked : LockedRow} {said : List Exchange}
      {result : Except StoreError (Resolution Transition)}
      (hread : LockedRow.ofRow row = .ok locked)
      (hrest : Changing id m now locked said result) :
      Change id m now (⟨.execute (.lockJob id), .ok (row :: rows)⟩ :: said) result

namespace Tells

/-- How inserting a job can go. -/
lemma insertJob (job : Job) :
    Tells db (db.transcribed.insertJob job) fun said r =>
      (∃ rows, said = [⟨.execute (.insertJob job), .ok rows⟩] ∧ r = .ok ()) ∨
        (∃ message, said = [⟨.execute (.insertJob job),
            .error (.refused DbError.uniqueViolation message)⟩] ∧
          r = .error (.duplicateJob job.id)) ∨
        ∃ e, (∀ message, e ≠ .refused DbError.uniqueViolation message) ∧
          said = [⟨.execute (.insertJob job), .error e⟩] ∧ r = .error e.storeError := by
  intro c log
  obtain ⟨answer, c', hanswer⟩ : ∃ answer c', db (.execute (.insertJob job)) c = (answer, c') :=
    ⟨_, _, rfl⟩
  have htranscribed : db.transcribed (.execute (.insertJob job)) (c, log) =
      (answer, (c', log ++ [⟨.execute (.insertJob job), answer⟩])) := by
    unfold transcribed
    rw [hanswer]
  have hsaid := Conversation.cons hanswer Conversation.nil
  unfold Database.insertJob
  simp only [htranscribed]
  rcases answer with (⟨code, message⟩ | column) | rows
  · by_cases hcode : code = DbError.uniqueViolation
    · subst hcode
      exact ⟨_, c', _, by simp only [if_true], hsaid, .inr (.inl ⟨message, rfl, rfl⟩)⟩
    · refine ⟨_, c', _, by simp only [hcode, if_false], hsaid, .inr (.inr ⟨_, ?_, rfl, rfl⟩)⟩
      intro message' h
      exact hcode (DbError.refused.inj h).1
  · refine ⟨_, c', _, rfl, hsaid, .inr (.inr ⟨_, ?_, rfl, rfl⟩)⟩
    intro message h
    cases h
  · exact ⟨_, c', _, rfl, hsaid, .inl ⟨rows, rfl, rfl⟩⟩

/-- How inserting a job and counting it can go. -/
lemma insertion (job : Job) (count : Statement) :
    Tells db (do
      db.transcribed.insertJob job
      db.transcribed.execute count
      return Resolution.commit job.id) (Insertion job count) := by
  refine (bind (insertJob job) fun _ => bind (execute count) fun _ => of_pure _).mono ?_
  intro said result h
  cases h with
  | stopped hfirst =>
    rcases hfirst with ⟨rows, -, h⟩ | ⟨message, rfl, h⟩ | ⟨e, hother, rfl, h⟩
    · cases h
    · cases h
      exact .duplicate
    · cases h
      exact .refused hother
  | followed hfirst hsecond =>
    rcases hfirst with ⟨rows, rfl, -⟩ | ⟨message, -, h⟩ | ⟨e, -, -, h⟩
    · cases hsecond with
      | stopped hcount =>
        obtain ⟨answer, rfl, h⟩ := hcount
        cases answer with
        | error e =>
          cases h
          exact .uncounted
        | ok rows' => cases h
      | followed hcount hend =>
        obtain ⟨answer, rfl, h⟩ := hcount
        obtain ⟨rfl, rfl⟩ := hend
        cases answer with
        | error e => cases h
        | ok rows' => exact .counted
    · cases h
    · cases h

/-- How reading the first row of a statement can go. -/
lemma fetch? {statement : Statement} {decode : Row → Except DbError α} :
    Tells db (db.transcribed.fetch? statement decode) fun said r =>
      (∃ e, said = [⟨.execute statement, .error e⟩] ∧ r = .error e.storeError) ∨
        (said = [⟨.execute statement, .ok []⟩] ∧ r = .ok none) ∨
        ∃ row rows, said = [⟨.execute statement, .ok (row :: rows)⟩] ∧
          r = ((decode row).mapError DbError.storeError).map some := by
  intro c log
  obtain ⟨result, c', said, hrun, hsaid, answer, rfl, rfl⟩ := run (.execute statement) c log
  unfold Database.fetch?
  rcases answer with e | rows
  · rw [Action.bind_of_error hrun]
    exact ⟨_, c', _, rfl, hsaid, .inl ⟨e, rfl, rfl⟩⟩
  · rw [Action.bind_of_ok hrun]
    rcases rows with _ | ⟨row, rows⟩
    · exact ⟨_, c', _, rfl, hsaid, .inr (.inl ⟨rfl, rfl⟩)⟩
    · refine ⟨((decode row).mapError DbError.storeError).map some, c', _, ?_, hsaid,
        .inr (.inr ⟨row, rows, rfl, rfl⟩)⟩
      show (decoded (decode row) >>= fun a => pure (some a) :
        Action (δ × List Exchange) StoreError (Option α)) _ = _
      unfold decoded
      cases decode row <;> rfl

/-- How changing a job can go after its row was read. -/
lemma changing (id : Ident) (m : Move) (now : Instant) (locked : LockedRow) :
    Tells db
      (if locked.allows m then do
        db.transcribed.execute (.ofMove id now m)
        match locked.delta? m now with
        | some d => db.transcribed.execute (.addStats locked.queue now.date d)
        | none => pure ()
        return Resolution.commit Transition.applied
      else return Resolution.abandon (Transition.skipped locked.status)) (Changing id m now locked) := by
  cases hallows : locked.allows m with
  | false =>
    refine (of_pure _).mono ?_
    rintro said result ⟨rfl, rfl⟩
    exact .skipped hallows
  | true =>
    cases hdelta : locked.delta? m now with
    | none =>
      refine (bind (execute _) fun _ => of_pure _).mono ?_
      rintro said result (⟨⟨answer, rfl, h⟩⟩ | ⟨⟨answer, rfl, h⟩, rfl, rfl⟩)
      · cases answer with
        | error e =>
          cases h
          exact .unchanged
        | ok rows => cases h
      · cases answer with
        | error e => cases h
        | ok rows => exact .uncountable hallows hdelta
    | some d =>
      refine (bind (execute _) fun _ => bind (execute _) fun _ => of_pure _).mono ?_
      rintro said result (⟨⟨answer, rfl, h⟩⟩ | ⟨⟨answer, rfl, h⟩, hrest⟩)
      · cases answer with
        | error e =>
          cases h
          exact .unchanged
        | ok rows => cases h
      · cases answer with
        | error e => cases h
        | ok rows =>
          rcases hrest with ⟨⟨answer, rfl, h⟩⟩ | ⟨⟨answer, rfl, h⟩, rfl, rfl⟩
          · cases answer with
            | error e =>
              cases h
              exact .uncounted
            | ok rows' => cases h
          · cases answer with
            | error e => cases h
            | ok rows' => exact .counted hallows hdelta

/-- How looking at a job and changing it can go. -/
lemma change (id : Ident) (m : Move) (now : Instant) :
    Tells db (do
      match ← db.transcribed.fetch? (.lockJob id) LockedRow.ofRow with
      | none => throw (.jobNotFound id)
      | some row =>
        if row.allows m then do
          db.transcribed.execute (.ofMove id now m)
          match row.delta? m now with
          | some d => db.transcribed.execute (.addStats row.queue now.date d)
          | none => pure ()
          return Resolution.commit Transition.applied
        else return Resolution.abandon (Transition.skipped row.status)) (Change id m now) := by
  have hrest : ∀ found : Option LockedRow, Tells db
      (match found with
      | none => throw (.jobNotFound id)
      | some row =>
        if row.allows m then do
          db.transcribed.execute (.ofMove id now m)
          match row.delta? m now with
          | some d => db.transcribed.execute (.addStats row.queue now.date d)
          | none => pure ()
          return Resolution.commit Transition.applied
        else return Resolution.abandon (Transition.skipped row.status))
      fun said result => (found = none ∧ said = [] ∧ result = .error (.jobNotFound id)) ∨
        ∃ locked, found = some locked ∧ Changing id m now locked said result := by
    rintro (_ | locked)
    · exact (of_throw _).mono fun said result h => .inl ⟨rfl, h⟩
    · exact (changing id m now locked).mono fun said result h => .inr ⟨locked, rfl, h⟩
  refine (bind fetch? hrest).mono ?_
  rintro said result (⟨⟨e, rfl, h⟩ | ⟨-, h⟩ | ⟨row, rows, rfl, h⟩⟩ |
    ⟨⟨e, -, h⟩ | ⟨rfl, h⟩ | ⟨row, rows, rfl, h⟩, hsecond⟩)
  · cases h
    exact .refused
  · cases h
  · cases hread : LockedRow.ofRow row with
    | error e =>
      rw [hread] at h
      cases h
      exact .unreadable hread
    | ok locked =>
      rw [hread] at h
      cases h
  · cases h
  · cases h
    rcases hsecond with ⟨-, rfl, rfl⟩ | ⟨locked, h, -⟩
    · exact .unknown
    · cases h
  · cases hread : LockedRow.ofRow row with
    | error e =>
      rw [hread] at h
      cases h
    | ok locked =>
      rw [hread] at h
      cases h
      rcases hsecond with ⟨h, -, -⟩ | ⟨locked', h, hchanging⟩
      · cases h
      · cases h
        exact .read hread hchanging

/-- The courses of an enqueue of a job that is valid. -/
lemma enqueue (db : Database δ) {now : Instant} {fresh : Ident} {submission : Submission} {job : Job}
    (hjob : submission.toJob fresh now = .ok job) :
    Tells db (db.transcribed.enqueue now fresh submission)
      (Bracketed (Insertion job (.addStats job.queue now.date .ofEnqueue))) := by
  unfold Database.enqueue
  rw [hjob]
  exact transaction (insertion job _)

/-- The courses of a move. -/
lemma move (db : Database δ) (now : Instant) (id : Ident) (m : Move) :
    Tells db (db.transcribed.move now id m) (Bracketed (Change id m now)) :=
  transaction (change id m now)

end Tells

/-! ### What the courses have in common -/

namespace Insertion

variable {job : Job} {count : Statement} {work : List Exchange}

/-- An insertion consists of statements. -/
lemma isStatement {r : Except StoreError (Resolution Ident)} (h : Insertion job count work r) :
    ∀ x ∈ work, x.IsStatement := by
  cases h <;> simp [Exchange.IsStatement]

/-- It wants a commit when the job is inserted and counted. -/
lemma of_commit {id : Ident} (h : Insertion job count work (.ok (.commit id))) :
    work.map Exchange.command = [.execute (.insertJob job), .execute count] ∧
      ∀ x ∈ work, x.Succeeded := by
  cases h
  simp [Exchange.Succeeded]

/-- It never gives up. -/
lemma not_abandon {id : Ident} (h : Insertion job count work (.ok (.abandon id))) : False := by
  cases h

end Insertion

namespace Change

variable {id : Ident} {m : Move} {now : Instant} {work : List Exchange}

/-- A change consists of statements. -/
lemma isStatement {r : Except StoreError (Resolution Transition)} (h : Change id m now work r) :
    ∀ x ∈ work, x.IsStatement := by
  cases h with
  | refused | unknown | unreadable => simp [Exchange.IsStatement]
  | read hread hrest => cases hrest <;> simp [Exchange.IsStatement]

/-- It wants a commit when a row was read that allows the move, the job is changed, and the
statistics that belong to it are. -/
lemma of_commit {t : Transition} (h : Change id m now work (.ok (.commit t))) :
    t = .applied ∧ (∀ x ∈ work, x.Succeeded) ∧ ∃ row rows locked,
      ⟨.execute (.lockJob id), .ok (row :: rows)⟩ ∈ work ∧ LockedRow.ofRow row = .ok locked ∧
      locked.allows m = true ∧ work.map Exchange.command =
        .execute (.lockJob id) :: .execute (.ofMove id now m) ::
          (locked.delta? m now).toList.map fun d =>
            .execute (.addStats locked.queue now.date d) := by
  cases h with
  | @read row rows locked _ _ hread hrest =>
    cases hrest with
    | counted hallows hdelta =>
      refine ⟨rfl, by simp [Exchange.Succeeded], row, rows, locked, by simp, hread, hallows, ?_⟩
      rw [hdelta]
      rfl
    | uncountable hallows hdelta =>
      refine ⟨rfl, by simp [Exchange.Succeeded], row, rows, locked, by simp, hread, hallows, ?_⟩
      rw [hdelta]
      rfl

/-- It gives up when the move does not apply. -/
lemma of_abandon {t : Transition} (h : Change id m now work (.ok (.abandon t))) : t ≠ .applied := by
  cases h with
  | read hread hrest =>
    cases hrest
    nofun

end Change

end Database

end Sql

end LeaseQueue
