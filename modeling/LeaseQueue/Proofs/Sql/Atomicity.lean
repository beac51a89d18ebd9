import LeaseQueue.Proofs.Sql.Courses
import LeaseQueue.Proofs.Sql.Refinement

/-!
# Calls take effect as a whole or not at all

Whatever a database answers to the statements of a call that writes, the call asks for a commit at
most once, after everything else has succeeded, and reports success exactly when the commit
succeeds (`AllOrNothing`); without a commit nothing is left of it (`LeavesNothing`).  What is
committed is the job together with the statistics that belong to it (`writes_all_or_nothing`).

All of this is read off the courses that a transaction and its body can take.
-/

namespace LeaseQueue

namespace Sql

/-- Whether a command asks for a commit. -/
def Command.isCommit : Command → Bool
  | .commit => true
  | .begin | .rollback | .runScript _ | .noteMigration _ | .execute _ => false

namespace Database

variable {δ α τ : Type} {db : Database δ}

/-! ### All or nothing -/

/-- Nothing that is not a commit counts as one. -/
lemma countP_isCommit {said : List Exchange} (h : ∀ x ∈ said, x.command ≠ .commit) :
    said.countP (fun x => x.command.isCommit) = 0 := by
  refine List.countP_eq_zero.2 fun x hx hcommit => h x hx ?_
  cases hcommand : x.command with
  | commit => rfl
  | begin | rollback | runScript | noteMigration | execute =>
    rw [hcommand] at hcommit
    cases hcommit

/-- There is no commit in a beginning and statements. -/
lemma command_ne_commit {work : List Exchange} {begun : Except DbError (List Row)}
    (hwork : ∀ x ∈ work, x.IsStatement) : ∀ x ∈ ⟨.begin, begun⟩ :: work, x.command ≠ .commit := by
  refine List.forall_mem_cons.2 ⟨nofun, fun x hx => ?_⟩
  obtain ⟨statement, hstatement⟩ := hwork x hx
  rw [hstatement]
  nofun

/-- A single commit has a single answer. -/
lemma eq_of_commit_mem {before rest : List Exchange} {answer answer' : Except DbError (List Row)}
    (hbefore : ∀ x ∈ before, x.command ≠ .commit) (hrest : ∀ x ∈ rest, x.command ≠ .commit)
    (h : ⟨.commit, answer'⟩ ∈ before ++ ⟨.commit, answer⟩ :: rest) : answer' = answer := by
  rcases List.mem_append.1 h with h | h
  · exact absurd rfl (hbefore _ h)
  · rcases List.mem_cons.1 h with h | h
    · exact congrArg Exchange.answer h
    · exact absurd rfl (hrest _ h)

/-- A transaction whose body consists of statements goes without a commit, and then gives at most
what its body gave up with, or it goes up to the one commit that its body wants, and then gives what
came of that. -/
lemma commit_cases {P : List Exchange → Except StoreError (Resolution α) → Prop}
    {said : List Exchange} {result : Except StoreError α}
    (hstatements : ∀ work r, P work r → ∀ x ∈ work, x.IsStatement) (h : Bracketed P said result) :
    ((∀ x ∈ said, x.command ≠ .commit) ∧ ∀ a, result = .ok a → ∃ work, P work (.ok (.abandon a))) ∨
      ∃ rows work a answer rest, P work (.ok (.commit a)) ∧
        said = ⟨.begin, .ok rows⟩ :: work ++ ⟨.commit, answer⟩ :: rest ∧
        (∀ x ∈ rest, x.command ≠ .commit) ∧
        result = (answer.mapError DbError.storeError).map fun _ => a := by
  have hrolled : ∀ {rows : List Row} {work : List Exchange} {r : Except StoreError (Resolution α)}
      {undone : Except DbError (List Row)}, P work r →
      ∀ x ∈ ⟨.begin, .ok rows⟩ :: work ++ [⟨.rollback, undone⟩], x.command ≠ .commit := by
    intro rows work r undone hwork x hx
    rcases List.mem_append.1 hx with hx | hx
    · exact command_ne_commit (hstatements work r hwork) x hx
    · rw [List.mem_singleton.1 hx]
      nofun
  cases h with
  | unbegun => exact .inl ⟨by simp, nofun⟩
  | failed hwork => exact .inl ⟨hrolled hwork, nofun⟩
  | abandoned hwork =>
    refine .inl ⟨hrolled hwork, fun a h => ?_⟩
    cases h
    exact ⟨_, hwork⟩
  | uncommitted hwork => exact .inr ⟨_, _, _, _, _, hwork, rfl, by simp, rfl⟩
  | committed hwork => exact .inr ⟨_, _, _, _, _, hwork, rfl, by simp, rfl⟩

/-- Whether a call asks for a commit as it should, given the results that say that it took effect. -/
structure AllOrNothing (said : List Exchange) (result : Except StoreError α) (done : α → Prop) :
    Prop where
  /-- A commit is asked for at most once. -/
  once : said.countP (fun x => x.command.isCommit) ≤ 1
  /-- Whatever was said before a commit succeeded. -/
  after : said.Pairwise fun x y => y.command = .commit → x.Succeeded
  /-- The call reports that it took effect exactly when a commit succeeded. -/
  done_iff : (∃ a, result = .ok a ∧ done a) ↔ ∃ rows, ⟨.commit, .ok rows⟩ ∈ said
  /-- If it does not report so, it was without a commit, or the commit failed. -/
  undone : (∀ a, result = .ok a → ¬ done a) → (∀ answer, ⟨.commit, answer⟩ ∉ said) ∨
    ∃ e, ⟨.commit, .error e⟩ ∈ said ∧ result = .error e.storeError

namespace AllOrNothing

variable {said work : List Exchange} {result : Except StoreError α} {done : α → Prop}

/-- Without a commit, if the call does not report that it took effect. -/
lemma of_none (hsaid : ∀ x ∈ said, x.command ≠ .commit) (hresult : ∀ a, result = .ok a → ¬ done a) :
    AllOrNothing said result done where
  once := by
    rw [countP_isCommit hsaid]
    exact Nat.zero_le 1
  after := List.pairwise_of_forall_mem_list fun _ _ y hy h => absurd h (hsaid y hy)
  done_iff := by
    constructor
    · rintro ⟨a, h, ha⟩
      exact absurd ha (hresult a h)
    · rintro ⟨rows, h⟩
      exact absurd rfl (hsaid _ h)
  undone := fun _ => .inl fun answer h => hsaid _ h rfl

/-- With one commit that comes after everything else succeeded, if the call reports what came of
it. -/
lemma of_one {before after : List Exchange} {answer : Except DbError (List Row)}
    (hbefore : ∀ x ∈ before, x.command ≠ .commit ∧ x.Succeeded)
    (hafter : ∀ x ∈ after, x.command ≠ .commit)
    (hok : (∃ a, result = .ok a ∧ done a) ↔ ∃ rows, answer = .ok rows)
    (herror : ∀ e, answer = .error e → result = .error e.storeError) :
    AllOrNothing (before ++ ⟨.commit, answer⟩ :: after) result done := by
  have hsaid : ⟨.commit, answer⟩ ∈ before ++ ⟨.commit, answer⟩ :: after :=
    List.mem_append_right _ List.mem_cons_self
  constructor
  · rw [List.countP_append, List.countP_cons, countP_isCommit fun x hx => (hbefore x hx).1,
      countP_isCommit hafter]
    rfl
  · refine List.pairwise_append.2 ⟨?_, ?_, fun x hx _ _ _ => (hbefore x hx).2⟩
    · exact List.pairwise_of_forall_mem_list fun x hx _ _ _ => (hbefore x hx).2
    · refine List.pairwise_cons.2 ⟨fun y hy h => absurd h (hafter y hy), ?_⟩
      exact List.pairwise_of_forall_mem_list fun _ _ y hy h => absurd h (hafter y hy)
  · refine hok.trans ⟨?_, ?_⟩
    · rintro ⟨rows, rfl⟩
      exact ⟨rows, hsaid⟩
    · rintro ⟨rows, h⟩
      exact ⟨rows, (eq_of_commit_mem (fun x hx => (hbefore x hx).1) hafter h).symm⟩
  · intro hresult
    cases answer with
    | error e => exact .inr ⟨e, hsaid, herror e rfl⟩
    | ok rows =>
      obtain ⟨a, h, ha⟩ := hok.2 ⟨rows, rfl⟩
      exact absurd ha (hresult a h)

/-- A transaction asks for a commit as it should if its body consists of statements, wants a commit
only when they succeeded and what it gives says so, and otherwise gives something that does not. -/
lemma of_bracketed {P : List Exchange → Except StoreError (Resolution α) → Prop}
    (hstatements : ∀ work r, P work r → ∀ x ∈ work, x.IsStatement)
    (hcommit : ∀ work a, P work (.ok (.commit a)) → done a ∧ ∀ x ∈ work, x.Succeeded)
    (habandon : ∀ work a, P work (.ok (.abandon a)) → ¬ done a) (h : Bracketed P said result) :
    AllOrNothing said result done := by
  rcases commit_cases hstatements h with ⟨hsaid, hresult⟩ |
    ⟨rows, work, a, answer, rest, hwork, rfl, hrest, rfl⟩
  · refine of_none hsaid fun a ha => ?_
    obtain ⟨work, hwork⟩ := hresult a ha
    exact habandon work a hwork
  · obtain ⟨ha, hsucceeded⟩ := hcommit work a hwork
    refine of_one ?_ hrest ?_ ?_
    · intro x hx
      refine ⟨command_ne_commit (hstatements work _ hwork) x hx, ?_⟩
      rcases List.mem_cons.1 hx with rfl | hx
      · exact ⟨rows, rfl⟩
      · exact hsucceeded x hx
    · rcases answer with e | rows'
      · exact iff_of_false (fun ⟨_, h, _⟩ => by cases h) (fun ⟨_, h⟩ => by cases h)
      · exact iff_of_true ⟨a, rfl, ha⟩ ⟨rows', rfl⟩
    · rintro e rfl
      rfl

end AllOrNothing

/-! ### What is left without a commit -/

/-- Whether a database keeps to itself what is done `inside` a transaction: neither the beginning,
nor the statements in it, nor a rollback change what it shows to others. -/
structure Isolates (db : Database δ) (shown : δ → τ) (inside : δ → Prop) : Prop where
  begin_shown : ∀ c, ¬ inside c → shown (db .begin c).2 = shown c
  begin_inside : ∀ c rows, (db .begin c).1 = .ok rows → inside (db .begin c).2
  execute_shown : ∀ c statement, inside c → shown (db (.execute statement) c).2 = shown c
  execute_inside : ∀ c statement, inside c → inside (db (.execute statement) c).2
  rollback_shown : ∀ c, shown (db .rollback c).2 = shown c

namespace Isolates

variable {shown : δ → τ} {inside : δ → Prop} {c c' : δ} {said work : List Exchange}

/-- Statements in a transaction change nothing that is shown. -/
lemma shown_of_statements (h : Isolates db shown inside) (hwork : Conversation db c work c')
    (hstatements : ∀ x ∈ work, x.IsStatement) (hc : inside c) : shown c' = shown c := by
  induction hwork with
  | nil => rfl
  | @cons c c₁ c' command answer rest hanswer hrest ih =>
    obtain ⟨⟨statement, hstatement⟩, hrest⟩ := List.forall_mem_cons.1 hstatements
    simp only at hstatement
    subst hstatement
    have hleft : (db (.execute statement) c).2 = c₁ := congrArg Prod.snd hanswer
    have hshown := h.execute_shown c statement hc
    have hinside := h.execute_inside c statement hc
    rw [hleft] at hshown hinside
    exact (ih hrest hinside).trans hshown

/-- A transaction without a commit changes nothing that is shown. -/
lemma shown_of_bracketed {P : List Exchange → Except StoreError (Resolution α) → Prop}
    {result : Except StoreError α} (h : Isolates db shown inside)
    (hstatements : ∀ work r, P work r → ∀ x ∈ work, x.IsStatement)
    (hbracketed : Bracketed P said result) (hsaid : Conversation db c said c') (hc : ¬ inside c)
    (hcommit : ∀ answer, ⟨.commit, answer⟩ ∉ said) : shown c' = shown c := by
  have hrolled : ∀ {d d' : δ} {undone : Except DbError (List Row)},
      Conversation db d [⟨.rollback, undone⟩] d' → shown d' = shown d := by
    intro d d' undone hrollback
    cases hrollback with
    | cons hanswer hnil =>
      cases hnil
      rw [← h.rollback_shown d, hanswer]
  have hundone : ∀ {rows : List Row} {work : List Exchange}
      {r : Except StoreError (Resolution α)} {undone : Except DbError (List Row)}, P work r →
      Conversation db c (⟨.begin, .ok rows⟩ :: work ++ [⟨.rollback, undone⟩]) c' →
      shown c' = shown c := by
    intro rows work r undone hwork hsaid
    obtain ⟨d, hbegun, hrollback⟩ := hsaid.split
    cases hbegun with
    | @cons _ c₁ _ _ _ _ hanswer hconversation =>
      have hbegin := h.begin_shown c hc
      have hinside := h.begin_inside c rows (congrArg Prod.fst hanswer)
      rw [hanswer] at hbegin hinside
      calc shown c' = shown d := hrolled hrollback
        _ = shown c₁ := h.shown_of_statements hconversation (hstatements _ _ hwork) hinside
        _ = shown c := hbegin
  cases hbracketed with
  | unbegun =>
    cases hsaid with
    | @cons _ c₁ _ _ _ _ hanswer hrest =>
      have hbegin := h.begin_shown c hc
      rw [hanswer] at hbegin
      exact (hrolled hrest).trans hbegin
  | failed hwork => exact hundone hwork hsaid
  | abandoned hwork => exact hundone hwork hsaid
  | uncommitted hwork => exact absurd (List.mem_append_right _ List.mem_cons_self) (hcommit _)
  | committed hwork => exact absurd (List.mem_append_right _ List.mem_cons_self) (hcommit _)

end Isolates

/-- A database of tables keeps to itself what is done inside a transaction: it shows the tables
that were there when the transaction began. -/
lemma isolates_tables :
    Isolates Tables.database (fun c => c.before.getD c.tables) fun c => c.before.isSome where
  begin_shown := by
    rintro ⟨tables, _ | before⟩ hc
    · rfl
    · exact absurd rfl hc
  begin_inside := fun _ _ _ => rfl
  execute_shown := by
    rintro ⟨tables, _ | before⟩ statement hc
    · cases hc
    · rfl
  execute_inside := fun _ _ hc => hc
  rollback_shown := fun _ => rfl

/-! ### The two calls -/

/-- What comes before a commit is a beginning and the course of a body that wants the commit. -/
lemma exists_work {P : List Exchange → Except StoreError (Resolution α) → Prop}
    {said : List Exchange} {result : Except StoreError α} {answer : Except DbError (List Row)}
    (hstatements : ∀ work r, P work r → ∀ x ∈ work, x.IsStatement) (h : Bracketed P said result)
    (hsaid : ⟨.commit, answer⟩ ∈ said) : ∃ rows work a, P work (.ok (.commit a)) ∧
      ⟨.begin, .ok rows⟩ :: work ++ [⟨.commit, answer⟩] <+: said := by
  rcases commit_cases hstatements h with ⟨hnone, -⟩ |
    ⟨rows, work, a, answer', rest, hwork, rfl, hrest, -⟩
  · exact absurd rfl (hnone _ hsaid)
  · obtain rfl := eq_of_commit_mem (command_ne_commit (hstatements work _ hwork)) hrest hsaid
    refine ⟨rows, work, a, hwork, rest, ?_⟩
    simp

/-- Whether nothing that others see is left of a call without a commit, on every database that keeps
to itself what is done inside a transaction. -/
def LeavesNothing (db : Database δ) (c : δ) (said : List Exchange) (c' : δ) : Prop :=
  ∀ (τ : Type) (shown : δ → τ) (inside : δ → Prop), Isolates db shown inside → ¬ inside c →
    (∀ answer, ⟨.commit, answer⟩ ∉ said) → shown c' = shown c

/-- What an enqueue says to a database, and what it comes to. -/
structure Enqueued (now : Instant) (fresh : Ident) (submission : Submission) (said : List Exchange)
    (result : Except StoreError Ident) : Prop where
  allOrNothing : AllOrNothing said result fun _ => True
  /-- An invalid submission does not reach the database. -/
  invalid : ∀ reason, submission.validate = .error reason →
    said = [] ∧ result = .error (.invalid reason)
  /-- A duplicate is reported exactly when the insertion of the job violates uniqueness. -/
  duplicate_iff : ∀ id, result = .error (.duplicateJob id) ↔
    id = (submission.pendingJob fresh now).id ∧ ∃ message,
      ⟨.execute (.insertJob (submission.pendingJob fresh now)),
        .error (.refused DbError.uniqueViolation message)⟩ ∈ said
  /-- A commit is for the job of the submission together with its count. -/
  committed : ∀ answer, ⟨.commit, answer⟩ ∈ said →
    [.begin, .execute (.insertJob (submission.pendingJob fresh now)),
      .execute (.addStats submission.queue now.date .ofEnqueue), .commit] <+:
        said.map Exchange.command

/-- What a move says to a database, and what it comes to. -/
structure Moved (now : Instant) (id : Ident) (m : Move) (said : List Exchange)
    (result : Except StoreError Transition) : Prop where
  allOrNothing : AllOrNothing said result (· = .applied)
  /-- A commit is for the change of a job whose row was read and allows it, together with the
  statistics that belong to the row, which there are for a completion and a failure. -/
  committed : ∀ answer, ⟨.commit, answer⟩ ∈ said → ∃ row rows locked,
    ⟨.execute (.lockJob id), .ok (row :: rows)⟩ ∈ said ∧ LockedRow.ofRow row = .ok locked ∧
    locked.allows m = true ∧ (locked.delta? m now).isSome = m.isCounted ∧
    [.begin, .execute (.lockJob id), .execute (.ofMove id now m)] ++
      ((locked.delta? m now).toList.map fun d => .execute (.addStats locked.queue now.date d)) ++
      [.commit] <+: said.map Exchange.command

/-- Nothing is left of a transaction without a commit. -/
lemma leavesNothing_of_bracketed {P : List Exchange → Except StoreError (Resolution α) → Prop}
    {c c' : δ} {said : List Exchange} {result : Except StoreError α}
    (hstatements : ∀ work r, P work r → ∀ x ∈ work, x.IsStatement) (h : Bracketed P said result)
    (hsaid : Conversation db c said c') : LeavesNothing db c said c' :=
  fun _ _ _ hisolates hc hcommit =>
    hisolates.shown_of_bracketed hstatements h hsaid hc hcommit

namespace Enqueued

variable {now : Instant} {fresh : Ident} {submission : Submission}

/-- An invalid submission is refused without a word to the database. -/
lemma of_invalid {reason : Invalid} (hinvalid : submission.validate = .error reason) :
    Enqueued now fresh submission [] (.error (.invalid reason)) where
  allOrNothing := .of_none (List.forall_mem_nil _) nofun
  invalid := by
    intro reason' h
    rw [hinvalid] at h
    cases h
    exact ⟨rfl, rfl⟩
  duplicate_iff := by
    intro id
    simp
  committed := nofun

/-- A valid submission is put in by a transaction. -/
lemma of_bracketed {said : List Exchange} {result : Except StoreError Ident}
    (hvalid : submission.validate = .ok ())
    (h : Bracketed (Insertion (submission.pendingJob fresh now)
      (.addStats submission.queue now.date .ofEnqueue)) said result) :
    Enqueued now fresh submission said result where
  allOrNothing := .of_bracketed (fun _ _ hwork => hwork.isStatement)
    (fun _ _ hwork => ⟨trivial, hwork.of_commit.2⟩) (fun _ _ hwork _ => hwork.not_abandon) h
  invalid := by
    intro reason hinvalid
    rw [hvalid] at hinvalid
    cases hinvalid
  duplicate_iff := by
    intro id
    cases h with
    | unbegun => simp [DbError.storeError]
    | failed hwork =>
      cases hwork with
      | duplicate => simp [eq_comm]
      | refused hother =>
        refine ⟨nofun, ?_⟩
        rintro ⟨-, message, hmem⟩
        simp only [List.cons_append, List.nil_append, List.mem_cons, Exchange.mk.injEq,
          reduceCtorEq, false_and, List.not_mem_nil, or_false, false_or, true_and,
          Except.error.injEq] at hmem
        exact absurd hmem.symm (hother message)
      | uncounted => simp [DbError.storeError]
    | abandoned hwork => exact hwork.not_abandon.elim
    | uncommitted hwork =>
      cases hwork
      simp [DbError.storeError]
    | committed hwork =>
      cases hwork
      simp
  committed := by
    intro answer hsaid
    obtain ⟨rows, work, a, hwork, rest, rfl⟩ :=
      exists_work (fun _ _ hwork => hwork.isStatement) h hsaid
    refine ⟨rest.map Exchange.command, ?_⟩
    simp [hwork.of_commit.1]

end Enqueued

/-- A move goes by a transaction. -/
lemma Moved.of_bracketed {now : Instant} {id : Ident} {m : Move} {said : List Exchange}
    {result : Except StoreError Transition} (h : Bracketed (Change id m now) said result) :
    Moved now id m said result where
  allOrNothing := .of_bracketed (fun _ _ hwork => hwork.isStatement)
    (fun _ _ hwork => ⟨hwork.of_commit.1, hwork.of_commit.2.1⟩)
    (fun _ _ hwork => hwork.of_abandon) h
  committed := by
    intro answer hsaid
    obtain ⟨rows, work, t, hwork, rest, rfl⟩ :=
      exists_work (fun _ _ hwork => hwork.isStatement) h hsaid
    obtain ⟨-, -, row, rows', locked, hrow, hread, hallows, hcommands⟩ := hwork.of_commit
    refine ⟨row, rows', locked, ?_, hread, hallows, locked.isSome_delta? m now,
      rest.map Exchange.command, ?_⟩
    · exact List.mem_append_left _ (List.mem_append_left _ (List.mem_cons_of_mem _ hrow))
    · simp [hcommands]

/-- The calls that write take effect as a whole or not at all: whatever the arguments are, and
whatever the database answers to each command. -/
theorem writes_all_or_nothing (db : Database δ) (c : δ) (now : Instant) :
    (∀ fresh submission, ∃ result c' said,
      db.transcribed.enqueue now fresh submission (c, []) = (result, (c', said)) ∧
      Conversation db c said c' ∧ Enqueued now fresh submission said result ∧
      LeavesNothing db c said c') ∧
    ∀ id m, ∃ result c' said,
      db.transcribed.move now id m (c, []) = (result, (c', said)) ∧
      Conversation db c said c' ∧ Moved now id m said result ∧ LeavesNothing db c said c' := by
  constructor
  · intro fresh submission
    cases hvalid : submission.validate with
    | error reason =>
      refine ⟨.error (.invalid reason), c, [], ?_, .nil, .of_invalid hvalid, fun _ _ _ _ _ _ => rfl⟩
      unfold Database.enqueue
      rw [Submission.toJob_of_invalid hvalid]
      rfl
    | ok =>
      obtain ⟨result, c', said, hrun, hsaid, h⟩ :=
        Tells.enqueue db (Submission.toJob_eq_ok_iff.2 ⟨hvalid, rfl⟩) c []
      exact ⟨result, c', said, hrun, hsaid, .of_bracketed hvalid h,
        leavesNothing_of_bracketed (fun _ _ hwork => hwork.isStatement) h hsaid⟩
  · intro id m
    obtain ⟨result, c', said, hrun, hsaid, h⟩ := Tells.move db now id m c []
    exact ⟨result, c', said, hrun, hsaid, .of_bracketed h,
      leavesNothing_of_bracketed (fun _ _ hwork => hwork.isStatement) h hsaid⟩

/-- Tables that refuse to add to the statistics. -/
def refusingStats : Database Tables.Live := fun command c =>
  match command with
  | .execute (.addStats _ _ _) => (.error (.refused "53100" "disk full"), c)
  | _ => Tables.database command c

/-- They keep to themselves what is done inside a transaction as well. -/
lemma isolates_refusingStats :
    Isolates refusingStats (fun c => c.before.getD c.tables) fun c => c.before.isSome where
  begin_shown := isolates_tables.begin_shown
  begin_inside := isolates_tables.begin_inside
  execute_shown := by
    rintro c statement hc
    cases statement with
    | addStats => rfl
    | _ => exact isolates_tables.execute_shown c _ hc
  execute_inside := by
    rintro c statement hc
    cases statement with
    | addStats => exact hc
    | _ => exact isolates_tables.execute_inside c _ hc
  rollback_shown := isolates_tables.rollback_shown

/-- A mail in hand is completed, its row is changed, and then the statistics are refused: the answer
is the error of the database, and the tables are those from before. -/
theorem uncounted_completion_leaves_nothing :
    let before := Tables.holding (Store.empty.run Tables.urgentMail).2
    let call := refusingStats.transcribed.move .epoch (.ofNat 2) (.complete []) (before, [])
    call.1 = .error (.database "error returned from database: disk full") ∧
      call.2.2.map (fun x => (x.command.isCommit, x.answer.isOk)) =
        [(false, true), (false, true), (false, true), (false, false), (false, true)] ∧
      call.2.1.before.getD call.2.1.tables = before.tables := by
  intro before call
  obtain ⟨result, c', said, hrun, -, -, hleaves⟩ :=
    (writes_all_or_nothing refusingStats before .epoch).2 (.ofNat 2) (.complete [])
  have hcall : call = (result, (c', said)) := hrun
  have hsaid : call.2.2.all (fun x => !x.command.isCommit) = true := by rfl
  refine ⟨rfl, rfl, ?_⟩
  rw [hcall] at hsaid ⊢
  refine hleaves _ _ _ isolates_refusingStats (by rintro ⟨⟩) fun answer hmem => ?_
  exact absurd (List.all_eq_true.1 hsaid _ hmem) Bool.false_ne_true

end Database

end Sql

end LeaseQueue
