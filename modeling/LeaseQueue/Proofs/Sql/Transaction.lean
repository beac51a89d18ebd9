import LeaseQueue.Proofs.Action
import LeaseQueue.Sql.Backend

/-!
# How calls to a database end

A call is a sequence of commands, which goes on as long as they succeed and ends with the first
error.  A transaction ends in one of three ways: its body asks for a commit, gives up, or fails.
-/

namespace LeaseQueue

namespace Sql

namespace Database

variable {δ α : Type} {db : Database δ} {c c' : δ} {rows : List Row}

/-! ### Single statements -/

/-- A command that succeeds gives its rows. -/
lemma run_of_ok {command : Command} (h : db command c = (.ok rows, c')) :
    db.run command c = (.ok rows, c') := by
  unfold run
  rw [h]

/-- A statement that succeeds has its effect. -/
lemma execute_of_ok {statement : Statement} (h : db (.execute statement) c = (.ok rows, c')) :
    db.execute statement c = (.ok (), c') := by
  unfold execute
  rw [Action.bind_of_ok (run_of_ok h)]
  rfl

/-- Without a row nothing is read. -/
lemma fetch?_of_none {statement : Statement} {decode : Row → Except DbError α}
    (h : db (.execute statement) c = (.ok rows, c')) (hrows : rows.head? = none) :
    db.fetch? statement decode c = (.ok none, c') := by
  obtain rfl : rows = [] := List.head?_eq_none_iff.1 hrows
  unfold fetch?
  rw [Action.bind_of_ok (run_of_ok h)]
  rfl

/-- The first row is read. -/
lemma fetch?_of_some {statement : Statement} {decode : Row → Except DbError α} {row : Row} {a : α}
    (h : db (.execute statement) c = (.ok rows, c')) (hrows : rows.head? = some row)
    (hrow : decode row = .ok a) : db.fetch? statement decode c = (.ok (some a), c') := by
  obtain ⟨rest, rfl⟩ := List.head?_eq_some_iff.1 hrows
  have hdecoded : (decoded (decode row) : Action δ StoreError α) c' = (.ok a, c') := by
    unfold decoded
    rw [hrow]
  unfold fetch?
  rw [Action.bind_of_ok (run_of_ok h)]
  show (decoded (decode row) >>= fun a => pure (some a) : Action δ StoreError (Option α)) c' = _
  rw [Action.bind_of_ok hdecoded]
  rfl

/-! ### Transactions -/

section Transaction

variable {body : Action δ StoreError (Resolution α)} {opened worked : δ} {a : α}

/-- A transaction whose body asks for a commit ends with the commit. -/
lemma transaction_of_commit {rows' : List Row} {ended : δ}
    (hbegin : db .begin c = (.ok rows, opened)) (hbody : body opened = (.ok (.commit a), worked))
    (hcommit : db .commit worked = (.ok rows', ended)) :
    db.transaction body c = (.ok a, ended) := by
  unfold transaction
  simp only [run_of_ok hbegin, hbody, run_of_ok hcommit]

/-- A transaction whose body gives up is rolled back. -/
lemma transaction_of_abandon (hbegin : db .begin c = (.ok rows, opened))
    (hbody : body opened = (.ok (.abandon a), worked)) :
    db.transaction body c = (.ok a, (db .rollback worked).2) := by
  unfold transaction
  simp only [run_of_ok hbegin, hbody]

/-- A transaction whose body fails is rolled back. -/
lemma transaction_of_error {e : StoreError} (hbegin : db .begin c = (.ok rows, opened))
    (hbody : body opened = (.error e, worked)) :
    db.transaction body c = (.error e, (db .rollback worked).2) := by
  unfold transaction
  simp only [run_of_ok hbegin, hbody]

end Transaction

end Database

end Sql

end LeaseQueue
