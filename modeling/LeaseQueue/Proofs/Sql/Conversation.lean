import LeaseQueue.Proofs.Sql.Transaction

/-!
# What a call says to a database

An exchange is a command with the answer to it, and a conversation is what a database answers to
commands one after the other.  `Database.transcribed` writes the conversation down, so that it can
be read off a call afterwards.

`Database.Tells db x P` says of an action `x` that whatever the database answers, the exchanges of
the action and its result are as `P` says.  There is one rule for each way of building actions:
`Tells.of_pure`, `Tells.of_throw`, `Tells.run`, `Tells.bind`, and `Tells.transaction` for the brackets of a
transaction, which lists the five courses that one can take.
-/

namespace LeaseQueue

namespace Sql

/-- A command, and what the database answers to it. -/
structure Exchange where
  command : Command
  answer : Except DbError (List Row)

/-- Whether the database did what it was told. -/
def Exchange.Succeeded (x : Exchange) : Prop := ∃ rows, x.answer = .ok rows

/-- Exchanges with a database that leads from one state of it to another. -/
inductive Conversation {δ : Type} (db : Database δ) : δ → List Exchange → δ → Prop
  | nil {c : δ} : Conversation db c [] c
  | cons {c c' c'' : δ} {command : Command} {answer : Except DbError (List Row)}
      {rest : List Exchange} (hanswer : db command c = (answer, c'))
      (hrest : Conversation db c' rest c'') : Conversation db c (⟨command, answer⟩ :: rest) c''

namespace Conversation

variable {δ : Type} {db : Database δ} {c c' c'' : δ} {said more : List Exchange}

/-- A single exchange. -/
lemma single (command : Command) (c : δ) :
    Conversation db c [⟨command, (db command c).1⟩] (db command c).2 :=
  cons rfl nil

/-- A conversation goes on. -/
lemma append (hsaid : Conversation db c said c') (hmore : Conversation db c' more c'') :
    Conversation db c (said ++ more) c'' := by
  induction hsaid with
  | nil => exact hmore
  | cons hanswer _ ih => exact cons hanswer (ih hmore)

/-- A conversation in two parts. -/
lemma split (h : Conversation db c (said ++ more) c'') :
    ∃ c', Conversation db c said c' ∧ Conversation db c' more c'' := by
  induction said generalizing c with
  | nil => exact ⟨c, nil, h⟩
  | cons x rest ih =>
    cases h with
    | cons hanswer hrest =>
      obtain ⟨c', hsaid, hmore⟩ := ih hrest
      exact ⟨c', cons hanswer hsaid, hmore⟩

end Conversation

namespace Database

variable {δ ε α β : Type}

/-- A database that also writes down what it is told and what it answers. -/
def transcribed (db : Database δ) : Database (δ × List Exchange) := fun command s =>
  let r := db command s.1
  (r.1, (r.2, s.2 ++ [⟨command, r.1⟩]))

/-- Whether the exchanges of an action and its result are always as `P` says. -/
def Tells (db : Database δ) (x : Action (δ × List Exchange) ε α)
    (P : List Exchange → Except ε α → Prop) : Prop :=
  ∀ c log, ∃ result c' said, x (c, log) = (result, (c', log ++ said)) ∧
    Conversation db c said c' ∧ P said result

/-- How two actions in a row go, the second one depending on the first: the first one fails, or
both take their course. -/
inductive InTurn (P : List Exchange → Except ε α → Prop)
    (Q : α → List Exchange → Except ε β → Prop) : List Exchange → Except ε β → Prop
  | stopped {said : List Exchange} {e : ε} (hfirst : P said (.error e)) :
      InTurn P Q said (.error e)
  | followed {said more : List Exchange} {a : α} {result : Except ε β} (hfirst : P said (.ok a))
      (hsecond : Q a more result) : InTurn P Q (said ++ more) result

/-- The courses that a transaction can take, given those of its body. -/
inductive Bracketed (P : List Exchange → Except StoreError (Resolution α) → Prop) :
    List Exchange → Except StoreError α → Prop
  | unbegun {e : DbError} {undone : Except DbError (List Row)} :
      Bracketed P [⟨.begin, .error e⟩, ⟨.rollback, undone⟩] (.error e.storeError)
  | failed {rows : List Row} {work : List Exchange} {e : StoreError}
      {undone : Except DbError (List Row)} (hwork : P work (.error e)) :
      Bracketed P (⟨.begin, .ok rows⟩ :: work ++ [⟨.rollback, undone⟩]) (.error e)
  | abandoned {rows : List Row} {work : List Exchange} {a : α}
      {undone : Except DbError (List Row)} (hwork : P work (.ok (.abandon a))) :
      Bracketed P (⟨.begin, .ok rows⟩ :: work ++ [⟨.rollback, undone⟩]) (.ok a)
  | uncommitted {rows : List Row} {work : List Exchange} {a : α} {e : DbError}
      {undone : Except DbError (List Row)} (hwork : P work (.ok (.commit a))) :
      Bracketed P (⟨.begin, .ok rows⟩ :: work ++ [⟨.commit, .error e⟩, ⟨.rollback, undone⟩])
        (.error e.storeError)
  | committed {rows rows' : List Row} {work : List Exchange} {a : α}
      (hwork : P work (.ok (.commit a))) :
      Bracketed P (⟨.begin, .ok rows⟩ :: work ++ [⟨.commit, .ok rows'⟩]) (.ok a)

namespace Tells

variable {db : Database δ} {P : List Exchange → Except ε α → Prop}
  {x : Action (δ × List Exchange) ε α}

/-- What is always so is also so in part. -/
lemma mono {Q : List Exchange → Except ε α → Prop} (hx : Tells db x P)
    (h : ∀ said result, P said result → Q said result) : Tells db x Q := by
  intro c log
  obtain ⟨result, c', said, hrun, hconversation, hsaid⟩ := hx c log
  exact ⟨result, c', said, hrun, hconversation, h said result hsaid⟩

/-- Coming back with a value takes no exchange. -/
lemma of_pure (a : α) :
    Tells db (pure a : Action (δ × List Exchange) ε α) fun said r => said = [] ∧ r = .ok a := by
  intro c log
  refine ⟨.ok a, c, [], ?_, Conversation.nil, rfl, rfl⟩
  rw [List.append_nil]
  rfl

/-- Nor does coming back with an error. -/
lemma of_throw (e : ε) :
    Tells db (throw e : Action (δ × List Exchange) ε α) fun said r => said = [] ∧ r = .error e := by
  intro c log
  refine ⟨.error e, c, [], ?_, Conversation.nil, rfl, rfl⟩
  rw [List.append_nil]
  rfl

/-- A command is one exchange; its error becomes one of the store. -/
lemma run (command : Command) :
    Tells db (db.transcribed.run command) fun said r =>
      ∃ answer, said = [⟨command, answer⟩] ∧ r = answer.mapError DbError.storeError := by
  intro c log
  obtain ⟨answer, c', hanswer⟩ : ∃ answer c', db command c = (answer, c') := ⟨_, _, rfl⟩
  have htranscribed : db.transcribed command (c, log) =
      (answer, (c', log ++ [⟨command, answer⟩])) := by
    unfold transcribed
    rw [hanswer]
  refine ⟨answer.mapError DbError.storeError, c', [⟨command, answer⟩], ?_, ?_, answer, rfl, rfl⟩
  · unfold Database.run
    rw [htranscribed]
    cases answer <;> rfl
  · exact Conversation.cons hanswer Conversation.nil

/-- Two actions in a row. -/
lemma bind {f : α → Action (δ × List Exchange) ε β} {Q : α → List Exchange → Except ε β → Prop}
    (hx : Tells db x P) (hf : ∀ a, Tells db (f a) (Q a)) : Tells db (x >>= f) (InTurn P Q) := by
  intro c log
  obtain ⟨first, c', said, hrun, hsaid, hfirst⟩ := hx c log
  cases first with
  | error e =>
    exact ⟨.error e, c', said, Action.bind_of_error hrun, hsaid, .stopped hfirst⟩
  | ok a =>
    obtain ⟨result, c'', more, hrun', hmore, hsecond⟩ := hf a c' (log ++ said)
    refine ⟨result, c'', said ++ more, ?_, hsaid.append hmore, .followed hfirst hsecond⟩
    rw [Action.bind_of_ok hrun, hrun', List.append_assoc]

/-- A statement that is run for its effect. -/
lemma execute (statement : Statement) :
    Tells db (db.transcribed.execute statement) fun said r =>
      ∃ answer, said = [⟨.execute statement, answer⟩] ∧
        r = (answer.mapError DbError.storeError).map fun _ => () := by
  intro c log
  obtain ⟨result, c', said, hrun, hsaid, answer, rfl, rfl⟩ :=
    run (.execute statement) c log
  refine ⟨_, c', _, ?_, hsaid, answer, rfl, rfl⟩
  unfold Database.execute
  cases answer with
  | error e => rw [Action.bind_of_error hrun]; rfl
  | ok rows => rw [Action.bind_of_ok hrun]; rfl

/-- An action in brackets. -/
lemma transaction {body : Action (δ × List Exchange) StoreError (Resolution α)}
    {P : List Exchange → Except StoreError (Resolution α) → Prop} (hbody : Tells db body P) :
    Tells db (db.transcribed.transaction body) (Bracketed P) := by
  intro c log
  obtain ⟨opened, c₁, said, hbegin, hsaid, answer, rfl, rfl⟩ := run .begin c log
  have hundo : ∀ (d : δ) (log' : List Exchange), (db.transcribed .rollback (d, log')).2 =
      ((db .rollback d).2, log' ++ [⟨.rollback, (db .rollback d).1⟩]) := fun _ _ => rfl
  unfold Database.transaction
  cases answer with
  | error e =>
    have hbegin : db.transcribed.run .begin (c, log) =
        (.error e.storeError, (c₁, log ++ [⟨.begin, .error e⟩])) := hbegin
    refine ⟨.error e.storeError, _, _, ?_,
      hsaid.append (Conversation.single .rollback c₁), .unbegun⟩
    simp only [hbegin, hundo, List.append_assoc]
  | ok rows =>
    have hbegin : db.transcribed.run .begin (c, log) =
        (.ok rows, (c₁, log ++ [⟨.begin, .ok rows⟩])) := hbegin
    obtain ⟨worked, c₂, work, hrun, hwork, hP⟩ := hbody c₁ (log ++ [⟨.begin, .ok rows⟩])
    have hdone := hsaid.append hwork
    simp only [hbegin, hrun]
    rcases worked with e | a | a
    · refine ⟨.error e, _, _, ?_, hdone.append (Conversation.single .rollback c₂), .failed hP⟩
      simp only [hundo, List.append_assoc]
    · obtain ⟨closed, c₃, said', hcommit, hsaid', answer, rfl, rfl⟩ :=
        run .commit c₂ (log ++ [⟨.begin, .ok rows⟩] ++ work)
      cases answer with
      | error e =>
        have hcommit : db.transcribed.run .commit (c₂, log ++ [⟨.begin, .ok rows⟩] ++ work) =
            (.error e.storeError, (c₃, _)) := hcommit
        refine ⟨.error e.storeError, _, _, ?_,
          hdone.append (hsaid'.append (Conversation.single .rollback c₃)), .uncommitted hP⟩
        simp only [hcommit, hundo]
        simp only [List.append_assoc]
      | ok rows' =>
        have hcommit : db.transcribed.run .commit (c₂, log ++ [⟨.begin, .ok rows⟩] ++ work) =
            (.ok rows', (c₃, _)) := hcommit
        refine ⟨.ok a, _, _, ?_, hdone.append hsaid', .committed hP⟩
        simp only [hcommit]
        simp only [List.append_assoc]
    · refine ⟨.ok a, _, _, ?_, hdone.append (Conversation.single .rollback c₂), .abandoned hP⟩
      simp only [hundo, List.append_assoc]

end Tells

end Database

end Sql

end LeaseQueue
