import LeaseQueue.Proofs.Worker.Crew

/-!
# What can happen to a pool

An event of a pool is one small step of one worker, or something that comes from outside: the crew
is told to shut down, time passes, the world changes.  A history is a list of events, in any order
whatever (`Pool.history`).  A worker asks its backend for a job, or tells it what became of one;
`Pool.happen_congr` says that an event depends on the backend through the answer to that one request
alone.  The schedules that keep to the clock are histories among others (`Pool.Leads.work`,
`Pool.Leads.finish`).
-/

namespace LeaseQueue

/-! ### Calls -/

namespace Worker

variable {σ η : Type} {α : Type}

/-- A call whose errors are dropped, by what the call comes to. -/
lemma dropping_eq (call : Call σ α) (s : σ) :
    dropping call s = match call s with
      | (.ok a, t) => (.ok (some a), t)
      | (.error (.error _), t) => (.ok none, t)
      | (.error (.crash message), t) => (.error message, t) := rfl

/-- A claim by what the backend answers. -/
lemma claim_eq (b : Backend σ) (duty : Duty η) (worker : String) (now : Instant) (s : σ) :
    claim b duty worker now s = match b.claim now worker duty.queues duty.lease s with
      | (.ok job?, t) => (.ok job?, t)
      | (.error (.error _), t) => (.ok none, t)
      | (.error (.crash message), t) => (.error message, t) := by
  rcases hanswer : b.claim now worker duty.queues duty.lease s with ⟨(e | message) | job?, t⟩ <;>
    simp only [claim, bind, ExceptT.bind, ExceptT.mk, StateT.bind, ExceptT.bindCont, dropping_eq,
      hanswer] <;> rfl

/-- A report by what the backend answers. -/
lemma report_eq (b : Backend σ) (duty : Duty η) (job : Job) (ending : Ending) (millis : ℕ)
    (now : Instant) (s : σ) :
    report b duty job ending millis now s =
      match b.move now job.id (verdict duty.backoff job ending millis now) s with
      | (.ok _, t) => (.ok (), t)
      | (.error (.error _), t) => (.ok (), t)
      | (.error (.crash message), t) => (.error message, t) := by
  rcases hanswer : b.move now job.id (verdict duty.backoff job ending millis now) s with
    ⟨(e | message) | transition, t⟩ <;>
    simp only [report, bind, ExceptT.bind, ExceptT.mk, StateT.bind, ExceptT.bindCont, dropping_eq,
      hanswer] <;> rfl

end Worker

/-! ### Events -/

/-- What can happen to a pool: a step of the worker of an index, or something that no worker does. -/
inductive Pool.Event (σ : Type) where
  | tick (i : ℕ)
  | resume (i : ℕ)
  | report (i : ℕ)
  | leave (i : ℕ)
  /-- The crew is told to shut down. -/
  | signal
  | pass (millis : ℕ)
  /-- Others change the world, and the clock is set. -/
  | act (now : Instant) (change : σ → σ)

/-- What a worker asks of its backend. -/
inductive Request where
  | claim (worker : String) (queues : List String) (lease : Span)
  | move (id : Ident) (m : Move)

/-- Whether two backends answer a request alike. -/
def Request.Agree {σ : Type} (b b' : Backend σ) (now : Instant) (state : σ) : Request → Prop
  | claim worker queues lease =>
    b.claim now worker queues lease state = b'.claim now worker queues lease state
  | move id m => b.move now id m state = b'.move now id m state

namespace Pool

variable {σ : Type} {b b' : Backend σ} {p : Pool σ}

/-- What an event does. -/
def happen (b : Backend σ) (p : Pool σ) : Event σ → Pool σ
  | .tick i => p.tick b i
  | .resume i => p.resume i
  | .report i => p.report b i
  | .leave i => p.leave i
  | .signal => p.signal
  | .pass millis => p.pass millis
  | .act now change => { p with clock := now, state := change p.state }

/-- What events one after the other come to. -/
def history (b : Backend σ) : List (Event σ) → Pool σ → Pool σ
  | [], p => p
  | e :: es, p => history b es (p.happen b e)

/-- What is asked of the backend in an event. -/
def request? (p : Pool σ) : Event σ → Option Request
  | .tick i =>
    match p.worker? i with
    | some (crew, { phase := .waiting, name, .. }) =>
      some (.claim name crew.duty.queues crew.duty.lease)
    | _ => none
  | .report i =>
    match p.worker? i with
    | some (crew, { phase := .holding task, .. }) =>
      if task.stages.isEmpty ∧ task.resumesAt ≤ p.elapsed then
        some (.move task.job.id (Worker.verdict crew.duty.backoff task.job task.ending
          (p.elapsed - task.began) p.clock))
      else none
    | _ => none
  | .resume _ | .leave _ | .signal | .pass _ | .act _ _ => none

/-- All that is asked of the backend in a history. -/
def requests (b : Backend σ) : List (Event σ) → Pool σ → List Request
  | [], _ => []
  | e :: es, p => (p.request? e).toList ++ requests b es (p.happen b e)

/-- An event depends on the backend through the answer to what is asked in it, and on nothing else:
the backend is asked once at most. -/
theorem happen_congr {e : Event σ}
    (h : ∀ r, p.request? e = some r → r.Agree b b' p.clock p.state) :
    p.happen b e = p.happen b' e := by
  cases e with
  | resume | leave | signal | pass | act => rfl
  | tick i =>
    show p.tick b i = p.tick b' i
    unfold tick
    split
    · next crew name deadline hworker =>
      have hagree := h (.claim name crew.duty.queues crew.duty.lease) (by simp only [request?, hworker])
      unfold Request.Agree at hagree
      simp only [Worker.claim_eq, hagree]
    · rfl
  | report i =>
    show p.report b i = p.report b' i
    unfold report
    split
    · next crew name deadline task hworker =>
      split_ifs with hready
      · have hagree := h _ (by simp only [request?, hworker, if_pos hready]; rfl)
        unfold Request.Agree at hagree
        simp only [Worker.report_eq, hagree]
      · rfl
    · rfl

/-- A history in two parts. -/
lemma history_append (es es' : List (Event σ)) (p : Pool σ) :
    p.history b (es ++ es') = (p.history b es).history b es' := by
  induction es generalizing p with
  | nil => rfl
  | cons e es ih => exact ih (p.happen b e)

/-! ### Schedules -/

/-- Whether a pool can become another one without its crew being told to shut down. -/
def Leads (b : Backend σ) (p q : Pool σ) : Prop :=
  ∃ es, Event.signal ∉ es ∧ p.history b es = q

namespace Leads

variable {q r : Pool σ}

lemma refl (p : Pool σ) : Leads b p p := ⟨[], nofun, rfl⟩

lemma trans (hpq : Leads b p q) (hqr : Leads b q r) : Leads b p r := by
  obtain ⟨es, hes, rfl⟩ := hpq
  obtain ⟨es', hes', rfl⟩ := hqr
  refine ⟨es ++ es', ?_, history_append es es' p⟩
  rw [List.mem_append]
  rintro (h | h)
  exacts [hes h, hes' h]

/-- A single event. -/
lemma happen (p : Pool σ) {e : Event σ} (he : e ≠ .signal) : Leads b p (p.happen b e) :=
  ⟨[e], by simpa using he.symm, rfl⟩

/-- The workers one after the other. -/
lemma each {step : ℕ → Pool σ → Pool σ} (hstep : ∀ i p, Leads b p (step i p)) (p : Pool σ) :
    Leads b p (p.each step) := by
  unfold Pool.each
  induction List.range p.size generalizing p with
  | nil => exact refl p
  | cons i rest ih => exact (hstep i p).trans (ih (step i p))

/-- A worker whose tick is due. -/
lemma take (i : ℕ) (p : Pool σ) : Leads b p (p.take b i) := by
  unfold Pool.take
  split
  · split_ifs
    · exact happen p (e := .leave i) nofun
    · exact happen p (e := .tick i) nofun
    · exact refl p
  · exact refl p

/-- What happens at a moment. -/
lemma round (p : Pool σ) : Leads b p (p.round b) :=
  ((each take p).trans (each (fun i p => happen p (e := .resume i) nofun) _)).trans
    (each (fun i p => happen p (e := .report i) nofun) _)

/-- The schedule that keeps to the clock. -/
lemma drive (until? : Option ℕ) (fuel : ℕ) (p : Pool σ) : Leads b p (p.drive b until? fuel) := by
  induction fuel generalizing p with
  | zero => exact refl p
  | succ fuel ih =>
    unfold Pool.drive
    split
    · exact refl p
    · next due _ =>
      split_ifs
      · exact refl p
      · exact (happen p (e := .pass (due - p.elapsed)) nofun).trans
          ((round _).trans (ih _))

/-- Work for some time. -/
lemma work (millis : ℕ) (p : Pool σ) : Leads b p (p.work b millis) :=
  (drive _ _ p).trans (happen _ (e := .pass _) nofun)

/-- The end of a crew is its being told to shut down, and what comes then. -/
lemma finish (p : Pool σ) : Leads b p.signal (p.finish b) := drive _ _ _

end Leads

end Pool

end LeaseQueue
