import LeaseQueue.Proofs.Worker.Fleet
import LeaseQueue.Worker.Pool

/-!
# Crews as fleets

The workers of a pool on a store are a fleet: `Fleet.Shows` says that the fleet has the store of the
pool and that its workers run what the workers of the pool hold.  A tick of a waiting worker is a
claim of the fleet (`Fleet.Shows.tick`), a report is a report (`Fleet.Shows.report`), and a handler
that goes on without touching the store changes nothing (`Fleet.Shows.resume`).  What is proved of
all fleets is thereby proved of pools, whatever the order of their small steps.
-/

namespace LeaseQueue

namespace Worker

variable {σ : Type}

/-- What a worker of a crew runs. -/
def holding? (w : Worker σ) (duty : Duty (Registration σ)) : Option (Holding (Registration σ)) :=
  match w.phase with
  | .holding task => some ⟨task.job, duty⟩
  | .waiting | .left | .crashed => none

/-- Whether a job without a handler, if a worker holds one, ends for that reason. -/
def Fair (w : Worker σ) (duty : Duty (Registration σ)) : Prop :=
  ∀ task, w.phase = .holding task → duty.registry.get? task.job.type = none →
    task.ending = .unhandled task.job.type

end Worker

/-- Whether a handler that goes on leaves the world alone. -/
def Stage.isQuiet {σ : Type} : Stage σ → Bool
  | .act _ => false
  | .note | .sleep _ | .awaitShutdown => true

/-- A report says what the verdict about the handler says: a job without one took no time, and its
failure does not tell how long it took. -/
lemma Holding.report_eq {η : Type} (h : Holding η) {ending : Ending} (millis : ℕ) (now : Instant)
    (hending : h.duty.registry.get? h.job.type = none → ending = .unhandled h.job.type) :
    h.report ending millis now = Worker.verdict h.duty.backoff h.job ending millis now := by
  unfold report Worker.finish
  cases hhandler : h.duty.registry.get? h.job.type with
  | some handler => rfl
  | none =>
    rw [hending hhandler]
    rfl

namespace Pool

variable {σ : Type}

/-- Putting a worker in its place changes no other worker. -/
lemma worker?_setWorker (p : Pool σ) (i : ℕ) (w : Worker σ) (k : ℕ) :
    (p.setWorker i w).worker? k = (p.worker? k).map fun x =>
      ({ x.1 with workers := x.1.workers.set i w }, if i = k then w else x.2) := by
  unfold setWorker worker?
  cases p.crew with
  | none => rfl
  | some crew =>
    by_cases hk : i = k
    · subst hk
      cases hold : crew.workers[i]? with
      | none =>
        have hle : crew.workers.length ≤ i := List.getElem?_eq_none_iff.1 hold
        simp [hle]
      | some old =>
        have hlt : i < crew.workers.length := (List.getElem?_eq_some_iff.1 hold).1
        simp [hlt]
    · cases hold : crew.workers[k]? <;> simp [hold, hk]

/-- The task of a job is about that job, and ends as unhandled if the job has no handler; to begin
it changes neither the world nor the crew. -/
lemma begin_spec (p : Pool σ) (duty : Duty (Registration σ)) (worker : String) (job : Job) :
    (p.begin duty worker job).1.job = job ∧
      (duty.registry.get? job.type = none →
        (p.begin duty worker job).1.ending = .unhandled job.type) ∧
      (p.begin duty worker job).2.state = p.state ∧ (p.begin duty worker job).2.crew = p.crew := by
  unfold begin
  cases hhandler : duty.registry.get? job.type with
  | none => exact ⟨rfl, fun _ => rfl, rfl, rfl⟩
  | some r => exact ⟨rfl, fun h => absurd h (Option.some_ne_none r), rfl, rfl⟩

/-- Stages that leave the world alone do so together, and the crew is not theirs to change. -/
lemma runStages_of_isQuiet (signalled : Bool) (context : Context) (payload : String)
    {stages : List (Stage σ)} (hquiet : ∀ stage ∈ stages, stage.isQuiet = true) (p : Pool σ) :
    (runStages signalled context payload stages p).2.state = p.state ∧
      (runStages signalled context payload stages p).2.crew = p.crew := by
  induction stages generalizing p with
  | nil => exact ⟨rfl, rfl⟩
  | cons stage rest ih =>
    have hrest := ih fun stage hstage => hquiet stage (List.mem_cons_of_mem _ hstage)
    cases stage with
    | note => exact hrest _
    | sleep millis => exact ⟨rfl, rfl⟩
    | awaitShutdown =>
      cases signalled with
      | true => exact hrest p
      | false => exact ⟨rfl, rfl⟩
    | act change => cases hquiet _ List.mem_cons_self

end Pool

namespace Fleet

/-- Whether a fleet is what one sees of a pool when one looks at the store and at the jobs in the
hands of the workers. -/
structure Shows (f : Fleet ℕ (Registration Store)) (p : Pool Store) : Prop where
  store_eq : f.store = p.state
  absent : ∀ i, p.worker? i = none → f.held i = none
  worker : ∀ i crew w, p.worker? i = some (crew, w) →
    f.name i = w.name ∧ f.held i = w.holding? crew.duty ∧ w.Fair crew.duty

namespace Shows

variable {f g : Fleet ℕ (Registration Store)} {p q : Pool Store} {i : ℕ} {crew : Crew Store}
  {w w' : Worker Store}

/-- A step of one worker: the others are as before, and this one is shown as it is now. -/
lemma setWorker (hf : f.Shows p) (hcrew : q.crew = p.crew) (hw : p.worker? i = some (crew, w))
    (hstore : g.store = q.state) (hname : g.name = f.name)
    (hother : ∀ k, k ≠ i → g.held k = f.held k) (hself : w'.name = w.name)
    (hheld : g.held i = w'.holding? crew.duty) (hfair : w'.Fair crew.duty) :
    g.Shows (q.setWorker i w') := by
  have hworkers : ∀ k, q.worker? k = p.worker? k := by
    intro k
    unfold Pool.worker?
    rw [hcrew]
  refine ⟨hstore, fun k hk => ?_, fun k crew' v hk => ?_⟩
  · rw [Pool.worker?_setWorker, hworkers, Option.map_eq_none_iff] at hk
    have hne : k ≠ i := by
      rintro rfl
      rw [hw] at hk
      cases hk
    rw [hother k hne]
    exact hf.absent k hk
  · rw [Pool.worker?_setWorker, hworkers, Option.map_eq_some_iff] at hk
    obtain ⟨⟨crew₀, v₀⟩, hk, heq⟩ := hk
    obtain ⟨rfl, rfl⟩ := Prod.mk.inj heq
    rw [hname]
    by_cases hik : i = k
    · subst hik
      obtain ⟨rfl, rfl⟩ := Prod.mk.inj (Option.some.inj (hw.symm.trans hk))
      rw [if_pos rfl, hself]
      exact ⟨(hf.worker i crew w hw).1, hheld, hfair⟩
    · rw [if_neg hik, hother k (Ne.symm hik)]
      exact hf.worker k crew₀ v₀ hk

/-- A tick of a waiting worker is a claim. -/
theorem tick (hf : f.Shows p) (hw : p.worker? i = some (crew, w)) (hphase : w.phase = .waiting) :
    (f.take p.clock (.claim i crew.duty)).Shows (p.tick Backend.ofStore i) := by
  obtain ⟨hname, hheld, -⟩ := hf.worker i crew w hw
  obtain ⟨name, deadline, phase⟩ := w
  subst hphase
  have hop : f.operation? p.clock (.claim i crew.duty) =
      some (.claim (f.name i) crew.duty.queues crew.duty.lease) := by
    simp only [operation?, hheld, Worker.holding?]
  have hother : ∀ k, k ≠ i → (f.take p.clock (.claim i crew.duty)).held k = f.held k :=
    fun k hk => held_take_of_ne hop fun h => hk (Option.some.inj h).symm
  have hself := held_take_of_eq hop rfl
  have hstore := store_take hop
  rw [hname, hf.store_eq] at hself hstore
  unfold Pool.tick
  simp only [hw, Worker.claim_ofStore]
  unfold Store.step at hself hstore
  dsimp only at hself hstore
  rcases hclaim : p.state.claim p.clock name crew.duty.queues crew.duty.lease with ⟨_ | job, s⟩
  · rw [hclaim] at hself hstore
    exact hf.setWorker rfl hw hstore (name_take hop) hother rfl hself fun _ h => by cases h
  · rw [hclaim] at hself hstore
    set q : Pool Store := { p with state := s }
    obtain ⟨hjob, hending, hstate, hcrew⟩ := q.begin_spec crew.duty name job
    refine hf.setWorker hcrew hw (hstore.trans hstate.symm) (name_take hop) hother rfl ?_ ?_
    · rw [hself]
      simp only [Worker.holding?, holding?]
      rw [hjob]
    · intro task htask hhandler
      obtain rfl := Phase.holding.inj htask
      rw [hjob] at hhandler ⊢
      exact hending hhandler

/-- A report of a worker whose handler is through is a report. -/
theorem report (hf : f.Shows p) (hw : p.worker? i = some (crew, w)) {task : Task Store}
    (hphase : w.phase = .holding task) (hstages : task.stages = [])
    (hready : task.resumesAt ≤ p.elapsed) :
    (f.take p.clock (.report i task.ending (p.elapsed - task.began))).Shows
      (p.report Backend.ofStore i) := by
  obtain ⟨hname, hheld, hfair⟩ := hf.worker i crew w hw
  obtain ⟨name, deadline, phase⟩ := w
  subst hphase
  have hreport := Holding.report_eq ⟨task.job, crew.duty⟩ (p.elapsed - task.began) p.clock
    (hfair task rfl)
  have hop : f.operation? p.clock (.report i task.ending (p.elapsed - task.began)) =
      some (.move task.job.id (Worker.verdict crew.duty.backoff task.job task.ending
        (p.elapsed - task.began) p.clock)) := by
    simp only [operation?, hheld, Worker.holding?, Option.map_some, hreport]
  have hother : ∀ k, k ≠ i →
      (f.take p.clock (.report i task.ending (p.elapsed - task.began))).held k = f.held k :=
    fun k hk => held_take_of_ne hop fun h => hk (Option.some.inj h).symm
  have hstore := store_take hop
  rw [hf.store_eq] at hstore
  unfold Pool.report
  simp only [hw, Worker.report_ofStore, hstages, List.isEmpty_nil, hready, true_and, if_true]
  exact hf.setWorker rfl hw hstore (name_take hop) hother rfl (held_take_of_eq hop rfl)
    fun _ h => by cases h

/-- A handler that goes on and leaves the world alone is not seen. -/
theorem resume (hf : f.Shows p) (hw : p.worker? i = some (crew, w)) {task : Task Store}
    (hphase : w.phase = .holding task) (hquiet : ∀ stage ∈ task.stages, stage.isQuiet = true) :
    f.Shows (p.resume i) := by
  obtain ⟨hname, hheld, hfair⟩ := hf.worker i crew w hw
  obtain ⟨name, deadline, phase⟩ := w
  subst hphase
  unfold Pool.resume
  simp only [hw]
  split_ifs with hready
  · obtain ⟨hstate, hcrew⟩ := Pool.runStages_of_isQuiet crew.signalled (task.job.context name)
      task.job.payloadText hquiet p
    refine hf.setWorker hcrew hw (hf.store_eq.trans hstate.symm) rfl (fun _ _ => rfl) rfl hheld ?_
    intro task' htask hhandler
    obtain rfl := Phase.holding.inj htask
    exact hfair task rfl hhandler
  · exact hf

end Shows

end Fleet

end LeaseQueue
