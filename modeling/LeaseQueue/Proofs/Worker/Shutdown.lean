import LeaseQueue.Proofs.Worker.Draining
import LeaseQueue.Queue.Service

/-!
# A shutdown loses no job

Whatever the workers of a crew do, in whatever order, and whenever they are told to shut down, the
job that a claim brought is reported once before its worker claims again or leaves
(`Pool.sits_history`).  A worker that is gone does nothing any more, so a pool in which all are gone
asks nothing of its backend (`Pool.IsDeserted.requests`).  Stopping a service waits for that
(`Pool.isDeserted_finish`), and what the diaries of the workers say then is stated in
`Service.shutdown_loses_nothing`.
-/

namespace LeaseQueue

variable {σ : Type}

/-- Whether a worker somewhere in its loop is done for good. -/
def Phase.isGone : Phase σ → Bool
  | .left | .crashed => true
  | .waiting | .holding _ => false

lemma Worker.isGone_eq (w : Worker σ) : w.isGone = w.phase.isGone := by
  unfold isGone Phase.isGone
  cases w.phase <;> rfl

/-- A worker that is gone takes no turn. -/
lemma Phase.Turns.isGone {duty : Duty (Registration σ)} {signalled : Bool} {name : String}
    {phase phase' : Phase σ} {line? : Option (Line σ)}
    (h : Turns duty signalled name phase line? phase') (hgone : phase.isGone = true) :
    phase'.isGone = true := by
  cases h with
  | stay => exact hgone
  | left | missed | lost | took | ran | told | fell => cases hgone

namespace Pool

variable {b : Backend σ} {p : Pool σ} {i : ℕ} {crew : Crew σ} {w : Worker σ}

/-! ### When all are gone -/

/-- Nobody joins a crew. -/
lemma worker?_happen_eq_none (hw : p.worker? i = none) (e : Event σ) :
    (p.happen b e).worker? i = none := by
  rcases hk : e.worker? with _ | k
  · cases e with
    | tick | resume | report | leave => cases hk
    | pass | act => exact hw
    | signal =>
      show p.signal.worker? i = none
      rw [worker?_signal, hw]
      rfl
  · rcases steps_happen b p hk with ⟨hsame, -⟩ | ⟨_, _, w', q, -, hcrew, -, hleft, -⟩
    · rw [hsame]
      exact hw
    · have hworker : q.worker? i = none := by
        unfold worker? at hw ⊢
        rw [hcrew]
        exact hw
      rw [hleft, worker?_setWorker, hworker]
      rfl

namespace IsDeserted

/-- Those who are gone stay away. -/
lemma happen (h : p.IsDeserted) (e : Event σ) : (p.happen b e).IsDeserted := by
  intro i crew' w' hw'
  rcases hw : p.worker? i with _ | ⟨crew, w⟩
  · rw [worker?_happen_eq_none hw e] at hw'
    cases hw'
  · obtain ⟨crew₁, w₁, hw₁, -, -, hturn⟩ := happen_turn b hw e
    obtain ⟨-, rfl⟩ := Prod.mk.inj (Option.some.inj (hw₁.symm.trans hw'))
    have hgone := h i crew w hw
    rw [Worker.isGone_eq] at hgone ⊢
    exact hturn.isGone hgone

lemma history (h : p.IsDeserted) (es : List (Event σ)) : (p.history b es).IsDeserted := by
  induction es generalizing p with
  | nil => exact h
  | cons e es ih => exact ih (h.happen e)

/-- They ask for nothing. -/
lemma request? (h : p.IsDeserted) (e : Event σ) : p.request? e = none := by
  have hgone : ∀ {i crew name deadline phase}, p.worker? i = some (crew, ⟨name, deadline, phase⟩) →
      phase = .left ∨ phase = .crashed := by
    intro i crew name deadline phase hw
    have hw := h i crew _ hw
    rcases phase with _ | task | _ | _
    · cases hw
    · cases hw
    · exact .inl rfl
    · exact .inr rfl
  cases e with
  | tick i =>
    rcases hw : p.worker? i with _ | ⟨crew, name, deadline, phase⟩
    · simp only [Pool.request?, hw]
    · rcases hgone hw with rfl | rfl <;> simp only [Pool.request?, hw]
  | report i =>
    rcases hw : p.worker? i with _ | ⟨crew, name, deadline, phase⟩
    · simp only [Pool.request?, hw]
    · rcases hgone hw with rfl | rfl <;> simp only [Pool.request?, hw]
  | resume | leave | signal | pass | act => rfl

/-- Nor do they ever again. -/
lemma requests (h : p.IsDeserted) (es : List (Event σ)) : p.requests b es = [] := by
  induction es generalizing p with
  | nil => rfl
  | cons e es ih =>
    unfold Pool.requests
    rw [h.request? e, ih (h.happen e)]
    rfl

end IsDeserted

/-- Whether a worker of the crew went down. -/
def hasCrashed (p : Pool σ) : Bool := p.crew.any fun c => c.workers.any Worker.hasCrashed

lemma hasCrashed_iff : p.hasCrashed = true ↔
    ∃ i crew w, p.worker? i = some (crew, w) ∧ w.phase = .crashed := by
  have hphase : ∀ w : Worker σ, w.hasCrashed = true ↔ w.phase = .crashed := by
    intro w
    unfold Worker.hasCrashed
    rcases w.phase with _ | task | _ | _ <;> simp
  unfold hasCrashed
  constructor
  · intro h
    rcases hcrew : p.crew with _ | crew
    · rw [hcrew] at h
      cases h
    · rw [hcrew] at h
      obtain ⟨w, hw, hcrashed⟩ := List.any_eq_true.1 h
      obtain ⟨i, hi⟩ := List.getElem?_of_mem hw
      exact ⟨i, crew, w, worker?_eq_some_iff.2 ⟨hcrew, hi⟩, (hphase w).1 hcrashed⟩
  · rintro ⟨i, crew, w, hw, hcrashed⟩
    obtain ⟨hcrew, hi⟩ := worker?_eq_some_iff.1 hw
    rw [hcrew]
    exact List.any_eq_true.2 ⟨w, List.mem_of_getElem? hi, (hphase w).2 hcrashed⟩

/-- Those who are gone have left, unless one of them went down. -/
lemma IsDeserted.left (h : p.IsDeserted) (hsafe : p.hasCrashed = false)
    (hw : p.worker? i = some (crew, w)) : w.phase = .left := by
  have hgone := h i crew w hw
  rw [Worker.isGone_eq] at hgone
  rcases hphase : w.phase with _ | task | _ | _
  · rw [hphase] at hgone
    cases hgone
  · rw [hphase] at hgone
    cases hgone
  · rfl
  · rw [hasCrashed_iff.2 ⟨i, crew, w, hw, hphase⟩] at hsafe
    cases hsafe

/-- A crew stays together until it is let go. -/
lemma isSome_crew_history (b : Backend σ) (es : List (Event σ)) (p : Pool σ) :
    (p.history b es).crew.isSome = p.crew.isSome := by
  induction es generalizing p with
  | nil => rfl
  | cons e es ih =>
    have hhappen : (p.happen b e).crew.isSome = p.crew.isSome := by
      by_cases he : e = .signal
      · subst he
        exact Option.isSome_map
      · obtain ⟨f, hf⟩ := crew_happen b p he
        rw [hf, Option.isSome_map]
    exact (ih _).trans hhappen

end Pool

/-! ### Stopping -/

/-- What is to be said of the workers of a crew after a history that began with all of them waiting
for their first ticks. -/
structure Crew.Accounted (crew : Crew σ) (b : Backend σ) (p : Pool σ)
    (es : List (Pool.Event σ)) : Prop where
  /-- Whatever happens next, the backend is asked for one thing at most. -/
  asked : ∀ e b', (∀ r, (p.history b es).request? e = some r →
      r.Agree b b' (p.history b es).clock (p.history b es).state) →
    (p.history b es).happen b e = (p.history b es).happen b' e
  /-- The worker that asks for it writes it down. -/
  written : ∀ e, ((p.history b es).request? e).isSome =
    ((p.history b es).line? b e).any Line.isCall
  /-- The diary of each worker goes with where it is in its loop. -/
  sits : ∀ i w, crew.workers[i]? = some w → ∃ crew' w',
    (p.history b es).worker? i = some (crew', w') ∧ crew'.duty = crew.duty ∧ w'.name = w.name ∧
      w'.phase.Sits crew.duty w.name (p.diary b i es)
  /-- Once all are gone, they stay so, and nothing is asked of the backend any more. -/
  silent : (p.history b es).IsDeserted → ∀ more,
    (p.history b (es ++ more)).IsDeserted ∧ (p.history b es).requests b more = []
  /-- If all have left, each of them has gone through whole rounds, and no call broke off. -/
  whole : (∀ i crew' w', (p.history b es).worker? i = some (crew', w') → w'.phase = .left) →
    ∀ i w, crew.workers[i]? = some w → ∃ lines, Rounds crew.duty w.name lines ∧
      (∀ line ∈ lines, line.hasCrashed = false) ∧ p.diary b i es = lines ++ [.left]

/-- Those who wait for their first ticks are accounted for whatever happens. -/
lemma Crew.accounted {crew : Crew σ} {p : Pool σ} (b : Backend σ) (hcrew : p.crew = some crew)
    (hfresh : ∀ w ∈ crew.workers, w.phase = .waiting) (es : List (Pool.Event σ)) :
    crew.Accounted b p es := by
  have hsits : ∀ i w, crew.workers[i]? = some w → ∃ crew' w',
      (p.history b es).worker? i = some (crew', w') ∧ crew'.duty = crew.duty ∧ w'.name = w.name ∧
        w'.phase.Sits crew.duty w.name (p.diary b i es) := by
    intro i w hi
    have hw : p.worker? i = some (crew, w) := Pool.worker?_eq_some_iff.2 ⟨hcrew, hi⟩
    have hbegun : w.phase.Sits crew.duty w.name [] := by
      rw [hfresh w (List.mem_of_getElem? hi)]
      exact .waiting .nil (List.forall_mem_nil _)
    exact Pool.sits_history hw hbegun es
  refine ⟨fun _ _ => Pool.happen_congr, Pool.isSome_request? b _, hsits, fun hgone more => ?_,
    fun hleft i w hi => ?_⟩
  · rw [Pool.history_append]
    exact ⟨hgone.history more, hgone.requests more⟩
  · obtain ⟨crew', w', hw', -, -, h⟩ := hsits i w hi
    rw [hleft i crew' w' hw'] at h
    generalize p.diary b i es = lines at h
    cases h with
    | left hrounds hsafe => exact ⟨_, hrounds, hsafe, rfl⟩

namespace Service

/-- Stopping a service that has a crew waits until all are gone, and tells whether one went down. -/
lemma stop_of_isSome (b : Backend σ) {s : Service σ} (h : s.pool.crew.isSome = true) : s.stop b =
    (if (s.pool.finish b).hasCrashed then .error .ungracefulShutdown else .ok (),
      { s with
        pool := { s.pool.finish b with crew := none }
        shutdown := none
        running := false }) := by
  unfold stop
  rcases hcrew : s.pool.crew with _ | crew
  · rw [hcrew] at h
    cases h
  · rfl

/-- A shutdown loses nothing, whatever the backend answers, however many workers there are, what
their handlers do, and in what order all of it happens, the crew being told to shut down at any
time. -/
theorem shutdown_loses_nothing (b : Backend σ) (s : Service σ) {crew : Crew σ}
    (hcrew : s.pool.crew = some crew) (hfresh : ∀ w ∈ crew.workers, w.phase = .waiting)
    (es : List (Pool.Event σ)) :
    crew.Accounted b s.pool es ∧ ∃ more answer,
      ({ s with pool := s.pool.history b es } : Service σ).stop b =
        (answer, { s with
          pool := { s.pool.history b (es ++ .signal :: more) with crew := none }
          shutdown := none, running := false }) ∧
      crew.Accounted b s.pool (es ++ .signal :: more) ∧
      (s.pool.history b (es ++ .signal :: more)).IsDeserted ∧
      (answer = .ok () ∧ (∀ i crew' w',
          (s.pool.history b (es ++ .signal :: more)).worker? i = some (crew', w') →
            w'.phase = .left) ∨
        answer = .error .ungracefulShutdown ∧ ∃ i crew' w',
          (s.pool.history b (es ++ .signal :: more)).worker? i = some (crew', w') ∧
            w'.phase = .crashed) := by
  refine ⟨crew.accounted b hcrew hfresh es, ?_⟩
  obtain ⟨p, hp⟩ : ∃ p, s.pool.history b es = p := ⟨_, rfl⟩
  obtain ⟨more, -, hmore⟩ := Pool.Leads.finish (b := b) p
  have hfinish : s.pool.history b (es ++ .signal :: more) = p.finish b := by
    rw [Pool.history_append, hp]
    exact hmore
  have hsome : p.crew.isSome = true := by
    rw [← hp, Pool.isSome_crew_history, hcrew]
    rfl
  have hgone : (p.finish b).IsDeserted := Pool.isDeserted_finish b p
  have hstop := stop_of_isSome b (s := { s with pool := p }) hsome
  rw [hp, hstop]
  refine ⟨more, _, by rw [hfinish], crew.accounted b hcrew hfresh _, hfinish ▸ hgone, ?_⟩
  rw [hfinish]
  cases hcrashed : (p.finish b).hasCrashed with
  | false => exact .inl ⟨rfl, fun i crew' w' hw' => hgone.left hcrashed hw'⟩
  | true => exact .inr ⟨rfl, Pool.hasCrashed_iff.1 hcrashed⟩

/-- Two workers on two mails, whose handler waits until it is told to shut down. -/
def nightShift : Service Store :=
  let mail := Submission.plain "mail" "send" (.object []) .epoch
  let store := (Store.empty.run [(.epoch, .enqueue (.ofNat 1) mail),
    (.epoch, .enqueue (.ofNat 2) mail)]).2
  let queue : Queue := { config := { Config.standard with queues := ["mail"] } }
  (((idle queue store .epoch).insert "send" fun _ _ _ => ⟨[.note, .awaitShutdown], .success⟩).start
    Backend.ofStore 0 "night" 2).2

/-- One of them has a mail in hand when they are told to shut down, and the other one takes the
second mail after that. -/
def nightEvents : List (Pool.Event Store) := [.tick 0, .resume 0, .signal, .tick 1]

/-- Both mails are completed before the shutdown is through. -/
theorem night_shift_ends : ∃ crew, nightShift.pool.crew = some crew ∧
    (∀ w ∈ crew.workers, w.phase = .waiting) ∧
    crew.Accounted Backend.ofStore nightShift.pool nightEvents ∧
    let stopped := ({ nightShift with
      pool := nightShift.pool.history Backend.ofStore nightEvents } : Service Store).stop
        Backend.ofStore
    stopped.1 = .ok () ∧ stopped.2.pool.state.jobs.map Job.status = [.completed, .completed] ∧
      ∃ more, stopped.2.pool = { nightShift.pool.history Backend.ofStore
        (nightEvents ++ .signal :: more) with crew := none } := by
  have hcrew : nightShift.pool.crew = some (nightShift.pool.crew.get rfl) := (Option.some_get _).symm
  have hfresh : ∀ w ∈ (nightShift.pool.crew.get rfl).workers, w.phase = .waiting := by
    intro w hw
    obtain ⟨i, -, rfl⟩ := List.mem_map.1 hw
    rfl
  obtain ⟨haccounted, more, answer, hstop, -⟩ := shutdown_loses_nothing Backend.ofStore nightShift
    hcrew hfresh nightEvents
  refine ⟨_, hcrew, hfresh, haccounted, rfl, rfl, more, ?_⟩
  rw [hstop]

end Service

end LeaseQueue
