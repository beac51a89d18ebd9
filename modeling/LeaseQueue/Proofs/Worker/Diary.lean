import LeaseQueue.Proofs.Worker.Event

/-!
# What the workers of a pool do, in their own words

Each worker keeps a diary of a history: the claims that brought nothing, the jobs that it took with
the courses that their handlers were to take, the stages that those went through, and what it told
the backend about the jobs (`Pool.diary`).  `Pool.happen_turn` says what an event does to one
worker: it takes one of the turns of its loop, as its diary has it, or stays where it is.

So the diary of a worker that is between two jobs is made of whole rounds (`Phase.Sits`,
`Pool.sits_history`): in each of them a claim brings nothing, or it brings a job, the handler goes
through all the stages of its course, and what became of the job is told once.
-/

namespace LeaseQueue

variable {σ : Type}

/-! ### Diaries -/

/-- The stages that a handler goes through before it has to wait. -/
def Stage.atOnce (signalled : Bool) : List (Stage σ) → List (Stage σ)
  | [] => []
  | .sleep millis :: _ => [.sleep millis]
  | .awaitShutdown :: rest => if signalled then .awaitShutdown :: atOnce signalled rest else []
  | .note :: rest => .note :: atOnce signalled rest
  | .act change :: rest => .act change :: atOnce signalled rest

/-- A line of the diary of a worker. -/
inductive Line (σ : Type) where
  /-- A claim brought no job, or it failed. -/
  | missed (fault? : Option Fault)
  /-- A claim brought a job, whose handler was to take a course. -/
  | took (job : Job) (course : Course σ)
  /-- The handler went through some stages. -/
  | ran (stages : List (Stage σ))
  /-- The backend was told what became of a job, and answered. -/
  | told (id : Ident) (m : Move) (answer : Except Fault Transition)
  /-- The worker left. -/
  | left

/-- Whether a line is about a call that broke off. -/
def Line.hasCrashed : Line σ → Bool
  | missed (some (.crash _)) | told _ _ (.error (.crash _)) => true
  | missed none | missed (some (.error _)) => false
  | told _ _ (.ok _) | told _ _ (.error (.error _)) => false
  | took _ _ | ran _ | left => false

/-- Whether a line is about a call to the backend. -/
def Line.isCall : Line σ → Bool
  | missed _ | took _ _ | told _ _ _ => true
  | ran _ | left => false

namespace Pool

/-- The worker whose step an event is. -/
def Event.worker? : Event σ → Option ℕ
  | .tick i | .resume i | .report i | .leave i => some i
  | .signal | .pass _ | .act _ _ => none

/-- The course that the handler of a job takes if it begins now. -/
def course (p : Pool σ) (duty : Duty (Registration σ)) (worker : String) (job : Job) : Course σ :=
  match duty.registry.get? job.type with
  | none => ⟨[], .unhandled job.type⟩
  | some r => r.handler (p.runsOf r.serial) (job.context worker) job.payloadText

/-- What a worker writes down about its step. -/
def line? (b : Backend σ) (p : Pool σ) : Event σ → Option (Line σ)
  | .tick i =>
    match p.worker? i with
    | some (crew, { phase := .waiting, name, .. }) =>
      match (b.claim p.clock name crew.duty.queues crew.duty.lease p.state).1 with
      | .ok (some job) => some (.took job (p.course crew.duty name job))
      | .ok none => some (.missed none)
      | .error fault => some (.missed (some fault))
    | _ => none
  | .resume i =>
    match p.worker? i with
    | some (crew, { phase := .holding task, .. }) =>
      if task.resumesAt ≤ p.elapsed then some (.ran (Stage.atOnce crew.signalled task.stages))
      else none
    | _ => none
  | .report i =>
    match p.worker? i with
    | some (crew, { phase := .holding task, .. }) =>
      if task.stages.isEmpty ∧ task.resumesAt ≤ p.elapsed then
        let m := Worker.verdict crew.duty.backoff task.job task.ending (p.elapsed - task.began) p.clock
        some (.told task.job.id m (b.move p.clock task.job.id m p.state).1)
      else none
    | _ => none
  | .leave i =>
    match p.worker? i with
    | some (crew, { phase := .waiting, .. }) => if crew.signalled then some .left else none
    | _ => none
  | .signal | .pass _ | .act _ _ => none

/-- A worker writes down every call that it makes, and no others. -/
lemma isSome_request? (b : Backend σ) (p : Pool σ) (e : Event σ) :
    (p.request? e).isSome = (p.line? b e).any Line.isCall := by
  cases e with
  | tick i =>
    rcases hworker : p.worker? i with _ | ⟨crew, name, deadline, _ | task | _ | _⟩ <;>
      simp only [request?, line?, hworker, Option.isSome_none, Option.any_none]
    rcases (b.claim p.clock name crew.duty.queues crew.duty.lease p.state).1 with
      fault | _ | job <;> rfl
  | resume i =>
    rcases hworker : p.worker? i with _ | ⟨crew, name, deadline, _ | task | _ | _⟩ <;>
      simp only [request?, line?, hworker, Option.isSome_none, Option.any_none]
    split_ifs <;> rfl
  | report i =>
    rcases hworker : p.worker? i with _ | ⟨crew, name, deadline, _ | task | _ | _⟩ <;>
      simp only [request?, line?, hworker, Option.isSome_none, Option.any_none]
    split_ifs <;> rfl
  | leave i =>
    rcases hworker : p.worker? i with _ | ⟨crew, name, deadline, _ | task | _ | _⟩ <;>
      simp only [request?, line?, hworker, Option.isSome_none, Option.any_none]
    split_ifs <;> rfl
  | signal | pass | act => rfl

/-- The diary of the worker of an index. -/
def diary (b : Backend σ) (i : ℕ) : List (Event σ) → Pool σ → List (Line σ)
  | [], _ => []
  | e :: es, p =>
    (if e.worker? = some i then p.line? b e else none).toList ++ diary b i es (p.happen b e)

end Pool

/-! ### Turns -/

/-- Whether a course is one that a duty lays down for a job. -/
def Duty.Directs (duty : Duty (Registration σ)) (worker : String) (job : Job)
    (course : Course σ) : Prop :=
  match duty.registry.get? job.type with
  | none => course = ⟨[], .unhandled job.type⟩
  | some r => ∃ runs, course = r.handler runs (job.context worker) job.payloadText

/-- The turns of the loop of a worker, each with what the diary says of it. -/
inductive Phase.Turns (duty : Duty (Registration σ)) (signalled : Bool) (name : String) :
    Phase σ → Option (Line σ) → Phase σ → Prop
  | stay {phase : Phase σ} : Turns duty signalled name phase none phase
  | left (hsignalled : signalled = true) : Turns duty signalled name .waiting (some .left) .left
  | missed {fault? : Option Fault} (hsafe : (Line.missed (σ := σ) fault?).hasCrashed = false) :
      Turns duty signalled name .waiting (some (.missed fault?)) .waiting
  | lost {message : String} :
      Turns duty signalled name .waiting (some (.missed (some (.crash message)))) .crashed
  | took {job : Job} {course : Course σ} {began : ℕ} (hcourse : duty.Directs name job course) :
      Turns duty signalled name .waiting (some (.took job course))
        (.holding ⟨job, began, began, course.stages, course.ending⟩)
  | ran {task : Task σ} {rest : List (Stage σ)} {resumesAt : ℕ}
      (hstages : task.stages = Stage.atOnce signalled task.stages ++ rest) :
      Turns duty signalled name (.holding task)
        (some (.ran (Stage.atOnce signalled task.stages)))
        (.holding { task with resumesAt, stages := rest })
  | told {task : Task σ} {m : Move} {millis : ℕ} {now : Instant} {answer : Except Fault Transition}
      (hstages : task.stages = [])
      (hm : m = Worker.verdict duty.backoff task.job task.ending millis now)
      (hsafe : (Line.told (σ := σ) task.job.id m answer).hasCrashed = false) :
      Turns duty signalled name (.holding task) (some (.told task.job.id m answer)) .waiting
  | fell {task : Task σ} {m : Move} {millis : ℕ} {now : Instant} {message : String}
      (hstages : task.stages = [])
      (hm : m = Worker.verdict duty.backoff task.job task.ending millis now) :
      Turns duty signalled name (.holding task)
        (some (.told task.job.id m (.error (.crash message)))) .crashed

namespace Pool

variable {b : Backend σ} {p : Pool σ} {i : ℕ} {crew : Crew σ} {w : Worker σ}

/-- Stages run in their order, up to the first one that has to wait; the crew is not theirs to
change, nor is the time. -/
lemma runStages_spec (signalled : Bool) (context : Context) (payload : String)
    (stages : List (Stage σ)) (p : Pool σ) :
    stages = Stage.atOnce signalled stages ++ (runStages signalled context payload stages p).1.2 ∧
      (runStages signalled context payload stages p).2.crew = p.crew ∧
      (runStages signalled context payload stages p).2.elapsed = p.elapsed := by
  induction stages generalizing p with
  | nil => exact ⟨rfl, rfl, rfl⟩
  | cons stage rest ih =>
    cases stage with
    | note =>
      obtain ⟨hrest, hcrew, helapsed⟩ := ih { p with notes := _ }
      exact ⟨congrArg _ hrest, hcrew, helapsed⟩
    | sleep millis => exact ⟨rfl, rfl, rfl⟩
    | act change =>
      obtain ⟨hrest, hcrew, helapsed⟩ := ih { p with state := _ }
      exact ⟨congrArg _ hrest, hcrew, helapsed⟩
    | awaitShutdown =>
      cases signalled with
      | true =>
        obtain ⟨hrest, hcrew, helapsed⟩ := ih p
        exact ⟨congrArg _ hrest, hcrew, helapsed⟩
      | false => exact ⟨rfl, rfl, rfl⟩

/-- Whether a pool is left by a step of one worker: nothing is done, when the worker is not ready for
the step, or the worker takes a turn, and the others and the time stay as they are. -/
def Steps (p : Pool σ) (k : ℕ) (line? : Option (Line σ)) (r : Pool σ) : Prop :=
  (r = p ∧ line? = none) ∨
    ∃ (crew : Crew σ) (w w' : Worker σ) (q : Pool σ), p.worker? k = some (crew, w) ∧
      q.crew = p.crew ∧ q.elapsed = p.elapsed ∧ r = q.setWorker k w' ∧ w'.name = w.name ∧
      Phase.Turns crew.duty crew.signalled w.name w.phase line? w'.phase

/-- To begin the task of a job is to take the course that its handler takes then. -/
lemma begin_eq (p : Pool σ) (duty : Duty (Registration σ)) (worker : String) (job : Job) :
    (p.begin duty worker job).1 = ⟨job, p.elapsed, p.elapsed, (p.course duty worker job).stages,
        (p.course duty worker job).ending⟩ ∧
      (p.begin duty worker job).2.crew = p.crew ∧
      (p.begin duty worker job).2.elapsed = p.elapsed := by
  unfold begin course
  rcases duty.registry.get? job.type with _ | r <;> exact ⟨rfl, rfl, rfl⟩

/-- It is one that the duty lays down. -/
lemma directs_course (p : Pool σ) (duty : Duty (Registration σ)) (worker : String) (job : Job) :
    duty.Directs worker job (p.course duty worker job) := by
  unfold Duty.Directs course
  rcases duty.registry.get? job.type with _ | r
  · exact rfl
  · exact ⟨_, rfl⟩

/-- A tick of a worker. -/
lemma steps_tick (b : Backend σ) (p : Pool σ) (k : ℕ) :
    p.Steps k (p.line? b (.tick k)) (p.tick b k) := by
  rcases hworker : p.worker? k with _ | ⟨crew, name, deadline, _ | task | _ | _⟩
  case some.waiting =>
    simp only [tick, line?, hworker, Worker.claim_eq]
    rcases b.claim p.clock name crew.duty.queues crew.duty.lease p.state with
      ⟨(e | message) | _ | job, state⟩
    · exact .inr ⟨crew, _, _, { p with state }, hworker, rfl, rfl, rfl, rfl, .missed rfl⟩
    · exact .inr ⟨crew, _, _, { p with state }, hworker, rfl, rfl, rfl, rfl, .lost⟩
    · exact .inr ⟨crew, _, _, { p with state }, hworker, rfl, rfl, rfl, rfl, .missed rfl⟩
    · obtain ⟨htask, hcrew, helapsed⟩ := begin_eq { p with state } crew.duty name job
      refine .inr ⟨crew, _, _, _, hworker, hcrew, helapsed, rfl, rfl, ?_⟩
      simp only [htask]
      exact .took (directs_course { p with state } crew.duty name job)
  all_goals exact .inl (by simp [tick, line?, hworker])

/-- A worker whose handler goes on. -/
lemma steps_resume (b : Backend σ) (p : Pool σ) (k : ℕ) :
    p.Steps k (p.line? b (.resume k)) (p.resume k) := by
  rcases hworker : p.worker? k with _ | ⟨crew, name, deadline, _ | task | _ | _⟩
  case some.holding =>
    simp only [resume, line?, hworker]
    split_ifs with hready
    · obtain ⟨hstages, hcrew, helapsed⟩ := runStages_spec crew.signalled (task.job.context name)
        task.job.payloadText task.stages p
      exact .inr ⟨crew, _, _, _, hworker, hcrew, helapsed, rfl, rfl, .ran hstages⟩
    · exact .inl ⟨rfl, rfl⟩
  all_goals exact .inl (by simp [resume, line?, hworker])

/-- A worker whose handler is through. -/
lemma steps_report (b : Backend σ) (p : Pool σ) (k : ℕ) :
    p.Steps k (p.line? b (.report k)) (p.report b k) := by
  rcases hworker : p.worker? k with _ | ⟨crew, name, deadline, _ | task | _ | _⟩
  case some.holding =>
    simp only [report, line?, hworker, Worker.report_eq]
    split_ifs with hready
    · have hstages := List.isEmpty_iff.1 hready.1
      rcases b.move p.clock task.job.id (Worker.verdict crew.duty.backoff task.job task.ending
        (p.elapsed - task.began) p.clock) p.state with ⟨(e | message) | t, state⟩
      · exact .inr ⟨crew, _, _, { p with state }, hworker, rfl, rfl, rfl, rfl, .told hstages rfl rfl⟩
      · exact .inr ⟨crew, _, _, { p with state }, hworker, rfl, rfl, rfl, rfl, .fell hstages rfl⟩
      · exact .inr ⟨crew, _, _, { p with state }, hworker, rfl, rfl, rfl, rfl, .told hstages rfl rfl⟩
    · exact .inl ⟨rfl, rfl⟩
  all_goals exact .inl (by simp [report, line?, hworker])

/-- A worker that leaves. -/
lemma steps_leave (b : Backend σ) (p : Pool σ) (k : ℕ) :
    p.Steps k (p.line? b (.leave k)) (p.leave k) := by
  rcases hworker : p.worker? k with _ | ⟨crew, name, deadline, _ | task | _ | _⟩
  case some.waiting =>
    simp only [leave, line?, hworker]
    split_ifs with hsignalled
    · exact .inr ⟨crew, _, _, p, hworker, rfl, rfl, rfl, rfl, .left hsignalled⟩
    · exact .inl ⟨rfl, rfl⟩
  all_goals exact .inl (by simp [leave, line?, hworker])

/-- Whatever the step of a worker is. -/
theorem steps_happen (b : Backend σ) (p : Pool σ) {e : Event σ} {k : ℕ} (he : e.worker? = some k) :
    p.Steps k (p.line? b e) (p.happen b e) := by
  cases e with
  | tick =>
    obtain rfl := Option.some.inj he
    exact steps_tick b p _
  | resume =>
    obtain rfl := Option.some.inj he
    exact steps_resume b p _
  | report =>
    obtain rfl := Option.some.inj he
    exact steps_report b p _
  | leave =>
    obtain rfl := Option.some.inj he
    exact steps_leave b p _
  | signal | pass | act => cases he

/-- Only the workers of a crew change, unless it is told to shut down. -/
lemma crew_happen (b : Backend σ) (p : Pool σ) {e : Event σ} (he : e ≠ .signal) :
    ∃ f : Crew σ → List (Worker σ), (p.happen b e).crew =
      p.crew.map fun c => { c with workers := f c } := by
  have hsame : p.crew = p.crew.map fun c => { c with workers := c.workers } := by
    rcases p.crew with _ | crew <;> rfl
  rcases hk : e.worker? with _ | k
  · cases e with
    | tick | resume | report | leave => cases hk
    | signal => exact absurd rfl he
    | pass | act => exact ⟨_, hsame⟩
  · rcases steps_happen b p hk with ⟨h, -⟩ | ⟨_, _, w', q, -, hcrew, -, h, -⟩
    · rw [h]
      exact ⟨_, hsame⟩
    · rw [h, ← hcrew]
      exact ⟨_, rfl⟩

/-- To be told to shut down changes no worker. -/
lemma worker?_signal (p : Pool σ) (i : ℕ) : p.signal.worker? i =
    (p.worker? i).map fun x => ({ x.1 with signalled := true }, x.2) := by
  unfold signal worker?
  rcases p.crew with _ | crew
  · rfl
  · show (crew.workers[i]? >>= fun w => some ({ crew with signalled := true }, w)) =
      (crew.workers[i]? >>= fun w => some (crew, w)).map _
    rcases crew.workers[i]? with _ | w <;> rfl

/-- What a step of one worker does to any worker of the crew. -/
lemma Steps.worker {k : ℕ} {line? : Option (Line σ)} {r : Pool σ} (h : p.Steps k line? r)
    (hw : p.worker? i = some (crew, w)) :
    ∃ crew' w', r.worker? i = some (crew', w') ∧ crew'.duty = crew.duty ∧
      crew'.signalled = crew.signalled ∧ w'.name = w.name ∧ (i ≠ k → w'.phase = w.phase) ∧
      (i = k → Phase.Turns crew.duty crew.signalled w.name w.phase line? w'.phase) := by
  rcases h with ⟨rfl, rfl⟩ | ⟨crew₀, w₀, w', q, hw₀, hcrew, -, rfl, hname, hturn⟩
  · exact ⟨crew, w, hw, rfl, rfl, rfl, fun _ => rfl, fun _ => .stay⟩
  · have hworker : q.worker? i = some (crew, w) := by
      unfold worker? at hw ⊢
      rw [hcrew]
      exact hw
    rw [worker?_setWorker, hworker]
    refine ⟨_, _, rfl, rfl, rfl, ?_⟩
    by_cases hki : k = i
    · subst hki
      obtain ⟨rfl, rfl⟩ := Prod.mk.inj (Option.some.inj (hw₀.symm.trans hw))
      rw [if_pos rfl]
      exact ⟨hname, fun h => absurd rfl h, fun _ => hturn⟩
    · rw [if_neg hki]
      exact ⟨rfl, fun _ => rfl, fun h => absurd h.symm hki⟩

/-- What an event does to one worker: it takes the turn of its loop that its diary has, or stays where
it is. -/
theorem happen_turn (b : Backend σ) (hw : p.worker? i = some (crew, w)) (e : Event σ) :
    ∃ crew' w', (p.happen b e).worker? i = some (crew', w') ∧ crew'.duty = crew.duty ∧
      w'.name = w.name ∧ Phase.Turns crew.duty crew.signalled w.name w.phase
        (if e.worker? = some i then p.line? b e else none) w'.phase := by
  rcases hk : e.worker? with _ | k
  · rw [if_neg (Option.some_ne_none i).symm]
    cases e with
    | tick | resume | report | leave => cases hk
    | pass | act => exact ⟨crew, w, hw, rfl, rfl, .stay⟩
    | signal =>
      have hsignal : p.signal.worker? i = some ({ crew with signalled := true }, w) := by
        rw [worker?_signal, hw]
        rfl
      exact ⟨_, w, hsignal, rfl, rfl, .stay⟩
  · obtain ⟨crew', w', hw', hduty, -, hname, hother, hself⟩ := (steps_happen b p hk).worker hw
    refine ⟨crew', w', hw', hduty, hname, ?_⟩
    by_cases hik : i = k
    · subst hik
      rw [if_pos rfl]
      exact hself rfl
    · rw [if_neg fun h => hik (Option.some.inj h).symm, hother hik]
      exact .stay

end Pool

/-! ### Rounds -/

/-- A round of the loop of a worker: a claim brings no job, or it brings one, its handler goes
through all the stages of a course that the duty lays down, and then the verdict on how the course
ended is told once. -/
inductive Round (duty : Duty (Registration σ)) (name : String) : List (Line σ) → Prop
  | missed {fault? : Option Fault} : Round duty name [.missed fault?]
  | handled {job : Job} {course : Course σ} {runs : List (List (Stage σ))} {m : Move} {millis : ℕ}
      {now : Instant} {answer : Except Fault Transition} (hcourse : duty.Directs name job course)
      (hruns : course.stages = runs.flatten)
      (hm : m = Worker.verdict duty.backoff job course.ending millis now) :
      Round duty name (.took job course :: runs.map .ran ++ [.told job.id m answer])

/-- Whether a diary is made of whole rounds. -/
def Rounds (duty : Duty (Registration σ)) (name : String) (lines : List (Line σ)) : Prop :=
  ∃ rounds : List (List (Line σ)), (∀ round ∈ rounds, Round duty name round) ∧
    lines = rounds.flatten

/-- How the diary of a worker and where it is in its loop go together: between two jobs there are
whole rounds, after which the worker may have left, with a job in hand there is the beginning of one
more, and a worker goes down with the last round when a call of it broke off. -/
inductive Phase.Sits (duty : Duty (Registration σ)) (name : String) :
    Phase σ → List (Line σ) → Prop
  | waiting {lines : List (Line σ)} (hrounds : Rounds duty name lines)
      (hsafe : ∀ line ∈ lines, line.hasCrashed = false) : Sits duty name .waiting lines
  | left {lines : List (Line σ)} (hrounds : Rounds duty name lines)
      (hsafe : ∀ line ∈ lines, line.hasCrashed = false) : Sits duty name .left (lines ++ [.left])
  | holding {task : Task σ} {lines : List (Line σ)} {course : Course σ}
      {runs : List (List (Stage σ))} (hrounds : Rounds duty name lines)
      (hsafe : ∀ line ∈ lines, line.hasCrashed = false)
      (hcourse : duty.Directs name task.job course)
      (hstages : course.stages = runs.flatten ++ task.stages)
      (hending : course.ending = task.ending) :
      Sits duty name (.holding task) (lines ++ .took task.job course :: runs.map .ran)
  | crashed {lines : List (Line σ)} {last : Line σ} (hrounds : Rounds duty name (lines ++ [last]))
      (hsafe : ∀ line ∈ lines, line.hasCrashed = false) (hlast : last.hasCrashed = true) :
      Sits duty name .crashed (lines ++ [last])

namespace Rounds

variable {duty : Duty (Registration σ)} {name : String} {lines round : List (Line σ)}

lemma nil : Rounds duty name [] := ⟨[], nofun, rfl⟩

/-- One more round. -/
lemma concat (hlines : Rounds duty name lines) (hround : Round duty name round) :
    Rounds duty name (lines ++ round) := by
  obtain ⟨rounds, hrounds, rfl⟩ := hlines
  refine ⟨rounds ++ [round], ?_, by simp⟩
  intro r hr
  rcases List.mem_append.1 hr with hr | hr
  · exact hrounds r hr
  · rw [List.mem_singleton.1 hr]
    exact hround

end Rounds

namespace Phase.Sits

variable {duty : Duty (Registration σ)} {name : String} {phase phase' : Phase σ}
  {lines : List (Line σ)}

/-- As long as a worker is not down, no call of it has broken off. -/
lemma safe (h : phase.Sits duty name lines) (hphase : phase ≠ .crashed) :
    ∀ line ∈ lines, line.hasCrashed = false := by
  cases h with
  | waiting hrounds hsafe => exact hsafe
  | left hrounds hsafe => exact List.forall_mem_append.2 ⟨hsafe, List.forall_mem_singleton.2 rfl⟩
  | holding hrounds hsafe =>
    refine List.forall_mem_append.2 ⟨hsafe, List.forall_mem_cons.2 ⟨rfl, ?_⟩⟩
    intro line hline
    obtain ⟨stages, -, rfl⟩ := List.mem_map.1 hline
    rfl
  | crashed => exact absurd rfl hphase

/-- The round of a worker whose handler is through ends with the verdict. -/
lemma close {task : Task σ} {m : Move} {millis : ℕ} {now : Instant}
    (h : (Phase.holding task).Sits duty name lines) (hstages : task.stages = [])
    (hm : m = Worker.verdict duty.backoff task.job task.ending millis now)
    (answer : Except Fault Transition) :
    Rounds duty name (lines ++ [.told task.job.id m answer]) := by
  cases h with
  | @holding _ before course runs hrounds hsafe hcourse hbegun hending =>
    rw [hstages, List.append_nil] at hbegun
    rw [← hending] at hm
    have hround : Round duty name
        (.took task.job course :: runs.map .ran ++ [.told task.job.id m answer]) :=
      .handled hcourse hbegun hm
    rw [List.append_assoc]
    exact hrounds.concat hround

/-- What a turn adds to the diary goes with where it takes the worker. -/
lemma turn {signalled : Bool} {line? : Option (Line σ)} (h : phase.Sits duty name lines)
    (hturn : Turns duty signalled name phase line? phase') :
    phase'.Sits duty name (lines ++ line?.toList) := by
  have hmore : ∀ {lines : List (Line σ)} {line : Line σ},
      (∀ line ∈ lines, line.hasCrashed = false) → line.hasCrashed = false →
      ∀ line' ∈ lines ++ [line], line'.hasCrashed = false := by
    intro lines line hlines hline line' h
    rcases List.mem_append.1 h with h | h
    · exact hlines line' h
    · rw [List.mem_singleton.1 h]
      exact hline
  cases hturn with
  | stay =>
    rw [Option.toList_none, List.append_nil]
    exact h
  | left hsignalled =>
    cases h with
    | waiting hrounds hsafe => exact .left hrounds hsafe
  | missed hline =>
    cases h with
    | waiting hrounds hsafe => exact .waiting (hrounds.concat .missed) (hmore hsafe hline)
  | lost =>
    cases h with
    | waiting hrounds hsafe => exact .crashed (hrounds.concat .missed) hsafe rfl
  | @took job course began hcourse =>
    cases h with
    | waiting hrounds hsafe =>
      exact @holding _ duty name ⟨job, began, began, course.stages, course.ending⟩ _ course []
        hrounds hsafe hcourse rfl rfl
  | @ran task rest resumesAt hstages =>
    cases h with
    | @holding _ _ course runs hrounds hsafe hcourse hbegun hending =>
      have hruns : course.stages = (runs ++ [Stage.atOnce signalled task.stages]).flatten ++ rest := by
        rw [List.flatten_concat, List.append_assoc, ← hstages]
        exact hbegun
      have hsits := @holding _ duty name { task with resumesAt, stages := rest } _ course _
        hrounds hsafe hcourse hruns hending
      simpa using hsits
  | told hstages hm hline => exact .waiting (h.close hstages hm _) (hmore (h.safe nofun) hline)
  | fell hstages hm => exact .crashed (h.close hstages hm _) (h.safe nofun) rfl

end Phase.Sits

namespace Pool

variable {b : Backend σ} {p : Pool σ} {i : ℕ} {crew : Crew σ} {w : Worker σ} {lines : List (Line σ)}

/-- A worker stays with its crew and its diary through a history. -/
theorem sits_history (hw : p.worker? i = some (crew, w))
    (hsits : w.phase.Sits crew.duty w.name lines) (es : List (Event σ)) :
    ∃ crew' w', (p.history b es).worker? i = some (crew', w') ∧ crew'.duty = crew.duty ∧
      w'.name = w.name ∧ w'.phase.Sits crew.duty w.name (lines ++ p.diary b i es) := by
  induction es generalizing p crew w lines with
  | nil =>
    refine ⟨crew, w, hw, rfl, rfl, ?_⟩
    unfold diary
    rw [List.append_nil]
    exact hsits
  | cons e es ih =>
    obtain ⟨crew₁, w₁, hw₁, hduty, hname, hturn⟩ := happen_turn b hw e
    have hsits₁ := hsits.turn hturn
    rw [← hduty, ← hname] at hsits₁
    obtain ⟨crew₂, w₂, hw₂, hduty₂, hname₂, hsits₂⟩ := ih hw₁ hsits₁
    refine ⟨crew₂, w₂, hw₂, hduty₂.trans hduty, hname₂.trans hname, ?_⟩
    unfold diary
    rw [← List.append_assoc, ← hduty, ← hname]
    exact hsits₂

end Pool

end LeaseQueue
