import LeaseQueue.Proofs.Worker.Diary

/-!
# A crew that was told to shut down comes to its end

A worker that takes no more jobs has only so many steps left: one to leave, one more to report if it
has a job in hand, and one for every stage that the handler has still to go through
(`Phase.load`).  As long as somebody of the crew is there, some worker is ready for a step when the
next step is due, so every round of the schedule takes something off the load of the crew
(`Pool.load_round_lt`), and the fuel of `Pool.finish` lasts until all of them are gone
(`Pool.isDeserted_finish`).
-/

namespace LeaseQueue

variable {σ : Type}

/-! ### Loads -/

/-- How many steps a worker has left that takes no more jobs. -/
def Phase.load : Phase σ → ℕ
  | .holding task => task.stages.length + 2
  | .waiting => 1
  | .left | .crashed => 0

/-- Whether a line is about a claim. -/
def Line.isClaim : Line σ → Bool
  | missed _ | took _ _ => true
  | ran _ | told _ _ _ | left => false

namespace Phase.Turns

variable {duty : Duty (Registration σ)} {signalled : Bool} {name : String}
  {phase phase' : Phase σ} {line? : Option (Line σ)}

/-- A turn that is no claim does not make for more steps. -/
lemma load_le (h : Turns duty signalled name phase line? phase')
    (hclaim : ∀ line, line? = some line → line.isClaim = false) : phase'.load ≤ phase.load := by
  cases h with
  | stay => exact le_rfl
  | left => exact Nat.zero_le 1
  | missed => cases hclaim _ rfl
  | lost => cases hclaim _ rfl
  | took => cases hclaim _ rfl
  | @ran task rest resumesAt hstages =>
    have hlength := congrArg List.length hstages
    rw [List.length_append] at hlength
    simp only [load]
    omega
  | told hstages =>
    simp only [load]
    omega
  | fell => exact Nat.zero_le _

/-- It is a step less if the diary says something about it. -/
lemma load_lt {line : Line σ} (h : Turns duty signalled name phase (some line) phase')
    (hclaim : line.isClaim = false) (hran : line ≠ .ran []) : phase'.load < phase.load := by
  cases h with
  | left => exact Nat.zero_lt_one
  | missed => cases hclaim
  | lost => cases hclaim
  | took => cases hclaim
  | @ran task rest resumesAt hstages =>
    have hlength := congrArg List.length hstages
    have hpos := List.length_pos_iff.2 fun h => hran (congrArg Line.ran h)
    rw [List.length_append] at hlength
    simp only [load]
    omega
  | told hstages =>
    simp only [load]
    omega
  | fell => exact Nat.succ_pos _

end Phase.Turns

namespace Worker

/-- What the workers of a crew have left altogether. -/
def loads (ws : List (Worker σ)) : ℕ := ws.foldr (fun w n => w.phase.load + n) 0

/-- One worker changes what it has left itself. -/
lemma loads_set {ws : List (Worker σ)} {k : ℕ} {w : Worker σ} (hw : ws[k]? = some w)
    (w' : Worker σ) : loads (ws.set k w') + w.phase.load = loads ws + w'.phase.load := by
  induction ws generalizing k with
  | nil => cases hw
  | cons v rest ih =>
    cases k with
    | zero =>
      obtain rfl : v = w := Option.some.inj hw
      show w'.phase.load + loads rest + v.phase.load = v.phase.load + loads rest + w'.phase.load
      omega
    | succ k =>
      have hrest := ih (k := k) hw
      show v.phase.load + loads (rest.set k w') + w.phase.load =
        v.phase.load + loads rest + w'.phase.load
      omega

/-- The fuel that is set aside for a crew covers what its workers have left. -/
lemma loads_le (ws : List (Worker σ)) :
    loads ws ≤ ws.foldr (fun w n => Pool.stepsLeft w + n) 0 := by
  induction ws with
  | nil => exact le_rfl
  | cons w rest ih =>
    have hw : w.phase.load ≤ Pool.stepsLeft w := by
      rcases hphase : w.phase with _ | task | _ | _ <;> simp [Phase.load, Pool.stepsLeft, hphase]
    exact Nat.add_le_add hw ih

end Worker

namespace Pool

variable {b : Backend σ} {p r : Pool σ} {i k : ℕ} {crew : Crew σ} {w : Worker σ}

/-- What the workers of a pool have left altogether. -/
def load (p : Pool σ) : ℕ := (p.crew.map fun c => Worker.loads c.workers).getD 0

/-- A worker by its crew. -/
lemma worker?_eq_some_iff : p.worker? i = some (crew, w) ↔
    p.crew = some crew ∧ crew.workers[i]? = some w := by
  unfold worker?
  constructor
  · intro h
    obtain ⟨c, hc, h⟩ := Option.bind_eq_some_iff.1 h
    obtain ⟨v, hv, h⟩ := Option.bind_eq_some_iff.1 h
    obtain ⟨rfl, rfl⟩ := Prod.mk.inj (Option.some.inj h)
    exact ⟨hc, hv⟩
  · rintro ⟨hcrew, hw⟩
    exact Option.bind_eq_some_iff.2 ⟨crew, hcrew, Option.bind_eq_some_iff.2 ⟨w, hw, rfl⟩⟩

/-- What a step of a worker takes off its load it takes off that of the crew. -/
lemma Steps.load_eq {line? : Option (Line σ)} (h : p.Steps k line? r)
    (hw : p.worker? k = some (crew, w)) : ∃ phase, r.load + w.phase.load = p.load + phase.load ∧
      Phase.Turns crew.duty crew.signalled w.name w.phase line? phase := by
  rcases h with ⟨rfl, rfl⟩ | ⟨crew₀, w₀, w', q, hw₀, hcrew, -, rfl, -, hturn⟩
  · exact ⟨w.phase, rfl, .stay⟩
  · obtain ⟨rfl, rfl⟩ := Prod.mk.inj (Option.some.inj (hw₀.symm.trans hw))
    obtain ⟨hp, hk⟩ := worker?_eq_some_iff.1 hw
    refine ⟨w'.phase, ?_, hturn⟩
    unfold load setWorker
    simp only [hcrew, hp, Option.map_some, Option.getD_some]
    exact Worker.loads_set hk w'

/-- The time does not pass in it. -/
lemma Steps.elapsed_eq {line? : Option (Line σ)} (h : p.Steps k line? r) :
    r.elapsed = p.elapsed := by
  rcases h with ⟨rfl, -⟩ | ⟨-, -, -, q, -, -, helapsed, rfl, -⟩
  · rfl
  · exact helapsed

/-! ### Labours -/

/-- What a worker can do without a claim. -/
inductive Labour where
  | leave
  | resume
  | report

/-- The event in which a worker does it. -/
def Labour.event : Labour → ℕ → Event σ
  | leave => .leave
  | resume => .resume
  | report => .report

lemma Labour.worker?_event (labour : Labour) (k : ℕ) :
    (labour.event k : Event σ).worker? = some k := by
  cases labour <;> rfl

/-- What a worker writes down about it is not about a claim. -/
lemma Labour.isClaim_line? (labour : Labour) (b : Backend σ) (p : Pool σ) (k : ℕ) :
    ∀ line, p.line? b (labour.event k) = some line → line.isClaim = false := by
  intro line hline
  rcases hworker : p.worker? k with _ | ⟨crew, name, deadline, _ | task | _ | _⟩ <;>
    cases labour <;> simp only [event, line?, hworker] at hline <;> try cases hline
  · split_ifs at hline
    cases hline
    rfl
  · split_ifs at hline
    cases hline
    rfl
  · split_ifs at hline
    cases hline
    rfl

/-- Whether a worker of a crew that was told to shut down is somewhere in its loop at some time. -/
def Stands (p : Pool σ) (i now : ℕ) (C : Phase σ → Prop) : Prop :=
  ∃ crew w, p.worker? i = some (crew, w) ∧ crew.signalled = true ∧ p.elapsed = now ∧ C w.phase

section Labour

variable {labour : Labour} {now : ℕ} {C : Phase σ → Prop}

/-- A labour does not make for more steps. -/
lemma load_happen_le (labour : Labour) (b : Backend σ) (p : Pool σ) (k : ℕ) :
    (p.happen b (labour.event k)).load ≤ p.load := by
  have hsteps := steps_happen b p (labour.worker?_event k)
  rcases hw : p.worker? k with _ | ⟨crew, w⟩
  · rcases hsteps with ⟨hsame, -⟩ | ⟨_, _, _, _, hw', -⟩
    · rw [hsame]
    · rw [hw] at hw'
      cases hw'
  · obtain ⟨phase, hload, hturn⟩ := hsteps.load_eq hw
    have hle := hturn.load_le (labour.isClaim_line? b p k)
    omega

/-- It is a step less if the worker has something to write down. -/
lemma load_happen_lt (labour : Labour) {line : Line σ}
    (hline : p.line? b (labour.event k) = some line) (hran : line ≠ .ran []) :
    (p.happen b (labour.event k)).load < p.load := by
  have hsteps := steps_happen b p (labour.worker?_event k)
  rcases hw : p.worker? k with _ | ⟨crew, w⟩
  · rcases hsteps with ⟨-, hnone⟩ | ⟨_, _, _, _, hw', -⟩
    · rw [hline] at hnone
      cases hnone
    · rw [hw] at hw'
      cases hw'
  · obtain ⟨phase, hload, hturn⟩ := hsteps.load_eq hw
    rw [hline] at hturn
    have hlt := hturn.load_lt (labour.isClaim_line? b p k line hline) hran
    omega

/-- A worker stands where it is while another one labours. -/
lemma Stands.happen_of_ne (labour : Labour) (b : Backend σ) (h : p.Stands i now C)
    (hik : i ≠ k) : (p.happen b (labour.event k)).Stands i now C := by
  obtain ⟨crew, w, hw, hsignalled, helapsed, hC⟩ := h
  have hsteps := steps_happen b p (labour.worker?_event k)
  obtain ⟨crew', w', hw', -, hsame, -, hphase, -⟩ := hsteps.worker hw
  refine ⟨crew', w', hw', hsame.trans hsignalled, hsteps.elapsed_eq.trans helapsed, ?_⟩
  rw [hphase hik]
  exact hC

/-- All workers in turn do not make for more steps. -/
lemma load_foldl_le (labour : Labour) (b : Backend σ) (l : List ℕ) (p : Pool σ) :
    (l.foldl (fun p k => p.happen b (labour.event k)) p).load ≤ p.load := by
  induction l generalizing p with
  | nil => exact le_rfl
  | cons k rest ih => exact (ih _).trans (load_happen_le labour b p k)

/-- It is a step less if one of them has something to do. -/
lemma load_foldl_lt (labour : Labour) {l : List ℕ} (hi : i ∈ l)
    (h : p.Stands i now C)
    (hlt : ∀ q : Pool σ, q.Stands i now C → (q.happen b (labour.event i)).load < q.load) :
    (l.foldl (fun p k => p.happen b (labour.event k)) p).load < p.load := by
  induction l generalizing p with
  | nil => cases hi
  | cons k rest ih =>
    by_cases hik : i = k
    · subst hik
      exact (load_foldl_le labour b rest _).trans_lt (hlt p h)
    · have hrest : i ∈ rest := (List.mem_cons.1 hi).resolve_left hik
      exact (ih hrest (h.happen_of_ne labour b hik)).trans_le (load_happen_le labour b p k)

/-- A worker stands where it is through the labours of all if its own does not move it. -/
lemma Stands.foldl (labour : Labour) (l : List ℕ) (h : p.Stands i now C)
    (hself : ∀ q : Pool σ, q.Stands i now C → (q.happen b (labour.event i)).Stands i now C) :
    (l.foldl (fun p k => p.happen b (labour.event k)) p).Stands i now C := by
  induction l generalizing p with
  | nil => exact h
  | cons k rest ih =>
    refine ih ?_
    by_cases hik : i = k
    · subst hik
      exact hself p h
    · exact h.happen_of_ne labour b hik

end Labour

/-! ### Rounds of the schedule -/

/-- Whether a worker has no step left. -/
def IsDeserted (p : Pool σ) : Prop :=
  ∀ i crew w, p.worker? i = some (crew, w) → w.isGone = true

/-- Whether the crew, if there is one, was told to shut down. -/
def IsSignalled (p : Pool σ) : Prop := ∀ crew, p.crew = some crew → crew.signalled = true

/-- A step of a worker leaves the crew told as much as it was. -/
lemma Steps.isSignalled {line? : Option (Line σ)} (h : p.Steps k line? r) (hp : p.IsSignalled) :
    r.IsSignalled := by
  rcases h with ⟨rfl, -⟩ | ⟨-, -, w', q, -, hcrew, -, rfl, -⟩
  · exact hp
  · intro crew hr
    obtain ⟨crew₀, hq, rfl⟩ := Option.map_eq_some_iff.1 hr
    exact hp crew₀ (hcrew ▸ hq)

/-- When all are to take their due ticks, they leave. -/
lemma each_take (h : p.IsSignalled) : p.each (take b) =
    (List.range p.size).foldl (fun p k => p.happen b (Labour.leave.event k)) p := by
  unfold each
  induction List.range p.size generalizing p with
  | nil => rfl
  | cons k rest ih =>
    have htake : p.take b k = p.leave k := by
      unfold take
      rcases hworker : p.worker? k with _ | ⟨crew, w⟩
      · simp only [leave, hworker]
      · simp only [h crew (worker?_eq_some_iff.1 hworker).1, if_true]
    show rest.foldl _ (p.take b k) = rest.foldl _ (p.leave k)
    rw [htake]
    exact ih ((steps_leave b p k).isSignalled h)

/-- All workers in turn leave the crew told as much as it was. -/
lemma IsSignalled.foldl (labour : Labour) (b : Backend σ) (l : List ℕ) (h : p.IsSignalled) :
    (l.foldl (fun p k => p.happen b (labour.event k)) p).IsSignalled := by
  induction l generalizing p with
  | nil => exact h
  | cons k rest ih => exact ih ((steps_happen b p (labour.worker?_event k)).isSignalled h)

/-- So does a round. -/
lemma isSignalled_round (h : p.IsSignalled) : (p.round b).IsSignalled := by
  unfold round
  rw [each_take h]
  exact ((h.foldl .leave b _).foldl .resume b _).foldl .report b _

/-- A worker that is there is among those that take turns. -/
lemma mem_range_of_worker? (hw : p.worker? i = some (crew, w)) : i ∈ List.range p.size := by
  obtain ⟨hcrew, hi⟩ := worker?_eq_some_iff.1 hw
  unfold size
  rw [hcrew]
  exact List.mem_range.2 (List.getElem?_eq_some_iff.1 hi).1

/-- What a worker is ready for that is not gone, when its next step is due. -/
lemma ready_of_nextStep? (hcrew : crew.signalled = true) {due : ℕ}
    (h : p.nextStep? crew w = some due) : p.elapsed ≤ due ∧
      (w.phase = .waiting ∨ ∃ task, w.phase = .holding task ∧ task.resumesAt ≤ due) := by
  unfold nextStep? at h
  rcases hphase : w.phase with _ | task | _ | _
  · simp only [hphase, hcrew, if_true, Option.some.injEq] at h
    exact ⟨h.le, .inl rfl⟩
  · simp only [hphase, hcrew, if_true] at h
    split at h
    · split_ifs at h with hlater
      · obtain rfl := Option.some.inj h
        exact ⟨hlater.le, .inr ⟨task, rfl, le_rfl⟩⟩
      · obtain rfl := Option.some.inj h
        exact ⟨le_rfl, .inr ⟨task, rfl, Nat.le_of_not_lt hlater⟩⟩
    · obtain rfl := Option.some.inj h
      exact ⟨le_max_right _ _, .inr ⟨task, rfl, le_max_left _ _⟩⟩
  · simp [hphase] at h
  · simp [hphase] at h

/-- A worker without a next step is gone. -/
lemma isGone_of_nextStep? (hcrew : crew.signalled = true) (h : p.nextStep? crew w = none) :
    w.isGone = true := by
  unfold nextStep? at h
  unfold Worker.isGone
  rcases hphase : w.phase with _ | task | _ | _
  · simp [hphase] at h
  · simp only [hphase, hcrew, if_true] at h
    split at h
    · split_ifs at h
    · cases h
  · rfl
  · rfl

section Ready

variable {now : ℕ}

/-- A waiting worker leaves. -/
lemma load_leave_lt (h : p.Stands i now (· = .waiting)) :
    (p.happen b (Labour.leave.event i)).load < p.load := by
  obtain ⟨crew, ⟨name, deadline, phase⟩, hw, hsignalled, -, hphase⟩ := h
  obtain rfl : phase = .waiting := hphase
  have hline : p.line? b (.leave i) = some .left := by
    simp only [line?, hw, hsignalled, if_true]
  exact load_happen_lt .leave hline fun h => by cases h

/-- Whether a worker has a job in hand whose handler can go on. -/
def CanGoOn (now : ℕ) (phase : Phase σ) : Prop :=
  ∃ task, phase = .holding task ∧ task.resumesAt ≤ now ∧ task.stages ≠ []

/-- Whether a worker has a job in hand whose handler is through. -/
def IsThrough (now : ℕ) (phase : Phase σ) : Prop :=
  ∃ task, phase = .holding task ∧ task.resumesAt ≤ now ∧ task.stages = []

/-- A handler that can go on does so. -/
lemma load_resume_lt (h : p.Stands i now (CanGoOn now)) :
    (p.happen b (Labour.resume.event i)).load < p.load := by
  obtain ⟨crew, ⟨name, deadline, phase⟩, hw, hsignalled, rfl, task, hphase, hready, hstages⟩ := h
  obtain rfl : phase = .holding task := hphase
  have hline : p.line? b (.resume i) = some (.ran (Stage.atOnce true task.stages)) := by
    simp only [line?, hw, hsignalled, if_pos hready]
  refine load_happen_lt .resume hline fun h => ?_
  have hnone : Stage.atOnce true task.stages = [] := Line.ran.inj h
  rcases hall : task.stages with _ | ⟨stage, rest⟩
  · exact hstages hall
  · rw [hall] at hnone
    cases stage <;> simp [Stage.atOnce] at hnone

/-- A job whose handler is through is reported. -/
lemma load_report_lt (h : p.Stands i now (IsThrough now)) :
    (p.happen b (Labour.report.event i)).load < p.load := by
  obtain ⟨crew, ⟨name, deadline, phase⟩, hw, -, rfl, task, hphase, hready, hstages⟩ := h
  obtain rfl : phase = .holding task := hphase
  have hline : ∃ id m answer, p.line? b (.report i) = some (.told id m answer) := by
    simp only [line?, hw, hstages, List.isEmpty_nil, hready, and_self, if_true]
    exact ⟨_, _, _, rfl⟩
  obtain ⟨id, m, answer, hline⟩ := hline
  exact load_happen_lt .report hline fun h => by cases h

/-- A worker with a job in hand does not leave. -/
lemma Stands.leave {C : Phase σ → Prop} (hC : ∀ phase, C phase → ∃ task, phase = .holding task)
    (h : p.Stands i now C) : (p.happen b (Labour.leave.event i)).Stands i now C := by
  have hsame : p.leave i = p := by
    obtain ⟨crew, ⟨name, deadline, phase⟩, hw, -, -, hphase⟩ := h
    obtain ⟨task, rfl⟩ := hC phase hphase
    simp only [Pool.leave, hw]
  show (p.leave i).Stands i now C
  rw [hsame]
  exact h

/-- A handler that is through stays so. -/
lemma Stands.resume (h : p.Stands i now (IsThrough now)) :
    (p.happen b (Labour.resume.event i)).Stands i now (IsThrough now) := by
  obtain ⟨crew, ⟨name, deadline, phase⟩, hw, hsignalled, rfl, task, hphase, hready, hstages⟩ := h
  obtain rfl : phase = .holding task := hphase
  obtain ⟨w, hphase⟩ : ∃ w : Worker σ, w = ⟨name, deadline,
      .holding { task with resumesAt := p.elapsed, stages := [] }⟩ := ⟨_, rfl⟩
  have hresume : p.resume i = p.setWorker i w := by
    simp only [Pool.resume, hw, if_pos hready, hstages, runStages, hphase]
  have hworker : (p.setWorker i w).worker? i =
      some ({ crew with workers := crew.workers.set i w }, w) := by
    rw [worker?_setWorker, hw, Option.map_some, if_pos rfl]
  show (p.resume i).Stands i p.elapsed _
  rw [hresume]
  refine ⟨_, w, hworker, hsignalled, rfl, ?_⟩
  rw [hphase]
  exact ⟨_, rfl, le_rfl, rfl⟩

end Ready

/-- Every round at a due time takes something off the load. -/
theorem load_round_lt (h : p.IsSignalled) (hw : p.worker? i = some (crew, w))
    (hready : w.phase = .waiting ∨ ∃ task, w.phase = .holding task ∧ task.resumesAt ≤ p.elapsed) :
    (p.round b).load < p.load := by
  have hsignalled : crew.signalled = true := h crew (worker?_eq_some_iff.1 hw).1
  have hmem : ∀ {q : Pool σ} {C : Phase σ → Prop}, q.Stands i p.elapsed C →
      i ∈ List.range q.size := fun ⟨_, _, hq, _⟩ => mem_range_of_worker? hq
  -- The round in three parts, none of which makes for more steps.
  obtain ⟨left, hleft⟩ : ∃ left, p.each (take b) = left := ⟨_, rfl⟩
  obtain ⟨resumed, hresumed⟩ : ∃ resumed, left.each resume = resumed := ⟨_, rfl⟩
  have hround : p.round b = resumed.each (report b) := by
    unfold round
    rw [hleft, hresumed]
  rw [hround]
  rw [each_take h] at hleft
  have hle₁ : left.load ≤ p.load := hleft ▸ load_foldl_le .leave b _ p
  have hle₂ : resumed.load ≤ left.load := hresumed ▸ load_foldl_le .resume b _ left
  have hle₃ : (resumed.each (report b)).load ≤ resumed.load := load_foldl_le .report b _ resumed
  rcases hready with hphase | ⟨task, hphase, htime⟩
  · have hstands : p.Stands i p.elapsed (· = .waiting) := ⟨crew, w, hw, hsignalled, rfl, hphase⟩
    have hlt : left.load < p.load :=
      hleft ▸ load_foldl_lt .leave (hmem hstands) hstands fun _ => load_leave_lt
    omega
  · by_cases hstages : task.stages = []
    · have hstands : p.Stands i p.elapsed (IsThrough p.elapsed) :=
        ⟨crew, w, hw, hsignalled, rfl, task, hphase, htime, hstages⟩
      have hstands₁ : left.Stands i p.elapsed (IsThrough p.elapsed) :=
        hleft ▸ hstands.foldl .leave _ fun q => Stands.leave fun _ ⟨t, ht, _⟩ => ⟨t, ht⟩
      have hstands₂ : resumed.Stands i p.elapsed (IsThrough p.elapsed) :=
        hresumed ▸ hstands₁.foldl (b := b) .resume _ fun q => Stands.resume
      have hlt : (resumed.each (report b)).load < resumed.load :=
        load_foldl_lt .report (hmem hstands₂) hstands₂ fun _ => load_report_lt
      omega
    · have hstands : p.Stands i p.elapsed (CanGoOn p.elapsed) :=
        ⟨crew, w, hw, hsignalled, rfl, task, hphase, htime, hstages⟩
      have hstands₁ : left.Stands i p.elapsed (CanGoOn p.elapsed) :=
        hleft ▸ hstands.foldl .leave _ fun q => Stands.leave fun _ ⟨t, ht, _⟩ => ⟨t, ht⟩
      have hlt : resumed.load < left.load :=
        hresumed ▸ load_foldl_lt (b := b) .resume (hmem hstands₁) hstands₁ fun _ => load_resume_lt
      omega

/-- Without a due step all are gone. -/
lemma isDeserted_of_nextDue? (h : p.IsSignalled) (hdue : p.nextDue? = none) : p.IsDeserted := by
  intro i crew w hw
  obtain ⟨hcrew, hi⟩ := worker?_eq_some_iff.1 hw
  unfold nextDue? at hdue
  rw [hcrew] at hdue
  have hnone : crew.workers.filterMap (p.nextStep? crew) = [] := by
    simpa using hdue
  have hstep : p.nextStep? crew w = none :=
    List.filterMap_eq_nil_iff.1 hnone w (List.mem_of_getElem? hi)
  exact isGone_of_nextStep? (h crew hcrew) hstep

/-- A due step is due to some worker. -/
lemma exists_of_nextDue? {due : ℕ} (hdue : p.nextDue? = some due) :
    ∃ i crew w, p.worker? i = some (crew, w) ∧ p.nextStep? crew w = some due := by
  unfold nextDue? at hdue
  rcases hcrew : p.crew with _ | crew
  · rw [hcrew] at hdue
    cases hdue
  · rw [hcrew] at hdue
    obtain ⟨w, hw, hstep⟩ := List.mem_filterMap.1 (List.min?_mem hdue)
    obtain ⟨i, hi⟩ := List.getElem?_of_mem hw
    exact ⟨i, crew, w, worker?_eq_some_iff.2 ⟨hcrew, hi⟩, hstep⟩

/-- With more fuel than there is load, the schedule goes on until all are gone. -/
theorem isDeserted_drive (h : p.IsSignalled) {fuel : ℕ} (hfuel : p.load < fuel) :
    (p.drive b none fuel).IsDeserted := by
  induction fuel generalizing p with
  | zero => exact absurd hfuel (Nat.not_lt_zero _)
  | succ fuel ih =>
    unfold drive
    rcases hdue : p.nextDue? with _ | due
    · exact isDeserted_of_nextDue? h hdue
    · obtain ⟨i, crew, w, hw, hstep⟩ := exists_of_nextDue? hdue
      obtain ⟨hle, hready⟩ := ready_of_nextStep? (h crew (worker?_eq_some_iff.1 hw).1) hstep
      have htime : (p.pass (due - p.elapsed)).elapsed = due := Nat.add_sub_cancel' hle
      rw [← htime] at hready
      have hlt : ((p.pass (due - p.elapsed)).round b).load < p.load :=
        load_round_lt (p := p.pass (due - p.elapsed)) h hw hready
      exact ih (isSignalled_round (p := p.pass (due - p.elapsed)) h) (by omega)

/-- A crew that was told to shut down comes to its end. -/
theorem isDeserted_finish (b : Backend σ) (p : Pool σ) : (p.finish b).IsDeserted := by
  have hsignal : p.signal.IsSignalled := by
    intro crew hcrew
    obtain ⟨crew₀, -, rfl⟩ := Option.map_eq_some_iff.1 hcrew
    rfl
  unfold finish
  refine isDeserted_drive hsignal ?_
  unfold load
  rcases p.signal.crew with _ | crew
  · exact Nat.zero_lt_one
  · exact Nat.lt_succ_of_le (Worker.loads_le crew.workers)

end Pool

end LeaseQueue
