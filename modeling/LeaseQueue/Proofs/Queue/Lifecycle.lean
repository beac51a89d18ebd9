import LeaseQueue.Proofs.Worker.Shutdown

/-!
# Services between idle and running

A service keeps three records of whether there is a run: its flag, the token of the run, and the
crew.  To whoever calls it, it is a machine that is idle or runs under a token (`Machine`):
`Machine.Shows` says how the records and the machine go together, `Machine.Shows.meet` that they do so
after every call and whatever the workers do between two calls, and `Service.lifecycle` that the
machine foretells the answers to all calls in any order.  All that the machine has to be told is
whether a worker went down before its crew was let go.
-/

namespace LeaseQueue

variable {σ : Type}

/-! ### What can be done with a service -/

/-- What callers do with a service, and what happens to its pool between two calls. -/
inductive Demand (σ : Type) where
  | start (token : ℕ) (label : String) (workers : ℕ)
  | stop
  | register (type : String) (handler : Handler σ)
  /-- Asks whether the queue is running. -/
  | ask
  | startManaged (label : String) (workers : ℕ)
  | stopManaged
  | newToken
  | cancel (token : ℕ)
  | meanwhile (e : Pool.Event σ) (he : e ≠ .signal)

/-- What a caller is answered. -/
inductive Answer where
  | nothing
  | done (r : Except QueueError Unit)
  | running (b : Bool)
  | token (n : ℕ)

namespace Service

/-- What a demand is answered, and what is left then. -/
def meet (b : Backend σ) (s : Service σ) : Demand σ → Answer × Service σ
  | .start token label workers => (s.start b token label workers).map .done id
  | .stop => (s.stop b).map .done id
  | .register type handler => (s.register type handler).map .done id
  | .ask => (.running s.isRunning, s)
  | .startManaged label workers => (s.startManaged b label workers).map .done id
  | .stopManaged => (s.stopManaged b).map .done id
  | .newToken => s.newToken.map .token id
  | .cancel token => (.nothing, s.cancelToken token)
  | .meanwhile e _ => (.nothing, s.onPool fun p => p.happen b e)

/-- The flag of an idle queue can be raised. -/
lemma markRunning_of_idle {s : Service σ} (h : s.running = false) :
    s.markRunning = (true, { s with running := true }) := by
  unfold markRunning
  rw [h]
  rfl

/-- That of a run cannot. -/
lemma markRunning_of_running {s : Service σ} (h : s.running = true) : s.markRunning = (false, s) := by
  unfold markRunning
  rw [h]
  rfl

/-- A start of an idle queue. -/
lemma start_of_idle (b : Backend σ) {s : Service σ} {workers : ℕ} (hworkers : workers ≠ 0)
    (h : s.running = false) (token : ℕ) (label : String) :
    s.start b token label workers =
      (.ok (), ({ s with running := true } : Service σ).launch token label workers) := by
  unfold start
  rw [if_neg hworkers, markRunning_of_idle h]

/-- A start of a queue that is running. -/
lemma start_of_isRunning (b : Backend σ) {s : Service σ} {workers : ℕ} (hworkers : workers ≠ 0)
    (h : s.isRunning = true) (token : ℕ) (label : String) :
    s.start b token label workers = (.error .alreadyRunning, s) := by
  have hrunning : s.running = true := (Bool.and_eq_true_iff.1 h).1
  unfold start
  rewrite [if_neg hworkers, markRunning_of_running hrunning]
  exact if_pos h

/-- Whether a worker of the present crew has gone down by the time all of them are gone. -/
def panics (b : Backend σ) (s : Service σ) : Bool := (s.pool.finish b).hasCrashed

/-- What is left of a service when its crew is gone and let go. -/
def ended (b : Backend σ) (s : Service σ) : Service σ :=
  { s with
    pool := { s.pool.finish b with crew := none }
    shutdown := none
    running := false }

/-- A start of a queue whose run was cancelled. -/
lemma start_of_cancelled (b : Backend σ) {s : Service σ} {workers : ℕ} (hworkers : workers ≠ 0)
    (hrunning : s.running = true) (hasked : s.isRunning = false) (hcrew : s.pool.crew.isSome = true)
    (token : ℕ) (label : String) :
    s.start b token label workers =
      if s.panics b then (.error .ungracefulShutdown, s.ended b)
      else (.ok (), ({ s.ended b with running := true } : Service σ).launch token label workers) := by
  have hstop : s.stop b = (if s.panics b then .error .ungracefulShutdown else .ok (), s.ended b) :=
    stop_of_isSome b hcrew
  unfold start
  rewrite [if_neg hworkers, markRunning_of_running hrunning]
  simp only [hasked, Bool.false_eq_true, if_false, hstop]
  split_ifs <;> rfl

/-- The manager remembers the token of a run that it has begun. -/
lemma startManaged_of_ok {b : Backend σ} {s t : Service σ} {label : String} {workers : ℕ}
    (h : s.newToken.2.start b s.tokens label workers = (.ok (), t)) :
    s.startManaged b label workers = (.ok (), { t with managed := some s.tokens }) := by
  unfold startManaged
  simp only [newToken] at h ⊢
  rw [h]

/-- It remembers what it did before if it could not begin one. -/
lemma startManaged_of_error {b : Backend σ} {s t : Service σ} {label : String} {workers : ℕ}
    {e : QueueError} (h : s.newToken.2.start b s.tokens label workers = (.error e, t)) :
    s.startManaged b label workers = (.error e, t) := by
  unfold startManaged
  simp only [newToken] at h ⊢
  rw [h]

/-- It makes no difference to that whether the crew has already been told to shut down. -/
lemma panics_cancelToken (b : Backend σ) (s : Service σ) (token : ℕ) :
    (s.cancelToken token).panics b = s.panics b := by
  have hsignal : s.pool.signal.signal = s.pool.signal := by
    unfold Pool.signal
    rcases s.pool.crew with _ | crew <;> rfl
  have hfinish : s.pool.signal.finish b = s.pool.finish b := by
    unfold Pool.finish
    rw [hsignal]
  unfold panics cancelToken
  dsimp only
  split_ifs
  · exact congrArg Pool.hasCrashed hfinish
  · rfl

end Service

/-! ### The machine -/

/-- What a queue is doing. -/
inductive Mode where
  | idle
  | running (token : ℕ)

/-- The token of a run. -/
def Mode.token? : Mode → Option ℕ
  | idle => none
  | running token => some token

/-- A queue as its callers know it. -/
structure Machine (σ : Type) where
  mode : Mode := .idle
  registry : Registry (Registration σ) := .empty
  registrations : ℕ := 0
  tokens : ℕ := 0
  cancelled : List ℕ := []
  managed : Option ℕ := none

namespace Machine

/-- Whether the queue runs under a token that is not cancelled. -/
def isRunning (m : Machine σ) : Bool :=
  match m.mode with
  | .idle => false
  | .running token => !m.cancelled.contains token

/-- Ends the run, if there is one. -/
def stop (panicked : Bool) (m : Machine σ) : Except QueueError Unit × Machine σ :=
  match m.mode with
  | .idle => (.ok (), m)
  | .running _ =>
    (if panicked then .error .ungracefulShutdown else .ok (), { m with mode := .idle })

/-- Begins a run, once a cancelled one has ended. -/
def start (panicked : Bool) (token workers : ℕ) (m : Machine σ) :
    Except QueueError Unit × Machine σ :=
  if workers = 0 then (.error (.invalid .noWorkers), m)
  else if m.isRunning then (.error .alreadyRunning, m)
  else
    match m.mode with
    | .idle => (.ok (), { m with mode := .running token })
    | .running _ =>
      if panicked then (.error .ungracefulShutdown, { m with mode := .idle })
      else (.ok (), { m with mode := .running token })

/-- Registers a handler, unless the queue is running. -/
def register (type : String) (handler : Handler σ) (m : Machine σ) :
    Except QueueError Unit × Machine σ :=
  if m.isRunning then (.error .alreadyRunning, m)
  else
    (.ok (), { m with
      registry := m.registry.register type ⟨m.registrations, handler⟩
      registrations := m.registrations + 1 })

/-- Begins a run under a token of the manager's own, which it remembers if that succeeds. -/
def startManaged (panicked : Bool) (workers : ℕ) (m : Machine σ) :
    Except QueueError Unit × Machine σ :=
  let r := start panicked m.tokens workers { m with tokens := m.tokens + 1 }
  match r.1 with
  | .ok () => (.ok (), { r.2 with managed := some m.tokens })
  | .error e => (.error e, r.2)

/-- Cancels the token that the manager remembers, and ends the run. -/
def stopManaged (panicked : Bool) (m : Machine σ) : Except QueueError Unit × Machine σ :=
  stop panicked
    { m with cancelled := m.managed.toList ++ m.cancelled, managed := none }

/-- What a demand is answered, and what is left then. -/
def meet (panicked : Bool) (m : Machine σ) : Demand σ → Answer × Machine σ
  | .start token _ workers => (m.start panicked token workers).map .done id
  | .stop => (m.stop panicked).map .done id
  | .register type handler => (m.register type handler).map .done id
  | .ask => (.running m.isRunning, m)
  | .startManaged _ workers => (m.startManaged panicked workers).map .done id
  | .stopManaged => (m.stopManaged panicked).map .done id
  | .newToken => (.token m.tokens, { m with tokens := m.tokens + 1 })
  | .cancel token => (.nothing, { m with cancelled := token :: m.cancelled })
  | .meanwhile _ _ => (.nothing, m)

/-- Whether a machine is what callers see of a service. -/
structure Shows (m : Machine σ) (s : Service σ) : Prop where
  running : s.running = m.mode.token?.isSome
  shutdown : s.shutdown = m.mode.token?
  crew : s.pool.crew.map Crew.token = m.mode.token?
  /-- A crew was told to shut down exactly when its token was cancelled. -/
  signalled : ∀ crew, s.pool.crew = some crew →
    crew.signalled = s.cancelled.contains crew.token
  registry : s.registry = m.registry
  registrations : s.registrations = m.registrations
  tokens : s.tokens = m.tokens
  cancelled : s.cancelled = m.cancelled
  managed : s.managed = m.managed

namespace Shows

variable {b : Backend σ} {m : Machine σ} {s : Service σ}

/-- A service is running when the machine is. -/
lemma isRunning_eq (h : m.Shows s) : s.isRunning = m.isRunning := by
  unfold Service.isRunning Machine.isRunning
  rw [h.running, h.shutdown, h.cancelled]
  rcases m.mode with _ | token <;> rfl

/-- A machine that is idle shows a service without a crew. -/
lemma crew_eq_none_iff (h : m.Shows s) : s.pool.crew = none ↔ m.mode = .idle := by
  have hcrew := h.crew
  rcases hmode : m.mode with _ | token
  · rw [hmode] at hcrew
    exact iff_of_true (Option.map_eq_none_iff.1 hcrew) rfl
  · rw [hmode] at hcrew
    refine iff_of_false (fun hnone => ?_) nofun
    rw [hnone] at hcrew
    cases hcrew

/-- What the workers do is not seen. -/
lemma meanwhile (h : m.Shows s) {e : Pool.Event σ} (he : e ≠ .signal) :
    m.Shows (s.onPool fun p => p.happen b e) := by
  obtain ⟨f, hf⟩ := Pool.crew_happen b s.pool he
  refine { h with crew := ?_, signalled := ?_ }
  · show (s.pool.happen b e).crew.map Crew.token = _
    rw [hf, Option.map_map]
    exact h.crew
  · intro crew hcrew
    obtain ⟨crew₀, hcrew₀, rfl⟩ := Option.map_eq_some_iff.1 (hf.symm.trans hcrew)
    exact h.signalled crew₀ hcrew₀

/-- A handler is registered on both sides. -/
lemma register (h : m.Shows s) (type : String) (handler : Handler σ) :
    (s.register type handler).1 = (m.register type handler).1 ∧
      (m.register type handler).2.Shows (s.register type handler).2 := by
  unfold Service.register Machine.register
  rw [h.isRunning_eq]
  split_ifs
  · exact ⟨rfl, h⟩
  · refine ⟨rfl, { h with registry := ?_, registrations := ?_ }⟩
    · show s.registry.register type _ = m.registry.register type _
      rw [h.registry, h.registrations]
    · show s.registrations + 1 = m.registrations + 1
      rw [h.registrations]

/-- A token is cancelled on both sides, and the crew of its run is told. -/
lemma cancelToken (h : m.Shows s) (token : ℕ) :
    ({ m with cancelled := token :: m.cancelled } : Machine σ).Shows (s.cancelToken token) := by
  have hcancelled : token :: s.cancelled = token :: m.cancelled := by rw [h.cancelled]
  unfold Service.cancelToken
  rcases hcrew : s.pool.crew with _ | crew
  · rw [if_neg (by simp [hcrew])]
    refine { h with cancelled := hcancelled, signalled := ?_ }
    intro crew hcrew'
    cases hcrew.symm.trans hcrew'
  · by_cases htoken : crew.token = token
    · rw [if_pos (by simp [hcrew, htoken])]
      refine { h with cancelled := hcancelled, crew := ?_, signalled := ?_ }
      · show (s.pool.crew.map fun c => { c with signalled := true }).map Crew.token = _
        rw [Option.map_map]
        exact h.crew
      · intro crew' hcrew'
        obtain ⟨crew₀, hcrew₀, rfl⟩ := Option.map_eq_some_iff.1 hcrew'
        obtain rfl := Option.some.inj (hcrew.symm.trans hcrew₀)
        exact (List.contains_iff_mem.2 (htoken ▸ List.mem_cons_self)).symm
    · rw [if_neg (by simp [hcrew, htoken])]
      refine { h with cancelled := hcancelled, signalled := ?_ }
      intro crew' hcrew'
      obtain rfl := Option.some.inj (hcrew.symm.trans hcrew')
      rw [h.signalled crew hcrew, List.contains_cons, beq_eq_false_iff_ne.2 htoken, Bool.false_or]

/-- A crew is let go. -/
lemma ended (h : m.Shows s) (b : Backend σ) :
    ({ m with mode := .idle } : Machine σ).Shows (s.ended b) :=
  { h with running := rfl, shutdown := rfl, crew := rfl, signalled := nofun }

/-- A machine that runs shows a service with a crew. -/
lemma isSome_crew (h : m.Shows s) {token : ℕ} (hmode : m.mode = .running token) :
    s.pool.crew.isSome = true := by
  rw [← Option.isSome_map, h.crew, hmode]
  rfl

/-- A run ends on both sides. -/
lemma stop (h : m.Shows s) : (s.stop b).1 = (m.stop (s.panics b)).1 ∧
    (m.stop (s.panics b)).2.Shows (s.stop b).2 := by
  unfold Machine.stop
  rcases hmode : m.mode with _ | token
  · have hnone := h.crew_eq_none_iff.2 hmode
    unfold Service.stop
    rw [hnone]
    exact ⟨rfl, h⟩
  · rw [Service.stop_of_isSome b (h.isSome_crew hmode)]
    exact ⟨rfl, h.ended b⟩

/-- The crew of a new run is put together. -/
lemma launch (h : m.Shows s) (token : ℕ) (label : String) (workers : ℕ) :
    ({ m with mode := .running token } : Machine σ).Shows
      (({ s with running := true } : Service σ).launch token label workers) :=
  { h with
    running := rfl
    shutdown := rfl
    crew := rfl
    signalled := fun crew hcrew => by
      obtain rfl := Option.some.inj hcrew
      rfl }

/-- A run begins on both sides. -/
lemma start (h : m.Shows s) (token : ℕ) (label : String) (workers : ℕ) :
    (s.start b token label workers).1 = (m.start (s.panics b) token workers).1 ∧
      (m.start (s.panics b) token workers).2.Shows (s.start b token label workers).2 := by
  by_cases hworkers : workers = 0
  · subst hworkers
    exact ⟨rfl, h⟩
  · have hrunning := h.running
    unfold Machine.start
    rw [if_neg hworkers, ← h.isRunning_eq]
    cases hasked : s.isRunning with
    | true =>
      rw [Service.start_of_isRunning b hworkers hasked, if_pos rfl]
      exact ⟨rfl, h⟩
    | false =>
      rw [if_neg Bool.false_ne_true]
      rcases hmode : m.mode with _ | old
      · rw [hmode] at hrunning
        rw [Service.start_of_idle b hworkers hrunning]
        exact ⟨rfl, h.launch token label workers⟩
      · rw [hmode] at hrunning
        rw [Service.start_of_cancelled b hworkers hrunning hasked (h.isSome_crew hmode)]
        cases hpanics : s.panics b with
        | true => exact ⟨rfl, h.ended b⟩
        | false => exact ⟨rfl, (h.ended b).launch token label workers⟩

/-- A new token is made on both sides. -/
lemma newToken (h : m.Shows s) :
    ({ m with tokens := m.tokens + 1 } : Machine σ).Shows s.newToken.2 :=
  { h with tokens := congrArg (· + 1) h.tokens }

/-- The manager begins a run on both sides. -/
lemma startManaged (h : m.Shows s) (label : String) (workers : ℕ) :
    (s.startManaged b label workers).1 = (m.startManaged (s.panics b) workers).1 ∧
      (m.startManaged (s.panics b) workers).2.Shows (s.startManaged b label workers).2 := by
  have hstart := h.newToken.start (b := b) s.tokens label workers
  have hpanics : s.newToken.2.panics b = s.panics b := rfl
  rw [hpanics, ← h.tokens] at hstart
  unfold Machine.startManaged
  rw [← h.tokens]
  rcases hmachine : Machine.start (s.panics b) s.tokens workers { m with tokens := s.tokens + 1 } with
    ⟨r, m'⟩
  rcases hcall : s.newToken.2.start b s.tokens label workers with ⟨r', t⟩
  rw [hmachine, hcall] at hstart
  obtain ⟨hanswer, hleft⟩ := hstart
  obtain rfl : r' = r := hanswer
  rcases r' with e | _
  · rw [Service.startManaged_of_error hcall]
    exact ⟨rfl, hleft⟩
  · rw [Service.startManaged_of_ok hcall]
    exact ⟨rfl, { hleft with managed := rfl }⟩

/-- The manager ends a run on both sides. -/
lemma stopManaged (h : m.Shows s) :
    (s.stopManaged b).1 = (m.stopManaged (s.panics b)).1 ∧
      (m.stopManaged (s.panics b)).2.Shows (s.stopManaged b).2 := by
  unfold Service.stopManaged Machine.stopManaged
  rw [h.managed]
  rcases hmanaged : m.managed with _ | token
  · have hforgotten : ({ m with managed := none } : Machine σ).Shows s :=
      { h with managed := h.managed.trans hmanaged }
    exact hforgotten.stop
  · have hforgotten : ({ m with cancelled := token :: m.cancelled, managed := none } :
        Machine σ).Shows { s.cancelToken token with managed := none } :=
      { h.cancelToken token with managed := rfl }
    have hpanics := s.panics_cancelToken b token
    rw [← hpanics]
    exact hforgotten.stop

/-- Whatever is demanded. -/
theorem meet (h : m.Shows s) (d : Demand σ) : (s.meet b d).1 = (m.meet (s.panics b) d).1 ∧
    (m.meet (s.panics b) d).2.Shows (s.meet b d).2 := by
  cases d with
  | start token label workers =>
    obtain ⟨hanswer, hleft⟩ := h.start (b := b) token label workers
    exact ⟨congrArg Answer.done hanswer, hleft⟩
  | stop =>
    obtain ⟨hanswer, hleft⟩ := h.stop (b := b)
    exact ⟨congrArg Answer.done hanswer, hleft⟩
  | register type handler =>
    obtain ⟨hanswer, hleft⟩ := h.register type handler
    exact ⟨congrArg Answer.done hanswer, hleft⟩
  | ask => exact ⟨congrArg Answer.running h.isRunning_eq, h⟩
  | startManaged label workers =>
    obtain ⟨hanswer, hleft⟩ := h.startManaged (b := b) label workers
    exact ⟨congrArg Answer.done hanswer, hleft⟩
  | stopManaged =>
    obtain ⟨hanswer, hleft⟩ := h.stopManaged (b := b)
    exact ⟨congrArg Answer.done hanswer, hleft⟩
  | newToken => exact ⟨congrArg Answer.token h.tokens, h.newToken⟩
  | cancel token => exact ⟨rfl, h.cancelToken token⟩
  | meanwhile e he => exact ⟨rfl, h.meanwhile he⟩

end Shows

/-- The answers to demands one after the other, and what is left then; with each demand comes
whether a worker has gone down. -/
def meetAll : List (Demand σ × Bool) → Machine σ → List Answer × Machine σ
  | [], m => ([], m)
  | (d, panicked) :: ds, m =>
    let r := m.meet panicked d
    let rs := meetAll ds r.2
    (r.1 :: rs.1, rs.2)

/-- Whether a demand is refused, so that nothing changes. -/
def refuses (m : Machine σ) : Demand σ → Bool
  | .start _ _ workers | .startManaged _ workers => decide (workers = 0) || m.isRunning
  | .register _ _ => m.isRunning
  | .stop | .ask | .stopManaged | .newToken | .cancel _ | .meanwhile _ _ => false

end Machine

namespace Service

/-- The answers to demands one after the other, and what is left then. -/
def meetAll (b : Backend σ) : List (Demand σ) → Service σ → List Answer × Service σ
  | [], s => ([], s)
  | d :: ds, s =>
    let r := s.meet b d
    let rs := meetAll b ds r.2
    (r.1 :: rs.1, rs.2)

/-- Whether, at each of the demands, a worker of the crew that is there then has gone down by the
time all of it are gone. -/
def panicsAll (b : Backend σ) : List (Demand σ) → Service σ → List Bool
  | [], _ => []
  | d :: ds, s => s.panics b :: panicsAll b ds (s.meet b d).2

/-- From a machine that shows a service on, the machine foretells the answers and shows what is
left. -/
theorem shows_meetAll (b : Backend σ) {m : Machine σ} {s : Service σ} (h : m.Shows s)
    (ds : List (Demand σ)) :
    (s.meetAll b ds).1 = (m.meetAll (ds.zip (s.panicsAll b ds))).1 ∧
      (m.meetAll (ds.zip (s.panicsAll b ds))).2.Shows (s.meetAll b ds).2 := by
  induction ds generalizing m s with
  | nil => exact ⟨rfl, h⟩
  | cons d ds ih =>
    obtain ⟨hanswer, hleft⟩ := h.meet (b := b) d
    obtain ⟨hanswers, hend⟩ := ih hleft
    exact ⟨congrArg₂ List.cons hanswer hanswers, hend⟩

/-- A start that is refused changes nothing. -/
lemma start_of_refused (b : Backend σ) {s : Service σ} (token : ℕ) (label : String) {workers : ℕ}
    (h : workers = 0 ∨ s.isRunning = true) :
    ∃ e, s.start b token label workers = (.error e, s) := by
  by_cases hworkers : workers = 0
  · subst hworkers
    exact ⟨_, rfl⟩
  · exact ⟨_, start_of_isRunning b hworkers (h.resolve_left hworkers) token label⟩

/-- A demand that is refused leaves all as it was, but for the token that the manager made for it. -/
lemma meet_of_refuses (b : Backend σ) {m : Machine σ} {s : Service σ} (h : m.Shows s)
    {d : Demand σ} (hd : m.refuses d = true) :
    ∃ n, (s.meet b d).2 = { s with tokens := n } := by
  have hrefused : ∀ {workers : ℕ}, (decide (workers = 0) || m.isRunning) = true →
      workers = 0 ∨ s.isRunning = true := by
    intro workers hd
    rw [Bool.or_eq_true, decide_eq_true_eq, ← h.isRunning_eq] at hd
    exact hd
  cases d with
  | start token label workers =>
    obtain ⟨e, he⟩ := start_of_refused b token label (hrefused hd)
    exact ⟨s.tokens, congrArg Prod.snd he⟩
  | startManaged label workers =>
    have hmade : s.newToken.2.isRunning = s.isRunning := rfl
    obtain ⟨e, he⟩ := start_of_refused b (s := s.newToken.2) s.tokens label
      (hmade ▸ hrefused hd)
    exact ⟨s.tokens + 1, congrArg Prod.snd (startManaged_of_error he)⟩
  | register type handler =>
    have hasked : s.isRunning = true := h.isRunning_eq.trans hd
    have hkept : s.register type handler = (.error .alreadyRunning, s) := if_pos hasked
    exact ⟨s.tokens, congrArg Prod.snd hkept⟩
  | stop | ask | stopManaged | newToken | cancel | meanwhile => cases hd

/-- A start that succeeds puts a new crew to a pool whose workers, if there were any, are gone. -/
lemma start_of_ok (b : Backend σ) {m : Machine σ} {s : Service σ} (h : m.Shows s) {token : ℕ}
    {label : String} {workers : ℕ} (hok : (s.start b token label workers).1 = .ok ()) :
    ∃ q crew, (s.start b token label workers).2.pool = { q with crew := some crew } ∧
      q.IsDeserted ∧ (m.mode = .idle ∧ q = s.pool ∨ q = s.pool.finish b) ∧
      crew.token = token ∧ crew.workers.length = workers ∧
      (∀ w ∈ crew.workers, w.phase = .waiting) ∧ crew.duty.registry = m.registry := by
  have hfresh : ∀ t : Service σ, ∀ w ∈ (t.crew token label workers).workers,
      w.phase = .waiting := by
    intro t w hw
    obtain ⟨i, -, rfl⟩ := List.mem_map.1 hw
    rfl
  have hsize : ∀ t : Service σ, (t.crew token label workers).workers.length = workers := by
    intro t
    simp [Service.crew]
  by_cases hworkers : workers = 0
  · subst hworkers
    cases hok
  · have hrunning := h.running
    rcases hmode : m.mode with _ | old
    · rw [hmode] at hrunning
      rw [start_of_idle b hworkers hrunning]
      have hnone := h.crew_eq_none_iff.2 hmode
      refine ⟨s.pool, _, rfl, ?_, .inl ⟨rfl, rfl⟩, rfl, hsize _, hfresh _, h.registry⟩
      intro i crew w hw
      rw [(Pool.worker?_eq_some_iff.1 hw).1] at hnone
      cases hnone
    · rw [hmode] at hrunning
      cases hasked : s.isRunning with
      | true =>
        rw [start_of_isRunning b hworkers hasked] at hok
        cases hok
      | false =>
        have hstart := start_of_cancelled b hworkers hrunning hasked (h.isSome_crew hmode) token label
        rw [hstart] at hok ⊢
        split_ifs at hok ⊢ with hpanics
        exact ⟨s.pool.finish b, _, rfl, Pool.isDeserted_finish b s.pool, .inr rfl, rfl,
          hsize _, hfresh _, h.registry⟩

/-- An idle queue shows as a machine that nothing was done with. -/
lemma shows_idle (queue : Queue) (state : σ) (clock : Instant) :
    ({} : Machine σ).Shows (idle queue state clock) where
  running := rfl
  shutdown := rfl
  crew := rfl
  signalled := nofun
  registry := rfl
  registrations := rfl
  tokens := rfl
  cancelled := rfl
  managed := rfl

/-- A queue that starts out idle answers as the machine does, to all that is demanded of it and
whatever goes on between two demands; what the machine has to be told is whether a worker of the
present crew has gone down by the time all of it are gone.  What is refused disturbs nothing, and
what a start begins with is a pool whose former workers are gone, a new crew, and the handlers as
they are registered then. -/
theorem lifecycle (b : Backend σ) (queue : Queue) (state : σ) (clock : Instant)
    (ds : List (Demand σ)) :
    let began := idle queue state clock
    let foretold := ({} : Machine σ).meetAll (ds.zip (began.panicsAll b ds))
    let s := (began.meetAll b ds).2
    let m := foretold.2
    (began.meetAll b ds).1 = foretold.1 ∧ m.Shows s ∧
      (s.panics b = true ↔ ∃ i crew w,
        (s.pool.finish b).worker? i = some (crew, w) ∧ w.phase = .crashed) ∧
      (∀ d, m.refuses d = true → ∃ n, (s.meet b d).2 = { s with tokens := n }) ∧
      ∀ token label workers, (s.start b token label workers).1 = .ok () →
        ∃ q crew, (s.start b token label workers).2.pool = { q with crew := some crew } ∧
          q.IsDeserted ∧ (m.mode = .idle ∧ q = s.pool ∨ q = s.pool.finish b) ∧
          crew.token = token ∧ crew.workers.length = workers ∧
          (∀ w ∈ crew.workers, w.phase = .waiting) ∧ crew.duty.registry = m.registry := by
  intro began foretold s m
  obtain ⟨hanswers, hshows⟩ := shows_meetAll b (shows_idle queue state clock) ds
  refine ⟨hanswers, hshows, Pool.hasCrashed_iff, ?_, ?_⟩
  · intro d hd
    exact meet_of_refuses b hshows hd
  · intro token label workers hok
    exact start_of_ok b hshows hok

/-- A run that ends because its token is cancelled. -/
def cancelledRun : List (Demand Store) :=
  [.start 7 "day" 1, .ask, .meanwhile (.tick 0) nofun, .cancel 7, .ask]

/-- A start without workers is refused then, and any other start waits for the workers. -/
theorem cancelled_run_replaced :
    let began := idle { config := .standard } Store.empty .epoch
    let s := (began.meetAll Backend.ofStore cancelledRun).2
    (began.meetAll Backend.ofStore cancelledRun).1 =
      [.done (.ok ()), .running true, .nothing, .nothing, .running false] ∧
    (∃ n, (s.meet Backend.ofStore (.start 8 "night" 0)).2 = { s with tokens := n }) ∧
    ∃ (q : Pool Store) (crew : Crew Store),
      (s.start Backend.ofStore 8 "night" 2).2.pool = { q with crew := some crew } ∧
        q.IsDeserted ∧ crew.token = 8 := by
  obtain ⟨hanswers, -, -, hrefused, hstart⟩ :=
    lifecycle Backend.ofStore { config := .standard } Store.empty .epoch cancelledRun
  obtain ⟨q, crew, hpool, hgone, -, htoken, -⟩ := hstart 8 "night" 2 rfl
  exact ⟨hanswers, hrefused (.start 8 "night" 0) rfl, q, crew, hpool, hgone, htoken⟩

end Service

end LeaseQueue
