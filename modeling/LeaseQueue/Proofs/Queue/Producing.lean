import LeaseQueue.Proofs.Store.Refusal
import LeaseQueue.Proofs.Time.After
import LeaseQueue.Queue.Basic

/-!
# What producers put in

A producer offers a queue a job: a type, a payload that may have failed to become a value, and
options (`Offer`).  On its way to the store an offer is checked twice, by the options when they make
a submission of it and by the store when it makes a job of that.  `Offer.faults` lists all that can
be wrong with an offer, in the order in which it is looked for, and `Offer.Fits` says when nothing
is.

`Queue.offers_translated` is about the whole way: an offer that fits becomes one pending job,
`Offer.job`, at the end of the store, and is counted once; any other is refused for its first fault
and leaves no trace.  Producers can also ask for a delay when they put in a submission; that comes
to the same (`Queue.enqueueJob_eq_enqueueWithDelay`).
-/

namespace LeaseQueue

namespace Invalid

/-- The reasons that apply, of some of which it is known whether they do. -/
def applying (checks : List (Bool × Invalid)) : List Invalid :=
  checks.filterMap fun check => if check.1 then some check.2 else none

/-- Reasons apply in the order in which they are looked for. -/
lemma applying_append (checks others : List (Bool × Invalid)) :
    applying (checks ++ others) = applying checks ++ applying others :=
  List.filterMap_append

/-- A reason that does not apply may be left out. -/
lemma applying_skip (checks others : List (Bool × Invalid)) (reason : Invalid) :
    applying (checks ++ (false, reason) :: others) = applying (checks ++ others) := by
  rw [applying_append, applying_append]
  rfl

/-- No reason applies if none of them does. -/
lemma applying_eq_nil_iff {checks : List (Bool × Invalid)} :
    applying checks = [] ↔ ∀ check ∈ checks, check.1 = false := by
  unfold applying
  rw [List.filterMap_eq_nil_iff]
  refine forall₂_congr fun check _ => ?_
  cases check.1 <;> simp

end Invalid

/-! ### Schedules -/

namespace Options

/-- When a job is due under the options: at a given instant, or after a delay, or now. -/
def due (o : Options) (now : Instant) : Instant :=
  o.scheduledAt.getD ((o.delay.map now.after).getD now)

/-- What is wrong with the schedule that options ask for, in the order of the checks. -/
def faults (o : Options) : List Invalid :=
  Invalid.applying
    [(o.delay.isSome && o.scheduledAt.isSome, .conflictingSchedule),
      (o.delay.any fun delay => decide (delay < Span.zero), .negativeDelay)]

/-- A schedule is refused for its first fault. -/
lemma schedule_eq (o : Options) (now : Instant) :
    o.schedule now =
      match o.faults with
      | [] => .ok (o.due now)
      | reason :: _ => .error reason := by
  unfold schedule faults due
  cases o.delay with
  | none => cases o.scheduledAt <;> rfl
  | some delay =>
    cases o.scheduledAt with
    | some time => rfl
    | none => by_cases hnegative : delay < Span.zero <;> simp [hnegative, Invalid.applying]

/-- Options do not say twice when a job is due if they leave out one way to say it. -/
lemma conflict_eq_false_iff {o : Options} :
    (o.delay.isSome && o.scheduledAt.isSome) = false ↔ o.delay = none ∨ o.scheduledAt = none := by
  cases o.delay <;> cases o.scheduledAt <;> simp

/-- Options ask for no negative delay if no delay that they ask for is negative. -/
lemma negative_eq_false_iff {o : Options} :
    (o.delay.any fun delay => decide (delay < Span.zero)) = false ↔
      ∀ delay, o.delay = some delay → Span.zero ≤ delay := by
  cases o.delay with
  | none => simp
  | some delay => simp [Span.lt_def, Span.le_def]

/-- Outside of leap seconds a delay is added to the nanoseconds of the present, as far as the
calendar goes. -/
lemma nanos_due {o : Options} {now : Instant} (hnow : now.isLeap = false) {delay : Span}
    (hdelay : o.delay = some delay) (hzero : Span.zero ≤ delay) (htime : o.scheduledAt = none) :
    (o.due now).nanos = min (now.nanos + delay.nanos) Instant.greatest.nanos := by
  unfold due
  rw [hdelay, htime]
  exact Instant.nanos_after hnow hzero

/-- The whole seconds of a timeout are cut off at what an unsigned 32-bit word can hold. -/
lemma toNat_wholeSeconds (timeout : Span) :
    (wholeSeconds timeout).toNat = min 4294967295 (timeout.nanos / 1000000000).toNat := by
  unfold wholeSeconds
  exact UInt32.toNat_ofNat_of_lt' (Nat.lt_of_le_of_lt (Nat.min_le_left _ _) (by decide))

end Options

/-- A value is a document if it is an object. -/
lemma Value.isNone_asDocument?_iff {v : Value} :
    v.asDocument?.isNone = false ↔ ∃ fields, v = .object fields := by
  cases v <;> simp [Value.asDocument?]

/-! ### Offers -/

/-- What a producer offers to a queue. -/
structure Offer where
  queue : String
  type : String
  /-- The payload, or why it did not become a value. -/
  payload : Except String Value
  options : Options

namespace Offer

/-- How many attempts an offer allows for. -/
def maxAttempts (a : Offer) (q : Queue) : UInt32 :=
  a.options.maxRetries.getD q.config.defaultMaxAttempts

/-- Whether nothing is wrong with an offer. -/
structure Fits (a : Offer) (q : Queue) : Prop where
  payload : ∃ fields, a.payload = .ok (.object fields)
  schedule : a.options.delay = none ∨ a.options.scheduledAt = none
  delay : ∀ delay, a.options.delay = some delay → Span.zero ≤ delay
  queue : isBlank a.queue = false
  type : isBlank a.type = false
  attempts : 1 ≤ (a.maxAttempts q).toNat

/-- Why an offer whose payload is a value is refused, in the order in which it is looked for. -/
def reasons (a : Offer) (q : Queue) (payload : Value) : List Invalid :=
  Invalid.applying
    [(a.options.delay.isSome && a.options.scheduledAt.isSome, .conflictingSchedule),
      (a.options.delay.any fun delay => decide (delay < Span.zero), .negativeDelay),
      (isBlank a.queue, .missingQueue),
      (isBlank a.type, .missingType),
      (payload.asDocument?.isNone, .malformedPayload payload.kind),
      (decide (a.maxAttempts q = 0), .noAttempts)]

/-- What is wrong with an offer, in the order in which it is looked for. -/
def faults (a : Offer) (q : Queue) : List QueueError :=
  match a.payload with
  | .error message => [.encoding message]
  | .ok payload => (a.reasons q payload).map .invalid

/-- The job of an offer whose payload has the given fields. -/
def job (a : Offer) (q : Queue) (fields : Document) (fresh : Ident) (now : Instant) : Job where
  id := fresh
  queue := a.queue
  type := a.type
  payload := fields
  result := none
  errorMessage := none
  errorKind := none
  priority := a.options.priority
  status := .pending
  attempts := 0
  maxAttempts := a.maxAttempts q
  worker := none
  lockedAt := none
  lockedUntil := none
  scheduledAt := a.options.due now
  createdAt := now
  startedAt := none
  completedAt := none
  updatedAt := now
  organization := a.options.organization
  user := a.options.user
  timeoutSeconds := a.options.timeout.map Options.wholeSeconds
  metadata := a.options.metadata

/-- The submission that the options make of an offer if nothing is wrong with its schedule. -/
def submission (a : Offer) (q : Queue) (payload : Value) (now : Instant) : Submission where
  id := none
  queue := a.queue
  type := a.type
  payload := payload
  metadata := .object a.options.metadata
  priority := a.options.priority
  maxAttempts := a.maxAttempts q
  scheduledAt := a.options.due now
  organization := a.options.organization
  user := a.options.user
  timeoutSeconds := a.options.timeout.map Options.wholeSeconds

variable {a : Offer} {q : Queue} {payload : Value} {now : Instant}

/-- Nothing is wrong with an offer exactly when it fits. -/
lemma faults_eq_nil_iff : a.faults q = [] ↔ a.Fits q := by
  have hattempts : decide (a.maxAttempts q = 0) = false ↔ 1 ≤ (a.maxAttempts q).toNat := by
    rw [decide_eq_false_iff_not, ← UInt32.toNat_inj, UInt32.toNat_zero]
    omega
  unfold faults reasons
  cases hpayload : a.payload with
  | error message =>
    refine iff_of_false (List.cons_ne_nil _ _) fun h => ?_
    obtain ⟨fields, hfields⟩ := h.payload
    rw [hpayload] at hfields
    cases hfields
  | ok payload =>
    simp only [List.map_eq_nil_iff, Invalid.applying_eq_nil_iff, List.forall_mem_cons,
      List.not_mem_nil, Options.conflict_eq_false_iff, Options.negative_eq_false_iff,
      Value.isNone_asDocument?_iff, hattempts]
    constructor
    · rintro ⟨hschedule, hdelay, hqueue, htype, ⟨fields, rfl⟩, hmax, -⟩
      exact ⟨⟨fields, hpayload⟩, hschedule, hdelay, hqueue, htype, hmax⟩
    · rintro ⟨⟨fields, hfields⟩, hschedule, hdelay, hqueue, htype, hmax⟩
      have hobject : payload = .object fields := Except.ok.inj (hpayload.symm.trans hfields)
      exact ⟨hschedule, hdelay, hqueue, htype, ⟨fields, hobject⟩, hmax, fun _ => False.elim⟩

/-- The faults of an offer are those of its schedule, and then those of its submission, whose
metadata are never at fault. -/
lemma reasons_eq (a : Offer) (q : Queue) (payload : Value) (now : Instant) :
    a.reasons q payload = a.options.faults ++ (a.submission q payload now).faults := by
  have hschedule : a.reasons q payload = a.options.faults ++ Invalid.applying _ :=
    Invalid.applying_append [_, _] [_, _, _, _]
  have hskip := Invalid.applying_skip
    [(isBlank a.queue, .missingQueue), (isBlank a.type, .missingType),
      (payload.asDocument?.isNone, .malformedPayload payload.kind)]
    [(decide (a.maxAttempts q = 0), .noAttempts)]
    (.malformedMetadata (Value.object a.options.metadata).kind)
  rw [hschedule]
  exact congrArg (a.options.faults ++ ·) hskip.symm

/-- The job of an offer that fits is due after the delay that it asks for, as far as the calendar
goes. -/
lemma Fits.nanos_scheduledAt (h : a.Fits q) (hnow : now.isLeap = false) {delay : Span}
    (hdelay : a.options.delay = some delay) (fields : Document) (fresh : Ident) :
    (a.job q fields fresh now).scheduledAt.nanos =
      min (now.nanos + delay.nanos) Instant.greatest.nanos := by
  have htime := h.schedule.resolve_left (by rw [hdelay]; exact Option.some_ne_none delay)
  exact Options.nanos_due hnow hdelay (h.delay delay hdelay) htime

/-- The seconds that the job of an offer may take are the whole seconds of its timeout. -/
lemma timeoutSeconds_job (a : Offer) (q : Queue) (fields : Document) (fresh : Ident)
    (now : Instant) :
    (a.job q fields fresh now).timeoutSeconds.map UInt32.toNat =
      a.options.timeout.map fun t => min 4294967295 (t.nanos / 1000000000).toNat := by
  show (a.options.timeout.map Options.wholeSeconds).map UInt32.toNat = _
  rw [Option.map_map]
  exact Option.map_congr fun t _ => Options.toNat_wholeSeconds t

end Offer

/-! ### Producing -/

/-- A job that is put in is counted for its queue and the day, and changes nothing else in the
statistics. -/
lemma Store.statsOn_put_of_reachable {s : Store} (hs : s.Reachable) (job : Job) (now : Instant)
    (queue : String) (date : Date) :
    (s.put now job).statsOn queue date =
      if queue = job.queue ∧ date = now.date then
        { s.statsOn queue date with enqueued := (s.statsOn queue date).enqueued + 1 }
      else s.statsOn queue date := by
  have hmean := (ledger_of_reachable hs).averaged_on queue date
  have hrecord : (s.put now job).statsOn queue date = _ :=
    Ledger.on_record s.ledger queue job.queue date now.date .ofEnqueue
  rw [hrecord]
  by_cases hhere : queue = job.queue ∧ date = now.date
  · rw [if_pos hhere, if_pos ⟨hhere.1.symm, hhere.2.symm⟩, Stats.apply_ofEnqueue hmean]
    rfl
  · rw [if_neg hhere, if_neg fun hthere => hhere ⟨hthere.1.symm, hthere.2.symm⟩]
    rfl

namespace Queue

section Backends

variable {σ : Type} (b : Backend σ) {q : Queue} {a : Offer} {now : Instant} {fresh : Ident}
  {payload : Value}

/-- A payload that did not become a value is refused before the backend hears of it. -/
lemma enqueueJob_of_unencoded {message : String} (hpayload : a.payload = .error message) (s : σ) :
    q.enqueueJob b now fresh a.queue a.type a.payload a.options s =
      (.error (.encoding message), s) := by
  rw [hpayload]
  rfl

/-- So is a schedule that is at fault. -/
lemma enqueueJob_of_fault {reason : Invalid} {rest : List Invalid}
    (hpayload : a.payload = .ok payload) (hfaults : a.options.faults = reason :: rest) (s : σ) :
    q.enqueueJob b now fresh a.queue a.type a.payload a.options s =
      (.error (.invalid reason), s) := by
  have hschedule := a.options.schedule_eq now
  rw [hfaults] at hschedule
  unfold enqueueJob Options.submission
  rw [hpayload, hschedule]
  rfl

/-- Otherwise the backend is asked to put the submission in. -/
lemma enqueueJob_of_schedule (hpayload : a.payload = .ok payload)
    (hfaults : a.options.faults = []) :
    q.enqueueJob b now fresh a.queue a.type a.payload a.options =
      enqueue b now fresh (a.submission q payload now) := by
  have hschedule := a.options.schedule_eq now
  rw [hfaults] at hschedule
  unfold enqueueJob Options.submission
  rw [hpayload, hschedule]
  rfl

/-- A delay among the options comes to the same as a delay with which a submission is put in. -/
lemma enqueueJob_eq_enqueueWithDelay (hpayload : a.payload = .ok payload) {delay : Span}
    (hdelay : a.options.delay = some delay) (htime : a.options.scheduledAt = none) :
    q.enqueueJob b now fresh a.queue a.type a.payload a.options =
      enqueueWithDelay b now fresh (a.submission q payload now) delay := by
  unfold enqueueWithDelay
  split_ifs with hnegative
  · have hfaults : a.options.faults = [.negativeDelay] := by
      simp [Options.faults, Invalid.applying, hdelay, htime, hnegative]
    funext s
    rw [enqueueJob_of_fault b hpayload hfaults]
    rfl
  · have hfaults : a.options.faults = [] := by
      simp [Options.faults, Invalid.applying, hdelay, htime, hnegative]
    have hdue : a.options.due now = now.after delay := by
      rw [Options.due, hdelay, htime]
      rfl
    rw [enqueueJob_of_schedule b hpayload hfaults, enqueueAt, ← hdue]
    rfl

end Backends

section Stores

variable {s : Store} {q : Queue} {a : Offer} {now : Instant} {fresh : Ident}

/-- An offer with a fault is refused for the first one by a queue on a store. -/
lemma enqueueJob_of_faults {fault : QueueError} {rest : List QueueError}
    (hfaults : a.faults q = fault :: rest) :
    q.enqueueJob Backend.ofStore now fresh a.queue a.type a.payload a.options s =
      (.error fault, s) := by
  unfold Offer.faults at hfaults
  cases hpayload : a.payload with
  | error message =>
    rw [hpayload] at hfaults
    rw [← hpayload, enqueueJob_of_unencoded Backend.ofStore hpayload, (List.cons.inj hfaults).1]
  | ok payload =>
    rw [hpayload] at hfaults
    rw [← hpayload]
    obtain ⟨reason, others, hreasons, rfl, -⟩ := List.map_eq_cons_iff.1 hfaults
    rw [a.reasons_eq q payload now] at hreasons
    cases hschedule : a.options.faults with
    | cons first later =>
      rw [hschedule] at hreasons
      rw [enqueueJob_of_fault Backend.ofStore hpayload hschedule, (List.cons.inj hreasons).1]
    | nil =>
      have hvalidate := (a.submission q payload now).validate_eq
      rw [hschedule, List.nil_append] at hreasons
      rw [hreasons] at hvalidate
      rw [enqueueJob_of_schedule Backend.ofStore hpayload hschedule]
      simp only [enqueue, calling, Backend.ofStore, Store.enqueue_of_invalid hvalidate,
        Backend.answer]
      rfl

/-- An offer without one becomes a job of the store if the identifier is a new one. -/
lemma enqueueJob_of_fits (hfits : a.Fits q) (hfresh : ∀ j ∈ s.jobs, j.id ≠ fresh)
    {fields : Document} (hpayload : a.payload = .ok (.object fields)) :
    q.enqueueJob Backend.ofStore now fresh a.queue a.type a.payload a.options s =
      (.ok fresh, s.put now (a.job q fields fresh now)) := by
  have hfaults := Offer.faults_eq_nil_iff.2 hfits
  unfold Offer.faults at hfaults
  rw [hpayload] at hfaults
  have hreasons := List.map_eq_nil_iff.1 hfaults
  rw [a.reasons_eq q _ now] at hreasons
  obtain ⟨hschedule, hsubmission⟩ := List.append_eq_nil_iff.1 hreasons
  have hvalidate := (a.submission q (.object fields) now).validate_eq
  rw [hsubmission] at hvalidate
  have hnew : s.find? ((a.submission q (.object fields) now).pendingJob fresh now).id = none :=
    Store.find?_eq_none_iff.2 hfresh
  rw [enqueueJob_of_schedule Backend.ofStore hpayload hschedule]
  simp only [enqueue, calling, Backend.ofStore, Store.enqueue_of_new hvalidate hnew,
    Backend.answer]
  rfl

/-- A queue on a store in use takes exactly the offers that fit.  Such an offer becomes one pending
job behind the others, with everything that the options say of it, a delay added to the present as
far as the calendar goes, and is counted for its queue and the day; any other offer is refused for
its first fault, and jobs and statistics stay as they were. -/
theorem offers_translated (hs : s.Reachable) (hfresh : ∀ j ∈ s.jobs, j.id ≠ fresh) (q : Queue)
    (a : Offer) (now : Instant) :
    let r := q.enqueueJob Backend.ofStore now fresh a.queue a.type a.payload a.options s
    ((∃ id, r.1 = .ok id) ↔ a.Fits q) ∧
    (a.Fits q → ∃ fields, a.payload = .ok (.object fields) ∧
      r.1 = .ok fresh ∧
      r.2.jobs = s.jobs ++ [a.job q fields fresh now] ∧
      (now.isLeap = false → ∀ delay, a.options.delay = some delay →
        (a.job q fields fresh now).scheduledAt.nanos =
          min (now.nanos + delay.nanos) Instant.greatest.nanos) ∧
      (a.job q fields fresh now).timeoutSeconds.map UInt32.toNat =
        a.options.timeout.map (fun t => min 4294967295 (t.nanos / 1000000000).toNat) ∧
      ∀ queue date, r.2.statsOn queue date =
        if queue = a.queue ∧ date = now.date then
          { s.statsOn queue date with enqueued := (s.statsOn queue date).enqueued + 1 }
        else s.statsOn queue date) ∧
    (¬a.Fits q → ∃ fault rest, a.faults q = fault :: rest ∧ r = (.error fault, s)) := by
  intro r
  have hrefused : ¬a.Fits q → ∃ fault rest, a.faults q = fault :: rest ∧ r = (.error fault, s) := by
    intro hfits
    cases hfaults : a.faults q with
    | nil => exact absurd (Offer.faults_eq_nil_iff.1 hfaults) hfits
    | cons fault rest => exact ⟨fault, rest, rfl, enqueueJob_of_faults hfaults⟩
  have htaken : ∀ fields, a.Fits q → a.payload = .ok (.object fields) →
      r = (.ok fresh, s.put now (a.job q fields fresh now)) :=
    fun fields hfits hpayload => enqueueJob_of_fits hfits hfresh hpayload
  refine ⟨⟨fun ⟨id, hid⟩ => ?_, fun hfits => ?_⟩, fun hfits => ?_, hrefused⟩
  · refine Classical.byContradiction fun hfits => ?_
    obtain ⟨fault, rest, -, hr⟩ := hrefused hfits
    rw [hr] at hid
    cases hid
  · obtain ⟨fields, hpayload⟩ := hfits.payload
    exact ⟨fresh, congrArg Prod.fst (htaken fields hfits hpayload)⟩
  · obtain ⟨fields, hpayload⟩ := hfits.payload
    have hr := htaken fields hfits hpayload
    refine ⟨fields, hpayload, congrArg Prod.fst hr, ?_,
      fun hnow delay hdelay => hfits.nanos_scheduledAt hnow hdelay fields fresh,
      a.timeoutSeconds_job q fields fresh now, fun queue date => ?_⟩
    · rw [hr]
      rfl
    · rw [hr]
      exact Store.statsOn_put_of_reachable hs _ now queue date

/-- A mail that is to be sent after a minute and a half, in up to five attempts of no more than
ninety and a half seconds each. -/
def lateMail : Offer where
  queue := "mail"
  type := "send"
  payload := .ok (.object [("to", .string "a@b.com")])
  options := { delay := some (.ofSeconds 90), maxRetries := some 5, timeout := some ⟨90500000000⟩ }

/-- The same without a type and without an attempt. -/
def untypedMail : Offer := { lateMail with type := " ", options.maxRetries := some 0 }

/-- Another mail. -/
def firstMail : List (Instant × Operation) :=
  [(.epoch, .enqueue .nil (.plain "mail" "send" (.object []) .epoch))]

/-- Behind another mail the first becomes the second job of its queue and day, and the other is
refused for its type. -/
theorem late_mail_put_in :
    let s := (Store.empty.run firstMail).2
    let produced (a : Offer) := ({} : Queue).enqueueJob Backend.ofStore .epoch (.ofNat 1) a.queue
      a.type a.payload a.options s
    s.Reachable ∧ (∀ j ∈ s.jobs, j.id ≠ .ofNat 1) ∧
      lateMail.Fits {} ∧
      (produced lateMail).1 = .ok (.ofNat 1) ∧
      (produced lateMail).2.jobs.map
          (fun j => (j.status, j.scheduledAt.nanos, j.maxAttempts, j.timeoutSeconds)) =
        [(.pending, 0, 3, none), (.pending, 90000000000, 5, some 90)] ∧
      ((produced lateMail).2.statsOn "mail" Instant.epoch.date).enqueued = 2 ∧
      ¬untypedMail.Fits {} ∧
      produced untypedMail = (.error (.invalid .missingType), s) := by
  intro s produced
  have hs : s.Reachable := ⟨_, rfl⟩
  have hfresh : ∀ j ∈ s.jobs, j.id ≠ .ofNat 1 := by
    intro j hj
    rw [List.mem_singleton.1 hj]
    decide
  have hfits : lateMail.Fits {} := Offer.faults_eq_nil_iff.1 (by decide)
  have hfaults : untypedMail.faults {} = [.invalid .missingType, .invalid .noAttempts] := by decide
  have hunfit : ¬untypedMail.Fits {} := by
    rw [← Offer.faults_eq_nil_iff, hfaults]
    exact List.cons_ne_nil _ _
  obtain ⟨-, htaken, -⟩ := offers_translated hs hfresh {} lateMail .epoch
  obtain ⟨fields, hpayload, hid, hjobs, -, -, hstats⟩ := htaken hfits
  obtain ⟨-, -, hrefused⟩ := offers_translated hs hfresh {} untypedMail .epoch
  obtain ⟨fault, rest, hfirst, hr⟩ := hrefused hunfit
  refine ⟨hs, hfresh, hfits, hid, ?_, ?_, hunfit, ?_⟩
  · show List.map _ (enqueueJob _ _ _ _ _ _ _ _ s).2.jobs = _
    rw [hjobs]
    rfl
  · show ((enqueueJob _ _ _ _ _ _ _ _ s).2.statsOn _ _).enqueued = 2
    rw [hstats]
    rfl
  · rw [hfaults] at hfirst
    rw [(List.cons.inj hfirst).1]
    exact hr

end Stores

end Queue

end LeaseQueue
