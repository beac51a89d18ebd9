import LeaseQueue.Proofs.Store.Outcome
import Mathlib.Data.List.Find
import Mathlib.Data.Set.Insert

/-!
# Queues do not interfere

Several parties use one store, and each keeps to queues and identifiers of its own (`Zones`).  What
belongs to a party is the part of the store with its queues (`Store.part`).  An operation of the
party does the same to its part as to the whole store (`Store.step_part`), and an operation of
another party leaves the part alone (`Store.part_of_foreign`), so along a run the part is the store
that the party would have had to itself.
-/

namespace LeaseQueue

/-! ### Zones -/

/-- Whether an operation keeps to some queues and identifiers. -/
def Operation.Within (queues : Set String) (ids : Set Ident) : Operation → Prop
  | .enqueue fresh submission => submission.queue ∈ queues ∧ submission.id.getD fresh ∈ ids
  | .claim _ names _ => ∀ name ∈ names, name ∈ queues
  | .move id _ | .get id => id ∈ ids
  | .stats queue _ => queue ∈ queues
  | .select _ => False

/-- The queues and identifiers of each of several parties.  Nothing belongs to two of them. -/
structure Zones (π : Type) where
  queues : π → Set String
  ids : π → Set Ident
  eq_of_queue : ∀ {p q : π} {name : String}, name ∈ queues p → name ∈ queues q → p = q
  eq_of_id : ∀ {p q : π} {id : Ident}, id ∈ ids p → id ∈ ids q → p = q

/-- Operations of several parties in the order in which they reach a store. -/
abbrev Interleaving (π : Type) := List (π × Instant × Operation)

namespace Interleaving

variable {π : Type}

/-- All operations, whoever makes them. -/
def whole (ops : Interleaving π) : List (Instant × Operation) := ops.map Prod.snd

variable [DecidableEq π]

/-- The operations of one party, those of the others deleted. -/
def share (ops : Interleaving π) (p : π) : List (Instant × Operation) :=
  (ops.filter fun x => decide (x.1 = p)).map Prod.snd

/-- Those of the replies that answer one party. -/
def repliesTo (ops : Interleaving π) (p : π) (replies : List Reply) : List Reply :=
  ((ops.zip replies).filter fun x => decide (x.1.1 = p)).map Prod.snd

section Head

variable {p q : π} {x : Instant × Operation} {rest : Interleaving π}

/-- The first operation is in the share of the party that makes it. -/
lemma share_cons_self : share ((p, x) :: rest) p = x :: rest.share p := by
  simp [share]

/-- The first operation is in nobody else's share. -/
lemma share_cons_of_ne (hne : q ≠ p) : share ((q, x) :: rest) p = rest.share p := by
  simp [share, hne]

/-- The first reply goes to the party that makes the first operation. -/
lemma repliesTo_cons_self {reply : Reply} {replies : List Reply} :
    repliesTo ((p, x) :: rest) p (reply :: replies) = reply :: rest.repliesTo p replies := by
  simp [repliesTo]

/-- The first reply goes to nobody else. -/
lemma repliesTo_cons_of_ne (hne : q ≠ p) {reply : Reply} {replies : List Reply} :
    repliesTo ((q, x) :: rest) p (reply :: replies) = rest.repliesTo p replies := by
  simp [repliesTo, hne]

end Head

/-- What a party does in an interleaving is in its share. -/
lemma mem_share {ops : Interleaving π} {p : π} {x : Instant × Operation} :
    x ∈ ops.share p ↔ (p, x) ∈ ops := by
  constructor
  · intro hx
    obtain ⟨y, hy, rfl⟩ := List.mem_map.1 hx
    obtain ⟨hmem, hparty⟩ := List.mem_filter.1 hy
    exact of_decide_eq_true hparty ▸ hmem
  · intro hx
    exact List.mem_map.2 ⟨(p, x), List.mem_filter.2 ⟨hx, decide_eq_true rfl⟩, rfl⟩

end Interleaving

/-! ### The part of a store that belongs to some queues -/

/-- A lease does not touch the queue. -/
@[simp] lemma Job.leased_queue (j : Job) (worker : String) (lease : Span) (now : Instant) :
    (j.leased worker lease now).queue = j.queue := rfl

namespace Ledger

section Filter

variable {queues : Set String} [DecidablePred (· ∈ queues)]

/-- An event of one of some queues is recorded among their records. -/
lemma filter_record (l : Ledger) {queue : String} (hqueue : queue ∈ queues) (date : Date)
    (d : Stats.Delta) :
    (l.record queue date d).filter (fun r => decide (r.queue ∈ queues)) =
      record (l.filter fun r => decide (r.queue ∈ queues)) queue date d := by
  induction l with
  | nil =>
    have hnew : ((Stats.empty queue date).apply d).queue ∈ queues := hqueue
    simp [record, hnew]
  | cons r rest ih =>
    by_cases hsame : (decide (r.queue = queue) && decide (r.date = date)) = true
    · have hr : r.queue ∈ queues := by
        have heq : r.queue = queue := by simp_all
        exact heq ▸ hqueue
      have hafter : (r.apply d).queue ∈ queues := hr
      simp only [record, hsame, List.filter_cons, hr, hafter, if_true, decide_true]
    · by_cases hr : r.queue ∈ queues
      · simp only [record, hsame, List.filter_cons, hr, decide_true, if_true, Bool.false_eq_true,
          if_false, ih]
      · simp only [record, hsame, List.filter_cons, hr, decide_false, Bool.false_eq_true, if_false]
        exact ih

/-- An event of another queue is recorded elsewhere. -/
lemma filter_record_of_notMem (l : Ledger) {queue : String} (hqueue : queue ∉ queues) (date : Date)
    (d : Stats.Delta) :
    (l.record queue date d).filter (fun r => decide (r.queue ∈ queues)) =
      l.filter fun r => decide (r.queue ∈ queues) := by
  induction l with
  | nil =>
    have hnew : ((Stats.empty queue date).apply d).queue ∉ queues := hqueue
    simp [record, hnew]
  | cons r rest ih =>
    by_cases hsame : (decide (r.queue = queue) && decide (r.date = date)) = true
    · have hr : r.queue ∉ queues := by
        have heq : r.queue = queue := by simp_all
        exact heq ▸ hqueue
      have hafter : (r.apply d).queue ∉ queues := hr
      simp only [record, hsame, List.filter_cons, hr, hafter, if_true, decide_false,
        Bool.false_eq_true, if_false]
    · simp only [record, hsame, List.filter_cons, Bool.false_eq_true, if_false, ih]

end Filter

end Ledger

namespace Store

/-- The jobs and the statistics of some queues, in their order. -/
def part (s : Store) (queues : Set String) [DecidablePred (· ∈ queues)] : Store where
  jobs := s.jobs.filter fun j => decide (j.queue ∈ queues)
  ledger := s.ledger.filter fun r => decide (r.queue ∈ queues)

section Part

variable {s : Store} {now : Instant} {queues : Set String} [DecidablePred (· ∈ queues)]

/-- What is sought is not lost with elements that it is not among. -/
lemma find?_filter_of_imp {α : Type} {l : List α} {keep sought : α → Bool}
    (h : ∀ a ∈ l, sought a = true → keep a = true) :
    (l.filter keep).find? sought = l.find? sought := by
  rw [List.find?_filter]
  refine List.find?_congr fun a ha => ?_
  cases hsought : sought a with
  | false => simp
  | true => simp [h a ha hsought]

/-- A job of the part is found in it. -/
lemma find?_part {id : Ident} (hid : ∀ j ∈ s.jobs, j.id = id → j.queue ∈ queues) :
    (s.part queues).find? id = s.find? id := by
  refine find?_filter_of_imp fun j hj hsame => ?_
  exact decide_eq_true (hid j hj (of_decide_eq_true hsame))

/-- What is up for a claim in queues of the part is in it. -/
lemma eligible_part {names : List String} (hnames : ∀ name ∈ names, name ∈ queues) :
    (s.part queues).eligible names now = s.eligible names now := by
  unfold eligible part
  rw [List.filter_filter]
  refine List.filter_congr fun j _ => ?_
  by_cases hqueue : j.queue ∈ queues
  · simp [hqueue]
  · have hother : j.queue ∉ names := fun hname => hqueue (hnames j.queue hname)
    simp [hqueue, hother]

/-- The statistics of a queue of the part are in it. -/
lemma statsOn_part {queue : String} (hqueue : queue ∈ queues) (date : Date) :
    (s.part queues).statsOn queue date = s.statsOn queue date := by
  have hfind : (s.part queues).ledger.find? queue date = s.ledger.find? queue date := by
    refine find?_filter_of_imp fun r _ hsame => decide_eq_true ?_
    have hr : r.queue = queue := of_decide_eq_true (Bool.and_eq_true_iff.1 hsame).1
    exact hr ▸ hqueue
  unfold statsOn Ledger.on
  rw [hfind]

/-- Changes that leave jobs in their queues can be made before or after taking the part. -/
lemma part_update {change : Job → Job} (hchange : ∀ j, (change j).queue = j.queue) (id : Ident) :
    (s.update id change).part queues = (s.part queues).update id change := by
  unfold part update
  rw [List.filter_map]
  congr 2
  refine List.filter_congr fun j _ => ?_
  have hqueue : (if j.id = id then change j else j).queue = j.queue := by
    split_ifs
    · exact hchange j
    · rfl
  simp [hqueue]

/-- Changing a job outside leaves the part alone. -/
lemma part_update_of_foreign {change : Job → Job} (hchange : ∀ j, (change j).queue = j.queue)
    {id : Ident} (hid : ∀ j ∈ s.jobs, j.id = id → j.queue ∉ queues) :
    (s.update id change).part queues = s.part queues := by
  rw [part_update hchange]
  have hsame : ∀ j ∈ (s.part queues).jobs, (if j.id = id then change j else j) = j := by
    intro j hj
    obtain ⟨hmem, hqueue⟩ := List.mem_filter.1 hj
    exact if_neg fun h => hid j hmem h (of_decide_eq_true hqueue)
  have hmap := (List.map_congr_left hsame).trans (List.map_id' _)
  simp only [update, hmap]

/-- A job of one of the queues is put into the part. -/
lemma part_put {job : Job} (hjob : job.queue ∈ queues) :
    (s.put now job).part queues = (s.part queues).put now job := by
  unfold put record part
  simp only [List.filter_append, List.filter_singleton, hjob, decide_true, cond_true,
    Ledger.filter_record _ hjob]

/-- A job of another queue is put outside. -/
lemma part_put_of_foreign {job : Job} (hjob : job.queue ∉ queues) :
    (s.put now job).part queues = s.part queues := by
  unfold put record part
  simp only [List.filter_append, List.filter_singleton, hjob, decide_false, cond_false,
    List.append_nil, Ledger.filter_record_of_notMem _ hjob]

/-- A job of one of the queues is moved and counted in the part. -/
lemma part_settle {id : Ident} {m : Move} {job : Job} (hjob : job.queue ∈ queues) :
    (s.settle now id m job).part queues = (s.part queues).settle now id m job := by
  have hupdate : (s.update id (m.apply now)).part queues =
      (s.part queues).update id (m.apply now) := part_update (Job.apply_queue m now) id
  unfold settle
  cases m.delta? now job with
  | none => exact hupdate
  | some d =>
    have hjobs := congrArg Store.jobs hupdate
    have hledger := Ledger.filter_record s.ledger hjob now.date d
    exact congrArg₂ Store.mk hjobs hledger

/-- A job of another queue is moved and counted outside. -/
lemma part_settle_of_foreign {id : Ident} {m : Move} {job : Job}
    (hid : ∀ j ∈ s.jobs, j.id = id → j.queue ∉ queues) (hjob : job.queue ∉ queues) :
    (s.settle now id m job).part queues = s.part queues := by
  have hupdate : (s.update id (m.apply now)).part queues = s.part queues :=
    part_update_of_foreign (Job.apply_queue m now) hid
  unfold settle
  cases m.delta? now job with
  | none => exact hupdate
  | some d =>
    have hjobs := congrArg Store.jobs hupdate
    have hledger := Ledger.filter_record_of_notMem s.ledger hjob now.date d
    exact congrArg₂ Store.mk hjobs hledger

end Part

/-! ### One operation -/

/-- Whether every job lies, with its queue and its identifier, in the zone of one party. -/
def Zoned {π : Type} (s : Store) (z : Zones π) : Prop :=
  ∀ j ∈ s.jobs, ∃ p, j.queue ∈ z.queues p ∧ j.id ∈ z.ids p

section Steps

variable {π : Type} {z : Zones π} {s : Store} {now : Instant} {op : Operation} {p q : π}

/-- A job with an identifier of a party is in one of its queues. -/
lemma Zoned.queue_of_id (hs : s.Zoned z) {j : Job} (hj : j ∈ s.jobs) (hid : j.id ∈ z.ids p) :
    j.queue ∈ z.queues p := by
  obtain ⟨q, hqueue, hq⟩ := hs j hj
  exact z.eq_of_id hq hid ▸ hqueue

/-- A job in a queue of a party has one of its identifiers. -/
lemma Zoned.id_of_queue (hs : s.Zoned z) {j : Job} (hj : j ∈ s.jobs)
    (hqueue : j.queue ∈ z.queues p) : j.id ∈ z.ids p := by
  obtain ⟨q, hq, hid⟩ := hs j hj
  exact z.eq_of_queue hq hqueue ▸ hid

/-- A changed job that keeps its queue and its identifier stays in its zone. -/
lemma Zoned.update (hs : s.Zoned z) {change : Job → Job} (hid : ∀ j, (change j).id = j.id)
    (hqueue : ∀ j, (change j).queue = j.queue) (id : Ident) : (s.update id change).Zoned z := by
  intro k hk
  obtain ⟨j, hj, rfl⟩ := List.mem_map.1 hk
  obtain ⟨q, hzone⟩ := hs j hj
  refine ⟨q, ?_⟩
  split_ifs
  · rw [hqueue, hid]
    exact hzone
  · exact hzone

/-- Operations that keep to a zone keep all jobs in theirs. -/
lemma Zoned.step (hs : s.Zoned z) (now : Instant) (hop : op.Within (z.queues p) (z.ids p)) :
    (s.step now op).2.Zoned z := by
  have houtcome := step_outcome s now op
  generalize (s.step now op).1 = reply, (s.step now op).2 = t at houtcome
  cases houtcome with
  | enqueued =>
    intro j hj
    rcases List.mem_append.1 hj with hold | hnew
    · exact hs j hold
    · rw [List.mem_singleton.1 hnew]
      exact ⟨p, hop⟩
  | @claimed worker names lease job =>
    exact hs.update (fun j => j.leased_id worker lease now)
      (fun j => j.leased_queue worker lease now) job.id
  | @moved id m job =>
    have hupdate := hs.update (Job.apply_id m now) (Job.apply_queue m now) id
    intro j hj
    rw [settle_jobs] at hj
    exact hupdate j hj
  | kept => exact hs

variable [∀ p, DecidablePred (· ∈ z.queues p)]

/-- To its party an operation does the same in the part as in the whole store. -/
lemma step_part (hs : s.Zoned z) (hop : op.Within (z.queues p) (z.ids p)) :
    (s.part (z.queues p)).step now op =
      ((s.step now op).1, (s.step now op).2.part (z.queues p)) := by
  have hfind : ∀ id ∈ z.ids p, (s.part (z.queues p)).find? id = s.find? id := by
    intro id hid
    exact find?_part fun j hj hsame => hs.queue_of_id hj (hsame ▸ hid)
  unfold step
  cases op with
  | enqueue fresh submission =>
    obtain ⟨hqueue, hid⟩ := hop
    cases hvalid : submission.validate with
    | error reason => simp only [enqueue_of_invalid hvalid]
    | ok u =>
      by_cases hnew : s.find? (submission.pendingJob fresh now).id = none
      · have hnew' := (hfind _ hid).trans hnew
        simp only [enqueue_of_new hvalid hnew, enqueue_of_new hvalid hnew']
        rw [part_put (show (submission.pendingJob fresh now).queue ∈ z.queues p from hqueue)]
      · have hknown' := fun h => hnew ((hfind _ hid).symm.trans h)
        simp only [enqueue_of_known hvalid hnew, enqueue_of_known hvalid hknown']
  | claim worker names lease =>
    have heligible : (s.part (z.queues p)).eligible names now = s.eligible names now :=
      eligible_part hop
    cases hforemost : Job.foremost? (s.eligible names now) with
    | none => simp only [claim_of_none hforemost, claim_of_none (heligible ▸ hforemost)]
    | some job =>
      simp only [claim_of_some hforemost, claim_of_some (heligible ▸ hforemost)]
      have hhand : (s.hand now worker lease job.id).part (z.queues p) =
          (s.part (z.queues p)).hand now worker lease job.id :=
        part_update (fun j => j.leased_queue worker lease now) job.id
      rw [hhand]
  | move id m =>
    cases hfound : s.find? id with
    | none => simp only [move_of_unknown hfound, move_of_unknown ((hfind id hop).trans hfound)]
    | some job =>
      have hfound' := (hfind id hop).trans hfound
      cases hallowed : m.allowed job with
      | false =>
        simp only [move_of_not_allowed hfound hallowed, move_of_not_allowed hfound' hallowed]
      | true =>
        have hqueue : job.queue ∈ z.queues p :=
          hs.queue_of_id (mem_of_find? hfound) ((id_of_find? hfound).symm ▸ hop)
        simp only [move_of_allowed hfound hallowed, move_of_allowed hfound' hallowed]
        rw [part_settle hqueue]
  | get id => simp only [hfind id hop]
  | stats queue date => simp only [statsOn_part hop]
  | select f => exact absurd hop id

/-- An operation of another party leaves the part alone. -/
lemma part_of_foreign (hs : s.Zoned z) (hop : op.Within (z.queues q) (z.ids q)) (hne : q ≠ p) :
    (s.step now op).2.part (z.queues p) = s.part (z.queues p) := by
  have hforeign : ∀ {name}, name ∈ z.queues q → name ∉ z.queues p := fun hq hp =>
    hne (z.eq_of_queue hq hp)
  have houtcome := step_outcome s now op
  generalize (s.step now op).1 = reply, (s.step now op).2 = t at houtcome
  cases houtcome with
  | enqueued => exact part_put_of_foreign (hforeign hop.1)
  | @claimed worker names lease job hforemost =>
    obtain ⟨hmem, hname, -⟩ := eligible_of_foremost? hforemost
    have hid : job.id ∈ z.ids q := hs.id_of_queue hmem (hop job.queue hname)
    have hqueue : ∀ j ∈ s.jobs, j.id = job.id → j.queue ∉ z.queues p := by
      intro j hj hsame
      exact hforeign (hs.queue_of_id hj (hsame.symm ▸ hid))
    exact part_update_of_foreign (fun j => j.leased_queue worker lease now) hqueue
  | @moved id m job hfound =>
    have hqueue : ∀ j ∈ s.jobs, j.id = id → j.queue ∉ z.queues p := by
      intro j hj hsame
      exact hforeign (hs.queue_of_id hj (hsame.symm ▸ hop))
    exact part_settle_of_foreign hqueue (hqueue job (mem_of_find? hfound) (id_of_find? hfound))
  | kept => rfl

/-! ### Whole runs -/

variable [DecidableEq π]

/-- In a run of several parties each of them gets the replies, and has in its part what it would
have if it had the part to itself. -/
lemma run_part (hs : s.Zoned z) {ops : Interleaving π}
    (hops : ∀ x ∈ ops, x.2.2.Within (z.queues x.1) (z.ids x.1)) (p : π) :
    ops.repliesTo p (s.run ops.whole).1 = ((s.part (z.queues p)).run (ops.share p)).1 ∧
      (s.run ops.whole).2.part (z.queues p) = ((s.part (z.queues p)).run (ops.share p)).2 := by
  induction ops generalizing s with
  | nil => exact ⟨rfl, rfl⟩
  | cons head rest ih =>
    obtain ⟨q, now, op⟩ := head
    have hop : op.Within (z.queues q) (z.ids q) := hops (q, now, op) List.mem_cons_self
    obtain ⟨hreplies, hpart⟩ :=
      ih (hs.step now hop) fun x hx => hops x (List.mem_cons_of_mem _ hx)
    have hwhole : Interleaving.whole ((q, now, op) :: rest) =
        (now, op) :: Interleaving.whole rest := rfl
    by_cases hq : q = p
    · subst hq
      rw [hwhole, Interleaving.share_cons_self]
      simp only [run, step_part hs hop]
      rw [Interleaving.repliesTo_cons_self, hreplies]
      exact ⟨rfl, hpart⟩
    · rw [part_of_foreign hs hop hq] at hreplies hpart
      rw [hwhole, Interleaving.share_cons_of_ne hq]
      simp only [run]
      rw [Interleaving.repliesTo_cons_of_ne hq]
      exact ⟨hreplies, hpart⟩

end Steps

/-- Parties that keep to queues and identifiers of their own do not notice each other: however their
operations are interleaved, each gets the replies, and has in the end the jobs and statistics, that
it would get and have if the operations of the others were deleted.  Hence the order in which
operations of different parties come makes no difference to any of them. -/
theorem parties_isolated {π : Type} [DecidableEq π] (z : Zones π)
    [∀ p, DecidablePred (· ∈ z.queues p)] (ops : Interleaving π)
    (hops : ∀ x ∈ ops, x.2.2.Within (z.queues x.1) (z.ids x.1)) :
    (∀ p, ops.repliesTo p (empty.run ops.whole).1 = (empty.run (ops.share p)).1 ∧
        (empty.run ops.whole).2.part (z.queues p) = (empty.run (ops.share p)).2) ∧
      ∀ ops' : Interleaving π, (∀ p, ops'.share p = ops.share p) → ∀ p,
        ops'.repliesTo p (empty.run ops'.whole).1 = ops.repliesTo p (empty.run ops.whole).1 ∧
          (empty.run ops'.whole).2.part (z.queues p) =
            (empty.run ops.whole).2.part (z.queues p) := by
  have hempty : empty.Zoned z := by
    intro j hj
    cases hj
  refine ⟨run_part hempty hops, fun ops' hshare p => ?_⟩
  have hops' : ∀ x ∈ ops', x.2.2.Within (z.queues x.1) (z.ids x.1) := by
    intro x hx
    have hmine : x.2 ∈ ops.share x.1 := by
      rw [← hshare x.1]
      exact Interleaving.mem_share.2 hx
    exact hops x (Interleaving.mem_share.1 hmine)
  obtain ⟨hreplies, hpart⟩ := run_part hempty hops p
  obtain ⟨hreplies', hpart'⟩ := run_part hempty hops' p
  rw [hshare p] at hreplies' hpart'
  exact ⟨hreplies'.trans hreplies.symm, hpart'.trans hpart.symm⟩

/-- Two parties, one with a queue for mail and one with a queue for log lines. -/
def mailAndLogs : Zones Bool where
  queues p := {cond p "mail" "logs"}
  ids p := {cond p (.ofNat 1) (.ofNat 2)}
  eq_of_queue := by
    intro p q name hp hq
    have hnames : cond p "mail" "logs" = cond q "mail" "logs" := hp.symm.trans hq
    revert hnames
    cases p <;> cases q <;> decide
  eq_of_id := by
    intro p q id hp hq
    have hids : cond p (Ident.ofNat 1) (.ofNat 2) = cond q (.ofNat 1) (.ofNat 2) :=
      hp.symm.trans hq
    revert hids
    cases p <;> cases q <;> decide

instance (p : Bool) : DecidablePred (· ∈ mailAndLogs.queues p) := fun name =>
  inferInstanceAs (Decidable (name = cond p "mail" "logs"))

/-- A log line comes first and is the most urgent job of all, and is cancelled in the end. -/
def hurriedLogs : Interleaving Bool :=
  let line := { Submission.plain "logs" "write" (.object []) .epoch with priority := 9 }
  [(false, .epoch, .enqueue (.ofNat 2) line),
    (true, .epoch, .enqueue (.ofNat 1) (.plain "mail" "send" (.object []) .epoch)),
    (true, .epoch, .claim "postman" ["mail"] .zero), (false, .epoch, .move (.ofNat 2) .cancel)]

/-- The postman gets the letter all the same, and the store has the mail that it would have without
the log line. -/
theorem urgent_log_unnoticed :
    (∀ x ∈ hurriedLogs, x.2.2.Within (mailAndLogs.queues x.1) (mailAndLogs.ids x.1)) ∧
      (empty.run hurriedLogs.whole).2.part (mailAndLogs.queues true) =
        (empty.run (hurriedLogs.share true)).2 ∧
      ∃ job : Job, job.id = .ofNat 1 ∧
        hurriedLogs.repliesTo true (empty.run hurriedLogs.whole).1 =
          [.enqueued (.ofNat 1), .claimed (some job)] := by
  have hops : ∀ x ∈ hurriedLogs,
      x.2.2.Within (mailAndLogs.queues x.1) (mailAndLogs.ids x.1) := by
    simp [hurriedLogs, mailAndLogs, Operation.Within, Submission.plain]
  obtain ⟨hreplies, hpart⟩ := (parties_isolated mailAndLogs hurriedLogs hops).1 true
  refine ⟨hops, hpart, _, ?_, hreplies.trans rfl⟩
  rfl

end Store

end LeaseQueue
