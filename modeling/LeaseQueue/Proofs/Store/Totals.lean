import LeaseQueue.Proofs.Ident
import LeaseQueue.Proofs.Store.Coherent
import LeaseQueue.Proofs.Time.Saturation

/-!
# How far totals get

The statistics of a day are added up without a look at how far they get, and shown in signed words
of 64 bits (`Stats.inWords`).  While words hold the counts nothing is lost on the way, and beyond
that the words shown are those that adding word by word would lead to (`Stats.inWords_apply`).

A day's total of processing times grows with each job that comes to an end, by no more than the
calendar is long (`Store.modest_of_reachable`), so that words hold it for the first 557 of them
(`Stats.Modest.fits`).
They need not hold it for many more: mail that is handed out in 1970 and completed on the last day
of the calendar leaves them with the 1124th letter (`Store.Closing.run`).
-/

namespace LeaseQueue

namespace Stats

/-! ### Words -/

/-- Whether signed words hold the counts of a record, the number of finished jobs among them. -/
def Fits (r : Stats) : Prop :=
  FitsWord r.enqueued ∧ FitsWord r.completed ∧ FitsWord r.failed ∧ FitsWord r.totalMillis ∧
    FitsWord r.finished

instance (r : Stats) : Decidable r.Fits := inferInstanceAs (Decidable (_ ∧ _))

/-- Counts that words hold are shown as they are. -/
lemma inWords_of_fits {r : Stats} (hr : r.Fits)
    (hmean : r.averageMillis = average r.totalMillis r.finished) : r.inWords = r := by
  obtain ⟨henqueued, hcompleted, hfailed, htotal, hfinished⟩ := hr
  unfold inWords
  rw [inWord_of_fits henqueued, inWord_of_fits hcompleted, inWord_of_fits hfailed,
    inWord_of_fits htotal, inWord_of_fits hfinished, ← hmean]

/-- Adding to the words that are shown leads to the same words as adding to the counts. -/
lemma inWords_apply (r : Stats) (d : Delta) : (r.inWords.apply d).inWords = (r.apply d).inWords := by
  have hfinished : inWord (r.inWords.apply d).finished = inWord (r.apply d).finished := by
    show inWord (inWord r.completed + d.completed + (inWord r.failed + d.failed)) =
      inWord (r.completed + d.completed + (r.failed + d.failed))
    unfold inWord
    simp only [Int64.ofInt_add, Int64.ofInt_toInt]
  unfold inWords at hfinished ⊢
  rw [hfinished]
  simp only [apply, ofCounts, inWord_add]

/-! ### Bounds -/

/-- What holds of the total of a record: it is not negative, and no finished job took longer than
the calendar. -/
structure Modest (r : Stats) : Prop where
  total_nonneg : 0 ≤ r.totalMillis
  total_le : r.totalMillis ≤ Instant.longestMillis * r.finished

/-- Words hold the total of 557 jobs. -/
lemma Modest.fits {r : Stats} (hr : r.Modest) (hfew : r.finished ≤ 557) :
    FitsWord r.totalMillis := by
  have hnonneg := hr.total_nonneg
  have hle := hr.total_le
  unfold Instant.longestMillis at hle
  unfold FitsWord
  omega

namespace Delta

/-- What holds of the milliseconds that an event adds. -/
structure Modest (d : Delta) : Prop where
  millis_nonneg : 0 ≤ d.millis
  millis_le : d.millis ≤ Instant.longestMillis * (d.completed + d.failed)

/-- The milliseconds that count for a time between two instants are no more than the calendar
has. -/
lemma millisOf_le {time : Option Span}
    (htime : ∀ s, time = some s → s.toMillis ≤ Instant.longestMillis) :
    0 ≤ millisOf time ∧ millisOf time ≤ Instant.longestMillis := by
  have hpos : 0 ≤ Instant.longestMillis := by decide
  cases time with
  | none => exact ⟨Int.le_refl _, hpos⟩
  | some s => exact ⟨Int.le_max_right _ _, Int.max_le.2 ⟨htime s rfl, hpos⟩⟩

/-- Putting a job in takes no time. -/
lemma modest_ofEnqueue : Modest ofEnqueue := ⟨by decide, by decide⟩

end Delta

/-- When nothing happened the total is nothing. -/
lemma modest_empty (queue : String) (date : Date) : (empty queue date).Modest where
  total_nonneg := Int.le_refl 0
  total_le := by
    show 0 ≤ Instant.longestMillis * (0 + 0)
    decide

/-- The total stays within its bounds when an event is added. -/
lemma Modest.apply {r : Stats} {d : Delta} (hr : r.Modest) (hd : d.Modest) :
    (r.apply d).Modest where
  total_nonneg := Int.add_nonneg hr.total_nonneg hd.millis_nonneg
  total_le := by
    have hsum : (r.apply d).finished = r.finished + (d.completed + d.failed) := by
      show r.completed + d.completed + (r.failed + d.failed) =
        r.completed + r.failed + (d.completed + d.failed)
      omega
    rw [hsum, Int.mul_add]
    exact Int.add_le_add hr.total_le hd.millis_le

end Stats

/-- What a move adds to a day is no more than the calendar has. -/
lemma Move.millis_le {m : Move} {now : Instant} {job : Job} {d : Stats.Delta}
    (hd : m.delta? now job = some d) : 0 ≤ d.millis ∧ d.millis ≤ Instant.longestMillis := by
  have hsince : ∀ s, job.startedAt.map now.since = some s → s.toMillis ≤ Instant.longestMillis := by
    intro s hs
    obtain ⟨start, -, rfl⟩ := Option.map_eq_some_iff.1 hs
    exact now.toMillis_since_le start
  cases m with
  | complete result =>
    obtain rfl := Option.some.inj hd
    exact Stats.Delta.millisOf_le hsince
  | fail failure =>
    obtain rfl := Option.some.inj hd
    refine Stats.Delta.millisOf_le fun s htime => ?_
    split_ifs at htime
    exact hsince s htime
  | retry next => cases hd
  | cancel => cases hd

/-- And it is added with one job that came to an end. -/
lemma Move.modest_delta {m : Move} {now : Instant} {job : Job} {d : Stats.Delta}
    (hd : m.delta? now job = some d) : d.Modest := by
  obtain ⟨hnonneg, hle⟩ := Move.millis_le hd
  have hone : d.completed + d.failed = 1 := by
    cases m with
    | complete result =>
      obtain rfl := Option.some.inj hd
      rfl
    | fail failure =>
      obtain rfl := Option.some.inj hd
      rfl
    | retry next => cases hd
    | cancel => cases hd
  refine ⟨hnonneg, ?_⟩
  rw [hone, Int.mul_one]
  exact hle

namespace Ledger

/-- Whether the totals of all records are within their bounds. -/
def Modest (l : Ledger) : Prop := ∀ r ∈ l, r.Modest

variable {l : Ledger}

/-- Then so is that of any queue and day. -/
lemma Modest.on (hl : l.Modest) (queue : String) (date : Date) : (Ledger.on l queue date).Modest := by
  unfold Ledger.on
  cases hfound : l.find? queue date with
  | none => exact Stats.modest_empty queue date
  | some r => exact hl r (List.mem_of_find?_eq_some hfound)

/-- Recording an event keeps totals within their bounds. -/
lemma Modest.record {d : Stats.Delta} (hl : l.Modest) (hd : d.Modest) (queue : String)
    (date : Date) : (l.record queue date d).Modest := by
  induction l with
  | nil => exact List.forall_mem_singleton.2 ((Stats.modest_empty queue date).apply hd)
  | cons r rest ih =>
    obtain ⟨hr, hrest⟩ := List.forall_mem_cons.1 hl
    unfold Ledger.record
    split
    · exact List.forall_mem_cons.2 ⟨hr.apply hd, hrest⟩
    · exact List.forall_mem_cons.2 ⟨hr, ih hrest⟩

end Ledger

namespace Store

/-- Every operation keeps totals within their bounds. -/
lemma modest_step {s : Store} (hs : s.ledger.Modest) (now : Instant) (op : Operation) :
    (s.step now op).2.ledger.Modest := by
  have houtcome := step_outcome s now op
  generalize (s.step now op).1 = reply, (s.step now op).2 = t at houtcome
  cases houtcome with
  | enqueued => exact hs.record Stats.Delta.modest_ofEnqueue _ _
  | claimed => exact hs
  | @moved id m job =>
    unfold settle
    cases hdelta : m.delta? now job with
    | none => exact hs
    | some d => exact hs.record (Move.modest_delta hdelta) _ _
  | kept => exact hs

/-- The totals of every reachable store are within their bounds. -/
lemma modest_of_reachable {s : Store} (hs : s.Reachable) : s.ledger.Modest := by
  obtain ⟨ops, rfl⟩ := hs
  have hempty : Store.empty.ledger.Modest := fun r hr => absurd hr List.not_mem_nil
  exact run_induction (P := fun s => s.ledger.Modest) (fun _ now op h => modest_step h now op)
    hempty ops

/-- What a move counts goes to the record of the day. -/
lemma statsOn_move {s : Store} {now : Instant} {job : Job} {m : Move} {d : Stats.Delta}
    (hfound : s.find? job.id = some job) (hallowed : m.allowed job = true)
    (hdelta : m.delta? now job = some d) :
    (s.move now job.id m).2.statsOn job.queue now.date =
      (s.statsOn job.queue now.date).apply d := by
  rw [move_of_allowed hfound hallowed]
  unfold settle statsOn
  rw [hdelta]
  exact (Ledger.on_record _ _ _ _ _ _).trans (if_pos ⟨rfl, rfl⟩)

end Store

/-! ### Slow mail -/

/-- A letter. -/
def letter : Submission := .plain "mail" "send" (.object []) .epoch

/-- One of many letters, in the hands of a postman from the beginning of 1970 on. -/
def slowLetter (i : Nat) : Job :=
  (letter.pendingJob (.ofNat i) .epoch).leased "postman" .greatest .epoch

/-- It counts with all the time since then when it is completed at last. -/
lemma delta?_slowLetter (i : Nat) : (Move.complete []).delta? .greatest (slowLetter i) =
    some ⟨0, 1, 0, 8210266876799999⟩ := by
  have hmillis : Stats.Delta.ofCompletion (some (Instant.greatest.since .epoch)) =
      ⟨0, 1, 0, 8210266876799999⟩ := by decide
  exact congrArg some hmillis

/-- Letters are put in, and each is handed out at once. -/
def openings : Nat → List (Instant × Operation)
  | 0 => []
  | n + 1 => openings n ++
    [(.epoch, .enqueue (.ofNat n) letter), (.epoch, .claim "postman" ["mail"] .greatest)]

/-- Letters are completed when clocks come to their end. -/
def closings : Nat → List (Instant × Operation)
  | 0 => []
  | k + 1 => closings k ++ [(.greatest, .move (.ofNat k) (.complete []))]

namespace Store

/-- What is in a store after letters were handed out: they, and nothing is counted for the last
day. -/
structure Opening (s : Store) (n : Nat) : Prop where
  jobs : s.jobs = (List.range n).map slowLetter
  stats : s.statsOn "mail" Instant.greatest.date = .empty "mail" Instant.greatest.date

/-- What is in a store after the first of some letters were completed: the others are still to be
found, and each completed one counts with all the time since 1970. -/
structure Closing (s : Store) (n k : Nat) : Prop where
  found : ∀ i, k ≤ i → i < n → s.find? (.ofNat i) = some (slowLetter i)
  stats : s.statsOn "mail" Instant.greatest.date =
    .ofCounts "mail" Instant.greatest.date 0 k 0 (k * 8210266876799999)

variable {s : Store} {n k : Nat}

/-- The next letter is put in behind the others, and it is the one that is handed out. -/
lemma Opening.next (hs : s.Opening n) (hn : n < Nat.pow 2 128) :
    ((s.step .epoch (.enqueue (.ofNat n) letter)).2.step .epoch
      (.claim "postman" ["mail"] .greatest)).2.Opening (n + 1) := by
  have hother : ∀ i < n, (slowLetter i).id ≠ .ofNat n := fun i hi heq =>
    Nat.ne_of_lt hi (Ident.ofNat_inj (Nat.lt_trans hi hn) hn heq)
  have hnew : s.find? (letter.pendingJob (.ofNat n) .epoch).id = none := by
    refine find?_eq_none_iff.2 fun j hj => ?_
    rw [hs.jobs] at hj
    obtain ⟨i, hi, rfl⟩ := List.mem_map.1 hj
    exact hother i (List.mem_range.1 hi)
  have hvalid : letter.validate = .ok () := by decide
  have hput : (s.step .epoch (.enqueue (.ofNat n) letter)).2 =
      s.put .epoch (letter.pendingJob (.ofNat n) .epoch) := by
    rw [step_enqueue_snd, enqueue_of_new hvalid hnew]
  -- The letters that were handed out before are leased as long as there is time.
  have heligible : (s.put .epoch (letter.pendingJob (.ofNat n) .epoch)).eligible ["mail"] .epoch =
      [letter.pendingJob (.ofNat n) .epoch] := by
    have hleased : ((List.range n).map slowLetter).filter
        (fun j => ["mail"].contains j.queue && j.isClaimable .epoch) = [] := by
      refine List.filter_eq_nil_iff.2 fun j hj => ?_
      obtain ⟨i, -, rfl⟩ := List.mem_map.1 hj
      exact Bool.false_ne_true
    unfold eligible put
    dsimp only
    rw [hs.jobs, List.filter_append, hleased]
    rfl
  have hforemost : Job.foremost? ((s.put .epoch (letter.pendingJob (.ofNat n) .epoch)).eligible
      ["mail"] .epoch) = some (letter.pendingJob (.ofNat n) .epoch) := by
    rw [heligible]
    rfl
  have hclaim : ((s.put .epoch (letter.pendingJob (.ofNat n) .epoch)).step .epoch
      (.claim "postman" ["mail"] .greatest)).2 =
        (s.put .epoch (letter.pendingJob (.ofNat n) .epoch)).hand .epoch "postman" .greatest
          (.ofNat n) :=
    congrArg Prod.snd (claim_of_some hforemost)
  rw [hput, hclaim]
  constructor
  · have hkept : ∀ j ∈ (List.range n).map slowLetter,
        (if j.id = Ident.ofNat n then j.leased "postman" .greatest .epoch else j) = j := by
      intro j hj
      obtain ⟨i, hi, rfl⟩ := List.mem_map.1 hj
      exact if_neg (hother i (List.mem_range.1 hi))
    unfold hand update put
    dsimp only
    rw [hs.jobs, List.map_append, List.map_congr_left hkept, List.map_id', List.range_succ,
      List.map_append]
    simp [slowLetter, Submission.pendingJob, letter, Submission.plain]
  · have hday : ¬("mail" = "mail" ∧ Instant.epoch.date = Instant.greatest.date) := by decide
    have hrecord := Ledger.on_record s.ledger "mail" "mail" Instant.greatest.date
      Instant.epoch.date .ofEnqueue
    rw [if_neg hday] at hrecord
    exact hrecord.trans hs.stats

/-- The store after letters were handed out. -/
lemma Opening.run (hn : n ≤ Nat.pow 2 128) : (empty.run (openings n)).2.Opening n := by
  induction n with
  | zero => exact ⟨rfl, rfl⟩
  | succ n ih =>
    unfold openings
    rw [run_append]
    exact (ih (Nat.le_of_succ_le hn)).next (Nat.lt_of_succ_le hn)

/-- The next letter is completed. -/
lemma Closing.next (hs : s.Closing n k) (hk : k < n) (hn : n ≤ Nat.pow 2 128) :
    (s.step .greatest (.move (.ofNat k) (.complete []))).2.Closing n (k + 1) := by
  have hfound : s.find? (slowLetter k).id = some (slowLetter k) := hs.found k (Nat.le_refl k) hk
  rw [step_move_snd]
  constructor
  · intro i hki hi
    have hne : Ident.ofNat i ≠ .ofNat k := fun heq =>
      Nat.ne_of_gt hki (Ident.ofNat_inj (Nat.lt_of_lt_of_le hi hn) (Nat.lt_of_lt_of_le hk hn) heq)
    have hmove : (s.move .greatest (.ofNat k) (.complete [])).2 =
        s.settle .greatest (.ofNat k) (.complete []) (slowLetter k) :=
      congrArg Prod.snd (move_of_allowed hfound rfl)
    rw [hmove, find?_settle, find?_update s _ _ (Job.apply_id _ _), if_neg hne]
    exact hs.found i (Nat.le_of_succ_le hki) hi
  · have hrecorded : (s.move .greatest (.ofNat k) (.complete [])).2.statsOn "mail"
        Instant.greatest.date = (s.statsOn "mail" Instant.greatest.date).apply _ :=
      statsOn_move hfound rfl (delta?_slowLetter k)
    have hcount : ((k + 1 : Nat) : Int) = k + 1 := Int.natCast_succ k
    rw [hrecorded, hs.stats, Stats.apply_ofCounts, hcount, Int.add_mul, Int.one_mul, Int.add_zero]

/-- The store after the first of some letters were completed. -/
lemma Closing.run (hk : k ≤ n) (hn : n ≤ Nat.pow 2 128) :
    (empty.run (openings n ++ closings k)).2.Closing n k := by
  rw [run_append]
  induction k with
  | zero =>
    have hopening := Opening.run hn
    refine ⟨fun i _ hi => ?_, hopening.stats⟩
    have hmem : slowLetter i ∈ (empty.run (openings n)).2.jobs := by
      rw [hopening.jobs]
      exact List.mem_map_of_mem (List.mem_range.2 hi)
    exact find?_of_mem (Coherent.empty.run _).distinct hmem
  | succ k ih =>
    unfold closings
    rw [run_append]
    exact (ih (Nat.le_of_succ_le hk)).next hk hn

end Store

end LeaseQueue
