import LeaseQueue.Config
import LeaseQueue.Job.Codec
import LeaseQueue.Job.Submission
import LeaseQueue.Proofs.Document.Fields
import LeaseQueue.Proofs.Document.Numbers

/-!
# Records that are read back

Policies, configurations and jobs are written into documents and read from them.  Policies and
configurations are always read back; of a configuration any fields may be left out, which then have
their standard values (`Config.ofValue?_restrict`).  Jobs are as far as the numbers in their
documents are (`Job.reread?`); all of it together is `ReadBack`.
-/

namespace LeaseQueue

/-! ### Policies -/

namespace Policy

/-- An encoded policy is decoded. -/
lemma ofValue?_toValue (p : Policy) : ofValue? p.toValue = some p := by
  have hcap : ∀ (d : Document) (cap : Option Int64),
      d.get? "max_seconds" = some (.ofOption (fun n => .ofInt n.toInt) cap) →
        d.optional "max_seconds" Value.asInt64? = some cap := fun d cap =>
    Document.optional_ofOption (fun _ h => by cases h) fun n _ => Value.asInt64?_ofInt n
  cases p with
  | fixed delay =>
    show (Value.asInt64? (.ofInt delay.toInt)).bind (fun n => some (fixed n)) = _
    rw [Value.asInt64?_ofInt]
    rfl
  | linear step cap =>
    show (Value.asInt64? (.ofInt step.toInt)).bind (fun n =>
      (Document.optional _ "max_seconds" Value.asInt64?).bind fun cap => some (linear n cap)) = _
    rw [Value.asInt64?_ofInt, hcap _ cap rfl]
    rfl
  | exponential base cap =>
    show (Value.asInt64? (.ofInt base.toInt)).bind (fun n =>
      (Document.optional _ "max_seconds" Value.asInt64?).bind fun cap =>
        some (exponential n cap)) = _
    rw [Value.asInt64?_ofInt, hcap _ cap rfl]
    rfl

/-- A policy's value is read back from its text. -/
lemma recovered_toValue {depth : ℕ} (p : Policy) : p.toValue.Recovered (depth + 1) := by
  have hcap : ∀ cap : Option Int64,
      (Value.ofOption (fun n : Int64 => .ofInt n.toInt) cap).Recovered depth :=
    Value.recovered_ofOption fun n => Value.recovered_ofInt n.le_toInt n.toInt_lt
  cases p with
  | fixed delay =>
    refine Value.recovered_object (by simp) ?_
    simp only [List.forall_mem_cons]
    exact ⟨Value.recovered_string _, Value.recovered_ofInt delay.le_toInt delay.toInt_lt,
      fun f hf => nomatch hf⟩
  | linear step cap =>
    refine Value.recovered_object (by simp) ?_
    simp only [List.forall_mem_cons]
    exact ⟨Value.recovered_string _, Value.recovered_ofInt step.le_toInt step.toInt_lt, hcap cap,
      fun f hf => nomatch hf⟩
  | exponential base cap =>
    refine Value.recovered_object (by simp) ?_
    simp only [List.forall_mem_cons]
    exact ⟨Value.recovered_string _, Value.recovered_ofInt base.le_toInt base.toInt_lt, hcap cap,
      fun f hf => nomatch hf⟩

end Policy

/-! ### Configurations -/

/-- An object with only some of its fields. -/
def Value.restrict (keep : String → Bool) : Value → Value
  | .object fields => .object (fields.filter fun f => keep f.1)
  | v => v

namespace Config

/-- A configuration with only some of its fields, the others at their standard values. -/
def restrict (keep : String → Bool) (c : Config) : Config where
  queues := if keep "queues" then c.queues else standard.queues
  pollIntervalMillis := if keep "poll_interval_ms" then c.pollIntervalMillis
    else standard.pollIntervalMillis
  leaseMillis := if keep "lease_duration_ms" then c.leaseMillis else standard.leaseMillis
  defaultMaxAttempts := if keep "default_max_attempts" then c.defaultMaxAttempts
    else standard.defaultMaxAttempts
  backoff := if keep "backoff" then c.backoff else standard.backoff
  workerPrefix := if keep "worker_id_prefix" then c.workerPrefix else standard.workerPrefix

lemma restrict_true (c : Config) : c.restrict (fun _ => true) = c := rfl

variable {c : Config} {keep : String → Bool}

/-- A field that may be left out is decoded, with its standard value where it is left out. -/
lemma defaulted_filter {α : Type} {d : Document} {name : String} {v : Value}
    {decode : Value → Option α} {a : α} (hget : d.get? name = some v) (hdecode : decode v = some a)
    (absent : α) :
    Document.defaulted (d.filter fun f => keep f.1) name decode absent =
      some (if keep name then a else absent) := by
  unfold Document.defaulted
  rw [Document.get?_filter, hget]
  split_ifs
  · exact hdecode
  · rfl

/-- What is left of an encoded configuration is decoded. -/
lemma ofValue?_restrict (c : Config) (keep : String → Bool) :
    ofValue? (c.toValue.restrict keep) = some (c.restrict keep) := by
  obtain ⟨d, hd⟩ : ∃ d : Document, c.toValue = .object d := ⟨_, rfl⟩
  have hqueues : d.get? "queues" = some (.array (c.queues.map .string)) := by cases hd; rfl
  have hpoll : d.get? "poll_interval_ms" = some (.ofInt c.pollIntervalMillis.toNat) := by
    cases hd; rfl
  have hlease : d.get? "lease_duration_ms" = some (.ofInt c.leaseMillis.toNat) := by
    cases hd; rfl
  have hattempts : d.get? "default_max_attempts" = some (.ofInt c.defaultMaxAttempts.toNat) := by
    cases hd; rfl
  have hbackoff : d.get? "backoff" = some c.backoff.toValue := by cases hd; rfl
  have hprefix : d.get? "worker_id_prefix" = some (.string c.workerPrefix) := by cases hd; rfl
  rw [hd]
  unfold ofValue? Value.restrict Value.asPartialRecord?
  simp only [defaulted_filter hqueues (Value.asStrings?_map_string _),
    defaulted_filter hpoll (Value.asUInt64?_ofInt _),
    defaulted_filter hlease (Value.asUInt64?_ofInt _),
    defaulted_filter hattempts (Value.asUInt32?_ofInt _),
    defaulted_filter hbackoff (Policy.ofValue?_toValue _),
    defaulted_filter hprefix (show Value.asString? (.string c.workerPrefix) = some _ from rfl),
    Option.bind_eq_bind, Option.bind_some]
  rfl

/-- What is left of an encoded configuration is read back. -/
lemma recovered_restrict {depth : ℕ} (c : Config) (keep : String → Bool) :
    (c.toValue.restrict keep).Recovered (depth + 2) := by
  refine Value.recovered_filter ?_ _
  refine Value.recovered_object (show fieldNames.Nodup by decide) ?_
  unfold fieldNames
  simp only [List.zip_cons_cons, List.zip_nil_left, List.forall_mem_cons]
  refine ⟨Value.recovered_array fun v hv => ?_, Value.recovered_ofNat c.pollIntervalMillis.toNat_lt,
    Value.recovered_ofNat c.leaseMillis.toNat_lt,
    Value.recovered_ofNat c.defaultMaxAttempts.toNat_lt, c.backoff.recovered_toValue,
    Value.recovered_string _, fun f hf => nomatch hf⟩
  obtain ⟨x, -, rfl⟩ := List.mem_map.1 hv
  exact Value.recovered_string x

end Config

/-! ### Jobs -/

namespace Job

variable {j : Job}

/-- The documents that a job holds. -/
def documents (j : Job) : List Document := j.payload :: j.metadata :: j.result.toList

/-- The times that a job holds. -/
def times (j : Job) : List Instant :=
  j.scheduledAt :: j.createdAt :: j.updatedAt ::
    [j.lockedAt, j.lockedUntil, j.startedAt, j.completedAt].filterMap fun t => t

/-- An encoded job whose times lie outside of leap seconds is decoded. -/
lemma ofValue?_toValue (htimes : ∀ t ∈ j.times, t.isLeap = false) :
    ofValue? j.toValue = some j := by
  obtain ⟨d, hd⟩ : ∃ d : Document, j.toValue = .object d := ⟨_, rfl⟩
  have htime : ∀ t : Option Instant,
      t ∈ [j.lockedAt, j.lockedUntil, j.startedAt, j.completedAt] →
        ∀ x ∈ t, Value.asInstant? (.string x.text) = some x := by
    intro t ht x hx
    refine Value.asInstant?_text (htimes x ?_)
    simp only [times, List.mem_cons, List.mem_filterMap]
    exact .inr (.inr (.inr ⟨t, by simpa using ht, hx⟩))
  have hid : d.required "id" Value.asIdent? = some j.id :=
    Document.required_of_get? (Value.asIdent?_text j.id) (by cases hd; rfl)
  have hqueue : d.required "queue_name" Value.asString? = some j.queue := by cases hd; rfl
  have htype : d.required "job_type" Value.asString? = some j.type := by cases hd; rfl
  have hpayload : d.required "payload" Value.asDocument? = some j.payload := by cases hd; rfl
  have hresult : d.optional "result" Value.asDocument? = some j.result :=
    Document.optional_ofOption (fun _ h => by cases h)
      (fun r _ => show Value.asDocument? (.object r) = some r from rfl) (by cases hd; rfl)
  have hmessage : d.optional "error_message" Value.asString? = some j.errorMessage :=
    Document.optional_ofOption (fun _ h => by cases h)
      (fun s _ => show Value.asString? (.string s) = some s from rfl) (by cases hd; rfl)
  have hkind : d.optional "error_kind" (fun v => v.asName?.bind FailureKind.ofName?) =
      some j.errorKind :=
    Document.optional_ofOption (fun _ h => by cases h)
      (fun k _ => show (Value.asName? (.string k.name)).bind _ = _ from k.ofName?_name)
      (by cases hd; rfl)
  have hpriority : d.required "priority" Value.asInt32? = some j.priority :=
    Document.required_of_get? (Value.asInt32?_ofInt j.priority) (by cases hd; rfl)
  have hstatus : d.required "status" (fun v => v.asName?.bind Status.ofName?) = some j.status :=
    Document.required_of_get?
      (show (Value.asName? (.string j.status.name)).bind _ = _ from j.status.ofName?_name)
      (by cases hd; rfl)
  have hattempts : d.required "attempt_count" Value.asUInt32? = some j.attempts :=
    Document.required_of_get? (Value.asUInt32?_ofInt j.attempts) (by cases hd; rfl)
  have hmaxAttempts : d.required "max_attempts" Value.asUInt32? = some j.maxAttempts :=
    Document.required_of_get? (Value.asUInt32?_ofInt j.maxAttempts) (by cases hd; rfl)
  have hworker : d.optional "worker_id" Value.asString? = some j.worker :=
    Document.optional_ofOption (fun _ h => by cases h)
      (fun s _ => show Value.asString? (.string s) = some s from rfl) (by cases hd; rfl)
  have hlockedAt : d.optional "locked_at" Value.asInstant? = some j.lockedAt :=
    Document.optional_ofOption (fun _ h => by cases h) (htime _ (by simp)) (by cases hd; rfl)
  have hlockedUntil : d.optional "locked_until" Value.asInstant? = some j.lockedUntil :=
    Document.optional_ofOption (fun _ h => by cases h) (htime _ (by simp)) (by cases hd; rfl)
  have hscheduledAt : d.required "scheduled_at" Value.asInstant? = some j.scheduledAt :=
    Document.required_of_get? (Value.asInstant?_text (htimes _ (by simp [times])))
      (by cases hd; rfl)
  have hcreatedAt : d.required "created_at" Value.asInstant? = some j.createdAt :=
    Document.required_of_get? (Value.asInstant?_text (htimes _ (by simp [times])))
      (by cases hd; rfl)
  have hstartedAt : d.optional "started_at" Value.asInstant? = some j.startedAt :=
    Document.optional_ofOption (fun _ h => by cases h) (htime _ (by simp)) (by cases hd; rfl)
  have hcompletedAt : d.optional "completed_at" Value.asInstant? = some j.completedAt :=
    Document.optional_ofOption (fun _ h => by cases h) (htime _ (by simp)) (by cases hd; rfl)
  have hupdatedAt : d.required "updated_at" Value.asInstant? = some j.updatedAt :=
    Document.required_of_get? (Value.asInstant?_text (htimes _ (by simp [times])))
      (by cases hd; rfl)
  have horganization : d.optional "organization_id" Value.asIdent? = some j.organization :=
    Document.optional_ofOption (fun _ h => by cases h) (fun i _ => Value.asIdent?_text i)
      (by cases hd; rfl)
  have huser : d.optional "user_id" Value.asIdent? = some j.user :=
    Document.optional_ofOption (fun _ h => by cases h) (fun i _ => Value.asIdent?_text i)
      (by cases hd; rfl)
  have htimeout : d.optional "timeout_seconds" Value.asUInt32? = some j.timeoutSeconds :=
    Document.optional_ofOption (fun _ h => by cases h) (fun n _ => Value.asUInt32?_ofInt n)
      (by cases hd; rfl)
  have hmetadata : d.required "metadata" Value.asDocument? = some j.metadata := by cases hd; rfl
  rw [hd]
  unfold ofValue? Value.asRecord?
  show (d.required "id" Value.asIdent?).bind _ = _
  rw [hid, hqueue, htype, hpayload, hresult, hmessage, hkind, hpriority, hstatus, hattempts,
    hmaxAttempts, hworker, hlockedAt, hlockedUntil, hscheduledAt, hcreatedAt, hstartedAt,
    hcompletedAt, hupdatedAt, horganization, huser, htimeout, hmetadata]
  rfl

/-- What a job is read as when it was written: the numbers in its documents as they are read, all
else as it is. -/
def reread? (j : Job) : Option Job := do
  let payload ← Value.rereadFields? j.payload
  let result ← j.result.elim (some none) fun d => (Value.rereadFields? d).map some
  let metadata ← Value.rereadFields? j.metadata
  return { j with payload, result, metadata }

/-- What an encoded job is read as. -/
lemma reread?_toValue (j : Job) : j.toValue.reread? = j.reread?.map toValue := by
  have hself : ∀ {v : Value}, v.Recovered 0 → v.reread? = some v := fun h =>
    Value.reread?_eq_self_iff.2 h.faithful
  have hoption : ∀ {α : Type} {f : α → Value} (a : Option α), (∀ x, (f x).Recovered 0) →
      (Value.ofOption f a).reread? = some (.ofOption f a) := fun a h =>
    hself (Value.recovered_ofOption h a)
  have hresult : (Value.ofOption .object j.result).reread? =
      (j.result.elim (some none) fun d => (Value.rereadFields? d).map some).map
        (Value.ofOption .object) := by
    cases j.result with
    | none => rfl
    | some d =>
      show (Value.rereadFields? d).map _ = ((Value.rereadFields? d).map some).map _
      rw [Option.map_map]
      rfl
  have hstrings : ∀ a, (Value.ofOption .string a).reread? = some (.ofOption .string a) :=
    fun a => hoption a Value.recovered_string
  have htimes : ∀ a : Option Instant, (Value.ofOption (fun t => .string t.text) a).reread? =
      some (.ofOption (fun t => .string t.text) a) := fun a => hoption a fun t =>
    Value.recovered_string t.text
  have hkind : (Value.ofOption (fun k => .string k.name) j.errorKind).reread? =
      some (.ofOption (fun k => .string k.name) j.errorKind) :=
    hoption j.errorKind fun k => Value.recovered_string k.name
  have hidents : ∀ a : Option Ident, (Value.ofOption (fun i => .string i.text) a).reread? =
      some (.ofOption (fun i => .string i.text) a) := fun a => hoption a fun i =>
    Value.recovered_string i.text
  have htimeout : (Value.ofOption (fun n => .ofInt n.toNat) j.timeoutSeconds).reread? =
      some (.ofOption (fun n => .ofInt n.toNat) j.timeoutSeconds) :=
    hoption j.timeoutSeconds fun n => Value.recovered_ofNat n.toNat_lt
  have hpriority := hself (Value.recovered_ofInt j.priority.le_toInt j.priority.toInt_lt)
  have hattempts := hself (Value.recovered_ofNat j.attempts.toNat_lt)
  have hmaxAttempts := hself (Value.recovered_ofNat j.maxAttempts.toNat_lt)
  unfold toValue fieldNames reread?
  simp only [List.zip_cons_cons, List.zip_nil_left, Value.reread?, Value.rereadFields?]
  rw [hresult, hstrings, hstrings, hkind, hpriority, hattempts, hmaxAttempts, htimes, htimes,
    htimes, htimes, hidents, hidents, htimeout]
  generalize Value.rereadFields? j.payload = payload
  generalize (j.result.elim (some none) fun d => (Value.rereadFields? d).map some) = result
  generalize Value.rereadFields? j.metadata = metadata
  cases payload with
  | none => rfl
  | some payload =>
    cases result with
    | none => rfl
    | some result => cases metadata <;> rfl

/-- Reading a job changes none of its times. -/
lemma times_reread? {k : Job} (h : j.reread? = some k) : k.times = j.times := by
  obtain ⟨payload, -, h⟩ := Option.bind_eq_some_iff.1 h
  obtain ⟨result, -, h⟩ := Option.bind_eq_some_iff.1 h
  obtain ⟨metadata, -, h⟩ := Option.bind_eq_some_iff.1 h
  obtain rfl := Option.some.inj h
  rfl

/-- A job is read as itself exactly when all numbers in its documents are. -/
lemma reread?_eq_self_iff : j.reread? = some j ↔ ∀ d ∈ j.documents, (Value.object d).Faithful := by
  have hself : ∀ d : Document, (Value.object d).Faithful ↔ Value.rereadFields? d = some d :=
    fun d => Value.reread?_eq_self_iff.symm.trans Value.reread?_object_eq_self_iff
  unfold documents
  simp only [List.forall_mem_cons, hself]
  constructor
  · intro h
    obtain ⟨payload, hpayload, h⟩ := Option.bind_eq_some_iff.1 h
    obtain ⟨result, hresult, h⟩ := Option.bind_eq_some_iff.1 h
    obtain ⟨metadata, hmetadata, h⟩ := Option.bind_eq_some_iff.1 h
    have hj : { j with payload, result, metadata } = j := Option.some.inj h
    obtain rfl : payload = j.payload := congrArg Job.payload hj
    obtain rfl : result = j.result := congrArg Job.result hj
    obtain rfl : metadata = j.metadata := congrArg Job.metadata hj
    refine ⟨hpayload, hmetadata, fun d hd => ?_⟩
    rw [Option.mem_toList.1 hd] at hresult
    exact (Option.map_injective (Option.some_injective _)) hresult
  · rintro ⟨hpayload, hmetadata, hresult⟩
    have hoption : (j.result.elim (some none) fun d => (Value.rereadFields? d).map some) =
        some j.result := by
      cases hcase : j.result with
      | none => rfl
      | some d =>
        show (Value.rereadFields? d).map some = _
        rw [hresult d (by rw [hcase]; exact List.mem_singleton_self d), Option.map_some]
    unfold reread?
    rw [hpayload, hmetadata, hoption]
    rfl

/-- The fields of an encoded job are read back apart from its documents. -/
lemma fields_toValue (j : Job) (depth : ℕ) :
    ∃ d : Document, j.toValue = .object d ∧ (d.map Prod.fst).Nodup ∧
      ∀ f ∈ d, f.2.Recovered depth ∨ ∃ e ∈ j.documents, f.2 = .object e := by
  have hresult : (Value.ofOption .object j.result).Recovered depth ∨
      ∃ e ∈ j.documents, Value.ofOption .object j.result = .object e := by
    cases hcase : j.result with
    | none => exact .inl Value.recovered_null
    | some d => exact .inr ⟨d, by simp [documents, hcase], rfl⟩
  refine ⟨_, rfl, show fieldNames.Nodup by decide, ?_⟩
  unfold fieldNames
  simp only [List.zip_cons_cons, List.zip_nil_left, List.forall_mem_cons]
  exact ⟨.inl (Value.recovered_string _), .inl (Value.recovered_string _),
    .inl (Value.recovered_string _), .inr ⟨j.payload, by simp [documents], rfl⟩, hresult,
    .inl (Value.recovered_ofOption Value.recovered_string _),
    .inl (Value.recovered_ofOption (fun _ => Value.recovered_string _) _),
    .inl (Value.recovered_ofInt j.priority.le_toInt j.priority.toInt_lt),
    .inl (Value.recovered_string _), .inl (Value.recovered_ofNat j.attempts.toNat_lt),
    .inl (Value.recovered_ofNat j.maxAttempts.toNat_lt),
    .inl (Value.recovered_ofOption Value.recovered_string _),
    .inl (Value.recovered_ofOption (fun _ => Value.recovered_string _) _),
    .inl (Value.recovered_ofOption (fun _ => Value.recovered_string _) _),
    .inl (Value.recovered_string _), .inl (Value.recovered_string _),
    .inl (Value.recovered_ofOption (fun _ => Value.recovered_string _) _),
    .inl (Value.recovered_ofOption (fun _ => Value.recovered_string _) _),
    .inl (Value.recovered_string _),
    .inl (Value.recovered_ofOption (fun _ => Value.recovered_string _) _),
    .inl (Value.recovered_ofOption (fun _ => Value.recovered_string _) _),
    .inl (Value.recovered_ofOption (fun n => Value.recovered_ofNat n.toNat_lt) _),
    .inr ⟨j.metadata, by simp [documents], rfl⟩, fun f hf => nomatch hf⟩

/-- A job is read back from its text as far as its documents are: they may have no key twice, and as
many arrays and objects inside one another as the reader admits beside the job itself. -/
lemma ofText?_text (htimes : ∀ t ∈ j.times, t.isLeap = false)
    (hkeyed : ∀ d ∈ j.documents, (Value.object d).Keyed)
    (hnested : ∀ d ∈ j.documents, (Value.object d).Nested (Reader.nestingLimit - 1)) :
    ofText? j.text = j.reread? := by
  obtain ⟨d, hd, hkeys, hfields⟩ := j.fields_toValue (Reader.nestingLimit - 1)
  have hvalue : j.toValue.Keyed ∧ j.toValue.Nested Reader.nestingLimit := by
    rw [hd]
    refine ⟨.object hkeys fun f hf => ?_, .object fun f hf => ?_⟩
    · rcases hfields f hf with h | ⟨e, he, h⟩
      · exact h.keyed
      · rw [h]
        exact hkeyed e he
    · rcases hfields f hf with h | ⟨e, he, h⟩
      · exact h.nested
      · rw [h]
        exact hnested e he
  unfold ofText? text
  rw [Value.ofText?_text hvalue.1 hvalue.2, reread?_toValue]
  cases hreread : j.reread? with
  | none => rfl
  | some k =>
    have htimes' : ∀ t ∈ k.times, t.isLeap = false := by rwa [times_reread? hreread]
    rw [Option.map_some, Option.bind_some, ofValue?_toValue htimes']

end Job

/-! ### All records -/

/-- What holds of a job, a configuration, a policy and the numbers in them when their texts are
read. -/
structure ReadBack (j : Job) (c : Config) (p : Policy) : Prop where
  /-- A job is read with the numbers in its documents as they are read and all else as it is,
  whatever its strings, its optional fields and its times outside of leap seconds are; so it is the
  same job exactly when these are the same numbers. -/
  job : (∀ t ∈ j.times, t.isLeap = false) → (∀ d ∈ j.documents, (Value.object d).Keyed) →
    (∀ d ∈ j.documents, (Value.object d).Nested (Reader.nestingLimit - 1)) →
      Job.ofText? j.text = j.reread? ∧
      (Job.ofText? j.text = some j ↔ ∀ d ∈ j.documents, (Value.object d).Faithful)
  /-- The text that a handler receives is read as the payload. -/
  payload : (Value.object j.payload).Keyed → (Value.object j.payload).Nested Reader.nestingLimit →
    Value.ofText? j.payloadText = (Value.object j.payload).reread? ∧
    (Value.ofText? j.payloadText = some (.object j.payload) ↔ (Value.object j.payload).Faithful)
  /-- All integers of 64 bits are read back. -/
  integer : ∀ n : Int, Number.leastInteger ≤ n → n ≤ Number.greatestInteger →
    (Number.integer n).ReadsBack
  /-- So are the double-precision numbers for which few digits are written. -/
  double : ∀ d : Double, d.Valid → (Number.double d).Brief → (Number.double d).ReadsBack
  /-- Numbers that are written alike are the same. -/
  apart : ∀ m n : Number, m.Valid → n.Valid → m.write = n.write → m = n
  /-- A configuration is always the same again. -/
  config : (Value.ofText? c.text).bind Config.ofValue? = some c
  /-- So is a policy. -/
  policy : (Value.ofText? p.text).bind Policy.ofValue? = some p
  /-- Of a configuration any fields may be left out, which then have their standard values. -/
  part : ∀ keep : String → Bool,
    (Value.ofText? (c.toValue.restrict keep).text).bind Config.ofValue? = some (c.restrict keep)

/-- Every record is read back from its text. -/
theorem records_read_back (j : Job) (c : Config) (p : Policy) : ReadBack j c p := by
  have hpart : ∀ keep : String → Bool,
      (Value.ofText? (c.toValue.restrict keep).text).bind Config.ofValue? =
        some (c.restrict keep) := by
    intro keep
    rw [(c.recovered_restrict keep).ofText?_text, Option.bind_some, c.ofValue?_restrict keep]
  constructor
  case job =>
    intro htimes hkeyed hnested
    rw [Job.ofText?_text htimes hkeyed hnested]
    exact ⟨rfl, Job.reread?_eq_self_iff⟩
  case payload =>
    intro hkeyed hnested
    have hread : Value.ofText? j.payloadText = (Value.object j.payload).reread? :=
      Value.ofText?_text hkeyed hnested
    rw [hread]
    exact ⟨rfl, Value.reread?_eq_self_iff⟩
  case integer => exact fun n hleast hgreatest => Number.readsBack_integer hleast hgreatest
  case double => exact fun d hd hbrief => Number.readsBack_of_brief hd hbrief
  case apart => exact fun m n hm hn hwrite => Number.write_injective hm hn hwrite
  case config =>
    have hall : c.toValue.restrict (fun _ => true) = c.toValue :=
      congrArg Value.object (List.filter_true _)
    have hread := hpart fun _ => true
    rwa [hall, Config.restrict_true] at hread
  case policy =>
    unfold Policy.text
    rw [p.recovered_toValue.ofText?_text, Option.bind_some, p.ofValue?_toValue]
  case part => exact hpart

/-- A mail that is held from the first instant to the last one. -/
def heldMail (payload : Document) : Job :=
  { (Submission.plain "mail" "send" (.object payload) .least).pendingJob .nil .least with
    status := .processing
    worker := some "worker"
    lockedAt := some .least
    lockedUntil := some .greatest
    startedAt := some .least }

/-- The number that is written as `0.1`. -/
def tenth : Double := ⟨false, 7205759403792794, -56⟩

/-- A mail with control characters, letters of any alphabet, the limits of the integers and a
fraction. -/
def boldText : Document :=
  [("to\n", .string "\x00\x1f\\\"é漢"),
    ("limits", .array [.ofInt Number.leastInteger, .ofInt Number.greatestInteger]),
    ("share", .number (.double tenth))]

/-- It is read back, whoever holds it and for as long as there is time. -/
theorem held_mail_read_back :
    Job.ofText? (heldMail boldText).text = some (heldMail boldText) ∧
    Value.ofText? (heldMail boldText).payloadText = some (.object boldText) ∧
    (Number.integer Number.leastInteger).ReadsBack ∧
    tenth.Valid ∧ (Number.double tenth).Brief ∧ (Number.double tenth).ReadsBack ∧
    (∀ d : Double, d.Valid → d.write = ['0', '.', '1'] → d = tenth) := by
  have hback := records_read_back (heldMail boldText) .standard (.fixed 0)
  have htenth : tenth.Valid ∧ (Number.double tenth).Brief := by decide +kernel
  have hread := hback.double tenth htenth.1 htenth.2
  have honly : ∀ d : Double, d.Valid → d.write = ['0', '.', '1'] → d = tenth := by
    intro d hd htext
    have hsame : d.write = tenth.write := htext.trans (by decide +kernel)
    exact Number.double.inj (hback.apart (.double d) (.double tenth) hd htenth.1 hsame)
  have htext : ∀ depth, (Value.object boldText).Recovered (depth + 2) := by
    intro depth
    refine Value.recovered_object (by decide) ?_
    unfold boldText
    simp only [List.forall_mem_cons]
    refine ⟨Value.recovered_string _, Value.recovered_array ?_,
      ⟨.number _, .number _ _, .number hread⟩, fun f hf => nomatch hf⟩
    simp only [List.forall_mem_cons]
    exact ⟨Value.recovered_ofInt (Int.le_refl _) (Int.lt_succ _),
      Value.recovered_ofInt (Int.le_refl _) (Int.lt_succ _), fun v hv => nomatch hv⟩
  have hdocuments : ∀ d ∈ (heldMail boldText).documents,
      (Value.object d).Recovered (Reader.nestingLimit - 1) := by
    have hnone : (Value.object []).Recovered (Reader.nestingLimit - 1) :=
      Value.recovered_object List.nodup_nil fun f hf => absurd hf List.not_mem_nil
    exact List.forall_mem_cons.2 ⟨htext 124, List.forall_mem_singleton.2 hnone⟩
  exact ⟨(hback.job (by decide) (fun d hd => (hdocuments d hd).keyed)
      fun d hd => (hdocuments d hd).nested).2.2 fun d hd => (hdocuments d hd).faithful,
    (hback.payload (htext 125).keyed (htext 125).nested).2.2 (htext 125).faithful,
    hback.integer Number.leastInteger (by decide) (by decide), htenth.1, htenth.2, hread, honly⟩

/-- The number that is written as `1e-25`. -/
def smallShare : Double := ⟨false, 8711228593176025, -136⟩

/-- A mail whose only number is that one comes back with its neighbour below, which is written
otherwise. -/
theorem small_share_misread :
    let mail := heldMail [("share", .number (.double smallShare))]
    smallShare.Valid ∧ smallShare.write = ['1', 'e', '-', '2', '5'] ∧
    (∀ t ∈ mail.times, t.isLeap = false) ∧
    (∀ d ∈ mail.documents, (Value.object d).Keyed) ∧
    (∀ d ∈ mail.documents, (Value.object d).Nested (Reader.nestingLimit - 1)) ∧
    Job.ofText? mail.text ≠ some mail ∧
    (Job.ofText? mail.text).map Job.payloadText ≠ some mail.payloadText := by
  intro mail
  let neighbour : Double := ⟨false, 8711228593176024, -136⟩
  have hreread : (Number.double smallShare).reread? = some (.double neighbour) := by
    decide +kernel
  have htimes : ∀ t ∈ mail.times, t.isLeap = false := by decide
  have hkeyed : ∀ d ∈ mail.documents, (Value.object d).Keyed := by
    refine List.forall_mem_cons.2 ⟨.object (List.nodup_singleton _) ?_,
      List.forall_mem_singleton.2 (.object List.nodup_nil fun f hf => absurd hf List.not_mem_nil)⟩
    exact List.forall_mem_singleton.2 (.number _)
  have hnested : ∀ d ∈ mail.documents, (Value.object d).Nested (Reader.nestingLimit - 1) := by
    refine List.forall_mem_cons.2 ⟨.object ?_,
      List.forall_mem_singleton.2 (.object fun f hf => absurd hf List.not_mem_nil)⟩
    exact List.forall_mem_singleton.2 (.number _ _)
  have hread : Job.ofText? mail.text =
      some (heldMail [("share", .number (.double neighbour))]) := by
    have hpayload : Value.rereadFields? mail.payload =
        some [("share", .number (.double neighbour))] := by
      show ((Number.double smallShare).reread?.map Value.number).bind _ = _
      rw [hreread]
      rfl
    rw [Job.ofText?_text htimes hkeyed hnested]
    unfold Job.reread?
    rw [hpayload]
    rfl
  refine ⟨by decide, by decide +kernel, htimes, hkeyed, hnested, ?_, ?_⟩
  · rw [hread]
    intro h
    have hpayload := congrArg Job.payload (Option.some.inj h)
    injection hpayload with hfield
    injection hfield with _ hvalue
    injection hvalue with hnumber
    exact absurd hnumber (by decide)
  · rw [hread]
    intro h
    have hwrite := String.ofList_injective (Option.some.inj h)
    exact absurd hwrite (by decide +kernel)

end LeaseQueue
