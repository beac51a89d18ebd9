import LeaseQueue.Conformance.Suite

/-!
# Defects

There are ways in which a backend can be spoilt, to see whether the conformance suite notices.  A
spoilt backend passes everything on unchanged that its defect does not mention.
-/

namespace LeaseQueue

/-- A backend whose state also counts the claims made so far. -/
abbrev Counted (σ : Type) := σ × Nat

namespace Backend

variable {σ α : Type}

/-- A call that leaves a second state alone. -/
def besides {τ : Type} (call : Call σ α) : Call (σ × τ) α := fun s =>
  let r := call s.1
  (r.1, (r.2, s.2))

/-- A backend that counts its claims. -/
def counted (b : Backend σ) : Backend (Counted σ) where
  enqueue now fresh submission := besides (b.enqueue now fresh submission)
  claim now worker queues lease := fun s =>
    let r := b.claim now worker queues lease s.1
    (r.1, (r.2, s.2 + 1))
  move now id m := besides (b.move now id m)
  get id := besides (b.get id)
  stats queue date := besides (b.stats queue date)
  select f := besides (b.select f)

end Backend

/-- A way of spoiling backends with state `σ`. -/
structure Defect (σ : Type) where
  name : String
  spoil : Backend (Counted σ) → Backend (Counted σ)

namespace Defect

variable {σ : Type}

/-! ### Ingredients -/

/-- Changes the submissions of a backend. -/
def onSubmissions (b : Backend σ) (change : Instant → Submission → Submission) : Backend σ :=
  { b with enqueue := fun now fresh s => b.enqueue now fresh (change now s) }

/-- Changes what a backend answers to moves. -/
def onTransitions (b : Backend σ)
    (change : Except Fault Transition → Except Fault Transition) : Backend σ :=
  { b with
    move := fun now id m => fun s =>
      let r := b.move now id m s
      (change r.1, r.2) }

/-- Replaces some moves of a backend; a move replaced by nothing is applied without effect. -/
def onMoves (b : Backend σ) (change : Instant → Move → Option Move) : Backend σ :=
  { b with
    move := fun now id m =>
      match change now m with
      | some m => b.move now id m
      | none => pure .applied }

/-- Changes the statistics of a backend. -/
def onStats (b : Backend σ) (change : Stats → Stats) : Backend σ :=
  { b with stats := fun queue date => change <$> b.stats queue date }

/-- Changes the filters of a backend. -/
def onFilters (b : Backend σ) (change : Filter → Filter) : Backend σ :=
  { b with select := fun f => b.select (change f) }

/-- The fault of a database that is out of reach. -/
def down : Fault := .error (.database "down")

/-- A failure without a message. -/
def emptyFailure : Move := .fail (.handler "")

/-! ### Defects of a whole backend and of its answers -/

/-- The defects that are not tied to one kind of call. -/
def general : List (Defect σ) :=
  [⟨"none", fun b => b⟩,
   ⟨"database_down", fun _ =>
     { enqueue := fun _ _ _ => throw down
       claim := fun _ _ _ _ => throw down
       move := fun _ _ _ => throw down
       get := fun _ => throw down
       stats := fun _ _ => throw down
       select := fun _ => throw down }⟩,
   ⟨"get_none", fun b => { b with get := fun _ => pure none }⟩,
   ⟨"missing_ok", fun b => onTransitions b fun
     | .error (.error (.jobNotFound _)) => .ok .applied
     | answer => answer⟩,
   ⟨"skipped_is_applied", fun b => onTransitions b fun
     | .ok (.skipped _) => .ok .applied
     | answer => answer⟩,
   ⟨"applied_is_skipped", fun b => onTransitions b fun
     | .ok .applied => .ok (.skipped .pending)
     | answer => answer⟩]

/-! ### Defects in putting jobs in -/

/-- The defects of `enqueue`. -/
def ofEnqueue : List (Defect σ) :=
  [⟨"enqueue_accepts_invalid", fun b =>
     { b with
       enqueue := fun now fresh s =>
         match s.validate with
         | .ok () => b.enqueue now fresh s
         | .error _ => pure fresh }⟩,
   ⟨"enqueue_repairs_payload", fun b => onSubmissions b fun _ s =>
     { s with payload := .object (s.payload.asDocument?.getD []) }⟩,
   ⟨"enqueue_same_id", fun b => onSubmissions b fun _ s => { s with id := some .nil }⟩,
   ⟨"enqueue_forgets", fun b =>
     { b with
       enqueue := fun _ fresh s =>
         match s.validate with
         | .ok () => pure (s.id.getD fresh)
         | .error reason => throw (.error (.invalid reason)) }⟩,
   ⟨"enqueue_drops_metadata", fun b => onSubmissions b fun _ s => { s with metadata := .null }⟩,
   ⟨"enqueue_ignores_schedule", fun b =>
     onSubmissions b fun now s => { s with scheduledAt := now }⟩,
   ⟨"enqueue_ignores_priority", fun b => onSubmissions b fun _ s => { s with priority := 0 }⟩,
   ⟨"enqueue_ignores_attempts", fun b =>
     onSubmissions b fun _ s => { s with maxAttempts := 3 }⟩]

/-! ### Defects in claiming -/

/-- The defects of `claim`. -/
def ofClaim : List (Defect σ) :=
  [⟨"claim_none", fun b => { b with claim := fun _ _ _ _ => pure none }⟩,
   ⟨"claim_any_queue", fun b =>
     { b with
       claim := fun now worker _ lease =>
         b.claim now worker ["default", "low", "critical", "other"] lease }⟩,
   ⟨"claim_no_lease", fun b =>
     { b with
       claim := fun now worker queues _ => do
         if (← get).2 < 20 then b.claim now worker queues (.ofSeconds (-1)) else return none }⟩,
   ⟨"claim_long_lease", fun b =>
     { b with
       claim := fun now worker queues lease =>
         b.claim now worker queues ⟨lease.nanos + nanosPerDay⟩ }⟩,
   ⟨"claim_other_worker", fun b =>
     { b with claim := fun now _ queues lease => b.claim now "someone" queues lease }⟩]

/-! ### Defects in moving -/

/-- The defects of `move`. -/
def ofMove : List (Defect σ) :=
  [⟨"complete_lies", fun b => onMoves b fun
     | _, .complete _ => none
     | _, m => some m⟩,
   ⟨"fail_lies", fun b => onMoves b fun
     | _, .fail _ => none
     | _, m => some m⟩,
   ⟨"retry_lies", fun b => onMoves b fun
     | _, .retry _ => none
     | _, m => some m⟩,
   ⟨"cancel_lies", fun b => onMoves b fun
     | _, .cancel => none
     | _, m => some m⟩,
   ⟨"complete_fails", fun b => onMoves b fun
     | _, .complete _ => some emptyFailure
     | _, m => some m⟩,
   ⟨"cancel_fails", fun b => onMoves b fun
     | _, .cancel => some emptyFailure
     | _, m => some m⟩,
   ⟨"complete_drops_result", fun b => onMoves b fun
     | _, .complete _ => some (.complete [])
     | _, m => some m⟩,
   ⟨"fail_needs_claim", fun b =>
     { b with
       move := fun now id m =>
         match m with
         | .fail _ => do
           match ← b.get id with
           | some job =>
             if job.status = .pending then return .skipped .pending else b.move now id m
           | none => b.move now id m
         | m => b.move now id m }⟩,
   ⟨"fail_drops_kind", fun b => onMoves b fun
     | _, .fail failure => some (.fail { failure with kind := .infrastructure })
     | _, m => some m⟩,
   ⟨"retry_now", fun b => onMoves b fun
     | now, .retry _ => some (.retry now)
     | _, m => some m⟩]

/-! ### Defects in looking on -/

/-- The defects of `stats` and `select`. -/
def ofLooking : List (Defect σ) :=
  [⟨"stats_zero", fun b =>
     { b with stats := fun queue date => pure (Stats.empty queue date) }⟩,
   ⟨"stats_swapped", fun b =>
     onStats b fun s => { s with completed := s.failed, failed := s.completed }⟩,
   ⟨"stats_unnamed", fun b => onStats b fun s => { s with queue := "" }⟩,
   ⟨"query_all", fun b => onFilters b fun _ => Filter.everything⟩,
   ⟨"query_none", fun b => onFilters b fun _ => .any []⟩,
   ⟨"query_negated", fun b => onFilters b .not⟩]

/-- All defects. -/
def all : List (Defect σ) := general ++ ofEnqueue ++ ofClaim ++ ofMove ++ ofLooking

/-- The defect of a name. -/
def ofName? (name : String) : Option (Defect σ) := all.find? fun d => d.name = name

end Defect

/-- Whether the trial of a name passes on a store with a defect, begun at a given time. -/
def Suite.passes? (trial : String) (defect : Defect Store) (clock : Instant) : Option Bool :=
  (Suite.trial? (defect.spoil Backend.ofStore.timed.counted) trial).map fun t =>
    t.passes (Store.empty, 0) clock

end LeaseQueue
