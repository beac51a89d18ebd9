import LeaseQueue.Double.Basic
import LeaseQueue.Time.Instant
import LeaseQueue.Word

/-!
# Daily statistics

A record counts the jobs of one queue on one UTC day: those put in, those completed and those
failed, with the time that processing the finished ones took.  A ledger holds at most one record per
queue and day.
-/

namespace LeaseQueue

/-- The counts of one queue on one day. -/
structure Stats where
  queue : String
  date : Date
  enqueued : Int
  completed : Int
  failed : Int
  totalMillis : Int
  averageMillis : Double
  deriving DecidableEq

namespace Stats

/-- What one event adds to a record. -/
structure Delta where
  enqueued : Int
  completed : Int
  failed : Int
  millis : Int
  deriving DecidableEq

namespace Delta

/-- The milliseconds that a processing time counts for; a negative or missing one counts for
nothing. -/
def millisOf : Option Span → Int
  | some time => max time.toMillis 0
  | none => 0

/-- A job was put in. -/
def ofEnqueue : Delta := ⟨1, 0, 0, 0⟩

/-- A job was completed. -/
def ofCompletion (time : Option Span) : Delta := ⟨0, 1, 0, millisOf time⟩

/-- A job failed. -/
def ofFailure (time : Option Span) : Delta := ⟨0, 0, 1, millisOf time⟩

end Delta

/-- The record of a queue on a day on which nothing happened. -/
def empty (queue : String) (date : Date) : Stats := ⟨queue, date, 0, 0, 0, 0, Double.zero⟩

/-- The number of jobs that came to an end. -/
def finished (s : Stats) : Int := s.completed + s.failed

/-- The mean of a total over a number of jobs, zero when there are none. -/
def average (total finished : Int) : Double :=
  if finished = 0 then Double.zero
  else ((Double.ofInt total).dividedBy? (Double.ofInt finished)).getD Double.zero

/-- A record of given counts; the mean follows from them. -/
def ofCounts (queue : String) (date : Date) (enqueued completed failed total : Int) : Stats :=
  ⟨queue, date, enqueued, completed, failed, total, average total (completed + failed)⟩

/-- A record after an event. -/
def apply (s : Stats) (d : Delta) : Stats :=
  ofCounts s.queue s.date (s.enqueued + d.enqueued) (s.completed + d.completed)
    (s.failed + d.failed) (s.totalMillis + d.millis)

/-- A record as it is shown, its counts kept in signed words. Adding to words keeps the same as
adding first, so only what is shown depends on the size of the words. -/
def inWords (s : Stats) : Stats where
  queue := s.queue
  date := s.date
  enqueued := inWord s.enqueued
  completed := inWord s.completed
  failed := inWord s.failed
  totalMillis := inWord s.totalMillis
  averageMillis := average (inWord s.totalMillis) (inWord s.finished)

end Stats

/-- The records of all queues and days on which something happened. -/
abbrev Ledger := List Stats

namespace Ledger

/-- The record of a queue on a day, if there is one. -/
def find? (l : Ledger) (queue : String) (date : Date) : Option Stats :=
  List.find? (fun s => s.queue = queue && s.date = date) l

/-- The record of a queue on a day. -/
def on (l : Ledger) (queue : String) (date : Date) : Stats :=
  (l.find? queue date).getD (Stats.empty queue date)

/-- Adds an event to the record of its queue and day. -/
def record : Ledger → String → Date → Stats.Delta → Ledger
  | [], queue, date, d => [(Stats.empty queue date).apply d]
  | s :: rest, queue, date, d =>
    if s.queue = queue && s.date = date then s.apply d :: rest
    else s :: record rest queue date d

end Ledger

end LeaseQueue
