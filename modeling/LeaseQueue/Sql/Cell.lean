import LeaseQueue.Document.Reader
import LeaseQueue.Document.Writer
import LeaseQueue.Ident
import LeaseQueue.Job.Status
import LeaseQueue.Time.Instant

/-!
# Cells

Cells are the values that go to a database as arguments of a statement and come back in its rows.
-/

namespace LeaseQueue.Sql

/-- A value of the database. -/
inductive Cell where
  /-- No value at all, which is not the JSON value null. -/
  | null
  | integer (n : Int)
  | text (s : String)
  | texts (ss : List String)
  | json (v : Value)
  | ident (i : Ident)
  | time (t : Instant)
  | date (d : Date)

namespace Cell

/-- An optional value. -/
def ofOption {α : Type} (f : α → Cell) : Option α → Cell
  | some a => f a
  | none => null

/-- A status, which the database knows by its name. -/
def ofStatus (s : Status) : Cell := text s.name

/-- An unsigned word as a signed one, as far as it fits. -/
def signed (n : UInt32) : Int32 := Int32.ofInt (min 2147483647 n.toNat)

/-- A signed word as an unsigned one; zero for a negative one. -/
def unsigned (n : Int32) : UInt32 := UInt32.ofNat n.toInt.toNat

/-- A word as the database holds it. -/
def ofWord (n : Int32) : Cell := integer n.toInt

/-- The start of the year 2000, from which the database counts time. -/
def origin : Int := 946684800000000000

/-- A number of nanoseconds without what exceeds whole microseconds. -/
def wholeMicros (nanos : Int) : Int :=
  if 0 ≤ nanos then nanos / 1000 * 1000 else -(-nanos / 1000 * 1000)

/-- An instant as it is sent: in whole microseconds from the origin. -/
def sentTime (t : Instant) : Instant :=
  (Instant.ofNanos? (origin + wholeMicros (t.nanos - origin))).getD Instant.greatest

/-- A JSON value as it is sent: as text, which is read again on the other side. -/
def sentJson (v : Value) : Value := (Value.ofText? v.text).getD v

/-- A value as it arrives on the other side. -/
def sent : Cell → Cell
  | time t => time (sentTime t)
  | json v => json (sentJson v)
  | c => c

end Cell

end LeaseQueue.Sql
