import LeaseQueue.Sql.Assignment

/-!
# Truth values

A database has three truth values, and compares cells by them.  A comparison with null is neither
true nor false, and a row is selected only when its condition is true.
-/

namespace LeaseQueue.Sql

/-- What a condition can be. -/
inductive Truth where
  | no
  | unknown
  | yes
  deriving DecidableEq

namespace Truth

/-- The truth value of something that is known. -/
def ofBool : Bool → Truth
  | true => yes
  | false => no

/-- The opposite, which is unknown for what is unknown. -/
def not : Truth → Truth
  | no => yes
  | unknown => unknown
  | yes => no

/-- Whether both are true. -/
def and : Truth → Truth → Truth
  | no, _ | _, no => no
  | yes, yes => yes
  | _, _ => unknown

/-- Whether one of them is true. -/
def or : Truth → Truth → Truth
  | yes, _ | _, yes => yes
  | no, no => no
  | _, _ => unknown

/-- Whether a row whose condition this is is selected. -/
def selects : Truth → Bool
  | yes => true
  | unknown | no => false

end Truth

/-- How a condition compares a column with a value. -/
inductive Comparison where
  | equal
  | less
  | greater
  deriving DecidableEq

namespace Comparison

/-- The sign of a comparison. -/
def sign : Comparison → String
  | equal => "="
  | less => "<"
  | greater => ">"

/-- The comparison of a sign. -/
def ofSign? (s : String) : Option Comparison := [equal, less, greater].find? fun c => c.sign = s

end Comparison

namespace Cell

/-- Whether two cells hold the same value. -/
def same : Cell → Cell → Truth
  | null, _ | _, null => .unknown
  | integer m, integer n => .ofBool (m = n)
  | text s, text t => .ofBool (s = t)
  | json v, json w => .ofBool (v.same w)
  | ident i, ident j => .ofBool (i = j)
  | time t, time u => .ofBool (t = u)
  | date d, date e => .ofBool (d = e)
  | _, _ => .no

/-- Whether a cell comes before another one. Only numbers and times are put in order here. -/
def before : Cell → Cell → Truth
  | null, _ | _, null => .unknown
  | integer m, integer n => .ofBool (m < n)
  | time t, time u => .ofBool (t < u)
  | _, _ => .no

/-- Whether a cell holds one of the texts of a list. -/
def among : Cell → Cell → Truth
  | null, _ | _, null => .unknown
  | text s, texts ss => .ofBool (ss.contains s)
  | _, _ => .no

end Cell

/-- The truth of a comparison. -/
def Comparison.truth : Comparison → Cell → Cell → Truth
  | equal, a, b => a.same b
  | less, a, b => a.before b
  | greater, a, b => b.before a

end LeaseQueue.Sql
