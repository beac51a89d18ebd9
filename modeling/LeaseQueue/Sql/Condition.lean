import LeaseQueue.Filter.Basic
import LeaseQueue.Sql.Cell

/-!
# Conditions of a statement

A filter becomes a condition of a statement.  A condition is a sequence of pieces, fixed texts and
bound values; the values are numbered from left to right and only their numbers reach the text, so
the text depends on the shape of the filter alone.
-/

namespace LeaseQueue.Sql

/-- A piece of a condition. -/
inductive Piece where
  | text (s : String)
  | bound (c : Cell)

namespace Piece

/-- The text of pieces, the bound values numbered from `next` on. -/
def render : (next : Nat) → List Piece → String
  | _, [] => ""
  | next, text s :: rest => s ++ render next rest
  | next, bound _ :: rest => "$" ++ toString next ++ render (next + 1) rest

/-- The values bound in pieces. -/
def values : List Piece → List Cell
  | [] => []
  | text _ :: rest => values rest
  | bound c :: rest => c :: values rest

end Piece

/-- The column that a criterion looks at, and how it compares it. -/
def comparison : Criterion → String
  | .id _ => "id ="
  | .queue _ => "queue_name ="
  | .type _ => "job_type ="
  | .status _ => "status ="
  | .payload _ => "payload ="
  | .organization _ => "organization_id ="
  | .scheduledBefore _ => "scheduled_at <"
  | .scheduledAfter _ => "scheduled_at >"

/-- The value to which a criterion compares a column. -/
def operand : Criterion → Cell
  | .id i => .ident i
  | .queue name => .text name
  | .type name => .text name
  | .status s => .ofStatus s
  | .payload v => .json v
  | .organization i => .ident i
  | .scheduledBefore t => .time t
  | .scheduledAfter t => .time t

mutual

/-- The condition of a filter. Each part begins with a blank. -/
def condition : Filter → List Piece
  | .is c => [.text (" " ++ comparison c ++ " "), .bound (operand c)]
  | .not f => .text " NOT" :: condition f
  | .all [] => [.text " TRUE"]
  | .all (f :: fs) => .text " (" :: condition f ++ conditions " AND" fs ++ [.text ")"]
  | .any [] => [.text " FALSE"]
  | .any (f :: fs) => .text " (" :: condition f ++ conditions " OR" fs ++ [.text ")"]
termination_by structural f => f

/-- The conditions of the further filters in a list, each after the connective. -/
def conditions (connective : String) : List Filter → List Piece
  | [] => []
  | f :: fs => .text connective :: condition f ++ conditions connective fs
termination_by structural fs => fs

end

end LeaseQueue.Sql
