import LeaseQueue.Sql.Cell
import LeaseQueue.Text.Digits

/-!
# Assignments

An assignment is what a statement puts into a column of a row.  A list of them has a written form,
as part of a statement, and a meaning, as a change of a row.
-/

namespace LeaseQueue.Sql

/-! ### Rows -/

/-- Named values. A column that is not there counts as null. -/
abbrev Row := List (String × Cell)

namespace Row

/-- The value in a column. -/
def cell (r : Row) (column : String) : Cell :=
  ((r.find? fun c => c.1 = column).map Prod.snd).getD .null

/-- A row with another value in a column; a row without the column stays as it is. -/
def set (r : Row) (column : String) (value : Cell) : Row :=
  r.map fun c => if c.1 = column then (column, value) else c

/-- Some columns of a row, in the given order. -/
def project (r : Row) (columns : List String) : Row := columns.map fun c => (c, r.cell c)

/-- A row as it arrives on the other side. -/
def sent (r : Row) : Row := r.map fun c => (c.1, c.2.sent)

end Row

/-! ### Terms -/

/-- A value as a statement writes it. -/
inductive Term where
  /-- The bound value of a number; they are counted from one on. -/
  | place (n : Nat)
  | status (s : Status)
  | integer (n : Int)
  | null
  /-- One more than the column holds. -/
  | increased (column : String)
  deriving DecidableEq

namespace Term

/-- The written form of a term. -/
def text : Term → String
  | place n => "$" ++ toString n
  | status s => "'" ++ s.name ++ "'"
  | integer n => String.ofList (Digits.ofInt n)
  | null => "NULL"
  | increased column => column ++ " + 1"

/-- The value of a term for the bound values of a statement and the row it works on. -/
def value (bound : List Cell) (row : Row) : Term → Cell
  | place n => (bound[n - 1]?).getD .null
  | status s => .ofStatus s
  | integer n => .integer n
  | null => .null
  | increased column =>
    match row.cell column with
    | .integer n => .integer (n + 1)
    | _ => .null

end Term

/-! ### Assignments -/

/-- A column and what it is to hold. -/
abbrev Assignment := String × Term

/-- The written form of an assignment. -/
def Assignment.text (a : Assignment) : String := a.1 ++ " = " ++ a.2.text

/-- Words with commas between them. -/
def commas (words : List String) : String := ", ".intercalate words

/-- The written form of assignments. -/
def assignmentsText (as : List Assignment) : String := commas (as.map Assignment.text)

/-- The row after assignments. All their values are taken from the row as it was before. -/
def Row.assign (r : Row) (bound : List Cell) (as : List Assignment) : Row :=
  as.foldl (fun s a => s.set a.1 (a.2.value bound r)) r

/-- The row that assignments make from nothing: the columns without one hold null. -/
def Row.create (columns : List String) (bound : List Cell) (as : List Assignment) : Row :=
  Row.assign (columns.map fun c => (c, Cell.null)) bound as

end LeaseQueue.Sql
