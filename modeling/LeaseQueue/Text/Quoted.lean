import LeaseQueue.Text.Digits
import LeaseQueue.Text.Printable

/-!
# Quoted texts

Messages and descriptions show quoted texts and labelled records: a text stands between double
quotes with every character that would not show as itself escaped, a list between square brackets, a
record as its name followed by its labelled fields between braces.
-/

namespace LeaseQueue.Quoted

/-- One character of a quoted text. -/
def escape (c : Char) : List Char :=
  match c with
  | '"' => ['\\', '"']
  | '\\' => ['\\', '\\']
  | '\n' => ['\\', 'n']
  | '\r' => ['\\', 'r']
  | '\t' => ['\\', 't']
  | c =>
    if c.toNat = 0 then ['\\', '0']
    else if isPrintable c then [c]
    else '\\' :: 'u' :: '\x7b' :: Digits.hexOfNat c.toNat ++ ['\x7d']

/-- A text between quotes. -/
def quote (s : String) : String :=
  String.ofList ('"' :: s.toList.flatMap escape ++ ['"'])

/-- Items between square brackets. -/
def bracket (items : List String) : String := "[" ++ ", ".intercalate items ++ "]"

/-- A record with its labelled fields; `more` tells that it has fields that are not shown. -/
def record (name : String) (fields : List (String × String)) (more : Bool) : String :=
  let shown := fields.map fun f => f.1 ++ ": " ++ f.2
  let parts := if more then shown ++ [".."] else shown
  name ++ " \x7b " ++ ", ".intercalate parts ++ " \x7d"

/-- An optional number. -/
def optional : Option Int → String
  | none => "None"
  | some n => "Some(" ++ toString n ++ ")"

end LeaseQueue.Quoted
