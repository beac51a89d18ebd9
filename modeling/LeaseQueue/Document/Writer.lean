import LeaseQueue.Document.Value

/-!
# The written form of values

Values are written as compact JSON without blanks.  In a string the quote, the backslash and the
characters below U+0020 are escaped, everything else stands as it is.
-/

namespace LeaseQueue

/-- One character of a written string. -/
def writeChar (c : Char) : List Char :=
  match c with
  | '"' => ['\\', '"']
  | '\\' => ['\\', '\\']
  | '\n' => ['\\', 'n']
  | '\r' => ['\\', 'r']
  | '\t' => ['\\', 't']
  | '\x08' => ['\\', 'b']
  | '\x0c' => ['\\', 'f']
  | c => if c.toNat < 0x20 then '\\' :: 'u' :: Digits.hexFixed 4 c.toNat else [c]

/-- A written string, quotes included. -/
def writeString (s : String) : List Char := '"' :: s.toList.flatMap writeChar ++ ['"']

namespace Value

mutual

/-- The written form of a value. -/
def write : Value → List Char
  | .null => ['n', 'u', 'l', 'l']
  | .bool true => ['t', 'r', 'u', 'e']
  | .bool false => ['f', 'a', 'l', 's', 'e']
  | .number n => n.write
  | .string s => writeString s
  | .array xs => '[' :: writeItems xs ++ [']']
  | .object fs => '\x7b' :: writeFields fs ++ ['\x7d']
termination_by structural v => v

/-- The items of an array, commas between them. -/
def writeItems : List Value → List Char
  | [] => []
  | [v] => v.write
  | v :: w :: rest => v.write ++ ',' :: writeItems (w :: rest)
termination_by structural xs => xs

/-- The fields of an object, commas between them. -/
def writeFields : List (String × Value) → List Char
  | [] => []
  | [(key, v)] => writeString key ++ ':' :: v.write
  | (key, v) :: f :: rest => writeString key ++ ':' :: v.write ++ ',' :: writeFields (f :: rest)
termination_by structural fs => fs

end

/-- The written form as text. -/
def text (v : Value) : String := String.ofList v.write

end Value

namespace Document

/-- The written form of a document. -/
def write (d : Document) : List Char := (Value.object d).write

/-- The written form of a document as text. -/
def text (d : Document) : String := String.ofList d.write

end Document

end LeaseQueue
