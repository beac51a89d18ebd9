import LeaseQueue.Document.Value

/-!
# Reading JSON

The reader is strict: no control characters in strings, no lone surrogates, no leading zeros,
nothing but blanks after the value, and at most `nestingLimit` arrays and objects inside one
another.  A repeated key keeps its first place and its last value.
-/

namespace LeaseQueue

namespace Reader

/-- How many arrays and objects may stand inside one another. -/
def nestingLimit : Nat := 127

/-- A text without the blanks at its head: spaces, tabs and line ends. -/
def skipSpace (cs : List Char) : List Char :=
  cs.dropWhile fun c => c = ' ' || c = '\n' || c = '\r' || c = '\t'

/-! ### Strings -/

/-- The number of four hexadecimal digits. -/
def readUnit? (cs : List Char) : Option (Nat × List Char) :=
  if (cs.take 4).length = 4 then
    (Digits.hexToNat? (cs.take 4)).map fun n => (n, cs.drop 4)
  else
    none

/-- The character of an escape with a code unit, the second half of a surrogate pair
included. -/
def readCodePoint? (cs : List Char) : Option (Char × List Char) := do
  let (unit, rest) ← readUnit? cs
  if unit < 0xd800 ∨ 0xdfff < unit then
    return (Char.ofNat unit, rest)
  else if unit < 0xdc00 then
    match rest with
    | '\\' :: 'u' :: rest =>
      let (low, rest) ← readUnit? rest
      if 0xdc00 ≤ low ∧ low ≤ 0xdfff then
        return (Char.ofNat (0x10000 + (unit - 0xd800) * 0x400 + (low - 0xdc00)), rest)
      else
        none
    | _ => none
  else
    none

/-- The character of an escape, after its backslash. -/
def readEscape? (cs : List Char) : Option (Char × List Char) :=
  match cs with
  | '"' :: rest => some ('"', rest)
  | '\\' :: rest => some ('\\', rest)
  | '/' :: rest => some ('/', rest)
  | 'b' :: rest => some ('\x08', rest)
  | 'f' :: rest => some ('\x0c', rest)
  | 'n' :: rest => some ('\n', rest)
  | 'r' :: rest => some ('\r', rest)
  | 't' :: rest => some ('\t', rest)
  | 'u' :: rest => readCodePoint? rest
  | _ => none

/-- The characters of a string up to its closing quote. -/
def readChars? : (fuel : Nat) → List Char → Option (List Char × List Char)
  | 0, _ => none
  | _ + 1, [] => none
  | fuel + 1, c :: rest =>
    if c = '"' then some ([], rest)
    else if c = '\\' then do
      let (c, rest) ← readEscape? rest
      let (cs, rest) ← readChars? fuel rest
      return (c :: cs, rest)
    else if c.toNat < 0x20 then none
    else do
      let (cs, rest) ← readChars? fuel rest
      return (c :: cs, rest)

/-- A string after its opening quote. -/
def readString? (cs : List Char) : Option (String × List Char) :=
  (readChars? (cs.length + 1) cs).map fun r => (String.ofList r.1, r.2)

/-! ### Numbers -/

/-- The digits before the point: a zero alone, or digits that do not start with one. -/
def readWhole? (cs : List Char) : Option (List Char × List Char) :=
  match cs with
  | '0' :: rest =>
    match rest with
    | c :: _ => if c.isDigit then none else some (['0'], rest)
    | [] => some (['0'], [])
  | cs =>
    let r := Digits.run cs
    if r.1.isEmpty then none else some r

/-- The digits after the point, if there is one. -/
def readFraction? (cs : List Char) : Option (Option (List Char) × List Char) :=
  match cs with
  | '.' :: rest =>
    let r := Digits.run rest
    if r.1.isEmpty then none else some (some r.1, r.2)
  | cs => some (none, cs)

/-- The exponent, if there is one. -/
def readExponent? (cs : List Char) : Option (Option Int × List Char) :=
  match cs with
  | c :: rest =>
    if c = 'e' ∨ c = 'E' then
      let (sign, digits) : Int × List Char := match rest with
        | '-' :: rest => (-1, rest)
        | '+' :: rest => (1, rest)
        | rest => (1, rest)
      let r := Digits.run digits
      if r.1.isEmpty then none else some (some (sign * Digits.toNat r.1), r.2)
    else
      some (none, cs)
  | [] => some (none, [])

/-- A number without its sign. -/
def readUnsigned? (negative : Bool) (cs : List Char) : Option (Number × List Char) := do
  let (whole, cs) ← readWhole? cs
  let (fraction, cs) ← readFraction? cs
  let (exponent, cs) ← readExponent? cs
  let n ← Number.ofParts? negative whole fraction exponent
  return (n, cs)

/-- A number. -/
def readNumber? (cs : List Char) : Option (Number × List Char) :=
  match cs with
  | '-' :: rest => readUnsigned? true rest
  | cs => readUnsigned? false cs

/-! ### Values -/

mutual

/-- A value after blanks, with at most `depth` arrays and objects inside one another. -/
def readValue? : (fuel depth : Nat) → List Char → Option (Value × List Char)
  | 0, _, _ => none
  | fuel + 1, depth, cs =>
    match skipSpace cs with
    | 'n' :: 'u' :: 'l' :: 'l' :: rest => some (.null, rest)
    | 't' :: 'r' :: 'u' :: 'e' :: rest => some (.bool true, rest)
    | 'f' :: 'a' :: 'l' :: 's' :: 'e' :: rest => some (.bool false, rest)
    | '"' :: rest => (readString? rest).map fun r => (.string r.1, r.2)
    | '[' :: rest =>
      match depth, skipSpace rest with
      | 0, _ => none
      | _ + 1, ']' :: rest => some (.array [], rest)
      | depth + 1, rest => (readItems? fuel depth rest).map fun r => (.array r.1, r.2)
    | '\x7b' :: rest =>
      match depth, skipSpace rest with
      | 0, _ => none
      | _ + 1, '\x7d' :: rest => some (.object [], rest)
      | depth + 1, rest =>
        (readFields? fuel depth rest).map fun r => (.object (Document.ofList r.1), r.2)
    | rest => (readNumber? rest).map fun r => (.number r.1, r.2)
termination_by structural fuel => fuel

/-- The items of an array that is not empty, up to its closing bracket. -/
def readItems? : (fuel depth : Nat) → List Char → Option (List Value × List Char)
  | 0, _, _ => none
  | fuel + 1, depth, cs => do
    let (v, rest) ← readValue? fuel depth cs
    match skipSpace rest with
    | ',' :: rest =>
      let (vs, rest) ← readItems? fuel depth rest
      return (v :: vs, rest)
    | ']' :: rest => return ([v], rest)
    | _ => none
termination_by structural fuel => fuel

/-- The fields of an object that is not empty, up to its closing brace. -/
def readFields? : (fuel depth : Nat) → List Char → Option (List (String × Value) × List Char)
  | 0, _, _ => none
  | fuel + 1, depth, cs => do
    let rest ← match skipSpace cs with
      | '"' :: rest => some rest
      | _ => none
    let (key, rest) ← readString? rest
    let rest ← match skipSpace rest with
      | ':' :: rest => some rest
      | _ => none
    let (v, rest) ← readValue? fuel depth rest
    match skipSpace rest with
    | ',' :: rest =>
      let (fs, rest) ← readFields? fuel depth rest
      return ((key, v) :: fs, rest)
    | '\x7d' :: rest => return ([(key, v)], rest)
    | _ => none
termination_by structural fuel => fuel

end

end Reader

/-- The value that fills a whole text. Each character serves at most two steps of the reader. -/
def Value.read? (cs : List Char) : Option Value := do
  let (v, rest) ← Reader.readValue? (2 * cs.length + 2) Reader.nestingLimit cs
  if (Reader.skipSpace rest).isEmpty then some v else none

/-- The value a text stands for. -/
def Value.ofText? (s : String) : Option Value := Value.read? s.toList

end LeaseQueue
