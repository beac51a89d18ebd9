import LeaseQueue.Sql.Truth

/-!
# The grammar of conditions

A text is cut into words and brackets, and these are put together: a comparison binds more tightly
than `NOT`, that more tightly than `AND`, and that more tightly than `OR`; brackets go before all of
them.
-/

namespace LeaseQueue.Sql

/-! ### Conditions -/

/-- A condition. Its leaves compare a column with the bound value of a number. -/
inductive Logic where
  | leaf (column : String) (c : Comparison) (place : Nat)
  | constant (b : Bool)
  | not (e : Logic)
  | and (a b : Logic)
  | or (a b : Logic)
  deriving DecidableEq

namespace Logic

/-- The truth of a condition whose leaves have given truth values. -/
def truth (leaf : String → Comparison → Nat → Truth) : Logic → Truth
  | .leaf column c place => leaf column c place
  | constant b => .ofBool b
  | not e => (e.truth leaf).not
  | and a b => (a.truth leaf).and (b.truth leaf)
  | or a b => (a.truth leaf).or (b.truth leaf)

/-- The truth of a condition on a row, for the bound values of a statement. -/
def truthOn (e : Logic) (bound : List Cell) (row : Row) : Truth :=
  e.truth fun column c place => c.truth (row.cell column) ((Term.place place).value bound row)

/-- The leaves of a condition from left to right. -/
def leaves : Logic → List (String × Comparison × Nat)
  | leaf column c place => [(column, c, place)]
  | constant _ => []
  | not e => e.leaves
  | and a b | or a b => a.leaves ++ b.leaves

end Logic

/-! ### Words -/

/-- A part of a written condition. -/
inductive Token where
  | opening
  | closing
  | word (s : List Char)
  deriving DecidableEq

namespace Token

/-- A word that has come to its end; there may be none. -/
def ended (word : List Char) : List Token := if word.isEmpty then [] else [.word word]

/-- The words and brackets of a text that goes on after the beginning of a word. -/
def scan : (begun : List Char) → List Char → List Token
  | begun, [] => ended begun
  | begun, c :: cs =>
    if c = ' ' then ended begun ++ scan [] cs
    else if c = '(' then ended begun ++ opening :: scan [] cs
    else if c = ')' then ended begun ++ closing :: scan [] cs
    else scan (begun ++ [c]) cs

/-- The words and brackets of a text. -/
def ofText (s : String) : List Token := scan [] s.toList

end Token

/-! ### Reading -/

namespace Logic

/-- The number of a bound value. -/
def place? : List Char → Option Nat
  | '$' :: digits => Digits.toNat? digits
  | _ => none

/-- A comparison of a column and a bound value. -/
def leaf? (column sign place : List Char) : Option Logic := do
  let c ← Comparison.ofSign? (String.ofList sign)
  let n ← place? place
  return leaf (String.ofList column) c n

mutual

/-- Conditions with `OR` between them. -/
def readOr? : (fuel : Nat) → List Token → Option (Logic × List Token)
  | 0, _ => none
  | fuel + 1, ts => do
    let (a, rest) ← readAnd? fuel ts
    match rest with
    | .word ['O', 'R'] :: rest =>
      let (b, rest) ← readOr? fuel rest
      return (or a b, rest)
    | rest => return (a, rest)
termination_by structural fuel => fuel

/-- Conditions with `AND` between them. -/
def readAnd? : (fuel : Nat) → List Token → Option (Logic × List Token)
  | 0, _ => none
  | fuel + 1, ts => do
    let (a, rest) ← readNot? fuel ts
    match rest with
    | .word ['A', 'N', 'D'] :: rest =>
      let (b, rest) ← readAnd? fuel rest
      return (and a b, rest)
    | rest => return (a, rest)
termination_by structural fuel => fuel

/-- A condition after any number of `NOT`s: a constant, a comparison, or one in brackets. -/
def readNot? : (fuel : Nat) → List Token → Option (Logic × List Token)
  | 0, _ => none
  | fuel + 1, ts =>
    match ts with
    | .word ['N', 'O', 'T'] :: rest => (readNot? fuel rest).map fun r => (not r.1, r.2)
    | .word ['T', 'R', 'U', 'E'] :: rest => some (constant true, rest)
    | .word ['F', 'A', 'L', 'S', 'E'] :: rest => some (constant false, rest)
    | .word column :: .word sign :: .word place :: rest =>
      (leaf? column sign place).map fun e => (e, rest)
    | .opening :: rest =>
      match readOr? fuel rest with
      | some (e, .closing :: rest) => some (e, rest)
      | _ => none
    | _ => none
termination_by structural fuel => fuel

end

/-- The condition that words and brackets make. Each of them needs at most three steps. -/
def ofTokens? (ts : List Token) : Option Logic :=
  match readOr? (3 * ts.length + 3) ts with
  | some (e, []) => some e
  | _ => none

/-- The condition of a text. -/
def ofText? (s : String) : Option Logic := ofTokens? (Token.ofText s)

end Logic

end LeaseQueue.Sql
