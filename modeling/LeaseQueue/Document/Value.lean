import LeaseQueue.Document.Number

/-!
# Document values

Values are those of the JSON data model, with objects that keep the order of their keys.  Equality
of values ignores that order.
-/

namespace LeaseQueue

/-- A JSON value. -/
inductive Value where
  | null
  | bool (b : Bool)
  | number (n : Number)
  | string (s : String)
  | array (items : List Value)
  | object (fields : List (String × Value))

/-- An object on its own: named values in the order in which their keys first came up. -/
abbrev Document := List (String × Value)

namespace Document

/-- The value of a key. -/
def get? : Document → String → Option Value
  | [], _ => none
  | (k, v) :: rest, key => if k = key then some v else get? rest key

/-- Gives a key a value. A key that is there keeps its place. -/
def insert : Document → String → Value → Document
  | [], key, value => [(key, value)]
  | (k, v) :: rest, key, value =>
    if k = key then (k, value) :: rest else (k, v) :: insert rest key value

/-- The document of a list of named values, later ones replacing earlier ones. -/
def ofList (fields : List (String × Value)) : Document :=
  fields.foldl (fun d f => d.insert f.1 f.2) []

end Document

namespace Value

instance : Inhabited Value := ⟨.null⟩

/-- What kind of value it is, as messages say it. -/
def kind : Value → String
  | .null => "null"
  | .bool _ => "a boolean"
  | .number _ => "a number"
  | .string _ => "a string"
  | .array _ => "an array"
  | .object _ => "an object"

/-! ### Equality up to the order of keys -/

mutual

/-- Whether two values are equal up to the order of keys. -/
def same : Value → Value → Bool
  | .null, .null => true
  | .bool a, .bool b => a = b
  | .number a, .number b => a.same b
  | .string a, .string b => a = b
  | .array xs, .array ys => sameItems xs ys
  | .object fs, .object gs => fs.length = gs.length && sameFields fs gs
  | _, _ => false
termination_by structural v => v

/-- Whether two lists hold equal values in the same order. -/
def sameItems : List Value → List Value → Bool
  | [], [] => true
  | x :: xs, y :: ys => x.same y && sameItems xs ys
  | _, _ => false
termination_by structural xs => xs

/-- Whether each named value of the first list has an equal one of its name in the second. -/
def sameFields : List (String × Value) → Document → Bool
  | [], _ => true
  | (key, v) :: rest, gs =>
    (match gs.get? key with
      | some w => v.same w
      | none => false) && sameFields rest gs
termination_by structural fs => fs

end

end Value

namespace Document

/-- Whether two documents hold equal values under the same keys. -/
def same (a b : Document) : Bool := a.length = b.length && Value.sameFields a b

end Document

end LeaseQueue
