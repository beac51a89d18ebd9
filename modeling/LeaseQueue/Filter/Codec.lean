import LeaseQueue.Filter.Builder

/-!
# Encoded filters

As a value a filter is an object with a single key, which names the condition and holds its
argument.  `and` and `or` hold a list of conditions and `not` holds one; every other key names a
property.
-/

namespace LeaseQueue

namespace Criterion

/-- The name of the property. -/
def key : Criterion → String
  | id _ => "id"
  | queue _ => "queue"
  | type _ => "type"
  | status _ => "status"
  | payload _ => "payload"
  | organization _ => "organization"
  | scheduledBefore _ => "before"
  | scheduledAfter _ => "after"

/-- What the property is compared with. -/
def argument : Criterion → Value
  | id i => .string i.text
  | queue name => .string name
  | type name => .string name
  | status s => .string s.name
  | payload v => v
  | organization i => .string i.text
  | scheduledBefore t => .string t.text
  | scheduledAfter t => .string t.text

/-- A condition as a value. -/
def toValue (c : Criterion) : Value := .object [(c.key, c.argument)]

/-- The condition of a key and its argument. -/
def ofField? (key : String) (v : Value) : Option Criterion :=
  match key with
  | "id" => v.asIdent?.map id
  | "queue" => v.asString?.map queue
  | "type" => v.asString?.map type
  | "status" => (v.asString?.bind Status.ofName?).map status
  | "payload" => some (payload v)
  | "organization" => v.asIdent?.map organization
  | "before" => v.asInstant?.map scheduledBefore
  | "after" => v.asInstant?.map scheduledAfter
  | _ => none

end Criterion

namespace Filter

mutual

/-- A filter as a value. -/
def toValue : Filter → Value
  | is c => c.toValue
  | not f => .object [("not", f.toValue)]
  | all fs => .object [("and", .array (toValues fs))]
  | any fs => .object [("or", .array (toValues fs))]
termination_by structural f => f

/-- Filters as values. -/
def toValues : List Filter → List Value
  | [] => []
  | f :: fs => f.toValue :: toValues fs
termination_by structural fs => fs

end

mutual

/-- The filter of a value. -/
def ofValue? : Value → Option Filter
  | .object [("not", v)] => (ofValue? v).map not
  | .object [("and", .array vs)] => (ofValues? vs).map all
  | .object [("or", .array vs)] => (ofValues? vs).map any
  | .object [(key, v)] => (Criterion.ofField? key v).map is
  | _ => none
termination_by structural v => v

/-- The filters of a list of values. -/
def ofValues? : List Value → Option (List Filter)
  | [] => some []
  | v :: vs => do
    let f ← ofValue? v
    let fs ← ofValues? vs
    return f :: fs
termination_by structural vs => vs

end

namespace Expression

/-- Expressions put together from the left; there must be one. -/
def chain? (join : Expression → Expression → Expression) : List Expression → Option Expression
  | [] => none
  | e :: es => some (es.foldl join e)

mutual

/-- The expression of a value: written as filters are, and `all` stands for the condition that
every job meets. -/
def ofValue? : Value → Option Expression
  | .object [("all", _)] => some everything
  | .object [("not", v)] => (ofValue? v).map not
  | .object [("and", .array vs)] => (ofValues? vs).bind (chain? both)
  | .object [("or", .array vs)] => (ofValues? vs).bind (chain? either)
  | .object [(key, v)] => (Criterion.ofField? key v).map is
  | _ => none
termination_by structural v => v

/-- The expressions of a list of values. -/
def ofValues? : List Value → Option (List Expression)
  | [] => some []
  | v :: vs => do
    let e ← ofValue? v
    let es ← ofValues? vs
    return e :: es
termination_by structural vs => vs

end

end Expression

end Filter

end LeaseQueue
