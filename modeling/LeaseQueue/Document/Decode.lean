import LeaseQueue.Document.Value
import LeaseQueue.Ident
import LeaseQueue.Time.Written

/-!
# Decoding values

Values have typed views, and documents hold records.  A record is an object whose fields are looked
up by name, or an array of all its values in the order of the names.  Fields with other names are
ignored.  An optional field may be missing or null, a defaulted field may only be missing.
-/

namespace LeaseQueue

namespace Value

/-! ### Scalars -/

/-- The text of a string. -/
def asString? : Value → Option String
  | .string s => some s
  | _ => none

/-- A name: a string, or the only key of an object, with null as its value. -/
def asName? : Value → Option String
  | .string s => some s
  | .object [(s, .null)] => some s
  | _ => none

/-- An integer between two limits. -/
def asInteger? (least greatest : Int) : Value → Option Int
  | .number (.integer n) => if least ≤ n ∧ n ≤ greatest then some n else none
  | _ => none

/-- A signed 32-bit word. -/
def asInt32? (v : Value) : Option Int32 :=
  (v.asInteger? (-2147483648) 2147483647).map Int32.ofInt

/-- An unsigned 32-bit word. -/
def asUInt32? (v : Value) : Option UInt32 :=
  (v.asInteger? 0 4294967295).map fun n => UInt32.ofNat n.toNat

/-- A signed 64-bit word. -/
def asInt64? (v : Value) : Option Int64 :=
  (v.asInteger? (-9223372036854775808) 9223372036854775807).map Int64.ofInt

/-- An unsigned 64-bit word. -/
def asUInt64? (v : Value) : Option UInt64 :=
  (v.asInteger? 0 18446744073709551615).map fun n => UInt64.ofNat n.toNat

/-- A double-precision number; any number will do. -/
def asDouble? : Value → Option Double
  | .number n => some n.toDouble
  | _ => none

/-- The identifier a string stands for. -/
def asIdent? (v : Value) : Option Ident := v.asString?.bind Ident.ofText?

/-- The instant a string stands for. -/
def asInstant? (v : Value) : Option Instant := v.asString?.bind Instant.ofText?

/-- The date a string stands for. -/
def asDate? (v : Value) : Option Date := v.asString?.bind Date.ofText?

/-- The span a string stands for. -/
def asSpan? (v : Value) : Option Span := v.asString?.bind Span.ofText?

/-- The truth value of a boolean. -/
def asBool? : Value → Option Bool
  | bool b => some b
  | _ => none

/-- A number that is not negative. -/
def asNat? : Value → Option Nat
  | .number (.integer n) => if 0 ≤ n then some n.toNat else none
  | _ => none

/-- The fields of an object. -/
def asDocument? : Value → Option Document
  | .object d => some d
  | _ => none

/-- The items of an array, each decoded. -/
def asList? {α : Type} (decode : Value → Option α) : Value → Option (List α)
  | .array vs => vs.mapM decode
  | _ => none

/-- The strings of an array of strings. -/
def asStrings? (v : Value) : Option (List String) := v.asList? asString?

/-- The integer as a value. -/
def ofInt (n : Int) : Value := .number (.integer n)

/-- An optional value, null when it is absent. -/
def ofOption {α : Type} (f : α → Value) : Option α → Value
  | some a => f a
  | none => .null

end Value

/-! ### Records -/

/-- A field that has to be there. -/
def Document.required {α : Type} (d : Document) (name : String) (decode : Value → Option α) :
    Option α :=
  (d.get? name).bind decode

/-- A field that may be missing or null. -/
def Document.optional {α : Type} (d : Document) (name : String) (decode : Value → Option α) :
    Option (Option α) :=
  match d.get? name with
  | none | some .null => some none
  | some v => (decode v).map some

/-- A field that may be missing and then has the given value. -/
def Document.defaulted {α : Type} (d : Document) (name : String) (decode : Value → Option α)
    (absent : α) : Option α :=
  match d.get? name with
  | none => some absent
  | some v => decode v

/-- The fields of a record that lists all its values or names them. -/
def Value.asRecord? (names : List String) : Value → Option Document
  | .object d => some d
  | .array vs => if vs.length = names.length then some (names.zip vs) else none
  | _ => none

/-- The fields of a record whose last values may be missing. -/
def Value.asPartialRecord? (names : List String) : Value → Option Document
  | .object d => some d
  | .array vs => if vs.length ≤ names.length then some (names.zip vs) else none
  | _ => none

end LeaseQueue
