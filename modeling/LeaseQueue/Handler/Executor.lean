import LeaseQueue.Document.Reader
import LeaseQueue.Handler.Course

/-!
# Executors

An executor is a handler whose payload is decoded before it runs.  A payload that cannot be decoded
is an error of the handler.
-/

namespace LeaseQueue

/-- A handler for the jobs of one type, with a payload of type `α`. -/
structure Executor (α : Type) where
  /-- The type of the jobs it runs. -/
  name : String
  decode : Value → Option α
  execute : Context → α → Except HandlerError Unit

namespace Executor

variable {α σ : Type}

/-- Decodes a written payload. -/
def decodeText (decode : Value → Option α) (payload : String) : Except HandlerError α :=
  match (Value.ofText? payload).bind decode with
  | some data => .ok data
  | none => .error (.undecodable "unexpected value")

/-- How the run on a payload ends. -/
def ending (e : Executor α) (context : Context) (payload : String) : Ending :=
  match decodeText e.decode payload >>= e.execute context with
  | .ok () => .success
  | .error error => .error error.message

/-- The executor as a handler. It takes no time. -/
def handler (e : Executor α) : Handler σ := fun _ context payload =>
  ⟨[], e.ending context payload⟩

/-! ### The executors at hand -/

/-- The number of rows in a report. -/
def decodeRows (v : Value) : Option UInt32 := do
  let d ← v.asRecord? ["rows"]
  d.required "rows" Value.asUInt32?

/-- Builds a report, which must not be empty. -/
def reportBuild : Executor UInt32 where
  name := "report.build"
  decode := decodeRows
  execute _ rows := if rows = 0 then .error ⟨"empty report", false⟩ else .ok ()

/-- Who gets a greeting. -/
structure Greeting where
  recipient : String
  copies : Option (List String)

/-- Greets a new user, who has to have an address; a list of further recipients must not be
empty. -/
def userWelcome : Executor Greeting where
  name := "user.welcome"
  decode v := do
    let d ← v.asRecord? ["to", "cc"]
    return ⟨← d.required "to" Value.asString?, ← d.optional "cc" Value.asStrings?⟩
  execute context greeting :=
    if greeting.recipient = "" then
      .error ⟨"missing recipient, attempt " ++ toString context.attempt.toNat, false⟩
    else if greeting.copies.any List.isEmpty then .error ⟨"empty cc", false⟩
    else .ok ()

/-- The handlers of the executors at hand, by name. -/
def atHand : List (String × Handler σ) :=
  [(reportBuild.name, reportBuild.handler), (userWelcome.name, userWelcome.handler)]

end Executor

end LeaseQueue
