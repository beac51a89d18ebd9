import LeaseQueue.Sql.Backend

/-!
# Scripted databases

A scripted database holds nothing; it answers each statement with the next entry of a list, whose
values are sent as those of statements are, and refuses some of the commands that control
transactions or run scripts.
-/

namespace LeaseQueue.Sql

/-- What a scripted database has still to say. -/
structure Script where
  /-- The answers to statements, in order. After the last one there are no rows and no errors. -/
  answers : List (Except DbError (List Row)) := []
  /-- For a first word the message with which the next command that begins with it is refused. -/
  refusals : List (String × String) := []

namespace Script

/-- The refusal of a command, and the ones that remain. -/
def refusal? (command : String) :
    List (String × String) → Option (String × List (String × String))
  | [] => none
  | r :: rs =>
    if r.1.toList.isPrefixOf command.toList then some (r.2, rs)
    else (refusal? command rs).map fun q => (q.1, r :: q.2)

/-- The scripted database. -/
def database : Database Script := fun c s =>
  match c with
  | .execute _ =>
    match s.answers with
    | [] => (.ok [], s)
    | a :: rest => (a.map fun rows => rows.map Row.sent, { s with answers := rest })
  | c =>
    match c.control?.bind fun text => refusal? text s.refusals with
    | some (message, rest) => (.error (.refused "" message), { s with refusals := rest })
    | none => (.ok [], s)

end Script

end LeaseQueue.Sql
