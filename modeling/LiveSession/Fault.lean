import LiveSession.Text.Quoted

/-!
# Faults

A fault is what an engine or a handle raises instead of giving a result. Its
nature decides who handles it: an abort ends the submission with its message,
a missing name becomes an unbound-name error, an ordinary fault is reported by
its label, and an interruption passes through everything.

Every fault has a message. Something whose own message cannot be made is not
among the faults: there the report of it would raise in its turn.
-/

namespace LiveSession

/-- How a fault is treated on its way. -/
inductive Nature where
  /-- Reported by the part of the session that called. -/
  | ordinary
  /-- The environment cannot go on. -/
  | abort
  /-- A name has no binding. -/
  | missing
  /-- Not to be handled by anyone. -/
  | interruption
  deriving DecidableEq, Repr

/-- Something raised by a collaborator, with a message that can be made. -/
structure Fault where
  /-- The name of its kind, as the collaborator calls it. -/
  label : String
  /-- How it is treated. -/
  nature : Nature
  /-- What it was raised with. -/
  details : List String
  deriving DecidableEq, Repr

namespace Fault

/-- The message: nothing for no detail, the detail itself for one, a
parenthesised list of quoted details for more. A missing name is quoted even
when it stands alone. -/
def message (f : Fault) : String :=
  match f.details with
  | [] => ""
  | [d] => if f.nature = .missing then Text.quote d else d
  | ds => "(" ++ String.intercalate ", " (ds.map Text.quote) ++ ")"

/-- Whether the fault passes through everything. -/
def interrupts (f : Fault) : Bool :=
  f.nature == .interruption

/-- A missing name. -/
def unbound (name : String) : Fault := ⟨"KeyError", .missing, [name]⟩

end Fault

end LiveSession
