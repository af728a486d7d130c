import LiveSession.Engine
import LiveSession.Response.Merge

/-!
# The state of a session

A session holds its engine's state and the text captured from the statement
that is running. Console text goes to the capture buffer while output is
redirected, and to the console otherwise. The journal lists what was reported
along the way, and the samples list how many elements were asked of handles.
-/

namespace LiveSession

/-- How much a journal line matters. -/
inductive Level where
  | debug
  | info
  | error
  deriving DecidableEq, Repr

/-- The part of a session that wrote a journal line. -/
inductive Reporter where
  | pipeline
  | magics
  deriving DecidableEq, Repr

/-- A line of the journal. -/
structure Report where
  level : Level
  reporter : Reporter
  message : String
  deriving DecidableEq, Repr

/-- What has gone past the session: text of both streams and displayed values. -/
structure Console where
  out : String := ""
  err : String := ""
  echo : List Host := []

/-- A session in between two operations, or within one. -/
structure Session (σ : Type) where
  /-- The state of the engine. -/
  engine : σ
  /-- Text written while output was redirected and not yet read. -/
  captured : String := ""
  /-- Whether output goes to the capture buffer. -/
  redirected : Bool := false
  /-- Whether a submission is running. -/
  busy : Bool := false
  /-- How often the engine's context was entered. -/
  entered : Nat := 0
  /-- How often it was left. -/
  left : Nat := 0
  console : Console := {}
  journal : List Report := []
  samples : List Int := []

/-- What ends an operation of a session without a response. -/
inductive Escape where
  /-- A fault of the engine or of a handle. -/
  | fault (fault : Fault)
  /-- The engine is not started. -/
  | notStarted
  /-- A value that was to be shown as a table has no structure. -/
  | notStructured (typeName : String)
  /-- The texts of two responses cannot be joined. -/
  | unmerged (error : MergeError)

namespace Console

/-- Add text to a stream. -/
def write (c : Console) (stream : Stream) (s : String) : Console :=
  match stream with
  | .out => { c with out := c.out ++ s }
  | .err => { c with err := c.err ++ s }

/-- Show a value. -/
def display (c : Console) (h : Host) : Console :=
  { c with echo := c.echo ++ [h] }

end Console

namespace Session

variable {σ : Type}

/-- The result of an operation of a session. -/
abbrev Result (σ α : Type) := Except Escape α × Session σ

/-- Add a line to the journal. -/
def report (s : Session σ) (level : Level) (reporter : Reporter) (message : String) : Session σ :=
  { s with journal := s.journal ++ [⟨level, reporter, message⟩] }

/-- Deliver what a statement emitted: text to where output goes at the moment,
displayed values to the console. -/
def deliver (s : Session σ) : List Emission → Session σ
  | [] => s
  | .text stream t :: rest =>
    if s.redirected then { s with captured := s.captured ++ t }.deliver rest
    else { s with console := s.console.write stream t }.deliver rest
  | .display h :: rest => { s with console := s.console.display h }.deliver rest

/-- Read the captured text and empty the buffer. -/
def drain (s : Session σ) : String × Session σ :=
  (s.captured, { s with captured := "" })

/-- Run an operation of the engine. -/
def call {α : Type} (operation : σ → Outcome σ α) (s : Session σ) : Result σ α :=
  match operation s.engine with
  | (.ok a, e) => (.ok a, { s with engine := e })
  | (.error f, e) => (.error (.fault f), { s with engine := e })

end Session

end LiveSession
