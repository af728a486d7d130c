import LiveSession.Engine

/-!
# Routing of output and display

Output streams and the display hook are shared by all contexts. Once routing
objects are in place, what a context writes goes to the buffer of the
innermost output scope it has open, and what it displays goes to the hook of
its innermost display scope; where it has none, to the plain console. A scope
remembers what was in force when it was entered and restores that when it is
left. Contexts do not see one another's scopes.
-/

namespace LiveSession

/-- A text buffer. -/
structure Buffer where
  text : String := ""
  closed : Bool := false
  deriving DecidableEq, Repr

/-- What is in force in a context: the buffer that takes its output and the
hook that takes what it displays. -/
structure Routing where
  output : Option String := none
  display : Option String := none
  deriving DecidableEq, Repr

/-- An entered scope, with what was in force before it. -/
inductive Scope where
  | output (before : Option String)
  | display (before : Option String)
  deriving DecidableEq, Repr

/-- Whether routing objects are in place. -/
structure Installed where
  out : Bool := false
  err : Bool := false
  display : Bool := false
  deriving DecidableEq, Repr

/-- A context: what is in force in it and the scopes it has entered. -/
structure Context where
  routing : Routing := {}
  scopes : List Scope := []
  deriving DecidableEq, Repr

/-- Everything that is shared by the contexts of a process. -/
structure Terminal where
  /-- Whether the plain console is a terminal. -/
  interactive : Bool := false
  out : String := ""
  err : String := ""
  /-- Values shown by the plain display hook. -/
  echo : List Host := []
  buffers : List (String × Buffer) := []
  /-- Values shown by each named hook. -/
  hooks : List (String × List Host) := []
  installed : Installed := {}

/-- Why an operation on a stream or a scope failed. -/
inductive RoutingError where
  /-- The buffer is closed; whether it was to take a series of pieces. -/
  | closed (series : Bool)
  /-- There is no scope to leave. -/
  | noScope
  /-- There is no scope at that position. -/
  | noSuchScope
  /-- The stream has no attribute of that name. -/
  | noAttribute (console : Bool) (name : String)
  /-- A value to be printed has an integer with too many digits. -/
  | oversized
  deriving DecidableEq, Repr

/-- The wording of a routing error. -/
def RoutingError.message : RoutingError → String
  | .closed series => "I/O operation on closed file" ++ (if series then "." else "")
  | .noScope => "pop from empty list"
  | .noSuchScope => "pop index out of range"
  | .noAttribute console name =>
    "'" ++ (if console then "Console" else "_io.StringIO") ++ "' object has no attribute '" ++
      name ++ "'"
  | .oversized => Text.beyondDigitLimit ""

namespace Installed

/-- Whether the routing object of a stream is in place. -/
def stream (i : Installed) : Stream → Bool
  | .out => i.out
  | .err => i.err

end Installed

namespace Terminal

/-- The buffer of a name; one that is not known yet is empty. -/
def buffer (t : Terminal) (name : String) : Buffer :=
  (Assoc.find? (· == ·) name t.buffers).getD {}

/-- Replace the buffer of a name. -/
def setBuffer (t : Terminal) (name : String) (b : Buffer) : Terminal :=
  { t with buffers := Assoc.put (· == ·) name b t.buffers }

/-- Put routing objects in place where there are none. -/
def install (t : Terminal) : Terminal :=
  { t with installed := ⟨true, true, true⟩ }

/-- Where a stream of a context leads: the name of a buffer, or the plain
console. -/
def target (t : Terminal) (r : Routing) (s : Stream) : Option String :=
  if t.installed.stream s then r.output else none

/-- The text that the plain console has received on a stream. -/
def consoleText (t : Terminal) : Stream → String
  | .out => t.out
  | .err => t.err

/-- Add text to the plain console. -/
def writeConsole (t : Terminal) (s : Stream) (text : String) : Terminal :=
  match s with
  | .out => { t with out := t.out ++ text }
  | .err => { t with err := t.err ++ text }

/-- Write to a stream in a context. -/
def write (t : Terminal) (r : Routing) (s : Stream) (text : String) :
    Except RoutingError Unit × Terminal :=
  match t.target r s with
  | none => (.ok (), t.writeConsole s text)
  | some name =>
    let b := t.buffer name
    if b.closed then (.error (.closed false), t)
    else (.ok (), t.setBuffer name { b with text := b.text ++ text })

/-- Write pieces one after the other; a closed buffer is refused even when
there is nothing to write. -/
def writeAll (t : Terminal) (r : Routing) (s : Stream) (pieces : List String) :
    Except RoutingError Unit × Terminal :=
  match t.write r s (String.join pieces) with
  | (.error (.closed _), t) => (.error (.closed true), t)
  | result => result

/-- Whether a stream is a terminal in a context: only the plain console can be,
and only where no output scope is open. -/
def isInteractive (t : Terminal) (r : Routing) (s : Stream) : Bool :=
  if t.installed.stream s then r.output.isNone && t.interactive else t.interactive

/-- Display a value in a context. -/
def display (t : Terminal) (r : Routing) (h : Host) : Terminal :=
  match (if t.installed.display then r.display else none) with
  | none => { t with echo := t.echo ++ [h] }
  | some name =>
    let shown := (Assoc.find? (· == ·) name t.hooks).getD []
    { t with hooks := Assoc.put (· == ·) name (shown ++ [h]) t.hooks }

end Terminal

namespace Context

/-- Enter a scope in which output goes to a buffer. -/
def redirect (c : Context) (name : String) : Context :=
  ⟨{ c.routing with output := some name }, .output c.routing.output :: c.scopes⟩

/-- Enter a scope in which displayed values go to a hook. -/
def displayWith (c : Context) (name : String) : Context :=
  ⟨{ c.routing with display := some name }, .display c.routing.display :: c.scopes⟩

/-- What is in force after a scope is left. -/
def restore (r : Routing) : Scope → Routing
  | .output before => { r with output := before }
  | .display before => { r with display := before }

/-- Leave the innermost scope. -/
def leave (c : Context) : Except RoutingError Context :=
  match c.scopes with
  | [] => .error .noScope
  | scope :: rest => .ok ⟨restore c.routing scope, rest⟩

/-- The place, counted from the innermost scope, of a position that counts from
the outermost one, or from the innermost one when it is negative. -/
def placeOf? (depth : Nat) (position : Int) : Option Nat :=
  if 0 ≤ position then
    if position < depth then some (depth - 1 - position.toNat) else none
  else if -position ≤ depth then some (position.natAbs - 1)
  else none

/-- Leave the scope at a position, whatever scopes are inside it. -/
def leaveAt (c : Context) (position : Int) : Except RoutingError Context :=
  if c.scopes.isEmpty then .error .noScope
  else
    match placeOf? c.scopes.length position with
    | none => .error .noSuchScope
    | some place =>
      match c.scopes[place]? with
      | none => .error .noSuchScope
      | some scope => .ok ⟨restore c.routing scope, c.scopes.eraseIdx place⟩

end Context

end LiveSession
