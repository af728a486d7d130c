import LiveSession.Script.Grammar
import LiveSession.Script.Run
import LiveSession.Script.Suggestion
import LiveSession.Text.Slice

/-!
# The engine of scripts

The engine keeps one namespace from its start until it is closed or a script
exits; every start makes a new one. A script that fails writes what happened:
the kind of error and its message, then the place. While a submission runs
the values of expression statements are echoed. The first script that is run
binds the name of the built-in functions.
-/

namespace LiveSession.Script

/-- The state of the engine. -/
structure State where
  /-- The names that are bound, while the engine is started. -/
  names : Option Names := none
  /-- Whether values of expression statements are echoed. -/
  echoes : Bool := false

namespace State

/-- The names that scripts and suggestions see. -/
def visible (s : State) : Names :=
  s.names.getD []

/-- Keep names, if the engine is started. -/
def keep (names : Names) (s : State) : State :=
  { s with names := s.names.map fun _ => names }

end State

/-- The names of a new namespace. -/
def freshNames : Names :=
  [("__name__", .string "__console__"), ("__doc__", .null)]

/-- Bind the name of the built-in functions, unless it is bound. -/
def withBuiltins (names : Names) : Names :=
  if (Assoc.find? (· == ·) Builtin.selfName names).isSome then names
  else names ++ [(Builtin.selfName, Builtin.self)]

/-- Something was asked of a namespace that is not there. -/
def noNamespace (what : String) : Fault :=
  ⟨"TypeError", .ordinary, ["'NoneType' object " ++ what]⟩

/-- What is written for a failure. -/
def Failure.text (source : String) (f : Failure) : String :=
  (if f.message.isEmpty then f.label else f.label ++ ": " ++ f.message) ++ "\n" ++
    "  File \"" ++ source ++ "\", line " ++ Text.decimalText f.line ++ ", in <module>\n" ++ f.inner

/-- What is raised where a script exits: the abort of the session with the status of the
exit, or an error where the status cannot be written. -/
def exitFault : Option String → Fault
  | some status => ⟨"InterpreterAborted", .abort, ["session exited with status " ++ status]⟩
  | none => ⟨"ValueError", .ordinary, [Text.beyondDigitLimit ""]⟩

/-- The result of a script that was run. -/
def conclude (source : String) (s : State) (r : Run Unit) : Interpretation State :=
  match r.result with
  | .ok () => ⟨.ok .success, r.emissions, s.keep r.names⟩
  | .error (.failed f) =>
    ⟨.ok .error, r.emissions ++ [.text .out (f.text source)], s.keep r.names⟩
  | .error (.exited status) => ⟨.error (exitFault status), r.emissions, { s with names := none }⟩
  | .error (.interrupted label details) =>
    ⟨.error ⟨label, .interruption, details⟩, r.emissions, s.keep r.names⟩

/-- Interpret a text; errors are written under the name of its source. -/
def interpret (source : String) (around : Surroundings) (code : String) (s : State) :
    Interpretation State :=
  let cs := code.toList
  let names := withBuiltins s.visible
  match Reading.ofText cs with
  | .nothing => ⟨.ok .success, [], s.keep names⟩
  | .unfinished => ⟨.ok .incomplete, [], s⟩
  | .rejected r => ⟨.ok .error, [.text .out (r.text source)], s⟩
  | .script body => conclude source s (runBody around s.echoes names body)

/-- The value bound to a name. -/
def lookup (name : String) (s : State) : Outcome State Host :=
  match s.names with
  | none => (.error (noNamespace "is not subscriptable"), s)
  | some names =>
    match Assoc.find? (· == ·) name names with
    | some v => (.ok v, s)
    | none => (.error (.unbound name), s)

/-- Bind a name. -/
def bind (name : String) (value : Host) (s : State) : Outcome State Unit :=
  match s.names with
  | none => (.error (noNamespace "does not support item assignment"), s)
  | some names => (.ok (), { s with names := some (Assoc.put (· == ·) name value names) })

/-- The bound names in order, those that start with two underscores left out. -/
def listNames (s : State) : Except Fault (List String) :=
  match s.names with
  | none => .error (noNamespace "is not iterable")
  | some names =>
    .ok (((Assoc.keys names).filter (!beginsWith ['_', '_'] ·)).mergeSort
      fun a b => decide (a ≤ b))

/-- Suggestions for the text before a cursor. Following a path binds the name
of the built-in functions, as running a script does. -/
def suggest (code : String) (cursor : Int) (s : State) : Outcome State (List String) :=
  let word := pathBefore (takeUpTo cursor code.toList)
  if word.isEmpty then (.ok [], s)
  else if word.contains '.' then
    match pathOf word with
    | none => (.ok [], s)
    | some (path, start) =>
      (.ok (pathSuggestions s.visible path start), s.keep (withBuiltins s.visible))
  else (.ok (wordSuggestions s.visible word), s)

/-- The engine of scripts from a source of the given name. -/
def engine (source : String) (around : Surroundings) : Engine State where
  kind := "python"
  start s := (.ok (), { s with names := some freshNames })
  isStarted s := (.ok s.names.isSome, s)
  interpret _ code s := interpret source around code s
  lookup := lookup
  bind := bind
  close s := (.ok (), { s with names := none })
  complete := suggest
  wrapBlock code s := (.ok (code ++ "\n"), s)
  enter s := (.ok (), { s with echoes := true })
  leave s := (.ok (), { s with echoes := false })

end LiveSession.Script
