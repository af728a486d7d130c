import LiveSession.Engine
import LiveSession.Host.Elements
import LiveSession.Host.Quotient
import LiveSession.Host.Text
import LiveSession.Script.Builtin
import LiveSession.Script.Statement

/-!
# Running a script

A script runs over the names that are bound. Evaluating an expression gives a value or
stops the script, and on the way it can write and, where something is called, bind names.
The value of an expression statement is echoed: written and bound to the underscore
unless it is null, or, where nothing is echoed, handed to the surroundings. A script is
stopped by an error, by the exit of the environment or by an interruption.

The printing routine, the type of progressions, the errors and what leaves the environment
are values that can be called. What a call of anything else does is up to the
surroundings: it can write, bind names, give a value or stop the script.
-/

namespace LiveSession.Script

/-- An error and the line where it arose. -/
structure Failure where
  label : String
  message : String
  line : Nat
  /-- The places inside what was called on the line, as they are written. -/
  inner : String := ""
  deriving DecidableEq, Repr

/-- What stops a script before its end. -/
inductive Stop where
  /-- An error. -/
  | failed (failure : Failure)
  /-- The exit of the environment, with the text of its status; `none` where an integer
  in it has too many digits to be written. -/
  | exited (status : Option String)
  /-- An interruption. -/
  | interrupted (label : String) (details : List String)
  deriving DecidableEq, Repr

/-- What a call came to. -/
structure Called where
  /-- The value, or what stopped the script. -/
  result : Except Stop Host
  /-- The names that are bound then. -/
  names : Names
  /-- What was sent to the surroundings, in order. -/
  emissions : List Emission

/-- What the engine finds around it. -/
structure Surroundings where
  /-- Call a value with arguments, on a line and with the names that are bound. -/
  call (line : Nat) (callee : Host) (arguments : List Host) (names : Names) : Called
  /-- The place where values are echoed, as it is written among the places of an error. -/
  echoPlace : String

/-- Surroundings in which a call gives nothing and does nothing. -/
def Surroundings.silent : Surroundings where
  call _ _ _ names := ⟨.ok .null, names, []⟩
  echoPlace := ""

/-- What running a part of a script came to. -/
structure Run (α : Type) where
  /-- A value, or what stopped the script. -/
  result : Except Stop α
  /-- The names that are bound then. -/
  names : Names
  /-- What was sent to the surroundings, in order. -/
  emissions : List Emission
  /-- The names that calls bound. -/
  called : List String

namespace Run

variable {α β : Type}

/-- Nothing but a result. -/
def still (result : Except Failure α) (names : Names) : Run α :=
  ⟨result.mapError .failed, names, [], []⟩

/-- Stop at an error. -/
def fail (f : Failure) (names : Names) : Run α :=
  ⟨.error (.failed f), names, [], []⟩

/-- Go on with the value, unless the script was stopped. -/
def andThen (r : Run α) (next : α → Names → Run β) : Run β :=
  match r.result with
  | .error stop => ⟨.error stop, r.names, r.emissions, r.called⟩
  | .ok v =>
    let s := next v r.names
    ⟨s.result, s.names, r.emissions ++ s.emissions, r.called ++ s.called⟩

end Run

/-- A type error at a line. -/
def typeError (line : Nat) (message : String) : Failure :=
  ⟨"TypeError", message, line, ""⟩

/-- The value of a name. -/
def valueOf (names : Names) (line : Nat) (name : String) : Except Failure Host :=
  match names.resolve? name with
  | some v => .ok v
  | none => .error ⟨"NameError", "name '" ++ name ++ "' is not defined", line, ""⟩

/-- A key, unless it cannot be one. -/
def keyAt (line : Nat) (k : Host) : Except Failure Host :=
  match k.hashDefect? with
  | some defect => .error (typeError line defect)
  | none => .ok k

/-- The mapping of evaluated entries; it fails at the first key that cannot be
one. -/
def mappingAt (line : Nat) (entries : List (Host × Host)) : Except Failure Host :=
  (Host.mapping? .plain entries).mapError (typeError line)

/-- The set of evaluated members, which all have to be keys. -/
def setAt (line : Nat) (members : List Host) : Except Failure Host :=
  (Host.set? .set members).mapError (typeError line)

/-- The negative of a value. -/
def negativeAt (line : Nat) (h : Host) : Except Failure Host :=
  match h.negative? with
  | some n => .ok n
  | none =>
    .error (typeError line ("bad operand type for unary -: '" ++ h.qualifiedTypeName ++ "'"))

/-- The quotient of two values. -/
def quotientAt (line : Nat) (a b : Host) : Except Failure Host :=
  match a.quotient b with
  | .ok q => .ok q
  | .error e => .error ⟨e.label, e.message, line, ""⟩

/-- A value cannot be written, as an integer in it has too many digits. -/
def unwritable (line : Nat) : Failure :=
  ⟨"ValueError", Text.beyondDigitLimit "", line, ""⟩

/-- What an error is raised with, as one value: nothing, the argument itself, or
all arguments together. -/
def raisedWith : List Host → Option Host
  | [] => none
  | [v] => some v
  | vs => some (.sequence .tuple vs)

/-- What is written in the place of a message that cannot be written. -/
def unwrittenMessage : String := "<exception str() failed>"

/-- The message of an error that is raised with arguments; a missing key is written in
quotes. There is none where an integer in it has too many digits. -/
def errorText? (error : String) (arguments : List Host) : Option String :=
  match raisedWith arguments with
  | none => some ""
  | some v => if error = "KeyError" then v.quoted? else v.printed?

/-- An error that is made with arguments. -/
def errorMade (error : String) (arguments : List Host) : Entity where
  kind := .shell
  typeName := error
  shown := error ++ "(" ++ String.intercalate ", " (arguments.map Host.quoted) ++ ")"
  printed := (errorText? error arguments).getD unwrittenMessage
  oversized := arguments.any Host.oversized
  oversizedText := (errorText? error arguments).isNone

/-- The error that a value is, or that it makes without arguments. -/
def raisable? (v : Host) : Option Entity :=
  match Builtin.error? v, v with
  | some error, _ => some (errorMade error [])
  | none, .entity o =>
    if o.kind = .shell && Builtin.errorNames.contains o.typeName then some o else none
  | none, _ => none

/-- The whole number that a value stands for. -/
def integerAt (line : Nat) (v : Host) : Except Failure Int :=
  match v.integer? with
  | some n => .ok n
  | none =>
    .error (typeError line
      ("'" ++ v.qualifiedTypeName ++ "' object cannot be interpreted as an integer"))

/-- The arithmetic progression of one, two or three numbers. -/
def progressionAt (line : Nat) : List Host → Except Failure Host
  | [] => .error (typeError line "range expected at least 1 argument, got 0")
  | [stop] => do
    return .range 0 (← integerAt line stop) 1
  | [start, stop] => do
    return .range (← integerAt line start) (← integerAt line stop) 1
  | [start, stop, step] => do
    let start ← integerAt line start
    let stop ← integerAt line stop
    let step ← integerAt line step
    if step = 0 then .error ⟨"ValueError", "range() arg 3 must not be zero", line, ""⟩
    else return .range start stop step
  | arguments =>
    .error (typeError line
      ("range expected at most 3 arguments, got " ++ Text.decimalText arguments.length))

/-- Whether a value is a certain entity. -/
def isEntity (o : Entity) : Host → Bool
  | .entity e => e == o
  | _ => false

/-- Whether a value leaves the environment when it is called. -/
def isQuitter (h : Host) : Bool :=
  Builtin.quitterNames.any fun name => isEntity (Builtin.quitter name) h

/-- Leave the environment with what was given for a status, which is null if nothing
was. -/
def quitWith (line : Nat) : List Host → Stop
  | [] => .exited (some Host.null.text)
  | [status] => .exited status.printed?
  | arguments =>
    .failed (typeError line
      ("Quitter.__call__() takes from 1 to 2 positional arguments but " ++
        Text.decimalText (arguments.length + 1) ++ " were given"))

/-- Write values, as the printing routine does. -/
def printAt (line : Nat) (values : List Host) (names : Names) : Run Host :=
  let p := Host.print " " "\n" values
  ⟨if p.whole then .ok .null else .error (.failed (unwritable line)), names,
    p.pieces.map (.text .out), []⟩

/-- The names that are bound after something and were not before it. -/
def newNames (before after : Names) : List String :=
  (Assoc.keys after).filter fun name => !(Assoc.keys before).contains name

/-- Leave a call to the surroundings. -/
def callAround (around : Surroundings) (line : Nat) (callee : Host) (arguments : List Host)
    (names : Names) : Run Host :=
  let c := around.call line callee arguments names
  ⟨c.result, c.names, c.emissions, newNames names c.names⟩

/-- Call a value. -/
def callAt (around : Surroundings) (line : Nat) (callee : Host) (arguments : List Host)
    (names : Names) : Run Host :=
  if isEntity Builtin.print callee then printAt line arguments names
  else if isEntity Builtin.range callee then .still (progressionAt line arguments) names
  else if isQuitter callee then ⟨.error (quitWith line arguments), names, [], []⟩
  else
    match Builtin.error? callee with
    | some error => .still (.ok (.entity (errorMade error arguments))) names
    | none =>
      if callee.calling = .never then
        .fail (typeError line ("'" ++ callee.qualifiedTypeName ++ "' object is not callable")) names
      else callAround around line callee arguments names

/-- The entries of a long display are put into the mapping in groups of this
size; what is left over is put in at the end, or entry by entry as well where
only one entry is missing. -/
def displayGroup : Nat := 17

/-- How many entries of a display are put into the mapping one by one, each as
soon as it is evaluated. -/
def eagerCount (n : Nat) : Nat :=
  if n % displayGroup + 1 = displayGroup then n else n - n % displayGroup

section Evaluate

variable (around : Surroundings)

mutual

/-- Evaluate an expression, operands from left to right. -/
def evaluate (names : Names) : Expression → Run Host
  | .constant v => .still (.ok v) names
  | .name name line => .still (valueOf names line name) names
  | .negation operand line =>
    (evaluate names operand).andThen fun v names => .still (negativeAt line v) names
  | .quotient dividend divisor line =>
    (evaluate names dividend).andThen fun a names =>
      (evaluate names divisor).andThen fun b names => .still (quotientAt line a b) names
  | .call callee arguments line =>
    (evaluate names callee).andThen fun f names =>
      (evaluateAll names arguments).andThen fun values names =>
        callAt around line f values names
  | .list items =>
    (evaluateAll names items).andThen fun values names => .still (.ok (.list values)) names
  | .tuple items =>
    (evaluateAll names items).andThen fun values names =>
      .still (.ok (.sequence .tuple values)) names
  | .set items line =>
    (evaluateAll names items).andThen fun values names => .still (setAt line values) names
  | .mapping entries line =>
    (evaluateEntries line (eagerCount entries.length) names entries).andThen fun pairs names =>
      .still (mappingAt line pairs) names

/-- Evaluate expressions one after the other. -/
def evaluateAll (names : Names) : List Expression → Run (List Host)
  | [] => .still (.ok []) names
  | e :: rest =>
    (evaluate names e).andThen fun v names =>
      (evaluateAll names rest).andThen fun vs names => .still (.ok (v :: vs)) names

/-- Evaluate keys and values one after the other; the first of them are put in
as soon as they are evaluated, for which the key has to be one. -/
def evaluateEntries (line eager : Nat) (names : Names) :
    List (Expression × Expression) → Run (List (Host × Host))
  | [] => .still (.ok []) names
  | (key, value) :: rest =>
    (evaluate names key).andThen fun k names =>
      (evaluate names value).andThen fun v names =>
        (Run.still (if eager = 0 then .ok k else keyAt line k) names).andThen fun k names =>
          (evaluateEntries line (eager - 1) names rest).andThen fun es names =>
            .still (.ok ((k, v) :: es)) names

end

end Evaluate

/-- Echo the value of an expression statement. -/
def echo (around : Surroundings) (echoes : Bool) (line : Nat) (v : Host) (names : Names) :
    Run Unit :=
  if echoes then
    match v with
    | .null => .still (.ok ()) names
    | v =>
      let names := Assoc.put (· == ·) "_" v names
      match v.quoted? with
      | some shown => ⟨.ok (), names, [.text .out (shown ++ "\n")], []⟩
      | none => .fail { unwritable line with inner := around.echoPlace } names
  else ⟨.ok (), names, [.display v], []⟩

/-- What a script is stopped by that raises an error. -/
def Stop.ofError (o : Entity) (line : Nat) : Stop :=
  let isBare := o.shown = o.typeName ++ "()"
  if o.typeName = "SystemExit" then
    .exited (if isBare then some Host.null.text else (Host.entity o).printed?)
  else if Builtin.interruptionNames.contains o.typeName then
    .interrupted o.typeName (if isBare then [] else [o.printed])
  else .failed ⟨o.typeName, o.printed, line, ""⟩

/-- What a script is stopped by that raises a value. -/
def Stop.ofRaised (v : Host) (line : Nat) : Stop :=
  match raisable? v with
  | some o => .ofError o line
  | none => .failed (typeError line "exceptions must derive from BaseException")

/-- What a script is stopped by that raises what is being handled, which is nothing. -/
def Stop.ofNothing (line : Nat) : Stop :=
  .failed ⟨"RuntimeError", "No active exception to reraise", line, ""⟩

/-- Bind a value to names one after the other. -/
def bindAll (value : Host) : List String → Names → Names
  | [], names => names
  | n :: rest, names => bindAll value rest (Assoc.put (· == ·) n value names)

/-- Repeat something a number of times, each time with the next number of a
progression bound to the counter, which stays bound. -/
def countOver (counter : String) (body : Names → Run Unit) (number step : Int) :
    Nat → Names → Run Unit
  | 0, names => .still (.ok ()) names
  | times + 1, names =>
    (body (Assoc.put (· == ·) counter (.int number) names)).andThen fun _ names =>
      countOver counter body (number + step) step times names

/-- Repeat something for every one of some elements, each of them bound to the
counter in turn. -/
def goThrough (counter : String) (body : Names → Run Unit) : List Host → Names → Run Unit
  | [], names => .still (.ok ()) names
  | v :: rest, names =>
    (body (Assoc.put (· == ·) counter v names)).andThen fun _ names =>
      goThrough counter body rest names

/-- Repeat something over a value, if it can be gone through. -/
def runOver (counter : String) (body : Names → Run Unit) (line : Nat) (v : Host) (names : Names) :
    Run Unit :=
  match v with
  | .range start stop step =>
    countOver counter body start step (Host.rangeLength start stop step) names
  | v =>
    match v.elements? with
    | some elements => goThrough counter body elements names
    | none =>
      .fail (typeError line ("'" ++ v.qualifiedTypeName ++ "' object is not iterable")) names

section Statements

variable (around : Surroundings) (echoes : Bool)

mutual

/-- Run a statement. -/
def runStatement (names : Names) : Statement → Run Unit
  | .assign targets e =>
    (evaluate around names e).andThen fun v names => .still (.ok ()) (bindAll v targets names)
  | .evaluate e line => (evaluate around names e).andThen (echo around echoes line)
  | .raise (some e) line =>
    (evaluate around names e).andThen fun v names => ⟨.error (.ofRaised v line), names, [], []⟩
  | .raise none line => ⟨.error (.ofNothing line), names, [], []⟩
  | .pass => .still (.ok ()) names
  | .loop counter elements line body =>
    (evaluate around names elements).andThen
      (runOver counter (fun names => runBody names body) line)

/-- Run statements one after the other. -/
def runBody (names : Names) : List Statement → Run Unit
  | [] => .still (.ok ()) names
  | s :: rest => (runStatement names s).andThen fun _ names => runBody names rest

end

end Statements

end LiveSession.Script
