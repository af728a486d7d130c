import LiveSession.Engine
import LiveSession.Host.Tagged
import LiveSession.Text.Slice

/-!
# Rehearsed engines

A rehearsed engine runs no language: a script says for every text what happens
when it is interpreted, one outcome after the other, the last one for good. A
plan says what else is unusual about the engine: operations that raise, a
start or a close without effect, another block, suggestions, and what
decomposition answers.
-/

namespace LiveSession.Rehearsal

/-- Something a rehearsed statement does. -/
inductive Act where
  | write (stream : Stream) (text : String)
  | display (value : Host)
  | bind (name : String) (value : Host)
  | unbind (name : String)
  /-- The engine counts as not started from here on. -/
  | stop
  /-- Write whether the output is a terminal; captured output never is. -/
  | askTerminal
  /-- Write the text captured so far between brackets. -/
  | readBack

/-- What happens when a text is interpreted. -/
structure Outcome where
  acts : List Act := []
  verdict : Except Fault Verdict := .ok .success

/-- What decomposition answers. -/
inductive Decomposition where
  /-- The structured value of the value. -/
  | structured
  /-- Nothing. -/
  | nothing
  /-- The value as it is. -/
  | unchanged
  /-- A fault. -/
  | raises (fault : Fault)

/-- What is fixed about a rehearsed engine. -/
structure Plan where
  kind : String := "generic"
  /-- What happens to a text that is not in the script. -/
  otherwise : Outcome := {}
  startFault : Option Fault := none
  startsNever : Bool := false
  closesNever : Bool := false
  lookupFaults : List (String × Fault) := []
  bindFaults : List (String × Fault) := []
  /-- Suggestions, in which a pair of braces stands for the text before the
  cursor. -/
  candidates : List String := []
  decomposition : Decomposition := .structured
  /-- The two ends of a wrapped block, if they are not the usual ones. -/
  block : Option (String × String) := none
  /-- Whether displayed values are written to the output while a submission
  runs. -/
  writesDisplays : Bool := false

/-- The state of a rehearsed engine. -/
structure State where
  started : Bool := false
  bindings : List (String × Host) := []
  /-- The outcomes that are left for each text. -/
  script : List (String × List Outcome) := []
  /-- The texts interpreted so far. -/
  calls : List String := []

namespace State

/-- The next outcome for a text; the last one stays. -/
def next (plan : Plan) (code : String) (s : State) : Outcome × State :=
  match Assoc.find? (· == ·) code s.script with
  | none => (plan.otherwise, s)
  | some [] => (plan.otherwise, s)
  | some [outcome] => (outcome, s)
  | some (outcome :: rest) =>
    (outcome, { s with script := Assoc.put (· == ·) code rest s.script })

/-- Replace the outcomes for a text. -/
def rescript (code : String) (outcomes : List Outcome) (s : State) : State :=
  { s with script := Assoc.put (· == ·) code outcomes s.script }

end State

/-- The text that is written for a displayed value. -/
def displayText (h : Host) : Except TagError String :=
  h.tagged.map fun t => "<" ++ t.write ++ ">\n"

/-- The fault of a value that cannot be written. -/
def displayFault (e : TagError) : Fault :=
  ⟨e.label, .ordinary, [e.message]⟩

/-- What doing acts came to. -/
structure Performance where
  /-- The fault that cut the acts off. -/
  fault : Option Fault := none
  emissions : List Emission
  state : State

/-- Do the acts of an outcome; the captured text grows with what is written. -/
def perform (plan : Plan) (captured : String) :
    List Act → State → List Emission → Performance
  | [], s, emitted => { emissions := emitted, state := s }
  | act :: rest, s, emitted =>
    let write (stream : Stream) (t : String) :=
      perform plan (captured ++ t) rest s (emitted ++ [.text stream t])
    match act with
    | .write stream t => write stream t
    | .display h =>
      if plan.writesDisplays then
        match displayText h with
        | .ok t => write .out t
        | .error e => ⟨some (displayFault e), emitted, s⟩
      else perform plan captured rest s (emitted ++ [.display h])
    | .bind name h =>
      perform plan captured rest
        { s with bindings := Assoc.put (· == ·) name h s.bindings } emitted
    | .unbind name =>
      perform plan captured rest
        { s with bindings := Assoc.erase (· == ·) name s.bindings } emitted
    | .stop => perform plan captured rest { s with started := false } emitted
    | .askTerminal => write .out "False"
    | .readBack => write .out ("[" ++ captured ++ "]")

/-- Interpret a text as the script says. -/
def interpret (plan : Plan) (captured code : String) (s : State) : Interpretation State :=
  let next := { s with calls := s.calls ++ [code] }.next plan code
  let performed := perform plan captured next.1.acts next.2 []
  match performed.fault with
  | some f => ⟨.error f, performed.emissions, performed.state⟩
  | none => ⟨next.1.verdict, performed.emissions, performed.state⟩

/-- Put a text in the place of every pair of braces. -/
def fillBraces (text : List Char) : List Char → List Char
  | '\x7b' :: '\x7d' :: rest => text ++ fillBraces text rest
  | c :: rest => c :: fillBraces text rest
  | [] => []

/-- The rehearsed engine of a plan. -/
def engine (plan : Plan) : Engine State where
  kind := plan.kind
  start s :=
    match plan.startFault with
    | some f => (.error f, s)
    | none => (.ok (), { s with started := !plan.startsNever })
  isStarted s := (.ok s.started, s)
  interpret := interpret plan
  lookup name s :=
    match Assoc.find? (· == ·) name plan.lookupFaults with
    | some f => (.error f, s)
    | none =>
      match Assoc.find? (· == ·) name s.bindings with
      | some h => (.ok h, s)
      | none => (.error (.unbound name), s)
  bind name h s :=
    match Assoc.find? (· == ·) name plan.bindFaults with
    | some f => (.error f, s)
    | none => (.ok (), { s with bindings := Assoc.put (· == ·) name h s.bindings })
  close s := (.ok (), if plan.closesNever then s else { s with started := false })
  complete code cursor s :=
    let before := takeUpTo cursor code.toList
    (.ok (plan.candidates.map fun c => String.ofList (fillBraces before c.toList)), s)
  decompose h s :=
    match plan.decomposition with
    | .structured =>
      match h.decompose with
      | .ok v => (.ok (some (.structured v)), s)
      | .error e => (.error e.fault, s)
    | .nothing => (.ok none, s)
    | .unchanged =>
      match h with
      | .null => (.ok none, s)
      | _ => (.ok (some (.ofHost h)), s)
    | .raises f => (.error f, s)
  wrapBlock code s :=
    match plan.block with
    | none => (.ok ("\x7b\n" ++ code ++ "\n\x7d"), s)
    | some (opening, closing) => (.ok (opening ++ code ++ closing), s)

end LiveSession.Rehearsal
