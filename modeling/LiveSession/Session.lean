import LiveSession.Magic.Dispatch
import LiveSession.Settings
import LiveSession.Submission
import LiveSession.Transcript

/-!
# Sessions

A session is an engine with settings. Starting it starts the engine, binds
names and runs the startup statements; executing a submission runs its lines,
magics apart, on the engine and gives one response; closing it closes the
engine and drops captured text.

While a statement is interpreted output is redirected to the capture buffer,
which is read after the statement whatever became of it, unless an
interruption passes through. While a submission runs the session is busy and
the engine's context is entered; both end with the submission, however it
ends.
-/

namespace LiveSession.Session

variable {σ : Type}

/-- Interpret a statement with output redirected to the capture buffer. -/
def interpretRedirected (e : Engine σ) (code : String) (s : Session σ) :
    Except Fault Verdict × Session σ :=
  let before := s.redirected
  let step := e.interpret s.captured code s.engine
  let delivered := { s with engine := step.state, redirected := true }.deliver step.emissions
  (step.verdict, { delivered with redirected := before })

/-- The response to a verdict, given the text of the statement. -/
def respond (verdict : Verdict) (output : String) : Response :=
  match verdict with
  | .success => .plainText output
  | .incomplete => .incomplete
  | _ =>
    let transcript := Transcript.ofText output
    .error "Error" transcript.name transcript.traceback

/-- Interpret a text as a statement. -/
def interpret (e : Engine σ) (code : String) (s : Session σ) : Result σ Response :=
  let announced := s.report .debug .pipeline ("interpreting " ++ Text.quote code)
  match interpretRedirected e code announced with
  | (.error f, s) =>
    if f.interrupts then (.error (.fault f), s)
    else if f.nature = .abort then (.ok (.aborted f.message), s.drain.2)
    else
      (.ok (.aborted (f.label ++ ": " ++ f.message)),
        s.drain.2.report .error .pipeline
          (e.kind ++ " engine failed while interpreting a statement"))
  | (.ok verdict, s) => (.ok (respond verdict s.drain.1), s.drain.2)

/-- Attempt a text: a magic line is run as a magic, any other text is
interpreted. -/
def attempt (e : Engine σ) (limit : Int) (code : String) (s : Session σ) : Result σ Response :=
  match Magic.ofLine? code with
  | some m => Magic.dispatch e limit m s
  | none => interpret e code s

/-- Run the lines of a submission. -/
def runLines (e : Engine σ) (limit : Int) (code : String) (s : Session σ) : Result σ Response :=
  Submission.run (attempt e limit) (fun block => call (e.wrapBlock block)) .unmerged
    (Submission.lines code) s

/-- Run an operation inside the engine's context; it is left again in every
case, and a fault in leaving it takes the place of the result. -/
def inContext {α : Type} (e : Engine σ) (body : Session σ → Result σ α) (s : Session σ) :
    Result σ α :=
  match call e.enter s with
  | (.error escape, s) => (.error escape, s)
  | (.ok (), s) =>
    let done := body { s with entered := s.entered + 1 }
    match call e.leave { done.2 with left := done.2.left + 1 } with
    | (.error escape, s) => (.error escape, s)
    | (.ok (), s) => (done.1, s)

/-- Run an operation while the session counts as busy. -/
def exclusively {α : Type} (body : Session σ → Result σ α) (s : Session σ) : Result σ α :=
  let done := body { s with busy := true }
  (done.1, { done.2 with busy := false })

/-- Execute a submission. -/
def execute (e : Engine σ) (limit : Int) (code : String) (s : Session σ) : Result σ Response :=
  match call e.isStarted s with
  | (.error escape, s) => (.error escape, s)
  | (.ok false, s) => (.error .notStarted, s)
  | (.ok true, s) => exclusively (inContext e (runLines e limit code)) s

/-- Bind names one after the other. -/
def bindAll (e : Engine σ) : List (String × Host) → Session σ → Result σ Unit
  | [], s => (.ok (), s)
  | (name, h) :: rest, s =>
    match call (e.bind name h) s with
    | (.error escape, s) => (.error escape, s)
    | (.ok (), s) => bindAll e rest s

/-- Run the startup statements; each is reported with its status. -/
def runStartup (e : Engine σ) (limit : Int) : List String → Session σ → Result σ Unit
  | [], s => (.ok (), s)
  | statement :: rest, s =>
    match execute e limit statement s with
    | (.error escape, s) => (.error escape, s)
    | (.ok response, s) =>
      runStartup e limit rest
        (s.report .info .pipeline
          ("startup statement " ++ Text.quote statement ++ " finished with status " ++
            response.status))

/-- Start the engine, bind names and run the startup statements. -/
def start (e : Engine σ) (settings : Settings) (bindings : List (String × Host))
    (s : Session σ) : Result σ Unit :=
  match call e.start s with
  | (.error escape, s) => (.error escape, s)
  | (.ok (), s) =>
    match bindAll e (Assoc.ofList (· == ·) bindings) s with
    | (.error escape, s) => (.error escape, s)
    | (.ok (), s) =>
      match runStartup e settings.sampleLimit settings.startupStatements s with
      | (.error escape, s) => (.error escape, s)
      | (.ok (), s) => (.ok (), s.report .info .pipeline (e.kind ++ " session started"))

/-- Close the engine and drop captured text. -/
def close (e : Engine σ) (s : Session σ) : Result σ Unit :=
  match call e.close s with
  | (.error escape, s) => (.error escape, s)
  | (.ok (), s) => (.ok (), s.drain.2.report .info .pipeline (e.kind ++ " session closed"))

/-- Suggestions for the text before a cursor. -/
def complete (e : Engine σ) (code : String) (cursor : Int) (s : Session σ) :
    Result σ (List String) :=
  call (e.complete code cursor) s

/-- Interpret a text by itself: no capture, no context, no response. -/
def interpretAlone (e : Engine σ) (code : String) (s : Session σ) : Result σ Verdict :=
  let step := e.interpret s.captured code s.engine
  let delivered := { s with engine := step.state }.deliver step.emissions
  match step.verdict with
  | .ok verdict => (.ok verdict, delivered)
  | .error f => (.error (.fault f), delivered)

end LiveSession.Session
