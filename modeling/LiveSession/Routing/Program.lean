import LiveSession.Host.Text
import LiveSession.Routing

/-!
# Programs of routing operations

A program runs operations in a context. A part of it can run in a fresh
context, or in a copy of the current one; what such a part enters ends with
it. Every operation that is not such a part gives an answer, together with the
state of the shared terminal after it.
-/

namespace LiveSession.Routing

/-- One operation, or a part that runs in another context. -/
inductive Op where
  | install
  | redirect (buffer : String)
  | displayWith (hook : String)
  /-- Leave a scope: the innermost one, or the one at a position. -/
  | leave (position : Option Int)
  | write (stream : Stream) (text : String)
  | writeLines (stream : Stream) (lines : List String)
  | print (stream : Stream) (values : List Host) (separator ending : String)
  | flush (stream : Stream)
  | isInteractive (stream : Stream)
  /-- Use an attribute of a stream by its name. -/
  | call (stream : Stream) (member : String) (arguments : List String)
  | display (value : Host)
  | close (buffer : String)
  /-- Put the plain console back in the place of a stream. -/
  | replaceStream (stream : Stream)
  /-- Put the plain display hook back. -/
  | replaceHook
  /-- Run a part in a fresh context. -/
  | fresh (part : List Op)
  /-- Run a part in a copy of the context. -/
  | copied (part : List Op)

/-- What an operation gives. -/
inductive Answer where
  | none
  | flag (value : Bool)
  | flags (out err display : Bool)
  | count (n : Nat)
  /-- A number that is a value rather than a count. -/
  | position (n : Nat)
  | text (s : String)
  | failed (error : RoutingError)

/-- An answer and the terminal after it. -/
structure Observation where
  answer : Answer
  terminal : Terminal

/-- The answer of a write, with what to give when it succeeds. -/
def answerOf (result : Except RoutingError Unit × Terminal) (success : Answer) :
    Answer × Terminal :=
  match result with
  | (.ok (), t) => (success, t)
  | (.error e, t) => (.failed e, t)

/-- Use an attribute of what a stream leads to. -/
def useMember (t : Terminal) (r : Routing) (s : Stream) (member : String)
    (arguments : List String) : Answer × Terminal :=
  let name? := t.target r s
  let held := match name? with
    | some name => (t.buffer name).text
    | none => t.consoleText s
  let whenOpen (a : Answer) : Answer × Terminal :=
    match name? with
    | some name => if (t.buffer name).closed then (.failed (.closed false), t) else (a, t)
    | none => (a, t)
  match member with
  | "getvalue" => whenOpen (.text held)
  | "tell" => whenOpen (.position held.length)
  | "read" => whenOpen (.text "")
  | "readable" => whenOpen (.flag true)
  | "writable" => whenOpen (.flag true)
  | "seekable" => whenOpen (.flag true)
  | "flush" => (.none, t)
  | "isatty" => (.flag (t.isInteractive r s), t)
  | "write" =>
    let text := String.join arguments
    answerOf (t.write r s text) (.position text.length)
  | _ => (.failed (.noAttribute name?.isNone member), t)

/-- Run an operation that stays in its context. -/
def step (c : Context) (t : Terminal) : Op → Answer × Context × Terminal
  | .install =>
    (.flags t.installed.out t.installed.err t.installed.display, c, t.install)
  | .redirect name =>
    let c := c.redirect name
    (.count c.scopes.length, c, (t.install).setBuffer name (t.buffer name))
  | .displayWith name =>
    let c := c.displayWith name
    let shown := (Assoc.find? (· == ·) name t.hooks).getD []
    (.count c.scopes.length, c,
      { t.install with hooks := Assoc.put (· == ·) name shown t.hooks })
  | .leave position =>
    match position.elim c.leave c.leaveAt with
    | .ok c => (.flag false, c, t)
    | .error e => (.failed e, c, t)
  | .write s text =>
    let r := answerOf (t.write c.routing s text) (.count text.length)
    (r.1, c, r.2)
  | .writeLines s pieces =>
    let r := answerOf (t.writeAll c.routing s pieces) .none
    (r.1, c, r.2)
  | .print s values separator ending =>
    let printed := Host.print separator ending values
    let done := if printed.whole then Answer.none else .failed .oversized
    let r :=
      if printed.pieces.isEmpty then (done, t)
      else answerOf (t.write c.routing s (String.join printed.pieces)) done
    (r.1, c, r.2)
  | .flush _ => (.none, c, t)
  | .isInteractive s => (.flag (t.isInteractive c.routing s), c, t)
  | .call s member arguments =>
    let r := useMember t c.routing s member arguments
    (r.1, c, r.2)
  | .display h => (.none, c, t.display c.routing h)
  | .close name => (.none, c, t.setBuffer name { t.buffer name with closed := true })
  | .replaceStream .out => (.none, c, { t with installed := { t.installed with out := false } })
  | .replaceStream .err => (.none, c, { t with installed := { t.installed with err := false } })
  | .replaceHook => (.none, c, { t with installed := { t.installed with display := false } })
  | .fresh _ => (.none, c, t)
  | .copied _ => (.none, c, t)

mutual

/-- Run one operation; a part in another context gives the observations of its
own operations. -/
def runOp (c : Context) (t : Terminal) : Op → List Observation × Context × Terminal
  | .fresh part =>
    let done := runAll {} t part
    (done.1, c, done.2)
  | .copied part =>
    let done := runAll ⟨c.routing, []⟩ t part
    (done.1, c, done.2)
  | op =>
    let done := step c t op
    ([⟨done.1, done.2.2⟩], done.2.1, done.2.2)

/-- Run operations one after the other. -/
def runAll (c : Context) (t : Terminal) : List Op → List Observation × Terminal
  | [] => ([], t)
  | op :: rest =>
    let first := runOp c t op
    let others := runAll first.2.1 first.2.2 rest
    (first.1 ++ others.1, others.2)

end

end LiveSession.Routing
