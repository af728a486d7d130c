import LiveSession.Routing.Program

/-!
# Programs that run side by side

A process runs a program in each of its contexts, one step of one of them at a
time. A program sends text and values to its surroundings, does parts of itself
inside scopes, raises and handles. What is left of it is a list: the actions to
come, and between them the ends of the scopes that are open, innermost first.
When something is raised the actions up to the next handler are dropped, but the
scopes that end before it are left all the same.

A hook that is shown a value can do anything that a program can, in the context
of the program that showed it; what it does is said with the step, and so is what
is raised from outside.
-/

namespace LiveSession.Routing

/-- A scope that a program can open. -/
inductive Opening where
  | output (buffer : String)
  | display (hook : String)
  deriving DecidableEq, Repr

namespace Opening

/-- The operation by which a scope is entered. -/
def op : Opening → Op
  | .output name => .redirect name
  | .display name => .displayWith name

/-- The buffer that an output scope sends text to. -/
def buffer? : Opening → Option String
  | .output name => some name
  | .display _ => none

/-- The hook that a display scope sends values to. -/
def hook? : Opening → Option String
  | .output _ => none
  | .display name => some name

end Opening

/-- What a program can do. -/
inductive Action where
  | emit (emission : Emission)
  /-- Do something inside a scope. -/
  | inside (opening : Opening) (body : List Action)
  /-- Do something and handle what it raises. -/
  | guarded (body : List Action)
  | raise

/-- What a program is about to do. -/
inductive Pending where
  | action (action : Action)
  /-- Leave a scope. -/
  | close (opening : Opening)
  /-- Stop what is raised. -/
  | handler

/-- A context and what is left of the program that runs in it. -/
structure Thread where
  context : Context := {}
  pending : List Pending := []
  /-- Whether something was raised and is not handled yet. -/
  raising : Bool := false

/-- Something that was sent, and where it has to arrive: in a buffer or at a hook,
or at the plain console. -/
structure Posting where
  emission : Emission
  destination : Option String

/-- The operation that sends an emission. -/
def sending : Emission → Op
  | .text s text => .write s text
  | .display h => .display h

/-- The scopes that are open, innermost first. -/
def openings (pending : List Pending) : List Opening :=
  pending.filterMap fun
    | .close opening => some opening
    | _ => none

/-- Where text has to arrive that is written inside scopes. -/
def bufferOf (scopes : List Opening) : Option String :=
  scopes.findSome? Opening.buffer?

/-- Where a value has to arrive that is shown inside scopes. -/
def hookOf (scopes : List Opening) : Option String :=
  scopes.findSome? Opening.hook?

/-- Where an emission has to arrive that is sent inside scopes. -/
def destinationOf (scopes : List Opening) : Emission → Option String
  | .text _ _ => bufferOf scopes
  | .display _ => hookOf scopes

/-- Whether an answer says that an operation failed. -/
def Answer.fails : Answer → Bool
  | .failed _ => true
  | _ => false

namespace Thread

/-- Perform an operation and go on; a failure is raised. -/
def perform (th : Thread) (t : Terminal) (op : Op) (next : List Pending) : Thread × Terminal :=
  let done := step th.context t op
  (⟨done.2.1, next, th.raising || done.1.fails⟩, done.2.2)

/-- What is done in reaction to an emission: text is taken as it is, and a value is
shown to a hook, which does something. -/
def reactionTo (reaction : List Action) : Emission → List Action
  | .text _ _ => []
  | .display _ => reaction

/-- One step of a program, with what a hook does if a value is shown to it. -/
def advance (th : Thread) (t : Terminal) (reaction : List Action) :
    Thread × Terminal × List Posting :=
  match th.pending with
  | [] => (th, t, [])
  | .handler :: rest => ({ th with pending := rest, raising := false }, t, [])
  | .close _ :: rest =>
    let done := th.perform t (.leave none) rest
    (done.1, done.2, [])
  | .action a :: rest =>
    if th.raising then ({ th with pending := rest }, t, [])
    else
      match a with
      | .raise => ({ th with pending := rest, raising := true }, t, [])
      | .guarded body =>
        ({ th with pending := body.map .action ++ .handler :: rest }, t, [])
      | .inside opening body =>
        let done := th.perform t opening.op (body.map .action ++ .close opening :: rest)
        (done.1, done.2, [])
      | .emit emission =>
        let done :=
          th.perform t (sending emission) ((reactionTo reaction emission).map .action ++ rest)
        (done.1, done.2, [⟨emission, destinationOf (openings rest) emission⟩])

end Thread

/-- What happens next in a process. -/
inductive Move (ι : Type) where
  /-- A context takes a step; a hook that it shows a value to does this. -/
  | advance (i : ι) (reaction : List Action)
  /-- Something is raised in a context from outside. -/
  | interrupt (i : ι)

/-- The context that a move is about. -/
def Move.mover {ι : Type} : Move ι → ι
  | .advance i _ => i
  | .interrupt i => i

/-- Contexts that share a terminal. -/
structure Process (ι : Type) where
  terminal : Terminal
  threads : ι → Thread

namespace Process

variable {ι : Type} [DecidableEq ι]

/-- Programs that have not begun, each in a context of its own. -/
def start (t : Terminal) (programs : ι → List Action) : Process ι :=
  ⟨t, fun i => { pending := (programs i).map .action }⟩

/-- Make a move, and tell what was sent. -/
def move (p : Process ι) : Move ι → Process ι × List Posting
  | .advance i reaction =>
    let done := (p.threads i).advance p.terminal reaction
    (⟨done.2.1, fun j => if j = i then done.1 else p.threads j⟩, done.2.2)
  | .interrupt i =>
    (⟨p.terminal, fun j => if j = i then { p.threads i with raising := true } else p.threads j⟩, [])

/-- Make moves one after the other, and tell what was sent, in order. -/
def run (p : Process ι) : List (Move ι) → Process ι × List Posting
  | [] => (p, [])
  | m :: rest =>
    let first := p.move m
    let others := first.1.run rest
    (others.1, first.2 ++ others.2)

end Process

end LiveSession.Routing
