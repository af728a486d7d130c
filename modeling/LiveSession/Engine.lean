import LiveSession.Decompose
import LiveSession.Response

/-!
# Engines

A session drives an engine and knows nothing else about the language that is
run. An engine has a state and operations on it; every operation gives a
result or raises a fault, and leaves a state in either case. Interpreting a
statement also emits console text and displays values.
-/

namespace LiveSession

/-- The two console streams. -/
inductive Stream where
  | out
  | err
  deriving DecidableEq, Repr

/-- What a running statement sends to its surroundings. -/
inductive Emission where
  /-- Text written to a stream. -/
  | text (stream : Stream) (s : String)
  /-- A value shown by the surroundings' own means. -/
  | display (value : Host)

/-- What an engine says about a statement that it ran. -/
inductive Verdict where
  | success
  | incomplete
  | error
  /-- An answer that is none of the three; it counts as an error. -/
  | unrecognised
  deriving DecidableEq, Repr

/-- The result of an operation on a state. -/
abbrev Outcome (σ α : Type) := Except Fault α × σ

/-- The result of interpreting a statement. -/
structure Interpretation (σ : Type) where
  verdict : Except Fault Verdict
  /-- What was emitted, in order. -/
  emissions : List Emission
  state : σ

/-- Why a host value was not decomposed by the default means, as a fault. -/
def DecomposeError.fault (e : DecomposeError) : Fault :=
  let label := match e with
    | .binary => "DecomposeError"
    | .unsupported _ => "DecomposeError"
    | .repeatedKey => "ValueError"
    | .endless => "RecursionError"
    | .unhashable => "TypeError"
    | .oversized => "ValueError"
  ⟨label, .ordinary, [e.message]⟩

/-- An interpreter for one language, with its operations on a state. -/
structure Engine (σ : Type) where
  /-- The label of the language. -/
  kind : String := "generic"
  start : σ → Outcome σ Unit
  isStarted : σ → Outcome σ Bool
  /-- Run a statement; the text captured so far is given along. -/
  interpret : (captured code : String) → σ → Interpretation σ
  /-- The value bound to a name. -/
  lookup : String → σ → Outcome σ Host
  bind : String → Host → σ → Outcome σ Unit
  close : σ → Outcome σ Unit := fun s => (.ok (), s)
  /-- Suggestions for the text before a cursor. -/
  complete : String → Int → σ → Outcome σ (List String) := fun _ _ s => (.ok [], s)
  /-- The structured value of a value; an engine can answer with no value, or
  with one that is not structured. -/
  decompose : Host → σ → Outcome σ (Option Entry) := fun h s =>
    match h.decompose with
    | .ok v => (.ok (some (.structured v)), s)
    | .error e => (.error e.fault, s)
  /-- Enclose a statement in a block for the last attempt at it. -/
  wrapBlock : String → σ → Outcome σ String := fun code s =>
    (.ok ("\x7b\n" ++ code ++ "\n\x7d"), s)
  /-- Borrow what a submission needs while it runs. -/
  enter : σ → Outcome σ Unit := fun s => (.ok (), s)
  /-- Give it back. -/
  leave : σ → Outcome σ Unit := fun s => (.ok (), s)

end LiveSession
