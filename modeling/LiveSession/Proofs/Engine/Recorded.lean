import LiveSession.Engine

/-!
# Recorded engines

An engine can record every call of its operations beside its state, in order.
Seen without the record it is the engine itself.
-/

namespace LiveSession

variable {σ τ : Type}

/-- A call of an operation of an engine, with what it is given. -/
inductive EngineCall where
  | start
  | isStarted
  | interpret (captured code : String)
  | lookup (name : String)
  | bind (name : String) (value : Host)
  | close
  | complete (code : String) (cursor : Int)
  | decompose (value : Host)
  | wrapBlock (block : String)
  /-- The context is asked for, and is granted or not. -/
  | enter (granted : Bool)
  | leave

namespace EngineCall

/-- Whether a call interprets a statement. -/
def interprets : EngineCall → Bool
  | .interpret _ _ => true
  | _ => false

end EngineCall

namespace Engine

/-- The state of an engine with the calls of its operations so far. -/
abbrev Recording (σ : Type) := σ × List EngineCall

/-- An operation that adds its call to the record. -/
def record {α : Type} (call : EngineCall) (operation : σ → Outcome σ α) (s : Recording σ) :
    Outcome (Recording σ) α :=
  ((operation s.1).1, (operation s.1).2, s.2 ++ [call])

/-- An engine that records the calls of its operations. -/
def recorded (e : Engine σ) : Engine (Recording σ) where
  kind := e.kind
  start := record .start e.start
  isStarted := record .isStarted e.isStarted
  interpret captured code s :=
    let step := e.interpret captured code s.1
    ⟨step.verdict, step.emissions, step.state, s.2 ++ [.interpret captured code]⟩
  lookup name := record (.lookup name) (e.lookup name)
  bind name value := record (.bind name value) (e.bind name value)
  close := record .close e.close
  complete code cursor := record (.complete code cursor) (e.complete code cursor)
  decompose value := record (.decompose value) (e.decompose value)
  wrapBlock block := record (.wrapBlock block) (e.wrapBlock block)
  enter s := record (.enter (e.enter s.1).1.toBool) e.enter s
  leave := record .leave e.leave

/-- The operations of one engine do what those of another do, seen through a
map of states. -/
structure Views (view : τ → σ) (e : Engine τ) (image : Engine σ) : Prop where
  kind : image.kind = e.kind
  start : ∀ t, image.start (view t) = ((e.start t).1, view (e.start t).2)
  isStarted : ∀ t, image.isStarted (view t) = ((e.isStarted t).1, view (e.isStarted t).2)
  interpret : ∀ captured code t, image.interpret captured code (view t) =
    ⟨(e.interpret captured code t).verdict, (e.interpret captured code t).emissions,
      view (e.interpret captured code t).state⟩
  lookup : ∀ name t, image.lookup name (view t) = ((e.lookup name t).1, view (e.lookup name t).2)
  bind : ∀ name value t,
    image.bind name value (view t) = ((e.bind name value t).1, view (e.bind name value t).2)
  close : ∀ t, image.close (view t) = ((e.close t).1, view (e.close t).2)
  complete : ∀ code cursor t, image.complete code cursor (view t) =
    ((e.complete code cursor t).1, view (e.complete code cursor t).2)
  decompose : ∀ value t,
    image.decompose value (view t) = ((e.decompose value t).1, view (e.decompose value t).2)
  wrapBlock : ∀ block t,
    image.wrapBlock block (view t) = ((e.wrapBlock block t).1, view (e.wrapBlock block t).2)
  enter : ∀ t, image.enter (view t) = ((e.enter t).1, view (e.enter t).2)
  leave : ∀ t, image.leave (view t) = ((e.leave t).1, view (e.leave t).2)

/-- An engine does what it does. -/
theorem views_self (e : Engine σ) : Views id e e :=
  ⟨rfl, fun _ => rfl, fun _ => rfl, fun _ _ _ => rfl, fun _ _ => rfl, fun _ _ _ => rfl,
    fun _ => rfl, fun _ _ _ => rfl, fun _ _ => rfl, fun _ _ => rfl, fun _ => rfl, fun _ => rfl⟩

/-- Without the record a recorded engine does what the engine does. -/
theorem views_recorded (e : Engine σ) : Views Prod.fst e.recorded e :=
  ⟨rfl, fun _ => rfl, fun _ => rfl, fun _ _ _ => rfl, fun _ _ => rfl, fun _ _ _ => rfl,
    fun _ => rfl, fun _ _ _ => rfl, fun _ _ => rfl, fun _ _ => rfl, fun _ => rfl, fun _ => rfl⟩

end Engine

end LiveSession
