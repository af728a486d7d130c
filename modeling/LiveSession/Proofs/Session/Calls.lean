import LiveSession.Proofs.Magic.Shown
import LiveSession.Proofs.Session.Seen
import Mathlib.Data.List.Basic

/-!
# Engine calls of a submission

The calls that a submission makes are read off a run with a recording engine.
They are what the notes of the run say: one interpretation for each attempt
that is no magic, the look-up and the decomposition of a magic, and one call
for each block that is wrapped. Before them the engine is asked whether it is
started and for its context, and after them the context is left.
-/

namespace LiveSession

variable {σ : Type}

/-- Whether a call interprets a statement or wraps a block. -/
def EngineCall.runs : EngineCall → Bool
  | .interpret _ _ => true
  | .wrapBlock _ => true
  | _ => false

/-- Calls to interpret are among the calls to interpret and to wrap. -/
theorem EngineCall.filter_interprets (calls : List EngineCall) :
    calls.filter interprets = (calls.filter runs).filter interprets := by
  rw [List.filter_filter]
  congr 1
  funext call
  cases call with
  | interpret captured code => rfl
  | _ => rfl

namespace Session

open Submission

/-- A session whose engine records its calls, with nothing recorded. -/
def recorded (s : Session σ) : Session (Engine.Recording σ) :=
  { s with engine := (s.engine, []) }

/-- The calls of the engine in the course of a submission. -/
def calls (e : Engine σ) (limit : Int) (code : String) (s : Session σ) : List EngineCall :=
  (execute e.recorded limit code s.recorded).2.engine.2

/-- The call that an event comes with, other than those of magics. -/
def eventCall? : Event (Session σ) Escape → Option EngineCall
  | .attempted a =>
    match Magic.ofLine? a.text with
    | some _ => none
    | none => some (.interpret a.before.captured a.text)
  | .wrapped _ block _ => some (.wrapBlock block)

/-- Recording changes nothing in what a submission comes to. -/
theorem execute_recorded (e : Engine σ) (limit : Int) (code : String) (s : Session σ) :
    (execute e.recorded limit code s.recorded).1 = (execute e limit code s).1 ∧
      (execute e.recorded limit code s.recorded).2.seen Prod.fst 0 =
        (execute e limit code s).2 := by
  have h : execute e limit code (s.recorded.seen Prod.fst 0) =
      ((execute e.recorded limit code s.recorded).1,
        (execute e.recorded limit code s.recorded).2.seen Prod.fst 0) :=
    execute_seen e.views_recorded limit code 0 s.recorded
  have hs : s.recorded.seen Prod.fst 0 = s := rfl
  rw [hs] at h
  rw [h]
  exact ⟨rfl, rfl⟩

/-- The call of an event does not depend on the state of the engine. -/
theorem eventCall?_map {τ : Type} (view : τ → σ) (more : Nat)
    (event : Event (Session τ) Escape) :
    eventCall? (event.map (seen view more)) = eventCall? event := by
  cases event with
  | attempted a => rfl
  | wrapped s block outcome => rfl

/-- The calls that an event comes with. -/
def eventCalls (e : Engine σ) (limit : Int) : Event (Session σ) Escape → List EngineCall
  | .attempted a =>
    match Magic.ofLine? a.text with
    | some m => m.engineCalls e limit a.before.engine
    | none => [.interpret a.before.captured a.text]
  | .wrapped _ block _ => [.wrapBlock block]

/-- A magic neither interprets a statement nor wraps a block. -/
theorem engineCalls_runs (e : Engine σ) (limit : Int) (m : Magic) (state : σ) :
    ∀ call ∈ m.engineCalls e limit state, call.runs = false := by
  intro call hcall
  unfold Magic.engineCalls at hcall
  split at hcall
  · rcases List.mem_cons.mp hcall with rfl | hcall
    · rfl
    · split at hcall
      · cases hcall
      · split at hcall
        · cases hcall
        · cases List.mem_singleton.mp hcall
          rfl
  · cases hcall

/-- Of the calls of an event those are left that interpret or wrap. -/
theorem eventCalls_runs (e : Engine σ) (limit : Int) (event : Event (Session σ) Escape) :
    (eventCalls e limit event).filter EngineCall.runs = (eventCall? event).toList := by
  cases event with
  | wrapped s block outcome => rfl
  | attempted a =>
    unfold eventCalls eventCall?
    dsimp only
    cases Magic.ofLine? a.text with
    | none => rfl
    | some m =>
      refine List.filter_eq_nil_iff.mpr fun call hcall => ?_
      rw [engineCalls_runs e limit m _ call hcall]
      exact Bool.false_ne_true

/-- An attempt makes the calls of its event. -/
theorem attempt_calls (e : Engine σ) (limit : Int) (code : String)
    (s : Session (Engine.Recording σ)) (outcome : Except Escape Response) :
    (attempt e.recorded limit code s).2.engine.2 =
      s.engine.2 ++
        eventCalls e limit (Event.map (seen Prod.fst 0) (.attempted ⟨s, code, outcome⟩)) := by
  unfold attempt eventCalls Event.map Attempt.map
  dsimp only
  cases Magic.ofLine? code with
  | some m => exact Magic.dispatch_calls e limit m s
  | none =>
    dsimp only
    rw [(interpret_spec e.recorded code s).1]
    rfl

/-- A noted run of lines is the run of lines, without the notes. -/
theorem runLines_of_noted (e : Engine σ) (limit : Int) (code : String) (s : Session σ) :
    runLines e limit code s =
      ((runLinesNoted e limit code s).1, (runLinesNoted e limit code s).2.1) :=
  run_of_runNoted (lines code) s

/-- Running lines makes the calls of the events. -/
theorem runLinesNoted_calls (e : Engine σ) (limit : Int) (code : String)
    (s : Session (Engine.Recording σ)) :
    (runLinesNoted e.recorded limit code s).2.1.engine.2 =
      s.engine.2 ++
        (runLinesNoted e limit code (s.seen Prod.fst 0)).2.2.flatMap (eventCalls e limit) := by
  rw [runLinesNoted_seen e.views_recorded, List.flatMap_map]
  refine runNoted_log (fun s : Session (Engine.Recording σ) => s.engine.2) _
    (fun text s => attempt_calls e limit text s _) (fun block s => ?_) (lines code) s
  rw [call_eq]
  rfl

/-- The calls of an admitted submission: those of the events of its lines, inside
the context. -/
theorem calls_eq {e : Engine σ} {s : Session σ} (ha : Admits e s) (limit : Int)
    (code : String) :
    calls e limit code s =
      [.isStarted, .enter true] ++
        (runLinesNoted e limit code (s.admitted e)).2.2.flatMap (eventCalls e limit) ++
          [.leave] := by
  have ha' : Admits e.recorded s.recorded := ⟨ha.started, ha.granted⟩
  have hs : (s.recorded.admitted e.recorded).seen Prod.fst 0 = s.admitted e := rfl
  have hentered : (s.recorded.admitted e.recorded).engine.2 = [.isStarted, .enter true] := by
    change [EngineCall.isStarted, .enter (e.enter (e.isStarted s.engine).2).1.toBool] = _
    rw [ha.granted]
    rfl
  have hleft : calls e limit code s =
      (runLines e.recorded limit code (s.recorded.admitted e.recorded)).2.engine.2 ++
        [.leave] := by
    unfold calls
    rw [execute_of_admits ha']
    rfl
  rw [hleft, runLines_of_noted, runLinesNoted_calls, hs, hentered]

/-- The calls of an admitted submission to interpret and to wrap are those of
the events of its lines. -/
theorem calls_runs {e : Engine σ} {s : Session σ} (ha : Admits e s) (limit : Int)
    (code : String) :
    (calls e limit code s).filter EngineCall.runs =
      (runLinesNoted e limit code (s.admitted e)).2.2.filterMap eventCall? := by
  have hbefore : [EngineCall.isStarted, .enter true].filter EngineCall.runs = [] := rfl
  have hafter : [EngineCall.leave].filter EngineCall.runs = [] := rfl
  rw [calls_eq ha, List.filter_append, List.filter_append, hbefore, hafter, List.nil_append,
    List.append_nil, List.filter_flatMap, List.filterMap_eq_flatMap_toList]
  simp only [eventCalls_runs]

end Session

end LiveSession
