import LiveSession.Proofs.Session.Calls
import LiveSession.Proofs.Session.Requests

/-!
# Settled sessions

Between requests a session is settled: nothing is captured, no submission runs,
and every context that was entered was left. Every request leaves a settled
session settled, whatever the engine gives, raises or writes, short of an
interruption while a statement is interpreted. Statements are interpreted
inside a context and with an empty buffer, and so each is answered with its own
text.
-/

namespace LiveSession

variable {σ : Type}

namespace EngineCall

/-- A call that needs no context. -/
def Outside : EngineCall → Prop
  | .start | .isStarted | .bind _ _ | .close | .complete _ _ => True
  | _ => False

/-- A call that is made inside a context; a statement is interpreted with
nothing captured before. -/
def Inside : EngineCall → Prop
  | .interpret captured _ => captured = ""
  | .lookup _ | .decompose _ | .wrapBlock _ => True
  | _ => False

end EngineCall

/-- Calls in which every context that is entered is left, once and before
another is asked for, and in which nothing is run outside one. -/
inductive Guarded : List EngineCall → Prop
  | nil : Guarded []
  | outside {calls : List EngineCall} {call : EngineCall} (h : Guarded calls)
      (hc : call.Outside) : Guarded (calls ++ [call])
  | refused {calls : List EngineCall} (h : Guarded calls) : Guarded (calls ++ [.enter false])
  | context {calls inner : List EngineCall} (h : Guarded calls) (hi : ∀ c ∈ inner, c.Inside) :
      Guarded (calls ++ [.enter true] ++ inner ++ [.leave])

/-- A relation of records: the later adds calls made inside a context. -/
def Adds (calls later : List EngineCall) : Prop :=
  ∃ inner, later = calls ++ inner ∧ ∀ c ∈ inner, c.Inside

/-- Another call inside the context adds to what was added. -/
theorem Adds.snoc {calls later : List EngineCall} (h : Adds calls later) (call : EngineCall)
    (hc : call.Inside) : Adds calls (later ++ [call]) := by
  obtain ⟨inner, rfl, hinner⟩ := h
  refine ⟨inner ++ [call], List.append_assoc _ _ _, fun c hmem => ?_⟩
  rcases List.mem_append.mp hmem with hold | hnew
  · exact hinner c hold
  · cases List.mem_singleton.mp hnew
    exact hc

namespace Session

open Submission

/-- A session between two requests. -/
structure Settled (s : Session σ) : Prop where
  captured : s.captured = ""
  free : s.busy = false
  balanced : s.entered = s.left

/-- A change of the engine leaves a session settled. -/
theorem Settled.of_engine {s : Session σ} (h : Settled s) (state : σ) :
    Settled { s with engine := state } := ⟨h.captured, h.free, h.balanced⟩

/-- A line in the journal leaves a session settled. -/
theorem Settled.report {s : Session σ} (h : Settled s) (level : Level) (reporter : Reporter)
    (message : String) : Settled (s.report level reporter message) :=
  ⟨h.captured, h.free, h.balanced⟩

/-- The calls of the engine in the course of requests. -/
def requestCalls (e : Engine σ) (settings : Settings) (requests : List Request) (s : Session σ) :
    List EngineCall :=
  (handleAll e.recorded settings requests s.recorded).engine.2

/-- Recording changes nothing in the course of requests. -/
theorem handleAll_recorded (e : Engine σ) (settings : Settings) (requests : List Request)
    (s : Session σ) :
    (handleAll e.recorded settings requests s.recorded).seen Prod.fst 0 =
      handleAll e settings requests s :=
  (handleAll_seen e.views_recorded settings requests 0 s.recorded).symm

section Interpret

variable {e : Engine σ}
  (hi : ∀ captured code state f,
    (e.interpret captured code state).verdict = .error f → f.interrupts = false)

include hi

/-- Running lines with an empty buffer leaves one. -/
theorem runLines_captured (limit : Int) (code : String) {s : Session σ} (hs : s.captured = "") :
    (runLines e limit code s).2.captured = "" :=
  runLines_invariant (P := fun s => s.captured = "")
    (fun text _ h => attempt_captured (Engine.hushed_of_uninterrupted hi) limit text h)
    (fun _ _ h => h) code hs

/-- A submission leaves a settled session settled, and the routing as it is. -/
theorem execute_settled (limit : Int) (code : String) {s : Session σ} (hs : Settled s) :
    Settled (execute e limit code s).2 ∧ (execute e limit code s).2.redirected = s.redirected := by
  by_cases ha : Admits e s
  · have hcaptured := runLines_captured hi limit code (s := s.admitted e) hs.captured
    have hkeeps := runLines_keeps e limit code (s.admitted e)
    rw [execute_of_admits ha]
    generalize runLines e limit code (s.admitted e) = done at hcaptured hkeeps
    have hentered : done.2.entered = s.entered + 1 := hkeeps.entered
    have hleft : done.2.left = s.left := hkeeps.left
    have hbalanced := hs.balanced
    refine ⟨⟨hcaptured, rfl, ?_⟩, hkeeps.redirected⟩
    dsimp only [finished]
    omega
  · obtain ⟨escape, ⟨hx, -⟩ | ⟨hx, -, -⟩⟩ := execute_of_not_admits ha limit code
    · rw [hx]
      exact ⟨hs.of_engine _, rfl⟩
    · rw [hx]
      exact ⟨⟨hs.captured, rfl, hs.balanced⟩, rfl⟩

/-- Every operation keeps a session settled with the same routing. -/
theorem kept_settled (limit : Int) (redirected : Bool) :
    Kept e limit fun s => Settled s ∧ s.redirected = redirected where
  start _ h := ⟨h.1.of_engine _, h.2⟩
  bind _ _ _ h := ⟨h.1.of_engine _, h.2⟩
  complete _ _ _ h := ⟨h.1.of_engine _, h.2⟩
  close _ h := ⟨h.1.of_engine _, h.2⟩
  execute code _ h :=
    ⟨(execute_settled hi limit code h.1).1, (execute_settled hi limit code h.1).2.trans h.2⟩
  drain _ h := ⟨⟨rfl, h.1.free, h.1.balanced⟩, h.2⟩
  report _ _ _ _ h := ⟨h.1.report _ _ _, h.2⟩

/-- Running lines with an empty buffer adds calls made inside a context. -/
theorem runLines_adds (limit : Int) (code : String) {s : Session (Engine.Recording σ)}
    (hs : s.captured = "") :
    Adds s.engine.2 (runLines e.recorded limit code s).2.engine.2 := by
  have hattempt : ∀ text (s' : Session (Engine.Recording σ)),
      s'.captured = "" ∧ Adds s.engine.2 s'.engine.2 →
        (attempt e.recorded limit text s').2.captured = "" ∧
          Adds s.engine.2 (attempt e.recorded limit text s').2.engine.2 := by
    intro text s' h
    refine ⟨?_, ?_⟩
    · exact attempt_captured (e := e.recorded)
        (Engine.hushed_of_uninterrupted fun captured code state f => hi captured code state.1 f)
        limit text h.1
    · exact attempt_engine (e := e.recorded) (P := fun r => Adds s.engine.2 r.2)
        (fun code state hr => hr.snoc (.interpret s'.captured code) h.1)
        (fun name state hr => hr.snoc (.lookup name) trivial)
        (fun value state hr => hr.snoc (.decompose value) trivial) limit text h.2
  have hnone : Adds s.engine.2 s.engine.2 :=
    ⟨[], (List.append_nil _).symm, fun c hc => nomatch hc⟩
  exact (runLines_invariant hattempt
    (fun block s' h => ⟨h.1, h.2.snoc (.wrapBlock block) trivial⟩) code ⟨hs, hnone⟩).2

/-- A submission of a settled session adds guarded calls. -/
theorem execute_guarded (limit : Int) (code : String) {s : Session (Engine.Recording σ)}
    (hs : Settled s) (hg : Guarded s.engine.2) :
    Guarded (execute e.recorded limit code s).2.engine.2 := by
  have hstarted : Guarded (s.engine.2 ++ [.isStarted]) := hg.outside trivial
  by_cases ha : Admits e.recorded s
  · obtain ⟨inner, hinner, hinside⟩ :=
      runLines_adds hi limit code (s := s.admitted e.recorded) hs.captured
    rw [execute_of_admits ha]
    have hgranted : (e.enter (e.isStarted s.engine.1).2).1 = .ok () := ha.granted
    have hadmitted : (s.admitted e.recorded).engine.2 =
        s.engine.2 ++ [.isStarted] ++ [.enter true] := by
      change _ ++ [EngineCall.enter (e.enter (e.isStarted s.engine.1).2).1.toBool] = _
      rw [hgranted]
      rfl
    have hcalls : (finished e.recorded
        (runLines e.recorded limit code (s.admitted e.recorded))).2.engine.2 =
          s.engine.2 ++ [.isStarted] ++ [.enter true] ++ inner ++ [.leave] := by
      rw [← hadmitted, ← hinner]
      rfl
    rw [hcalls]
    exact hstarted.context hinside
  · obtain ⟨escape, ⟨hx, -⟩ | ⟨hx, -, hrefused⟩⟩ := execute_of_not_admits ha limit code
    · rw [hx]
      exact hstarted
    · rw [hx]
      have hcalls : (e.recorded.enter (e.recorded.isStarted s.engine).2).2.2 =
          s.engine.2 ++ [.isStarted] ++ [.enter false] := by
        change _ ++ [EngineCall.enter (e.enter (e.isStarted s.engine.1).2).1.toBool] = _
        have hrefused : (e.enter (e.isStarted s.engine.1).2).1 ≠ .ok () := hrefused
        cases h : (e.enter (e.isStarted s.engine.1).2).1 with
        | error f => rfl
        | ok u => exact absurd h hrefused
      exact hcalls ▸ hstarted.refused

/-- Every operation of a settled session with a recording engine adds guarded
calls. -/
theorem kept_guarded (limit : Int) :
    Kept e.recorded limit fun s => Settled s ∧ Guarded s.engine.2 where
  start _ h := ⟨h.1.of_engine _, h.2.outside trivial⟩
  bind _ _ _ h := ⟨h.1.of_engine _, h.2.outside trivial⟩
  complete _ _ _ h := ⟨h.1.of_engine _, h.2.outside trivial⟩
  close _ h := ⟨h.1.of_engine _, h.2.outside trivial⟩
  execute code _ h :=
    ⟨(execute_settled (e := e.recorded) (fun captured code state f => hi captured code state.1 f)
      limit code h.1).1, execute_guarded hi limit code h.1 h.2⟩
  drain _ h := ⟨⟨rfl, h.1.free, h.1.balanced⟩, h.2⟩
  report _ _ _ _ h := ⟨h.1.report _ _ _, h.2⟩

end Interpret

/-- Whatever requests are made to a settled session, in any order, and whatever
the engine gives, raises or writes, short of an interruption while a statement
is interpreted: the session is settled afterwards and output goes where it went
before. Every context that was entered was left, once, and every statement was
interpreted inside one and with an empty buffer; the calls that show it are
those of the same run, of which recording them changes nothing. In every
submission, those of startup statements included, each statement is answered
with the text of its own interpretation, in the order of writing, and with
nothing else. -/
theorem handleAll_settled (e : Engine σ) (settings : Settings) (requests : List Request)
    (s : Session σ)
    (hi : ∀ captured code state f,
      (e.interpret captured code state).verdict = .error f → f.interrupts = false)
    (hs : Settled s) :
    Settled (handleAll e settings requests s) ∧
      (handleAll e settings requests s).redirected = s.redirected ∧
      (handleAll e.recorded settings requests s.recorded).seen Prod.fst 0 =
        handleAll e settings requests s ∧
      Guarded (requestCalls e settings requests s) ∧
      ∀ x ∈ submissionsAll e settings requests s,
        Settled x.2 ∧
          ∀ a, Event.attempted a ∈
              (runLinesNoted e settings.sampleLimit x.1 (x.2.admitted e)).2.2 →
            Magic.ofLine? a.text = none →
              a.before.captured = "" ∧
                a.outcome = .ok (ownResponse e a.text a.before.engine) := by
  obtain ⟨hafter, hsubmissions⟩ :=
    handleAll_kept (kept_settled hi settings.sampleLimit s.redirected) requests ⟨hs, rfl⟩
  have hrecorded : Settled s.recorded := ⟨hs.captured, hs.free, hs.balanced⟩
  have hcalls := (handleAll_kept (kept_guarded hi settings.sampleLimit) requests
    ⟨hrecorded, .nil⟩).1.2
  refine ⟨hafter.1, hafter.2, handleAll_recorded e settings requests s, hcalls,
    fun x hx => ⟨(hsubmissions x hx).1, fun a ha hm => ?_⟩⟩
  have hcaptured : (x.2.admitted e).captured = "" := (hsubmissions x hx).1.captured
  exact runLinesNoted_ownResponse hi hcaptured ha hm

/-- A session that is started with a startup statement, executes a submission of
two lines and is closed. -/
theorem handleAll_settled_echo :
    (∀ captured code state f,
      (echo.interpret captured code state).verdict = .error f → f.interrupts = false) ∧
    Settled ({ engine := () } : Session Unit) ∧
    Settled (handleAll echo { startupStatements := ["a"] } [.start [], .execute "b\nc", .close]
      { engine := () }) ∧
    Guarded (requestCalls echo { startupStatements := ["a"] }
      [.start [], .execute "b\nc", .close] { engine := () }) := by
  have hi : ∀ captured code state f,
      (echo.interpret captured code state).verdict = .error f → f.interrupts = false :=
    fun captured code state f h => nomatch h
  have hs : Settled ({ engine := () } : Session Unit) := ⟨rfl, rfl, rfl⟩
  obtain ⟨hsettled, -, -, hguarded, -⟩ :=
    handleAll_settled echo { startupStatements := ["a"] } [.start [], .execute "b\nc", .close]
      { engine := () } hi hs
  exact ⟨hi, hs, hsettled, hguarded⟩

end Session

end LiveSession
