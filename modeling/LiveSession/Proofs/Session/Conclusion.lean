import LiveSession.Proofs.Session.Execute
import LiveSession.Proofs.Submission.Conclusion
import LiveSession.Proofs.Text.Lines

/-!
# The response to a submission of a session

Where an engine does not interrupt and the magics of a submission respond, the
response is determined by the responses to the attempts at its lines and to the
one retry. Each of these is determined by its own interpretation, so that text
written during an incomplete attempt is part of no response.
-/

namespace LiveSession.Session

open Submission

variable {σ : Type}

/-- Whenever an engine does not interrupt and the magics of a submission
respond, the attempts at its lines and the events of the retry determine its
response. No attempt before the last ends in an error or an abort, and nothing
is asked for after one. An admitted submission has a response if its block can
be wrapped and the context can be left. Where nothing was captured before, the
response to a statement is that of its own interpretation. -/
theorem execute_concludes (e : Engine σ) (limit : Int) (code : String) (s : Session σ)
    (hi : ∀ captured text state f,
      (e.interpret captured text state).verdict = .error f → f.interrupts = false)
    (hm : ∀ a, Event.attempted a ∈ (runLinesNoted e limit code (s.admitted e)).2.2 →
      ∀ m, Magic.ofLine? a.text = some m → ∃ r, a.outcome = .ok r) :
    ∃ (attempts : List (Attempt (Session σ) Escape)) (retry : List (Event (Session σ) Escape)),
      runLinesNoted e limit code (s.admitted e) =
        ((runLines e limit code (s.admitted e)).1, (runLines e limit code (s.admitted e)).2,
          attempts.map .attempted ++ retry) ∧
      (∀ a ∈ attempts.dropLast, halts a.outcome = false) ∧
      Concludes attempts retry (runLines e limit code (s.admitted e)).1 ∧
      (∀ response, (execute e limit code s).1 = .ok response →
        Concludes attempts retry (.ok response)) ∧
      (Admits e s → (e.leave (runLines e limit code (s.admitted e)).2.engine).1 = .ok () →
        (∀ before block escape, Event.wrapped before block (.error escape) ∉ retry) →
          ∃ response, (execute e limit code s).1 = .ok response) ∧
      (s.captured = "" → ∀ a, Event.attempted a ∈ attempts.map .attempted ++ retry →
        Magic.ofLine? a.text = none →
          a.outcome = .ok (ownResponse e a.text a.before.engine)) := by
  have hresponds : ∀ a, Event.attempted a ∈ (runLinesNoted e limit code (s.admitted e)).2.2 →
      ∃ r, a.outcome = .ok r := by
    intro a hmem
    cases hx : Magic.ofLine? a.text with
    | some m => exact hm a hmem m hx
    | none =>
      rw [runLinesNoted_outcome hmem]
      simp only [attempt, hx]
      exact ⟨_, ((interpret_spec e a.text a.before).2.2 (hi _ _ _)).2⟩
  obtain ⟨attempts, retry, hnoted, hgoeson, hconcludes⟩ :=
    runNoted_concludes (attempt_endsLines e limit) (lines_ne_nil code) (s.admitted e) hresponds
  refine ⟨attempts, retry, hnoted, hgoeson, hconcludes, ?_, ?_, ?_⟩
  · intro response hr
    rw [← runLines_of_execute hr]
    exact hconcludes
  · intro ha hleave hwrap
    rw [execute_eq_runLines ha hleave]
    exact hconcludes.responds hwrap
  · intro hs a hmem hx
    have hmem : Event.attempted a ∈ (runLinesNoted e limit code (s.admitted e)).2.2 := by
      unfold runLinesNoted
      rw [hnoted]
      exact hmem
    exact (runLinesNoted_ownResponse (s := s.admitted e) hi hs hmem hx).2

/-- A submission of two lines, of which the second stays incomplete and is
retried as a block. -/
theorem execute_concludes_echo :
    (∀ captured text state f,
      (echo.interpret captured text state).verdict = .error f → f.interrupts = false) ∧
    (∀ a, Event.attempted a ∈
        (runLinesNoted echo 3 "a\nb:" (admitted echo { engine := () })).2.2 →
      ∀ m, Magic.ofLine? a.text = some m → ∃ r, a.outcome = .ok r) ∧
    ∃ (attempts : List (Attempt (Session Unit) Escape))
        (retry : List (Event (Session Unit) Escape)),
      (runLinesNoted echo 3 "a\nb:" (admitted echo { engine := () })).2.2 =
        attempts.map .attempted ++ retry ∧
      Concludes attempts retry (.ok (.plainText "a\x7b\nb:\n\x7d")) := by
  have hi : ∀ captured text state f,
      (echo.interpret captured text state).verdict = .error f → f.interrupts = false :=
    fun captured text state f h => nomatch h
  have hm : ∀ a, Event.attempted a ∈
        (runLinesNoted echo 3 "a\nb:" (admitted echo { engine := () })).2.2 →
      ∀ m, Magic.ofLine? a.text = some m → ∃ r, a.outcome = .ok r := by
    intro a hmem m hx
    rw [runLinesNoted_outcome hmem]
    simp only [attempt, hx]
    unfold Magic.dispatch Magic.showValue
    dsimp only [echo]
    split
    · exact ⟨_, rfl⟩
    · split <;> exact ⟨_, rfl⟩
  obtain ⟨attempts, retry, hnoted, -, -, hconcludes, -⟩ :=
    execute_concludes echo 3 "a\nb:" { engine := () } hi hm
  exact ⟨hi, hm, attempts, retry, by rw [hnoted], hconcludes _ rfl⟩

end LiveSession.Session
