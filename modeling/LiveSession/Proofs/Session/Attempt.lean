import LiveSession.Proofs.Submission.Notes
import LiveSession.Session

/-!
# Attempts of a session

An attempt of a session is a magic or an interpretation, and comes to no more
than a line can end in: a magic succeeds without text or fails, and a
statement succeeds with the console text it left.
-/

namespace LiveSession

variable {σ : Type}

namespace Magic

/-- A structured value is shown without text. -/
theorem asStructured_mergeable (entry : Entry) : (asStructured entry).Mergeable :=
  .silent rfl

/-- A value shown as a table has no text, or is an error. -/
theorem asTable_endsLine {entry : Entry} {r : Response} (h : asTable entry = .ok r) :
    r.EndsLine := by
  cases entry with
  | host value => cases h
  | table value => cases h
  | structured v =>
    change (Response.ofTable v).mapError Escape.notStructured = .ok r at h
    unfold Response.ofTable at h
    cases ht : Table.infer v with
    | ok t =>
      rw [ht] at h
      cases h
      exact .success (.silent rfl)
    | error mismatch =>
      rw [ht] at h
      cases mismatch with
      | mixed =>
        cases h
        exact .error _ _ _
      | notStructured name => cases h

/-- A value is shown by its rendering, or there is an error in its place. -/
theorem showValue_endsLine {e : Engine σ} {limit : Int} {name : String}
    {render : Entry → Except Escape Response} {s : Session σ} {r : Response}
    (hrender : ∀ entry r, render entry = .ok r → r.EndsLine)
    (h : (showValue e limit name render s).1 = .ok r) : r.EndsLine := by
  unfold showValue at h
  rcases hl : e.lookup name s.engine with ⟨found, state⟩
  rw [hl] at h
  cases found with
  | error f =>
    dsimp only at h
    split at h
    · cases h
      exact .error _ _ _
    · cases h
  | ok value =>
    dsimp only at h
    split at h
    · cases h
    · cases h
      exact .error _ _ _
    · exact hrender _ _ h

/-- A magic comes to what a line can end in. -/
theorem dispatch_endsLine {e : Engine σ} {limit : Int} {m : Magic} {s : Session σ} {r : Response}
    (h : (dispatch e limit m s).1 = .ok r) : r.EndsLine := by
  unfold dispatch at h
  dsimp only at h
  split at h
  · refine showValue_endsLine (fun entry r hr => ?_) h
    cases hr
    exact .success (asStructured_mergeable entry)
  · split at h
    · exact showValue_endsLine (fun entry r hr => asTable_endsLine hr) h
    · cases h
      exact .error _ _ _

end Magic

namespace Session

/-- Run the lines of a submission and note what is attempted and wrapped. -/
def runLinesNoted (e : Engine σ) (limit : Int) (code : String) (s : Session σ) :
    Except Escape Response × Session σ × List (Submission.Event (Session σ) Escape) :=
  Submission.runNoted (attempt e limit) (fun block => call (e.wrapBlock block)) .unmerged
    (Submission.lines code) s

/-- The response to a verdict is what a line can end in. -/
theorem respond_endsLine (verdict : Verdict) (output : String) :
    (respond verdict output).EndsLine := by
  cases verdict with
  | success => exact .success (Response.mergeable_plainText output)
  | incomplete => exact .incomplete
  | error => exact .error _ _ _
  | unrecognised => exact .error _ _ _

/-- An interpretation comes to what a line can end in. -/
theorem interpret_endsLine {e : Engine σ} {code : String} {s : Session σ} {r : Response}
    (h : (interpret e code s).1 = .ok r) : r.EndsLine := by
  unfold interpret at h
  dsimp only at h
  split at h
  · split at h
    · cases h
    · split at h
      · cases h
        exact .aborted _
      · cases h
        exact .aborted _
  · cases h
    exact respond_endsLine _ _

/-- Attempts of a session come to what a line can end in. -/
theorem attempt_endsLines (e : Engine σ) (limit : Int) :
    Submission.EndsLines (attempt e limit) := by
  intro code s r h
  unfold attempt at h
  split at h
  · exact Magic.dispatch_endsLine h
  · exact interpret_endsLine h

end Session

end LiveSession
