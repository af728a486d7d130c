import LiveSession.Proofs.Session.Attempt
import LiveSession.Proofs.Submission.Visits
import LiveSession.Proofs.Text.Lines

/-!
# The blocks of a submission

Running the lines of a submission visits blocks of consecutive lines, and the
completed blocks with the last one take the lines that are reached, each once
and in order. Apart from one retry at the end, there is one attempt for each
line that is reached.
-/

namespace LiveSession.Session

open Submission

variable {σ : Type}

/-- Running the lines of a submission, whatever the engine answers, attempts
blocks of lines on a route from the first line on, and then at most one retry
of a block that stayed incomplete. The completed blocks and the last one take
each line that is reached once and in order; joined again they are those lines
of the stripped submission, and all of it unless an attempt halted. Each line
that is reached is the last of one attempt, so that there are no more attempts
than lines. -/
theorem runLines_partition (e : Engine σ) (limit : Int) (code : String) (s : Session σ) :
    ∃ (visits : List (Visit (Session σ) Escape)) (retry : List (Event (Session σ) Escape)),
      runLinesNoted e limit code s =
        ((runLines e limit code s).1, (runLines e limit code s).2,
          visits.map (fun v => .attempted v.attempt) ++ retry) ∧
      Route (lines code).length 0 0 visits ∧
      (∀ v ∈ visits, v.attempt.text = blockText (lines code) v.first v.last) ∧
      (∃ v, visits.getLast? = some v ∧
        (v.attempt.outcome = .ok .incomplete → RetryOf v.attempt.text retry) ∧
        (v.attempt.outcome ≠ .ok .incomplete → retry = [])) ∧
      visits.map Visit.last = List.range visits.length ∧
      visits.length ≤ (lines code).length ∧
      (blocks visits).flatMap Visit.lineNumbers = List.range visits.length ∧
      String.intercalate "\n" ((blocks visits).map fun v => v.attempt.text) =
        String.intercalate "\n" ((lines code).take visits.length) ∧
      String.intercalate "\n" (lines code) = Text.stripString code ∧
      ((∀ v ∈ visits, halts v.attempt.outcome = false) →
        visits.length = (lines code).length) := by
  obtain ⟨first, rest, hl⟩ := List.exists_cons_of_ne_nil (lines_ne_nil code)
  have hpos : 0 < (lines code).length := List.length_pos_iff.mpr (lines_ne_nil code)
  have hdrop : (lines code).drop (0 + 1) = rest := by rw [hl, List.drop_succ_cons, List.drop_zero]
  have hfirst : blockText (lines code) 0 0 = first := blockText_self (by rw [hl, List.drop_zero])
  obtain ⟨visits, hv, ht, hr⟩ := walk_route (attempt e limit) s (Nat.le_refl 0) hpos hdrop
  rw [hfirst] at hv
  have hlast : visits.getLast? = some (visits.getLast hr.ne_nil) :=
    List.getLast?_eq_some_getLast hr.ne_nil
  have hend : (walk (attempt e limit) first rest s).1.getLast? =
      some (visits.getLast hr.ne_nil).attempt := by
    rw [← hv, List.getLast?_map, hlast, Option.map_some]
  refine ⟨visits, retryEvents (attempt e limit) (fun block => call (e.wrapBlock block))
    (walk (attempt e limit) first rest s), ?_, hr, ht, ⟨_, hlast, ?_, ?_⟩, ?_, ?_, ?_, ?_, ?_, ?_⟩
  · unfold runLinesNoted runLines
    rw [hl, runNoted_cons (attempt_endsLines e limit), ← hv, List.map_map]
    rfl
  · intro hi
    rw [retryEvents_of_incomplete hend hi]
    exact blockEvents_retryOf _ _ _ _
  · exact retryEvents_of_ne_incomplete hend
  · rw [hr.map_last, List.range_eq_range']
  · have hle := hr.length_le hpos
    rwa [Nat.zero_add] at hle
  · rw [hr.flatMap_blocks (Nat.le_refl 0), Nat.zero_add, Nat.sub_zero, List.range_eq_range']
  · rw [← hr.intercalate_blocks (lines_ne_nil code)]
    congr 1
    exact List.map_congr_left fun v hv => ht v (Route.mem_of_mem_blocks hv)
  · exact intercalate_lines code
  · intro hh
    rw [← hr.length_eq hpos hh, Nat.zero_add]

end LiveSession.Session
