import LiveSession.Proofs.Submission.Conclusion

/-!
# What a run raises

Where blocks can be wrapped a run raises what its last attempt raises, and
nothing else: no attempt is made after one that raised, and the responses that
are merged along the way can always be merged. What it responds is what a line
can end in.
-/

namespace LiveSession.Submission

variable {S E : Type} {attempt : Operation S E Response} {wrap : Operation S E String}
  {unmerged : MergeError → E}

/-- A success that can be merged is a result that a line can end in. -/
theorem endsLine_of_mergeable {r : Response} (h : r.Mergeable) : r.EndsLine := by
  cases h with
  | silent h => exact .success (.silent h)
  | worded h => exact .success (.worded h)

/-- A retry is settled with what a line can end in. -/
theorem Settles.endsLine {merged r response : Response} (h : Settles merged r response)
    (hm : merged.Mergeable) (hr : r.EndsLine) : response.EndsLine := by
  cases h with
  | incomplete => exact .incomplete
  | error kind name traceback => exact .incomplete
  | aborted message => exact .aborted message
  | silent h => exact endsLine_of_mergeable hm
  | empty h => exact endsLine_of_mergeable hm
  | worded h ht hmerge =>
    cases hr with
    | success hp =>
      obtain ⟨m, hm', hmergeable⟩ := Response.merge_mergeable hm hp
      rw [hm'] at hmerge
      cases hmerge
      exact endsLine_of_mergeable hmergeable

/-- What comes of a retry, given the outcome of its attempt. -/
theorem settleRetry_cases (ha : EndsLines attempt) {merged : Response} (hm : merged.Mergeable)
    (text : String) (s : S) :
    (∃ e, (attempt text s).1 = .error e ∧
      settleRetry unmerged merged (attempt text s).1 = .error e) ∨
    ∃ r response, (attempt text s).1 = .ok r ∧
      settleRetry unmerged merged (attempt text s).1 = .ok response ∧ response.EndsLine := by
  cases ho : (attempt text s).1 with
  | error e => exact .inl ⟨e, rfl, rfl⟩
  | ok r =>
    have hr := ha text s r ho
    obtain ⟨response, hsettle, hsettles⟩ := settleRetry_settles unmerged hm hr
    exact .inr ⟨r, response, rfl, hsettle, hsettles.endsLine hm hr⟩

/-- A run whose blocks can be wrapped ends with an attempt. It raises what that
attempt raises; if that responds the run does, with what a line can end in. -/
theorem run_cases (unmerged : MergeError → E) (ha : EndsLines attempt)
    (hw : ∀ block s, ∃ text, (wrap block s).1 = .ok text) {lines : List String} (hl : lines ≠ [])
    (s : S) :
    ∃ a, (runNoted attempt wrap unmerged lines s).2.2.getLast? = some (.attempted a) ∧
      ((∃ e, a.outcome = .error e ∧ (run attempt wrap unmerged lines s).1 = .error e) ∨
        ∃ r response, a.outcome = .ok r ∧
          (run attempt wrap unmerged lines s).1 = .ok response ∧ response.EndsLine) := by
  obtain ⟨first, rest, rfl⟩ := List.exists_cons_of_ne_nil hl
  have hends : ∀ a ∈ (walk attempt first rest s).1, ∀ r, a.outcome = .ok r → r.EndsLine :=
    fun a hmem r hr => walk_endsLine ha first rest s hmem hr
  obtain ⟨last, hlast⟩ := walk_getLast? attempt first rest s
  rw [runNoted_cons ha, run_eq_conclude ha]
  generalize walk attempt first rest s = walked at *
  have hmem := List.mem_of_getLast? hlast
  have hattempted : (walked.1.map (Event.attempted (S := S) (E := E))).getLast? =
      some (.attempted last) := by
    rw [List.getLast?_map, hlast, Option.map_some]
  obtain ⟨merged, hm, hmerged⟩ :=
    Response.mergeAll_mergeable (Response.mergeable_plainText "") (successes_mergeable hends)
  rcases outcome_cases last.outcome with hi | ⟨payload, hs⟩ | hh
  · obtain ⟨text, htext⟩ := hw last.text walked.2
    refine ⟨⟨(wrap last.text walked.2).2, text, (attempt text (wrap last.text walked.2).2).1⟩,
      ?_, ?_⟩
    · rw [retryEvents_of_incomplete hlast hi, blockEvents, htext, List.getLast?_append]
      rfl
    · rw [conclude_of_incomplete hlast hi hm, retry_of_ok htext]
      exact settleRetry_cases ha hmerged text _
  · refine ⟨last, ?_, .inr ⟨_, merged, hs, ?_, endsLine_of_mergeable hmerged⟩⟩
    · rw [retryEvents_of_success hlast hs, List.append_nil, hattempted]
    · rw [conclude_of_success hlast hs hm]
  · refine ⟨last, ?_, ?_⟩
    · rw [retryEvents_of_halts hlast hh, List.append_nil, hattempted]
    · rw [conclude_of_halts hlast hh]
      cases ho : last.outcome with
      | error e => exact .inl ⟨e, rfl, rfl⟩
      | ok r => exact .inr ⟨r, r, rfl, rfl, hends last hmem r ho⟩

end LiveSession.Submission
