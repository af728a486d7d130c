import LiveSession.Proofs.Submission.Conclusion

/-!
# What a run keeps of its responses

A property of responses that merging keeps holds of the response to a submission
if it holds of the responses to its attempts. So a property of what lines end in
is one of what submissions end in.
-/

namespace LiveSession

/-- A property of responses that is kept when they are merged and retried. -/
structure Response.Kept (P : Response → Prop) : Prop where
  empty : P (plainText "")
  incomplete : P .incomplete
  merge : ∀ {older newer : Response} {m : Merged}, P older → P newer →
    Response.merge older newer = .ok m → P m.response

namespace Response.Kept

variable {P : Response → Prop}

/-- Folding responses keeps what merging two of them keeps. -/
theorem mergeAll (h : Kept P) {start merged : Response} {results : List Response}
    (hs : P start) (hr : ∀ r ∈ results, P r) (hm : Response.mergeAll start results = .ok merged) :
    P merged := by
  induction results generalizing start with
  | nil =>
    cases hm
    exact hs
  | cons r rest ih =>
    obtain ⟨hr, hrest⟩ := List.forall_mem_cons.mp hr
    rw [Response.mergeAll] at hm
    cases hx : Response.merge start r with
    | error e =>
      rw [hx] at hm
      cases hm
    | ok m =>
      rw [hx] at hm
      exact ih (h.merge hs hr hx) hrest hm

end Response.Kept

namespace Submission

variable {S E : Type} {attempt : Operation S E Response} {wrap : Operation S E String}
  {unmerged : MergeError → E} {P : Response → Prop}

/-- Settling a retry keeps what merging keeps. -/
theorem settleRetry_kept (h : Response.Kept P) {merged response : Response}
    {outcome : Except E Response} (hm : P merged) (ho : ∀ r, outcome = .ok r → P r)
    (hs : settleRetry unmerged merged outcome = .ok response) : P response := by
  unfold settleRetry at hs
  split at hs
  · cases hs
  · split at hs
    · cases hs
      exact hm
    · split at hs
      · split at hs
        · cases hs
        · next hmerge =>
          cases hs
          exact h.merge hm (ho _ rfl) hmerge
      · cases hs
        exact hm
  · cases hs
    exact ho _ rfl
  · cases hs
    exact hm
  · cases hs
    exact h.incomplete

/-- A run responds with what merging keeps if its attempts do. -/
theorem run_kept (h : Response.Kept P) (ha : EndsLines attempt) {lines : List String} {s : S}
    (hattempts : ∀ a, Event.attempted a ∈ (runNoted attempt wrap unmerged lines s).2.2 →
      ∀ r, a.outcome = .ok r → P r)
    {response : Response} (hr : (run attempt wrap unmerged lines s).1 = .ok response) :
    P response := by
  cases lines with
  | nil =>
    cases hr
    exact h.empty
  | cons first rest =>
    rw [runNoted_cons ha] at hattempts
    rw [run_eq_conclude ha] at hr
    have hends : ∀ a ∈ (walk attempt first rest s).1, ∀ r, a.outcome = .ok r → r.EndsLine :=
      fun a hmem r hr => walk_endsLine ha first rest s hmem hr
    obtain ⟨last, hl⟩ := walk_getLast? attempt first rest s
    generalize walk attempt first rest s = walked at *
    have hwalked : ∀ a ∈ walked.1, ∀ r, a.outcome = .ok r → P r :=
      fun a hmem => hattempts a (List.mem_append_left _ (List.mem_map_of_mem hmem))
    obtain ⟨merged, hm, -⟩ :=
      Response.mergeAll_mergeable (Response.mergeable_plainText "") (successes_mergeable hends)
    have hsuccesses : ∀ r ∈ successes walked.1, P r :=
      forall_mem_successes fun a hmem payload ho => hwalked a hmem _ ho
    have hmerged : P merged := h.mergeAll h.empty hsuccesses hm
    rcases outcome_cases last.outcome with hi | ⟨payload, hs⟩ | hh
    · rw [conclude_of_incomplete hl hi hm] at hr
      cases hw : (wrap last.text walked.2).1 with
      | error e =>
        rw [retry_of_error hw] at hr
        cases hr
      | ok text =>
        rw [retry_of_ok hw] at hr
        -- The retry of the block is one of the attempts that were noted.
        refine settleRetry_kept h hmerged (hattempts
          ⟨(wrap last.text walked.2).2, text, _⟩ (List.mem_append_right _ ?_)) hr
        rw [retryEvents_of_incomplete hl hi, blockEvents, hw]
        exact List.mem_cons_of_mem _ List.mem_cons_self
    · rw [conclude_of_success hl hs hm] at hr
      cases hr
      exact hmerged
    · rw [conclude_of_halts hl hh] at hr
      exact hwalked last (List.mem_of_getLast? hl) response hr

end Submission

end LiveSession
