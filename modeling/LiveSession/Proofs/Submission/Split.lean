import LiveSession.Proofs.Submission.Conclusion

/-!
# Splitting a submission

Running two lists of lines one after the other in one submission is running
the first and, from the state and the results it leaves, the second, where the
first ends with a completed block. Where the first ends in an error or an abort
the second is not reached. Results that are console texts can be folded in two
parts: the texts of the second part come after those of the first.
-/

namespace LiveSession.Submission

variable {S E : Type} {attempt : Operation S E Response} {wrap : Operation S E String}
  {unmerged : MergeError → E}

/-- A predicate on events: no block was wrapped to be retried. -/
def Unretried (events : List (Event S E)) : Prop :=
  ∀ s block outcome, Event.wrapped s block outcome ∉ events

/-- The result of lines that are run after others, given the response to the
others and the result of these lines alone. -/
inductive Follows (older : Response) : Except E Response → Except E Response → Prop
  | merged {payload : List (String × Entry)} {m : Merged}
      (hm : Response.merge older (.success payload) = .ok m) :
      Follows older (.ok (.success payload)) (.ok m.response)
  | error (kind name : String) (traceback : List String) :
      Follows older (.ok (.error kind name traceback)) (.ok (.error kind name traceback))
  | incomplete : Follows older (.ok .incomplete) (.ok .incomplete)
  | aborted (message : String) : Follows older (.ok (.aborted message)) (.ok (.aborted message))
  | raised (e : E) : Follows older (.error e) (.error e)

/-- The successes among more attempts come after those among the others. -/
theorem successes_append (before after : List (Attempt S E)) :
    successes (before ++ after) = successes before ++ successes after := by
  induction before with
  | nil => rfl
  | cons a rest ih =>
    simp only [List.cons_append, successes]
    rw [ih]
    split <;> rfl

/-- Attempts before others count for their merged results alone. -/
theorem conclude_append {start merged : Response} {before : List (Attempt S E)}
    {walked : List (Attempt S E) × S}
    (hm : Response.mergeAll start (successes before) = .ok merged) (hw : walked.1 ≠ []) :
    conclude attempt wrap unmerged start (before ++ walked.1, walked.2) =
      conclude attempt wrap unmerged merged walked := by
  have hl : walked.1.getLast? = some (walked.1.getLast hw) := List.getLast?_eq_some_getLast hw
  simp only [conclude, List.getLast?_append, hl, successes_append, Option.some_or,
    Response.mergeAll_append hm]

/-- Attempts before others have no part in their retry. -/
theorem retryEvents_append {before : List (Attempt S E)} {walked : List (Attempt S E) × S}
    (hw : walked.1 ≠ []) :
    retryEvents attempt wrap (before ++ walked.1, walked.2) = retryEvents attempt wrap walked := by
  have hl : walked.1.getLast? = some (walked.1.getLast hw) := List.getLast?_eq_some_getLast hw
  simp only [retryEvents, List.getLast?_append, hl, Option.some_or]

/-- A run that is not retried ends where its last attempt halts, or with the
merged results of its completed blocks. -/
theorem run_of_unretried (ha : EndsLines attempt) (first : String) (rest : List String) (s : S)
    (hw : Unretried (runNoted attempt wrap unmerged (first :: rest) s).2.2) :
    ∃ last, (walk attempt first rest s).1.getLast? = some last ∧
      ((halts last.outcome = true ∧
          run attempt wrap unmerged (first :: rest) s =
            (last.outcome, (walk attempt first rest s).2)) ∨
        ∃ payload merged, last.outcome = .ok (.success payload) ∧
          Response.mergeAll (.plainText "") (successes (walk attempt first rest s).1) =
            .ok merged ∧
          merged.Mergeable ∧
          run attempt wrap unmerged (first :: rest) s =
            (.ok merged, (walk attempt first rest s).2)) := by
  rw [runNoted_cons ha] at hw
  obtain ⟨merged, hm, hmerged⟩ := Response.mergeAll_mergeable (Response.mergeable_plainText "")
    (successes_mergeable fun a hmem r hr => walk_endsLine ha first rest s hmem hr)
  rw [run_eq_conclude ha]
  obtain ⟨last, hl⟩ := walk_getLast? attempt first rest s
  generalize walk attempt first rest s = walked at *
  refine ⟨last, hl, ?_⟩
  rcases outcome_cases last.outcome with hi | ⟨payload, hs⟩ | hh
  · rw [retryEvents_of_incomplete hl hi] at hw
    exact absurd (List.mem_append_right _ List.mem_cons_self) (hw _ _ _)
  · exact .inr ⟨payload, merged, hs, hm, hmerged, conclude_of_success hl hs hm⟩
  · exact .inl ⟨hh, conclude_of_halts hl hh⟩

/-- A success of a run that is not retried can be merged. -/
theorem mergeable_of_unretried (ha : EndsLines attempt) {lines : List String} (hl : lines ≠ [])
    {s : S} (hw : Unretried (runNoted attempt wrap unmerged lines s).2.2)
    {payload : List (String × Entry)}
    (hr : (run attempt wrap unmerged lines s).1 = .ok (.success payload)) :
    Response.Mergeable (.success payload) := by
  obtain ⟨first, rest, rfl⟩ := List.exists_cons_of_ne_nil hl
  obtain ⟨last, hlast, ⟨hhalts, hrun⟩ | ⟨p, merged, -, -, hmerged, hrun⟩⟩ :=
    run_of_unretried ha first rest s hw
  · rw [hrun] at hr
    dsimp only at hr
    rw [hr] at hhalts
    cases hhalts
  · rw [hrun] at hr
    cases hr
    exact hmerged

/-- Lines after an error or an abort change nothing. -/
theorem run_append_of_halts (ha : EndsLines attempt) {lines : List String} (hl : lines ≠ [])
    (more : List String) (s : S)
    (hw : Unretried (runNoted attempt wrap unmerged lines s).2.2)
    (hh : halts (run attempt wrap unmerged lines s).1 = true) :
    run attempt wrap unmerged (lines ++ more) s = run attempt wrap unmerged lines s := by
  obtain ⟨first, rest, rfl⟩ := List.exists_cons_of_ne_nil hl
  obtain ⟨last, hlast, ⟨hhalts, -⟩ | ⟨payload, merged, -, -, hmerged, hrun⟩⟩ :=
    run_of_unretried ha first rest s hw
  · rw [List.cons_append, run_eq_conclude ha, run_eq_conclude ha,
      walk_append_of_halts hlast hhalts]
  · -- a success does not halt
    rw [hrun] at hh
    cases hmerged with
    | silent hs => cases hh
    | worded hs => cases hh

/-- After lines that end with a completed block, more lines are run from the
state and the results that they leave. -/
theorem runNoted_append_of_success (ha : EndsLines attempt) {lines : List String}
    (hl : lines ≠ []) (next : String) (more : List String) (s : S)
    (hw : Unretried (runNoted attempt wrap unmerged lines s).2.2)
    {payload : List (String × Entry)}
    (hr : (run attempt wrap unmerged lines s).1 = .ok (.success payload)) :
    run attempt wrap unmerged (lines ++ next :: more) s =
        runFrom attempt wrap unmerged next more (.success payload)
          (run attempt wrap unmerged lines s).2 ∧
      (runNoted attempt wrap unmerged (lines ++ next :: more) s).2.2 =
        (runNoted attempt wrap unmerged lines s).2.2 ++
          (runNoted attempt wrap unmerged (next :: more)
            (run attempt wrap unmerged lines s).2).2.2 := by
  obtain ⟨first, rest, rfl⟩ := List.exists_cons_of_ne_nil hl
  obtain ⟨last, hlast, ⟨hhalts, hrun⟩ | ⟨p, merged, hs, hm, hmerged, hrun⟩⟩ :=
    run_of_unretried ha first rest s hw
  · rw [hrun] at hr
    dsimp only at hr
    rw [hr] at hhalts
    cases hhalts
  · rw [hrun] at hr
    cases hr
    have hwalk : walk attempt first (rest ++ next :: more) s =
        ((walk attempt first rest s).1 ++
            (walk attempt next more (walk attempt first rest s).2).1,
          (walk attempt next more (walk attempt first rest s).2).2) :=
      walk_append_of_success hlast hs
    have hne := walk_ne_nil attempt next more (walk attempt first rest s).2
    rw [List.cons_append]
    refine ⟨?_, ?_⟩
    · rw [run_eq_conclude ha, hwalk, conclude_append hm hne, hrun, runFrom_eq_conclude ha hmerged]
    · rw [runNoted_cons ha, hwalk, retryEvents_append hne, hrun, runNoted_cons ha,
        runNoted_cons ha, retryEvents_of_success hlast hs, List.map_append, List.append_nil,
        List.append_assoc]

/-- A predicate on events: every success is console text. -/
def Texts (events : List (Event S E)) : Prop :=
  ∀ a, Event.attempted a ∈ events → ∀ payload, a.outcome = .ok (.success payload) →
    ∃ t, Response.success payload = .plainText t

/-- Console text after console text is the joined text. -/
theorem follows_plainText (a b : String) :
    Follows (E := E) (.plainText a) (.ok (.plainText b)) (.ok (.plainText (a ++ b))) := by
  obtain ⟨m, hm, hr⟩ := Response.merge_plainText a b
  rw [← hr]
  exact .merged hm

/-- The successes among attempts are console texts when each of them is. -/
theorem successes_texts {attempts : List (Attempt S E)}
    (h : ∀ a ∈ attempts, ∀ payload, a.outcome = .ok (.success payload) →
      ∃ t, Response.success payload = .plainText t) :
    ∃ texts : List String, successes attempts = texts.map .plainText := by
  induction attempts with
  | nil => exact ⟨[], rfl⟩
  | cons a rest ih =>
    obtain ⟨texts, ht⟩ := ih fun b hb => h b (List.mem_cons_of_mem a hb)
    unfold successes
    split
    · next payload ho =>
      obtain ⟨t, hp⟩ := h a List.mem_cons_self payload ho
      exact ⟨t :: texts, by rw [hp, ht, List.map_cons]⟩
    · exact ⟨texts, ht⟩

/-- The retry of a block after console text follows the retry of it alone. -/
theorem settleRetry_follows (a b : String) {outcome : Except E Response}
    (he : ∀ r, outcome = .ok r → r.EndsLine)
    (ht : ∀ payload, outcome = .ok (.success payload) →
      ∃ t, Response.success payload = .plainText t) :
    Follows (.plainText a) (settleRetry unmerged (.plainText b) outcome)
      (settleRetry unmerged (.plainText (a ++ b)) outcome) := by
  cases outcome with
  | error e => exact .raised e
  | ok r =>
    cases he r rfl with
    | error kind name traceback => exact .incomplete
    | incomplete => exact .incomplete
    | aborted message => exact .aborted message
    | @success payload hp =>
      obtain ⟨t, hpayload⟩ := ht payload rfl
      have hplain : payload = [(plainTextMedia, .text t)] := Response.success.inj hpayload
      subst hplain
      obtain ⟨m, hm, hr⟩ := Response.merge_plainText b t
      obtain ⟨m', hm', hr'⟩ := Response.merge_plainText (a ++ b) t
      have hm : Response.merge (.plainText b) (.success [(plainTextMedia, .text t)]) = .ok m := hm
      have hm' : Response.merge (.plainText (a ++ b)) (.success [(plainTextMedia, .text t)]) =
          .ok m' := hm'
      by_cases hb : (Entry.text t).isTruthy = true
      · simp only [settleRetry, Response.textOf_ofText, hb, hm, hm', hr, hr', if_true]
        rw [String.append_assoc]
        exact follows_plainText a (b ++ t)
      · simp only [settleRetry, Response.textOf_ofText, if_neg hb]
        exact follows_plainText a b

/-- Lines that are run after console text follow the lines run alone, and leave
the same state, when every success among them is console text. -/
theorem runFrom_follows (ha : EndsLines attempt) (first : String) (rest : List String) (s : S)
    (ht : Texts (runNoted attempt wrap unmerged (first :: rest) s).2.2) (before : String) :
    Follows (.plainText before) (run attempt wrap unmerged (first :: rest) s).1
        (runFrom attempt wrap unmerged first rest (.plainText before) s).1 ∧
      (runFrom attempt wrap unmerged first rest (.plainText before) s).2 =
        (run attempt wrap unmerged (first :: rest) s).2 := by
  rw [runNoted_cons ha] at ht
  rw [run_eq_conclude ha, runFrom_eq_conclude ha (Response.mergeable_plainText before)]
  have hends : ∀ a ∈ (walk attempt first rest s).1, ∀ r, a.outcome = .ok r → r.EndsLine :=
    fun a hmem r hr => walk_endsLine ha first rest s hmem hr
  obtain ⟨last, hl⟩ := walk_getLast? attempt first rest s
  have hmem := List.mem_of_getLast? hl
  generalize walk attempt first rest s = walked at *
  -- Both folds take the same texts, one from nothing and one from before.
  obtain ⟨texts, htexts⟩ := successes_texts fun a h =>
    ht a (List.mem_append_left _ (List.mem_map_of_mem h))
  have hm := Response.mergeAll_plainText "" texts
  have hm' := Response.mergeAll_plainText before texts
  rw [String.empty_append] at hm
  rw [← htexts] at hm hm'
  rcases outcome_cases last.outcome with hi | ⟨payload, hs⟩ | hh
  · rw [retryEvents_of_incomplete hl hi] at ht
    rw [conclude_of_incomplete hl hi hm, conclude_of_incomplete hl hi hm']
    cases hw : (wrap last.text walked.2).1 with
    | error e =>
      rw [retry_of_error hw, retry_of_error hw]
      exact ⟨.raised e, rfl⟩
    | ok text =>
      rw [retry_of_ok hw, retry_of_ok hw]
      simp only [blockEvents, hw] at ht
      refine ⟨settleRetry_follows before (String.join texts) (fun r hr => ha _ _ r hr) ?_, rfl⟩
      exact ht _ (List.mem_append_right _ (List.mem_cons_of_mem _ List.mem_cons_self))
  · rw [conclude_of_success hl hs hm, conclude_of_success hl hs hm']
    exact ⟨follows_plainText before (String.join texts), rfl⟩
  · rw [conclude_of_halts hl hh, conclude_of_halts hl hh]
    refine ⟨?_, rfl⟩
    cases ho : last.outcome with
    | error e => exact .raised e
    | ok r =>
      rw [ho] at hh
      cases hends last hmem r ho with
      | success hp => cases hh
      | error kind name traceback => exact .error kind name traceback
      | incomplete => cases hh
      | aborted message => exact .aborted message

/-- A run that is not retried and succeeds with nothing but console texts comes
to console text. -/
theorem run_texts (ha : EndsLines attempt) (first : String) (rest : List String) (s : S)
    (hw : Unretried (runNoted attempt wrap unmerged (first :: rest) s).2.2)
    (ht : Texts (runNoted attempt wrap unmerged (first :: rest) s).2.2)
    {payload : List (String × Entry)}
    (hr : (run attempt wrap unmerged (first :: rest) s).1 = .ok (.success payload)) :
    ∃ t, Response.success payload = .plainText t := by
  obtain ⟨last, -, ⟨hhalts, hrun⟩ | ⟨p, merged, -, hm, -, hrun⟩⟩ :=
    run_of_unretried ha first rest s hw
  · rw [hrun] at hr
    dsimp only at hr
    rw [hr] at hhalts
    cases hhalts
  · rw [hrun] at hr
    cases hr
    rw [runNoted_cons ha] at ht
    obtain ⟨texts, htexts⟩ := successes_texts fun a h =>
      ht a (List.mem_append_left _ (List.mem_map_of_mem h))
    rw [htexts, Response.mergeAll_plainText] at hm
    exact ⟨_, (Except.ok.inj hm).symm⟩

/-- Two runs of lines of which the first succeeds without a retry, and that
succeed with nothing but console texts, are one run of all lines. Its result
follows from the two, and its events are theirs. -/
theorem runNoted_append (ha : EndsLines attempt) {lines more : List String} (hl : lines ≠ [])
    (hmore : more ≠ []) (s : S)
    (hw : Unretried (runNoted attempt wrap unmerged lines s).2.2)
    (ht : Texts (runNoted attempt wrap unmerged lines s).2.2)
    {payload : List (String × Entry)}
    (hr : (run attempt wrap unmerged lines s).1 = .ok (.success payload))
    (ht' : Texts (runNoted attempt wrap unmerged more
      (run attempt wrap unmerged lines s).2).2.2) :
    Follows (.success payload)
        (run attempt wrap unmerged more (run attempt wrap unmerged lines s).2).1
        (run attempt wrap unmerged (lines ++ more) s).1 ∧
      (run attempt wrap unmerged (lines ++ more) s).2 =
        (run attempt wrap unmerged more (run attempt wrap unmerged lines s).2).2 ∧
      (runNoted attempt wrap unmerged (lines ++ more) s).2.2 =
        (runNoted attempt wrap unmerged lines s).2.2 ++
          (runNoted attempt wrap unmerged more (run attempt wrap unmerged lines s).2).2.2 := by
  obtain ⟨first, rest, rfl⟩ := List.exists_cons_of_ne_nil hl
  obtain ⟨next, others, rfl⟩ := List.exists_cons_of_ne_nil hmore
  obtain ⟨t, hplain⟩ := run_texts ha first rest s hw ht hr
  obtain ⟨hrun, hevents⟩ := runNoted_append_of_success ha hl next others s hw hr
  rw [hplain] at hrun ⊢
  rw [hrun]
  obtain ⟨hfollows, hstate⟩ := runFrom_follows ha next others _ ht' t
  exact ⟨hfollows, hstate, hevents⟩

end LiveSession.Submission
