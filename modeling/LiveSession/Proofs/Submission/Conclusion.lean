import LiveSession.Proofs.Submission.Notes

/-!
# The response to a submission

The attempts of a run, together with the retry of its last block, determine
its response. It is the first error or abort; or the merged results of the
completed blocks, in order; or, where the last block is incomplete, what the
retry of it makes of those. The response to an incomplete attempt is not part
of it in any other way.
-/

namespace LiveSession.Submission

variable {S E : Type}

/-- The response to a submission whose last block was retried, given the merged
results of the completed blocks and the response to the retry. -/
inductive Settles (merged : Response) : Response → Response → Prop
  | incomplete : Settles merged .incomplete .incomplete
  | error (kind name : String) (traceback : List String) :
      Settles merged (.error kind name traceback) .incomplete
  | aborted (message : String) : Settles merged (.aborted message) (.aborted message)
  /-- A result without text, such as that of a magic, is dropped. -/
  | silent {payload : List (String × Entry)} (h : Response.textOf payload = none) :
      Settles merged (.success payload) merged
  | empty {payload : List (String × Entry)} (h : Response.textOf payload = some (.text "")) :
      Settles merged (.success payload) merged
  | worded {payload : List (String × Entry)} {t : String} {m : Merged}
      (h : Response.textOf payload = some (.text t)) (ht : t ≠ "")
      (hm : Response.merge merged (.success payload) = .ok m) :
      Settles merged (.success payload) m.response

/-- The result of a run, given its attempts at lines and the events of the
retry. -/
inductive Concludes (attempts : List (Attempt S E)) :
    List (Event S E) → Except E Response → Prop
  | failed {last : Attempt S E} {kind name : String} {traceback : List String}
      (hl : attempts.getLast? = some last) (ho : last.outcome = .ok (.error kind name traceback)) :
      Concludes attempts [] (.ok (.error kind name traceback))
  | aborted {last : Attempt S E} {message : String} (hl : attempts.getLast? = some last)
      (ho : last.outcome = .ok (.aborted message)) :
      Concludes attempts [] (.ok (.aborted message))
  | completed {last : Attempt S E} {payload : List (String × Entry)} {merged : Response}
      (hl : attempts.getLast? = some last) (ho : last.outcome = .ok (.success payload))
      (hm : Response.mergeAll (.plainText "") (successes attempts) = .ok merged) :
      Concludes attempts [] (.ok merged)
  | retried {last : Attempt S E} {s s' : S} {block text : String}
      {merged r response : Response} (hl : attempts.getLast? = some last)
      (ho : last.outcome = .ok .incomplete) (hb : last.text = block)
      (hm : Response.mergeAll (.plainText "") (successes attempts) = .ok merged)
      (hr : Settles merged r response) :
      Concludes attempts [.wrapped s block (.ok text), .attempted ⟨s', text, .ok r⟩]
        (.ok response)
  /-- The block cannot be wrapped; what was raised is raised. -/
  | refused {last : Attempt S E} {s : S} {block : String} {e : E}
      (hl : attempts.getLast? = some last) (ho : last.outcome = .ok .incomplete)
      (hb : last.text = block) :
      Concludes attempts [.wrapped s block (.error e)] (.error e)

/-- A retry settles a submission in one way. -/
theorem Settles.unique {merged r a b : Response} (ha : Settles merged r a)
    (hb : Settles merged r b) : a = b := by
  cases ha with
  | incomplete => cases hb; rfl
  | error kind name traceback => cases hb; rfl
  | aborted message => cases hb; rfl
  | silent h =>
    cases hb with
    | silent h' => rfl
    | empty h' => rfl
    | worded h' ht hm =>
      rw [h] at h'
      cases h'
  | empty h =>
    cases hb with
    | silent h' => rfl
    | empty h' => rfl
    | worded h' ht hm =>
      rw [h] at h'
      cases h'
      exact absurd rfl ht
  | worded h ht hm =>
    cases hb with
    | silent h' =>
      rw [h] at h'
      cases h'
    | empty h' =>
      rw [h] at h'
      cases h'
      exact absurd rfl ht
    | worded h' ht' hm' =>
      rw [hm] at hm'
      cases hm'
      rfl

/-- Attempts and retry determine the result of a run. -/
theorem Concludes.unique {attempts : List (Attempt S E)} {retry : List (Event S E)}
    {a b : Except E Response} (ha : Concludes attempts retry a)
    (hb : Concludes attempts retry b) : a = b := by
  have hlast : ∀ {x y : Attempt S E}, attempts.getLast? = some x →
      attempts.getLast? = some y → x.outcome = y.outcome := fun hx hy => by
    rw [hx] at hy
    cases hy
    rfl
  cases ha with
  | failed hl ho =>
    cases hb with
    | failed hl' ho' => cases ho.symm.trans ((hlast hl hl').trans ho'); rfl
    | aborted hl' ho' => cases ho.symm.trans ((hlast hl hl').trans ho')
    | completed hl' ho' hm' => cases ho.symm.trans ((hlast hl hl').trans ho')
  | aborted hl ho =>
    cases hb with
    | failed hl' ho' => cases ho.symm.trans ((hlast hl hl').trans ho')
    | aborted hl' ho' => cases ho.symm.trans ((hlast hl hl').trans ho'); rfl
    | completed hl' ho' hm' => cases ho.symm.trans ((hlast hl hl').trans ho')
  | completed hl ho hm =>
    cases hb with
    | failed hl' ho' => cases ho.symm.trans ((hlast hl hl').trans ho')
    | aborted hl' ho' => cases ho.symm.trans ((hlast hl hl').trans ho')
    | completed hl' ho' hm' => cases hm.symm.trans hm'; rfl
  | retried hl ho hb' hm hr =>
    cases hb with
    | retried hl' ho' hb'' hm' hr' =>
      cases hm.symm.trans hm'
      rw [hr.unique hr']
  | refused hl ho hb' =>
    cases hb
    rfl

section Walk

variable {attempt : Operation S E Response} {wrap : Operation S E String}
  {unmerged : MergeError → E}

/-- No attempt of a walk halts before the last. -/
theorem walk_dropLast (attempt : Operation S E Response) (block : String) (rest : List String)
    (s : S) {a : Attempt S E} (h : a ∈ (walk attempt block rest s).1.dropLast) :
    halts a.outcome = false := by
  induction rest generalizing block s with
  | nil => cases h
  | cons next rest ih =>
    rcases outcome_cases (attempt block s).1 with hi | ⟨payload, hs⟩ | hh
    · rw [walk_incomplete hi, List.dropLast_cons_of_ne_nil (walk_ne_nil _ _ _ _)] at h
      rcases List.mem_cons.mp h with rfl | hmem
      · rfl
      · exact ih _ _ hmem
    · rw [walk_success hs, List.dropLast_cons_of_ne_nil (walk_ne_nil _ _ _ _)] at h
      rcases List.mem_cons.mp h with rfl | hmem
      · rfl
      · exact ih _ _ hmem
    · rw [walk_halts hh] at h
      cases h

/-- The attempts of a walk come to what a line can end in. -/
theorem walk_endsLine (ha : EndsLines attempt) (block : String) (rest : List String) (s : S)
    {a : Attempt S E} (h : a ∈ (walk attempt block rest s).1) {r : Response}
    (hr : a.outcome = .ok r) : r.EndsLine := by
  induction rest generalizing block s with
  | nil =>
    cases List.mem_singleton.mp h
    exact ha block s r hr
  | cons next rest ih =>
    rcases outcome_cases (attempt block s).1 with hi | ⟨payload, hs⟩ | hh
    · rw [walk_incomplete hi] at h
      rcases List.mem_cons.mp h with rfl | hmem
      · exact ha block s r (hi.trans hr)
      · exact ih _ _ hmem
    · rw [walk_success hs] at h
      rcases List.mem_cons.mp h with rfl | hmem
      · exact ha block s r (hs.trans hr)
      · exact ih _ _ hmem
    · rw [walk_halts hh] at h
      cases List.mem_singleton.mp h
      exact ha block s r hr

/-- The successes of attempts have what their outcomes have. -/
theorem forall_mem_successes {P : Response → Prop} {attempts : List (Attempt S E)}
    (h : ∀ a ∈ attempts, ∀ payload, a.outcome = .ok (.success payload) → P (.success payload)) :
    ∀ r ∈ successes attempts, P r := by
  induction attempts with
  | nil =>
    intro r hr
    cases hr
  | cons a rest ih =>
    have hrest := ih fun b hb => h b (List.mem_cons_of_mem a hb)
    unfold successes
    split
    · next payload ho =>
      exact List.forall_mem_cons.mpr ⟨h a List.mem_cons_self payload ho, hrest⟩
    · exact hrest

/-- The successes of attempts can be merged when the attempts come to what a
line can end in. -/
theorem successes_mergeable {attempts : List (Attempt S E)}
    (h : ∀ a ∈ attempts, ∀ r, a.outcome = .ok r → r.EndsLine) :
    ∀ r ∈ successes attempts, r.Mergeable := by
  refine forall_mem_successes fun a hmem payload ho => ?_
  cases h a hmem _ ho with
  | success hp => exact hp

/-- The retry of a block is settled by the response to it. -/
theorem settleRetry_settles (unmerged : MergeError → E) {merged r : Response}
    (hm : merged.Mergeable) (hr : r.EndsLine) :
    ∃ response, settleRetry unmerged merged (.ok r) = .ok response ∧
      Settles merged r response := by
  cases hr with
  | error kind name traceback => exact ⟨_, rfl, .error kind name traceback⟩
  | incomplete => exact ⟨_, rfl, .incomplete⟩
  | aborted message => exact ⟨_, rfl, .aborted message⟩
  | success hp =>
    obtain ⟨m, hmerge, -⟩ := Response.merge_mergeable hm hp
    cases hp with
    | silent hs => exact ⟨merged, by simp only [settleRetry, hs], .silent hs⟩
    | @worded payload t hw =>
      by_cases ht : t = ""
      · subst ht
        exact ⟨merged, by simp [settleRetry, hw, Entry.isTruthy_text], .empty hw⟩
      · have hb : (Entry.text t).isTruthy = true := by simpa [Entry.isTruthy_text] using ht
        exact ⟨m.response, by simp only [settleRetry, hw, hb, hmerge, if_true],
          .worded hw ht hmerge⟩

/-- A run whose attempts all come to a response is concluded from them. -/
theorem run_concludes (ha : EndsLines attempt) (first : String) (rest : List String) (s : S)
    (ht : ∀ a, Event.attempted a ∈ (runNoted attempt wrap unmerged (first :: rest) s).2.2 →
      ∃ r, a.outcome = .ok r) :
    Concludes (walk attempt first rest s).1 (retryEvents attempt wrap (walk attempt first rest s))
      (run attempt wrap unmerged (first :: rest) s).1 := by
  rw [runNoted_cons ha] at ht
  rw [run_eq_conclude ha]
  have hends : ∀ a ∈ (walk attempt first rest s).1, ∀ r, a.outcome = .ok r → r.EndsLine :=
    fun a hmem r hr => walk_endsLine ha first rest s hmem hr
  obtain ⟨last, hl⟩ := walk_getLast? attempt first rest s
  have hmem := List.mem_of_getLast? hl
  generalize walk attempt first rest s = walked at *
  obtain ⟨merged, hm, hmerged⟩ :=
    Response.mergeAll_mergeable (Response.mergeable_plainText "") (successes_mergeable hends)
  obtain ⟨r, ho⟩ := ht last (List.mem_append_left _ (List.mem_map_of_mem hmem))
  cases hends last hmem r ho with
  | error kind name traceback =>
    have hh : halts last.outcome = true := by rw [ho]; rfl
    rw [conclude_of_halts hl hh, retryEvents_of_halts hl hh, ho]
    exact .failed hl ho
  | aborted message =>
    have hh : halts last.outcome = true := by rw [ho]; rfl
    rw [conclude_of_halts hl hh, retryEvents_of_halts hl hh, ho]
    exact .aborted hl ho
  | success hp =>
    rw [conclude_of_success hl ho hm, retryEvents_of_success hl ho]
    exact .completed hl ho hm
  | incomplete =>
    have hevents : retryEvents attempt wrap walked = blockEvents attempt wrap last.text walked.2 :=
      retryEvents_of_incomplete hl ho
    rw [hevents] at ht ⊢
    rw [conclude_of_incomplete hl ho hm]
    cases hw : (wrap last.text walked.2).1 with
    | error e =>
      rw [retry_of_error hw]
      simp only [blockEvents, hw]
      exact .refused hl ho rfl
    | ok text =>
      rw [retry_of_ok hw]
      simp only [blockEvents, hw] at ht ⊢
      obtain ⟨r', hr'⟩ := ht _ (List.mem_append_right _ (List.mem_cons_of_mem _ List.mem_cons_self))
      dsimp only at hr'
      rw [hr']
      obtain ⟨response, hsettle, hsettles⟩ := settleRetry_settles unmerged hmerged (ha _ _ _ hr')
      rw [hsettle]
      exact .retried hl ho rfl hm hsettles

/-- A noted run of lines notes its attempts and its retry. No attempt before the
last halts, and when all come to a response, they determine that of the run. -/
theorem runNoted_concludes (ha : EndsLines attempt) {lines : List String} (hl : lines ≠ [])
    (s : S)
    (ht : ∀ a, Event.attempted a ∈ (runNoted attempt wrap unmerged lines s).2.2 →
      ∃ r, a.outcome = .ok r) :
    ∃ (attempts : List (Attempt S E)) (retry : List (Event S E)),
      runNoted attempt wrap unmerged lines s =
        ((run attempt wrap unmerged lines s).1, (run attempt wrap unmerged lines s).2,
          attempts.map .attempted ++ retry) ∧
      (∀ a ∈ attempts.dropLast, halts a.outcome = false) ∧
      Concludes attempts retry (run attempt wrap unmerged lines s).1 := by
  obtain ⟨first, rest, rfl⟩ := List.exists_cons_of_ne_nil hl
  exact ⟨_, _, runNoted_cons ha first rest s, fun a hmem => walk_dropLast _ _ _ _ hmem,
    run_concludes ha first rest s ht⟩

/-- A submission whose block could be wrapped, if it was, has a response. -/
theorem Concludes.responds {attempts : List (Attempt S E)} {retry : List (Event S E)}
    {result : Except E Response} (h : Concludes attempts retry result)
    (hw : ∀ before block escape, Event.wrapped before block (.error escape) ∉ retry) :
    ∃ response, result = .ok response := by
  cases h with
  | failed hl ho => exact ⟨_, rfl⟩
  | aborted hl ho => exact ⟨_, rfl⟩
  | completed hl ho hm => exact ⟨_, rfl⟩
  | retried hl ho hb hm hr => exact ⟨_, rfl⟩
  | refused hl ho hb => exact absurd List.mem_cons_self (hw _ _ _)

end Walk

end LiveSession.Submission
