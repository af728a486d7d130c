import LiveSession.Response.Merge

/-!
# Merging the results of lines

A line of a submission succeeds with console text, which is a string, or with
an entry that a magic made, which is no text. Successes of these two kinds can
always be merged, and so can any run of them; console texts are joined in
order.
-/

namespace LiveSession

/-- Console text counts as true unless it is empty. -/
theorem Entry.isTruthy_text (t : String) : (Entry.text t).isTruthy = !t.isEmpty := rfl

/-- The sum of two console texts is the joined text. -/
theorem Entry.add_text (a b : String) : (Entry.text a).add (.text b) = .ok (.text (a ++ b)) := rfl

namespace Response

/-- A success that has no text, or a string for its text. -/
inductive Mergeable : Response → Prop
  /-- There is no text. -/
  | silent {payload : List (String × Entry)} (h : textOf payload = none) :
      Mergeable (.success payload)
  /-- The text is a string. -/
  | worded {payload : List (String × Entry)} {t : String} (h : textOf payload = some (.text t)) :
      Mergeable (.success payload)

/-- What a line of a submission can end in. -/
inductive EndsLine : Response → Prop
  | success {payload : List (String × Entry)} (h : Mergeable (.success payload)) :
      EndsLine (.success payload)
  | error (kind name : String) (traceback : List String) : EndsLine (.error kind name traceback)
  | incomplete : EndsLine .incomplete
  | aborted (message : String) : EndsLine (.aborted message)

/-- The text of a success that was made of console text. -/
theorem textOf_ofText (t : String) : textOf [(plainTextMedia, .text t)] = some (.text t) := rfl

/-- Console text can be merged. -/
theorem mergeable_plainText (t : String) : Mergeable (plainText t) :=
  .worded (textOf_ofText t)

/-- The texts of two successes are always merged, into something that can be
merged again. -/
theorem mergeTexts_text (a b : String) {response : Response} (hr : Mergeable response) :
    ∃ m, mergeTexts (.text a) (.text b) response = .ok m ∧ Mergeable m.response := by
  unfold mergeTexts
  rw [Entry.isTruthy_text, Entry.isTruthy_text, Entry.add_text]
  split
  · split
    · exact ⟨_, rfl, mergeable_plainText (a ++ b)⟩
    · exact ⟨_, rfl, mergeable_plainText a⟩
  · split
    · exact ⟨_, rfl, mergeable_plainText b⟩
    · exact ⟨_, rfl, hr⟩

/-- Two successes of lines can be merged, and what comes out can be merged
again. -/
theorem merge_mergeable {older newer : Response} (ho : Mergeable older) (hn : Mergeable newer) :
    ∃ m, merge older newer = .ok m ∧ Mergeable m.response := by
  cases ho with
  | silent ho =>
    cases hn with
    | silent hn => exact ⟨⟨.newer, _⟩, by simp only [merge, ho], .silent hn⟩
    | worded hn => exact ⟨⟨.newer, _⟩, by simp only [merge, ho], .worded hn⟩
  | worded ho =>
    cases hn with
    | silent hn => exact ⟨⟨.newer, _⟩, by simp only [merge, ho, hn], .silent hn⟩
    | worded hn =>
      simp only [merge, ho, hn]
      exact mergeTexts_text _ _ (.worded hn)

/-- A run of successes of lines is always folded, and what comes out can be
merged again. -/
theorem mergeAll_mergeable {start : Response} {results : List Response} (hs : Mergeable start)
    (hr : ∀ r ∈ results, Mergeable r) :
    ∃ m, mergeAll start results = .ok m ∧ Mergeable m := by
  induction results generalizing start with
  | nil => exact ⟨start, rfl, hs⟩
  | cons r rest ih =>
    obtain ⟨m, hm, hmerge⟩ := merge_mergeable hs (hr r List.mem_cons_self)
    obtain ⟨last, hl, hlast⟩ := ih hmerge fun x hx => hr x (List.mem_cons_of_mem r hx)
    exact ⟨last, by simp only [mergeAll, hm, hl], hlast⟩

/-- Responses are folded in two parts. -/
theorem mergeAll_append {start merged : Response} {results : List Response}
    (h : mergeAll start results = .ok merged) (more : List Response) :
    mergeAll start (results ++ more) = mergeAll merged more := by
  induction results generalizing start with
  | nil =>
    cases h
    rfl
  | cons r rest ih =>
    simp only [List.cons_append, mergeAll] at h ⊢
    cases hm : merge start r with
    | error e =>
      rw [hm] at h
      cases h
    | ok m =>
      rw [hm] at h
      exact ih h

/-- Two console texts are merged into the joined text. -/
theorem merge_plainText (a b : String) :
    ∃ m, merge (plainText a) (plainText b) = .ok m ∧ m.response = plainText (a ++ b) := by
  have hm : merge (plainText a) (plainText b) =
      mergeTexts (.text a) (.text b) (plainText b) := rfl
  rw [hm]
  unfold mergeTexts
  rw [Entry.isTruthy_text, Entry.isTruthy_text, Entry.add_text]
  by_cases ha : a = ""
  · by_cases hb : b = ""
    · rw [ha, hb]
      exact ⟨_, rfl, rfl⟩
    · rw [ha, String.empty_append, if_neg (by simp), if_pos (by simpa using hb)]
      exact ⟨_, rfl, rfl⟩
  · rw [if_pos (by simpa using ha)]
    by_cases hb : b = ""
    · rw [hb, String.append_empty, if_neg (by simp)]
      exact ⟨_, rfl, rfl⟩
    · rw [if_pos (by simpa using hb)]
      exact ⟨_, rfl, rfl⟩

/-- A run of console texts is folded into the joined text. -/
theorem mergeAll_plainText (start : String) (texts : List String) :
    mergeAll (plainText start) (texts.map plainText) =
      .ok (plainText (start ++ String.join texts)) := by
  induction texts generalizing start with
  | nil => simp only [List.map_nil, mergeAll, String.join_nil, String.append_empty]
  | cons t rest ih =>
    obtain ⟨m, hm, hr⟩ := merge_plainText start t
    simp only [List.map_cons, mergeAll, hm, hr, ih, String.join_cons, String.append_assoc]

end Response

end LiveSession
