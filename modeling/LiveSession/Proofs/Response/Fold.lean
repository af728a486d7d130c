import LiveSession.Proofs.Response.Merge
import Mathlib.Data.List.Induction

/-!
# What a run of results comes to

Folding the results of lines depends on the last of them that has no text. What
was printed before it is gone, and it is never joined with anything; what was
printed after it is joined in order. The newest result is kept as it is where
there is no such text, and where it is the only one after a result without text.
-/

namespace LiveSession.Response

/-- Whether a response has no text. -/
def isSilent : Response → Bool
  | .success payload => (textOf payload).isNone
  | _ => true

/-- The text of a response, empty where it has none. -/
def wording : Response → String
  | .success payload =>
    match textOf payload with
    | some (.host (.string t)) => t
    | _ => ""
  | _ => ""

/-- The place of the last result without text, counted from one; zero where all
have a text. -/
def lastSilent (results : List Response) : Nat :=
  results.length - results.reverse.findIdx isSilent

/-- The texts of the results after the last one without text, joined. -/
def textAfter (results : List Response) : String :=
  String.join ((results.drop (lastSilent results)).map wording)

/-- The last step of folding results: the newest itself, or a response made of
texts. -/
def closing (results : List Response) (newest : Response) : Merged :=
  if lastSilent results = results.length ∨ textAfter results = "" ∨
      (0 < lastSilent results ∧ results.length = lastSilent results + 1) then ⟨.newer, newest⟩
  else ⟨.joined, plainText (textAfter results)⟩

/-- The last result without text is one of the results. -/
theorem lastSilent_le (results : List Response) : lastSilent results ≤ results.length :=
  Nat.sub_le _ _

/-- A result without text is the last such one when it comes, and a text makes no
difference. -/
theorem lastSilent_concat (results : List Response) (newest : Response) :
    lastSilent (results ++ [newest]) =
      if newest.isSilent then results.length + 1 else lastSilent results := by
  unfold lastSilent
  rw [List.reverse_concat, List.findIdx_cons, List.length_append, List.length_singleton]
  cases newest.isSilent with
  | true => rfl
  | false => exact Nat.add_sub_add_right _ _ _

/-- The place of the last result without text: there is one, unless the place is
zero, and every later result has a text. -/
theorem lastSilent_spec (results : List Response) :
    (0 < lastSilent results →
      ∃ r, results[lastSilent results - 1]? = some r ∧ r.isSilent = true) ∧
    ∀ r ∈ results.drop (lastSilent results), r.isSilent = false := by
  induction results using List.reverseRecOn with
  | nil => exact ⟨(fun h => nomatch h), fun _ h => nomatch h⟩
  | append_singleton results newest ih =>
    obtain ⟨hlast, hlater⟩ := ih
    have hle := lastSilent_le results
    rw [lastSilent_concat]
    cases hn : newest.isSilent with
    | true =>
      rw [if_pos rfl]
      refine ⟨fun _ => ⟨newest, List.getElem?_concat_length, hn⟩, fun r hr => ?_⟩
      rw [← List.length_singleton (a := newest), ← List.length_append, List.drop_length] at hr
      cases hr
    | false =>
      rw [if_neg Bool.false_ne_true, List.drop_append_of_le_length hle]
      refine ⟨fun h => ?_, fun r hr => ?_⟩
      · obtain ⟨r, hr, hs⟩ := hlast h
        refine ⟨r, ?_, hs⟩
        rw [List.getElem?_append_left (by omega), hr]
      · rcases List.mem_append.mp hr with hold | hnew
        · exact hlater r hold
        · cases List.mem_singleton.mp hnew
          exact hn

/-- No text comes after a newest result without text; a text is added at the end. -/
theorem textAfter_concat (results : List Response) (newest : Response) :
    textAfter (results ++ [newest]) =
      if newest.isSilent then "" else textAfter results ++ newest.wording := by
  unfold textAfter
  rw [lastSilent_concat]
  cases newest.isSilent with
  | true =>
    rw [if_pos rfl, if_pos rfl, ← List.length_singleton (a := newest), ← List.length_append,
      List.drop_length, List.map_nil, String.join_nil]
  | false =>
    rw [if_neg Bool.false_ne_true, if_neg Bool.false_ne_true,
      List.drop_append_of_le_length (lastSilent_le results), List.map_append, String.join_append,
      List.map_singleton, String.join_cons, String.join_nil, String.append_empty]

/-- What the results so far stand at: the last of them has no text, or the text
is that of all results after the last one without text. -/
inductive StandsAt (results : List Response) : Response → Prop
  | silent {payload : List (String × Entry)} (h : textOf payload = none)
      (hk : 0 < lastSilent results) (hl : lastSilent results = results.length) :
      StandsAt results (.success payload)
  | worded {payload : List (String × Entry)} (h : textOf payload = some (.text (textAfter results)))
      (hk : lastSilent results = 0 ∨ lastSilent results < results.length) :
      StandsAt results (.success payload)

/-- Before the first result there is the empty text. -/
theorem standsAt_nil : StandsAt [] (plainText "") :=
  .worded rfl (.inl rfl)

/-- There is no text after the last result, if that has none. -/
theorem textAfter_of_last {results : List Response} (h : lastSilent results = results.length) :
    textAfter results = "" := by
  unfold textAfter
  rw [h, List.drop_length, List.map_nil, String.join_nil]

/-- Two texts are merged into the joined text, unless both are empty. -/
theorem mergeTexts_eq (a b : String) (newer : Response) :
    mergeTexts (.text a) (.text b) newer =
      .ok (if a ++ b = "" then ⟨.newer, newer⟩ else ⟨.joined, plainText (a ++ b)⟩) := by
  unfold mergeTexts
  rw [Entry.isTruthy_text, Entry.isTruthy_text, Entry.add_text]
  by_cases ha : a = ""
  · by_cases hb : b = ""
    · rw [ha, hb]
      rfl
    · rw [ha, String.empty_append, if_neg (by simp), if_pos (by simpa using hb), if_neg hb]
      rfl
  · have hne : a ++ b ≠ "" := fun h => ha (String.append_eq_empty_iff.mp h).1
    rw [if_pos (by simpa using ha), if_neg hne]
    by_cases hb : b = ""
    · rw [hb, String.append_empty, if_neg (by simp)]
      rfl
    · rw [if_pos (by simpa using hb)]
      rfl

section Step

variable {results : List Response} {older : Response} {payload : List (String × Entry)}

/-- A result without text takes the place of what came before. -/
theorem merge_silent (ho : StandsAt results older) (hs : textOf payload = none) :
    merge older (.success payload) =
        .ok (closing (results ++ [.success payload]) (.success payload)) ∧
      StandsAt (results ++ [.success payload])
        (closing (results ++ [.success payload]) (.success payload)).response := by
  have hsilent : (Response.success payload).isSilent = true := by
    simp only [isSilent, hs, Option.isNone_none]
  have hl : (results ++ [Response.success payload]).length = results.length + 1 := by
    rw [List.length_append, List.length_singleton]
  have hk : lastSilent (results ++ [.success payload]) = results.length + 1 := by
    rw [lastSilent_concat, hsilent, if_pos rfl]
  have hclosing : closing (results ++ [.success payload]) (.success payload) =
      ⟨.newer, .success payload⟩ := if_pos (.inl (hk.trans hl.symm))
  rw [hclosing]
  refine ⟨?_, .silent hs (by omega) (by omega)⟩
  cases ho with
  | silent h => simp only [merge, h]
  | worded h => simp only [merge, h, hs]

/-- A text takes the place of a result without text, and is joined with texts. -/
theorem merge_worded (ho : StandsAt results older) {t : String}
    (ht : textOf payload = some (.text t)) :
    merge older (.success payload) =
        .ok (closing (results ++ [.success payload]) (.success payload)) ∧
      StandsAt (results ++ [.success payload])
        (closing (results ++ [.success payload]) (.success payload)).response := by
  have hsilent : (Response.success payload).isSilent = false := by
    simp only [isSilent, ht, Option.isNone_some]
  have hwording : (Response.success payload).wording = t := by
    simp only [wording, ht, Entry.text]
  have hl : (results ++ [Response.success payload]).length = results.length + 1 := by
    rw [List.length_append, List.length_singleton]
  have hk : lastSilent (results ++ [.success payload]) = lastSilent results := by
    rw [lastSilent_concat, hsilent, if_neg Bool.false_ne_true]
  have htext : textAfter (results ++ [.success payload]) = textAfter results ++ t := by
    rw [textAfter_concat, hsilent, if_neg Bool.false_ne_true, hwording]
  have hle := lastSilent_le results
  unfold closing
  rw [hk, hl, htext]
  cases ho with
  | silent h hpos hlast =>
    rw [if_pos (.inr (.inr ⟨hpos, by omega⟩))]
    have hnew : textOf payload = some (.text (textAfter (results ++ [.success payload]))) := by
      rw [htext, textAfter_of_last hlast, String.empty_append, ht]
    exact ⟨by simp only [merge, h], .worded hnew (by omega)⟩
  | @worded before h hpos =>
    -- Neither of the other two reasons to keep the newest result is there.
    have hcond : (lastSilent results = results.length + 1 ∨ textAfter results ++ t = "" ∨
        (0 < lastSilent results ∧ results.length + 1 = lastSilent results + 1)) ↔
          textAfter results ++ t = "" := by
      constructor
      · rintro (hx | hx | hx)
        · omega
        · exact hx
        · omega
      · exact fun hx => .inr (.inl hx)
    have hmerge : merge (.success before) (.success payload) =
        .ok (if textAfter results ++ t = "" then ⟨.newer, .success payload⟩
          else ⟨.joined, plainText (textAfter results ++ t)⟩) := by
      simp only [merge, h, ht, mergeTexts_eq]
    rw [hmerge, if_congr hcond rfl rfl]
    by_cases hempty : textAfter results ++ t = ""
    · rw [if_pos hempty]
      have hnew : textOf payload = some (.text (textAfter (results ++ [.success payload]))) := by
        rw [htext, hempty, ht, (String.append_eq_empty_iff.mp hempty).2]
      exact ⟨rfl, .worded hnew (by omega)⟩
    · rw [if_neg hempty, ← htext]
      exact ⟨rfl, .worded (textOf_ofText _) (by omega)⟩

end Step

/-- Merging the next result is the last step of folding all of them. -/
theorem merge_closing {results : List Response} {older newest : Response}
    (ho : StandsAt results older) (hn : newest.Mergeable) :
    merge older newest = .ok (closing (results ++ [newest]) newest) ∧
      StandsAt (results ++ [newest]) (closing (results ++ [newest]) newest).response := by
  cases hn with
  | silent h => exact merge_silent ho h
  | worded h => exact merge_worded ho h

/-- Folding one more result takes one more step. -/
theorem mergeSteps_concat {start older newest : Response} {results : List Response}
    {steps : List Merged} {m : Merged} (hs : mergeSteps start results = (steps, none))
    (ha : mergeAll start results = .ok older) (hm : merge older newest = .ok m) :
    mergeSteps start (results ++ [newest]) = (steps ++ [m], none) := by
  induction results generalizing start steps with
  | nil =>
    cases hs
    cases ha
    simp only [List.nil_append, mergeSteps, hm]
  | cons r rest ih =>
    simp only [List.cons_append, mergeSteps, mergeAll] at hs ha ⊢
    cases hr : merge start r with
    | error e =>
      rw [hr] at hs
      cases hs
    | ok first =>
      simp only [hr] at hs ha ⊢
      obtain ⟨hfirst, hnone⟩ := Prod.mk.inj hs
      rw [ih (Prod.ext rfl hnone) ha, ← hfirst]
      rfl

/-- Results of lines are folded without failure, and each time stand at what they
come to. -/
theorem mergeAll_standsAt {results : List Response} (hr : ∀ r ∈ results, r.Mergeable) :
    ∃ steps older, mergeSteps (plainText "") results = (steps, none) ∧
      mergeAll (plainText "") results = .ok older ∧ StandsAt results older := by
  induction results using List.reverseRecOn with
  | nil => exact ⟨[], _, rfl, rfl, standsAt_nil⟩
  | append_singleton results newest ih =>
    obtain ⟨steps, older, hsteps, hall, hstands⟩ :=
      ih fun r hmem => hr r (List.mem_append_left _ hmem)
    obtain ⟨hm, hnext⟩ :=
      merge_closing hstands (hr newest (List.mem_append_right _ List.mem_cons_self))
    refine ⟨_, _, mergeSteps_concat hsteps hall hm, ?_, hnext⟩
    simp only [mergeAll_append hall, mergeAll, hm]

/-- The result of a run of results, each without text or with a string for its
text. With `k` the place of the last one without text, and the text of those
after it: the newest result itself is kept where it has no text, where there is
no text to keep, and where it is the only one after a result without text. In
every other case a response is made that holds the text and nothing else. -/
theorem mergeSteps_closing {results : List Response} (hr : ∀ r ∈ results, r.Mergeable)
    {newest : Response} (hn : results.getLast? = some newest) :
    ∃ steps, mergeSteps (plainText "") results = (steps, none) ∧
      (lastSilent results = results.length ∨ textAfter results = "" ∨
          (0 < lastSilent results ∧ results.length = lastSilent results + 1) →
        steps.getLast? = some ⟨.newer, newest⟩ ∧
          mergeAll (plainText "") results = .ok newest) ∧
      (¬ (lastSilent results = results.length ∨ textAfter results = "" ∨
          (0 < lastSilent results ∧ results.length = lastSilent results + 1)) →
        steps.getLast? = some ⟨.joined, plainText (textAfter results)⟩ ∧
          mergeAll (plainText "") results = .ok (plainText (textAfter results))) := by
  obtain ⟨before, rfl⟩ := List.getLast?_eq_some_iff.mp hn
  obtain ⟨steps, older, hsteps, hall, hstands⟩ :=
    mergeAll_standsAt fun r hmem => hr r (List.mem_append_left _ hmem)
  obtain ⟨hm, -⟩ :=
    merge_closing hstands (hr newest (List.mem_append_right _ List.mem_cons_self))
  have hresult : mergeAll (plainText "") (before ++ [newest]) =
      .ok (closing (before ++ [newest]) newest).response := by
    simp only [mergeAll_append hall, mergeAll, hm]
  refine ⟨_, mergeSteps_concat hsteps hall hm, fun h => ?_, fun h => ?_⟩
  · rw [hresult, List.getLast?_concat, closing, if_pos h]
    exact ⟨rfl, rfl⟩
  · rw [hresult, List.getLast?_concat, closing, if_neg h]
    exact ⟨rfl, rfl⟩

/-- A magic between texts, of which one comes with another entry and one is empty. -/
def mixedResults : List Response :=
  [plainText "x", .success [(structuredMedia, .structured .null)],
    .success [(plainTextMedia, .text "a"), (structuredMedia, .structured .null)], plainText "",
    plainText "b"]

/-- What was printed before the magic is gone, and the texts after it are joined. -/
theorem mergeSteps_closing_mixed :
    (∀ r ∈ mixedResults, r.Mergeable) ∧ mixedResults.getLast? = some (plainText "b") ∧
    lastSilent mixedResults = 2 ∧ textAfter mixedResults = "ab" ∧
    ∃ steps, mergeSteps (plainText "") mixedResults = (steps, none) ∧
      steps.getLast? = some ⟨.joined, plainText "ab"⟩ ∧
      mergeAll (plainText "") mixedResults = .ok (plainText "ab") := by
  have hr : ∀ r ∈ mixedResults, r.Mergeable := by
    intro r hmem
    simp only [mixedResults, List.mem_cons, List.not_mem_nil, or_false] at hmem
    rcases hmem with rfl | rfl | rfl | rfl | rfl
    · exact .worded rfl
    · exact .silent rfl
    · exact .worded rfl
    · exact .worded rfl
    · exact .worded rfl
  have hn : mixedResults.getLast? = some (plainText "b") := rfl
  have hk : lastSilent mixedResults = 2 := rfl
  have ht : textAfter mixedResults = "ab" := by decide
  obtain ⟨steps, hsteps, -, hjoined⟩ := mergeSteps_closing hr hn
  rw [hk, ht] at hjoined
  obtain ⟨hlast, hall⟩ := hjoined (by decide)
  exact ⟨hr, hn, hk, ht, steps, hsteps, hlast, hall⟩

end LiveSession.Response
