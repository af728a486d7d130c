import LiveSession.Proofs.Submission.Raised
import Mathlib.Data.List.Basic

/-!
# Runs that are ended by an attempt

A run asks for nothing more after an attempt that halts it. So what every attempt
keeps that lets the run go on holds whenever something is asked for, although the
attempt that ends the run may break it; and a run that an abort ends comes to that
abort, in the state that the aborted attempt left.
-/

namespace LiveSession.Submission

variable {S E : Type} {attempt : Operation S E Response} {wrap : Operation S E String}
  {unmerged : MergeError → E} {P : S → Prop}

/-- The state in which something was asked for. -/
def Event.before : Event S E → S
  | .attempted a => a.before
  | .wrapped s _ _ => s

section Before

variable (ha : ∀ text s, P s → halts (attempt text s).1 = false → P (attempt text s).2)

include ha

/-- A walk keeps what attempts keep that let it go on: every attempt finds it, and
it is left where the last one does not halt. -/
theorem walk_before (block : String) (rest : List String) {s : S} (hs : P s) :
    (∀ a ∈ (walk attempt block rest s).1, P a.before) ∧
      ∀ last, (walk attempt block rest s).1.getLast? = some last →
        halts last.outcome = false → P (walk attempt block rest s).2 := by
  induction rest generalizing block s with
  | nil =>
    refine ⟨fun a hmem => ?_, fun last hl hh => ?_⟩
    · cases List.mem_singleton.mp hmem
      exact hs
    · cases hl
      exact ha block s hs hh
  | cons next rest ih =>
    have hnext : ∀ block', halts (attempt block s).1 = false →
        (∀ a ∈ (walk attempt block' rest (attempt block s).2).1, P a.before) ∧
          ∀ last, (walk attempt block' rest (attempt block s).2).1.getLast? = some last →
            halts last.outcome = false → P (walk attempt block' rest (attempt block s).2).2 :=
      fun block' hh => ih block' (ha block s hs hh)
    rcases outcome_cases (attempt block s).1 with hi | ⟨payload, hp⟩ | hh
    · obtain ⟨hbefore, hafter⟩ := hnext (join block next) (by rw [hi]; rfl)
      rw [walk_incomplete hi]
      refine ⟨List.forall_mem_cons.mpr ⟨hs, hbefore⟩, fun last hl => hafter last ?_⟩
      rwa [List.getLast?_cons_of_ne_nil (walk_ne_nil _ _ _ _)] at hl
    · obtain ⟨hbefore, hafter⟩ := hnext next (by rw [hp]; rfl)
      rw [walk_success hp]
      refine ⟨List.forall_mem_cons.mpr ⟨hs, hbefore⟩, fun last hl => hafter last ?_⟩
      rwa [List.getLast?_cons_of_ne_nil (walk_ne_nil _ _ _ _)] at hl
    · rw [walk_halts hh]
      refine ⟨fun a hmem => ?_, fun last hl hh' => ?_⟩
      · cases List.mem_singleton.mp hmem
        exact hs
      · cases hl
        cases hh.symm.trans hh'

/-- What attempts keep that let a run go on, and wrapping keeps, holds whenever
something is asked for. -/
theorem runNoted_before (hends : EndsLines attempt) (hw : ∀ block s, P s → P (wrap block s).2)
    (lines : List String) {s : S} (hs : P s) :
    ∀ event ∈ (runNoted attempt wrap unmerged lines s).2.2, P event.before := by
  cases lines with
  | nil => exact fun event hmem => nomatch hmem
  | cons first rest =>
    obtain ⟨hbefore, hafter⟩ := walk_before ha first rest hs
    obtain ⟨last, hl⟩ := walk_getLast? attempt first rest s
    rw [runNoted_cons hends]
    generalize walk attempt first rest s = walked at *
    intro event hmem
    rcases List.mem_append.mp hmem with hwalk | hretry
    · obtain ⟨a, ha, rfl⟩ := List.mem_map.mp hwalk
      exact hbefore a ha
    · by_cases hi : last.outcome = .ok .incomplete
      · have hblock : P walked.2 := hafter last hl (by rw [hi]; rfl)
        rw [retryEvents_of_incomplete hl hi, blockEvents] at hretry
        rcases List.mem_cons.mp hretry with rfl | htried
        · exact hblock
        · cases hwrapped : (wrap last.text walked.2).1 with
          | error e =>
            rw [hwrapped] at htried
            cases htried
          | ok text =>
            rw [hwrapped] at htried
            cases List.mem_singleton.mp htried
            exact hw _ _ hblock
      · rw [retryEvents_of_ne_incomplete hl hi] at hretry
        cases hretry

end Before

/-- No attempt of a run halts before the last thing that is asked for. -/
theorem runNoted_dropLast (hends : EndsLines attempt) (lines : List String) (s : S)
    {a : Attempt S E}
    (h : Event.attempted a ∈ (runNoted attempt wrap unmerged lines s).2.2.dropLast) :
    halts a.outcome = false := by
  cases lines with
  | nil => cases h
  | cons first rest =>
    have hdrop := @walk_dropLast _ _ attempt first rest s
    obtain ⟨last, hl⟩ := walk_getLast? attempt first rest s
    rw [runNoted_cons hends] at h
    generalize walk attempt first rest s = walked at *
    by_cases hi : last.outcome = .ok .incomplete
    · have hattempts : ∀ a ∈ walked.1, halts a.outcome = false := by
        intro a hmem
        rw [← List.dropLast_append_getLast? last hl] at hmem
        rcases List.mem_append.mp hmem with hearlier | hhere
        · exact hdrop hearlier
        · cases List.mem_singleton.mp hhere
          rw [hi]
          rfl
      have hblock : retryEvents attempt wrap walked ≠ [] := by
        rw [retryEvents_of_incomplete hl hi, blockEvents]
        exact List.cons_ne_nil _ _
      rw [List.dropLast_append_of_ne_nil hblock] at h
      rcases List.mem_append.mp h with hwalk | hretry
      · obtain ⟨b, hmem, hb⟩ := List.mem_map.mp hwalk
        cases hb
        exact hattempts _ hmem
      · rw [retryEvents_of_incomplete hl hi, blockEvents] at hretry
        cases hwrapped : (wrap last.text walked.2).1 with
        | error e =>
          rw [hwrapped] at hretry
          cases hretry
        | ok text =>
          rw [hwrapped] at hretry
          cases List.mem_singleton.mp hretry
    · rw [retryEvents_of_ne_incomplete hl hi, List.append_nil, ← List.map_dropLast] at h
      obtain ⟨b, hmem, hb⟩ := List.mem_map.mp h
      cases hb
      exact hdrop hmem

/-- A run whose last attempt is the last thing that is asked for ends in the state
that this attempt leaves. -/
theorem runNoted_last (lines : List String) (s : S) {a : Attempt S E}
    (h : (runNoted attempt wrap unmerged lines s).2.2.getLast? = some (.attempted a)) :
    a.outcome = (attempt a.text a.before).1 ∧
      (runNoted attempt wrap unmerged lines s).2.1 = (attempt a.text a.before).2 := by
  refine run_invariant (P := fun noted : S × List (Event S E) =>
    ∀ a, noted.2.getLast? = some (.attempted a) →
      a.outcome = (attempt a.text a.before).1 ∧ noted.1 = (attempt a.text a.before).2)
    (fun text noted _ a h => ?_) (fun block noted _ a h => ?_) lines (fun a h => ?_) a h
  · have hl := List.getLast?_concat.symm.trans h
    cases hl
    exact ⟨rfl, rfl⟩
  · have hl := List.getLast?_concat.symm.trans h
    cases hl
  · cases h

/-- A run that an abort ends comes to that abort. -/
theorem run_of_aborted (hends : EndsLines attempt) (lines : List String) (s : S)
    {a : Attempt S E} {message : String}
    (h : (runNoted attempt wrap unmerged lines s).2.2.getLast? = some (.attempted a))
    (ho : a.outcome = .ok (.aborted message)) :
    (run attempt wrap unmerged lines s).1 = .ok (.aborted message) := by
  cases lines with
  | nil => cases h
  | cons first rest =>
    have hresponds : ∀ a ∈ (walk attempt first rest s).1, ∀ r, a.outcome = .ok r → r.EndsLine :=
      fun a hmem r hr => walk_endsLine hends first rest s hmem hr
    obtain ⟨last, hl⟩ := walk_getLast? attempt first rest s
    rw [runNoted_cons hends] at h
    rw [run_eq_conclude hends]
    generalize walk attempt first rest s = walked at *
    obtain ⟨merged, hm, -⟩ :=
      Response.mergeAll_mergeable (Response.mergeable_plainText "") (successes_mergeable hresponds)
    by_cases hi : last.outcome = .ok .incomplete
    · rw [retryEvents_of_incomplete hl hi, blockEvents] at h
      rw [conclude_of_incomplete hl hi hm]
      cases hwrapped : (wrap last.text walked.2).1 with
      | error e =>
        rw [hwrapped] at h
        cases List.getLast?_concat.symm.trans h
      | ok text =>
        rw [hwrapped, List.append_cons] at h
        cases List.getLast?_concat.symm.trans h
        dsimp only at ho
        rw [retry_of_ok hwrapped, ho]
        rfl
    · rw [retryEvents_of_ne_incomplete hl hi, List.append_nil, List.getLast?_map, hl] at h
      cases h
      have hh : halts a.outcome = true := by
        rw [ho]
        rfl
      rw [conclude_of_halts hl hh, ho]

/-- A noted run keeps what those of its attempts keep that are noted, and wrapping. -/
theorem runNoted_kept {R : Attempt S E → Prop}
    (ha : ∀ text s, P s → R ⟨s, text, (attempt text s).1⟩ → P (attempt text s).2)
    (hw : ∀ block s, P s → P (wrap block s).2) (lines : List String) {s : S} (hs : P s)
    (h : ∀ a, Event.attempted a ∈ (runNoted attempt wrap unmerged lines s).2.2 → R a) :
    P (runNoted attempt wrap unmerged lines s).2.1 := by
  refine run_invariant (P := fun noted : S × List (Event S E) =>
    (∀ a, Event.attempted a ∈ noted.2 → R a) → P noted.1)
    (fun text noted hp h => ?_) (fun block noted hp h => ?_) lines (fun _ => hs) h
  · exact ha text noted.1 (hp fun a hmem => h a (List.mem_append_left _ hmem))
      (h _ (List.mem_append_right _ List.mem_cons_self))
  · exact hw block noted.1 (hp fun a hmem => h a (List.mem_append_left _ hmem))

end LiveSession.Submission
