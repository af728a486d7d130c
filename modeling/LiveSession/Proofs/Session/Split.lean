import LiveSession.Proofs.Session.Calls
import LiveSession.Proofs.Submission.Split
import LiveSession.Proofs.Text.Lines

/-!
# Splitting a submission of a session

A submission of two texts, one below the other, ends with the first where that
ends in an error or an abort. Where the first succeeds without a retry it is
the submission of the first and then that of the second, with the results of
statements merged.
-/

namespace LiveSession

variable {σ : Type}

namespace Session

open Submission

/-- An engine whose question for being started and whose context leave its state
as it is. -/
structure Neutral (e : Engine σ) : Prop where
  isStarted : ∀ state, (e.isStarted state).2 = state
  enter : ∀ state, (e.enter state).2 = state
  leave : ∀ state, (e.leave state).2 = state

/-- The attempts of a submission are no magics. -/
def MagicFree (e : Engine σ) (limit : Int) (code : String) (s : Session σ) : Prop :=
  ∀ a, Event.attempted a ∈ (runLinesNoted e limit code (s.admitted e)).2.2 →
    Magic.ofLine? a.text = none

variable {e : Engine σ} {limit : Int} {code a b : String} {s : Session σ}

/-- A statement succeeds with console text. -/
theorem interpret_success {payload : List (String × Entry)}
    (h : (interpret e code s).1 = .ok (.success payload)) :
    ∃ t, Response.success payload = .plainText t := by
  unfold interpret at h
  dsimp only at h
  split at h
  · split at h
    · cases h
    · split at h <;> cases h
  · next verdict s' heq =>
    cases verdict with
    | success => exact ⟨_, (Except.ok.inj h).symm⟩
    | incomplete => cases h
    | error => cases h
    | unrecognised => cases h

/-- Without magics every success is console text. -/
theorem texts_of_magicFree {more : Session σ}
    (h : ∀ x, Event.attempted x ∈ (runLinesNoted e limit code more).2.2 →
      Magic.ofLine? x.text = none) : Texts (runLinesNoted e limit code more).2.2 := by
  intro x hmem payload hx
  rw [runLinesNoted_outcome hmem] at hx
  simp only [attempt, h x hmem] at hx
  exact interpret_success hx

/-- A submission that never asks for a block to be wrapped retries none. -/
theorem unretried_of_calls (ha : Admits e s)
    (h : ∀ block, EngineCall.wrapBlock block ∉ calls e limit code s) :
    Unretried (runLinesNoted e limit code (s.admitted e)).2.2 := by
  intro before block outcome hmem
  have hcall : EngineCall.wrapBlock block ∈ (calls e limit code s).filter EngineCall.runs := by
    rw [calls_runs ha]
    exact List.mem_filterMap.mpr ⟨_, hmem, rfl⟩
  exact h block (List.mem_filter.mp hcall).1

/-- A submission that ends in an error or an abort, without a retry, ends so
whatever stands below it. -/
theorem execute_append_of_halts (hA : a ≠ "") (hB : b ≠ "") (hsA : Text.stripString a = a)
    (hsB : Text.stripString b = b) {r : Response} (hr : (execute e limit a s).1 = .ok r)
    (hh : halts (E := Escape) (.ok r) = true)
    (hu : Unretried (runLinesNoted e limit a (s.admitted e)).2.2) :
    execute e limit (a ++ "\n" ++ b) s = execute e limit a s := by
  have ha := admits_of_execute hr
  have hrun := runLines_of_execute hr
  unfold runLines at hrun
  have happend := run_append_of_halts (attempt_endsLines e limit) (lines_ne_nil a) (lines b)
    (s.admitted e) hu (by rw [hrun]; exact hh)
  rw [execute_of_admits ha, execute_of_admits ha]
  unfold runLines
  rw [lines_append hA hB hsA hsB, happend]

/-- After a submission with a response, the lines of the next run where its own
lines stopped, with one more context entered and left. -/
theorem admitted_execute (hn : Neutral e) {r : Response} (hr : (execute e limit a s).1 = .ok r) :
    (execute e limit a s).2.admitted e = (runLines e limit a (s.admitted e)).2.seen id 1 := by
  have hbusy : (runLines e limit a (s.admitted e)).2.busy = true :=
    (runLines_keeps e limit a (s.admitted e)).busy
  rw [execute_of_admits (admits_of_execute hr)]
  generalize (runLines e limit a (s.admitted e)) = done at hbusy
  unfold admitted finished seen
  dsimp only [id]
  rw [hn.enter, hn.isStarted, hn.leave, hbusy]

/-- Lines below others that succeed without a retry follow them, where every
success is console text, and the events of the whole are those of both. -/
theorem runLines_append (hA : a ≠ "") (hB : b ≠ "") (hsA : Text.stripString a = a)
    (hsB : Text.stripString b = b) {payload : List (String × Entry)}
    (hu : Unretried (runLinesNoted e limit a s).2.2) (ht : Texts (runLinesNoted e limit a s).2.2)
    (hr : (runLines e limit a s).1 = .ok (.success payload))
    (ht' : Texts (runLinesNoted e limit b (runLines e limit a s).2).2.2) :
    Follows (.success payload) (runLines e limit b (runLines e limit a s).2).1
        (runLines e limit (a ++ "\n" ++ b) s).1 ∧
      (runLines e limit (a ++ "\n" ++ b) s).2 = (runLines e limit b (runLines e limit a s).2).2 ∧
      (runLinesNoted e limit (a ++ "\n" ++ b) s).2.2 =
        (runLinesNoted e limit a s).2.2 ++
          (runLinesNoted e limit b (runLines e limit a s).2).2.2 := by
  unfold runLinesNoted at hu ht ht' ⊢
  unfold runLines at hr ht' ⊢
  rw [lines_append hA hB hsA hsB]
  exact runNoted_append (attempt_endsLines e limit) (lines_ne_nil a) (lines_ne_nil b) s hu ht hr ht'

/-- The ends of two submissions follow from their lines. -/
theorem finished_follows {older : Response} (e : Engine σ) (done whole : Result σ Response)
    (hf : Follows older done.1 whole.1) (hs : whole.2.engine = done.2.engine) :
    Follows older (finished e done).1 (finished e whole).1 ∧
      (finished e whole).2.engine = (finished e done).2.engine := by
  unfold finished
  dsimp only
  rw [hs]
  refine ⟨?_, rfl⟩
  cases (e.leave done.2.engine).1 with
  | error f => exact .raised _
  | ok u => exact hf

/-- A submission below one that succeeds without a retry follows it, leaves the
engine in the same state as when it is executed apart, and comes with the
events of both. -/
theorem execute_append_of_success (hA : a ≠ "") (hB : b ≠ "") (hsA : Text.stripString a = a)
    (hsB : Text.stripString b = b) (hn : Neutral e) {payload : List (String × Entry)}
    (hr : (execute e limit a s).1 = .ok (.success payload))
    (hu : Unretried (runLinesNoted e limit a (s.admitted e)).2.2)
    (hs : Admits e (execute e limit a s).2) (hm : MagicFree e limit a s)
    (hm' : MagicFree e limit b (execute e limit a s).2) :
    Follows (.success payload) (execute e limit b (execute e limit a s).2).1
        (execute e limit (a ++ "\n" ++ b) s).1 ∧
      (execute e limit (a ++ "\n" ++ b) s).2.engine =
        (execute e limit b (execute e limit a s).2).2.engine ∧
      (runLinesNoted e limit (a ++ "\n" ++ b) (s.admitted e)).2.2.filterMap eventCall? =
        (runLinesNoted e limit a (s.admitted e)).2.2.filterMap eventCall? ++
          (runLinesNoted e limit b
            ((execute e limit a s).2.admitted e)).2.2.filterMap eventCall? := by
  have hrun := runLines_of_execute hr
  have hnext := admitted_execute hn hr
  have hboth : execute e limit (a ++ "\n" ++ b) s =
      finished e (runLines e limit (a ++ "\n" ++ b) (s.admitted e)) :=
    execute_of_admits (admits_of_execute hr) limit _
  have hsecond : execute e limit b (execute e limit a s).2 =
      finished e (runLines e limit b ((execute e limit a s).2.admitted e)) :=
    execute_of_admits hs limit b
  have hmap : (eventCall? ∘ Event.map (seen id 1) : Event (Session σ) Escape → _) = eventCall? :=
    funext fun event => eventCall?_map id 1 event
  -- The second submission differs from a continuation of the first in its
  -- counts of contexts alone, so both are compared at the end of the first.
  unfold MagicFree at hm'
  rw [hnext, runLinesNoted_seen e.views_self] at hm'
  rw [hboth, hsecond, hnext, runLines_seen e.views_self, runLinesNoted_seen e.views_self,
    List.filterMap_map, hmap]
  have ht : Texts (runLinesNoted e limit b (runLines e limit a (s.admitted e)).2).2.2 :=
    texts_of_magicFree fun x hmem => hm' (x.map (seen id 1)) (List.mem_map_of_mem hmem)
  obtain ⟨hfollows, hstate, hevents⟩ :=
    runLines_append hA hB hsA hsB hu (texts_of_magicFree hm) hrun ht
  rw [← List.filterMap_append, ← hevents]
  generalize runLines e limit (a ++ "\n" ++ b) (s.admitted e) = whole at *
  generalize runLines e limit b (runLines e limit a (s.admitted e)).2 = done at *
  have hengine : whole.2.engine = (done.2.seen id 1).engine := by
    rw [hstate]
    rfl
  obtain ⟨hresult, hleft⟩ := finished_follows e (done.1, done.2.seen id 1) whole hfollows hengine
  exact ⟨hresult, hleft, rfl⟩

/-- Recording calls keeps a submission from being retried. -/
theorem unretried_recorded (hu : Unretried (runLinesNoted e limit code (s.admitted e)).2.2) :
    Unretried
      (runLinesNoted e.recorded limit code (s.recorded.admitted e.recorded)).2.2 := by
  have hseen : (runLinesNoted e limit code (s.admitted e)).2.2 =
      (runLinesNoted e.recorded limit code (s.recorded.admitted e.recorded)).2.2.map
        (Event.map (seen Prod.fst 0)) :=
    runLinesNoted_seen e.views_recorded limit code 0 (s.recorded.admitted e.recorded)
  rw [hseen] at hu
  exact fun before block outcome hmem => hu _ _ _ (List.mem_map_of_mem hmem)

/-- A submission of two texts, one below the other, compared with submissions of
the two. Where the first ends in an error or an abort and no block is wrapped,
so does the whole, after the same calls of the engine. Where the first succeeds
and no block is wrapped, no magic is run, and the second is admitted after it,
the whole interprets what the two interpret, leaves the engine in the state
that they leave, and its result follows from theirs: successes are merged, and
any other result of the second is that of the whole. -/
theorem execute_split (e : Engine σ) (limit : Int) (a b : String) (s : Session σ)
    (hA : a ≠ "") (hB : b ≠ "") (hsA : Text.stripString a = a) (hsB : Text.stripString b = b)
    (hn : Neutral e) :
    (∀ r, (execute e limit a s).1 = .ok r → r.status = "error" ∨ r.status = "aborted" →
      (∀ block, EngineCall.wrapBlock block ∉ calls e limit a s) →
        (execute e limit (a ++ "\n" ++ b) s).1 = .ok r ∧
          calls e limit (a ++ "\n" ++ b) s = calls e limit a s) ∧
    (∀ payload, (execute e limit a s).1 = .ok (.success payload) →
      (∀ block, EngineCall.wrapBlock block ∉ calls e limit a s) →
      Admits e (execute e limit a s).2 → MagicFree e limit a s →
      MagicFree e limit b (execute e limit a s).2 →
        (calls e limit (a ++ "\n" ++ b) s).filter EngineCall.interprets =
          (calls e limit a s).filter EngineCall.interprets ++
            (calls e limit b (execute e limit a s).2).filter EngineCall.interprets ∧
        (execute e limit (a ++ "\n" ++ b) s).2.engine =
          (execute e limit b (execute e limit a s).2).2.engine ∧
        Follows (.success payload) (execute e limit b (execute e limit a s).2).1
          (execute e limit (a ++ "\n" ++ b) s).1) := by
  constructor
  · intro r hr hstatus hw
    have hu := unretried_of_calls (admits_of_execute hr) hw
    have hh : halts (E := Escape) (.ok r) = true := by
      cases r with
      | success payload => simp [Response.status] at hstatus
      | incomplete => simp [Response.status] at hstatus
      | error kind name traceback => rfl
      | aborted message => rfl
      | bare => rfl
    have hr' : (execute e.recorded limit a s.recorded).1 = .ok r := by
      rw [(execute_recorded e limit a s).1, hr]
    have hcalls := execute_append_of_halts hA hB hsA hsB hr' hh (unretried_recorded hu)
    refine ⟨?_, ?_⟩
    · rw [execute_append_of_halts hA hB hsA hsB hr hh hu, hr]
    · unfold calls
      rw [hcalls]
  · intro payload hr hw hs hm hm'
    have ha := admits_of_execute hr
    obtain ⟨hfollows, hengine, hevents⟩ := execute_append_of_success hA hB hsA hsB hn hr
      (unretried_of_calls ha hw) hs hm hm'
    refine ⟨?_, hengine, hfollows⟩
    rw [EngineCall.filter_interprets, EngineCall.filter_interprets (calls e limit a s),
      EngineCall.filter_interprets (calls e limit b _), calls_runs ha, calls_runs ha,
      calls_runs hs, hevents, List.filter_append]

/-- Two statements, submitted together and apart. -/
theorem execute_split_echo :
    "a" ≠ "" ∧ "b" ≠ "" ∧ Text.stripString "a" = "a" ∧ Text.stripString "b" = "b" ∧
    Neutral echo ∧
    (calls echo 3 "a\nb" { engine := () }).filter EngineCall.interprets =
      (calls echo 3 "a" { engine := () }).filter EngineCall.interprets ++
        (calls echo 3 "b" (execute echo 3 "a" { engine := () }).2).filter
          EngineCall.interprets ∧
    Follows (.plainText "a") (execute echo 3 "b" (execute echo 3 "a" { engine := () }).2).1
      (execute echo 3 "a\nb" { engine := () }).1 := by
  have hA : "a" ≠ "" := by decide
  have hB : "b" ≠ "" := by decide
  have hsA : Text.stripString "a" = "a" := by decide
  have hsB : Text.stripString "b" = "b" := by decide
  have hn : Neutral echo := ⟨fun _ => rfl, fun _ => rfl, fun _ => rfl⟩
  have hcalls : calls echo 3 "a" { engine := () } =
      [.isStarted, .enter true, .interpret "" "a", .leave] := rfl
  have hmagic : ∀ (s : Session Unit) (text : String), Magic.ofLine? text = none →
      (runLinesNoted echo 3 text (admitted echo s)).2.2 =
        [.attempted ⟨admitted echo s, text, (attempt echo 3 text (admitted echo s)).1⟩] →
      MagicFree echo 3 text s := by
    intro s text ht hevents x hmem
    rw [hevents] at hmem
    cases List.mem_singleton.mp hmem
    exact ht
  obtain ⟨hinterprets, -, hfollows⟩ :=
    (execute_split echo 3 "a" "b" { engine := () } hA hB hsA hsB hn).2 _ rfl
      (by rw [hcalls]; exact fun block h => by simp at h) ⟨rfl, rfl⟩
      (hmagic _ "a" (by decide) rfl) (hmagic _ "b" (by decide) rfl)
  exact ⟨hA, hB, hsA, hsB, hn, hinterprets, hfollows⟩

end Session

end LiveSession
