import LiveSession.Proofs.Magic.Announced
import LiveSession.Proofs.Session.Calls
import LiveSession.Proofs.Submission.Visits
import LiveSession.Proofs.Text.Lines
import LiveSession.Script.Interpreter

/-!
# Magics and engine source apart

A text of a submission goes to the magics or to the engine, never to both. The
magics get the lines that begin as a magic line does, where such a line starts
a block; it is then the whole block, since a magic is never incomplete. A line
that joins an unfinished statement goes to the engine with it, however it
begins, and so does the wrapped text of a retry.
-/

namespace LiveSession

variable {σ : Type}

/-- A predicate on engines: blocks are put in braces, or they are closed with a
blank line. -/
def Engine.WrapsPlainly (e : Engine σ) : Prop :=
  (∀ block state, (e.wrapBlock block state).1 = .ok ("\x7b\n" ++ block ++ "\n\x7d")) ∨
    ∀ block state, (e.wrapBlock block state).1 = .ok (block ++ "\n")

/-- Scripts close a block with a blank line. -/
theorem Script.engine_wrapsPlainly (source : String) (around : Script.Surroundings) :
    (Script.engine source around).WrapsPlainly :=
  .inr fun _ _ => rfl

/-- A wrapped block begins as a magic line does only if the block does. -/
theorem Engine.WrapsPlainly.announces {e : Engine σ} (hw : e.WrapsPlainly) {block : String}
    (hb : Magic.announces block = false) {state : σ} {text : String}
    (ht : (e.wrapBlock block state).1 = .ok text) : Magic.announces text = false := by
  rcases hw with hw | hw
  · rw [hw] at ht
    cases ht
    exact Magic.announces_braced block
  · rw [hw] at ht
    cases ht
    rw [← hb, ← Magic.announces_join block "", Submission.join, String.append_empty]

namespace Session

open Submission

/-- What becomes of an attempt: it is run as a magic, and nothing is interpreted or
wrapped; or its text is ordinary source, and the engine interprets this text,
once. -/
inductive Handled (e : Engine σ) (limit : Int) (a : Attempt (Session σ) Escape) : Prop
  | dispatched (m : Magic) (magic : Magic.ofLine? a.text = some m)
      (outcome : a.outcome = (Magic.dispatch e limit m a.before).1)
      (calls : ∀ call ∈ eventCalls e limit (.attempted a), call.runs = false)
  | interpreted (source : Magic.ofLine? a.text = none)
      (outcome : a.outcome = (interpret e a.text a.before).1)
      (calls : eventCalls e limit (.attempted a) = [.interpret a.before.captured a.text])

section

variable {e : Engine σ} {limit : Int} {code : String} {s : Session σ}

/-- Every attempt of a run is handled in one of the two ways. -/
theorem runLinesNoted_handled {a : Attempt (Session σ) Escape}
    (h : Event.attempted a ∈ (runLinesNoted e limit code s).2.2) : Handled e limit a := by
  have houtcome := runLinesNoted_outcome h
  unfold attempt at houtcome
  cases hm : Magic.ofLine? a.text with
  | some m =>
    rw [hm] at houtcome
    refine .dispatched m hm houtcome fun call hcall => ?_
    simp only [eventCalls, hm] at hcall
    exact engineCalls_runs e limit m _ call hcall
  | none =>
    rw [hm] at houtcome
    refine .interpreted hm houtcome ?_
    simp only [eventCalls, hm]

/-- Only ordinary source is incomplete. -/
theorem ofLine?_of_incomplete (h : (attempt e limit code s).1 = .ok .incomplete) :
    Magic.ofLine? code = none := by
  cases hm : Magic.ofLine? code with
  | none => rfl
  | some m =>
    simp only [attempt, hm] at h
    cases Magic.dispatch_shown e limit m h

end

/-- A block begins as its first line does. -/
theorem announces_blockText {lines : List String} {first last : Nat} {line : String}
    (hf : first ≤ last) (hl : lines[first]? = some line) :
    Magic.announces (blockText lines first last) = Magic.announces line := by
  obtain ⟨hlt, rfl⟩ := List.getElem?_eq_some_iff.mp hl
  have hk : last + 1 - first = (last - first) + 1 := by omega
  rw [blockText, linesBetween, List.drop_eq_getElem_cons hlt, hk, List.take_succ_cons,
    Magic.announces_intercalate]

/-- The visits of a run of lines: a route from the first line on, through blocks of
these lines, each with what attempting it comes to. -/
structure Visited (e : Engine σ) (limit : Int) (lines : List String)
    (visits : List (Visit (Session σ) Escape)) : Prop where
  route : Route lines.length 0 0 visits
  text : ∀ v ∈ visits, v.attempt.text = blockText lines v.first v.last
  outcome : ∀ v ∈ visits,
    v.attempt.outcome = (attempt e limit v.attempt.text v.attempt.before).1

namespace Visited

variable {e : Engine σ} {limit : Int} {code : String}
  {visits : List (Visit (Session σ) Escape)} {v : Visit (Session σ) Escape} {line : String}

/-- A visited block runs forwards, within the lines. -/
theorem bounds (h : Visited e limit (lines code) visits) (hv : v ∈ visits) :
    v.first ≤ v.last ∧ v.last < (lines code).length :=
  h.route.bounds (Nat.le_refl 0) (List.length_pos_iff.mpr (lines_ne_nil code)) v hv

/-- A visited block begins with a line. -/
theorem first_line (h : Visited e limit (lines code) visits) (hv : v ∈ visits) :
    ∃ line, (lines code)[v.first]? = some line :=
  ⟨_, List.getElem?_eq_getElem (Nat.lt_of_le_of_lt (h.bounds hv).1 (h.bounds hv).2)⟩

/-- A visited block of one line is this line. -/
theorem text_of_eq (h : Visited e limit (lines code) visits) (hv : v ∈ visits)
    (hline : (lines code)[v.first]? = some line) (heq : v.first = v.last) :
    v.attempt.text = line := by
  obtain ⟨hlt, rfl⟩ := List.getElem?_eq_some_iff.mp hline
  rw [h.text v hv, ← heq, blockText_self (List.drop_eq_getElem_cons hlt)]

/-- A visited block begins as its first line does. -/
theorem announces_eq (h : Visited e limit (lines code) visits) (hv : v ∈ visits)
    (hline : (lines code)[v.first]? = some line) :
    Magic.announces v.attempt.text = Magic.announces line := by
  rw [h.text v hv, announces_blockText (h.bounds hv).1 hline]

/-- A visited block of one line is a magic if and only if it begins as one. -/
theorem ofLine?_of_eq (h : Visited e limit (lines code) visits) (hv : v ∈ visits)
    (hline : (lines code)[v.first]? = some line) (heq : v.first = v.last) :
    (Magic.ofLine? v.attempt.text).isSome = Magic.announces line := by
  rw [h.text_of_eq hv hline heq]
  exact Magic.ofLine?_isSome (not_mem_of_mem_lines (List.mem_of_getElem? hline))

/-- A block of more than one line does not begin as a magic line does: its first
line was incomplete by itself. -/
theorem announces_of_lt (h : Visited e limit (lines code) visits) :
    ∀ v ∈ visits, v.first < v.last → ∀ line, (lines code)[v.first]? = some line →
      Magic.announces line = false := by
  refine h.route.forall_blocks (P := fun first last => first < last → ∀ line,
    (lines code)[first]? = some line → Magic.announces line = false)
    (fun hlt => absurd hlt (Nat.lt_irrefl 0)) (fun k hlt => absurd hlt (Nat.lt_irrefl k)) ?_
  intro v hv hi ih _ line hline
  rcases Nat.lt_or_eq_of_le (h.bounds hv).1 with hlt | heq
  · exact ih hlt line hline
  · rw [h.outcome v hv] at hi
    rw [← h.ofLine?_of_eq hv hline heq, ofLine?_of_incomplete hi, Option.isSome_none]

/-- A visited block is a magic if and only if its first line begins as one. -/
theorem ofLine?_isSome (h : Visited e limit (lines code) visits) (hv : v ∈ visits)
    (hline : (lines code)[v.first]? = some line) :
    (Magic.ofLine? v.attempt.text).isSome = Magic.announces line := by
  rcases Nat.lt_or_eq_of_le (h.bounds hv).1 with hlt | heq
  · have hfalse := h.announces_of_lt v hv hlt line hline
    rw [hfalse, Magic.ofLine?_of_not_announces ((h.announces_eq hv hline).trans hfalse),
      Option.isSome_none]
  · exact h.ofLine?_of_eq hv hline heq

/-- A magic is visited alone and completes or halts. -/
theorem of_announces (h : Visited e limit (lines code) visits) (hv : v ∈ visits)
    (hline : (lines code)[v.first]? = some line) (ha : Magic.announces line = true) :
    v.last = v.first ∧ v.attempt.text = line ∧ v.attempt.outcome ≠ .ok .incomplete := by
  have heq : v.first = v.last := by
    refine Nat.le_antisymm (h.bounds hv).1 (Nat.not_lt.mp fun hlt => ?_)
    rw [h.announces_of_lt v hv hlt line hline] at ha
    cases ha
  refine ⟨heq.symm, h.text_of_eq hv hline heq, fun hi => ?_⟩
  rw [h.outcome v hv] at hi
  rw [← h.ofLine?_of_eq hv hline heq, ofLine?_of_incomplete hi] at ha
  cases ha

/-- An incomplete block does not begin as a magic line does. -/
theorem announces_of_incomplete (h : Visited e limit (lines code) visits) (hv : v ∈ visits)
    (hi : v.attempt.outcome = .ok .incomplete) : Magic.announces v.attempt.text = false := by
  obtain ⟨line, hline⟩ := h.first_line hv
  rw [h.outcome v hv] at hi
  rw [h.announces_eq hv hline, ← h.ofLine?_isSome hv hline, ofLine?_of_incomplete hi,
    Option.isSome_none]

end Visited

section

variable {e : Engine σ} {limit : Int} {code : String} {s : Session σ}

/-- The texts of a retry do not begin as a magic line does if the block does not. -/
theorem announces_of_retry (hw : e.WrapsPlainly) {block : String}
    (hb : Magic.announces block = false) {a : Attempt (Session σ) Escape}
    (ha : Event.attempted a ∈
      blockEvents (attempt e limit) (fun block => call (e.wrapBlock block)) block s) :
    Magic.announces a.text = false := by
  unfold blockEvents at ha
  dsimp only at ha
  rw [call_eq] at ha
  rcases List.mem_cons.mp ha with ha | ha
  · cases ha
  · cases ht : (e.wrapBlock block s.engine).1 with
    | error f =>
      rw [ht] at ha
      cases ha
    | ok text =>
      rw [ht] at ha
      cases List.mem_singleton.mp ha
      exact hw.announces hb ht

/-- A submission that is not admitted interprets and wraps nothing. -/
theorem calls_of_not_admits (h : ¬ Admits e s) :
    ∀ call ∈ calls e limit code s, call.runs = false := by
  have h' : ¬ Admits e.recorded s.recorded := fun ha => h ⟨ha.started, ha.granted⟩
  intro call hcall
  unfold calls at hcall
  obtain ⟨escape, ⟨hx, -⟩ | ⟨hx, -, -⟩⟩ := execute_of_not_admits h' limit code
  · rw [hx] at hcall
    cases List.mem_singleton.mp hcall
    rfl
  · rw [hx] at hcall
    rcases List.mem_cons.mp hcall with rfl | hcall
    · rfl
    · cases List.mem_singleton.mp hcall
      rfl

/-- A run of lines visits blocks of them, and retries the last block if it is
incomplete. No text of the retry begins as a magic line does. -/
theorem runLinesNoted_visited (hw : e.WrapsPlainly) (limit : Int) (code : String)
    (s : Session σ) :
    ∃ (visits : List (Visit (Session σ) Escape)) (retry : List (Event (Session σ) Escape)),
      (runLinesNoted e limit code s).2.2 =
        visits.map (fun v => Event.attempted v.attempt) ++ retry ∧
      Visited e limit (lines code) visits ∧
      (∃ v, visits.getLast? = some v ∧
        (v.attempt.outcome = .ok .incomplete → RetryOf v.attempt.text retry) ∧
        (v.attempt.outcome ≠ .ok .incomplete → retry = [])) ∧
      ∀ a, Event.attempted a ∈ retry → Magic.announces a.text = false := by
  obtain ⟨visits, retry, hnoted, hr, ht, v, hv, hlast, hretry, hnone⟩ :=
    runNoted_route (attempt_endsLines e limit) (fun block => call (e.wrapBlock block))
      Escape.unmerged (lines_ne_nil code) s
  have hattempted : ∀ w ∈ visits,
      Event.attempted w.attempt ∈ (runLinesNoted e limit code s).2.2 := by
    intro w hw'
    unfold runLinesNoted
    rw [hnoted]
    exact List.mem_append_left _ (List.mem_map.mpr ⟨w, hw', rfl⟩)
  have hvisited : Visited e limit (lines code) visits :=
    ⟨hr, ht, fun w hw' => runLinesNoted_outcome (hattempted w hw')⟩
  refine ⟨visits, retry, hnoted, hvisited, ⟨v, hlast, fun hi => ?_, hnone⟩, fun a ha => ?_⟩
  · obtain ⟨s', rfl⟩ := hretry hi
    exact blockEvents_retryOf _ _ _ _
  · by_cases hi : v.attempt.outcome = .ok .incomplete
    · obtain ⟨s', rfl⟩ := hretry hi
      exact announces_of_retry hw (hvisited.announces_of_incomplete hv hi) ha
    · rw [hnone hi] at ha
      cases ha

/-- Every text that is attempted is a magic if and only if it begins as a magic line
does. -/
theorem ofLine?_isSome_of_attempted (hw : e.WrapsPlainly)
    {a : Attempt (Session σ) Escape}
    (ha : Event.attempted a ∈ (runLinesNoted e limit code s).2.2) :
    (Magic.ofLine? a.text).isSome = Magic.announces a.text := by
  obtain ⟨visits, retry, hnoted, hvisited, -, hretry⟩ := runLinesNoted_visited hw limit code s
  rw [hnoted] at ha
  rcases List.mem_append.mp ha with ha | ha
  · obtain ⟨v, hv, hva⟩ := List.mem_map.mp ha
    cases hva
    obtain ⟨line, hline⟩ := hvisited.first_line hv
    rw [hvisited.ofLine?_isSome hv hline, hvisited.announces_eq hv hline]
  · rw [hretry a ha, Magic.ofLine?_of_not_announces (hretry a ha), Option.isSome_none]

/-- The engine is given no text to interpret that begins as a magic line does. -/
theorem announces_of_interpret (hw : e.WrapsPlainly) {captured text : String}
    (h : EngineCall.interpret captured text ∈ calls e limit code s) :
    Magic.announces text = false := by
  by_cases ha : Admits e s
  · have hfilter : EngineCall.interpret captured text ∈
        (calls e limit code s).filter EngineCall.runs := List.mem_filter.mpr ⟨h, rfl⟩
    rw [calls_runs ha] at hfilter
    obtain ⟨event, hevent, hcall⟩ := List.mem_filterMap.mp hfilter
    cases event with
    | wrapped before block outcome => cases hcall
    | attempted a =>
      have hisSome := ofLine?_isSome_of_attempted hw hevent
      unfold eventCall? at hcall
      dsimp only at hcall
      cases hm : Magic.ofLine? a.text with
      | some m =>
        rw [hm] at hcall
        cases hcall
      | none =>
        rw [hm] at hcall hisSome
        cases hcall
        exact hisSome.symm
  · exact absurd (calls_of_not_admits ha _ h) Bool.noConfusion

end

/-- The visits and the retry of a submission whose engine wraps blocks plainly. A
visited block is a magic if and only if its first line begins as a magic line
does; such a line is visited alone. No block of more lines and no text of the
retry is a magic. Each attempt is handled as a magic or by the engine, which
never interprets a text that begins as a magic line does. -/
theorem execute_separates (e : Engine σ) (hw : e.WrapsPlainly) (limit : Int) (code : String)
    (s : Session σ) :
    (∀ captured text, EngineCall.interpret captured text ∈ calls e limit code s →
      Magic.announces text = false) ∧
    (Admits e s →
      ∃ (visits : List (Visit (Session σ) Escape)) (retry : List (Event (Session σ) Escape)),
        (runLinesNoted e limit code (s.admitted e)).2.2 =
          visits.map (fun v => Event.attempted v.attempt) ++ retry ∧
        calls e limit code s =
          [.isStarted, .enter true] ++
            (visits.map (fun v => Event.attempted v.attempt) ++ retry).flatMap
              (eventCalls e limit) ++ [.leave] ∧
        Visited e limit (lines code) visits ∧
        (∀ v ∈ visits, ∃ line, (lines code)[v.first]? = some line ∧
          (Magic.ofLine? v.attempt.text).isSome = Magic.announces line ∧
          (Magic.announces line = true →
            v.last = v.first ∧ v.attempt.text = line ∧ v.attempt.outcome ≠ .ok .incomplete)) ∧
        (∀ v ∈ visits, v.first < v.last → Magic.ofLine? v.attempt.text = none) ∧
        (∃ v, visits.getLast? = some v ∧
          (v.attempt.outcome = .ok .incomplete → RetryOf v.attempt.text retry) ∧
          (v.attempt.outcome ≠ .ok .incomplete → retry = [])) ∧
        (∀ a, Event.attempted a ∈ retry → Magic.ofLine? a.text = none) ∧
        ∀ a, Event.attempted a ∈ visits.map (fun v => Event.attempted v.attempt) ++ retry →
          Handled e limit a) := by
  refine ⟨fun captured text h => announces_of_interpret hw h, fun ha => ?_⟩
  obtain ⟨visits, retry, hnoted, hvisited, hlast, hretry⟩ :=
    runLinesNoted_visited hw limit code (s.admitted e)
  refine ⟨visits, retry, hnoted, ?_, hvisited, fun v hv => ?_, fun v hv hlt => ?_, hlast,
    fun a hmem => Magic.ofLine?_of_not_announces (hretry a hmem), fun a hmem => ?_⟩
  · rw [calls_eq ha, hnoted]
  · obtain ⟨line, hline⟩ := hvisited.first_line hv
    exact ⟨line, hline, hvisited.ofLine?_isSome hv hline, hvisited.of_announces hv hline⟩
  · obtain ⟨line, hline⟩ := hvisited.first_line hv
    exact Magic.ofLine?_of_not_announces
      ((hvisited.announces_eq hv hline).trans (hvisited.announces_of_lt v hv hlt line hline))
  · rw [← hnoted] at hmem
    exact runLinesNoted_handled hmem

/-- A magic line joins the unfinished statement above it; the next one is a magic. -/
theorem execute_separates_echo :
    echo.WrapsPlainly ∧ Admits echo { engine := () } ∧
    calls echo 3 "for:\n%json x\n%json y" { engine := () } =
      [.isStarted, .enter true, .interpret "" "for:", .interpret "" "for:\n%json x",
        .lookup "y", .leave] ∧
    (∀ captured text, EngineCall.interpret captured text ∈
        calls echo 3 "for:\n%json x\n%json y" { engine := () } →
      Magic.announces text = false) ∧
    ∃ (visits : List (Visit (Session Unit) Escape)) (retry : List (Event (Session Unit) Escape)),
      (runLinesNoted echo 3 "for:\n%json x\n%json y" (admitted echo { engine := () })).2.2 =
        visits.map (fun v => Event.attempted v.attempt) ++ retry ∧
      Visited echo 3 (lines "for:\n%json x\n%json y") visits := by
  have hw : echo.WrapsPlainly := .inl fun _ _ => rfl
  have ha : Admits echo { engine := () } := ⟨rfl, rfl⟩
  obtain ⟨hsource, hvisits⟩ :=
    execute_separates echo hw 3 "for:\n%json x\n%json y" { engine := () }
  obtain ⟨visits, retry, hnoted, -, hvisited, -⟩ := hvisits ha
  exact ⟨hw, ha, rfl, hsource, visits, retry, hnoted, hvisited⟩

end Session

end LiveSession
