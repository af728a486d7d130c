import LiveSession.Proofs.Magic.Announced
import LiveSession.Proofs.Session.Split
import LiveSession.Proofs.Submission.Trailing

/-!
# Submissions with an unfinished tail

A submission that succeeds, with lines below it that the engine finds
unfinished however many of them are joined, such as a comment: it runs as
without them, then attempts the joins of the tail, and then the wrapped tail.
The result is that of the submission without the tail, into which the text of
the wrapped tail is merged if there is any; where the wrapped tail fails, the
submission is incomplete or aborted.
-/

namespace LiveSession.Session

open Submission

variable {σ : Type} {e : Engine σ} {limit : Int} {a c : String} {s : Session σ}

/-- The engine answers that a statement is incomplete, and again for the statement
with each of the lines after it joined to it. -/
def Asks (e : Engine σ) : String → List String → Session σ → Prop
  | block, [], s => (e.interpret s.captured block s.engine).verdict = .ok .incomplete
  | block, next :: rest, s =>
    (e.interpret s.captured block s.engine).verdict = .ok .incomplete ∧
      Asks e (join block next) rest (interpret e block s).2

/-- A statement that the engine finds incomplete has an incomplete response, and
what is captured is read. -/
theorem interpret_of_asked {block : String}
    (hv : (e.interpret s.captured block s.engine).verdict = .ok .incomplete) :
    (interpret e block s).1 = .ok .incomplete ∧ (interpret e block s).2.captured = "" := by
  have hi : ∀ f, (e.interpret s.captured block s.engine).verdict = .error f →
      f.interrupts = false := by
    intro f hf
    rw [hv] at hf
    cases hf
  obtain ⟨hcaptured, hanswer⟩ := (interpret_spec e block s).2.2 hi
  rw [hv] at hanswer
  exact ⟨hanswer, hcaptured⟩

/-- What the engine is asked depends on its state and on the captured text only. -/
theorem Asks.of_eq {t : Session σ} {block : String} {rest : List String}
    (h : Asks e block rest s) (he : t.engine = s.engine) (hc : t.captured = s.captured) :
    Asks e block rest t := by
  induction rest generalizing block s t with
  | nil =>
    unfold Asks
    rw [he, hc]
    exact h
  | cons next rest ih =>
    obtain ⟨hv, hrest⟩ := h
    have hv' : (e.interpret t.captured block t.engine).verdict = .ok .incomplete := by
      rw [he, hc]
      exact hv
    refine ⟨hv', ih hrest ?_ ?_⟩
    · rw [(interpret_spec e block t).1, (interpret_spec e block s).1, he, hc]
    · rw [(interpret_of_asked hv').2, (interpret_of_asked hv).2]

/-- Where the engine asks for more the attempts are unfinished, if the first line is
no magic: a line that is joined to it makes it none. -/
theorem Asks.unfinished {block : String} {rest : List String} (h : Asks e block rest s)
    (hm : Magic.announces block = false) : Unfinished (attempt e limit) block rest s := by
  have hattempt : attempt e limit block s = interpret e block s := by
    simp only [attempt, Magic.ofLine?_of_not_announces hm]
  induction rest generalizing block s with
  | nil =>
    unfold Unfinished
    rw [hattempt]
    exact (interpret_of_asked h).1
  | cons next rest ih =>
    unfold Unfinished
    rw [hattempt]
    have hjoin : Magic.announces (join block next) = false := by
      rw [Magic.announces_join, hm]
    refine ⟨(interpret_of_asked h.1).1, ih h.2 hjoin ?_⟩
    simp only [attempt, Magic.ofLine?_of_not_announces hjoin]

/-- A success has no text, or it is console text. -/
theorem attempt_success {code : String} {payload : List (String × Entry)}
    (h : (attempt e limit code s).1 = .ok (.success payload)) :
    Response.textOf payload = none ∨ ∃ t, Response.success payload = .plainText t := by
  cases hm : Magic.ofLine? code with
  | none =>
    simp only [attempt, hm] at h
    exact .inr (interpret_success h)
  | some m =>
    simp only [attempt, hm] at h
    cases Magic.dispatch_shown e limit m h with
    | entry hp => exact .inl hp

/-- Unfinished lines below a submission that succeeds without a retry: the run goes
on with the first of them and comes down to the retry of all. -/
theorem runLines_trailing {first : String} {rest : List String} (hA : a ≠ "") (hC : c ≠ "")
    (hsA : Text.stripString a = a) (hsC : Text.stripString c = c) (hc : lines c = first :: rest)
    (hu : Unretried (runLinesNoted e limit a s).2.2) {payload : List (String × Entry)}
    (hr : (runLines e limit a s).1 = .ok (.success payload))
    (hasks : Unfinished (attempt e limit) first rest (runLines e limit a s).2) :
    runLines e limit (a ++ "\n" ++ c) s =
        retry (attempt e limit) (fun block => call (e.wrapBlock block)) .unmerged c
          (.success payload)
          (walk (attempt e limit) first rest (runLines e limit a s).2).2 ∧
      ∃ outcome later, (runLinesNoted e limit (a ++ "\n" ++ c) s).2.2 =
        (runLinesNoted e limit a s).2.2 ++
          .attempted ⟨(runLines e limit a s).2, first, outcome⟩ :: later := by
  have htext : String.intercalate "\n" (first :: rest) = c := by
    rw [← hc, intercalate_lines, hsC]
  unfold runLinesNoted at hu ⊢
  unfold runLines at hr hasks ⊢
  rw [lines_append hA hC hsA hsC, hc]
  obtain ⟨hrun, hevents⟩ := runNoted_append_of_success (attempt_endsLines e limit)
    (lines_ne_nil a) first rest s hu hr
  obtain ⟨later, hlater⟩ := walk_head (attempt e limit) first rest
    (run (attempt e limit) (fun block => call (e.wrapBlock block)) .unmerged (lines a) s).2
  refine ⟨?_, ?_⟩
  · rw [hrun, runFrom_unfinished hasks, htext]
  · rw [hevents, runNoted_cons (attempt_endsLines e limit), hlater]
    exact ⟨_, _, rfl⟩

/-- What the retry of a block comes to where the block can be wrapped and the attempt
at the wrapped text responds. -/
theorem retry_settles {block text : String} {merged r : Response} (hm : merged.Mergeable)
    (ht : (e.wrapBlock block s.engine).1 = .ok text)
    (hr : (attempt e limit text { s with engine := (e.wrapBlock block s.engine).2 }).1 = .ok r) :
    ∃ response,
      retry (attempt e limit) (fun block => call (e.wrapBlock block)) .unmerged block merged s =
        (.ok response,
          (attempt e limit text { s with engine := (e.wrapBlock block s.engine).2 }).2) ∧
      Settles merged r response := by
  have hcall : call (e.wrapBlock block) s =
      (.ok text, { s with engine := (e.wrapBlock block s.engine).2 }) := by
    rw [call_eq, ht]
    rfl
  obtain ⟨response, hsettle, hsettles⟩ :=
    settleRetry_settles Escape.unmerged hm (attempt_endsLines e limit _ _ _ hr)
  refine ⟨response, ?_, hsettles⟩
  rw [retry_of_ok (congrArg Prod.fst hcall), hcall, hr, hsettle]

/-- The law of lines below a submission that succeeds, where they are run from a
state on. The calls before the first of them are those of the submission
without them. Where the lines can be wrapped and attempted, the result is that
of the submission without them if the attempt succeeds without text, incomplete
if it is incomplete or an error, and aborted if it aborts; text is merged into
it. -/
structure Trails (e : Engine σ) (limit : Int) (a c first : String) (rest : List String)
    (s : Session σ) (payload : List (String × Entry)) (reached : Session σ) : Prop where
  calls : ∃ before after, calls e limit a s = before ++ [.leave] ∧
    calls e limit (a ++ "\n" ++ c) s =
      before ++ .interpret reached.captured first :: after ++ [.leave]
  settles :
    let last := (walk (attempt e limit) first rest reached).2
    let wrapped := { last with engine := (e.wrapBlock c last.engine).2 }
    ∀ text r, (e.wrapBlock c last.engine).1 = .ok text →
      (attempt e limit text wrapped).1 = .ok r →
      (e.leave (attempt e limit text wrapped).2.engine).1 = .ok () →
      ∃ response, (execute e limit (a ++ "\n" ++ c) s).1 = .ok response ∧
        Settles (.success payload) r response ∧
        ∀ p, r = .success p → Response.textOf p = none ∨ ∃ t, r = .plainText t

/-- A submission that succeeds without a retry, and then with lines below it of which
the first is no magic. The engine is asked about them in the state that the
submission reaches inside the context, and finds them unfinished. Then they
trail the submission: the result is what their retry as a block settles to. The
engine is asked the same after the submission if leaving the context leaves its
state as it is. -/
theorem execute_trailing (e : Engine σ) (limit : Int) (a c first : String) (rest : List String)
    (s : Session σ) (payload : List (String × Entry)) (hA : a ≠ "") (hC : c ≠ "")
    (hsA : Text.stripString a = a) (hsC : Text.stripString c = c) (hc : lines c = first :: rest)
    (hr : (execute e limit a s).1 = .ok (.success payload))
    (hw : ∀ block, EngineCall.wrapBlock block ∉ calls e limit a s)
    (hm : Magic.ofLine? first = none)
    (hasks : Asks e first rest (runLines e limit a (s.admitted e)).2) :
    let reached := (runLines e limit a (s.admitted e)).2
    Trails e limit a c first rest s payload reached ∧
    execute e limit (a ++ "\n" ++ c) s =
      finished e (retry (attempt e limit) (fun block => call (e.wrapBlock block)) .unmerged c
        (.success payload) (walk (attempt e limit) first rest reached).2) ∧
    (execute e limit a s).2.engine = (e.leave reached.engine).2 ∧
    ((e.leave reached.engine).2 = reached.engine →
      (Asks e first rest (execute e limit a s).2 ↔ Asks e first rest reached)) := by
  intro reached
  have ha := admits_of_execute hr
  have hrun := runLines_of_execute hr
  have hu := unretried_of_calls ha hw
  have hfirst : Magic.announces first = false := by
    rw [← Magic.ofLine?_isSome (not_mem_of_mem_lines (hc ▸ List.mem_cons_self)), hm,
      Option.isSome_none]
  obtain ⟨htrailing, outcome, later, hevents⟩ :=
    runLines_trailing hA hC hsA hsC hc hu hrun (hasks.unfinished hfirst)
  have hmerged : Response.Mergeable (.success payload) :=
    mergeable_of_unretried (attempt_endsLines e limit) (lines_ne_nil a) hu hrun
  refine ⟨⟨?_, ?_⟩, ?_, ?_, fun hl => ?_⟩
  · refine ⟨[.isStarted, .enter true] ++
      (runLinesNoted e limit a (s.admitted e)).2.2.flatMap (eventCalls e limit),
      later.flatMap (eventCalls e limit), calls_eq ha limit a, ?_⟩
    have hcall : eventCalls e limit (.attempted ⟨reached, first, outcome⟩) =
        [.interpret reached.captured first] := by
      simp only [eventCalls, hm]
    rw [calls_eq ha, hevents, List.flatMap_append, List.flatMap_cons, hcall]
    simp only [List.append_assoc, List.cons_append, List.nil_append]
  · intro last wrapped text r ht hattempt hleave
    obtain ⟨response, hretry, hsettles⟩ := retry_settles hmerged ht hattempt
    refine ⟨response, ?_, hsettles, fun p hp => ?_⟩
    · rw [execute_of_admits ha, htrailing, hretry]
      unfold finished
      dsimp only
      rw [hleave]
    · rw [hp] at hattempt ⊢
      exact attempt_success hattempt
  · rw [execute_of_admits ha, htrailing]
  · rw [execute_of_admits ha]
    rfl
  · have hengine : (execute e limit a s).2.engine = reached.engine := by
      rw [execute_of_admits ha]
      exact hl
    have hcaptured : (execute e limit a s).2.captured = reached.captured := by
      rw [execute_of_admits ha]
      rfl
    exact ⟨fun h => h.of_eq hengine.symm hcaptured.symm, fun h => h.of_eq hengine hcaptured⟩

/-- Two unfinished lines below a statement. Their wrapped text succeeds and its
console text is merged. -/
theorem execute_trailing_echo :
    Text.stripString "a" = "a" ∧ Text.stripString "b:\nc:" = "b:\nc:" ∧
    lines "b:\nc:" = ["b:", "c:"] ∧ Magic.ofLine? "b:" = none ∧
    Asks echo "b:" ["c:"] (runLines echo 3 "a" (admitted echo { engine := () })).2 ∧
    Asks echo "b:" ["c:"] (execute echo 3 "a" { engine := () }).2 ∧
    (∃ before after, calls echo 3 "a" { engine := () } = before ++ [.leave] ∧
      calls echo 3 "a\nb:\nc:" { engine := () } =
        before ++ .interpret "" "b:" :: after ++ [.leave]) ∧
    ∃ response, (execute echo 3 "a\nb:\nc:" { engine := () }).1 = .ok response ∧
      Settles (.plainText "a") (.plainText "\x7b\nb:\nc:\n\x7d") response := by
  have hasks : Asks echo "b:" ["c:"]
      (runLines echo 3 "a" (admitted echo { engine := () })).2 := ⟨rfl, rfl⟩
  have hcalls : calls echo 3 "a" { engine := () } =
      [.isStarted, .enter true, .interpret "" "a", .leave] := rfl
  obtain ⟨⟨hbefore, hresponse⟩, -, -, hafter⟩ := execute_trailing echo 3 "a" "b:\nc:" "b:"
    ["c:"] { engine := () } _ (by decide) (by decide) (by decide) (by decide) rfl rfl
    (by rw [hcalls]; exact fun block h => by simp at h) (by decide) hasks
  obtain ⟨response, hexecute, hsettles, -⟩ := hresponse _ _ rfl rfl rfl
  exact ⟨by decide, by decide, rfl, by decide, hasks, (hafter rfl).mpr hasks, hbefore, response,
    hexecute, hsettles⟩

/-- An engine that echoes statements until its context is left for the first time.
From then on it finds every statement incomplete. -/
def guardedEcho : Engine Bool where
  start := fun left => (.ok (), left)
  isStarted := fun left => (.ok true, left)
  interpret := fun _ code left =>
    ⟨.ok (if left then .incomplete else .success), [.text .out code], left⟩
  lookup := fun name left => (.error (.unbound name), left)
  bind := fun _ _ left => (.ok (), left)
  leave := fun _ => (.ok (), true)

/-- Lines that the engine would find unfinished after the submission above them need
not trail it. An engine can answer otherwise inside the context, of which the
first line then completes, and a first line that is a magic is never put to the
engine, not even where leaving the context has no effect. -/
theorem not_trails_of_asks_after :
    (¬ ∀ (e : Engine Bool) (limit : Int) (a c first : String) (rest : List String)
      (s : Session Bool) (payload : List (String × Entry)), a ≠ "" → c ≠ "" →
      Text.stripString a = a → Text.stripString c = c → lines c = first :: rest →
      (execute e limit a s).1 = .ok (.success payload) →
      (∀ block, EngineCall.wrapBlock block ∉ calls e limit a s) →
      (e.isStarted (execute e limit a s).2.engine).1 = .ok true →
      Magic.ofLine? first = none → Asks e first rest (execute e limit a s).2 →
      Trails e limit a c first rest s payload (execute e limit a s).2) ∧
    ¬ ∀ (e : Engine Unit) (limit : Int) (a c first : String) (rest : List String)
      (s : Session Unit) (payload : List (String × Entry)), a ≠ "" → c ≠ "" →
      Text.stripString a = a → Text.stripString c = c → lines c = first :: rest →
      (execute e limit a s).1 = .ok (.success payload) →
      (∀ block, EngineCall.wrapBlock block ∉ calls e limit a s) →
      (e.isStarted (execute e limit a s).2.engine).1 = .ok true → Neutral e →
      Asks e first rest (execute e limit a s).2 →
      Trails e limit a c first rest s payload (execute e limit a s).2 := by
  refine ⟨fun h => ?_, fun h => ?_⟩
  · have hcalls : calls guardedEcho 3 "a" { engine := false } =
        [.isStarted, .enter true, .interpret "" "a", .leave] := rfl
    have htrails := h guardedEcho 3 "a" "c" "c" [] { engine := false }
      [(plainTextMedia, .host (.string "a"))] (by decide) (by decide) (by decide) (by decide) rfl
      rfl (by rw [hcalls]; exact fun block h => by simp at h) rfl (by decide) rfl
    obtain ⟨response, hexecute, hsettles, -⟩ := htrails.settles _ _ rfl rfl rfl
    -- The block is retried in vain after the submission; inside it both lines succeed.
    have hboth : (execute guardedEcho 3 "a\nc" { engine := false }).1 =
        .ok (.plainText "ac") := rfl
    cases hsettles
    cases hboth.symm.trans hexecute
  · have hcalls : calls echo 3 "a" { engine := () } =
        [.isStarted, .enter true, .interpret "" "a", .leave] := rfl
    have htrails := h echo 3 "a" "%b:" "%b:" [] { engine := () }
      [(plainTextMedia, .host (.string "a"))] (by decide) (by decide) (by decide) (by decide) rfl
      rfl (by rw [hcalls]; exact fun block h => by simp at h) rfl
      ⟨fun _ => rfl, fun _ => rfl, fun _ => rfl⟩ rfl
    obtain ⟨before, after, -, hwhole⟩ := htrails.calls
    have hboth : calls echo 3 ("a" ++ "\n" ++ "%b:") { engine := () } =
        [.isStarted, .enter true, .interpret "" "a", .leave] := rfl
    have hasked : EngineCall.interpret "" "%b:" ∈
        calls echo 3 ("a" ++ "\n" ++ "%b:") { engine := () } := by
      rw [hwhole]
      exact List.mem_append_left _ (List.mem_append_right _ List.mem_cons_self)
    rw [hboth] at hasked
    simp at hasked

end LiveSession.Session
