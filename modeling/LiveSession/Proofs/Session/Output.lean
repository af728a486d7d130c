import LiveSession.Proofs.Session.Attempt

/-!
# Captured output

While a statement is interpreted the text it writes goes to the capture buffer,
which is read and emptied afterwards. An attempt that starts with an empty
buffer therefore answers with the text of its own interpretation, leaves the
buffer empty, and leaves routing, lock and context as they were.
-/

namespace LiveSession

variable {σ : Type}

/-- The text among emissions, in order of writing. -/
def written : List Emission → String
  | [] => ""
  | .text _ t :: rest => t ++ written rest
  | .display _ :: rest => written rest

/-- The displayed values among emissions, in order of display. -/
def displayed : List Emission → List Host
  | [] => []
  | .text _ _ :: rest => displayed rest
  | .display h :: rest => h :: displayed rest

/-- Show values one after the other. -/
def Console.displayAll (c : Console) (values : List Host) : Console :=
  { c with echo := c.echo ++ values }

/-- Whether an interpretation is interrupted. -/
def Interpretation.isInterrupted (step : Interpretation σ) : Bool :=
  match step.verdict with
  | .error f => f.interrupts
  | .ok _ => false

/-- An interpretation that came to an end is not interrupted. -/
theorem Interpretation.isInterrupted_of_ok {step : Interpretation σ} {verdict : Verdict}
    (h : step.verdict = .ok verdict) : step.isInterrupted = false := by
  unfold isInterrupted
  rw [h]

/-- An interpretation that raised is interrupted if the fault interrupts. -/
theorem Interpretation.isInterrupted_of_error {step : Interpretation σ} {f : Fault}
    (h : step.verdict = .error f) : step.isInterrupted = f.interrupts := by
  unfold isInterrupted
  rw [h]

/-- Interrupted statements of an engine write nothing. -/
def Engine.Hushed (e : Engine σ) : Prop :=
  ∀ captured code state, (e.interpret captured code state).isInterrupted = true →
    written (e.interpret captured code state).emissions = ""

/-- Where no statement is interrupted none writes in vain. -/
theorem Engine.hushed_of_uninterrupted {e : Engine σ}
    (hi : ∀ captured code state f,
      (e.interpret captured code state).verdict = .error f → f.interrupts = false) :
    e.Hushed := by
  intro captured code state h
  cases hv : (e.interpret captured code state).verdict with
  | error f =>
    rw [Interpretation.isInterrupted_of_error hv, hi captured code state f hv] at h
    cases h
  | ok verdict =>
    rw [Interpretation.isInterrupted_of_ok hv] at h
    cases h

namespace Session

/-- A later state of a session with the same routing, lock and context. -/
structure Keeps (s s' : Session σ) : Prop where
  redirected : s'.redirected = s.redirected
  busy : s'.busy = s.busy
  entered : s'.entered = s.entered
  left : s'.left = s.left

/-- A state keeps its own routing, lock and context. -/
theorem Keeps.refl (s : Session σ) : Keeps s s := ⟨rfl, rfl, rfl, rfl⟩

/-- What is kept twice is kept. -/
theorem Keeps.trans {s s' s'' : Session σ} (h : Keeps s s') (h' : Keeps s' s'') : Keeps s s'' :=
  ⟨h'.redirected.trans h.redirected, h'.busy.trans h.busy, h'.entered.trans h.entered,
    h'.left.trans h.left⟩

/-- The response to a statement that came to a verdict, or to a fault that does
not interrupt, given its text. -/
def answer (verdict : Except Fault Verdict) (output : String) : Response :=
  match verdict with
  | .error f =>
    .aborted (if f.nature = .abort then f.message else f.label ++ ": " ++ f.message)
  | .ok verdict => respond verdict output

/-- The response to a text that is interpreted in a state of the engine with
nothing captured before: it depends on this interpretation alone. -/
def ownResponse (e : Engine σ) (code : String) (state : σ) : Response :=
  let step := e.interpret "" code state
  answer step.verdict (written step.emissions)

/-- Delivering emissions while output is redirected adds their text to the
buffer and their values to the console. -/
theorem deliver_redirected {s : Session σ} (h : s.redirected = true)
    (emissions : List Emission) :
    s.deliver emissions =
      { s with
        captured := s.captured ++ written emissions
        console := s.console.displayAll (displayed emissions) } := by
  induction emissions generalizing s with
  | nil =>
    rw [deliver, written, displayed, String.append_empty, Console.displayAll, List.append_nil]
  | cons emission rest ih =>
    cases emission with
    | text stream t =>
      have hr := ih (s := { s with captured := s.captured ++ t }) h
      rw [deliver, if_pos h, hr, written, displayed, String.append_assoc]
    | display value =>
      have hr := ih (s := { s with console := s.console.display value }) h
      rw [deliver, hr, written, displayed]
      unfold Console.displayAll Console.display
      dsimp only
      rw [List.append_assoc, List.singleton_append]

/-- An interpretation with redirected output runs one step of the engine,
captures what it writes and shows what it displays. -/
theorem interpretRedirected_eq (e : Engine σ) (code : String) (s : Session σ) :
    let step := e.interpret s.captured code s.engine
    interpretRedirected e code s =
      (step.verdict,
        { s with
          engine := step.state
          captured := s.captured ++ written step.emissions
          console := s.console.displayAll (displayed step.emissions) }) := by
  unfold interpretRedirected
  dsimp only
  rw [deliver_redirected rfl]

/-- An interpretation with redirected output runs one step of the engine and
captures what it writes; the routing is restored. -/
theorem interpretRedirected_spec (e : Engine σ) (code : String) (s : Session σ) :
    (interpretRedirected e code s).1 = (e.interpret s.captured code s.engine).verdict ∧
      (interpretRedirected e code s).2.captured =
        s.captured ++ written (e.interpret s.captured code s.engine).emissions ∧
      (interpretRedirected e code s).2.engine = (e.interpret s.captured code s.engine).state ∧
      Keeps s (interpretRedirected e code s).2 := by
  rw [interpretRedirected_eq]
  exact ⟨rfl, rfl, rfl, ⟨rfl, rfl, rfl, rfl⟩⟩

/-- An interpretation runs one step of the engine and keeps routing, lock and
context. Unless it is interrupted it answers with the captured text and leaves
the buffer empty. -/
theorem interpret_spec (e : Engine σ) (code : String) (s : Session σ) :
    (interpret e code s).2.engine = (e.interpret s.captured code s.engine).state ∧
      Keeps s (interpret e code s).2 ∧
      ((∀ f, (e.interpret s.captured code s.engine).verdict = .error f → f.interrupts = false) →
        (interpret e code s).2.captured = "" ∧
          (interpret e code s).1 =
            .ok (answer (e.interpret s.captured code s.engine).verdict
              (s.captured ++ written (e.interpret s.captured code s.engine).emissions))) := by
  obtain ⟨hv, hc, he, hr⟩ := interpretRedirected_spec e code
    (s.report .debug .pipeline ("interpreting " ++ Text.quote code))
  unfold interpret
  rcases hi : interpretRedirected e code
    (s.report .debug .pipeline ("interpreting " ++ Text.quote code)) with ⟨verdict, s'⟩
  rw [hi] at hv hc he hr
  have hverdict : (e.interpret s.captured code s.engine).verdict = verdict := hv.symm
  have hcaptured : s'.captured =
      s.captured ++ written (e.interpret s.captured code s.engine).emissions := hc
  have hengine : s'.engine = (e.interpret s.captured code s.engine).state := he
  have hkeeps : Keeps s s' := ⟨hr.redirected, hr.busy, hr.entered, hr.left⟩
  have hdrained : Keeps s s'.drain.2 :=
    ⟨hkeeps.redirected, hkeeps.busy, hkeeps.entered, hkeeps.left⟩
  rw [hverdict]
  simp only [hi]
  cases verdict with
  | ok v =>
    refine ⟨hengine, hdrained, fun _ => ⟨rfl, ?_⟩⟩
    simp only [drain, hcaptured, answer]
  | error f =>
    by_cases hf : f.interrupts = true
    · simp only [hf, if_true]
      refine ⟨hengine, hkeeps, fun h => ?_⟩
      rw [h f rfl] at hf
      cases hf
    · by_cases ha : f.nature = .abort
      · simp only [hf, ha, answer, if_true]
        exact ⟨hengine, hdrained, fun _ => ⟨rfl, rfl⟩⟩
      · simp only [hf, ha, answer]
        exact ⟨hengine, ⟨hkeeps.redirected, hkeeps.busy, hkeeps.entered, hkeeps.left⟩,
          fun _ => ⟨rfl, rfl⟩⟩

/-- An interpretation that is interrupted passes the fault through and leaves
what it wrote behind the captured text. -/
theorem interpret_of_interrupted {e : Engine σ} {code : String} {s : Session σ} {f : Fault}
    (hv : (e.interpret s.captured code s.engine).verdict = .error f)
    (hf : f.interrupts = true) :
    (interpret e code s).1 = .error (.fault f) ∧
      (interpret e code s).2.captured =
        s.captured ++ written (e.interpret s.captured code s.engine).emissions := by
  have hstep := interpretRedirected_eq e code
    (s.report .debug .pipeline ("interpreting " ++ Text.quote code))
  have hv : (e.interpret (s.report .debug .pipeline
      ("interpreting " ++ Text.quote code)).captured code
        (s.report .debug .pipeline ("interpreting " ++ Text.quote code)).engine).verdict =
          .error f := hv
  dsimp only at hstep
  rw [hv] at hstep
  unfold interpret
  dsimp only
  rw [hstep]
  dsimp only
  rw [if_pos hf]
  exact ⟨rfl, rfl⟩

end Session

namespace Magic

open Session (Keeps)

/-- A later state of a session that differs from an earlier one in no more than
a magic changes: captured text, routing, lock and context are the same. -/
structure Apart (s s' : Session σ) : Prop extends Keeps s s' where
  captured : s'.captured = s.captured

variable {e : Engine σ} {P : σ → Prop}

/-- Sampling leaves the engine alone. -/
theorem sample_apart (limit : Int) (h : Host) (s : Session σ) :
    (sample limit h s).2.engine = s.engine ∧ Apart s (sample limit h s).2 := by
  unfold sample
  split
  · dsimp only
    split
    · exact ⟨rfl, ⟨⟨rfl, rfl, rfl, rfl⟩, rfl⟩⟩
    · split
      · exact ⟨rfl, ⟨⟨rfl, rfl, rfl, rfl⟩, rfl⟩⟩
      · exact ⟨rfl, ⟨⟨rfl, rfl, rfl, rfl⟩, rfl⟩⟩
  · exact ⟨rfl, ⟨.refl s, rfl⟩⟩

/-- Taking the structured form of a value asks the engine to decompose, at
most. -/
theorem structuredForm_apart (hd : ∀ h state, P state → P (e.decompose h state).2) (limit : Int)
    (name : String) (h : Host) {s : Session σ} (hs : P s.engine) :
    P (structuredForm e limit name h s).2.engine ∧
      Apart s (structuredForm e limit name h s).2 := by
  obtain ⟨hengine, ha⟩ := sample_apart limit h s
  unfold structuredForm
  rcases hx : sample limit h s with ⟨outcome, s'⟩
  rw [hx] at hengine ha
  dsimp only at hengine ha ⊢
  have hs' : P s'.engine := hengine.symm ▸ hs
  cases outcome with
  | error f =>
    dsimp only
    split
    · exact ⟨hs', ha⟩
    · exact ⟨hs', ⟨⟨ha.redirected, ha.busy, ha.entered, ha.left⟩, ha.captured⟩⟩
  | ok value =>
    have hstep := hd value s'.engine hs'
    rcases hr : e.decompose value s'.engine with ⟨found, state⟩
    rw [hr] at hstep
    have ha' : Apart s { s' with engine := state } :=
      ⟨⟨ha.redirected, ha.busy, ha.entered, ha.left⟩, ha.captured⟩
    simp only [hr]
    cases found with
    | error f =>
      dsimp only
      split
      · exact ⟨hstep, ha'⟩
      · exact ⟨hstep, ⟨⟨ha.redirected, ha.busy, ha.entered, ha.left⟩, ha.captured⟩⟩
    | ok entry => exact ⟨hstep, ha'⟩

/-- Showing a value asks the engine to look up a name and to decompose, at
most. -/
theorem showValue_apart (hl : ∀ name state, P state → P (e.lookup name state).2)
    (hd : ∀ h state, P state → P (e.decompose h state).2) (limit : Int) (name : String)
    (render : Entry → Except Escape Response) {s : Session σ} (hs : P s.engine) :
    P (showValue e limit name render s).2.engine ∧
      Apart s (showValue e limit name render s).2 := by
  have hstep := hl name s.engine hs
  unfold showValue
  rcases hr : e.lookup name s.engine with ⟨found, state⟩
  rw [hr] at hstep
  have ha : Apart s { s with engine := state } := ⟨⟨rfl, rfl, rfl, rfl⟩, rfl⟩
  cases found with
  | error f =>
    dsimp only
    split
    · exact ⟨hstep, ha⟩
    · exact ⟨hstep, ha⟩
  | ok h =>
    have hform := structuredForm_apart hd limit name h (s := { s with engine := state }) hstep
    have ha' : Apart s (structuredForm e limit name h { s with engine := state }).2 :=
      ⟨ha.toKeeps.trans hform.2.toKeeps, hform.2.captured⟩
    rcases hx : structuredForm e limit name h { s with engine := state } with ⟨form, s'⟩
    rw [hx] at hform ha'
    simp only [hx]
    split
    · next heq => cases heq; exact ⟨hform.1, ha'⟩
    · next heq => cases heq; exact ⟨hform.1, ha'⟩
    · next heq => cases heq; exact ⟨hform.1, ha'⟩

/-- A magic asks the engine to look up a name and to decompose, at most, and
has nothing to do with captured text. -/
theorem dispatch_apart (hl : ∀ name state, P state → P (e.lookup name state).2)
    (hd : ∀ h state, P state → P (e.decompose h state).2) (limit : Int) (m : Magic)
    {s : Session σ} (hs : P s.engine) :
    P (dispatch e limit m s).2.engine ∧ Apart s (dispatch e limit m s).2 := by
  have hshow := fun render => showValue_apart hl hd limit m.argument render
    (s := s.report .debug .magics ("magic %" ++ m.name ++ " " ++ m.argument)) hs
  have ha := fun render => (hshow render).2
  unfold dispatch
  dsimp only
  split
  · exact ⟨(hshow _).1, ⟨⟨(ha _).redirected, (ha _).busy, (ha _).entered, (ha _).left⟩,
      (ha _).captured⟩⟩
  · split
    · exact ⟨(hshow _).1, ⟨⟨(ha _).redirected, (ha _).busy, (ha _).entered, (ha _).left⟩,
        (ha _).captured⟩⟩
    · exact ⟨hs, ⟨.refl s, rfl⟩⟩

end Magic

namespace Session

/-- An attempt keeps routing, lock and context. -/
theorem attempt_keeps (e : Engine σ) (limit : Int) (code : String) (s : Session σ) :
    Keeps s (attempt e limit code s).2 := by
  unfold attempt
  split
  · exact (Magic.dispatch_apart (P := fun _ => True) (fun _ _ h => h) (fun _ _ h => h) limit _
      trivial).2.toKeeps
  · exact (interpret_spec e code s).2.1

/-- An attempt asks the engine to interpret, to look up a name and to decompose,
at most. -/
theorem attempt_engine {e : Engine σ} {P : σ → Prop} {s : Session σ}
    (hi : ∀ code state, P state → P (e.interpret s.captured code state).state)
    (hl : ∀ name state, P state → P (e.lookup name state).2)
    (hd : ∀ h state, P state → P (e.decompose h state).2) (limit : Int) (code : String)
    (hs : P s.engine) : P (attempt e limit code s).2.engine := by
  unfold attempt
  split
  · exact (Magic.dispatch_apart hl hd limit _ hs).1
  · rw [(interpret_spec e code s).1]
    exact hi _ _ hs

/-- An attempt that finds an empty buffer leaves one, where interrupted
statements write nothing. -/
theorem attempt_captured {e : Engine σ} (hh : e.Hushed) (limit : Int) (code : String)
    {s : Session σ} (hs : s.captured = "") : (attempt e limit code s).2.captured = "" := by
  unfold attempt
  split
  · exact (Magic.dispatch_apart (P := fun _ => True) (fun _ _ h => h) (fun _ _ h => h) limit _
      trivial).2.captured.trans hs
  · by_cases hi : (e.interpret s.captured code s.engine).isInterrupted = true
    · have hw := hh _ _ _ hi
      cases hv : (e.interpret s.captured code s.engine).verdict with
      | error f =>
        rw [Interpretation.isInterrupted_of_error hv] at hi
        rw [(interpret_of_interrupted hv hi).2, hw, hs, String.append_empty]
      | ok verdict =>
        rw [Interpretation.isInterrupted_of_ok hv] at hi
        cases hi
    · refine ((interpret_spec e code s).2.2 fun f hv => ?_).1
      rw [Interpretation.isInterrupted_of_error hv] at hi
      exact Bool.eq_false_iff.mpr hi

/-- A statement that finds an empty buffer is answered with what it writes
itself, unless it is interrupted. -/
theorem attempt_ownResponse {e : Engine σ}
    (hi : ∀ captured code state f,
      (e.interpret captured code state).verdict = .error f → f.interrupts = false)
    (limit : Int) {code : String} (hc : Magic.ofLine? code = none) {s : Session σ}
    (hs : s.captured = "") :
    (attempt e limit code s).1 = .ok (ownResponse e code s.engine) := by
  have h := ((interpret_spec e code s).2.2 (hi _ _ _)).2
  simp only [attempt, hc]
  rw [h, hs, String.empty_append]
  rfl

end Session

end LiveSession
