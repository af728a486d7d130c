import LiveSession.Proofs.Engine.Withheld
import LiveSession.Proofs.Session.Execute
import LiveSession.Proofs.Submission.Carried

/-!
# Sessions seen through a map of engine states

A session does the same with an engine as with another engine that shows the
same through a map of states, and however often contexts were entered and left
before. In particular a session whose engine records its calls does what the
session does. Where the engine withholds text, what it withholds stands in the
buffer of the other session.
-/

namespace LiveSession

variable {σ τ : Type}

namespace Session

/-- A session seen through a map of engine states, with so many more contexts
entered and left before. -/
def seen (view : τ → σ) (more : Nat) (s : Session τ) : Session σ :=
  { engine := view s.engine
    captured := s.captured
    redirected := s.redirected
    busy := s.busy
    entered := s.entered + more
    left := s.left + more
    console := s.console
    journal := s.journal
    samples := s.samples }

/-- A session seen through a map of engine states, with what the engine
withholds behind the captured text. -/
def seenWith (view : τ → σ) (withheld : τ → String) (more : Nat) (s : Session τ) : Session σ :=
  { s.seen view more with captured := s.captured ++ withheld s.engine }

/-- Where nothing is withheld there is nothing behind the captured text. -/
theorem seenWith_nothing (view : τ → σ) (more : Nat) :
    seenWith view (fun _ => "") more = seen view more := by
  funext s
  unfold seenWith
  rw [String.append_empty]
  rfl

variable {view : τ → σ} {withheld : τ → String} {e : Engine τ} {image : Engine σ}

/-- A state of the engine that withholds the same is seen beside the same
captured text. -/
theorem seenWith_engine (view : τ → σ) {s : Session τ} {state : τ}
    (h : withheld state = withheld s.engine) (more : Nat) :
    seenWith view withheld more { s with engine := state } =
      { s.seenWith view withheld more with engine := view state } := by
  unfold seenWith
  dsimp only
  rw [h]
  rfl

/-- A call of the engine is seen as the call of the other. -/
theorem call_seenWith {α : Type} {operation : τ → Outcome τ α} {image : σ → Outcome σ α}
    (h : Engine.Mirrors view withheld operation image) (more : Nat) (s : Session τ) :
    call image (s.seenWith view withheld more) =
      ((call operation s).1, (call operation s).2.seenWith view withheld more) := by
  have hs : image (s.seenWith view withheld more).engine =
      ((operation s.engine).1, view (operation s.engine).2) := (h s.engine).1
  rw [call_eq, call_eq, hs, seenWith_engine view (h s.engine).2]

end Session

namespace Magic

open Session

variable {view : τ → σ} {withheld : τ → String} {e : Engine τ} {image : Engine σ}

/-- Sampling has nothing to do with the engine. -/
theorem sample_seenWith (limit : Int) (h : Host) (more : Nat) (s : Session τ) :
    sample limit h (s.seenWith view withheld more) =
      ((sample limit h s).1, (sample limit h s).2.seenWith view withheld more) := by
  unfold sample
  split
  · next take _ =>
    dsimp only
    cases take limit with
    | error f => rfl
    | ok taken =>
      dsimp only
      cases taken.elements? with
      | none => rfl
      | some elements => rfl
  · rfl

/-- The structured form of a value is seen as that of the other engine. -/
theorem structuredForm_seenWith (hv : e.Withholds view withheld image) (limit : Int)
    (name : String) (h : Host) (more : Nat) (s : Session τ) :
    structuredForm image limit name h (s.seenWith view withheld more) =
      ((structuredForm e limit name h s).1,
        (structuredForm e limit name h s).2.seenWith view withheld more) := by
  unfold structuredForm
  rw [sample_seenWith]
  rcases sample limit h s with ⟨outcome, s'⟩
  cases outcome with
  | error f =>
    dsimp only
    split <;> rfl
  | ok value =>
    obtain ⟨hd, hwithheld⟩ := hv.decompose value s'.engine
    have hd : image.decompose value (s'.seenWith view withheld more).engine =
        ((e.decompose value s'.engine).1, view (e.decompose value s'.engine).2) := hd
    dsimp only
    rw [hd]
    rcases hx : e.decompose value s'.engine with ⟨found, state⟩
    rw [hx] at hwithheld
    have hstate := seenWith_engine view hwithheld more
    cases found with
    | error f =>
      dsimp only
      split
      · rw [hstate]
      · rw [← hstate]
        rfl
    | ok entry =>
      dsimp only
      rw [hstate]

/-- Showing a value is seen as showing it with the other engine. -/
theorem showValue_seenWith (hv : e.Withholds view withheld image) (limit : Int) (name : String)
    (render : Entry → Except Escape Response) (more : Nat) (s : Session τ) :
    showValue image limit name render (s.seenWith view withheld more) =
      ((showValue e limit name render s).1,
        (showValue e limit name render s).2.seenWith view withheld more) := by
  obtain ⟨hl, hwithheld⟩ := hv.lookup name s.engine
  have hl : image.lookup name (s.seenWith view withheld more).engine =
      ((e.lookup name s.engine).1, view (e.lookup name s.engine).2) := hl
  unfold showValue
  rw [hl]
  rcases hx : e.lookup name s.engine with ⟨found, state⟩
  rw [hx] at hwithheld
  have hstate := seenWith_engine view hwithheld more
  cases found with
  | error f =>
    dsimp only
    split
    · rw [hstate]
    · rw [hstate]
  | ok h =>
    have hform := structuredForm_seenWith hv limit name h more { s with engine := state }
    dsimp only
    rw [← hstate, hform]
    rcases structuredForm e limit name h { s with engine := state } with ⟨form, s'⟩
    cases form with
    | error escape => rfl
    | ok found =>
      cases found with
      | none => rfl
      | some entry => rfl

/-- A magic is seen as the magic run with the other engine. -/
theorem dispatch_seenWith (hv : e.Withholds view withheld image) (limit : Int) (m : Magic)
    (more : Nat) (s : Session τ) :
    dispatch image limit m (s.seenWith view withheld more) =
      ((dispatch e limit m s).1, (dispatch e limit m s).2.seenWith view withheld more) := by
  have hshow := fun render => showValue_seenWith hv limit m.argument render more
    (s.report .debug .magics ("magic %" ++ m.name ++ " " ++ m.argument))
  unfold dispatch
  dsimp only
  split
  · exact hshow _
  · split
    · exact hshow _
    · rfl

end Magic

namespace Session

variable {view : τ → σ} {withheld : τ → String} {e : Engine τ} {image : Engine σ}

/-- An interpretation is seen as one of the other engine: what it withholds is
captured there. -/
theorem interpretRedirected_seenWith (hv : e.Withholds view withheld image) (code : String)
    (more : Nat) (s : Session τ) :
    interpretRedirected image code (s.seenWith view withheld more) =
      ((interpretRedirected e code s).1,
        (interpretRedirected e code s).2.seenWith view withheld more) := by
  have hi : Engine.MirrorsText view withheld s.engine (e.interpret s.captured code s.engine)
      (image.interpret (s.seenWith view withheld more).captured code
        (s.seenWith view withheld more).engine) := hv.interpret s.captured code s.engine
  rw [interpretRedirected_eq, interpretRedirected_eq]
  dsimp only
  rw [hi.verdict, hi.state, hi.displayed]
  unfold seenWith
  dsimp only
  rw [String.append_assoc, String.append_assoc, ← hi.written]
  rfl

/-- Reading captured text is seen as reading it where nothing is withheld. -/
theorem drain_seenWith (view : τ → σ) {s : Session τ} (h : withheld s.engine = "") (more : Nat) :
    (s.seenWith view withheld more).drain =
      (s.drain.1, s.drain.2.seenWith view withheld more) := by
  unfold drain seenWith
  dsimp only
  rw [h, String.append_empty]
  rfl

/-- Interpreting a text is seen as interpreting it with the other engine. -/
theorem interpret_seenWith (hv : e.Withholds view withheld image) (code : String) (more : Nat)
    (s : Session τ) :
    interpret image code (s.seenWith view withheld more) =
      ((interpret e code s).1, (interpret e code s).2.seenWith view withheld more) := by
  have hr := interpretRedirected_seenWith hv code more
    (s.report .debug .pipeline ("interpreting " ++ Text.quote code))
  have hs : (s.seenWith view withheld more).report .debug .pipeline
      ("interpreting " ++ Text.quote code) =
        (s.report .debug .pipeline ("interpreting " ++ Text.quote code)).seenWith view withheld
          more := rfl
  have hstep := interpretRedirected_eq e code
    (s.report .debug .pipeline ("interpreting " ++ Text.quote code))
  have hreleased := (hv.interpret s.captured code s.engine).released
  unfold interpret
  dsimp only
  rw [hs, hr, hv.kind]
  rcases hx : interpretRedirected e code
    (s.report .debug .pipeline ("interpreting " ++ Text.quote code)) with ⟨verdict, s'⟩
  rw [hx] at hstep
  have hverdict : (e.interpret s.captured code s.engine).verdict = verdict :=
    (congrArg Prod.fst hstep).symm
  have hstate : (e.interpret s.captured code s.engine).state = s'.engine :=
    (congrArg (fun x => x.2.engine) hstep).symm
  rw [hstate] at hreleased
  cases verdict with
  | error f =>
    rw [Interpretation.isInterrupted_of_error hverdict] at hreleased
    dsimp only
    by_cases hf : f.interrupts = true
    · rw [if_pos hf, if_pos hf]
    · have hd := drain_seenWith view (hreleased (Bool.eq_false_iff.mpr hf)) more
      rw [if_neg hf, if_neg hf, hd]
      split <;> rfl
  | ok verdict =>
    have hd := drain_seenWith view (hreleased (Interpretation.isInterrupted_of_ok hverdict)) more
    dsimp only
    rw [hd]

/-- An attempt is seen as the attempt with the other engine. -/
theorem attempt_seenWith (hv : e.Withholds view withheld image) (limit : Int) (more : Nat) :
    Submission.Carries (seenWith view withheld more) (attempt e limit)
      (attempt image limit) := by
  intro code s
  unfold attempt
  split
  · exact Magic.dispatch_seenWith hv limit _ more s
  · exact interpret_seenWith hv code more s

/-- Wrapping a block is seen as wrapping it with the other engine. -/
theorem wrapBlock_seenWith (hv : e.Withholds view withheld image) (more : Nat) :
    Submission.Carries (seenWith view withheld more) (fun block => call (e.wrapBlock block))
      (fun block => call (image.wrapBlock block)) :=
  fun block s => call_seenWith (hv.wrapBlock block) more s

/-- Running lines is seen as running them with the other engine. -/
theorem runLines_seenWith (hv : e.Withholds view withheld image) (limit : Int) (code : String)
    (more : Nat) (s : Session τ) :
    runLines image limit code (s.seenWith view withheld more) =
      ((runLines e limit code s).1, (runLines e limit code s).2.seenWith view withheld more) :=
  Submission.run_carried (attempt_seenWith hv limit more) (wrapBlock_seenWith hv more) _ s

/-- The notes of running lines are seen as those of running them with the other
engine. -/
theorem runLinesNoted_seenWith (hv : e.Withholds view withheld image) (limit : Int)
    (code : String) (more : Nat) (s : Session τ) :
    (runLinesNoted image limit code (s.seenWith view withheld more)).2.2 =
      (runLinesNoted e limit code s).2.2.map
        (Submission.Event.map (seenWith view withheld more)) := by
  unfold runLinesNoted
  rw [Submission.runNoted_carried (attempt_seenWith hv limit more) (wrapBlock_seenWith hv more)]

/-- An operation inside the context is seen as one inside the context of the
other engine. -/
theorem inContext_seenWith {α : Type} (hv : e.Withholds view withheld image) {more : Nat}
    {body : Session τ → Result τ α} {body' : Session σ → Result σ α}
    (hb : ∀ s, body' (s.seenWith view withheld more) =
      ((body s).1, (body s).2.seenWith view withheld more))
    (s : Session τ) :
    inContext image body' (s.seenWith view withheld more) =
      ((inContext e body s).1, (inContext e body s).2.seenWith view withheld more) := by
  unfold inContext
  rw [call_seenWith hv.enter]
  rcases call e.enter s with ⟨granted, s'⟩
  cases granted with
  | error escape => rfl
  | ok u =>
    have hentered : { s'.seenWith view withheld more with
        entered := (s'.seenWith view withheld more).entered + 1 } =
        ({ s' with entered := s'.entered + 1 } : Session τ).seenWith view withheld more := by
      unfold seenWith seen
      dsimp only
      rw [Nat.add_right_comm]
    dsimp only
    rw [hentered, hb]
    rcases body { s' with entered := s'.entered + 1 } with ⟨result, s''⟩
    have hleft : { s''.seenWith view withheld more with
        left := (s''.seenWith view withheld more).left + 1 } =
        ({ s'' with left := s''.left + 1 } : Session τ).seenWith view withheld more := by
      unfold seenWith seen
      dsimp only
      rw [Nat.add_right_comm]
    dsimp only
    rw [hleft, call_seenWith hv.leave]
    rcases call e.leave { s'' with left := s''.left + 1 } with ⟨returned, s'''⟩
    cases returned with
    | error escape => rfl
    | ok u => rfl

/-- Executing a submission is seen as executing it with the other engine. -/
theorem execute_seenWith (hv : e.Withholds view withheld image) (limit : Int) (code : String)
    (more : Nat) (s : Session τ) :
    execute image limit code (s.seenWith view withheld more) =
      ((execute e limit code s).1, (execute e limit code s).2.seenWith view withheld more) := by
  unfold execute
  rw [call_seenWith hv.isStarted]
  rcases call e.isStarted s with ⟨outcome, s'⟩
  cases outcome with
  | error escape => rfl
  | ok started =>
    cases started with
    | false => rfl
    | true =>
      have hbusy : { s'.seenWith view withheld more with busy := true } =
          ({ s' with busy := true } : Session τ).seenWith view withheld more := rfl
      unfold exclusively
      dsimp only
      rw [hbusy, inContext_seenWith hv fun s => runLines_seenWith hv limit code more s]
      rfl

section Nothing

variable (hv : e.Views view image)

include hv

/-- Running lines with an engine that withholds nothing. -/
theorem runLines_seen (limit : Int) (code : String) (more : Nat) (s : Session τ) :
    runLines image limit code (s.seen view more) =
      ((runLines e limit code s).1, (runLines e limit code s).2.seen view more) := by
  rw [← seenWith_nothing]
  exact runLines_seenWith hv.withholds limit code more s

/-- The notes of running lines with an engine that withholds nothing. -/
theorem runLinesNoted_seen (limit : Int) (code : String) (more : Nat) (s : Session τ) :
    (runLinesNoted image limit code (s.seen view more)).2.2 =
      (runLinesNoted e limit code s).2.2.map (Submission.Event.map (seen view more)) := by
  rw [← seenWith_nothing]
  exact runLinesNoted_seenWith hv.withholds limit code more s

/-- Executing a submission with an engine that withholds nothing. -/
theorem execute_seen (limit : Int) (code : String) (more : Nat) (s : Session τ) :
    execute image limit code (s.seen view more) =
      ((execute e limit code s).1, (execute e limit code s).2.seen view more) := by
  rw [← seenWith_nothing]
  exact execute_seenWith hv.withholds limit code more s

end Nothing

end Session

end LiveSession
