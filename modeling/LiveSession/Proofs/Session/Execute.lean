import LiveSession.Proofs.Session.Output

/-!
# Admitted submissions

A submission is admitted when the engine says that it is started and lets its
context be entered. Only then do its lines run, busy and inside the context;
afterwards the context is left and the session is free. A submission that is
not admitted raises, and runs nothing.
-/

namespace LiveSession

/-- An engine that writes each statement it is given, and knows no names. A
statement that ends in a colon is incomplete. -/
def echo : Engine Unit where
  start := fun s => (.ok (), s)
  isStarted := fun s => (.ok true, s)
  interpret := fun _ code s =>
    ⟨.ok (if code.toList.getLast? = some ':' then .incomplete else .success),
      [.text .out code], s⟩
  lookup := fun name s => (.error (.unbound name), s)
  bind := fun _ _ s => (.ok (), s)

namespace Session

variable {σ : Type} {e : Engine σ} {s : Session σ}

/-- A submission is admitted. -/
structure Admits (e : Engine σ) (s : Session σ) : Prop where
  started : (e.isStarted s.engine).1 = .ok true
  granted : (e.enter (e.isStarted s.engine).2).1 = .ok ()

/-- The state in which the lines of an admitted submission run. -/
def admitted (e : Engine σ) (s : Session σ) : Session σ :=
  { s with engine := (e.enter (e.isStarted s.engine).2).2, busy := true, entered := s.entered + 1 }

/-- The end of an admitted submission: the context is left, and the session is
free. -/
def finished (e : Engine σ) (done : Result σ Response) : Result σ Response :=
  (match (e.leave done.2.engine).1 with
    | .error f => .error (.fault f)
    | .ok () => done.1,
    { done.2 with engine := (e.leave done.2.engine).2, left := done.2.left + 1, busy := false })

/-- A call of the engine changes nothing but the engine. -/
theorem call_eq {α : Type} (operation : σ → Outcome σ α) (s : Session σ) :
    call operation s =
      ((operation s.engine).1.mapError .fault, { s with engine := (operation s.engine).2 }) := by
  unfold call
  rcases operation s.engine with ⟨outcome, state⟩
  cases outcome with
  | error f => rfl
  | ok a => rfl

/-- A run of lines keeps what attempts keep and a change of the engine by wrapping
keeps. Every attempt that it notes was made in a state that has it, and came to
the noted outcome. -/
theorem runLinesNoted_invariant {P : Session σ → Prop} {limit : Int}
    (ha : ∀ text s, P s → P (attempt e limit text s).2)
    (hw : ∀ block s, P s → P { s with engine := (e.wrapBlock block s.engine).2 }) (code : String)
    (hs : P s) :
    P (runLinesNoted e limit code s).2.1 ∧
      ∀ a, Submission.Event.attempted a ∈ (runLinesNoted e limit code s).2.2 →
        P a.before ∧ a.outcome = (attempt e limit a.text a.before).1 := by
  refine Submission.runNoted_invariant ha (fun block s h => ?_) (Submission.lines code) hs
  rw [call_eq]
  exact hw block s h

/-- Every attempt of a run comes to what attempting its text in its state comes
to. -/
theorem runLinesNoted_outcome {limit : Int} {code : String}
    {a : Submission.Attempt (Session σ) Escape}
    (h : Submission.Event.attempted a ∈ (runLinesNoted e limit code s).2.2) :
    a.outcome = (attempt e limit a.text a.before).1 :=
  ((runLinesNoted_invariant (P := fun _ => True) (fun _ _ h => h) (fun _ _ h => h) code
    trivial).2 a h).2

/-- In a run that starts with an empty buffer every statement finds an empty
buffer and is answered with its own text, unless an interpretation is
interrupted. -/
theorem runLinesNoted_ownResponse
    (hi : ∀ captured code state f,
      (e.interpret captured code state).verdict = .error f → f.interrupts = false)
    {limit : Int} {code : String} (hs : s.captured = "")
    {a : Submission.Attempt (Session σ) Escape}
    (ha : Submission.Event.attempted a ∈ (runLinesNoted e limit code s).2.2)
    (hm : Magic.ofLine? a.text = none) :
    a.before.captured = "" ∧ a.outcome = .ok (ownResponse e a.text a.before.engine) := by
  obtain ⟨hbefore, houtcome⟩ := (runLinesNoted_invariant (P := fun s => s.captured = "")
    (fun text _ h => attempt_captured (Engine.hushed_of_uninterrupted hi) limit text h)
    (fun _ _ h => h) code hs).2 a ha
  refine ⟨hbefore, ?_⟩
  rw [houtcome]
  exact attempt_ownResponse hi limit hm hbefore

/-- Running lines keeps what attempts keep and a change of the engine by wrapping
keeps. -/
theorem runLines_invariant {P : Session σ → Prop} {limit : Int}
    (ha : ∀ text s, P s → P (attempt e limit text s).2)
    (hw : ∀ block s, P s → P { s with engine := (e.wrapBlock block s.engine).2 }) (code : String)
    (hs : P s) : P (runLines e limit code s).2 := by
  refine Submission.run_invariant ha (fun block s h => ?_) (Submission.lines code) hs
  rw [call_eq]
  exact hw block s h

/-- Running lines keeps routing, lock and context. -/
theorem runLines_keeps (e : Engine σ) (limit : Int) (code : String) (s : Session σ) :
    Keeps s (runLines e limit code s).2 :=
  runLines_invariant (fun text s' h => h.trans (attempt_keeps e limit text s'))
    (fun _ _ h => ⟨h.redirected, h.busy, h.entered, h.left⟩) code (.refl s)

/-- An admitted submission runs its lines and then leaves the context. -/
theorem execute_of_admits (h : Admits e s) (limit : Int) (code : String) :
    execute e limit code s = finished e (runLines e limit code (s.admitted e)) := by
  unfold execute
  rw [call_eq, h.started]
  dsimp only [Except.mapError]
  unfold exclusively inContext
  rw [call_eq]
  dsimp only
  rw [h.granted]
  dsimp only [Except.mapError]
  rw [call_eq]
  have hrun : runLines e limit code
      { s with
        engine := (e.enter (e.isStarted s.engine).2).2
        busy := true
        entered := s.entered + 1 } = runLines e limit code (s.admitted e) := rfl
  rw [hrun]
  generalize runLines e limit code (s.admitted e) = done
  unfold finished
  dsimp only
  cases (e.leave done.2.engine).1 with
  | error f => rfl
  | ok u => rfl

/-- A submission that is not admitted raises. It has asked the engine whether it
is started and, if it is, for its context; nothing else has happened. -/
theorem execute_of_not_admits (h : ¬ Admits e s) (limit : Int) (code : String) :
    ∃ escape,
      execute e limit code s =
          (.error escape, { s with engine := (e.isStarted s.engine).2 }) ∧
        (e.isStarted s.engine).1 ≠ .ok true ∨
      execute e limit code s =
          (.error escape,
            { s with engine := (e.enter (e.isStarted s.engine).2).2, busy := false }) ∧
        (e.isStarted s.engine).1 = .ok true ∧ (e.enter (e.isStarted s.engine).2).1 ≠ .ok () := by
  unfold execute
  rw [call_eq]
  cases hs : (e.isStarted s.engine).1 with
  | error f => exact ⟨_, .inl ⟨rfl, fun hx => nomatch hx⟩⟩
  | ok started =>
    cases started with
    | false => exact ⟨_, .inl ⟨rfl, fun hx => nomatch hx⟩⟩
    | true =>
      dsimp only [Except.mapError]
      unfold exclusively inContext
      rw [call_eq]
      dsimp only
      cases he : (e.enter (e.isStarted s.engine).2).1 with
      | error f => exact ⟨_, .inr ⟨rfl, rfl, fun hx => nomatch hx⟩⟩
      | ok u => exact absurd ⟨hs, he⟩ h

/-- A submission with a response was admitted. -/
theorem admits_of_execute {limit : Int} {code : String} {response : Response}
    (h : (execute e limit code s).1 = .ok response) : Admits e s := by
  refine Classical.byContradiction fun ha => ?_
  obtain ⟨escape, ⟨hx, -⟩ | ⟨hx, -, -⟩⟩ := execute_of_not_admits ha limit code
  · rw [hx] at h
    cases h
  · rw [hx] at h
    cases h

/-- A response to a submission is what its lines came to. -/
theorem runLines_of_execute {limit : Int} {code : String} {response : Response}
    (h : (execute e limit code s).1 = .ok response) :
    (runLines e limit code (s.admitted e)).1 = .ok response := by
  rw [execute_of_admits (admits_of_execute h)] at h
  unfold finished at h
  dsimp only at h
  split at h
  · cases h
  · exact h

/-- An admitted submission whose context can be left comes to what its lines
came to. -/
theorem execute_eq_runLines (ha : Admits e s) {limit : Int} {code : String}
    (hl : (e.leave (runLines e limit code (s.admitted e)).2.engine).1 = .ok ()) :
    (execute e limit code s).1 = (runLines e limit code (s.admitted e)).1 := by
  rw [execute_of_admits ha]
  simp only [finished, hl]

end Session

end LiveSession
