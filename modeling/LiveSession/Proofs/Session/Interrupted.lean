import LiveSession.Proofs.Session.Settled

/-!
# Interrupted statements

An interruption passes through a submission and leaves the text of the
interrupted statement in the capture buffer. The text is not lost and not read
where it belongs: it is as if the interrupted statement had written nothing and
the next statement that comes to an end, in this submission or a later one,
wrote it before its own. Closing the session drops it.
-/

namespace LiveSession

variable {σ : Type}

/-- Whether an emission is text. -/
def Emission.isText : Emission → Bool
  | .text _ _ => true
  | .display _ => false

/-- Emissions without their text write nothing and display the same. -/
theorem written_filter_isText (emissions : List Emission) :
    written (emissions.filter (!·.isText)) = "" ∧
      displayed (emissions.filter (!·.isText)) = displayed emissions := by
  induction emissions with
  | nil => exact ⟨rfl, rfl⟩
  | cons emission rest ih =>
    cases emission with
    | text stream t => exact ih
    | display value => exact ⟨ih.1, congrArg (value :: ·) ih.2⟩

/-- An interpretation without the text that it wrote, if it is interrupted. -/
def Interpretation.hushed (step : Interpretation σ) : Interpretation σ :=
  if step.isInterrupted then { step with emissions := step.emissions.filter (!·.isText) }
  else step

namespace Engine

/-- The engine whose interrupted statements write nothing. -/
def hushed (e : Engine σ) : Engine σ :=
  { e with interpret := fun captured code s => (e.interpret captured code s).hushed }

/-- An operation beside withheld text. -/
def besides {α : Type} (operation : σ → Outcome σ α) (s : σ × String) : Outcome (σ × String) α :=
  ((operation s.1).1, (operation s.1).2, s.2)

/-- The engine whose interrupted statements write nothing, and which withholds
their text: the next statement that is not interrupted writes it before
anything of its own. Closing drops it. -/
def withholding (e : Engine σ) : Engine (σ × String) where
  kind := e.kind
  start := besides e.start
  isStarted := besides e.isStarted
  interpret captured code s :=
    let step := e.interpret (captured ++ s.2) code s.1
    if step.isInterrupted then
      ⟨step.verdict, step.hushed.emissions, (step.state, s.2 ++ written step.emissions)⟩
    else ⟨step.verdict, .text .out s.2 :: step.emissions, (step.state, "")⟩
  lookup name := besides (e.lookup name)
  bind name value := besides (e.bind name value)
  close s :=
    match e.close s.1 with
    | (.ok (), state) => (.ok (), (state, ""))
    | (.error f, state) => (.error f, (state, s.2))
  complete code cursor := besides (e.complete code cursor)
  decompose value := besides (e.decompose value)
  wrapBlock block := besides (e.wrapBlock block)
  enter := besides e.enter
  leave := besides e.leave

/-- An interrupted statement withholds its text, any other writes what was
withheld. -/
theorem withholding_mirrorsText (e : Engine σ) (captured code : String) (s : σ × String) :
    MirrorsText Prod.fst Prod.snd s (e.withholding.interpret captured code s)
      (e.interpret (captured ++ s.2) code s.1) := by
  unfold withholding
  dsimp only
  by_cases hi : (e.interpret (captured ++ s.2) code s.1).isInterrupted = true
  · rw [if_pos hi]
    unfold Interpretation.hushed
    rw [if_pos hi]
    obtain ⟨hw, hd⟩ := written_filter_isText (e.interpret (captured ++ s.2) code s.1).emissions
    refine ⟨rfl, rfl, hd.symm, ?_, fun h => ?_⟩
    · dsimp only
      rw [hw, String.empty_append]
    · have hsame : Interpretation.isInterrupted _ = false := h
      exact absurd (hi.symm.trans hsame) Bool.noConfusion
  · rw [if_neg hi]
    exact ⟨rfl, rfl, rfl, String.append_empty.symm, fun _ => rfl⟩

/-- With the withheld text behind what is captured, the engine that withholds is
the engine itself. -/
theorem withholding_withholds (e : Engine σ) :
    e.withholding.Withholds Prod.fst Prod.snd e where
  kind := rfl
  start _ := ⟨rfl, rfl⟩
  isStarted _ := ⟨rfl, rfl⟩
  interpret := e.withholding_mirrorsText
  lookup _ _ := ⟨rfl, rfl⟩
  bind _ _ _ := ⟨rfl, rfl⟩
  close s := by
    unfold withholding
    dsimp only
    rcases e.close s.1 with ⟨closed, state⟩
    cases closed with
    | error f => rfl
    | ok u => rfl
  dropped s := by
    unfold withholding
    dsimp only
    rcases e.close s.1 with ⟨closed, state⟩
    cases closed with
    | error f => rfl
    | ok u => rfl
  complete _ _ _ := ⟨rfl, rfl⟩
  decompose _ _ := ⟨rfl, rfl⟩
  wrapBlock _ _ := ⟨rfl, rfl⟩
  enter _ := ⟨rfl, rfl⟩
  leave _ := ⟨rfl, rfl⟩

/-- Interrupted statements of an engine that withholds write nothing. -/
theorem withholding_hushed (e : Engine σ) : e.withholding.Hushed := by
  intro captured code s
  unfold withholding
  dsimp only
  intro h
  by_cases hi : (e.interpret (captured ++ s.2) code s.1).isInterrupted = true
  · rw [if_pos hi]
    unfold Interpretation.hushed
    rw [if_pos hi]
    exact (written_filter_isText _).1
  · rw [if_neg hi] at h
    exact absurd h hi

end Engine

namespace Session

/-- A session whose engine withholds what is captured. -/
def withholding (s : Session σ) : Session (σ × String) :=
  { s with engine := (s.engine, s.captured), captured := "" }

/-- Every operation leaves an empty buffer empty, where interrupted statements
write nothing. -/
theorem kept_captured {e : Engine σ} (hh : e.Hushed) (limit : Int) :
    Kept e limit fun s => s.captured = "" where
  start _ h := h
  bind _ _ _ h := h
  complete _ _ _ h := h
  close _ h := h
  execute code s h := by
    by_cases ha : Admits e s
    · rw [execute_of_admits ha]
      exact runLines_invariant (P := fun s => s.captured = "")
        (fun text _ h => attempt_captured hh limit text h) (fun _ _ h => h) code h
    · obtain ⟨escape, ⟨hx, -⟩ | ⟨hx, -, -⟩⟩ := execute_of_not_admits ha limit code
      · rw [hx]
        exact h
      · rw [hx]
        exact h
  drain _ _ := rfl
  report _ _ _ _ h := h

/-- What interrupted statements wrote is answered with the next statement that is
not interrupted, and only there. After any requests a submission is answered as
if interrupted statements wrote nothing and the next statement that comes to an
end wrote their text before its own, a close dropping it; with such an engine
nothing stays in the buffer, and what it withholds is what stays in the buffer
of the session. -/
theorem execute_withholding (e : Engine σ) (settings : Settings) (requests : List Request)
    (code : String) (s : Session σ) :
    (execute e settings.sampleLimit code (handleAll e settings requests s)).1 =
        (execute e.withholding settings.sampleLimit code
          (handleAll e.withholding settings requests s.withholding)).1 ∧
      (handleAll e.withholding settings requests s.withholding).captured = "" ∧
      (handleAll e settings requests s).captured =
        (handleAll e.withholding settings requests s.withholding).engine.2 := by
  have hv := e.withholding_withholds
  -- The session is its withholding one, seen with the withheld text put back.
  have hs : s.withholding.seenWith Prod.fst Prod.snd 0 = s := by
    unfold seenWith withholding
    rw [String.empty_append]
    rfl
  have hrequests := handleAll_seenWith hv settings requests 0 s.withholding
  have hcaptured := (handleAll_kept (kept_captured e.withholding_hushed settings.sampleLimit)
    requests (s := s.withholding) rfl).1
  rw [hs] at hrequests
  have hexecute := execute_seenWith hv settings.sampleLimit code 0
    (handleAll e.withholding settings requests s.withholding)
  refine ⟨?_, hcaptured, ?_⟩
  · rw [hrequests, hexecute]
  · rw [hrequests]
    unfold seenWith
    dsimp only
    rw [hcaptured, String.empty_append]

/-- An engine that writes each statement. A statement that ends in an
exclamation mark is interrupted. -/
def interruptible : Engine Unit :=
  { echo with
    interpret := fun _ code s =>
      ⟨if code.toList.getLast? = some '!' then .error ⟨"KeyboardInterrupt", .interruption, []⟩
        else .ok .success, [.text .out code], s⟩ }

/-- Even where the engine does not look at captured text and the session was
settled, a submission is not always answered as if interrupted statements had
written nothing: the statement `a!` is interrupted, and its text is answered
with the statement `b`, submitted after it. -/
theorem not_execute_hushed :
    ¬ ∀ (e : Engine Unit) (settings : Settings) (requests : List Request) (code : String)
        (s : Session Unit),
      (∀ captured captured' text state,
        e.interpret captured text state = e.interpret captured' text state) → Settled s →
        (execute e settings.sampleLimit code (handleAll e settings requests s)).1 =
          (execute e.hushed settings.sampleLimit code
            (handleAll e.hushed settings requests s)).1 := by
  intro h
  have hsame := h interruptible {} [.execute "a!"] "b" { engine := () } (fun _ _ _ _ => rfl)
    ⟨rfl, rfl, rfl⟩
  have hleft : (execute interruptible 10 "b"
      (handleAll interruptible {} [.execute "a!"] { engine := () })).1 =
        .ok (.plainText "a!b") := rfl
  have hright : (execute interruptible.hushed 10 "b"
      (handleAll interruptible.hushed {} [.execute "a!"] { engine := () })).1 =
        .ok (.plainText "b") := rfl
  have hresponses : Except.ok (ε := Escape) (Response.plainText "a!b") =
      .ok (.plainText "b") := hleft.symm.trans (hsame.trans hright)
  injection hresponses with hresponses
  injection hresponses with hpayload
  injection hpayload with hentry
  injection hentry with _ hentry
  injection hentry with hvalue
  injection hvalue with htext
  exact absurd htext (by decide)

end Session

end LiveSession
