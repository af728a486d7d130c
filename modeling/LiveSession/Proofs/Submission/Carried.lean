import LiveSession.Proofs.Submission.Notes

/-!
# Runs carried over by a map of states

When operations on one state do the same as operations on another, seen through
a map from the first state to the second, so do runs of them: same result, same
attempts, and a final state that the map sends to the other.
-/

namespace LiveSession.Submission

variable {S T E α : Type}

/-- An operation on one state does what an operation on another does. -/
def Carries (f : S → T) (operation : Operation S E α) (image : Operation T E α) : Prop :=
  ∀ text s, image text (f s) = ((operation text s).1, f (operation text s).2)

/-- An attempt with its state seen through a map. -/
def Attempt.map (f : S → T) (a : Attempt S E) : Attempt T E :=
  ⟨f a.before, a.text, a.outcome⟩

/-- An event with its state seen through a map. -/
def Event.map (f : S → T) : Event S E → Event T E
  | .attempted a => .attempted (a.map f)
  | .wrapped s block outcome => .wrapped (f s) block outcome

section Run

variable {f : S → T} {attempt : Operation S E Response} {attempt' : Operation T E Response}
  {wrap : Operation S E String} {wrap' : Operation T E String} {unmerged : MergeError → E}

/-- A retry is carried over. -/
theorem retry_carried (ha : Carries f attempt attempt') (hw : Carries f wrap wrap')
    (block : String) (merged : Response) (s : S) :
    retry attempt' wrap' unmerged block merged (f s) =
      ((retry attempt wrap unmerged block merged s).1,
        f (retry attempt wrap unmerged block merged s).2) := by
  have hs := hw block s
  cases h : (wrap block s).1 with
  | error e =>
    have h' : (wrap' block (f s)).1 = .error e := by rw [hs, h]
    rw [retry_of_error h, retry_of_error h', hs]
  | ok text =>
    have h' : (wrap' block (f s)).1 = .ok text := by rw [hs, h]
    rw [retry_of_ok h, retry_of_ok h', hs, ha]

/-- A run from a block on is carried over. -/
theorem runFrom_carried (ha : Carries f attempt attempt') (hw : Carries f wrap wrap')
    (block : String) (rest : List String) (merged : Response) (s : S) :
    runFrom attempt' wrap' unmerged block rest merged (f s) =
      ((runFrom attempt wrap unmerged block rest merged s).1,
        f (runFrom attempt wrap unmerged block rest merged s).2) := by
  induction rest generalizing block merged s with
  | nil =>
    rw [runFrom, runFrom, ha]
    rcases attempt block s with ⟨outcome, s'⟩
    cases outcome with
    | error e => rfl
    | ok r =>
      cases r with
      | success payload =>
        dsimp only
        cases Response.merge merged (.success payload) with
        | error e => rfl
        | ok m => rfl
      | error kind name traceback => rfl
      | incomplete => exact retry_carried ha hw block merged s'
      | aborted message => rfl
      | bare =>
        dsimp only
        cases Response.merge merged .bare with
        | error e => rfl
        | ok m => rfl
  | cons next rest ih =>
    rw [runFrom, runFrom, ha]
    rcases attempt block s with ⟨outcome, s'⟩
    cases outcome with
    | error e => rfl
    | ok r =>
      cases r with
      | success payload =>
        dsimp only
        cases Response.merge merged (.success payload) with
        | error e => rfl
        | ok m => exact ih next m.response s'
      | error kind name traceback => rfl
      | incomplete => exact ih (join block next) merged s'
      | aborted message => rfl
      | bare =>
        dsimp only
        cases Response.merge merged .bare with
        | error e => rfl
        | ok m => exact ih next m.response s'

/-- A run of lines is carried over. -/
theorem run_carried (ha : Carries f attempt attempt') (hw : Carries f wrap wrap')
    (lines : List String) (s : S) :
    run attempt' wrap' unmerged lines (f s) =
      ((run attempt wrap unmerged lines s).1, f (run attempt wrap unmerged lines s).2) := by
  cases lines with
  | nil => rfl
  | cons first rest => exact runFrom_carried ha hw first rest _ s

/-- A noted run of lines is the run of lines, without the notes. -/
theorem run_of_runNoted (lines : List String) (s : S) :
    run attempt wrap unmerged lines s =
      ((runNoted attempt wrap unmerged lines s).1, (runNoted attempt wrap unmerged lines s).2.1) :=
  run_carried (f := Prod.fst) (fun _ _ => rfl) (fun _ _ => rfl) lines (s, [])

/-- Noted operations are carried over together with their notes. -/
theorem Carries.noted {operation : Operation S E α} {image : Operation T E α} {N M : Type}
    {g : N → M} {event : S → String → Except E α → N} {event' : T → String → Except E α → M}
    (h : Carries f operation image)
    (he : ∀ s text outcome, event' (f s) text outcome = g (event s text outcome)) :
    Carries (fun noted : S × List N => (f noted.1, noted.2.map g))
      (Submission.noted operation event) (Submission.noted image event') := by
  intro text s
  unfold Submission.noted
  dsimp only
  rw [h, he, List.map_append, List.map_cons, List.map_nil]

/-- A noted run of lines is carried over, and its notes with it. -/
theorem runNoted_carried (ha : Carries f attempt attempt') (hw : Carries f wrap wrap')
    (lines : List String) (s : S) :
    runNoted attempt' wrap' unmerged lines (f s) =
      ((runNoted attempt wrap unmerged lines s).1, f (runNoted attempt wrap unmerged lines s).2.1,
        (runNoted attempt wrap unmerged lines s).2.2.map (Event.map f)) :=
  run_carried (ha.noted fun _ _ _ => rfl) (hw.noted fun _ _ _ => rfl) lines (s, [])

end Run

end LiveSession.Submission
