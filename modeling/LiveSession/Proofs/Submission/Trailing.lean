import LiveSession.Proofs.Submission.Attempts

/-!
# Unfinished tails

Lines that stay incomplete, however many of them are joined, are attempted one
join after the other and then retried as one block. What was merged before is
what the retry is settled with.
-/

namespace LiveSession.Submission

variable {S E : Type} {attempt : Operation S E Response} {wrap : Operation S E String}
  {unmerged : MergeError → E}

/-- A block is incomplete, and again with each of the lines after it joined to it. -/
def Unfinished (attempt : Operation S E Response) : String → List String → S → Prop
  | block, [], s => (attempt block s).1 = .ok .incomplete
  | block, next :: rest, s =>
    (attempt block s).1 = .ok .incomplete ∧
      Unfinished attempt (join block next) rest (attempt block s).2

/-- Joined lines are joined with the lines after them. -/
theorem intercalate_join (block next : String) (rest : List String) :
    String.intercalate "\n" (join block next :: rest) =
      String.intercalate "\n" (block :: next :: rest) := by
  rw [join, String.intercalate_cons_append, String.intercalate_cons_cons]

/-- A run of unfinished lines is the retry of all of them as one block. -/
theorem runFrom_unfinished {block : String} {rest : List String} {s : S}
    (h : Unfinished attempt block rest s) (merged : Response) :
    runFrom attempt wrap unmerged block rest merged s =
      retry attempt wrap unmerged (String.intercalate "\n" (block :: rest)) merged
        (walk attempt block rest s).2 := by
  induction rest generalizing block s with
  | nil =>
    rw [runFrom_incomplete_nil h, String.intercalate_singleton]
    rfl
  | cons next rest ih =>
    obtain ⟨hi, hrest⟩ := h
    rw [runFrom_incomplete_cons hi, walk_incomplete hi, ih hrest, intercalate_join]

/-- The first attempt of a walk is at the block it starts with. -/
theorem walk_head (attempt : Operation S E Response) (block : String) (rest : List String)
    (s : S) :
    ∃ later, (walk attempt block rest s).1 = ⟨s, block, (attempt block s).1⟩ :: later := by
  cases rest with
  | nil => exact ⟨[], rfl⟩
  | cons next rest =>
    unfold walk
    dsimp only
    split <;> exact ⟨_, rfl⟩

end LiveSession.Submission
