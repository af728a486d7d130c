import LiveSession.Proofs.Response.Merge
import LiveSession.Submission

/-!
# The attempts of a submission

A submission walks through its lines: it attempts a text, goes on with a longer
block or with the next line, and stops after an error, an abort or an escape.
The walk does not depend on what is merged along the way. A run is its walk,
the merged results of the completed blocks, and the retry of a block that
stayed incomplete.

A walk through two runs of lines is one walk after the other where the first
ends with a completed block, and only the first where it halts.
-/

namespace LiveSession.Submission

variable {S E : Type}

/-- A text that was attempted. -/
structure Attempt (S E : Type) where
  /-- The state that the attempt found. -/
  before : S
  text : String
  /-- The response to the text, or what was raised instead. -/
  outcome : Except E Response

/-- Whether nothing is run after this outcome: it is neither a success nor the
news that more is needed. -/
def halts : Except E Response → Bool
  | .ok .incomplete => false
  | .ok (.success _) => false
  | _ => true

/-- The successes among the outcomes of attempts, in order. -/
def successes : List (Attempt S E) → List Response
  | [] => []
  | a :: rest =>
    match a.outcome with
    | .ok (.success payload) => .success payload :: successes rest
    | _ => successes rest

/-- Walk through a block and the lines after it: the attempts, and the state
that they leave. -/
def walk (attempt : Operation S E Response) :
    String → List String → S → List (Attempt S E) × S
  | block, [], s => ([⟨s, block, (attempt block s).1⟩], (attempt block s).2)
  | block, next :: rest, s =>
    let here : Attempt S E := ⟨s, block, (attempt block s).1⟩
    match (attempt block s).1 with
    | .ok .incomplete =>
      let later := walk attempt (join block next) rest (attempt block s).2
      (here :: later.1, later.2)
    | .ok (.success _) =>
      let later := walk attempt next rest (attempt block s).2
      (here :: later.1, later.2)
    | _ => ([here], (attempt block s).2)

/-- What a run comes to after its walk. -/
def conclude (attempt : Operation S E Response) (wrap : Operation S E String)
    (unmerged : MergeError → E) (merged : Response) (walked : List (Attempt S E) × S) :
    Except E Response × S :=
  match walked.1.getLast? with
  | none => (.ok merged, walked.2)
  | some last =>
    if halts last.outcome then (last.outcome, walked.2)
    else
      match Response.mergeAll merged (successes walked.1) with
      | .error e => (.error (unmerged e), walked.2)
      | .ok m =>
        match last.outcome with
        | .ok .incomplete => retry attempt wrap unmerged last.text m walked.2
        | _ => (.ok m, walked.2)

/-- A predicate on operations: no attempt comes to more than a line can end
in. -/
def EndsLines (attempt : Operation S E Response) : Prop :=
  ∀ text s r, (attempt text s).1 = .ok r → r.EndsLine

/-- A success that a line ends in can be merged. -/
theorem EndsLines.mergeable {attempt : Operation S E Response} (ha : EndsLines attempt)
    {text : String} {s : S} {payload : List (String × Entry)}
    (h : (attempt text s).1 = .ok (.success payload)) :
    Response.Mergeable (.success payload) := by
  cases ha text s _ h with
  | success hp => exact hp

section Steps

variable {attempt : Operation S E Response} {wrap : Operation S E String}
  {unmerged : MergeError → E} {block next : String} {rest : List String} {merged : Response}
  {s : S}

/-- An outcome asks for more, completes a block or halts the run. -/
theorem outcome_cases (outcome : Except E Response) :
    outcome = .ok .incomplete ∨ (∃ payload, outcome = .ok (.success payload)) ∨
      halts outcome = true := by
  cases outcome with
  | error e => exact .inr (.inr rfl)
  | ok r =>
    cases r with
    | success payload => exact .inr (.inl ⟨payload, rfl⟩)
    | incomplete => exact .inl rfl
    | error kind name traceback => exact .inr (.inr rfl)
    | aborted message => exact .inr (.inr rfl)
    | bare => exact .inr (.inr rfl)

/-- A walk has attempts. -/
theorem walk_ne_nil (attempt : Operation S E Response) (block : String) (rest : List String)
    (s : S) : (walk attempt block rest s).1 ≠ [] := by
  cases rest with
  | nil => simp only [walk, ne_eq, List.cons_ne_nil, not_false_eq_true]
  | cons next rest =>
    unfold walk
    dsimp only
    split <;> simp only [ne_eq, List.cons_ne_nil, not_false_eq_true]

/-- A walk has a last attempt. -/
theorem walk_getLast? (attempt : Operation S E Response) (block : String) (rest : List String)
    (s : S) : ∃ last, (walk attempt block rest s).1.getLast? = some last :=
  ⟨_, List.getLast?_eq_some_getLast (walk_ne_nil attempt block rest s)⟩

/-- An incomplete block is joined with the next line. -/
theorem walk_incomplete (h : (attempt block s).1 = .ok .incomplete) :
    walk attempt block (next :: rest) s =
      (⟨s, block, .ok .incomplete⟩ ::
          (walk attempt (join block next) rest (attempt block s).2).1,
        (walk attempt (join block next) rest (attempt block s).2).2) := by
  simp only [walk, h]

/-- After a completed block the next line is a block of its own. -/
theorem walk_success {payload : List (String × Entry)}
    (h : (attempt block s).1 = .ok (.success payload)) :
    walk attempt block (next :: rest) s =
      (⟨s, block, .ok (.success payload)⟩ :: (walk attempt next rest (attempt block s).2).1,
        (walk attempt next rest (attempt block s).2).2) := by
  simp only [walk, h]

/-- A halting outcome ends the walk, whatever lines are left. -/
theorem walk_halts (h : halts (attempt block s).1 = true) :
    walk attempt block rest s =
      ([⟨s, block, (attempt block s).1⟩], (attempt block s).2) := by
  cases rest with
  | nil => rfl
  | cons next rest =>
    unfold walk
    dsimp only
    split
    · next hi => rw [hi] at h; cases h
    · next hs => rw [hs] at h; cases h
    · rfl

/-- A run goes on from the outcome of its block, whether lines are left or not. -/
theorem runFrom_eq (attempt : Operation S E Response) (wrap : Operation S E String)
    (unmerged : MergeError → E) (block : String) (rest : List String) (merged : Response) (s : S) :
    runFrom attempt wrap unmerged block rest merged s =
      match attempt block s with
      | (.error e, s) => (.error e, s)
      | (.ok .incomplete, s) =>
        match rest with
        | [] => retry attempt wrap unmerged block merged s
        | next :: rest => runFrom attempt wrap unmerged (join block next) rest merged s
      | (.ok (.error kind name traceback), s) => (.ok (.error kind name traceback), s)
      | (.ok (.aborted message), s) => (.ok (.aborted message), s)
      | (.ok response, s) =>
        match Response.merge merged response with
        | .error e => (.error (unmerged e), s)
        | .ok m =>
          match rest with
          | [] => (.ok m.response, s)
          | next :: rest => runFrom attempt wrap unmerged next rest m.response s :=
  runFrom.eq_def attempt wrap unmerged block rest merged s

/-- With no line left an incomplete block is retried. -/
theorem runFrom_incomplete_nil (h : (attempt block s).1 = .ok .incomplete) :
    runFrom attempt wrap unmerged block [] merged s =
      retry attempt wrap unmerged block merged (attempt block s).2 := by
  rcases hr : attempt block s with ⟨outcome, s'⟩
  rw [hr] at h
  subst h
  rw [runFrom_eq, hr]

/-- With a line left an incomplete block is joined with it. -/
theorem runFrom_incomplete_cons (h : (attempt block s).1 = .ok .incomplete) :
    runFrom attempt wrap unmerged block (next :: rest) merged s =
      runFrom attempt wrap unmerged (join block next) rest merged (attempt block s).2 := by
  rcases hr : attempt block s with ⟨outcome, s'⟩
  rw [hr] at h
  subst h
  rw [runFrom_eq, hr]

/-- With no line left a completed block ends the run. -/
theorem runFrom_success_nil {payload : List (String × Entry)} {m : Merged}
    (h : (attempt block s).1 = .ok (.success payload))
    (hm : Response.merge merged (.success payload) = .ok m) :
    runFrom attempt wrap unmerged block [] merged s = (.ok m.response, (attempt block s).2) := by
  rcases hr : attempt block s with ⟨outcome, s'⟩
  rw [hr] at h
  subst h
  rw [runFrom_eq, hr]
  simp only [hm]

/-- With a line left the run goes on from there with what is merged. -/
theorem runFrom_success_cons {payload : List (String × Entry)} {m : Merged}
    (h : (attempt block s).1 = .ok (.success payload))
    (hm : Response.merge merged (.success payload) = .ok m) :
    runFrom attempt wrap unmerged block (next :: rest) merged s =
      runFrom attempt wrap unmerged next rest m.response (attempt block s).2 := by
  rcases hr : attempt block s with ⟨outcome, s'⟩
  rw [hr] at h
  subst h
  rw [runFrom_eq, hr]
  simp only [hm]

/-- A halting outcome is the outcome of the run. -/
theorem runFrom_halts (ha : EndsLines attempt) (h : halts (attempt block s).1 = true) :
    runFrom attempt wrap unmerged block rest merged s = attempt block s := by
  rcases hr : attempt block s with ⟨outcome, s'⟩
  rw [hr] at h
  cases outcome with
  | error e => rw [runFrom_eq, hr]
  | ok r =>
    cases ha block s r (by rw [hr]) with
    | success hp => cases h
    | error kind name traceback => rw [runFrom_eq, hr]
    | incomplete => cases h
    | aborted message => rw [runFrom_eq, hr]

end Steps

section Append

variable {attempt : Operation S E Response} {block next : String} {rest more : List String}
  {s : S}

/-- A walk that halts has nothing to do with the lines after it. -/
theorem walk_append_of_halts {last : Attempt S E}
    (hl : (walk attempt block rest s).1.getLast? = some last) (hh : halts last.outcome = true) :
    walk attempt block (rest ++ more) s = walk attempt block rest s := by
  induction rest generalizing block s with
  | nil =>
    simp only [walk, List.getLast?_singleton, Option.some.injEq] at hl
    subst hl
    rw [walk_halts hh, walk_halts hh]
  | cons line rest ih =>
    rcases outcome_cases (attempt block s).1 with hi | ⟨payload, hs⟩ | hh'
    · rw [walk_incomplete hi, List.getLast?_cons_of_ne_nil (walk_ne_nil _ _ _ _)] at hl
      rw [List.cons_append, walk_incomplete hi, walk_incomplete hi, ih hl]
    · rw [walk_success hs, List.getLast?_cons_of_ne_nil (walk_ne_nil _ _ _ _)] at hl
      rw [List.cons_append, walk_success hs, walk_success hs, ih hl]
    · rw [walk_halts hh', walk_halts hh']

/-- A walk that ends with a completed block goes on with the next line as a
block of its own. -/
theorem walk_append_of_success {last : Attempt S E} {payload : List (String × Entry)}
    (hl : (walk attempt block rest s).1.getLast? = some last)
    (hs : last.outcome = .ok (.success payload)) :
    walk attempt block (rest ++ next :: more) s =
      ((walk attempt block rest s).1 ++ (walk attempt next more (walk attempt block rest s).2).1,
        (walk attempt next more (walk attempt block rest s).2).2) := by
  induction rest generalizing block s with
  | nil =>
    simp only [walk, List.getLast?_singleton, Option.some.injEq] at hl
    subst hl
    dsimp only at hs
    rw [List.nil_append, walk_success hs]
    simp only [walk, hs, List.cons_append, List.nil_append]
  | cons line rest ih =>
    rcases outcome_cases (attempt block s).1 with hi | ⟨p, hp⟩ | hh
    · rw [walk_incomplete hi, List.getLast?_cons_of_ne_nil (walk_ne_nil _ _ _ _)] at hl
      rw [List.cons_append, walk_incomplete hi, walk_incomplete hi, ih hl, List.cons_append]
    · rw [walk_success hp, List.getLast?_cons_of_ne_nil (walk_ne_nil _ _ _ _)] at hl
      rw [List.cons_append, walk_success hp, walk_success hp, ih hl, List.cons_append]
    · rw [walk_halts hh, List.getLast?_singleton, Option.some.injEq] at hl
      subst hl
      dsimp only at hs
      rw [hs] at hh
      cases hh

end Append

section Conclusion

variable {attempt : Operation S E Response} {wrap : Operation S E String}
  {unmerged : MergeError → E} {merged : Response}

/-- A walk that halts is concluded with its last outcome. -/
theorem conclude_of_halts {walked : List (Attempt S E) × S} {last : Attempt S E}
    (hl : walked.1.getLast? = some last) (hh : halts last.outcome = true) :
    conclude attempt wrap unmerged merged walked = (last.outcome, walked.2) := by
  simp only [conclude, hl, hh, if_true]

/-- A walk that ends with a completed block is concluded with the merged
results. -/
theorem conclude_of_success {walked : List (Attempt S E) × S} {last : Attempt S E}
    {payload : List (String × Entry)} {m : Response} (hl : walked.1.getLast? = some last)
    (hs : last.outcome = .ok (.success payload))
    (hm : Response.mergeAll merged (successes walked.1) = .ok m) :
    conclude attempt wrap unmerged merged walked = (.ok m, walked.2) := by
  simp only [conclude, hl, hs, halts, hm, Bool.false_eq_true, if_false]

/-- A walk that ends with an incomplete block is concluded with the retry of
it. -/
theorem conclude_of_incomplete {walked : List (Attempt S E) × S} {last : Attempt S E}
    {m : Response} (hl : walked.1.getLast? = some last) (hi : last.outcome = .ok .incomplete)
    (hm : Response.mergeAll merged (successes walked.1) = .ok m) :
    conclude attempt wrap unmerged merged walked =
      retry attempt wrap unmerged last.text m walked.2 := by
  simp only [conclude, hl, hi, halts, hm, Bool.false_eq_true, if_false]

/-- An incomplete attempt before others leaves no trace in the conclusion. -/
theorem conclude_incomplete_cons {walked : List (Attempt S E) × S} (hw : walked.1 ≠ []) (s : S)
    (text : String) :
    conclude attempt wrap unmerged merged (⟨s, text, .ok .incomplete⟩ :: walked.1, walked.2) =
      conclude attempt wrap unmerged merged walked := by
  simp only [conclude, List.getLast?_cons_of_ne_nil hw, successes]

/-- A completed block before other attempts is merged into what follows. -/
theorem conclude_success_cons {walked : List (Attempt S E) × S} (hw : walked.1 ≠ []) (s : S)
    (text : String) {payload : List (String × Entry)} {m : Merged}
    (hm : Response.merge merged (.success payload) = .ok m) :
    conclude attempt wrap unmerged merged
        (⟨s, text, .ok (.success payload)⟩ :: walked.1, walked.2) =
      conclude attempt wrap unmerged m.response walked := by
  have hl : walked.1.getLast? = some (walked.1.getLast hw) := List.getLast?_eq_some_getLast hw
  simp only [conclude, List.getLast?_cons_of_ne_nil hw, hl, successes, Response.mergeAll, hm]

/-- A run is concluded from its walk. -/
theorem runFrom_eq_conclude (ha : EndsLines attempt) (hm : merged.Mergeable) (block : String)
    (rest : List String) (s : S) :
    runFrom attempt wrap unmerged block rest merged s =
      conclude attempt wrap unmerged merged (walk attempt block rest s) := by
  induction rest generalizing block merged s with
  | nil =>
    rcases outcome_cases (attempt block s).1 with hi | ⟨payload, hs⟩ | hh
    · rw [runFrom_incomplete_nil hi]
      simp only [walk, hi, conclude, List.getLast?_singleton, halts, successes,
        Response.mergeAll, Bool.false_eq_true, if_false]
    · obtain ⟨m, hmerge, -⟩ := Response.merge_mergeable hm (ha.mergeable hs)
      rw [runFrom_success_nil hs hmerge]
      simp only [walk, hs, conclude, List.getLast?_singleton, halts, successes,
        Response.mergeAll, hmerge, Bool.false_eq_true, if_false]
    · rw [runFrom_halts ha hh, walk_halts hh, conclude_of_halts List.getLast?_singleton hh]
  | cons next rest ih =>
    rcases outcome_cases (attempt block s).1 with hi | ⟨payload, hs⟩ | hh
    · rw [runFrom_incomplete_cons hi, walk_incomplete hi, ih hm,
        conclude_incomplete_cons (walk_ne_nil _ _ _ _)]
    · obtain ⟨m, hmerge, hnext⟩ := Response.merge_mergeable hm (ha.mergeable hs)
      rw [runFrom_success_cons hs hmerge, walk_success hs, ih hnext,
        conclude_success_cons (walk_ne_nil _ _ _ _) _ _ hmerge]
    · rw [runFrom_halts ha hh, walk_halts hh, conclude_of_halts List.getLast?_singleton hh]

/-- A run of lines is concluded from its walk. -/
theorem run_eq_conclude (ha : EndsLines attempt) (first : String) (rest : List String) (s : S) :
    run attempt wrap unmerged (first :: rest) s =
      conclude attempt wrap unmerged (.plainText "") (walk attempt first rest s) :=
  runFrom_eq_conclude ha (Response.mergeable_plainText "") first rest s

end Conclusion

section Invariant

variable {attempt : Operation S E Response} {wrap : Operation S E String}
  {unmerged : MergeError → E} {P : S → Prop}

/-- A retry keeps what its operations keep. -/
theorem retry_invariant (ha : ∀ text s, P s → P (attempt text s).2)
    (hw : ∀ block s, P s → P (wrap block s).2) (block : String) (merged : Response) {s : S}
    (hs : P s) : P (retry attempt wrap unmerged block merged s).2 := by
  have hwrap := hw block s hs
  rcases h : wrap block s with ⟨outcome, s'⟩
  rw [h] at hwrap
  cases outcome with
  | error e =>
    rw [retry, h]
    exact hwrap
  | ok text =>
    have hattempt := ha text s' hwrap
    rcases hr : attempt text s' with ⟨result, s''⟩
    rw [hr] at hattempt
    simp only [retry, h, hr]
    split
    · next heq => cases heq; exact hattempt
    · next heq =>
      cases heq
      split
      · exact hattempt
      · split
        · split <;> exact hattempt
        · exact hattempt
    all_goals
      next heq => cases heq; exact hattempt

/-- A run from a block on keeps what its operations keep. -/
theorem runFrom_invariant (ha : ∀ text s, P s → P (attempt text s).2)
    (hw : ∀ block s, P s → P (wrap block s).2) (block : String) (rest : List String)
    (merged : Response) {s : S} (hs : P s) :
    P (runFrom attempt wrap unmerged block rest merged s).2 := by
  induction rest generalizing block merged s with
  | nil =>
    have hattempt := ha block s hs
    rcases hr : attempt block s with ⟨result, s'⟩
    rw [hr] at hattempt
    rw [runFrom_eq, hr]
    split
    · next heq => cases heq; exact hattempt
    · next heq => cases heq; exact retry_invariant ha hw block merged hattempt
    · next heq => cases heq; exact hattempt
    · next heq => cases heq; exact hattempt
    · next heq => cases heq; split <;> exact hattempt
  | cons next rest ih =>
    have hattempt := ha block s hs
    rcases hr : attempt block s with ⟨result, s'⟩
    rw [hr] at hattempt
    rw [runFrom_eq, hr]
    split
    · next heq => cases heq; exact hattempt
    · next heq => cases heq; exact ih _ _ hattempt
    · next heq => cases heq; exact hattempt
    · next heq => cases heq; exact hattempt
    · next heq =>
      cases heq
      split
      · exact hattempt
      · exact ih _ _ hattempt

/-- A run keeps what its operations keep. -/
theorem run_invariant (ha : ∀ text s, P s → P (attempt text s).2)
    (hw : ∀ block s, P s → P (wrap block s).2) (lines : List String) {s : S} (hs : P s) :
    P (run attempt wrap unmerged lines s).2 := by
  cases lines with
  | nil => exact hs
  | cons first rest => exact runFrom_invariant ha hw first rest _ hs

end Invariant

end LiveSession.Submission
