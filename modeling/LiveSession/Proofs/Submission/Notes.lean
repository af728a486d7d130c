import LiveSession.Proofs.Submission.Attempts

/-!
# Notes of a running submission

A run asks two things of its surroundings: to attempt a text and to wrap a
block. Operations that note what they are asked, in which state and with what
outcome, leave the run as it is. The notes are the attempts of the walk and,
where the walk ends in an incomplete block, those of the retry.
-/

namespace LiveSession.Submission

variable {S E N : Type}

/-- Something that a run asks of its operations. -/
inductive Event (S E : Type) where
  | attempted (attempt : Attempt S E)
  /-- A block is wrapped for its last attempt. -/
  | wrapped (before : S) (block : String) (outcome : Except E String)

/-- An operation that notes what it is asked and what comes of it. -/
def noted {α : Type} (operation : Operation S E α) (event : S → String → Except E α → N) :
    Operation (S × List N) E α := fun text s =>
  ((operation text s.1).1, (operation text s.1).2, s.2 ++ [event s.1 text (operation text s.1).1])

/-- Attempting with notes. -/
def notedAttempt (attempt : Operation S E Response) :
    Operation (S × List (Event S E)) E Response :=
  noted attempt fun s text outcome => .attempted ⟨s, text, outcome⟩

/-- Wrapping with notes. -/
def notedWrap (wrap : Operation S E String) : Operation (S × List (Event S E)) E String :=
  noted wrap .wrapped

/-- Run the lines of a submission and note what is asked of the operations. -/
def runNoted (attempt : Operation S E Response) (wrap : Operation S E String)
    (unmerged : MergeError → E) (lines : List String) (s : S) :
    Except E Response × S × List (Event S E) :=
  run (notedAttempt attempt) (notedWrap wrap) unmerged lines (s, [])

/-- What the retry of a block asks for: wrapping it, and attempting the wrapped
text if there is one. -/
def blockEvents (attempt : Operation S E Response) (wrap : Operation S E String) (block : String)
    (s : S) : List (Event S E) :=
  .wrapped s block (wrap block s).1 ::
    match (wrap block s).1 with
    | .error _ => []
    | .ok text =>
      [.attempted ⟨(wrap block s).2, text, (attempt text (wrap block s).2).1⟩]

/-- What is asked for after a walk: the retry of its last block, if that is
incomplete. -/
def retryEvents (attempt : Operation S E Response) (wrap : Operation S E String)
    (walked : List (Attempt S E) × S) : List (Event S E) :=
  match walked.1.getLast? with
  | none => []
  | some last =>
    match last.outcome with
    | .ok .incomplete => blockEvents attempt wrap last.text walked.2
    | _ => []

/-- The events of a retry of a block: it cannot be wrapped, or the wrapped text
is attempted, once. -/
inductive RetryOf (block : String) : List (Event S E) → Prop
  | refused (s : S) (e : E) : RetryOf block [.wrapped s block (.error e)]
  | tried (s s' : S) (text : String) (outcome : Except E Response) :
      RetryOf block [.wrapped s block (.ok text), .attempted ⟨s', text, outcome⟩]

/-- What the retry of a block comes to, given the outcome of its attempt. -/
def settleRetry (unmerged : MergeError → E) (merged : Response) :
    Except E Response → Except E Response
  | .error e => .error e
  | .ok (.success payload) =>
    match Response.textOf payload with
    | none => .ok merged
    | some text =>
      if text.isTruthy then
        match Response.merge merged (.success payload) with
        | .error e => .error (unmerged e)
        | .ok m => .ok m.response
      else .ok merged
  | .ok (.aborted message) => .ok (.aborted message)
  | .ok .bare => .ok merged
  | .ok _ => .ok .incomplete

section Retry

variable {attempt : Operation S E Response} {wrap : Operation S E String}
  {unmerged : MergeError → E} {block : String} {merged : Response} {s : S}

/-- A block that cannot be wrapped is not attempted again. -/
theorem retry_of_error {e : E} (h : (wrap block s).1 = .error e) :
    retry attempt wrap unmerged block merged s = (.error e, (wrap block s).2) := by
  rcases hw : wrap block s with ⟨outcome, s'⟩
  rw [hw] at h
  subst h
  rw [retry, hw]

/-- The retry of a block is settled by the attempt at the wrapped text. -/
theorem retry_of_ok {text : String} (h : (wrap block s).1 = .ok text) :
    retry attempt wrap unmerged block merged s =
      (settleRetry unmerged merged (attempt text (wrap block s).2).1,
        (attempt text (wrap block s).2).2) := by
  rcases hw : wrap block s with ⟨outcome, s'⟩
  rw [hw] at h
  subst h
  rcases ha : attempt text s' with ⟨result, s''⟩
  simp only [retry, hw, ha]
  cases result with
  | error e => rfl
  | ok r =>
    cases r with
    | success payload =>
      cases ht : Response.textOf payload with
      | none => simp only [settleRetry, ht]
      | some entry =>
        by_cases hb : entry.isTruthy = true
        · cases hm : Response.merge merged (.success payload) with
          | error e => simp only [settleRetry, ht, hb, hm, if_true]
          | ok m => simp only [settleRetry, ht, hb, hm, if_true]
        · simp only [settleRetry, ht, if_neg hb]
    | error kind name traceback => rfl
    | incomplete => rfl
    | aborted message => rfl
    | bare => rfl

/-- Notes do not change a retry; they grow by what it asks for. -/
theorem retry_noted (notes : List (Event S E)) :
    retry (notedAttempt attempt) (notedWrap wrap) unmerged block merged (s, notes) =
      ((retry attempt wrap unmerged block merged s).1,
        (retry attempt wrap unmerged block merged s).2,
        notes ++ blockEvents attempt wrap block s) := by
  cases h : (wrap block s).1 with
  | error e =>
    have hn : (notedWrap wrap block (s, notes)).1 = .error e := h
    rw [retry_of_error h, retry_of_error hn]
    simp only [notedWrap, noted, blockEvents, h]
  | ok text =>
    have hn : (notedWrap wrap block (s, notes)).1 = .ok text := h
    rw [retry_of_ok h, retry_of_ok hn]
    simp only [notedWrap, notedAttempt, noted, blockEvents, h, List.append_assoc,
      List.cons_append, List.nil_append]

end Retry

/-- The notes of an attempt grow by that attempt. -/
theorem notedAttempt_state {attempt : Operation S E Response} {block : String} {s : S}
    {outcome : Except E Response} (h : (attempt block s).1 = outcome)
    (notes : List (Event S E)) :
    (notedAttempt attempt block (s, notes)).2 =
      ((attempt block s).2, notes ++ [.attempted ⟨s, block, outcome⟩]) := by
  subst h
  rfl

/-- Noting keeps to what a line can end in. -/
theorem EndsLines.noted {attempt : Operation S E Response} (ha : EndsLines attempt) :
    EndsLines (notedAttempt attempt) := fun text s r h => ha text s.1 r h

/-- An incomplete attempt before others leaves their retry as it is. -/
theorem retryEvents_cons {attempt : Operation S E Response} {wrap : Operation S E String}
    {walked : List (Attempt S E) × S} (hw : walked.1 ≠ []) (a : Attempt S E) :
    retryEvents attempt wrap (a :: walked.1, walked.2) = retryEvents attempt wrap walked := by
  simp only [retryEvents, List.getLast?_cons_of_ne_nil hw]

/-- What a retry asks for are the events of a retry. -/
theorem blockEvents_retryOf (attempt : Operation S E Response) (wrap : Operation S E String)
    (block : String) (s : S) : RetryOf block (blockEvents attempt wrap block s) := by
  unfold blockEvents
  cases (wrap block s).1 with
  | error e => exact .refused _ _
  | ok text => exact .tried _ _ _ _

/-- A walk that ends in an incomplete block is followed by the retry of it. -/
theorem retryEvents_of_incomplete {attempt : Operation S E Response}
    {wrap : Operation S E String} {walked : List (Attempt S E) × S} {last : Attempt S E}
    (hl : walked.1.getLast? = some last) (hi : last.outcome = .ok .incomplete) :
    retryEvents attempt wrap walked = blockEvents attempt wrap last.text walked.2 := by
  simp only [retryEvents, hl, hi]

/-- A walk that ends otherwise is not followed by a retry. -/
theorem retryEvents_of_ne_incomplete {attempt : Operation S E Response}
    {wrap : Operation S E String} {walked : List (Attempt S E) × S} {last : Attempt S E}
    (hl : walked.1.getLast? = some last) (hi : last.outcome ≠ .ok .incomplete) :
    retryEvents attempt wrap walked = [] := by
  unfold retryEvents
  rw [hl]
  dsimp only
  split
  · next ho => exact absurd ho hi
  · rfl

/-- A walk that ends with a success is not followed by a retry. -/
theorem retryEvents_of_success {attempt : Operation S E Response} {wrap : Operation S E String}
    {walked : List (Attempt S E) × S} {last : Attempt S E} {payload : List (String × Entry)}
    (hl : walked.1.getLast? = some last) (hs : last.outcome = .ok (.success payload)) :
    retryEvents attempt wrap walked = [] := by
  refine retryEvents_of_ne_incomplete hl fun hi => ?_
  rw [hi] at hs
  cases hs

/-- A walk that halted is not followed by a retry. -/
theorem retryEvents_of_halts {attempt : Operation S E Response} {wrap : Operation S E String}
    {walked : List (Attempt S E) × S} {last : Attempt S E}
    (hl : walked.1.getLast? = some last) (hh : halts last.outcome = true) :
    retryEvents attempt wrap walked = [] := by
  refine retryEvents_of_ne_incomplete hl fun hi => ?_
  rw [hi] at hh
  cases hh

/-- Notes do not change a run; they grow by the attempts of its walk and by
those of the retry. -/
theorem runFrom_noted {attempt : Operation S E Response} {wrap : Operation S E String}
    {unmerged : MergeError → E} {merged : Response} (ha : EndsLines attempt)
    (hm : merged.Mergeable) (block : String) (rest : List String) (s : S)
    (notes : List (Event S E)) :
    runFrom (notedAttempt attempt) (notedWrap wrap) unmerged block rest merged (s, notes) =
      ((runFrom attempt wrap unmerged block rest merged s).1,
        (runFrom attempt wrap unmerged block rest merged s).2,
        notes ++ (walk attempt block rest s).1.map .attempted ++
          retryEvents attempt wrap (walk attempt block rest s)) := by
  induction rest generalizing block merged s notes with
  | nil =>
    rcases outcome_cases (attempt block s).1 with hi | ⟨payload, hs⟩ | hh
    · have hn : (notedAttempt attempt block (s, notes)).1 = .ok .incomplete := hi
      rw [runFrom_incomplete_nil hi, runFrom_incomplete_nil hn, notedAttempt_state hi, retry_noted]
      simp only [walk, hi, retryEvents, List.getLast?_singleton, List.map_cons, List.map_nil]
    · have hn : (notedAttempt attempt block (s, notes)).1 = .ok (.success payload) := hs
      obtain ⟨m, hmerge, -⟩ := Response.merge_mergeable hm (ha.mergeable hs)
      rw [runFrom_success_nil hs hmerge, runFrom_success_nil hn hmerge, notedAttempt_state hs]
      simp only [walk, hs, retryEvents, List.getLast?_singleton, List.append_nil, List.map_cons,
        List.map_nil]
    · have hn : halts (notedAttempt attempt block (s, notes)).1 = true := hh
      rw [runFrom_halts ha hh, runFrom_halts ha.noted hn, walk_halts hh,
        retryEvents_of_halts List.getLast?_singleton hh, List.append_nil]
      rfl
  | cons next rest ih =>
    rcases outcome_cases (attempt block s).1 with hi | ⟨payload, hs⟩ | hh
    · have hn : (notedAttempt attempt block (s, notes)).1 = .ok .incomplete := hi
      rw [runFrom_incomplete_cons hi, runFrom_incomplete_cons hn, walk_incomplete hi,
        retryEvents_cons (walk_ne_nil _ _ _ _), notedAttempt_state hi, ih hm]
      simp only [List.map_cons, List.append_assoc, List.cons_append, List.nil_append]
    · have hn : (notedAttempt attempt block (s, notes)).1 = .ok (.success payload) := hs
      obtain ⟨m, hmerge, hnext⟩ := Response.merge_mergeable hm (ha.mergeable hs)
      rw [runFrom_success_cons hs hmerge, runFrom_success_cons hn hmerge, walk_success hs,
        retryEvents_cons (walk_ne_nil _ _ _ _), notedAttempt_state hs, ih hnext]
      simp only [List.map_cons, List.append_assoc, List.cons_append, List.nil_append]
    · have hn : halts (notedAttempt attempt block (s, notes)).1 = true := hh
      rw [runFrom_halts ha hh, runFrom_halts ha.noted hn, walk_halts hh,
        retryEvents_of_halts List.getLast?_singleton hh, List.append_nil]
      rfl

/-- A noted run of lines is the run, with the attempts of the walk and the retry
for its notes. -/
theorem runNoted_cons {attempt : Operation S E Response} {wrap : Operation S E String}
    {unmerged : MergeError → E} (ha : EndsLines attempt) (first : String) (rest : List String)
    (s : S) :
    runNoted attempt wrap unmerged (first :: rest) s =
      ((run attempt wrap unmerged (first :: rest) s).1,
        (run attempt wrap unmerged (first :: rest) s).2,
        (walk attempt first rest s).1.map .attempted ++
          retryEvents attempt wrap (walk attempt first rest s)) :=
  runFrom_noted ha (Response.mergeable_plainText "") first rest s []

/-- A noted run keeps what its operations keep; every attempt that it notes was
made in a state that has it, and came to the noted outcome. -/
theorem runNoted_invariant {attempt : Operation S E Response} {wrap : Operation S E String}
    {unmerged : MergeError → E} {P : S → Prop} (ha : ∀ text s, P s → P (attempt text s).2)
    (hw : ∀ block s, P s → P (wrap block s).2) (lines : List String) {s : S} (hs : P s) :
    P (runNoted attempt wrap unmerged lines s).2.1 ∧
      ∀ a, Event.attempted a ∈ (runNoted attempt wrap unmerged lines s).2.2 →
        P a.before ∧ a.outcome = (attempt a.text a.before).1 := by
  refine run_invariant (P := fun noted : S × List (Event S E) => P noted.1 ∧
    ∀ a, Event.attempted a ∈ noted.2 → P a.before ∧ a.outcome = (attempt a.text a.before).1)
    (fun text noted h => ⟨ha text noted.1 h.1, fun a hmem => ?_⟩)
    (fun block noted h => ⟨hw block noted.1 h.1, fun a hmem => ?_⟩) lines
    ⟨hs, fun a hmem => nomatch hmem⟩
  · rcases List.mem_append.mp hmem with hold | hnew
    · exact h.2 a hold
    · cases List.mem_singleton.mp hnew
      exact ⟨h.1, rfl⟩
  · rcases List.mem_append.mp hmem with hold | hnew
    · exact h.2 a hold
    · cases List.mem_singleton.mp hnew

/-- Where each operation adds to a log in the state what its event stands for, a
noted run adds what its events stand for, one after the other. -/
theorem runNoted_log {α : Type} {attempt : Operation S E Response} {wrap : Operation S E String}
    {unmerged : MergeError → E} (log : S → List α) (entries : Event S E → List α)
    (ha : ∀ text s, log (attempt text s).2 =
      log s ++ entries (.attempted ⟨s, text, (attempt text s).1⟩))
    (hw : ∀ block s, log (wrap block s).2 = log s ++ entries (.wrapped s block (wrap block s).1))
    (lines : List String) (s : S) :
    log (runNoted attempt wrap unmerged lines s).2.1 =
      log s ++ (runNoted attempt wrap unmerged lines s).2.2.flatMap entries := by
  -- The invariant speaks about the log and the notes together.
  refine run_invariant (P := fun noted : S × List (Event S E) =>
    log noted.1 = log s ++ noted.2.flatMap entries)
    (fun text noted h => ?_) (fun block noted h => ?_) lines ?_
  · unfold notedAttempt Submission.noted
    dsimp only
    rw [ha, h, List.flatMap_append, List.flatMap_singleton, List.append_assoc]
  · unfold notedWrap Submission.noted
    dsimp only
    rw [hw, h, List.flatMap_append, List.flatMap_singleton, List.append_assoc]
  · exact (List.append_nil _).symm

end LiveSession.Submission
