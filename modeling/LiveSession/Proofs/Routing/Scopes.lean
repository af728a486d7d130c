import LiveSession.Proofs.Routing.Terminal

/-!
# One step of one program

What is in force in a context is determined by the scopes that its program has
open: it is what entering them one inside the other, from nothing, puts in force.
So a step does one of a few things. It sends something to where the innermost
scope of its kind leads, it enters a scope, it leaves the innermost one, which
puts in force what was before, or it does none of these and nothing changes.
-/

namespace LiveSession.Routing

/-- What is in force inside scopes. -/
def contextOf (scopes : List Opening) : Context :=
  scopes.foldr (fun opening c => enter c opening) {}

section Scopes

variable (scopes : List Opening)

/-- Leaving a scope that was just entered gives back what was before. -/
theorem leave_enter (c : Context) (opening : Opening) : (enter c opening).leave = .ok c := by
  cases opening with
  | output name => rfl
  | display name => rfl

/-- Inside scopes output goes to the buffer of the innermost output scope. -/
theorem output_contextOf : (contextOf scopes).routing.output = bufferOf scopes := by
  induction scopes with
  | nil => rfl
  | cons opening rest ih =>
    cases opening with
    | output name => rfl
    | display name => exact ih

/-- Inside scopes values go to the hook of the innermost display scope. -/
theorem display_contextOf : (contextOf scopes).routing.display = hookOf scopes := by
  induction scopes with
  | nil => rfl
  | cons opening rest ih =>
    cases opening with
    | output name => exact ih
    | display name => rfl

end Scopes

/-- The scopes that are open in two parts of a program. -/
theorem openings_append (first rest : List Pending) :
    openings (first ++ rest) = openings first ++ openings rest :=
  List.filterMap_append

/-- No scope is open in actions that are still to come. -/
theorem openings_actions (actions : List Action) : openings (actions.map .action) = [] := by
  induction actions with
  | nil => rfl
  | cons a rest ih => exact ih

namespace Thread

/-- The scopes that a program has open, innermost first. -/
def scopes (th : Thread) : List Opening :=
  openings th.pending

/-- A thread in whose context its open scopes are in force, and nothing else. -/
def Scoped (th : Thread) : Prop :=
  th.context = contextOf th.scopes

/-- The scope that a program is about to enter or to leave. -/
def turning? (th : Thread) : Option Opening :=
  match th.pending with
  | .action (.inside opening _) :: _ => some opening
  | .close opening :: _ => some opening
  | _ => none

/-- What can become of a thread, and of the terminal that it shares, in one move. -/
inductive Advances (th : Thread) (t : Terminal) : Thread → Terminal → List Posting → Prop
  /-- The program is over. -/
  | ended (h : th.pending = []) : Advances th t th t []
  /-- Something is raised from outside. -/
  | struck : Advances th t { th with raising := true } t []
  /-- No scope is entered or left, and nothing is sent. -/
  | quiet {head : Pending} (pushed : List Pending) {rest : List Pending} {raising : Bool}
      (h : th.pending = head :: rest) (hhead : openings [head] = [])
      (hpushed : openings pushed = []) :
      Advances th t ⟨th.context, pushed ++ rest, raising⟩ t []
  /-- Something is sent; a hook may react to it. -/
  | sent {e : Emission} {pushed rest : List Pending}
      (h : th.pending = .action (.emit e) :: rest) (hpushed : openings pushed = []) :
      Advances th t ⟨th.context, pushed ++ rest, false⟩
        (t.received (t.leads th.context.routing e) e) [⟨e, destinationOf (openings rest) e⟩]
  /-- A scope is entered. -/
  | entered {opening : Opening} {body : List Action} {rest : List Pending} {t' : Terminal}
      (h : th.pending = .action (.inside opening body) :: rest)
      (hi : t'.installed = ⟨true, true, true⟩) (hd : Delivers t [] t') (ho : t.Open → t'.Open) :
      Advances th t ⟨enter th.context opening, body.map .action ++ .close opening :: rest, false⟩
        t' []
  /-- The innermost scope is left, normally or while something is raised. -/
  | left {opening : Opening} {rest : List Pending}
      (h : th.pending = .close opening :: rest) :
      Advances th t ⟨contextOf (openings rest), rest, th.raising⟩ t []

section Steps

variable {context : Context} {rest : List Pending} {t : Terminal} {reaction : List Action}

/-- The innermost scope is left. -/
theorem advance_close {opening : Opening} {raising : Bool}
    (hs : Scoped ⟨context, .close opening :: rest, raising⟩) :
    advance ⟨context, .close opening :: rest, raising⟩ t reaction =
      (⟨contextOf (openings rest), rest, raising⟩, t, []) := by
  have hcontext : context = enter (contextOf (openings rest)) opening := hs
  have hstep : step context t (.leave none) = (.flag false, contextOf (openings rest), t) := by
    unfold step
    dsimp only [Option.elim]
    rw [hcontext, leave_enter]
  unfold advance perform
  dsimp only
  rw [hstep]
  cases raising <;> rfl

/-- A scope is entered. -/
theorem advance_inside (context : Context) (opening : Opening) (body : List Action)
    (rest : List Pending) (t : Terminal) (reaction : List Action) :
    ∃ t' : Terminal,
      advance ⟨context, .action (.inside opening body) :: rest, false⟩ t reaction =
          (⟨enter context opening, body.map .action ++ .close opening :: rest, false⟩, t', []) ∧
        t'.installed = ⟨true, true, true⟩ ∧ Delivers t [] t' ∧ (t.Open → t'.Open) := by
  obtain ⟨n, t', hstep, hi, hd, ho⟩ := step_op context t opening
  refine ⟨t', ?_, hi, hd, ho⟩
  unfold advance perform
  dsimp only
  rw [if_neg Bool.false_ne_true, hstep]
  rfl

/-- Something is sent. -/
theorem advance_emit (ho : t.Open) (e : Emission) :
    advance ⟨context, .action (.emit e) :: rest, false⟩ t reaction =
      (⟨context, (reactionTo reaction e).map .action ++ rest, false⟩,
        t.received (t.leads context.routing e) e, [⟨e, destinationOf (openings rest) e⟩]) := by
  obtain ⟨a, ha, hstep⟩ := step_sending context ho e
  unfold advance perform
  dsimp only
  rw [if_neg Bool.false_ne_true, hstep, ha]
  rfl

end Steps

/-- A step of a thread does one of these. -/
theorem advances {th : Thread} {t : Terminal} (hs : th.Scoped) (ho : t.Open)
    (reaction : List Action) :
    Advances th t (th.advance t reaction).1 (th.advance t reaction).2.1
      (th.advance t reaction).2.2 := by
  rcases th with ⟨context, pending, raising⟩
  cases pending with
  | nil => exact .ended rfl
  | cons head rest =>
    cases head with
    | handler => exact .quiet [] rfl rfl rfl
    | close opening =>
      rw [advance_close hs]
      exact .left rfl
    | action a =>
      cases raising with
      | true => exact .quiet [] rfl rfl rfl
      | false =>
        cases a with
        | raise => exact .quiet [] rfl rfl rfl
        | guarded body =>
          have hpushed : openings (body.map .action ++ [.handler]) = [] := by
            rw [openings_append, openings_actions]
            rfl
          have hadvance : advance ⟨context, .action (.guarded body) :: rest, false⟩ t reaction =
              (⟨context, (body.map .action ++ [.handler]) ++ rest, false⟩, t, []) := by
            rw [List.append_assoc]
            rfl
          rw [hadvance]
          exact .quiet _ rfl rfl hpushed
        | inside opening body =>
          obtain ⟨t', hadvance, hi, hd, ho'⟩ := advance_inside context opening body rest t reaction
          rw [hadvance]
          exact .entered rfl hi hd ho'
        | emit e =>
          rw [advance_emit ho]
          exact .sent rfl (openings_actions _)

namespace Advances

variable {th th' : Thread} {t t' : Terminal} {postings : List Posting}

/-- A scope that is entered is the innermost one. -/
theorem scopes_entered (context : Context) (opening : Opening) (body : List Action)
    (rest : List Pending) (raising : Bool) :
    scopes ⟨context, body.map .action ++ .close opening :: rest, raising⟩ =
      opening :: openings rest := by
  unfold scopes
  rw [openings_append, openings_actions]
  rfl

/-- What is pushed without a scope leaves the open scopes. -/
theorem scopes_pushed {context : Context} {pushed rest : List Pending} {raising : Bool}
    (h : openings pushed = []) : scopes ⟨context, pushed ++ rest, raising⟩ = openings rest := by
  unfold scopes
  rw [openings_append, h, List.nil_append]

/-- The open scopes of a thread whose next step is no end of a scope. -/
theorem scopes_of_pending {head : Pending} {rest : List Pending} (h : th.pending = head :: rest)
    (hhead : openings [head] = []) : th.scopes = openings rest := by
  unfold scopes
  rw [h, ← List.singleton_append, openings_append, hhead, List.nil_append]

/-- The open scopes stay as they are, or the innermost one is entered or left, and
then this is what the thread was about to do. -/
theorem scopes_cases (h : Advances th t th' t' postings) :
    th'.scopes = th.scopes ∨ ∃ opening, th.turning? = some opening ∧
      (th'.scopes = opening :: th.scopes ∨ th.scopes = opening :: th'.scopes) := by
  cases h with
  | ended h => exact .inl rfl
  | struck => exact .inl rfl
  | quiet pushed h hhead hpushed =>
    exact .inl ((scopes_pushed hpushed).trans (scopes_of_pending h hhead).symm)
  | sent h hpushed => exact .inl ((scopes_pushed hpushed).trans (scopes_of_pending h rfl).symm)
  | @entered opening body rest t' h hi hd ho =>
    refine .inr ⟨opening, ?_, .inl ?_⟩
    · unfold turning?
      rw [h]
    · rw [scopes_entered, scopes_of_pending h rfl]
  | @left opening rest h =>
    refine .inr ⟨opening, ?_, .inr ?_⟩
    · unfold turning?
      rw [h]
    · unfold scopes
      rw [h]
      rfl

/-- The open scopes of a thread are in force after a move if they were before. -/
theorem keeps (h : Advances th t th' t' postings) (hs : th.Scoped) : th'.Scoped := by
  unfold Scoped at hs ⊢
  cases h with
  | ended h => exact hs
  | struck => exact hs
  | quiet pushed h hhead hpushed =>
    rw [scopes_pushed hpushed, ← scopes_of_pending h hhead]
    exact hs
  | sent h hpushed =>
    rw [scopes_pushed hpushed, ← scopes_of_pending h rfl]
    exact hs
  | entered h hi hd ho =>
    rw [scopes_entered, ← scopes_of_pending h rfl]
    exact congrArg (enter · _) hs
  | left h => rfl

/-- No move closes a buffer. -/
theorem isOpen (h : Advances th t th' t' postings) (ho : t.Open) : t'.Open := by
  cases h with
  | sent h hpushed => exact ho.received _ _
  | entered h hi hd ho' => exact ho' ho
  | _ => exact ho

/-- What is sent in a move arrives, if what is sent leads to where it has to arrive. -/
theorem delivers (h : Advances th t th' t' postings)
    (hl : ∀ e, t.leads th.context.routing e = destinationOf th.scopes e) :
    Delivers t postings t' := by
  cases h with
  | @sent e pushed rest h hpushed =>
    rw [hl, scopes_of_pending h rfl]
    exact .received t _ e
  | entered h hi hd ho => exact hd
  | _ => exact .nothing (fun _ _ => rfl) (fun _ => rfl)

/-- The routing objects stay where they are; a move that enters a scope puts them in
place. -/
theorem installed (h : Advances th t th' t' postings) :
    t'.installed = ⟨true, true, true⟩ ∨
      t'.installed = t.installed ∧ (th.scopes = [] → th'.scopes = []) := by
  cases h with
  | entered h hi hd ho => exact .inl hi
  | sent h hpushed =>
    refine .inr ⟨Terminal.installed_received t _ _, fun hnil => ?_⟩
    rw [scopes_pushed hpushed, ← scopes_of_pending h rfl, hnil]
  | left h =>
    refine .inr ⟨rfl, fun hnil => ?_⟩
    unfold scopes at hnil
    rw [h] at hnil
    cases hnil
  | quiet pushed h hhead hpushed =>
    refine .inr ⟨rfl, fun hnil => ?_⟩
    rw [scopes_pushed hpushed, ← scopes_of_pending h hhead, hnil]
  | ended h => exact .inr ⟨rfl, fun hnil => hnil⟩
  | struck => exact .inr ⟨rfl, fun hnil => hnil⟩

/-- A move takes the next thing that is pending and puts others in its place. At the
end of a scope it puts none. -/
theorem pending {head : Pending} {rest : List Pending} (h : Advances th t th' t' postings)
    (hp : th.pending = head :: rest) :
    th'.pending = th.pending ∨ ∃ pushed, th'.pending = pushed ++ rest ∧
      ∀ opening, head = .close opening → pushed = [] := by
  cases h with
  | ended h => exact .inl rfl
  | struck => exact .inl rfl
  | @quiet head' pushed rest' raising h hhead hpushed =>
    cases hp.symm.trans h
    refine .inr ⟨pushed, rfl, ?_⟩
    rintro opening rfl
    cases hhead
  | @sent e pushed rest' h hpushed =>
    cases hp.symm.trans h
    exact .inr ⟨pushed, rfl, fun _ hclose => nomatch hclose⟩
  | @entered opening body rest' t' h hi hd ho =>
    cases hp.symm.trans h
    refine .inr ⟨body.map .action ++ [.close opening], ?_, fun _ hclose => nomatch hclose⟩
    rw [List.append_assoc]
    rfl
  | left h =>
    cases hp.symm.trans h
    exact .inr ⟨[], rfl, fun _ _ => rfl⟩

end Advances

end Thread

end LiveSession.Routing
