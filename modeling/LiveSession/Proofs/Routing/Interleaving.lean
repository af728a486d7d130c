import LiveSession.Proofs.Routing.Scopes

/-!
# Scopes of programs that run side by side

Whatever moves are made, in each context the scopes that its program has open are
in force and nothing else is, and no scope is open unless the routing objects are
in place. So what a program sends arrives where the innermost scope of its own
context leads. A scope that is left gives back what was in force when it was
entered, whatever happened in between; and a move touches only what is in force
in its own context, and there only the kind of scope that it enters or leaves.
-/

namespace LiveSession.Routing

variable {ι : Type}

namespace Process

/-- The scopes that are open in a context, innermost first. -/
def scopes (p : Process ι) (i : ι) : List Opening :=
  (p.threads i).scopes

/-- Where something that is sent in a context leads at the moment. -/
def leads (p : Process ι) (i : ι) (e : Emission) : Option String :=
  p.terminal.leads (p.threads i).context.routing e

/-- A process in each of whose contexts the open scopes are in force, with the routing
objects in place if there are any. -/
structure Sound (p : Process ι) : Prop where
  threads : ∀ i, (p.threads i).Scoped
  installed : p.terminal.installed = ⟨true, true, true⟩ ∨ ∀ i, p.scopes i = []
  isOpen : p.terminal.Open

section Scopes

variable {p : Process ι}

/-- Programs that have not begun have no scope open. -/
theorem scopes_start (t : Terminal) (programs : ι → List Action) (i : ι) :
    (start t programs).scopes i = [] :=
  openings_actions (programs i)

/-- A process begins soundly where all buffers take text. -/
theorem start_sound {t : Terminal} (ho : t.Open) (programs : ι → List Action) :
    (start t programs).Sound := by
  refine ⟨fun i => ?_, .inr (scopes_start t programs), ho⟩
  have hscopes : ((start t programs).threads i).scopes = [] := scopes_start t programs i
  unfold Thread.Scoped
  rw [hscopes]
  rfl

/-- What is sent in a context leads where its innermost scope of the kind leads. -/
theorem Sound.leads_eq (h : p.Sound) (i : ι) (e : Emission) :
    p.leads i e = destinationOf (p.scopes i) e := by
  have hcontext : (p.threads i).context = contextOf (p.scopes i) := h.threads i
  unfold leads
  rw [hcontext]
  rcases h.installed with hi | hnil
  · cases e with
    | text s text =>
      unfold Terminal.leads Terminal.target
      rw [hi]
      cases s <;> exact output_contextOf (p.scopes i)
    | display h =>
      unfold Terminal.leads Terminal.hook
      rw [hi]
      exact display_contextOf (p.scopes i)
  · -- Without the routing objects nothing is looked up, but then no scope is open either.
    rw [hnil i]
    cases e with
    | text s text => exact ite_self none
    | display h => exact ite_self none

end Scopes

variable [DecidableEq ι]

section Moves

variable {p : Process ι}

/-- A move leaves the threads of the other contexts. -/
theorem move_of_ne (m : Move ι) {j : ι} (hj : j ≠ m.mover) :
    (p.move m).1.threads j = p.threads j := by
  cases m with
  | advance i reaction => exact if_neg hj
  | interrupt i => exact if_neg hj

/-- A move is one of its own thread. -/
theorem Sound.move_advances (h : p.Sound) (m : Move ι) :
    Thread.Advances (p.threads m.mover) p.terminal ((p.move m).1.threads m.mover)
      (p.move m).1.terminal (p.move m).2 := by
  cases m with
  | advance i reaction =>
    have hthread : (p.move (.advance i reaction)).1.threads i =
        ((p.threads i).advance p.terminal reaction).1 := if_pos rfl
    change Thread.Advances _ _ ((p.move (.advance i reaction)).1.threads i) _ _
    rw [hthread]
    exact Thread.advances (h.threads i) h.isOpen reaction
  | interrupt i =>
    have hthread : (p.move (.interrupt i)).1.threads i =
        { p.threads i with raising := true } := if_pos rfl
    change Thread.Advances _ _ ((p.move (.interrupt i)).1.threads i) _ _
    rw [hthread]
    exact .struck

/-- A move keeps a process sound. -/
theorem Sound.move (h : p.Sound) (m : Move ι) : (p.move m).1.Sound := by
  have hm := h.move_advances m
  refine ⟨fun j => ?_, ?_, hm.isOpen h.isOpen⟩
  · by_cases hj : j = m.mover
    · rw [hj]
      exact hm.keeps (h.threads m.mover)
    · rw [move_of_ne m hj]
      exact h.threads j
  · rcases hm.installed with hi | ⟨hi, hscopes⟩
    · exact .inl hi
    · rw [hi]
      refine h.installed.imp id fun hnil j => ?_
      by_cases hj : j = m.mover
      · rw [hj]
        exact hscopes (hnil m.mover)
      · unfold scopes
        rw [move_of_ne m hj]
        exact hnil j

/-- What is sent in a move arrives. -/
theorem Sound.move_delivers (h : p.Sound) (m : Move ι) :
    Delivers p.terminal (p.move m).2 (p.move m).1.terminal :=
  (h.move_advances m).delivers fun e => h.leads_eq m.mover e

/-- Moves keep a process sound. -/
theorem Sound.run (h : p.Sound) (moves : List (Move ι)) : (p.run moves).1.Sound := by
  induction moves generalizing p with
  | nil => exact h
  | cons m rest ih => exact ih (h.move m)

/-- What is sent in moves arrives, in order. -/
theorem Sound.run_delivers (h : p.Sound) (moves : List (Move ι)) :
    Delivers p.terminal (p.run moves).2 (p.run moves).1.terminal := by
  induction moves generalizing p with
  | nil => exact .nothing (fun _ _ => rfl) (fun _ => rfl)
  | cons m rest ih => exact (h.move_delivers m).trans (ih (h.move m))

/-- A thread inside a scope stays there, or has left it with just what comes after it
still to be done. -/
theorem Sound.run_within (h : p.Sound) {i : ι} {opening : Opening} {inner rest : List Pending}
    (hp : (p.threads i).pending = inner ++ .close opening :: rest) (later : List (Move ι)) :
    (∃ inner', ((p.run later).1.threads i).pending = inner' ++ .close opening :: rest) ∨
      ∃ before after, later = before ++ after ∧ ((p.run before).1.threads i).pending = rest := by
  induction later generalizing p inner with
  | nil => exact .inl ⟨inner, hp⟩
  | cons m later ih =>
    -- After the move the thread is inside as before, or the scope was the next to end.
    have hmove : (∃ inner', ((p.move m).1.threads i).pending = inner' ++ .close opening :: rest) ∨
        ((p.move m).1.threads i).pending = rest := by
      by_cases hi : i = m.mover
      · subst hi
        cases inner with
        | nil =>
          rcases (h.move_advances m).pending hp with hsame | ⟨pushed, hpushed, hclose⟩
          · exact .inl ⟨[], hsame.trans hp⟩
          · rw [hclose opening rfl] at hpushed
            exact .inr hpushed
        | cons head inner =>
          rcases (h.move_advances m).pending hp with hsame | ⟨pushed, hpushed, -⟩
          · exact .inl ⟨head :: inner, hsame.trans hp⟩
          · exact .inl ⟨pushed ++ inner, hpushed.trans (List.append_assoc _ _ _).symm⟩
      · rw [move_of_ne m hi]
        exact .inl ⟨inner, hp⟩
    rcases hmove with ⟨inner', hinner⟩ | hleft
    · rcases ih (h.move m) hinner with hinside | ⟨before, after, hsplit, hleft⟩
      · exact .inl hinside
      · exact .inr ⟨m :: before, after, by rw [hsplit, List.cons_append], hleft⟩
    · exact .inr ⟨[m], later, rfl, hleft⟩

end Moves

/-- What is sent is posted once, for where the innermost scope of its context leads,
and arrives there. -/
def Posts (p : Process ι) : Prop :=
  ∀ (i : ι) (e : Emission) (rest : List Pending) (reaction : List Action),
    (p.threads i).pending = .action (.emit e) :: rest → (p.threads i).raising = false →
      (p.move (.advance i reaction)).2 = [⟨e, destinationOf (p.scopes i) e⟩] ∧
        Delivers p.terminal [⟨e, destinationOf (p.scopes i) e⟩]
          (p.move (.advance i reaction)).1.terminal

/-- A scope that is entered is not left, whatever moves are made, or it is left at some
point, and then what comes after it is still to be done, the context is what it was
before, and what is sent in it leads where it did. -/
def Restores (p : Process ι) : Prop :=
  ∀ (i : ι) (opening : Opening) (body : List Action) (rest : List Pending)
    (reaction : List Action) (later : List (Move ι)),
    (p.threads i).pending = .action (.inside opening body) :: rest →
    (p.threads i).raising = false →
      let entered := (p.move (.advance i reaction)).1
      (entered.threads i).pending = body.map .action ++ .close opening :: rest ∧
      ((∃ inner, ((entered.run later).1.threads i).pending = inner ++ .close opening :: rest) ∨
        ∃ before after, later = before ++ after ∧
          ((entered.run before).1.threads i).pending = rest ∧
          ((entered.run before).1.threads i).context = (p.threads i).context ∧
          ∀ e, (entered.run before).1.leads i e = p.leads i e)

/-- A move changes nothing for what is sent in other contexts, and nothing for text, or
for values, in its own unless it enters or leaves a scope of this kind. -/
def Separates (p : Process ι) : Prop :=
  ∀ m : Move ι,
    (∀ j, j ≠ m.mover → ∀ e, (p.move m).1.leads j e = p.leads j e) ∧
    ((∀ name, (p.threads m.mover).turning? ≠ some (.output name)) →
      ∀ s text, (p.move m).1.leads m.mover (.text s text) = p.leads m.mover (.text s text)) ∧
    ((∀ name, (p.threads m.mover).turning? ≠ some (.display name)) →
      ∀ h, (p.move m).1.leads m.mover (.display h) = p.leads m.mover (.display h))

section Sound

variable {p : Process ι}

/-- A sound process posts what is sent. -/
theorem Sound.posts (h : p.Sound) : p.Posts := by
  intro i e rest reaction hp hr
  have hscopes : p.scopes i = openings rest := Thread.Advances.scopes_of_pending hp rfl
  have hthread : p.threads i = ⟨(p.threads i).context, .action (.emit e) :: rest, false⟩ := by
    rw [← hp, ← hr]
  have hsent : (p.move (.advance i reaction)).2 = [⟨e, destinationOf (p.scopes i) e⟩] := by
    change ((p.threads i).advance p.terminal reaction).2.2 = _
    rw [hthread, Thread.advance_emit h.isOpen, hscopes]
  have hdelivers := h.move_delivers (.advance i reaction)
  rw [hsent] at hdelivers
  exact ⟨hsent, hdelivers⟩

/-- A sound process restores what was in force when a scope is left. -/
theorem Sound.restores (h : p.Sound) : p.Restores := by
  intro i opening body rest reaction later hp hr
  have hscopes : p.scopes i = openings rest := Thread.Advances.scopes_of_pending hp rfl
  have hthread : p.threads i =
      ⟨(p.threads i).context, .action (.inside opening body) :: rest, false⟩ := by
    rw [← hp, ← hr]
  have hentered : ((p.move (.advance i reaction)).1.threads i).pending =
      body.map .action ++ .close opening :: rest := by
    have hmove : (p.move (.advance i reaction)).1.threads i =
        ((p.threads i).advance p.terminal reaction).1 := if_pos rfl
    obtain ⟨t', hadvance, -⟩ :=
      Thread.advance_inside (p.threads i).context opening body rest p.terminal reaction
    rw [hmove, hthread, hadvance]
  refine ⟨hentered, ?_⟩
  have hsound := h.move (.advance i reaction)
  refine (hsound.run_within hentered later).imp id ?_
  rintro ⟨before, after, hsplit, hleft⟩
  have hrun := hsound.run before
  have hsame : ((p.move (.advance i reaction)).1.run before).1.scopes i = p.scopes i := by
    rw [hscopes]
    unfold scopes Thread.scopes
    rw [hleft]
  refine ⟨before, after, hsplit, hleft, ?_, fun e => ?_⟩
  · exact (hrun.threads i).trans ((congrArg contextOf hsame).trans (h.threads i).symm)
  · rw [hrun.leads_eq, h.leads_eq, hsame]

/-- The moves of a sound process are separate. -/
theorem Sound.separates (h : p.Sound) : p.Separates := by
  intro m
  have hnext := h.move m
  refine ⟨fun j hj e => ?_, fun hout s text => ?_, fun hdisplay value => ?_⟩
  · rw [hnext.leads_eq, h.leads_eq]
    unfold scopes
    rw [move_of_ne m hj]
  · rw [hnext.leads_eq, h.leads_eq]
    change bufferOf ((p.move m).1.threads m.mover).scopes = bufferOf (p.threads m.mover).scopes
    rcases (h.move_advances m).scopes_cases with hsame | ⟨opening, hturning, hscopes⟩
    · rw [hsame]
    · cases opening with
      | output name => exact absurd hturning (hout name)
      | display name => rcases hscopes with hscopes | hscopes <;> rw [hscopes] <;> rfl
  · rw [hnext.leads_eq, h.leads_eq]
    change hookOf ((p.move m).1.threads m.mover).scopes = hookOf (p.threads m.mover).scopes
    rcases (h.move_advances m).scopes_cases with hsame | ⟨opening, hturning, hscopes⟩
    · rw [hsame]
    · cases opening with
      | output name => rcases hscopes with hscopes | hscopes <;> rw [hscopes] <;> rfl
      | display name => exact absurd hturning (hdisplay name)

end Sound

/-- Programs that run side by side, whatever moves are made and whatever hooks do. In
each context everything leads where the innermost open scope of its kind leads, or
to the plain console if none is open. What is sent arrives there, once and whole;
nothing else arrives anywhere. A scope that is left restores what was in force, and
scopes of one kind or of one context leave the others alone. -/
theorem run_routes (t : Terminal) (ho : t.Open) (programs : ι → List Action)
    (moves : List (Move ι)) :
    (∀ i e, ((start t programs).run moves).1.leads i e =
      destinationOf (((start t programs).run moves).1.scopes i) e) ∧
    Delivers t ((start t programs).run moves).2 ((start t programs).run moves).1.terminal ∧
    ((start t programs).run moves).1.Posts ∧ ((start t programs).run moves).1.Restores ∧
    ((start t programs).run moves).1.Separates := by
  have hstart : (start t programs).Sound := start_sound ho programs
  have hrun := hstart.run moves
  exact ⟨hrun.leads_eq, hstart.run_delivers moves, hrun.posts, hrun.restores, hrun.separates⟩

/-- Two programs: one handles what is raised in an output scope and writes on, the other
shows a value in a display scope. -/
def pairPrograms : Bool → List Action
  | true => [.guarded [.inside (.output "a") [.emit (.text .out "x"), .raise]],
      .emit (.text .out "y")]
  | false => [.inside (.display "h") [.emit (.display .null)]]

/-- Moves of the two programs in turn. The hook that the value is shown to writes. -/
def pairMoves : List (Move Bool) :=
  [.advance true [], .advance true [], .advance false [],
    .advance false [.emit (.text .out "z")], .advance true [], .advance false [],
    .advance true [], .advance true [], .advance true [], .advance false [], .advance true []]

/-- The text before the raise is in the buffer, the hook's text and the text after the
handler are on the plain console, in this order, and the hook has the value. -/
theorem run_routes_pair :
    ({} : Terminal).Open ∧
    ((start {} pairPrograms).run pairMoves).2 =
      [⟨.display .null, some "h"⟩, ⟨.text .out "x", some "a"⟩, ⟨.text .out "z", none⟩,
        ⟨.text .out "y", none⟩] ∧
    ((start {} pairPrograms).run pairMoves).1.terminal.textAt (some "a") .out = "x" ∧
    ((start {} pairPrograms).run pairMoves).1.terminal.textAt none .out = "zy" ∧
    ((start {} pairPrograms).run pairMoves).1.terminal.shownAt (some "h") = [.null] ∧
    ((start {} pairPrograms).run pairMoves).1.Restores := by
  have ho : ({} : Terminal).Open := fun _ => rfl
  have hsent : ((start {} pairPrograms).run pairMoves).2 =
      [⟨.display .null, some "h"⟩, ⟨.text .out "x", some "a"⟩, ⟨.text .out "z", none⟩,
        ⟨.text .out "y", none⟩] := rfl
  obtain ⟨-, hdelivers, -, hrestores, -⟩ := run_routes {} ho pairPrograms pairMoves
  rw [hsent] at hdelivers
  refine ⟨ho, hsent, ?_, ?_, hdelivers.shown (some "h"), hrestores⟩
  · exact (hdelivers.text (some "a") .out).trans (by decide)
  · exact (hdelivers.text none .out).trans (by decide)

end Process

end LiveSession.Routing
