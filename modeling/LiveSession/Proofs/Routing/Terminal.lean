import LiveSession.Proofs.Assoc.Distinct
import LiveSession.Routing.Interleaving

/-!
# What arrives where

Text that is written arrives at the end of one buffer, or of the plain console on
its stream; a value that is shown arrives at one hook. Everything else is as it
was before. Entering and leaving scopes moves nothing.
-/

namespace LiveSession

namespace Assoc

variable {α β : Type} [BEq α] [LawfulBEq α]

/-- The value that is found under a key is the one that was put there. -/
theorem find?_put_self (key : α) (value : β) (entries : List (α × β)) :
    find? (· == ·) key (put (· == ·) key value entries) = some value := by
  induction entries with
  | nil => simp only [put, find?, beq_self_eq_true, if_true]
  | cons e rest ih =>
    rw [put]
    by_cases hkey : (e.1 == key) = true
    · rw [if_pos hkey, find?, if_pos hkey]
    · rw [if_neg hkey, find?, if_neg hkey, ih]

/-- Putting a value leaves what is found under other keys. -/
theorem find?_put_of_ne {key other : α} (h : other ≠ key) (value : β) (entries : List (α × β)) :
    find? (· == ·) other (put (· == ·) key value entries) = find? (· == ·) other entries := by
  have hne : ¬ (key == other) = true := fun hkey => h (beq_iff_eq.mp hkey).symm
  induction entries with
  | nil => simp only [put, find?, if_neg hne]
  | cons e rest ih =>
    rw [put]
    by_cases hkey : (e.1 == key) = true
    · have hother : ¬ (e.1 == other) = true := by
        rw [beq_iff_eq.mp hkey]
        exact hne
      rw [if_pos hkey, find?, find?, if_neg hother, if_neg hother]
    · rw [if_neg hkey, find?, find?, ih]

end Assoc

namespace Terminal

/-- The hook that values of a context are shown to; none where it is the plain one. -/
def hook (t : Terminal) (r : Routing) : Option String :=
  if t.installed.display then r.display else none

/-- The text that arrived in a buffer, or at the plain console on a stream. -/
def textAt (t : Terminal) : Option String → Stream → String
  | none, s => t.consoleText s
  | some name, _ => (t.buffer name).text

/-- The values that arrived at a hook, or at the plain one. -/
def shownAt (t : Terminal) : Option String → List Host
  | none => t.echo
  | some name => (Assoc.find? (· == ·) name t.hooks).getD []

/-- A terminal after text was written to a buffer, or to the plain console on a stream. -/
def written (t : Terminal) : Option String → Stream → String → Terminal
  | none, s, text => t.writeConsole s text
  | some name, _, text =>
    t.setBuffer name { t.buffer name with text := (t.buffer name).text ++ text }

/-- A terminal after a value was shown to a hook, or to the plain one. -/
def presented (t : Terminal) : Option String → Host → Terminal
  | none, h => { t with echo := t.echo ++ [h] }
  | some name, h =>
    { t with hooks := Assoc.put (· == ·) name (t.shownAt (some name) ++ [h]) t.hooks }

/-- A terminal after something was sent to a place. -/
def received (t : Terminal) (place : Option String) : Emission → Terminal
  | .text s text => t.written place s text
  | .display h => t.presented place h

/-- Where something that a context sends leads. -/
def leads (t : Terminal) (r : Routing) : Emission → Option String
  | .text s _ => t.target r s
  | .display _ => t.hook r

/-- Whether all buffers take text. -/
def Open (t : Terminal) : Prop :=
  ∀ name, (t.buffer name).closed = false

section Console

variable (t : Terminal) (s : Stream) (text : String)

/-- Text written to the plain console is on its stream. -/
theorem consoleText_writeConsole_self :
    (t.writeConsole s text).consoleText s = t.consoleText s ++ text := by
  cases s <;> rfl

/-- Text written to the plain console is not on the other stream. -/
theorem consoleText_writeConsole_of_ne {other : Stream} (h : other ≠ s) :
    (t.writeConsole s text).consoleText other = t.consoleText other := by
  cases s with
  | out =>
    cases other with
    | out => exact absurd rfl h
    | err => rfl
  | err =>
    cases other with
    | out => rfl
    | err => exact absurd rfl h

end Console

section Buffers

variable (t : Terminal) (name : String) (b : Buffer)

/-- A buffer that is replaced. -/
theorem buffer_setBuffer_self : (t.setBuffer name b).buffer name = b := by
  unfold buffer setBuffer
  rw [Assoc.find?_put_self, Option.getD_some]

/-- Replacing a buffer leaves the others. -/
theorem buffer_setBuffer_of_ne {other : String} (h : other ≠ name) :
    (t.setBuffer name b).buffer other = t.buffer other := by
  unfold buffer setBuffer
  dsimp only
  rw [Assoc.find?_put_of_ne h]

/-- Replacing a buffer by itself leaves all of them. -/
theorem buffer_setBuffer_same (other : String) :
    (t.setBuffer name (t.buffer name)).buffer other = t.buffer other := by
  by_cases h : other = name
  · rw [h, buffer_setBuffer_self]
  · rw [buffer_setBuffer_of_ne t name _ h]

end Buffers

section Places

variable (t : Terminal) {place destination : Option String}

/-- Written text is at the end of what is in its place. -/
theorem textAt_written {s stream : Stream} (text : String)
    (h : place = destination ∧ (destination = none → s = stream)) :
    (t.written place s text).textAt destination stream = t.textAt destination stream ++ text := by
  obtain ⟨rfl, hstream⟩ := h
  cases place with
  | none =>
    cases hstream rfl
    exact consoleText_writeConsole_self t s text
  | some name => exact congrArg Buffer.text (buffer_setBuffer_self t name _)

/-- Written text is in no other place. -/
theorem textAt_written_of_not {s stream : Stream} (text : String)
    (h : ¬ (place = destination ∧ (destination = none → s = stream))) :
    (t.written place s text).textAt destination stream = t.textAt destination stream := by
  cases place with
  | none =>
    cases destination with
    | none =>
      have hne : stream ≠ s := fun heq => h ⟨rfl, fun _ => heq.symm⟩
      exact consoleText_writeConsole_of_ne t s text hne
    | some other => cases s <;> rfl
  | some name =>
    cases destination with
    | none => cases stream <;> rfl
    | some other =>
      have hne : other ≠ name := fun heq => h ⟨heq ▸ rfl, fun hnone => nomatch hnone⟩
      exact congrArg Buffer.text (buffer_setBuffer_of_ne t name _ hne)

/-- A value that is shown is the last one in its place. -/
theorem shownAt_presented (h : Host) :
    (t.presented place h).shownAt place = t.shownAt place ++ [h] := by
  cases place with
  | none => rfl
  | some name =>
    have hfound := Assoc.find?_put_self name (t.shownAt (some name) ++ [h]) t.hooks
    exact congrArg (Option.getD · []) hfound

/-- A value that is shown is in no other place. -/
theorem shownAt_presented_of_ne (h : Host) (hne : place ≠ destination) :
    (t.presented place h).shownAt destination = t.shownAt destination := by
  cases place with
  | none =>
    cases destination with
    | none => exact absurd rfl hne
    | some other => rfl
  | some name =>
    cases destination with
    | none => rfl
    | some other =>
      have hother : other ≠ name := fun heq => hne (heq ▸ rfl)
      exact congrArg (Option.getD · [])
        (Assoc.find?_put_of_ne hother (t.shownAt (some name) ++ [h]) t.hooks)

end Places

/-- Where all buffers take text it is written where the stream leads. -/
theorem write_eq {t : Terminal} (ho : t.Open) (r : Routing) (s : Stream) (text : String) :
    t.write r s text = (.ok (), t.written (t.target r s) s text) := by
  unfold write
  cases t.target r s with
  | none => rfl
  | some name =>
    have hopen : ¬ (t.buffer name).closed = true := by
      rw [ho name]
      exact Bool.false_ne_true
    exact if_neg hopen

/-- A value is shown to the hook that is in force. -/
theorem display_eq (t : Terminal) (r : Routing) (h : Host) :
    t.display r h = t.presented (t.hook r) h := by
  unfold display hook
  cases (if t.installed.display then r.display else none) with
  | none => rfl
  | some name => rfl

/-- Sending closes no buffer. -/
theorem Open.received {t : Terminal} (ho : t.Open) (place : Option String) (e : Emission) :
    (t.received place e).Open := by
  intro other
  cases e with
  | text s text =>
    cases place with
    | none => cases s <;> exact ho other
    | some name =>
      unfold Terminal.received Terminal.written
      dsimp only
      by_cases h : other = name
      · rw [h, buffer_setBuffer_self]
        exact ho name
      · rw [buffer_setBuffer_of_ne t name _ h]
        exact ho other
  | display h => cases place <;> exact ho other

/-- Sending leaves the routing objects in place. -/
theorem installed_received (t : Terminal) (place : Option String) (e : Emission) :
    (t.received place e).installed = t.installed := by
  cases e with
  | text s text => cases place <;> cases s <;> rfl
  | display h => cases place <;> rfl

end Terminal

namespace Routing

namespace Posting

/-- The text that a posting brings to a buffer, or to the plain console on a stream. -/
def text? (destination : Option String) (s : Stream) (p : Posting) : Option String :=
  match p.emission with
  | .text stream text =>
    if p.destination = destination ∧ (destination = none → stream = s) then some text else none
  | .display _ => none

/-- The value that a posting brings to a hook, or to the plain one. -/
def value? (destination : Option String) (p : Posting) : Option Host :=
  match p.emission with
  | .text _ _ => none
  | .display h => if p.destination = destination then some h else none

end Posting

/-- A terminal after postings have arrived: every place has what it had before, and
then what the postings bring there, in order. -/
structure Delivers (t : Terminal) (postings : List Posting) (t' : Terminal) : Prop where
  text : ∀ destination s, t'.textAt destination s =
    t.textAt destination s ++ String.join (postings.filterMap (Posting.text? destination s))
  shown : ∀ destination, t'.shownAt destination =
    t.shownAt destination ++ postings.filterMap (Posting.value? destination)

namespace Delivers

variable {t t' t'' : Terminal} {postings more : List Posting}

/-- Where nothing arrives everything stays. -/
theorem nothing (htext : ∀ destination s, t'.textAt destination s = t.textAt destination s)
    (hshown : ∀ destination, t'.shownAt destination = t.shownAt destination) :
    Delivers t [] t' := by
  refine ⟨fun destination s => ?_, fun destination => ?_⟩
  · rw [htext, List.filterMap_nil, String.join_nil, String.append_empty]
  · rw [hshown, List.filterMap_nil, List.append_nil]

/-- A text that is written arrives at its destination and nowhere else. -/
theorem written (t : Terminal) (place : Option String) (s : Stream) (text : String) :
    Delivers t [⟨.text s text, place⟩] (t.written place s text) := by
  refine ⟨fun destination stream => ?_, fun destination => ?_⟩
  · by_cases h : place = destination ∧ (destination = none → s = stream)
    · have hbrings : Posting.text? destination stream ⟨.text s text, place⟩ = some text := if_pos h
      rw [Terminal.textAt_written t text h, List.filterMap_cons, hbrings, List.filterMap_nil,
        String.join_cons, String.join_nil, String.append_empty]
    · have hbrings : Posting.text? destination stream ⟨.text s text, place⟩ = none := if_neg h
      rw [Terminal.textAt_written_of_not t text h, List.filterMap_cons, hbrings,
        List.filterMap_nil, String.join_nil, String.append_empty]
  · refine Eq.trans ?_ (List.append_nil _).symm
    cases place <;> cases destination <;> cases s <;> rfl

/-- A value that is shown arrives at its destination and nowhere else. -/
theorem presented (t : Terminal) (place : Option String) (h : Host) :
    Delivers t [⟨.display h, place⟩] (t.presented place h) := by
  refine ⟨fun destination stream => ?_, fun destination => ?_⟩
  · refine Eq.trans ?_ (String.append_empty).symm
    cases place <;> cases destination <;> cases stream <;> rfl
  · by_cases hplace : place = destination
    · have hbrings : Posting.value? destination ⟨.display h, place⟩ = some h := if_pos hplace
      rw [List.filterMap_cons, hbrings, List.filterMap_nil]
      subst hplace
      exact Terminal.shownAt_presented t h
    · have hbrings : Posting.value? destination ⟨.display h, place⟩ = none := if_neg hplace
      rw [Terminal.shownAt_presented_of_ne t h hplace, List.filterMap_cons, hbrings,
        List.filterMap_nil, List.append_nil]

/-- What is sent arrives at its destination and nowhere else. -/
theorem received (t : Terminal) (place : Option String) (e : Emission) :
    Delivers t [⟨e, place⟩] (t.received place e) := by
  cases e with
  | text s text => exact written t place s text
  | display h => exact presented t place h

/-- Postings arrive one after the other. -/
theorem trans (h : Delivers t postings t') (h' : Delivers t' more t'') :
    Delivers t (postings ++ more) t'' := by
  refine ⟨fun destination s => ?_, fun destination => ?_⟩
  · rw [h'.text, h.text, List.filterMap_append, String.join_append, String.append_assoc]
  · rw [h'.shown, h.shown, List.filterMap_append, List.append_assoc]

end Delivers

section Steps

variable (c : Context) (t : Terminal)

/-- Enter a scope. -/
def enter (c : Context) : Opening → Context
  | .output name => c.redirect name
  | .display name => c.displayWith name

/-- Entering a scope puts the routing objects in place and moves nothing. -/
theorem step_op (opening : Opening) :
    ∃ (n : Nat) (t' : Terminal), step c t opening.op = (.count n, enter c opening, t') ∧
      t'.installed = ⟨true, true, true⟩ ∧ Delivers t [] t' ∧ (t.Open → t'.Open) := by
  cases opening with
  | output name =>
    have hbuffer : ∀ other,
        (t.install.setBuffer name (t.buffer name)).buffer other = t.buffer other :=
      fun other => Terminal.buffer_setBuffer_same t.install name other
    refine ⟨_, _, rfl, rfl, .nothing (fun destination s => ?_) fun destination => ?_,
      fun ho other => ?_⟩
    · cases destination with
      | none => cases s <;> rfl
      | some other => exact congrArg Buffer.text (hbuffer other)
    · cases destination <;> rfl
    · rw [hbuffer]
      exact ho other
  | display name =>
    refine ⟨_, _, rfl, rfl, .nothing (fun destination s => ?_) fun destination => ?_, fun ho => ho⟩
    · cases destination with
      | none => cases s <;> rfl
      | some other => rfl
    · cases destination with
      | none => rfl
      | some other =>
        unfold Terminal.shownAt
        dsimp only
        by_cases h : other = name
        · rw [h, Assoc.find?_put_self, Option.getD_some]
        · rw [Assoc.find?_put_of_ne h]

/-- Something is sent to where it leads in its context, and does not fail. -/
theorem step_sending {t : Terminal} (ho : t.Open) (e : Emission) :
    ∃ a : Answer, a.fails = false ∧
      step c t (sending e) = (a, c, t.received (t.leads c.routing e) e) := by
  cases e with
  | text s text =>
    refine ⟨.count text.length, rfl, ?_⟩
    unfold sending step
    dsimp only
    rw [Terminal.write_eq ho]
    rfl
  | display h =>
    refine ⟨.none, rfl, ?_⟩
    unfold sending step
    dsimp only
    rw [Terminal.display_eq]
    rfl

end Steps

end Routing

end LiveSession
