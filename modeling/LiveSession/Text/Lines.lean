/-!
# Lines

Only the line feed separates lines; a carriage return, a form feed or a
Unicode line separator is an ordinary character. `splitLines` drops the line
feeds and so has one piece more than there are line feeds; `keepLines` leaves
each line feed at the end of its line and has no empty piece.
-/

namespace LiveSession.Text

/-- The pieces between the line feeds of a text, empty pieces included. -/
def splitLines : List Char → List (List Char)
  | [] => [[]]
  | c :: cs =>
    if c = '\n' then [] :: splitLines cs
    else
      match splitLines cs with
      | [] => [[c]]
      | line :: rest => (c :: line) :: rest

/-- The lines of a text, each with the line feed that ends it. -/
def keepLines : List Char → List (List Char)
  | [] => []
  | c :: cs =>
    if c = '\n' then ['\n'] :: keepLines cs
    else
      match keepLines cs with
      | [] => [[c]]
      | line :: rest => (c :: line) :: rest

/-- There is always a first piece. -/
theorem splitLines_ne_nil (cs : List Char) : splitLines cs ≠ [] := by
  cases cs with
  | nil => simp [splitLines]
  | cons c cs =>
    simp only [splitLines]
    split
    · simp
    · split <;> simp

/-- The lines kept with their line feeds are the text again. -/
theorem flatten_keepLines (cs : List Char) : (keepLines cs).flatten = cs := by
  induction cs with
  | nil => rfl
  | cons c cs ih =>
    simp only [keepLines]
    split
    · next h => simp [ih, h]
    · split
      · next h => simp [h] at ih; simp [ih]
      · next h => simp [h] at ih; simp [ih]

/-- Every carriage return, and a line feed after it, as one line feed. -/
def unifyBreaks : List Char → List Char
  | '\r' :: '\n' :: cs => '\n' :: unifyBreaks cs
  | '\r' :: cs => '\n' :: unifyBreaks cs
  | c :: cs => c :: unifyBreaks cs
  | [] => []

end LiveSession.Text
