import LiveSession.Script.Defect
import LiveSession.Text.Lines

/-!
# The place up to which a text is read

A text is read line by line, and a line is not looked at before its first
character is. The end of the text is seen when a character is looked for and
there is none; a text that is rejected after its end was seen could be the
beginning of a script. Lines that are joined, within a literal or by a
backslash, are shown together.
-/

namespace LiveSession.Script

/-- Where reading stands in a text. -/
structure Cursor where
  /-- What has not been read. -/
  rest : List Char
  /-- The line that is being read, counted from one. -/
  line : Nat := 0
  /-- The characters of it that have been read. -/
  column : Nat := 0
  /-- The first of the lines that are shown together with it. -/
  first : Nat := 0
  /-- The last line that has been looked at. -/
  last : Nat := 0
  /-- Whether the next character is the first of a line that has not been looked
  at. -/
  fresh : Bool := true
  /-- Whether the end of the text has been seen. -/
  ended : Bool := false

namespace Cursor

/-- Look at the next character; `joined` says whether its line would be shown
together with the one before. -/
def look (joined : Bool) (c : Cursor) : Cursor :=
  if c.rest.isEmpty then { c with ended := true }
  else if c.fresh then
    { c with
      line := c.line + 1
      last := c.line + 1
      column := 0
      first := if joined then c.first else c.line + 1
      fresh := false }
  else c

/-- Pass over a number of characters of the current line. -/
def skip (n : Nat) (c : Cursor) : Cursor :=
  { c with rest := c.rest.drop n, column := c.column + n }

/-- Pass over the line feed at the end of the current line. -/
def passBreak (c : Cursor) : Cursor :=
  { c.skip 1 with fresh := true }

/-- Pass over the rest of the current line. -/
def passLine (c : Cursor) : Cursor :=
  let line := c.rest.takeWhile (· != '\n')
  let c := c.skip line.length
  if c.rest.isEmpty then c else c.passBreak

/-- Pass over a number of characters of a literal, which can take several
lines. -/
def walk : Nat → Cursor → Cursor
  | 0, c => c
  | n + 1, c =>
    let c := c.look true
    walk n (if c.rest.head? == some '\n' then c.passBreak else c.skip 1)

/-- See the end of the text if it has come. -/
def peek (c : Cursor) : Cursor :=
  if c.rest.isEmpty then { c with ended := true } else c

end Cursor

/-- The bytes that characters take. -/
def byteWidth (cs : List Char) : Nat :=
  cs.foldl (fun n c => n + c.utf8Size) 0

/-- How many characters of a text start within a number of bytes; there is one
more where the text has fewer bytes. -/
def charactersWithin : List Char → Nat → Nat
  | _, 0 => 0
  | [], _ + 1 => 1
  | c :: cs, n + 1 => charactersWithin cs (n + 1 - c.utf8Size) + 1

/-- The lines of a text, to be shown where it is rejected. -/
structure Source where
  lines : Array (List Char)

namespace Source

/-- The lines of a text that has line feeds only. -/
def ofChars (cs : List Char) : Source :=
  ⟨(Text.splitLines cs).toArray⟩

/-- A line, counted from one. -/
def line (s : Source) (n : Nat) : List Char :=
  s.lines.getD (n - 1) []

/-- Lines joined with line feeds. -/
def joined (s : Source) (first last : Nat) : List Char :=
  ['\n'].intercalate ((List.range (last + 1 - first)).map fun i => s.line (first + i))

/-- What is shown for a defect on a line, when reading stands somewhere: the
lines that are read together, unless reading has gone past the line. -/
def shown (s : Source) (c : Cursor) (line : Nat) : List Char :=
  if c.line ≤ line then s.joined c.first c.last else s.line line

/-- The position in a text that is shown for a column of a line, counted from
one. What is shown need not be that line, and places in it are found by their
bytes. -/
def position (s : Source) (shown : List Char) (line column : Nat) : Nat :=
  charactersWithin shown (byteWidth ((s.line line).take column) + 1)

/-- The position before that of a column. -/
def positionBefore (s : Source) (shown : List Char) (line column : Nat) : Nat :=
  charactersWithin shown (byteWidth ((s.line line).take column))

/-- A defect at the character before a cursor. -/
def rejectAt (s : Source) (defect : Defect) (c : Cursor) : Rejection :=
  { defect, line := c.line, shown := s.line c.line, start := c.column }

end Source

end LiveSession.Script
