import LiveSession.Script.Token

/-!
# The layout of a script

The tokens of a script include the ends of its lines and the changes of its
indentation. Lines that end inside brackets or with a backslash are joined with
the lines after them, and lines without tokens are left out. A depth of
indentation is measured twice, with wide and with narrow tabs, and both have to
agree. The text ends with one more line end, unless it has no tokens.
-/

namespace LiveSession.Script

/-- How far a line is indented. -/
structure Depth where
  /-- The blanks, where a tab goes on to the next multiple of eight. -/
  wide : Nat := 0
  /-- The blanks, where a tab is one of them. -/
  narrow : Nat := 0
  deriving DecidableEq, Repr

/-- An opening bracket that waits for its closing one. -/
structure Bracket where
  opening : Char
  line : Nat
  column : Nat
  deriving DecidableEq, Repr

namespace Bracket

/-- How many brackets can wait at a time. -/
def limit : Nat := 200

/-- The brackets that open and close. -/
def pairs : List (Char × Char) :=
  [('(', ')'), ('[', ']'), ('\x7b', '\x7d')]

/-- Whether a character is a closing bracket. -/
def isClosing (c : Char) : Bool :=
  pairs.any fun p => p.2 == c

/-- Whether a character is an opening bracket. -/
def isOpening (c : Char) : Bool :=
  pairs.any fun p => p.1 == c

/-- The brackets that wait after a mark, innermost first. The mark stands at a
line and a column. -/
def after (waiting : List Bracket) (line column : Nat) (mark : String) :
    Except Defect (List Bracket) :=
  match mark.toList with
  | [c] =>
    if isOpening c then
      if waiting.length < limit then .ok (⟨c, line, column⟩ :: waiting) else .error .tooDeep
    else if isClosing c then
      match waiting with
      | [] => .error (.unmatched c)
      | b :: rest =>
        if pairs.contains (b.opening, c) then .ok rest
        else .error (.mismatched c b.opening (if b.line = line then none else some b.line))
    else .ok waiting
  | _ => .ok waiting

end Bracket

/-- A token at its place. -/
structure Located where
  token : Token
  /-- The line where it starts. -/
  line : Nat
  /-- The columns where it starts and ends, the latter on the line where it ends;
  a token without characters has none. -/
  extent : Option (Nat × Nat) := none
  /-- The line where it ends. -/
  endLine : Nat
  /-- The brackets that wait after it. -/
  waiting : List Bracket := []
  /-- The place up to which the text was read for it. -/
  after : Cursor

namespace Located

/-- Whether it is a certain mark. -/
def isMark (mark : String) (t : Located) : Bool :=
  match t.token with
  | .mark m => m == mark
  | _ => false

/-- Whether it is a certain keyword. -/
def isKeyword (word : String) (t : Located) : Bool :=
  match t.token with
  | .keyword w => w == word
  | _ => false

/-- A defect from the start of one token to the end of another, when the text was
read for a third one. -/
def rejectFrom (source : Source) (defect : Defect) (first last reached : Located) : Rejection :=
  let shown := source.shown reached.after first.line
  { defect, line := first.line, shown
    start := match first.extent with
      | some (start, _) => source.position shown first.line start
      | none => 0
    stop := last.extent.map fun e => source.position shown last.endLine e.2 }

/-- A defect of a token that does not fit, when the text was read for another
one. -/
def reject (source : Source) (defect : Defect) (t reached : Located) : Rejection :=
  rejectFrom source defect t t reached

/-- A defect at the last token that was read: at its start, or at the character
before the cursor where it has no characters. -/
def rejectLast (source : Source) (defect : Defect) (t : Located) : Rejection :=
  let shown := source.shown t.after t.line
  { defect, line := t.line, shown
    start := match t.extent with
      | some (start, _) => source.position shown t.line start
      | none => source.positionBefore shown t.after.line t.after.column
    stop := t.extent.map fun e => source.position shown t.endLine e.2 }

end Located

/-- The state in which a text is laid out. -/
structure Layout where
  cursor : Cursor
  /-- Whether a line starts here. -/
  atStart : Bool := true
  /-- Whether the line has no tokens. -/
  isIdle : Bool := false
  /-- The depths of the lines around, innermost first, above no depth at all. -/
  depths : List Depth := []
  /-- How many depths are still to be left. -/
  leaving : Nat := 0
  waiting : List Bracket := []
  /-- Whether there was a token. -/
  hasTokens : Bool := false
  /-- Whether the line end at the end of the text has been added. -/
  isClosed : Bool := false

/-- What reading a margin came to. -/
structure Margin where
  depth : Depth := {}
  /-- The depth in front of the first backslash, which counts if it is one. -/
  held : Nat := 0
  cursor : Cursor

namespace Margin

/-- How wide a wide tab is. -/
def tabWidth : Nat := 8

/-- Pass over a blank, after which the line is of a certain depth. -/
def pass (m : Margin) (depth : Depth) : Margin :=
  { m with depth, cursor := m.cursor.skip 1 }

/-- Read the blanks at the start of a line, given what is left of the text. -/
def read (source : Source) (m : Margin) : List Char → Except (Break × Cursor) Margin
  | ' ' :: cs =>
    read source (m.pass { wide := m.depth.wide + 1, narrow := m.depth.narrow + 1 }) cs
  | '\t' :: cs =>
    read source
      (m.pass { wide := (m.depth.wide / tabWidth + 1) * tabWidth, narrow := m.depth.narrow + 1 })
      cs
  | '\x0c' :: cs => read source (m.pass {}) cs
  | '\\' :: '\n' :: cs =>
    let next := ((m.cursor.skip 1).passBreak).look false
    if cs.isEmpty then .error (.missing, next)
    else
      read source { m with held := if m.held = 0 then m.depth.wide else m.held, cursor := next } cs
  | '\\' :: cs =>
    let after := if cs.isEmpty then m.cursor.skip 1 else m.cursor.skip 2
    .error (.lines (backslash source after), after)
  | [] => .ok { m with cursor := m.cursor.look false }
  | _ :: _ => .ok m
where
  /-- The defect of a character after a backslash, before a cursor. -/
  backslash (source : Source) (after : Cursor) : Rejection :=
    let before := (List.range (after.line - after.first)).foldl
      (fun n i => n + (source.line (after.first + i)).length + 1) 0
    { source.rejectAt .afterBackslash after with
      shown := source.shown after after.line, start := before + after.column }

/-- The depth that counts. -/
def effective (m : Margin) : Depth :=
  if m.held = 0 then m.depth else { wide := m.held, narrow := m.held }

end Margin

namespace Layout

/-- How many depths there can be, no depth at all among them. -/
def depthLimit : Nat := 100

/-- The depth of the lines around. -/
def depth (s : Layout) : Depth :=
  s.depths.headD {}

/-- A token without characters of its own. -/
def emptyToken (s : Layout) (token : Token) : Located :=
  { token, line := s.cursor.line, endLine := s.cursor.line, waiting := s.waiting
    after := s.cursor }

/-- A broken token. -/
def breakWith (s : Layout) (cause : Break) (after : Cursor) : Located :=
  { s with cursor := after }.emptyToken (.broken cause)

/-- The defect of a line as a whole, at a position. -/
def lineDefect (source : Source) (s : Layout) (defect : Defect) (atEnd : Bool) : Located :=
  let after := { s.cursor.passLine with ended := false }
  s.breakWith
    (.lines {
      defect, line := after.line, shown := source.shown after after.line
      start := if atEnd then after.column else 1 })
    after

/-- The outcome of a step: a token, if there is one, and the state after it,
unless nothing follows. -/
abbrev Step := Option Located × Option Layout

/-- Enter a line of a certain depth. -/
def enter (source : Source) (s : Layout) (d : Depth) : Step :=
  let mixed : Step := (some (s.lineDefect source .mixedIndent false), none)
  if d.wide = s.depth.wide then
    if d.narrow = s.depth.narrow then (none, some s) else mixed
  else if s.depth.wide < d.wide then
    if depthLimit ≤ s.depths.length + 1 then
      (some (s.lineDefect source .tooManyIndents false), none)
    else if d.narrow ≤ s.depth.narrow then mixed
    else (some (s.emptyToken .indent), some { s with depths := d :: s.depths })
  else
    let kept := s.depths.dropWhile fun e => d.wide < e.wide
    let outer := kept.headD {}
    if d.wide ≠ outer.wide then (some (s.lineDefect source .unevenIndent true), none)
    else if d.narrow ≠ outer.narrow then mixed
    else (none, some { s with depths := kept, leaving := s.depths.length - kept.length })

/-- Start a line: its margin is read, and its depth counts unless it is within
brackets or has no tokens. -/
def startLine (source : Source) (s : Layout) : Step :=
  let looked := s.cursor.look false
  match Margin.read source { cursor := looked } looked.rest with
  | .error (cause, after) => (some (s.breakWith cause after), none)
  | .ok m =>
    let isIdle := m.cursor.rest.head?.any fun c => c == '#' || c == '\n'
    let s := { s with cursor := m.cursor, atStart := false, isIdle }
    if isIdle || !s.waiting.isEmpty then (none, some s) else s.enter source m.effective

/-- End a line, at which a comment may stand from a column on. -/
def endLine (s : Layout) (start : Nat) : Step :=
  let stop := s.cursor.column
  let s := { s with cursor := s.cursor.passBreak, atStart := true }
  if s.isIdle || !s.waiting.isEmpty then (none, some { s with isIdle := false })
  else (some { s.emptyToken .lineEnd with extent := some (start, stop) }, some s)

/-- End the text. A line end is added where there were tokens. -/
def endText (s : Layout) : Step :=
  if !s.waiting.isEmpty then (some (s.emptyToken (.broken .missing)), none)
  else if s.hasTokens && !s.isClosed then
    (some (s.emptyToken .lineEnd), some { s with isClosed := true })
  else (some (s.emptyToken .textEnd), none)

/-- Join the line after a backslash. -/
def joinLine (source : Source) (s : Layout) (next : List Char) : Step :=
  match next with
  | '\n' :: cs =>
    let after := ((s.cursor.skip 1).passBreak).look true
    if cs.isEmpty then (some (s.breakWith .missing after), none)
    else (none, some { s with cursor := after })
  | cs =>
    let after := if cs.isEmpty then s.cursor.skip 1 else s.cursor.skip 2
    (some (s.breakWith (.lines (Margin.read.backslash source after)) after), none)

/-- Take a token that was read: a bracket waits for its closing one, or closes
one that waits. -/
def take (source : Source) (s : Layout) (r : ReadToken) : Step :=
  let located : Located := {
    token := r.token, line := s.cursor.line, extent := some (s.cursor.column, r.after.column)
    endLine := r.after.line, waiting := s.waiting, after := r.after }
  match r.token with
  | .broken cause => (some (s.breakWith cause r.after), none)
  | .mark m =>
    match Bracket.after s.waiting s.cursor.line s.cursor.column m with
    | .ok waiting =>
      (some { located with waiting }, some { s with cursor := r.after, waiting })
    | .error defect =>
      let after := { r.after with ended := false }
      (some (s.breakWith (.characters (source.rejectAt defect after)) after), none)
  | _ => (some located, some { s with cursor := r.after })

/-- Go on within a line. -/
def continueLine (source : Source) (s : Layout) : Step :=
  let gap := (s.cursor.rest.takeWhile Token.isGap).length
  let cursor := (s.cursor.skip gap).peek
  let s := { s with cursor }
  match cursor.rest with
  | [] => s.endText
  | '\n' :: _ => s.endLine cursor.column
  | '#' :: cs =>
    let after := (cursor.skip (1 + (cs.takeWhile (· != '\n')).length)).peek
    let s := { s with cursor := after }
    if after.ended then s.endText else s.endLine cursor.column
  | '\\' :: cs => s.joinLine source cs
  | d :: _ => s.take source (Token.read source d cursor)

/-- One step: leave a depth, start a line or go on within one. -/
def step (source : Source) (s : Layout) : Step :=
  if s.leaving ≠ 0 then
    (some (s.emptyToken .unindent), some { s with leaving := s.leaving - 1 })
  else if s.atStart then s.startLine source
  else s.continueLine source

/-- The tokens from a state on, after those that were taken, last one first. -/
def tokensFrom (source : Source) : Nat → List Located → Layout → List Located
  | 0, taken, _ => taken.reverse
  | fuel + 1, taken, s =>
    match s.step source with
    | (none, none) => taken.reverse
    | (some t, none) => (t :: taken).reverse
    | (none, some next) => tokensFrom source fuel taken next
    | (some t, some next) =>
      tokensFrom source fuel (t :: taken) { next with hasTokens := true }

/-- The tokens of a text that has line feeds only; the last one is the end of the
text or broken. No line takes more than three steps without a character of its
own, so the fuel is enough. -/
def tokens (source : Source) (cs : List Char) : List Located :=
  tokensFrom source (4 * cs.length + 8) [] { cursor := { rest := cs } }

end Layout

end LiveSession.Script
