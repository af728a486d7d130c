import LiveSession.Script.Cursor
import LiveSession.Script.Literal
import LiveSession.Script.Numeral
import LiveSession.Text.Identifier
import LiveSession.Text.Normalization

/-!
# Tokens of a script

A script is a run of words, numerals, literals and marks, with blanks between
them. A word is a keyword or a name; two spellings of a name are the same when
their compatibility compositions are. Where no token can be read there is a
broken one, which knows how the script is rejected for it.
-/

namespace LiveSession.Script

/-- The words that are no names. -/
def keywords : List String :=
  ["False", "None", "True", "and", "as", "assert", "async", "await", "break", "class", "continue",
    "def", "del", "elif", "else", "except", "finally", "for", "from", "global", "if", "import",
    "in", "is", "lambda", "nonlocal", "not", "or", "pass", "raise", "return", "try", "while",
    "with", "yield"]

/-- Why there is no token. -/
inductive Break where
  /-- The characters go wrong. -/
  | characters (rejection : Rejection)
  /-- The lines go wrong: the indentation or what follows a backslash. Another
  defect of the text goes before this one. -/
  | lines (rejection : Rejection)
  /-- The text ends inside brackets or after a backslash. -/
  | missing
  deriving DecidableEq, Repr

/-- A piece of a script. -/
inductive Token where
  | keyword (text : String)
  | name (text : String)
  | number (value : Numeric)
  | literal (value : Literal)
  /-- An operator, a bracket or a separator. -/
  | mark (text : String)
  /-- The end of a line, with the comment before it. -/
  | lineEnd
  /-- The start of lines that are indented further. -/
  | indent
  /-- The end of lines that are indented further. -/
  | unindent
  | textEnd
  /-- What is no token. -/
  | broken (cause : Break)
  deriving DecidableEq, Repr

/-- A token and the place up to which the text was read for it. -/
structure ReadToken where
  token : Token
  after : Cursor

namespace Token

/-- Whether a character only separates tokens. -/
def isGap (c : Char) : Bool :=
  c == ' ' || c == '\t' || c == '\x0c'

/-- A broken token whose characters go wrong before a cursor. -/
def stray (source : Source) (defect : Defect) (after : Cursor) : ReadToken :=
  ⟨.broken (.characters (source.rejectAt defect after)), after⟩

/-- The word of certain characters. -/
def ofWord (word : List Char) : Token :=
  let text := String.ofList word
  if keywords.contains text then .keyword text
  else .name (String.ofList (Text.normalize word))

/-- Read a word. It goes wrong at the first character that cannot stand in an
identifier. -/
def readWord (source : Source) (word : List Char) (c : Cursor) : ReadToken :=
  let valid := Text.identifierLength word
  match word.drop valid with
  | [] => ⟨ofWord word, (c.skip word.length).peek⟩
  | d :: _ => stray source (.strayCharacter d) (c.skip (valid + 1))

/-- Read a numeral. -/
def readNumber (source : Source) (c : Cursor) : ReadToken :=
  match Numeral.read c.rest with
  | .ok (value, length) => ⟨.number value, (c.skip length).peek⟩
  | .error e =>
    let after := c.skip e.length
    if e.width = 0 then stray source e.defect after
    else
      -- of these the place is counted in bytes
      let before := byteWidth ((source.line c.line).take c.column)
      ⟨.broken (.characters {
        defect := e.defect, line := c.line, shown := source.line c.line
        start := before + 1, stop := some (before + e.width + 1) }), after⟩

/-- Read a literal whose quote stands after a number of letters. One that is not
closed goes wrong at its start. -/
def readLiteral (source : Source) (kind : LiteralKind) (letters : Nat) (quote : Char)
    (c : Cursor) : ReadToken :=
  let size := Literal.quoteSize quote (c.rest.drop letters)
  let opened := c.skip (letters + size)
  match Literal.extentFrom quote size 0 opened.rest with
  | .closed length =>
    let after := opened.walk length
    let body := opened.rest.take (length - size)
    -- whether a literal without characters goes on is seen at the next one
    ⟨.literal ⟨kind, body⟩, if size = 1 && body.isEmpty then after.peek else after⟩
  | .unclosed length atEnd =>
    let walked := opened.walk length
    let reached := if atEnd then walked else walked.look true
    let after :=
      { c.skip 1 with rest := reached.rest, last := reached.last, ended := atEnd }
    stray source (.unterminated (size == 3) reached.line) after

/-- The marks of two characters. -/
def doubleMarks : List String :=
  ["!=", "%=", "&=", "**", "*=", "+=", "-=", "->", "//", "/=", ":=", "<<", "<=", "<>", "==", ">=",
    ">>", "@=", "^=", "|="]

/-- The marks of three characters. -/
def tripleMarks : List String :=
  ["**=", "//=", "<<=", ">>=", "..."]

/-- The first of some marks that a text starts with. -/
def startingMark? (marks : List String) (cs : List Char) : Option String :=
  marks.find? fun m => m.toList.isPrefixOf cs

/-- Read the mark that starts with a character. What follows it is looked at,
unless it is as long as marks can be. -/
def readMark (source : Source) (d : Char) (c : Cursor) : ReadToken :=
  match startingMark? tripleMarks c.rest, startingMark? doubleMarks c.rest with
  | some m, _ => ⟨.mark m, c.skip 3⟩
  | none, some m => ⟨.mark m, (c.skip 2).peek⟩
  | none, none =>
    let after := (c.skip 1).peek
    if Text.isPrintable d then ⟨.mark (String.singleton d), after⟩
    else stray source (.strayCharacter d) { after with ended := false }

/-- Read the token at a cursor, which stands before a character that is no blank,
no line break, no comment and no backslash. -/
def read (source : Source) (d : Char) (c : Cursor) : ReadToken :=
  let word := c.rest.takeWhile Numeral.isWordPart
  match c.rest.drop word.length with
  | quote :: _ =>
    if Literal.isQuote quote then
      match Literal.kindOf? word with
      | some kind => readLiteral source kind word.length quote c
      | none => readUnquoted word
    else readUnquoted word
  | [] => readUnquoted word
where
  /-- Read a token that is no literal; `word` are the characters at its start that
  can be part of a word. -/
  readUnquoted (word : List Char) : ReadToken :=
    if d.isDigit || (d == '.' && (c.rest.drop 1).head?.any Char.isDigit) then readNumber source c
    else if word.isEmpty then readMark source d c
    else readWord source word c

end Token

end LiveSession.Script
