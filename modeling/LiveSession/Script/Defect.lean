import LiveSession.Text.Blank
import LiveSession.Text.Digits
import LiveSession.Text.Printable
import LiveSession.Text.Quoted

/-!
# Defects of a script

A text that is no script is rejected for one defect. The rejection is written
as the kind of defect and its wording, then the place: the line number, the
text around it without the indentation, and carets under the characters that
do not fit. A defect of the whole text has no place.
-/

namespace LiveSession.Script

/-- What is wrong with a text. -/
inductive Defect where
  /-- A token that does not continue what stands before it. -/
  | unexpected
  /-- The text ends where it cannot end, and could go on. -/
  | unfinished
  /-- The text ends after a backslash. -/
  | cutOff
  /-- A null character somewhere. -/
  | nullCharacter
  /-- A text literal that is not closed up to a line; it may be one that is
  allowed to take several lines. -/
  | unterminated (long : Bool) (line : Nat)
  /-- A character that is part of no token. -/
  | strayCharacter (c : Char)
  /-- A character other than a line break after a backslash. -/
  | afterBackslash
  /-- A numeral of a kind that goes wrong. -/
  | numeral (kind : String)
  /-- A digit that a numeral of a kind cannot have. -/
  | numeralDigit (digit : Char) (kind : String)
  /-- A numeral of this many digits, which are too many. -/
  | oversizedNumeral (digits : Nat)
  /-- A whole number with a zero in front. -/
  | leadingZeros
  /-- An escape that stands for no character. -/
  | escape (reason : String)
  /-- A binary literal with a character that is none of its own. -/
  | wideBytes
  /-- Text literals and binary ones side by side. -/
  | mixedLiterals
  /-- An opening bracket inside too many others. -/
  | tooDeep
  /-- A closing bracket without an opening one. -/
  | unmatched (closing : Char)
  /-- A closing bracket of another kind than the opening one, which stands on
  the given line if it is an earlier one. -/
  | mismatched (closing opening : Char) (earlier : Option Nat)
  /-- An opening bracket without a closing one. -/
  | unclosed (opening : Char)
  /-- A line that is indented without need. -/
  | strayIndent
  /-- A line that goes back to a depth without need. -/
  | strayUnindent
  /-- A loop header, on the given line, without an indented line after it. -/
  | missingBody (header : Nat)
  /-- A line between two depths of indentation. -/
  | unevenIndent
  /-- A line whose depth hangs on how wide a tab is. -/
  | mixedIndent
  /-- A line inside too many depths of indentation. -/
  | tooManyIndents
  /-- A loop header without its colon. -/
  | missingColon
  /-- Two expressions side by side inside brackets. -/
  | missingComma
  /-- A routine that is given its arguments without parentheses. -/
  | missingParentheses (routine : String)
  /-- An equals sign after a name inside brackets. -/
  | comparisonMeant
  /-- An equals sign after an argument that is no name. -/
  | assignedArgument
  /-- Something that cannot be assigned to; `comparable` says whether a
  comparison may be meant. -/
  | notAssignable (what : String) (comparable : Bool)
  /-- Something that a value cannot be kept in while it is used. -/
  | notNameable (what : String)
  /-- Something that cannot be assigned to in part. -/
  | notAugmentable (what : String)
  /-- Something that no annotation can be given to. -/
  | notAnnotatable
  /-- Several things that no annotation can be given to. -/
  | annotatedSeveral (what : String)
  /-- A key of a mapping without its colon. -/
  | missingKeyColon
  /-- A key of a mapping without its value. -/
  | missingValue
  /-- More than one statement. -/
  | surplus
  deriving DecidableEq, Repr

namespace Defect

/-- The kind of defect. -/
def label : Defect → String
  | .nullCharacter => "ValueError"
  | .mixedIndent => "TabError"
  | .strayIndent | .strayUnindent | .missingBody _ | .unevenIndent | .tooManyIndents =>
    "IndentationError"
  | _ => "SyntaxError"

/-- The number of a character, in hexadecimal digits. -/
def codePoint (c : Char) : String :=
  "U+" ++ String.ofList ((Text.hexadecimal 4 c.toNat).map Char.toUpper)

/-- A character in quotes. -/
def quoted (c : Char) : String :=
  "'" ++ String.singleton c ++ "'"

/-- The wording of a defect. -/
def message : Defect → String
  | .unexpected => "invalid syntax"
  | .unfinished => "incomplete input"
  | .cutOff => "unexpected EOF while parsing"
  | .nullCharacter => "source code string cannot contain null bytes"
  | .unterminated long line =>
    "unterminated " ++ (if long then "triple-quoted " else "") ++
      "string literal (detected at line " ++ Text.decimalText line ++ ")"
  | .strayCharacter c =>
    if Text.isPrintable c then "invalid character " ++ quoted c ++ " (" ++ codePoint c ++ ")"
    else "invalid non-printable character " ++ codePoint c
  | .afterBackslash => "unexpected character after line continuation character"
  | .numeral kind => "invalid " ++ kind ++ " literal"
  | .numeralDigit digit kind => "invalid digit " ++ quoted digit ++ " in " ++ kind ++ " literal"
  | .oversizedNumeral digits =>
    Text.beyondDigitLimit (Text.digitDetail (Text.decimalText digits)) ++
      " - Consider hexadecimal for huge integer literals to avoid decimal conversion limits."
  | .leadingZeros =>
    "leading zeros in decimal integer literals are not permitted; use an 0o prefix for octal " ++
      "integers"
  | .escape reason => reason
  | .wideBytes => "bytes can only contain ASCII literal characters"
  | .mixedLiterals => "cannot mix bytes and nonbytes literals"
  | .tooDeep => "too many nested parentheses"
  | .unmatched closing => "unmatched " ++ quoted closing
  | .mismatched closing opening earlier =>
    "closing parenthesis " ++ quoted closing ++ " does not match opening parenthesis " ++
      quoted opening ++
      (match earlier with
        | some line => " on line " ++ Text.decimalText line
        | none => "")
  | .unclosed opening => quoted opening ++ " was never closed"
  | .strayIndent => "unexpected indent"
  | .strayUnindent => "unexpected unindent"
  | .missingBody header =>
    "expected an indented block after 'for' statement on line " ++ Text.decimalText header
  | .unevenIndent => "unindent does not match any outer indentation level"
  | .mixedIndent => "inconsistent use of tabs and spaces in indentation"
  | .tooManyIndents => "too many levels of indentation"
  | .missingColon => "expected ':'"
  | .missingComma => "invalid syntax. Perhaps you forgot a comma?"
  | .missingParentheses routine =>
    "Missing parentheses in call to '" ++ routine ++ "'. Did you mean " ++ routine ++ "(...)?"
  | .comparisonMeant => "invalid syntax. Maybe you meant '==' or ':=' instead of '='?"
  | .assignedArgument => "expression cannot contain assignment, perhaps you meant \"==\"?"
  | .notAssignable what comparable =>
    "cannot assign to " ++ what ++
      if comparable then " here. Maybe you meant '==' instead of '='?" else ""
  | .notNameable what => "cannot use assignment expressions with " ++ what
  | .notAugmentable what => "'" ++ what ++ "' is an illegal expression for augmented assignment"
  | .notAnnotatable => "illegal target for annotation"
  | .annotatedSeveral what => "only single target (not " ++ what ++ ") can be annotated"
  | .missingKeyColon => "':' expected after dictionary key"
  | .missingValue => "expression expected after dictionary key and ':'"
  | .surplus => "multiple statements found while compiling a single statement"

end Defect

/-- A defect and where it is. -/
structure Rejection where
  defect : Defect
  /-- The line, counted from one. -/
  line : Nat
  /-- The text that is shown. -/
  shown : List Char
  /-- The position of the defect in the text, counted from one. -/
  start : Nat
  /-- The position after it, unless it is a single character; the defect may end
  on another line, which this position counts in. -/
  stop : Option Nat := none
  deriving DecidableEq, Repr

namespace Rejection

/-- Whether a character is skipped at the start of a shown text. -/
def isMargin (c : Char) : Bool :=
  c == ' ' || c == '\n' || c == '\x0c'

/-- The carets under the defect, in a text that is shown without its margin.
There are none for a place within the margin. -/
def carets (margin : Nat) (text : List Char) (r : Rejection) : String :=
  if r.start ≤ margin then ""
  else
    let column := r.start - 1 - margin
    let stop := match r.stop with
      | some stop => if stop = 0 || stop = r.start then r.start + 1 else stop
      | none => r.start + 1
    let gap := (text.take column).map fun c => if Text.isBlank c then c else ' '
    "    " ++ String.ofList (gap ++ List.replicate (stop - r.start) '^') ++ "\n"

/-- The name of a source as it is shown; one without a name is any text. -/
def shownSource (source : String) : String :=
  if source.isEmpty then "<string>" else source

/-- The whole text of a rejection, given the name of the source. -/
def text (source : String) (r : Rejection) : String :=
  let head := r.defect.label ++ ": " ++ r.defect.message ++ "\n"
  match r.defect with
  | .nullCharacter => head
  | _ =>
    let whole := Text.trimEnd (· == '\n') r.shown
    let shown := whole.dropWhile isMargin
    head ++ "  File \"" ++ shownSource source ++ "\", line " ++ Text.decimalText r.line ++ "\n" ++
      "    " ++ String.ofList shown ++ "\n" ++ r.carets (whole.length - shown.length) shown

end Rejection

end LiveSession.Script
