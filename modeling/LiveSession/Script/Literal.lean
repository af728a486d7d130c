import LiveSession.Script.Defect

/-!
# Text literals of a script

A literal is what stands between two quotes, or two runs of three quotes, with
letters in front that tell its kind. Backslashes stand for characters that
cannot be written otherwise, unless the literal is a raw one. A literal between
single quotes ends on its line, but for line breaks after a backslash.
-/

namespace LiveSession.Script

/-- The kind of a literal. -/
structure LiteralKind where
  /-- Whether it is binary. -/
  isBinary : Bool := false
  /-- Whether backslashes stand for themselves. -/
  isRaw : Bool := false
  deriving DecidableEq, Repr

/-- A literal: its kind, and the characters between its quotes. -/
structure Literal where
  kind : LiteralKind
  body : List Char
  deriving DecidableEq, Repr

namespace Literal

/-- The kinds of literal by their letters. -/
def kinds : List (String × LiteralKind) :=
  [("", {}), ("u", {}), ("f", {}), ("r", { isRaw := true }), ("b", { isBinary := true }),
    ("br", { isBinary := true, isRaw := true }), ("rb", { isBinary := true, isRaw := true }),
    ("fr", { isRaw := true }), ("rf", { isRaw := true })]

/-- The kind of literal that certain letters make. -/
def kindOf? (letters : List Char) : Option LiteralKind :=
  (kinds.find? fun k => k.1.toList == letters.map Char.toLower).map Prod.snd

/-- Whether a character opens a literal. -/
def isQuote (c : Char) : Bool :=
  c == '\'' || c == '"'

/-- How the search for the closing quotes ends. -/
inductive Extent where
  /-- After a number of characters, with the quotes. -/
  | closed (length : Nat)
  /-- At the end of the line or of the text, after a number of characters. -/
  | unclosed (length : Nat) (atEnd : Bool)
  deriving DecidableEq, Repr

/-- Count one more character. -/
def Extent.succ : Extent → Extent
  | .closed n => .closed (n + 1)
  | .unclosed n atEnd => .unclosed (n + 1) atEnd

/-- Find the closing quotes, of which a number have been read in a row. -/
def extentFrom (quote : Char) (size : Nat) : Nat → List Char → Extent
  | _, [] => .unclosed 0 true
  | seen, c :: cs =>
    if c = quote then
      if seen + 1 = size then .closed 1 else (extentFrom quote size (seen + 1) cs).succ
    else if c = '\n' && size = 1 then .unclosed 0 false
    else if c = '\\' then
      match cs with
      | [] => .unclosed 1 true
      | _ :: more => (extentFrom quote size 0 more).succ.succ
    else (extentFrom quote size 0 cs).succ

/-- The quotes in a row at the start of a text, one or three; two of them are an
empty literal, and count as one. -/
def quoteSize (quote : Char) (cs : List Char) : Nat :=
  if [quote, quote, quote].isPrefixOf cs then 3 else 1

/-- The value of a run of digits in a base. -/
def valueOf (base : Nat) (cs : List Char) : Nat :=
  cs.foldl (fun n c => n * base + (Text.hexDigit? c).getD 0) 0

/-- What a backslash and a character stand for, where it is a single one. -/
def escaped? (c : Char) : Option (List Char) :=
  match c with
  | '\n' => some []
  | 'n' => some ['\n']
  | 't' => some ['\t']
  | 'r' => some ['\r']
  | 'a' => some ['\x07']
  | 'b' => some ['\x08']
  | 'f' => some ['\x0c']
  | 'v' => some ['\x0b']
  | '\\' => some ['\\']
  | '\'' => some ['\'']
  | '"' => some ['"']
  | _ => none

/-- Whether a character is a digit in base eight. -/
def isOctal (c : Char) : Bool :=
  '0' ≤ c && c ≤ '7'

/-- How many hexadecimal digits follow a letter after a backslash. -/
def codeWidth? (letter : Char) : Option Nat :=
  match letter with
  | 'x' => some 2
  | 'u' => some 4
  | 'U' => some 8
  | _ => none

/-- How many bytes of an escaped text a character takes: one beyond the ASCII
range is written as an escape of ten. -/
def escapedWidth (c : Char) : Nat :=
  if c.toNat < 0x80 then 1 else 10

/-- The wording of an escape that stands for no character, given the bytes before
it and its own. -/
def badEscape (before width : Nat) (reason : String) : Defect :=
  .escape ("(unicode error) 'unicodeescape' codec can't decode bytes in position " ++
    Text.decimalText before ++ "-" ++ Text.decimalText (before + width - 1) ++ ": " ++ reason)

/-- Resolve the escapes of a text. `before` counts the bytes that have been
read, and `skip` the characters that belong to the escape before. -/
def unescape (before skip : Nat) : List Char → Except Defect (List Char)
  | [] => .ok []
  | c :: cs =>
    match skip with
    | skip + 1 => unescape (before + escapedWidth c) skip cs
    | 0 =>
      let next := before + escapedWidth c
      if c ≠ '\\' then (unescape next 0 cs).map fun rest => c :: rest
      else
        match cs with
        | [] => .ok ['\\']
        | d :: more =>
          match escaped? d, codeWidth? d with
          | some e, _ => (unescape next 1 cs).map fun rest => e ++ rest
          | none, some width =>
            let digits := (more.take width).takeWhile fun c => (Text.hexDigit? c).isSome
            if digits.length < width then
              .error (badEscape before (2 + digits.length)
                ("truncated \\" ++ String.ofList (d :: List.replicate width 'X') ++ " escape"))
            else if 0x10FFFF < valueOf 16 digits then
              .error (badEscape before (2 + width) "illegal Unicode character")
            else
              (unescape next (1 + width) cs).map fun rest =>
                Char.ofNat (valueOf 16 digits) :: rest
          | none, none =>
            let digits := (cs.take 3).takeWhile isOctal
            if d = 'N' then .error (badEscape before 2 "malformed \\N character escape")
            else if digits.isEmpty then (unescape next 0 cs).map fun rest => c :: rest
            else
              (unescape next digits.length cs).map fun rest =>
                Char.ofNat (valueOf 8 digits) :: rest

/-- Resolve the escapes of a binary literal; `skip` counts the characters that
belong to the escape before. -/
def unescapeBytes (before skip : Nat) : List Char → Except Defect (List Nat)
  | [] => .ok []
  | c :: cs =>
    match skip with
    | skip + 1 => unescapeBytes (before + 1) skip cs
    | 0 =>
      if c ≠ '\\' then (unescapeBytes (before + 1) 0 cs).map fun rest => c.toNat :: rest
      else
        match cs with
        | [] => .ok ['\\'.toNat]
        | d :: more =>
          let digits := (more.take 2).takeWhile fun c => (Text.hexDigit? c).isSome
          let octal := (cs.take 3).takeWhile isOctal
          match escaped? d with
          | some e => (unescapeBytes (before + 1) 1 cs).map fun rest => e.map Char.toNat ++ rest
          | none =>
            if d = 'x' then
              if digits.length < 2 then
                .error (.escape ("(value error) invalid \\x escape at position " ++
                  Text.decimalText before))
              else
                (unescapeBytes (before + 1) 3 cs).map fun rest => valueOf 16 digits :: rest
            else if octal.isEmpty then
              (unescapeBytes (before + 1) 0 cs).map fun rest => c.toNat :: rest
            else
              (unescapeBytes (before + 1) octal.length cs).map fun rest =>
                valueOf 8 octal % 256 :: rest

/-- The text of a literal that is not binary. -/
def text (l : Literal) : Except Defect (List Char) :=
  if l.kind.isRaw || !l.body.contains '\\' then .ok l.body else unescape 0 0 l.body

/-- The bytes of a binary literal. -/
def bytes (l : Literal) : Except Defect (List Nat) :=
  if l.body.any fun c => 0x80 ≤ c.toNat then .error .wideBytes
  else if l.kind.isRaw then .ok (l.body.map Char.toNat)
  else unescapeBytes 0 0 l.body

end Literal

end LiveSession.Script
