import LiveSession.Text.Printable

/-!
# Quoted text

A text is quoted with apostrophes, or with quotation marks when it contains an
apostrophe and no quotation mark. The backslash, the quote in use, the line
feed, the carriage return and the tab have short escapes; any other character
that is not printable is written by its code point in two, four or eight
hexadecimal digits. Bytes are quoted alike with a leading letter, where every
byte outside the printable ASCII range takes two hexadecimal digits.
-/

namespace LiveSession.Text

/-- Hexadecimal digits of a number in lower case, padded with zeros. -/
def hexadecimal (width n : Nat) : List Char :=
  let digits := Nat.toDigits 16 n
  List.replicate (width - digits.length) '0' ++ digits

/-- The quote for a text: a quotation mark only where that saves escapes. -/
def quoteFor (cs : List Char) : Char :=
  if cs.contains '\'' && !cs.contains '"' then '"' else '\''

/-- The escape by code point. -/
def escapeCode (c : Char) : List Char :=
  if c.toNat < 0x100 then '\\' :: 'x' :: hexadecimal 2 c.toNat
  else if c.toNat < 0x10000 then '\\' :: 'u' :: hexadecimal 4 c.toNat
  else '\\' :: 'U' :: hexadecimal 8 c.toNat

/-- The written form of one character inside the given quotes. -/
def escapeChar (printable : Char → Bool) (quote c : Char) : List Char :=
  if c = quote || c = '\\' then ['\\', c]
  else if c = '\n' then ['\\', 'n']
  else if c = '\r' then ['\\', 'r']
  else if c = '\t' then ['\\', 't']
  else if printable c then [c]
  else escapeCode c

/-- A text between quotes, with escapes. -/
def quoteChars (printable : Char → Bool) (cs : List Char) : List Char :=
  let quote := quoteFor cs
  quote :: (cs.flatMap (escapeChar printable quote)) ++ [quote]

/-- A string between quotes, with escapes. -/
def quote (s : String) : String :=
  String.ofList (quoteChars isPrintable s.toList)

/-- Whether a character is in the printable ASCII range. -/
def isPlain (c : Char) : Bool :=
  0x20 ≤ c.toNat && c.toNat < 0x7F

/-- A byte string between quotes, each byte as the character of its number. -/
def quoteBytes (bytes : List Nat) : String :=
  "b" ++ String.ofList (quoteChars isPlain (bytes.map Char.ofNat))

/-- Bytes that can grow between quotes: an apostrophe is escaped whatever the
quotes are. -/
def quoteGrowable (bytes : List Nat) : String :=
  let cs := bytes.map Char.ofNat
  let quote := quoteFor cs
  let written := cs.flatMap fun c => if c = '\'' then ['\\', c] else escapeChar isPlain quote c
  "b" ++ String.ofList (quote :: written ++ [quote])

end LiveSession.Text
