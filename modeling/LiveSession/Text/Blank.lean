/-!
# Blank characters

Two classes of blank character are in use. The wider one decides what is
trimmed from a submission, from a magic argument and from the first line of a
transcript; the narrower one decides what is trimmed around a number given to
a settings field.
-/

namespace LiveSession.Text

/-- The characters with the Unicode property White_Space. -/
def isWhiteSpace (c : Char) : Bool :=
  let n := c.toNat
  (0x09 ≤ n && n ≤ 0x0D) || n == 0x20 || n == 0x85 || n == 0xA0 || n == 0x1680 ||
    (0x2000 ≤ n && n ≤ 0x200A) || n == 0x2028 || n == 0x2029 || n == 0x202F ||
    n == 0x205F || n == 0x3000

/-- The four information separators, U+001C to U+001F. -/
def isInformationSeparator (c : Char) : Bool :=
  0x1C ≤ c.toNat && c.toNat ≤ 0x1F

/-- A blank is white space or an information separator. -/
def isBlank (c : Char) : Bool :=
  isWhiteSpace c || isInformationSeparator c

/-- Remove the longest run of characters of a class from both ends. -/
def trimBoth (p : Char → Bool) (cs : List Char) : List Char :=
  ((cs.dropWhile p).reverse.dropWhile p).reverse

/-- Remove the longest run of characters of a class from the end. -/
def trimEnd (p : Char → Bool) (cs : List Char) : List Char :=
  (cs.reverse.dropWhile p).reverse

/-- Remove the blanks at both ends. -/
def strip (cs : List Char) : List Char :=
  trimBoth isBlank cs

/-- Remove the blanks at both ends of a string. -/
def stripString (s : String) : String :=
  String.ofList (strip s.toList)

end LiveSession.Text
