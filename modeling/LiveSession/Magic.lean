import LiveSession.Text.Blank
import LiveSession.Text.Word

/-!
# Magic lines

A magic line is a percent sign, a name of word characters, any other
characters and an argument. The name is the longest run of word characters,
the argument starts at the next word character and runs to the end of the
line, without the blanks at its end; a line feed in it makes the line ordinary
source.
-/

namespace LiveSession

/-- What a magic line asks for. -/
structure Magic where
  name : String
  argument : String
  deriving DecidableEq, Repr

namespace Magic

/-- Name and argument of the characters after the percent sign. -/
def split? (cs : List Char) : Option (List Char × List Char) :=
  let name := cs.takeWhile Text.isWord
  let argument := (cs.dropWhile Text.isWord).dropWhile (!Text.isWord ·)
  if name.isEmpty || argument.contains '\n' then none
  else some (name, Text.strip argument)

/-- The magic of a line, if it is one. -/
def ofChars? : List Char → Option (List Char × List Char)
  | '%' :: cs => split? cs
  | _ => none

/-- The magic of a line, if it is one. -/
def ofLine? (line : String) : Option Magic :=
  (ofChars? line.toList).map fun m => ⟨String.ofList m.1, String.ofList m.2⟩

end Magic

end LiveSession
