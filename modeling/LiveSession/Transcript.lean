import LiveSession.Text.Blank
import LiveSession.Text.Lines

/-!
# Transcripts of failed statements

When a statement fails, the console text that it left is its transcript. The
first line, without the blanks around it, names the error; the lines after it
are the traceback, each with its line feed.
-/

namespace LiveSession

/-- An error as read from a transcript. -/
structure Transcript where
  /-- The first line, without the blanks around it. -/
  name : String
  /-- The lines after it. -/
  traceback : List String
  deriving DecidableEq, Repr

namespace Transcript

/-- Read a transcript; one without any text has an unknown error. -/
def ofText (output : String) : Transcript :=
  match Text.keepLines output.toList with
  | [] => ⟨"unknown error", []⟩
  | first :: rest => ⟨String.ofList (Text.strip first), rest.map String.ofList⟩

end Transcript

end LiveSession
