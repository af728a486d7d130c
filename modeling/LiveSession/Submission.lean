import LiveSession.Response.Merge
import LiveSession.Text.Blank
import LiveSession.Text.Lines

/-!
# Submissions

A submission is run line by line. A line that turns out incomplete is joined
with the next one and tried again as one block; the first error or abort ends
the submission; the responses of completed blocks are merged. When the last
block stays incomplete it is tried once more, wrapped: if that fails the
submission is incomplete, and if it succeeds its text joins the result.

The run is a function of two operations on a state: attempting a text, and
wrapping one.
-/

namespace LiveSession.Submission

variable {S E : Type}

/-- The lines of a submission: blanks at both ends are dropped first. -/
def lines (code : String) : List String :=
  (Text.splitLines (Text.strip code.toList)).map String.ofList

/-- Two lines of one block. -/
def join (a b : String) : String := a ++ "\n" ++ b

/-- An operation on a state that takes a text. -/
abbrev Operation (S E α : Type) := String → S → Except E α × S

/-- The last attempt at a block that stayed incomplete. -/
def retry (attempt : Operation S E Response) (wrap : Operation S E String)
    (unmerged : MergeError → E) (block : String) (merged : Response) (s : S) :
    Except E Response × S :=
  match wrap block s with
  | (.error e, s) => (.error e, s)
  | (.ok wrapped, s) =>
    match attempt wrapped s with
    | (.error e, s) => (.error e, s)
    | (.ok (.success payload), s) =>
      match Response.textOf payload with
      | none => (.ok merged, s)
      | some text =>
        if text.isTruthy then
          match Response.merge merged (.success payload) with
          | .error e => (.error (unmerged e), s)
          | .ok m => (.ok m.response, s)
        else (.ok merged, s)
    | (.ok (.aborted message), s) => (.ok (.aborted message), s)
    | (.ok (.error _ _ _), s) => (.ok .incomplete, s)
    | (.ok .incomplete, s) => (.ok .incomplete, s)
    | (.ok .bare, s) => (.ok merged, s)

/-- Run a block and the lines after it, merging into what came before. -/
def runFrom (attempt : Operation S E Response) (wrap : Operation S E String)
    (unmerged : MergeError → E) (block : String) (rest : List String) (merged : Response) (s : S) :
    Except E Response × S :=
  match attempt block s with
  | (.error e, s) => (.error e, s)
  | (.ok .incomplete, s) =>
    match rest with
    | [] => retry attempt wrap unmerged block merged s
    | next :: rest => runFrom attempt wrap unmerged (join block next) rest merged s
  | (.ok (.error kind name traceback), s) => (.ok (.error kind name traceback), s)
  | (.ok (.aborted message), s) => (.ok (.aborted message), s)
  | (.ok response, s) =>
    match Response.merge merged response with
    | .error e => (.error (unmerged e), s)
    | .ok m =>
      match rest with
      | [] => (.ok m.response, s)
      | next :: rest => runFrom attempt wrap unmerged next rest m.response s

/-- Run the lines of a submission. -/
def run (attempt : Operation S E Response) (wrap : Operation S E String)
    (unmerged : MergeError → E) (lines : List String) (s : S) : Except E Response × S :=
  match lines with
  | [] => (.ok (.plainText ""), s)
  | first :: rest => runFrom attempt wrap unmerged first rest (.plainText "") s

end LiveSession.Submission
