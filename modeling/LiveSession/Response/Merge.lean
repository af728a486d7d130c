import LiveSession.Host.Sum
import LiveSession.Response

/-!
# Merging responses

The responses of the lines of a submission are folded into one. Only texts are
joined: when either side has no text the newer response replaces the older. Of
two texts that are not empty the sum is kept, of one the other is dropped, and
of two empty ones the newer response stays as it is, with all its entries.
-/

namespace LiveSession

/-- Where a merged response comes from. -/
inductive Origin where
  /-- It is the newer response itself. -/
  | newer
  /-- It was made of texts. -/
  | joined
  deriving DecidableEq, Repr

/-- A merged response. -/
structure Merged where
  origin : Origin
  response : Response

/-- Why two responses cannot be merged. -/
inductive MergeError where
  /-- The newer response is no success, and the older one is. -/
  | noText (variant : String)
  /-- The two texts have no sum. -/
  | sum (error : SumError)
  deriving DecidableEq, Repr

namespace MergeError

/-- The kind of error. -/
def label : MergeError → String
  | .noText _ => "AttributeError"
  | .sum e => e.label

/-- The wording of a refused merge. -/
def message : MergeError → String
  | .noText variant => "'" ++ variant ++ "' object has no attribute 'text'"
  | .sum e => e.message

end MergeError

namespace Entry

/-- The sum of two text entries, which is always a value. -/
def add (a b : Entry) : Except SumError Entry :=
  (a.toHost.add b.toHost).map .host

end Entry

namespace Response

/-- A success that holds the given text entry. -/
def ofText (entry : Entry) : Response :=
  .success [(plainTextMedia, entry)]

/-- Merge the texts of two successes, of which the newer is given whole. -/
def mergeTexts (older newer : Entry) (response : Response) : Except MergeError Merged :=
  if older.isTruthy then
    if newer.isTruthy then
      match older.add newer with
      | .ok entry => .ok ⟨.joined, ofText entry⟩
      | .error e => .error (.sum e)
    else .ok ⟨.joined, ofText older⟩
  else if newer.isTruthy then .ok ⟨.joined, ofText newer⟩
  else .ok ⟨.newer, response⟩

/-- Merge a response into the one that came before it. -/
def merge (older newer : Response) : Except MergeError Merged :=
  match older with
  | .success before =>
    match newer with
    | .success after =>
      match textOf before, textOf after with
      | some a, some b => mergeTexts a b newer
      | _, _ => .ok ⟨.newer, newer⟩
    | other => .error (.noText other.variantName)
  | _ => .ok ⟨.newer, newer⟩

/-- The merged responses of a run, one after each response, starting from the
given one, up to the first that cannot be merged. -/
def mergeSteps (start : Response) : List Response → List Merged × Option MergeError
  | [] => ([], none)
  | r :: rest =>
    match merge start r with
    | .error e => ([], some e)
    | .ok m =>
      let (ms, failure) := mergeSteps m.response rest
      (m :: ms, failure)

/-- The response of a run of responses, folded from empty console text. -/
def mergeAll (start : Response) : List Response → Except MergeError Response
  | [] => .ok start
  | r :: rest =>
    match merge start r with
    | .error e => .error e
    | .ok m => mergeAll m.response rest

end Response

end LiveSession
