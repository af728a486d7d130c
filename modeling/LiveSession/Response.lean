import LiveSession.Host.Elements
import LiveSession.Plain

/-!
# Responses

A submission ends in one of four responses: a success with an ordered mapping
from media type to entry, a classified error, the news that the statement is
incomplete, or an abort. The bare response is what the four have in common; it
has no status.
-/

namespace LiveSession

/-- The media type of console text. -/
def plainTextMedia : String := "text/plain"

/-- The media type of a structured value. -/
def structuredMedia : String := "application/json"

/-- The media type that is reserved for tables. -/
def tableMedia : String := "application/vnd.livy.table.v1+json"

/-- What a success can hold under a media type. -/
inductive Entry where
  /-- A value that is passed on as it is; console text is one. -/
  | host (value : Host)
  | structured (value : Structured)
  | table (value : Table)

namespace Entry

/-- Console text. -/
def text (s : String) : Entry := .host (.string s)

/-- An entry for any host value: one that holds a structured value is that
structured value. -/
def ofHost : Host → Entry
  | .structured v => .structured v
  | h => .host h

/-- What stands for a table among values. -/
def tableEntity : Entity where
  kind := .thing false
  typeName := "Table"
  shown := "<table>"

/-- An entry as a value. -/
def toHost : Entry → Host
  | .host h => h
  | .structured v => .structured v
  | .table _ => .entity tableEntity

/-- The plain value of an entry; a host value is its own, unless it says
otherwise. -/
def plain : Entry → Except PlainError Host
  | .host h => .ok (h.accountedPlain?.getD h)
  | .structured v => v.plain
  | .table t => t.plain

/-- Whether an entry counts as true. -/
def isTruthy : Entry → Bool
  | .host h => h.isTruthy
  | _ => true

end Entry

/-- The outcome of a submission, or of one line of it. -/
inductive Response where
  | success (payload : List (String × Entry))
  | error (kind name : String) (traceback : List String)
  | incomplete
  | aborted (message : String)
  | bare

namespace Response

/-- A success that holds console text. -/
def plainText (s : String) : Response :=
  .success [(plainTextMedia, .text s)]

/-- The status of a response. -/
def status : Response → String
  | .success _ => "ok"
  | .error _ _ _ => "error"
  | .incomplete => "incomplete"
  | .aborted _ => "aborted"
  | .bare => ""

/-- The name of a response's variant. -/
def variantName : Response → String
  | .success _ => "Success"
  | .error _ _ _ => "Error"
  | .incomplete => "Incomplete"
  | .aborted _ => "Aborted"
  | .bare => "ExecutionResponse"

/-- The text entry of a payload; an entry that is null counts as absent. -/
def textOf (payload : List (String × Entry)) : Option Entry :=
  match Assoc.find? (· == ·) plainTextMedia payload with
  | some (.host .null) => none
  | found => found

/-- The plain values of a payload. -/
def plainPayload : List (String × Entry) → Except PlainError (List (String × Host))
  | [] => .ok []
  | (media, entry) :: rest =>
    match entry.plain with
    | .error e => .error e
    | .ok h =>
      match plainPayload rest with
      | .error e => .error e
      | .ok hs => .ok ((media, h) :: hs)

/-- The plain value of a response: its status and what it carries. -/
def plain : Response → Except PlainError Host
  | .success payload =>
    match plainPayload payload with
    | .error e => .error e
    | .ok data => .ok (.object [("status", .string "ok"), ("data", .object data)])
  | .error kind name traceback =>
    .ok (.object [("status", .string "error"), ("kind", .string kind), ("name", .string name),
      ("traceback", .list (traceback.map .string))])
  | .incomplete => .ok (.object [("status", .string "incomplete")])
  | .aborted message =>
    .ok (.object [("status", .string "aborted"), ("message", .string message)])
  | .bare => .ok (.object [("status", .string "")])

/-- The response to a value that is to be shown as a table: mixed columns are
an error of the submission, a leaf without shape is a failure of the caller. -/
def ofTable (v : Structured) : Except String Response :=
  match Table.infer v with
  | .ok t => .ok (.success [(tableMedia, .table t)])
  | .error .mixed => .ok (.error "TypeError" "table rows have different types" [])
  | .error (.notStructured name) => .error name

end Response

end LiveSession
