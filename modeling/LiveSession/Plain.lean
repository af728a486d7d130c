import LiveSession.Host.Call
import LiveSession.Table

/-!
# Plain values

The plain value of a structured value or a table is what a client receives:
host scalars, lists and mappings from text, with no structured value left in
it. A shapeless or a foreign leaf has no plain value.
-/

namespace LiveSession

/-- Why there is no plain value. -/
inductive PlainError where
  /-- A leaf without shape. -/
  | shapeless
  /-- A host value in the place of a structured one, with what is said of it. -/
  | foreign (missing : String)
  deriving DecidableEq, Repr

/-- The wording of a missing plain value. -/
def PlainError.message : PlainError → String
  | .shapeless => ""
  | .foreign missing => missing

/-- The name of the attribute by which a value says what its plain value is. -/
def plainAttribute : String := "to_json"

/-- The plain value that a host value has by its own account: a call of the
attribute for that gives it. -/
def Host.accountedPlain? (h : Host) : Option Host :=
  (h.attribute? plainAttribute).bind Host.made?

namespace Structured

mutual

/-- The plain value of a structured value, or its first leaf without one. -/
def plain : Structured → Except PlainError Host
  | .null => .ok .null
  | .bool b => .ok (.bool b)
  | .string s => .ok (.string s)
  | .int i => .ok (.int i)
  | .double d => .ok (.double d)
  | .decimal d => .ok (.decimal d)
  | .array items =>
    match plainItems items with
    | .ok hs => .ok (.list hs)
    | .error e => .error e
  | .object fields =>
    match plainFields fields with
    | .ok hs => .ok (.object hs)
    | .error e => .error e
  | .shapeless => .error .shapeless
  | .foreign h =>
    match h.accountedPlain? with
    | some account => .ok account
    | none => .error (.foreign (h.noAttribute plainAttribute))

/-- The plain values of the items of an array. -/
def plainItems : List Structured → Except PlainError (List Host)
  | [] => .ok []
  | v :: rest =>
    match plain v with
    | .error e => .error e
    | .ok h =>
      match plainItems rest with
      | .error e => .error e
      | .ok hs => .ok (h :: hs)

/-- The plain values of the fields of an object. -/
def plainFields : List (String × Structured) → Except PlainError (List (String × Host))
  | [] => .ok []
  | (k, v) :: rest =>
    match plain v with
    | .error e => .error e
    | .ok h =>
      match plainFields rest with
      | .error e => .error e
      | .ok hs => .ok ((k, h) :: hs)

end

end Structured

/-- The plain value of a header. -/
def Header.plain (h : Header) : Host :=
  .object [("name", .string h.name), ("type", .string h.type.tag)]

namespace Table

/-- The plain values of the rows. -/
def plainRows : List (List Structured) → Except PlainError (List Host)
  | [] => .ok []
  | row :: rest =>
    match Structured.plainItems row with
    | .error e => .error e
    | .ok cells =>
      match plainRows rest with
      | .error e => .error e
      | .ok hs => .ok (.list cells :: hs)

/-- The plain value of a table: its headers and its data. -/
def plain (t : Table) : Except PlainError Host :=
  match plainRows t.data with
  | .error e => .error e
  | .ok rows =>
    .ok (.object [("headers", .list (t.headers.map Header.plain)), ("data", .list rows)])

end Table

end LiveSession
