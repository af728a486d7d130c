import LiveSession.Host
import LiveSession.Text.Quoted

/-!
# Tagged form of host values

The tagged form is a JSON value in which every number is a text under the name
of its type, a mapping is a list of pairs under a tag, and a value of any
other kind is the name of its type under a tag. Only the keys of a mapping are
plain JSON values; there is no form of a mapping with a key that is none. A
value that contains itself has no end. The form is written in ASCII, with a
blank after every comma and colon.
-/

namespace LiveSession

/-- A JSON value; a number is held by its text. -/
inductive Tagged where
  | null
  | bool (value : Bool)
  | number (text : String)
  | string (value : String)
  | array (items : List Tagged)
  | object (members : List (String × Tagged))
  deriving Repr, Inhabited

namespace Tagged

/-- A value under a tag. -/
def tag (name : String) (value : Tagged) : Tagged := .object [(name, value)]

/-- A text under a tag. -/
def tagText (name text : String) : Tagged := tag name (.string text)

/-- A sixteen-bit unit as an escape. -/
def escapeUnit (n : Nat) : List Char :=
  '\\' :: 'u' :: Text.hexadecimal 4 n

/-- One character inside a JSON text. -/
def escapeChar (c : Char) : List Char :=
  let n := c.toNat
  if c = '"' || c = '\\' then ['\\', c]
  else if c = '\n' then ['\\', 'n']
  else if c = '\r' then ['\\', 'r']
  else if c = '\t' then ['\\', 't']
  else if n = 0x08 then ['\\', 'b']
  else if n = 0x0C then ['\\', 'f']
  else if 0x20 ≤ n && n < 0x7F then [c]
  else if n < 0x10000 then escapeUnit n
  else
    let m := n - 0x10000
    escapeUnit (0xD800 + m / 0x400) ++ escapeUnit (0xDC00 + m % 0x400)

/-- A JSON text in ASCII. -/
def quoteText (s : String) : String :=
  String.ofList ('"' :: s.toList.flatMap escapeChar ++ ['"'])

mutual

/-- The written form of a tagged value. -/
def write : Tagged → String
  | .null => "null"
  | .bool b => if b then "true" else "false"
  | .number t => t
  | .string s => quoteText s
  | .array items => "[" ++ String.intercalate ", " (writeItems items) ++ "]"
  | .object members => "\x7b" ++ String.intercalate ", " (writeMembers members) ++ "\x7d"

/-- The written forms of the items of an array. -/
def writeItems : List Tagged → List String
  | [] => []
  | v :: rest => write v :: writeItems rest

/-- The written forms of the members of an object. -/
def writeMembers : List (String × Tagged) → List String
  | [] => []
  | (k, v) :: rest => (quoteText k ++ ": " ++ write v) :: writeMembers rest

end

end Tagged

/-- Why a value has no tagged form. -/
inductive TagError where
  /-- The value contains itself. -/
  | endless
  /-- A key of this type is no JSON value. -/
  | unwritable (typeName : String)
  /-- An integer has too many digits. -/
  | oversized
  deriving DecidableEq, Repr

namespace TagError

/-- The kind of error. -/
def label : TagError → String
  | .endless => "RecursionError"
  | .unwritable _ => "TypeError"
  | .oversized => "ValueError"

/-- The wording of a missing tagged form. -/
def message : TagError → String
  | .endless => "maximum recursion depth exceeded"
  | .unwritable name => "Object of type " ++ name ++ " is not JSON serializable"
  | .oversized => Text.beyondDigitLimit ""

end TagError

namespace Host

/-- The digits of an integer that has not too many of them. -/
def writtenInteger (i : Int) : Except TagError String :=
  if Text.isBeyondDigitLimit i then .error .oversized else .ok (Text.integerText i)

/-- The text of a number as JSON. -/
def jsonNumber (d : Double) : String :=
  match d.text with
  | "nan" => "NaN"
  | "inf" => "Infinity"
  | "-inf" => "-Infinity"
  | t => t

mutual

/-- Whether the tagged form would have no end. -/
def isEndless : Host → Bool
  | .cyclic .list => true
  | .cyclic .mapping => true
  | .sequence .list items => isEndlessItems items
  | .sequence .tuple items => isEndlessItems items
  | .mapping .plain entries => isEndlessEntries entries
  | .mapping .ordered entries => isEndlessEntries entries
  | _ => false

/-- Whether the form of some element would have no end. -/
def isEndlessItems : List Host → Bool
  | [] => false
  | h :: rest => isEndless h || isEndlessItems rest

/-- Whether the form of the value of some entry would have no end. -/
def isEndlessEntries : List (Host × Host) → Bool
  | [] => false
  | (_, v) :: rest => isEndless v || isEndlessEntries rest

end

mutual

/-- A key as a plain JSON value. -/
def keyForm : Host → Except TagError Tagged
  | .null => .ok .null
  | .bool b => .ok (.bool b)
  | .int i => (writtenInteger i).map .number
  | .numbered _ i => (writtenInteger i).map .number
  | .double d => .ok (.number (jsonNumber d))
  | .string s => .ok (.string s)
  | .label _ s => .ok (.string s)
  | .sequence .tuple items => (keyForms items).map .array
  | h => .error (.unwritable h.typeName)

/-- The elements of a key as plain JSON values. -/
def keyForms : List Host → Except TagError (List Tagged)
  | [] => .ok []
  | h :: rest =>
    match keyForm h with
    | .error e => .error e
    | .ok t => (keyForms rest).map fun ts => t :: ts

end

mutual

/-- The tagged form of a value whose form has an end. -/
def finiteForm : Host → Except TagError Tagged
  | .null => .ok .null
  | .bool b => .ok (.bool b)
  | .int i => (writtenInteger i).map (.tagText "int")
  | .numbered _ i => (writtenInteger i).map (.tagText "int")
  | .double d => .ok (.tagText "float" d.text)
  | .decimal d => .ok (.tagText "decimal" d.text)
  | .string s => .ok (.string s)
  | .label _ s => .ok (.string s)
  | .sequence .list items => (finiteForms items).map .array
  | .sequence .tuple items => (finiteForms items).map .array
  | .mapping .plain entries => (entryForms entries).map fun es => .tag "object" (.array es)
  | .mapping .ordered entries => (entryForms entries).map fun es => .tag "object" (.array es)
  | h => .ok (.tagText "other" h.typeName)

/-- The tagged forms of a run of values. -/
def finiteForms : List Host → Except TagError (List Tagged)
  | [] => .ok []
  | h :: rest =>
    match finiteForm h with
    | .error e => .error e
    | .ok t => (finiteForms rest).map fun ts => t :: ts

/-- Keys and values as pairs. -/
def entryForms : List (Host × Host) → Except TagError (List Tagged)
  | [] => .ok []
  | (k, v) :: rest =>
    match keyForm k with
    | .error e => .error e
    | .ok key =>
      match finiteForm v with
      | .error e => .error e
      | .ok t => (entryForms rest).map fun ts => .array [key, t] :: ts

end

/-- The tagged form of a host value. -/
def tagged (h : Host) : Except TagError Tagged :=
  if h.isEndless then .error .endless else h.finiteForm

end Host

namespace Structured

mutual

/-- The tagged form of a structured value; a leaf without shape is tagged by
the name of its type. -/
def tagged : Structured → Tagged
  | .null => .null
  | .bool b => .bool b
  | .string s => .string s
  | .int i => .tagText "int" (Text.integerText i)
  | .double d => .tagText "float" d.text
  | .decimal d => .tagText "decimal" d.text
  | .array items => .array (taggedItems items)
  | .object fields => .tag "object" (.array (taggedFields fields))
  | .shapeless => .tagText "other" "StructuredValue"
  | .foreign h => .tagText "other" h.typeName

/-- The tagged forms of the items of an array. -/
def taggedItems : List Structured → List Tagged
  | [] => []
  | v :: rest => tagged v :: taggedItems rest

/-- The fields of an object as pairs. -/
def taggedFields : List (String × Structured) → List Tagged
  | [] => []
  | (k, v) :: rest => .array [.string k, tagged v] :: taggedFields rest

end

end Structured

end LiveSession
