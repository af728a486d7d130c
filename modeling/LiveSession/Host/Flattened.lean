import LiveSession.Host.Text

/-!
# Flattened models

A model is flattened before it is decomposed: it becomes the mapping of its fields.
Inside it, and down through sequences, ordinary mappings, records and further models,
every record becomes such a mapping, a structured value that was bound as it is the
mapping of its own parts, and a fraction its text; keys and members that are made equal
by this are joined. Anything else stays as it is, with what is in it.

A model with a member or a key that would become a mapping cannot be flattened, as a
mapping can be neither; and one with a fraction of too many digits cannot, as it has no
text.
-/

namespace LiveSession

/-- Why a host value has no structured form. -/
inductive DecomposeError where
  /-- Bytes have none. -/
  | binary
  /-- Values of this type have none. -/
  | unsupported (typeName : String)
  /-- Two keys of one mapping have the same text. -/
  | repeatedKey
  /-- The value contains itself. -/
  | endless
  /-- Flattening a model gives a member or a key that can be none. -/
  | unhashable
  /-- A key, or a fraction in a model, has an integer with too many digits for a text. -/
  | oversized
  deriving DecidableEq, Repr

/-- The wording of a decomposition error. -/
def DecomposeError.message : DecomposeError → String
  | .binary => "binary values cannot be decomposed"
  | .unsupported name => "cannot decompose " ++ name ++ " values"
  | .repeatedKey => "object keys must be unique"
  | .endless => "maximum recursion depth exceeded"
  | .unhashable => "unhashable type: 'dict'"
  | .oversized => Text.beyondDigitLimit ""

/-- Whether a model is flattened through mappings of this kind. -/
def MappingKind.flattened : MappingKind → Bool
  | .plain => true
  | .ordered => true
  | _ => false

/-- Whether flattening makes a record of parts of the value itself. -/
def Structured.hasParts : Structured → Bool
  | .shapeless => false
  | .foreign _ => false
  | _ => true

/-- The type of what flattening puts in the place of an iterator. -/
def flattenedIterator : String := "SerializationIterator"

/-- What flattening puts in the place of an entity. -/
def Entity.flattened (o : Entity) : Entity :=
  match o.kind with
  | .iterator => { o with typeName := flattenedIterator }
  | _ => o

namespace Host

/-- The defect of members or of a key, if they lose their hash. -/
def memberDefect? (lost : Bool) : Option DecomposeError :=
  if lost then some .unhashable else none

mutual

/-- Whether a value that can be a key becomes one that cannot when it is
flattened. -/
def losesHash : Host → Bool
  | .structured v => v.hasParts
  | .sequence .tuple items => losesHashItems items
  | _ => false

/-- Whether some element of a tuple does. -/
def losesHashItems : List Host → Bool
  | [] => false
  | h :: rest => losesHash h || losesHashItems rest

end

mutual

/-- Why a value cannot be flattened; `none` where it can. -/
def flattenDefect? : Host → Option DecomposeError
  | .fraction q => if oversized (.fraction q) then some .oversized else none
  | .sequence .list items => flattenDefectItems? items
  | .sequence .tuple items => flattenDefectItems? items
  | .sequence .set items => (flattenDefectItems? items).or (memberDefect? (losesHashItems items))
  | .sequence .frozenSet items =>
    (flattenDefectItems? items).or (memberDefect? (losesHashItems items))
  | .mapping kind entries => if kind.flattened then flattenDefectEntries? entries else none
  | .record .declared fields => flattenDefectFields? fields
  | .record .model fields => flattenDefectFields? fields
  | .envelope root => flattenDefect? root
  | .structured v => flattenDefectPart? v
  | _ => none

/-- The first defect among elements. -/
def flattenDefectItems? : List Host → Option DecomposeError
  | [] => none
  | h :: rest => (flattenDefect? h).or (flattenDefectItems? rest)

/-- The first defect among entries: a key becomes one after its value is there. -/
def flattenDefectEntries? : List (Host × Host) → Option DecomposeError
  | [] => none
  | (k, v) :: rest =>
    (((flattenDefect? k).or (flattenDefect? v)).or (memberDefect? (losesHash k))).or
      (flattenDefectEntries? rest)

/-- The first defect among the values of fields. -/
def flattenDefectFields? : List (String × Host) → Option DecomposeError
  | [] => none
  | (_, v) :: rest => (flattenDefect? v).or (flattenDefectFields? rest)

/-- Why a part of a structured value cannot be flattened. -/
def flattenDefectPart? : Structured → Option DecomposeError
  | .array items => flattenDefectParts? items
  | .object fields => flattenDefectPartFields? fields
  | .foreign h => flattenDefect? h
  | _ => none

/-- The first defect among the items of a structured array. -/
def flattenDefectParts? : List Structured → Option DecomposeError
  | [] => none
  | v :: rest => (flattenDefectPart? v).or (flattenDefectParts? rest)

/-- The first defect among the fields of a structured object. -/
def flattenDefectPartFields? : List (String × Structured) → Option DecomposeError
  | [] => none
  | (_, v) :: rest => (flattenDefectPart? v).or (flattenDefectPartFields? rest)

end

mutual

/-- What flattening puts in the place of a value: mappings in the place of records and
of structured values, texts in the place of fractions. -/
def flattened : Host → Host
  | .fraction q => .string (fractionText q)
  | .sequence .list items => .sequence .list (flattenedItems items)
  | .sequence .tuple items => .sequence .tuple (flattenedItems items)
  | .sequence .set items => setOf .set (flattenedItems items)
  | .sequence .frozenSet items => setOf .frozenSet (flattenedItems items)
  | .mapping kind entries =>
    if kind.flattened then mappingOf .plain (flattenedEntries entries) else .mapping kind entries
  | .record .declared fields => object (flattenedFields fields)
  | .record .model fields => object (flattenedFields fields)
  | .envelope root => flattened root
  | .structured v => flattenedParts v
  | .entity o => .entity o.flattened
  | h => h

/-- The elements of a run after flattening. -/
def flattenedItems : List Host → List Host
  | [] => []
  | h :: rest => flattened h :: flattenedItems rest

/-- The keys and the values of a mapping after flattening. -/
def flattenedEntries : List (Host × Host) → List (Host × Host)
  | [] => []
  | (k, v) :: rest => (flattened k, flattened v) :: flattenedEntries rest

/-- The fields of a record after flattening. -/
def flattenedFields : List (String × Host) → List (String × Host)
  | [] => []
  | (k, v) :: rest => (k, flattened v) :: flattenedFields rest

/-- The record of a structured value's own parts: a scalar has its value, an array its
items, an object its fields as pairs. -/
def flattenedParts : Structured → Host
  | .null => object []
  | .bool b => object [("value", .bool b)]
  | .string s => object [("value", .string s)]
  | .int i => object [("value", .int i)]
  | .double d => object [("value", .double d)]
  | .decimal d => object [("value", .decimal d)]
  | .array items => object [("items", .sequence .tuple (flattenedPartItems items))]
  | .object fields => object [("fields", .sequence .tuple (flattenedPartFields fields))]
  | .shapeless => .structured .shapeless
  | .foreign h => flattened h

/-- The records of the parts of items. -/
def flattenedPartItems : List Structured → List Host
  | [] => []
  | v :: rest => flattenedParts v :: flattenedPartItems rest

/-- The pairs of the names of fields and the records of the parts of their values. -/
def flattenedPartFields : List (String × Structured) → List Host
  | [] => []
  | (k, v) :: rest =>
    .sequence .tuple [.string k, flattenedParts v] :: flattenedPartFields rest

end

end Host

end LiveSession
