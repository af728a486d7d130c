import LiveSession.Host.Flattened
import LiveSession.Structured

/-!
# Decomposition of host values

Decomposition turns a host value into a structured value. Sequences become
arrays and mappings become objects whose keys are the texts of the mapping's
keys; records become objects of their fields, plain objects and handles of their
public attributes. A model is decomposed as what it is flattened to.

The first defect in reading order is reported: a value without a structured
form where it stands, a key without a text before the value under it, a repeated
key after everything inside its mapping. A model that cannot be flattened is a
defect as a whole: a record of parts can be neither a member of a set nor a key,
and a fraction with too many digits has no text.

Values of any depth are gone through: no depth is too deep, and only a value that
contains itself has no end.
-/

namespace LiveSession

/-- Whether a run has no two equal members. -/
def SequenceKind.isSet : SequenceKind → Bool
  | .set => true
  | .frozenSet => true
  | _ => false

namespace Structured

/-- An object with these fields, unless a key is repeated. -/
def object? (fields : List (String × Structured)) : Except DecomposeError Structured :=
  if distinctKeys fields then .ok (.object fields) else .error .repeatedKey

/-- An object with the fields that there are these results for. A field without a value
is a defect before a repeated key. -/
def objectOf? (fields : List (String × Except DecomposeError Structured)) :
    Except DecomposeError Structured :=
  match fields.mapM fun f => f.2.map fun v => (f.1, v) with
  | .ok fs => object? fs
  | .error e => .error e

end Structured

namespace Host

/-- Whether an attribute is public. -/
def isPublic (name : String) : Bool :=
  name.toList.head? != some '_'

/-- The kinds of sequence that count as arrays. -/
def isArray : SequenceKind → Bool
  | .wrapped => false
  | .deque => false
  | .array => false
  | _ => true

/-- What comes of a value under a key: a key without a text is a defect before the
value. -/
def underKey {α : Type} (key : Host) (result : Except DecomposeError α) :
    Except DecomposeError α :=
  if key.oversizedText then .error .oversized else result

/-- The fields of a mapping, under the texts of its keys. Of the entries whose keys
flattening makes equal, the first key and the last value are left. -/
def keyTexts {α : Type} (flat : Bool) (entries : List (Host × Except DecomposeError α)) :
    List (String × Except DecomposeError α) :=
  let kept := if flat then
      Assoc.ofList same (entries.map fun e => (e.1.flattened, e.2))
    else entries
  kept.map fun e => (e.1.text, underKey e.1 e.2)

/-- What an entity decomposes to: one that keeps everything to itself is an
object without fields, any other has no structured form. -/
def decomposeEntity (flat : Bool) (o : Entity) : Except DecomposeError Structured :=
  match o.kind with
  | .shell => .ok (.object [])
  | .iterator => .error (.unsupported (if flat then flattenedIterator else o.typeName))
  | _ => .error (.unsupported o.typeName)

mutual

/-- Decompose a value; `flat` says that it stands inside a flattened model. -/
def decomposeIn (flat : Bool) : Host → Except DecomposeError Structured
  | .null => .ok .null
  | .bool b => .ok (.bool b)
  | .int i => .ok (.int i)
  | .numbered _ i => .ok (.int i)
  | .double d => .ok (.double d)
  | .decimal d => .ok (.decimal d)
  | .fraction q =>
    if flat then .ok (.string (fractionText q)) else .error (.unsupported (fraction q).typeName)
  | .complex a b => .error (.unsupported (complex a b).typeName)
  | .string s => .ok (.string s)
  | .label _ s => .ok (.string s)
  | .constant _ _ => .ok (.object [])
  | .moment m => .ok (.string m.iso)
  | .duration d => .error (.unsupported (duration d).typeName)
  | .binary _ _ => .error .binary
  | .range start stop step => .ok (.array ((rangeTerms start stop step).map .int))
  | .sequence .wrapped items =>
    match decomposeItems false items with
    | .ok vs => .ok (.object [("data", .array vs)])
    | .error e => .error e
  | .sequence kind items =>
    if isArray kind then
      match
        if flat && kind.isSet then decomposeMembers [] items else decomposeItems flat items
      with
      | .ok vs => .ok (.array vs)
      | .error e => .error e
    else .error (.unsupported (sequence kind items).typeName)
  | .mapping kind entries =>
    Structured.objectOf? (keyTexts (flat && kind.flattened)
      (decomposeEntries (flat && kind.flattened) entries))
  | .record .object attributes =>
    match decomposePublic attributes with
    | .ok fs => Structured.object? fs
    | .error e => .error e
  | .record .loose attributes =>
    match decomposePublic attributes with
    | .ok fs => Structured.object? fs
    | .error e => .error e
  | .record .declared fields =>
    match decomposeFields flat fields with
    | .ok fs => Structured.object? fs
    | .error e => .error e
  | .record .model fields =>
    match if flat then none else flattenDefectFields? fields with
    | some e => .error e
    | none =>
      match decomposeFields true fields with
      | .ok fs => Structured.object? fs
      | .error e => .error e
  | .envelope root =>
    match if flat then none else flattenDefect? root with
    | some e => .error e
    | none => decomposeIn true root
  | .handle _ attributes =>
    match decomposePublic attributes with
    | .ok fs => Structured.object? fs
    | .error e => .error e
  | .structured v => if flat then decomposeParts v else .ok v
  | .cyclic _ => .error .endless
  | .entity o => decomposeEntity flat o

/-- Decompose the elements of a sequence. -/
def decomposeItems (flat : Bool) : List Host → Except DecomposeError (List Structured)
  | [] => .ok []
  | h :: rest =>
    match decomposeIn flat h with
    | .error e => .error e
    | .ok v =>
      match decomposeItems flat rest with
      | .error e => .error e
      | .ok vs => .ok (v :: vs)

/-- Decompose the members of a flattened set, without those that flattening makes equal
to one seen before. -/
def decomposeMembers (seen : List Host) : List Host → Except DecomposeError (List Structured)
  | [] => .ok []
  | h :: rest =>
    if seen.any (same · h.flattened) then decomposeMembers seen rest
    else
      match decomposeIn true h with
      | .error e => .error e
      | .ok v =>
        match decomposeMembers (seen ++ [h.flattened]) rest with
        | .error e => .error e
        | .ok vs => .ok (v :: vs)

/-- Decompose the values of a mapping, each on its own. -/
def decomposeEntries (flat : Bool) :
    List (Host × Host) → List (Host × Except DecomposeError Structured)
  | [] => []
  | (k, h) :: rest => (k, decomposeIn flat h) :: decomposeEntries flat rest

/-- Decompose the fields of a record. -/
def decomposeFields (flat : Bool) :
    List (String × Host) → Except DecomposeError (List (String × Structured))
  | [] => .ok []
  | (k, h) :: rest =>
    match decomposeIn flat h with
    | .error e => .error e
    | .ok v =>
      match decomposeFields flat rest with
      | .error e => .error e
      | .ok fs => .ok ((k, v) :: fs)

/-- Decompose the public attributes of a plain object. -/
def decomposePublic : List (String × Host) → Except DecomposeError (List (String × Structured))
  | [] => .ok []
  | (k, h) :: rest =>
    if isPublic k then
      match decomposeIn false h with
      | .error e => .error e
      | .ok v =>
        match decomposePublic rest with
        | .error e => .error e
        | .ok fs => .ok ((k, v) :: fs)
    else decomposePublic rest

/-- Decompose the record of a structured value's own parts: a scalar has its
value, an array its items, an object its fields as pairs. -/
def decomposeParts : Structured → Except DecomposeError Structured
  | .null => .ok (.object [])
  | .array items =>
    match decomposePartItems items with
    | .ok vs => .ok (.object [("items", .array vs)])
    | .error e => .error e
  | .object fields =>
    match decomposePartFields fields with
    | .ok vs => .ok (.object [("fields", .array vs)])
    | .error e => .error e
  | .shapeless => .ok .shapeless
  | .foreign h => decomposeIn true h
  | scalar => .ok (.object [("value", scalar)])

/-- Decompose the parts of each item. -/
def decomposePartItems : List Structured → Except DecomposeError (List Structured)
  | [] => .ok []
  | v :: rest =>
    match decomposeParts v with
    | .error e => .error e
    | .ok u =>
      match decomposePartItems rest with
      | .error e => .error e
      | .ok us => .ok (u :: us)

/-- Decompose each field as a pair of its name and the parts of its value. -/
def decomposePartFields : List (String × Structured) → Except DecomposeError (List Structured)
  | [] => .ok []
  | (k, v) :: rest =>
    match decomposeParts v with
    | .error e => .error e
    | .ok u =>
      match decomposePartFields rest with
      | .error e => .error e
      | .ok us => .ok (.array [.string k, u] :: us)

end

/-- The structured value of a host value, or its first defect. -/
def decompose (h : Host) : Except DecomposeError Structured :=
  decomposeIn false h

end Host

end LiveSession
