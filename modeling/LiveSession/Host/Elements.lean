import LiveSession.Host.Equal

/-!
# Elements and truth of host values

Going through a value yields characters for a text, numbers for bytes, keys
for a mapping, name and value pairs for a model, and nothing for an iterator
or a view of an empty mapping; a value of any other kind that is not a
sequence cannot be gone through. A value is false when it is null, zero or
empty.
-/

namespace LiveSession

/-- The elements of a value that contains itself; an object has none. -/
def CycleKind.elements? : CycleKind → Option (List Host)
  | .list => some [.int 1, .cyclic .list]
  | .mapping => some [.string "a", .string "self"]
  | .object => none

/-- Whether an entity can be gone through. There is nothing in it. -/
def EntityKind.isIterable : EntityKind → Bool
  | .iterator => true
  | .view _ => true
  | _ => false

namespace Host

/-- Name and value as a pair. -/
def pair (name : String) (value : Host) : Host :=
  .sequence .tuple [.string name, value]

/-- The elements of a value, in order; `none` where there is no going through
it. -/
def elements? : Host → Option (List Host)
  | .string s => some (s.toList.map fun c => .string (String.singleton c))
  | .label _ s => some (s.toList.map fun c => .string (String.singleton c))
  | .binary _ bytes => some (bytes.map fun (b : Nat) => .int (b : Int))
  | .range start stop step => some ((rangeTerms start stop step).map .int)
  | .sequence _ items => some items
  | .mapping _ entries => some (Assoc.keys entries)
  | .record .model fields => some (fields.map fun f => pair f.1 f.2)
  | .envelope root => some [pair "root" root]
  | .cyclic kind => kind.elements?
  | .entity o => if o.kind.isIterable then some [] else none
  | _ => none

/-- Whether a value counts as true. -/
def isTruthy : Host → Bool
  | .null => false
  | .bool b => b
  | .int i => i != 0
  | .numbered _ i => i != 0
  | .double d => !d.isZero
  | .decimal d => !d.isZero
  | .fraction q => q != 0
  | .complex a b => !(a.isZero && b.isZero)
  | .string s => !s.isEmpty
  | .label _ s => !s.isEmpty
  | .duration seconds => seconds != 0
  | .binary _ bytes => !bytes.isEmpty
  | .range start stop step => rangeLength start stop step != 0
  | .sequence _ items => !items.isEmpty
  | .mapping _ entries => !entries.isEmpty
  | .entity o =>
    match o.kind with
    | .view _ => false
    | _ => true
  | _ => true

/-- The value of a mapping at a text key; `none` where the key is absent. -/
def member? (name : String) (entries : List (Host × Host)) : Option Host :=
  Assoc.find? same (.string name) entries

end Host

end LiveSession
