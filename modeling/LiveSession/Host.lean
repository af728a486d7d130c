import LiveSession.Fault
import LiveSession.Host.Moment
import LiveSession.Number.Quantity

/-!
# Host values and structured values

A host value is what a name is bound to in an engine's environment. Values are
told apart as far as a session can tell: how they decompose, how they are
written, how they compare and add. A handle is a collection whose elements
live elsewhere; of these a sample can be taken, and otherwise it is an object
with attributes. An entity is a function, a type or anything else that is more
than data. Fields and attributes are named by plain texts, so a name is its own text.

A structured value is a tree of eight shapes: null, boolean, text, integer,
double, decimal, array and object. Two further leaves stand for what does not
belong to the closed set but can be found in a tree that was built by hand: a
shapeless value, and a host value in place of a structured one. Every
operation on a tree decides for itself what such a leaf means. A structured
value can in turn be bound as it is, so the two kinds are declared together.
-/

namespace LiveSession

/-- The kinds of value that are a run of elements. -/
inductive SequenceKind where
  | list
  | tuple
  | set
  | frozenSet
  /-- A list kept inside another object. -/
  | wrapped
  /-- A queue with two ends. -/
  | deque
  /-- A run of machine integers. -/
  | array
  deriving DecidableEq, Repr

/-- The kinds of value that map keys to values. -/
inductive MappingKind where
  /-- The ordinary mapping. -/
  | plain
  /-- A mapping with an order of its own. -/
  | ordered
  /-- A read-only view of a mapping. -/
  | view
  /-- A mapping kept inside another object. -/
  | wrapped
  /-- A mapping of the user's own making, which can list a key twice. -/
  | custom
  deriving DecidableEq, Repr

/-- The kinds of value with named fields. -/
inductive RecordKind where
  /-- A declared record: all its fields count. -/
  | declared
  /-- A validated model: all its fields count, and values inside it are
  flattened before they are decomposed. -/
  | model
  /-- An object with attributes: those that start with an underscore are
  private. -/
  | object
  /-- An object that is nothing but its attributes. -/
  | loose
  deriving DecidableEq, Repr

/-- The kinds of binary value. -/
inductive BinaryKind where
  | fixed
  | growable
  | view
  deriving DecidableEq, Repr

/-- The kinds of value that contain themselves. -/
inductive CycleKind where
  | list
  | mapping
  | object
  deriving DecidableEq, Repr

/-- What an entity is. -/
inductive EntityKind where
  | routine
  | type
  | module
  /-- It can be gone through, and there is nothing left in it. -/
  | iterator
  /-- It shows an empty mapping. -/
  | view (hashable : Bool)
  /-- An object that keeps all it has to itself. -/
  | shell
  /-- None of these. -/
  | thing (hashable : Bool)
  deriving DecidableEq, Repr

/-- How something can be called. -/
inductive Calling where
  | never
  /-- Without arguments only. -/
  | bare
  | withArguments
  deriving DecidableEq, Repr

/-- A value that is more than data. -/
structure Entity where
  kind : EntityKind
  calling : Calling := .never
  /-- The name of its type. -/
  typeName : String
  /-- The module that goes before the name of its type in some messages. -/
  package : String := ""
  /-- The name of a routine, a type or a module. -/
  name : String := ""
  /-- The form that shows what it is. -/
  shown : String
  /-- The form that is printed. -/
  printed : String := shown
  /-- Whether an integer in the form that shows it has too many digits to be written. -/
  oversized : Bool := false
  /-- Whether one in the form that is printed has. -/
  oversizedText : Bool := oversized
  deriving DecidableEq, Repr

mutual

/-- A tree of structured shapes, with the leaves that are none of them. -/
inductive Structured where
  | null
  | bool (value : Bool)
  | string (value : String)
  | int (value : Int)
  | double (value : Double)
  | decimal (value : Decimal)
  | array (items : List Structured)
  | object (fields : List (String × Structured))
  /-- A value of the common base, which has no shape. -/
  | shapeless
  /-- A host value in the place of a structured one. -/
  | foreign (value : Host)

/-- A value of an engine's environment. -/
inductive Host where
  | null
  | bool (value : Bool)
  | int (value : Int)
  | double (value : Double)
  | decimal (value : Decimal)
  /-- An exact ratio. -/
  | fraction (value : Rat)
  | complex (real imaginary : Double)
  | string (value : String)
  /-- A named text constant: compares as its text, is printed by its name. -/
  | label (name text : String)
  /-- A named integer constant: compares and is printed as its number. -/
  | numbered (name : String) (value : Int)
  /-- A named constant that is neither text nor number, with the number that it
  stands for. -/
  | constant (name : String) (value : Int)
  | moment (value : Moment)
  /-- A length of time. -/
  | duration (seconds : Int)
  | binary (kind : BinaryKind) (bytes : List Nat)
  /-- An arithmetic progression, its end excluded. -/
  | range (start stop step : Int)
  | sequence (kind : SequenceKind) (items : List Host)
  | mapping (kind : MappingKind) (entries : List (Host × Host))
  | record (kind : RecordKind) (fields : List (String × Host))
  /-- A model that consists of one value. -/
  | envelope (root : Host)
  /-- A collection whose elements live elsewhere, with its sampling; like any
  object it has attributes. -/
  | handle (take : Int → Except Fault Host) (attributes : List (String × Host))
  /-- A structured value that was bound as it is. -/
  | structured (value : Structured)
  /-- A value that contains itself. -/
  | cyclic (kind : CycleKind)
  | entity (value : Entity)

end

instance : Inhabited Structured := ⟨.null⟩

instance : Inhabited Host := ⟨.null⟩

namespace Host

/-- The ordinary list. -/
def list (items : List Host) : Host := .sequence .list items

/-- The ordinary mapping from text to values. -/
def object (fields : List (String × Host)) : Host :=
  .mapping .plain (fields.map fun f => (.string f.1, f.2))

/-- The number of terms of a progression. -/
def rangeLength (start stop step : Int) : Nat :=
  if 0 < step then ((stop - start + step - 1).fdiv step).toNat
  else if step < 0 then ((start - stop - step - 1).fdiv (-step)).toNat
  else 0

/-- The terms of a progression. -/
def rangeTerms (start stop step : Int) : List Int :=
  (List.range (rangeLength start stop step)).map fun (i : Nat) => start + (i : Int) * step

/-- The part of a constant's name before the point: the name of its type. -/
def constantType (name : String) : String :=
  String.ofList (name.toList.takeWhile (· != '.'))

end Host

/-- The name of the kind of value found in a place where one of the eight
shapes is required. -/
def Structured.shapeName : Structured → String
  | .null => "NullValue"
  | .bool _ => "BoolValue"
  | .string _ => "StringValue"
  | .int _ => "IntValue"
  | .double _ => "DoubleValue"
  | .decimal _ => "DecimalValue"
  | .array _ => "ArrayValue"
  | .object _ => "ObjectValue"
  | _ => "StructuredValue"

namespace Host

/-- The name of a value's type. -/
def typeName : Host → String
  | .null => "NoneType"
  | .bool _ => "bool"
  | .int _ => "int"
  | .double _ => "float"
  | .decimal _ => "Decimal"
  | .fraction _ => "Fraction"
  | .complex _ _ => "complex"
  | .string _ => "str"
  | .label name _ => constantType name
  | .numbered name _ => constantType name
  | .constant name _ => constantType name
  | .moment (.date _) => "date"
  | .moment (.time _) => "time"
  | .moment (.instant _ _) => "datetime"
  | .duration _ => "timedelta"
  | .binary .fixed _ => "bytes"
  | .binary .growable _ => "bytearray"
  | .binary .view _ => "memoryview"
  | .range _ _ _ => "range"
  | .sequence .list _ => "list"
  | .sequence .tuple _ => "tuple"
  | .sequence .set _ => "set"
  | .sequence .frozenSet _ => "frozenset"
  | .sequence .wrapped _ => "UserList"
  | .sequence .deque _ => "deque"
  | .sequence .array _ => "array"
  | .mapping .plain _ => "dict"
  | .mapping .ordered _ => "OrderedDict"
  | .mapping .view _ => "mappingproxy"
  | .mapping .wrapped _ => "UserDict"
  | .mapping .custom _ => "Mapping"
  | .record .loose _ => "SimpleNamespace"
  | .record .declared _ => "Data"
  | .record .model _ => "Model"
  | .record .object _ => "Plain"
  | .envelope _ => "RootModel"
  | .handle _ _ => "DistributedCollection"
  | .structured v => v.shapeName
  | .cyclic .list => "list"
  | .cyclic .mapping => "dict"
  | .cyclic .object => "object"
  | .entity o => o.typeName

/-- The module that a value's type is named with in messages about operands;
empty for most types. -/
def package : Host → String
  | .decimal _ => "decimal"
  | .moment _ => "datetime"
  | .duration _ => "datetime"
  | .sequence .deque _ => "collections"
  | .sequence .array _ => "array"
  | .mapping .ordered _ => "collections"
  | .record .loose _ => "types"
  | .entity o => o.package
  | _ => ""

/-- The name of a value's type with the module that goes before it. -/
def qualifiedTypeName (h : Host) : String :=
  if h.package.isEmpty then h.typeName else h.package ++ "." ++ h.typeName

/-- What is said where a value has no attribute of a name: of a type and a
module it is said with their own names. -/
def noAttribute (h : Host) (name : String) : String :=
  let owner := match h with
    | .entity o =>
      match o.kind with
      | .type => "type object '" ++ o.name ++ "'"
      | .module => "module '" ++ o.name ++ "'"
      | .routine =>
        if o.typeName = "method" then "'function' object"
        else "'" ++ h.qualifiedTypeName ++ "' object"
      | _ => "'" ++ h.qualifiedTypeName ++ "' object"
    | _ => "'" ++ h.qualifiedTypeName ++ "' object"
  owner ++ " has no attribute '" ++ name ++ "'"

end Host

/-- How a value can be called. -/
def Host.calling : Host → Calling
  | .entity o => o.calling
  | _ => .never

/-- The name of the type of a node: of a host value in place of a structured
one, the name of its own type. -/
def Structured.typeName : Structured → String
  | .foreign h => h.typeName
  | v => v.shapeName

end LiveSession
