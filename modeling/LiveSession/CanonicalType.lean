import LiveSession.Structured

/-!
# Canonical types

Each of the eight structured shapes has a canonical type. A container has one
only if all its members have, and all have the same: the check goes down to
the leaves, and there is no widening between the types of numbers. The first
defect in reading order is reported.
-/

namespace LiveSession

/-- The label of a structured shape in a table. -/
inductive CanonicalType where
  | null
  | boolean
  | string
  | bigint
  | double
  | decimal
  | array
  | map
  deriving DecidableEq, Repr

/-- The tag that is written for a canonical type. -/
def CanonicalType.tag : CanonicalType → String
  | .null => "NULL_TYPE"
  | .boolean => "BOOLEAN_TYPE"
  | .string => "STRING_TYPE"
  | .bigint => "BIGINT_TYPE"
  | .double => "DOUBLE_TYPE"
  | .decimal => "DECIMAL_TYPE"
  | .array => "ARRAY_TYPE"
  | .map => "MAP_TYPE"

/-- Why a value has no canonical type. -/
inductive TypeMismatch where
  /-- Two values that must share a canonical type do not. -/
  | mixed
  /-- A leaf has none of the eight shapes. -/
  | notStructured (typeName : String)
  deriving DecidableEq, Repr

/-- The wording of a mismatch. -/
def TypeMismatch.message : TypeMismatch → String
  | .mixed => ""
  | .notStructured name => "not a structured value: " ++ name

namespace Structured

mutual

/-- The canonical type of a value. -/
def classify : Structured → Except TypeMismatch CanonicalType
  | .null => .ok .null
  | .bool _ => .ok .boolean
  | .string _ => .ok .string
  | .int _ => .ok .bigint
  | .double _ => .ok .double
  | .decimal _ => .ok .decimal
  | .array items =>
    match sameTypeItems none items with
    | .ok () => .ok .array
    | .error e => .error e
  | .object fields =>
    match sameTypeFields none fields with
    | .ok () => .ok .map
    | .error e => .error e
  | .shapeless => .error (.notStructured "StructuredValue")
  | .foreign h => .error (.notStructured h.typeName)

/-- Check that all items have one canonical type, the expected one if there is
one already. -/
def sameTypeItems (expected : Option CanonicalType) : List Structured → Except TypeMismatch Unit
  | [] => .ok ()
  | v :: rest =>
    match classify v with
    | .error e => .error e
    | .ok t =>
      match expected with
      | none => sameTypeItems (some t) rest
      | some t' => if t = t' then sameTypeItems expected rest else .error .mixed

/-- Check that all field values have one canonical type. -/
def sameTypeFields (expected : Option CanonicalType) :
    List (String × Structured) → Except TypeMismatch Unit
  | [] => .ok ()
  | (_, v) :: rest =>
    match classify v with
    | .error e => .error e
    | .ok t =>
      match expected with
      | none => sameTypeFields (some t) rest
      | some t' => if t = t' then sameTypeFields expected rest else .error .mixed

end

end Structured

end LiveSession
