import LiveSession.Assoc
import LiveSession.CanonicalType
import LiveSession.Text.Digits

/-!
# Tables inferred from structured values

An array is read as a list of rows, any other value as a single row. A row
that is an array has the columns `0`, `1`, …; a row that is an object has its
keys; any other row has the one column `0`. A column takes the type of the
first cell that is seen for it, and a later cell of another type refuses the
whole table. The headers are in the order of their names, and a row that does
not carry a column has a null there, whatever the column's type.
-/

namespace LiveSession

/-- A column: its name and the type of its cells. -/
structure Header where
  name : String
  type : CanonicalType
  deriving DecidableEq, Repr

/-- A table: every row has one cell for each header. -/
structure Table where
  headers : List Header
  data : List (List Structured)

/-- The columns of an array row, numbered from the given position on. -/
def positionalColumns (position : Nat) : List Structured → List (String × Structured)
  | [] => []
  | v :: rest => (Text.decimalText position, v) :: positionalColumns (position + 1) rest

/-- Fields in the order of their keys. -/
def sortFields {β : Type} (fields : List (String × β)) : List (String × β) :=
  fields.mergeSort fun a b => decide (a.1 ≤ b.1)

namespace Structured

/-- The rows of a value. -/
def rows : Structured → List Structured
  | .array items => items
  | v => [v]

/-- The named cells of a row. -/
def rowColumns : Structured → List (String × Structured)
  | .array items => positionalColumns 0 items
  | .object fields => sortFields fields
  | v => [("0", v)]

/-- The cell of a row in a column, if the row carries it. -/
def cell? (name : String) (row : Structured) : Option Structured :=
  Assoc.find? (· == ·) name row.rowColumns

end Structured

namespace Table

/-- The types of the columns seen so far. -/
abbrev Registry := List (String × CanonicalType)

/-- Record one cell: a new column takes its type, a known one has to agree. -/
def register (registry : Registry) (name : String) (cell : Structured) :
    Except TypeMismatch Registry :=
  match cell.classify with
  | .error e => .error e
  | .ok t =>
    match Assoc.find? (· == ·) name registry with
    | none => .ok (registry ++ [(name, t)])
    | some t' => if t = t' then .ok registry else .error .mixed

/-- Record the cells of one row. -/
def registerRow (registry : Registry) : List (String × Structured) → Except TypeMismatch Registry
  | [] => .ok registry
  | (name, cell) :: rest =>
    match register registry name cell with
    | .error e => .error e
    | .ok registry' => registerRow registry' rest

/-- Record the cells of all rows. -/
def registerRows (registry : Registry) : List Structured → Except TypeMismatch Registry
  | [] => .ok registry
  | row :: rest =>
    match registerRow registry row.rowColumns with
    | .error e => .error e
    | .ok registry' => registerRows registry' rest

/-- The headers of the recorded columns, in the order of their names. -/
def headersOf (registry : Registry) : List Header :=
  (sortFields registry).map fun c => ⟨c.1, c.2⟩

/-- The cells of a row, one for each header; null where the row has none. -/
def alignRow (headers : List Header) (row : Structured) : List Structured :=
  let columns := row.rowColumns
  headers.map fun h => (Assoc.find? (· == ·) h.name columns).getD .null

/-- The table of a structured value, or the first mismatch. -/
def infer (v : Structured) : Except TypeMismatch Table :=
  match registerRows [] v.rows with
  | .error e => .error e
  | .ok registry =>
    let headers := headersOf registry
    .ok ⟨headers, v.rows.map (alignRow headers)⟩

end Table

end LiveSession
