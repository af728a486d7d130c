import LiveSession.Host.Elements
import LiveSession.Number.DecimalSum

/-!
# Sums of host values

Two runs of one kind are joined, and a wrapped list is joined with whatever can
be gone through. Two numbers are added, a boolean counting as one or zero; a
whole number joins a double as the nearest double and a decimal as it is. A
length of time moves a date. Whatever cannot be added is refused, mostly with
the two type names.
-/

namespace LiveSession

/-- Why two values have no sum. -/
inductive SumError where
  /-- The left value is a run, and the right one is not of its type. -/
  | notJoinable (left right : String)
  /-- The left value is a run of machine integers, and the right one is not. -/
  | notAppendable (right : String)
  /-- The left value is bytes, and the right one is not. -/
  | notBytes (left right : String)
  /-- A value of this type cannot be joined with a wrapped list. -/
  | notIterable (typeName : String)
  /-- The two types have no sum. -/
  | unsupported (left right : String)
  /-- The whole number is past the largest double. -/
  | tooLarge
  /-- The date is outside the calendar. -/
  | outOfCalendar
  /-- The two decimals have no sum. -/
  | decimal (signal : Decimal.Signal)
  deriving DecidableEq, Repr

namespace SumError

/-- The kind of error. -/
def label : SumError → String
  | .tooLarge => "OverflowError"
  | .outOfCalendar => "OverflowError"
  | .decimal signal => signal.name
  | _ => "TypeError"

/-- The wording of a refused sum. -/
def message : SumError → String
  | .notJoinable left right =>
    "can only concatenate " ++ left ++ " (not \"" ++ right ++ "\") to " ++ left
  | .notAppendable right => "can only append array (not \"" ++ right ++ "\") to array"
  | .notBytes left right => "can't concat " ++ right ++ " to " ++ left
  | .notIterable name => "'" ++ name ++ "' object is not iterable"
  | .unsupported left right =>
    "unsupported operand type(s) for +: '" ++ left ++ "' and '" ++ right ++ "'"
  | .tooLarge => "int too large to convert to float"
  | .outOfCalendar => "date value out of range"
  | .decimal signal => "[<class 'decimal." ++ signal.name ++ "'>]"

end SumError

/-- The bytes of a machine integer, lowest first. -/
def machineBytes (i : Int) : List Nat :=
  let n := (i % 0x100000000).toNat
  [n % 256, n / 256 % 256, n / 65536 % 256, n / 16777216 % 256]

namespace Host

/-- The nearest double of a whole number, if there is one. -/
def doubleOfInt? (i : Int) : Option Double :=
  let d := Double.nearest false i
  match d.numeral with
  | .finite _ _ _ => some d
  | _ => none

/-- The nearest double of a number that mixes with doubles; the inner option is
empty for a whole number past the largest double. -/
def double? : Host → Option (Option Double)
  | .double d => some (some d)
  | .fraction q => some (some (Double.nearest false q))
  | h => h.integer?.map doubleOfInt?

/-- A decimal or a whole number as a decimal. -/
def decimal? : Host → Option Decimal
  | .decimal d => some d
  | h => h.integer?.map Decimal.ofInt

/-- A ratio or a whole number as a ratio. -/
def ratio? : Host → Option Rat
  | .fraction q => some q
  | h => h.integer?.map fun i => (i : Rat)

/-- A number that mixes with complex ones, by its two parts. -/
def parts? : Host → Option (Option (Double × Double))
  | .complex a b => some (some (a, b))
  | h => h.double?.map fun d? => d?.map fun d => (d, ⟨"0.0"⟩)

/-- The sum of two numbers; `none` where they do not mix. -/
def addNumbers? (a b : Host) : Option (Except SumError Host) :=
  match a.integer?, b.integer? with
  | some x, some y => some (.ok (.int (x + y)))
  | _, _ =>
    match a.ratio?, b.ratio? with
    | some x, some y => some (.ok (.fraction (x + y)))
    | _, _ =>
      match a.decimal?, b.decimal? with
      | some x, some y => some (((x.add y).map .decimal).mapError .decimal)
      | _, _ =>
        match a.double?, b.double? with
        | some (some x), some (some y) => some (.ok (.double (x.add y)))
        | some _, some _ => some (.error .tooLarge)
        | _, _ =>
          match a.parts?, b.parts? with
          | some (some x), some (some y) => some (.ok (.complex (x.1.add y.1) (x.2.add y.2)))
          | some _, some _ => some (.error .tooLarge)
          | _, _ => none

/-- The sum of two lengths of time, or of one with a date; `none` where there
is none. -/
def addTimes? (a b : Host) : Option (Except SumError Host) :=
  let moved (m : Moment) (seconds : Int) : Option (Except SumError Host) :=
    match m with
    | .time _ => none
    | m =>
      match m.after? seconds with
      | some later => some (.ok (.moment later))
      | none => some (.error .outOfCalendar)
  match a, b with
  | .duration x, .duration y => some (.ok (.duration (x + y)))
  | .moment m, .duration x => moved m x
  | .duration x, .moment m => moved m x
  | _, _ => none

/-- The bytes that a value consists of in memory, if it gives them away. -/
def memory? : Host → Option (List Nat)
  | .binary _ bytes => some bytes
  | .sequence .array items => some (items.flatMap fun h => (h.integer?.map machineBytes).getD [])
  | _ => none

/-- Join a wrapped list with what another value yields. -/
def joinWrapped (join : List Host → List Host) (other : Host) : Except SumError Host :=
  match other.elements? with
  | some items => .ok (.sequence .wrapped (join items))
  | none => .error (.notIterable other.qualifiedTypeName)

/-- Join a run with a run of the same kind. -/
def concatenate (a b : Host) : Except SumError Host :=
  match a, b with
  | .sequence .list xs, .sequence .list ys => .ok (.sequence .list (xs ++ ys))
  | .sequence .tuple xs, .sequence .tuple ys => .ok (.sequence .tuple (xs ++ ys))
  | .sequence .deque xs, .sequence .deque ys => .ok (.sequence .deque (xs ++ ys))
  | .sequence .array xs, .sequence .array ys => .ok (.sequence .array (xs ++ ys))
  | .sequence .list _, .cyclic .list => .ok (.cyclic .list)
  | .cyclic .list, .sequence .list _ => .ok (.cyclic .list)
  | .cyclic .list, .cyclic .list => .ok (.cyclic .list)
  | .sequence .list _, _ => .error (.notJoinable "list" b.qualifiedTypeName)
  | .cyclic .list, _ => .error (.notJoinable "list" b.qualifiedTypeName)
  | .sequence .tuple _, _ => .error (.notJoinable "tuple" b.qualifiedTypeName)
  | .sequence .deque _, _ => .error (.notJoinable "deque" b.qualifiedTypeName)
  | .sequence .array _, _ => .error (.notAppendable b.qualifiedTypeName)
  | .binary .view _, _ => .error (.unsupported a.qualifiedTypeName b.qualifiedTypeName)
  | .binary kind xs, _ =>
    match b.memory? with
    | some ys => .ok (.binary kind (xs ++ ys))
    | none => .error (.notBytes a.qualifiedTypeName b.qualifiedTypeName)
  | _, _ =>
    match a.text?, b.text? with
    | some s, some t => .ok (.string (s ++ t))
    | some _, none => .error (.notJoinable "str" b.qualifiedTypeName)
    | none, _ => .error (.unsupported a.qualifiedTypeName b.qualifiedTypeName)

/-- The sum of two values. -/
def add (a b : Host) : Except SumError Host :=
  match a, b with
  | .sequence .wrapped xs, other => joinWrapped (xs ++ ·) other
  | other, .sequence .wrapped ys => joinWrapped (· ++ ys) other
  | a, b =>
    match addNumbers? a b with
    | some sum => sum
    | none =>
      match addTimes? a b with
      | some sum => sum
      | none => concatenate a b

end Host

end LiveSession
