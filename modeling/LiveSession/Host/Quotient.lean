import LiveSession.Host.Sum

/-!
# Quotients and negatives of host values

Two whole numbers divide exactly before the result is rounded to the nearest
double; any other two numbers divide as doubles. A boolean counts as one or
zero. There is no quotient by zero, none of a whole number past the largest
double, and none of values that are not numbers.
-/

namespace LiveSession

namespace Double

/-- The number with the other sign. -/
def negate (d : Double) : Double :=
  if d.text == "nan" then d
  else
    match d.text.toList with
    | '-' :: cs => ⟨String.ofList cs⟩
    | cs => ⟨String.ofList ('-' :: cs)⟩

/-- The infinity or the zero of a sign. -/
def signed (negative : Bool) (text : String) : Double :=
  ⟨if negative then "-" ++ text else text⟩

/-- The quotient by a number that is not zero, rounded to the nearest number. -/
def divide (a b : Double) : Double :=
  let negative := a.isNegative != b.isNegative
  match a.quantity, b.quantity with
  | .finite x, .finite y => nearest negative (x / y)
  | .infinite _, .finite _ => signed negative "inf"
  | .finite _, .infinite _ => signed negative "0.0"
  | _, _ => ⟨"nan"⟩

end Double

/-- Why two values have no quotient. -/
inductive QuotientError where
  /-- The divisor is zero, among whole numbers or among doubles. -/
  | zeroDivisor (whole : Bool)
  /-- The quotient of two whole numbers is past the largest double. -/
  | tooLarge
  /-- A whole number beside a double is past the largest double. -/
  | operandTooLarge
  /-- The two types have no quotient. -/
  | unsupported (left right : String)
  deriving DecidableEq, Repr

namespace QuotientError

/-- The kind of error. -/
def label : QuotientError → String
  | .zeroDivisor _ => "ZeroDivisionError"
  | .tooLarge => "OverflowError"
  | .operandTooLarge => "OverflowError"
  | .unsupported _ _ => "TypeError"

/-- The wording of a refused quotient. -/
def message : QuotientError → String
  | .zeroDivisor true => "division by zero"
  | .zeroDivisor false => "float division by zero"
  | .tooLarge => "integer division result too large for a float"
  | .operandTooLarge => "int too large to convert to float"
  | .unsupported left right =>
    "unsupported operand type(s) for /: '" ++ left ++ "' and '" ++ right ++ "'"

end QuotientError

namespace Host

/-- The quotient of two whole numbers; a zero is negative where the signs
differ. -/
def wholeQuotient (x y : Int) : Except QuotientError Host :=
  if y = 0 then .error (.zeroDivisor true)
  else
    let q := Double.nearest (decide (x < 0) != decide (y < 0)) ((x : Rat) / (y : Rat))
    match q.quantity with
    | .finite _ => .ok (.double q)
    | _ => .error .tooLarge

/-- The quotient of two values. -/
def quotient (a b : Host) : Except QuotientError Host :=
  match a.integer?, b.integer? with
  | some x, some y => wholeQuotient x y
  | _, _ =>
    match a.double?, b.double? with
    | some (some x), some (some y) =>
      if y.isZero then .error (.zeroDivisor false) else .ok (.double (x.divide y))
    | some _, some _ => .error .operandTooLarge
    | _, _ => .error (.unsupported a.qualifiedTypeName b.qualifiedTypeName)

/-- The negative of a number. -/
def negative? (h : Host) : Option Host :=
  match h with
  | .double d => some (.double d.negate)
  | h => h.integer?.map fun i => .int (-i)

end Host

end LiveSession
