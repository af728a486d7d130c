import LiveSession.Number.Numeral
import LiveSession.Number.Shortest

/-!
# Exact quantities of floating-point and decimal numbers

A binary floating-point number and a decimal number are held by their own
texts: the shortest text that reads back for the first, the digits as given
for the second, so that `1.50` and `1.5` stay apart. The quantity of a number
is the exact rational that it stands for; numbers of different kinds are
equal when their quantities are.
-/

namespace LiveSession

/-- A binary64 number, held by the shortest decimal text that reads back. -/
structure Double where
  /-- The shortest text, such as `1.5`, `1e+16`, `-0.0`, `inf` or `nan`. -/
  text : String
  deriving DecidableEq, Repr, Inhabited

/-- A decimal number, held by its own digits. -/
structure Decimal where
  /-- The digits as given, such as `1.50` or `1E+3`. -/
  text : String
  deriving DecidableEq, Repr, Inhabited

/-- The exact value of a number. -/
inductive Quantity where
  | finite (value : Rat)
  | infinite (negative : Bool)
  | undefined
  deriving DecidableEq

namespace Quantity

/-- Numeric equality: what is undefined equals nothing. -/
def same : Quantity → Quantity → Bool
  | .finite a, .finite b => a == b
  | .infinite a, .infinite b => a == b
  | _, _ => false

/-- The whole part, toward zero. -/
def truncate (q : Rat) : Int :=
  q.num.tdiv q.den

end Quantity

/-- A signed ratio. -/
def signedRatio (negative : Bool) (num den : Nat) : Rat :=
  let value : Rat := (num : Rat) / (den : Rat)
  if negative then -value else value

namespace Double

/-- The quantity of the nearest binary64 number. -/
def quantity (d : Double) : Quantity :=
  match Numeral.ofText d.text with
  | .finite negative digits exponent =>
    let r := Shortest.decimalRatio digits exponent
    match Binary.nearest? r.1 r.2 with
    | some (m, q) =>
      let exact := Binary.ratio m q
      .finite (signedRatio negative exact.1 exact.2)
    | none => .infinite negative
  | .infinite negative => .infinite negative
  | .undefined => .undefined

/-- The numeral of exactly the number that is held. -/
def numeral (d : Double) : Numeral :=
  match Numeral.ofText d.text with
  | .finite negative digits exponent =>
    let r := Shortest.decimalRatio digits exponent
    match Binary.nearest? r.1 r.2 with
    | some (m, .ofNat p) => .finite negative (m * Nat.pow 2 p) 0
    | some (m, .negSucc p) => .finite negative (m * Nat.pow 5 (p + 1)) (.negSucc p)
    | none => .infinite negative
  | other => other

/-- The number nearest to a rational; a zero takes the given sign. -/
def nearest (negativeZero : Bool) (q : Rat) : Double :=
  let negative := if q = 0 then negativeZero else decide (q < 0)
  ⟨Shortest.text negative q.num.natAbs q.den⟩

/-- The power of ten above which every number is infinite, and below whose
inverse every number is zero. -/
def widestPower : Nat := 400

/-- The number that a decimal text denotes. -/
def ofNumeral : Numeral → Double
  | .finite negative digits exponent =>
    let sign := if negative then "-" else ""
    let top := (Nat.toDigits 10 digits).length + exponent
    if digits = 0 || top < -(widestPower : Int) then ⟨sign ++ "0.0"⟩
    else if (widestPower : Int) < top then ⟨sign ++ "inf"⟩
    else
      let r := Shortest.decimalRatio digits exponent
      ⟨Shortest.text negative r.1 r.2⟩
  | .infinite negative => ⟨if negative then "-inf" else "inf"⟩
  | .undefined => ⟨"nan"⟩

/-- Whether the number is a zero of either sign. -/
def isZero (d : Double) : Bool :=
  d.text == "0.0" || d.text == "-0.0"

/-- Whether the text carries a minus sign. -/
def isNegative (d : Double) : Bool :=
  d.text.toList.head? == some '-'

/-- The sum, rounded to the nearest number. -/
def add (a b : Double) : Double :=
  match a.quantity, b.quantity with
  | .finite x, .finite y => nearest (a.isNegative && b.isNegative) (x + y)
  | .infinite x, .infinite y => if x == y then a else ⟨"nan"⟩
  | .infinite _, .finite _ => a
  | .finite _, .infinite _ => b
  | _, _ => ⟨"nan"⟩

end Double

namespace Decimal

/-- The numeral that the text denotes. -/
def numeral (d : Decimal) : Numeral := Numeral.ofText d.text

/-- Whether all digits are zeros. -/
def isZero (d : Decimal) : Bool :=
  match d.numeral with
  | .finite _ digits _ => digits == 0
  | _ => false

/-- Whether the number is the one that may not even be compared. -/
def isSignaling (d : Decimal) : Bool :=
  let cs := d.text.toList.map Char.toLower
  let unsigned := if cs.head? == some '-' then cs.drop 1 else cs
  unsigned.take 4 == ['s', 'n', 'a', 'n']

/-- A number of powers of ten that has no fraction, as a whole number. -/
def whole? (negative : Bool) (digits : Nat) (exponent : Int) : Option Int :=
  let signed (n : Nat) : Int := if negative then -(n : Int) else n
  match exponent with
  | .ofNat p => some (signed (digits * Nat.pow 10 p))
  | .negSucc p =>
    let zeros := ((Nat.toDigits 10 digits).reverse.takeWhile (· == '0')).length
    if digits = 0 then some 0
    else if p < zeros then some (signed (digits / Nat.pow 10 (p + 1)))
    else none

/-- The whole part, toward zero, of a number of powers of ten. -/
def wholePart (negative : Bool) (digits : Nat) (exponent : Int) : Int :=
  let size := match exponent with
    | .ofNat p => digits * Nat.pow 10 p
    | .negSucc p => if (Nat.toDigits 10 digits).length ≤ p then 0 else digits / Nat.pow 10 (p + 1)
  if negative then -(size : Int) else size

end Decimal

end LiveSession
