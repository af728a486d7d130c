import LiveSession.Number.Quantity

/-!
# Sums of decimal numbers

The sum of two decimals has the smaller of the two exponents and is exact
unless it needs more than 28 digits; then it is rounded to 28, a tie to the
even digit. Below the smallest exponent digits are rounded away, and a sum past
the largest is refused, as is one without a meaning. A decimal is written
positionally where its exponent is not positive and no more than five zeros
follow the point, else with an exponent.
-/

namespace LiveSession.Decimal

/-- Why two decimals have no sum. -/
inductive Signal where
  /-- There is no such number. -/
  | invalid
  /-- The number is past the largest. -/
  | overflow
  deriving DecidableEq, Repr

/-- The name of a signal. -/
def Signal.name : Signal → String
  | .invalid => "InvalidOperation"
  | .overflow => "Overflow"

/-- The largest exponent of a first digit, and the least but for the sign. -/
def exponentBound : Int := 999999

/-- The digits that a sum keeps. -/
def precision : Nat := 28

/-- The count of decimal digits of a number. -/
def digitCount (n : Nat) : Nat := (Nat.toDigits 10 n).length

/-- Round a number of powers of ten to the kept digits. -/
def rounded (digits : Nat) (exponent : Int) : Nat × Int :=
  let surplus := digitCount digits - precision
  let kept := if surplus = 0 then digits else Binary.divideToNearest digits (Nat.pow 10 surplus)
  if kept = Nat.pow 10 precision then (Nat.pow 10 (precision - 1), exponent + surplus + 1)
  else (kept, exponent + surplus)

/-- The characters of a number of powers of ten. -/
def characters (ds : List Char) (exponent : Int) : List Char :=
  let point := (ds.length : Int) + exponent
  if exponent ≤ 0 && -6 < point then
    if exponent = 0 then ds
    else if point ≤ 0 then '0' :: '.' :: (List.replicate (-point).toNat '0' ++ ds)
    else ds.take point.toNat ++ '.' :: ds.drop point.toNat
  else
    let body := match ds with
      | d :: more => if more.isEmpty then [d] else d :: '.' :: more
      | [] => ['0']
    let power := point - 1
    body ++ 'E' :: (if power < 0 then '-' else '+') :: Nat.toDigits 10 power.natAbs

/-- The decimal that is a signed number of powers of ten. -/
def ofParts (negative : Bool) (digits : Nat) (exponent : Int) : Decimal :=
  let cs := characters (Nat.toDigits 10 digits) exponent
  ⟨String.ofList (if negative then '-' :: cs else cs)⟩

/-- A whole number as a decimal. -/
def ofInt (i : Int) : Decimal :=
  ofParts (decide (i < 0)) i.natAbs 0

/-- The signed value of a sign and digits. -/
def signedDigits (negative : Bool) (digits : Nat) : Int :=
  if negative then -(digits : Int) else digits

/-- A number that is too small to show in a sum with another one is replaced by
a single unit below the digits of that one. -/
def nudged (digits : Nat) (exponent : Int) (other : Nat) (exponent' : Int) : Nat × Int :=
  let floor := exponent + min (-1) ((digitCount digits : Int) - precision - 2)
  if other ≠ 0 && (digitCount other : Int) + exponent' - 1 < floor then (1, floor)
  else (other, exponent')

/-- The least exponent of a last digit. -/
def leastExponent : Int := -exponentBound - (precision - 1 : Nat)

/-- Round a number of powers of ten to the kept digits and exponents. -/
def settle (negative : Bool) (digits : Nat) (exponent : Int) : Except Signal Decimal :=
  let top (ds : Nat) (e : Int) : Int := e + digitCount ds - 1
  if digits = 0 then
    .ok (ofParts negative 0 (min (max exponent leastExponent) exponentBound))
  else if exponentBound < top digits exponent then .error .overflow
  else if exponent < leastExponent && top digits exponent < -exponentBound then
    let places := (leastExponent - exponent).toNat
    -- more places than digits leave nothing but a zero
    let kept := if digitCount digits < places then 0
      else Binary.divideToNearest digits (Nat.pow 10 places)
    .ok (ofParts negative kept leastExponent)
  else
    let kept := rounded digits exponent
    if exponentBound < top kept.1 kept.2 then .error .overflow
    else .ok (ofParts negative kept.1 kept.2)

/-- The sum of two numbers of powers of ten. -/
def addFinite (negative : Bool) (digits : Nat) (exponent : Int) (negative' : Bool) (digits' : Nat)
    (exponent' : Int) : Except Signal Decimal :=
  let right := if digits ≠ 0 && exponent' < exponent then nudged digits exponent digits' exponent'
    else (digits', exponent')
  let left := if digits' ≠ 0 && exponent < exponent' then nudged digits' exponent' digits exponent
    else (digits, exponent)
  let low := min left.2 right.2
  let scaled (part : Nat × Int) : Nat :=
    if part.1 = 0 then 0 else part.1 * Nat.pow 10 (part.2 - low).toNat
  let total := signedDigits negative (scaled left) + signedDigits negative' (scaled right)
  settle (if total = 0 then negative && negative' else decide (total < 0)) total.natAbs low

/-- What is no number keeps its sign and the last of the digits that tell it
from others, as many as a sum keeps; zeros in front of them are dropped. -/
def keepLabel (d : Decimal) : Decimal :=
  let cs := d.text.toList
  let name := cs.takeWhile (!·.isDigit)
  let digits := cs.drop name.length
  ⟨String.ofList (name ++ (digits.drop (digits.length - precision)).dropWhile (· == '0'))⟩

/-- The sum of two decimals. What is no number stays so, unless it may not be
computed with, and an infinity absorbs all but the other one. -/
def add (a b : Decimal) : Except Signal Decimal :=
  if a.isSignaling || b.isSignaling then .error .invalid
  else
    match a.numeral, b.numeral with
    | .finite n c e, .finite n' c' e' => addFinite n c e n' c' e'
    | .undefined, _ => .ok a.keepLabel
    | _, .undefined => .ok b.keepLabel
    | .infinite n, .infinite n' => if n = n' then .ok a else .error .invalid
    | .infinite _, _ => .ok a
    | _, .infinite _ => .ok b

end LiveSession.Decimal
