import LiveSession.Number.Binary
import LiveSession.Text.Digits

/-!
# The shortest decimal text of a binary floating-point number

Of all decimals that round to a given binary64 number, the shortest has the
fewest digits, and among those of that length it is the nearest one. The
search runs through the lengths 1 to 17; for each it tries the two neighbours
of the number on the grid of that many digits.
-/

namespace LiveSession.Shortest

/-- The ratio `c * 10 ^ e`. -/
def decimalRatio (c : Nat) (e : Int) : Nat × Nat :=
  match e with
  | .ofNat p => (c * Nat.pow 10 p, 1)
  | .negSucc p => (c, Nat.pow 10 (p + 1))

/-- The count of places by which a ratio below one is moved to reach one. -/
def placesBelowOne (num den : Nat) : Nat → Nat
  | 0 => 0
  | fuel + 1 => if den ≤ num then 0 else placesBelowOne (num * 10) den fuel + 1

/-- The `k` with `10 ^ (k - 1) ≤ num / den < 10 ^ k`. -/
def magnitude (num den : Nat) : Int :=
  if den ≤ num then ((Nat.toDigits 10 (num / den)).length : Int)
  else 1 - (placesBelowOne num den 400 : Int)

/-- Whether the decimal `c * 10 ^ e` rounds to the given number. -/
def readsBack (target : Option (Nat × Int)) (c : Nat) (e : Int) : Bool :=
  let r := decimalRatio c e
  decide (Binary.nearest? r.1 r.2 = target)

/-- The best decimal of exactly the given length, as digits and power of ten. -/
def ofLength? (num den : Nat) (target : Option (Nat × Int)) (k : Int) (length : Nat) :
    Option (Nat × Int) :=
  let e := k - length
  let unit := decimalRatio 1 e
  let top := num * unit.2
  let bottom := den * unit.1
  let low := top / bottom
  let twice := 2 * (top % bottom)
  let lowFits := readsBack target low e
  let highFits := readsBack target (low + 1) e
  if lowFits && highFits then
    if twice < bottom || (twice = bottom && low % 2 = 0) then some (low, e) else some (low + 1, e)
  else if lowFits then some (low, e)
  else if highFits then some (low + 1, e)
  else none

/-- The shortest decimal for a positive ratio's nearest binary64 number. -/
def digits? (num den : Nat) : Option (Nat × Int) :=
  match Binary.nearest? num den with
  | none => none
  | some (m, q) =>
    let r := Binary.ratio m q
    let k := magnitude r.1 r.2
    (List.range 17).findSome? fun n => ofLength? r.1 r.2 (some (m, q)) k (n + 1)

/-- Digits without the zeros at their end, and the power of ten adjusted. -/
def dropZeros (ds : List Char) (e : Int) : List Char × Int :=
  let kept := (ds.reverse.dropWhile (· == '0')).reverse
  (kept, e + ((ds.length : Int) - (kept.length : Int)))

/-- Write digits and a power of ten: positional where the decimal point falls
between the fourth place after it and the sixteenth before it, else with an
exponent of two digits or more. -/
def write (ds : List Char) (e : Int) : List Char :=
  let point := (ds.length : Int) + e
  if -4 < point && point ≤ 16 then
    if point ≤ 0 then '0' :: '.' :: (List.replicate (-point).toNat '0' ++ ds)
    else if (ds.length : Int) ≤ point then
      ds ++ List.replicate (point - ds.length).toNat '0' ++ ['.', '0']
    else ds.take point.toNat ++ '.' :: ds.drop point.toNat
  else
    let power := point - 1
    let size := Nat.toDigits 10 power.natAbs
    let body := match ds with
      | d :: more => if more.isEmpty then [d] else d :: '.' :: more
      | [] => ['0']
    body ++ 'e' :: (if power < 0 then '-' else '+') ::
      (List.replicate (2 - size.length) '0' ++ size)

/-- The text of the binary64 number nearest to a signed ratio. -/
def text (negative : Bool) (num den : Nat) : String :=
  let sign := if negative then "-" else ""
  if Binary.roundsToZero num den then sign ++ "0.0"
  else
    match digits? num den with
    | none => sign ++ "inf"
    | some (c, e) =>
      let d := dropZeros (Nat.toDigits 10 c) e
      sign ++ String.ofList (write d.1 d.2)

end LiveSession.Shortest
