/-!
# The nearest binary floating-point number

Binary64 numbers are `m * 2 ^ q` with `m < 2 ^ 53` and `q` at least `-1074`.
A positive ratio of natural numbers rounds to the nearest of them, a tie to
the even `m`, and to nothing when the result would reach `2 ^ 1024`.
-/

namespace LiveSession.Binary

/-- Divide and round to the nearest whole number, a tie to the even one. -/
def divideToNearest (num den : Nat) : Nat :=
  let low := num / den
  let twice := 2 * (num % den)
  if twice < den then low
  else if den < twice then low + 1
  else if low % 2 = 0 then low else low + 1

/-- A ratio with a power of two multiplied in. -/
def scale (num den : Nat) (power : Int) : Nat × Nat :=
  match power with
  | .ofNat p => (num * Nat.pow 2 p, den)
  | .negSucc p => (num, den * Nat.pow 2 (p + 1))

/-- The whole part of the binary logarithm of a positive ratio. -/
def logarithm (num den : Nat) : Int :=
  let guess : Int := (Nat.log2 num : Int) - (Nat.log2 den : Int)
  let scaled := scale num den (-guess)
  if scaled.2 ≤ scaled.1 then guess else guess - 1

/-- The `m` and `q` of the nearest binary64 number; `none` past the largest. -/
def nearest? (num den : Nat) : Option (Nat × Int) :=
  if num = 0 then some (0, 0)
  else
    let q := max (logarithm num den - 52) (-1074)
    let scaled := scale num den (-q)
    let m := divideToNearest scaled.1 scaled.2
    let result := if m = Nat.pow 2 53 then (Nat.pow 2 52, q + 1) else (m, q)
    if 971 < result.2 then none else some result

/-- Whether a ratio is nearer to zero than to any other number. -/
def roundsToZero (num den : Nat) : Bool :=
  match nearest? num den with
  | some (m, _) => m == 0
  | none => false

/-- The ratio that `m * 2 ^ q` is. -/
def ratio (m : Nat) (q : Int) : Nat × Nat :=
  scale m 1 q

end LiveSession.Binary
