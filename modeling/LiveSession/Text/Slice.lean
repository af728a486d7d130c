/-!
# The first elements of a sequence

A bound that counts from the start takes that many elements; a negative bound
leaves out as many elements at the end. Either is cut to the length.
-/

namespace LiveSession

/-- The elements before a bound. -/
def takeUpTo {α : Type} (bound : Int) (xs : List α) : List α :=
  match bound with
  | .ofNat n => xs.take n
  | .negSucc n => xs.take (xs.length - (n + 1))

end LiveSession
