import LiveSession.Text.Digits

/-!
# Numerals

A numeral is what the text of a number says: a sign, digits and a power of
ten, or one of the values that are not finite.
-/

namespace LiveSession

/-- The meaning of a number's text. -/
inductive Numeral where
  /-- A signed whole number of powers of ten. -/
  | finite (negative : Bool) (digits : Nat) (exponent : Int)
  /-- Either infinity. -/
  | infinite (negative : Bool)
  /-- No number. -/
  | undefined
  deriving DecidableEq, Repr

namespace Numeral

/-- Digits before and after a decimal point, with the count of those after it. -/
def mantissa? (cs : List Char) : Option (Nat × Nat) :=
  let whole := cs.takeWhile fun c => c.isDigit || c == '_'
  let rest := cs.dropWhile fun c => c.isDigit || c == '_'
  let read (ds : List Char) : Option Nat :=
    if ds.isEmpty then some 0 else Text.natural? Text.asciiDigit? ds
  match rest with
  | [] => if whole.isEmpty then none else (read whole).map fun n => (n, 0)
  | c :: part =>
    if c != '.' || (whole.isEmpty && part.isEmpty) then none
    else
      let places := (part.filter Char.isDigit).length
      (read whole).bind fun w =>
        (read part).map fun p => (w * Nat.pow 10 places + p, places)

/-- Read an unsigned finite numeral: a mantissa and perhaps an exponent. -/
def unsigned? (negative : Bool) (cs : List Char) : Option Numeral :=
  let isMark := fun c : Char => c == 'e' || c == 'E'
  let head := cs.takeWhile (!isMark ·)
  match cs.dropWhile (!isMark ·) with
  | [] => (mantissa? head).map fun m => .finite negative m.1 (-(m.2 : Int))
  | _ :: power =>
    (mantissa? head).bind fun m =>
      (Text.integer? Text.asciiDigit? power).map fun e => .finite negative m.1 (e - m.2)

/-- Read the text of a number. Anything else, and any text for "no number",
is undefined. -/
def ofText (s : String) : Numeral :=
  let body (negative : Bool) (cs : List Char) : Numeral :=
    match String.ofList (cs.map Char.toLower) with
    | "inf" | "infinity" => .infinite negative
    | _ => (unsigned? negative cs).getD .undefined
  match s.toList with
  | '-' :: cs => body true cs
  | '+' :: cs => body false cs
  | cs => body false cs

/-- Digits without the zeros at their end, which go into the power of ten. -/
def reduced (digits : Nat) (exponent : Int) : Nat × Int :=
  let kept := (Nat.toDigits 10 digits).reverse.dropWhile (· == '0')
  let zeros := (Nat.toDigits 10 digits).length - kept.length
  (digits / Nat.pow 10 zeros, exponent + zeros)

/-- Whether two numerals stand for the same number; what is no number stands
for none. -/
def coincide : Numeral → Numeral → Bool
  | .finite n d e, .finite n' d' e' =>
    if d = 0 || d' = 0 then d == d' else n == n' && reduced d e == reduced d' e'
  | .infinite n, .infinite n' => n == n'
  | _, _ => false

/-- The numeral of a whole number. -/
def ofInt (i : Int) : Numeral :=
  .finite (decide (i < 0)) i.natAbs 0

end Numeral

end LiveSession
