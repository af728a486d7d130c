import LiveSession.Number.Quantity
import LiveSession.Script.Defect

/-!
# Numerals of a script

A numeral is a whole number in one of four bases, or a decimal one with a
point, an exponent or the mark of an imaginary number. Single underscores can
stand between digits. What follows a numeral must not be part of a word, unless
it opens one of the words that can follow a number. A numeral that goes wrong
does so at the last character that was read of it.
-/

namespace LiveSession.Script

/-- A number that is written as a numeral. -/
inductive Numeric where
  /-- A whole number that is written with this many digits. -/
  | whole (value digits : Nat)
  | fractional (value : Double)
  | imaginary (value : Double)
  deriving DecidableEq, Repr

/-- A numeral that goes wrong, and up to which character. -/
structure NumeralDefect where
  defect : Defect
  /-- The characters up to the one where it goes wrong. -/
  length : Nat
  /-- How many characters at the start are wrong; none where it is the last one
  alone. -/
  width : Nat := 0
  deriving DecidableEq, Repr

/-- A number and the length of its numeral. -/
abbrev ReadNumeral := Except NumeralDefect (Numeric × Nat)

namespace Numeral

/-- Whether a character can be part of a word. -/
def isWordPart (c : Char) : Bool :=
  c.isAlphanum || c == '_' || 0x80 ≤ c.toNat

/-- What a word has to begin with to follow a number at once. -/
def followers : List String :=
  ["and", "else", "for", "if", "in", "is", "or"]

/-- Whether characters can follow a number. Words that start beyond the ASCII
range are told from it anyway. -/
def canFollow (cs : List Char) : Bool :=
  !(cs.head?.any fun c => isWordPart c && c.toNat < 0x80) ||
    followers.any fun w => w.toList.isPrefixOf cs

/-- A number of a kind, unless what follows its numeral goes wrong. -/
def finished (kind : String) (value : Numeric) (length : Nat) (rest : List Char) : ReadNumeral :=
  if canFollow rest then .ok (value, length) else .error { defect := .numeral kind, length }

/-- The length of digits of a base, an underscore in front of each run but the
first; `digits` counts those right before. The defect of an underscore is at
the character itself. -/
def runLength (isDigit : Char → Bool) : Bool → List Char → Except Nat Nat
  | _, [] => .ok 0
  | after, c :: cs =>
    if isDigit c then (runLength isDigit true cs).map (· + 1) |>.mapError (· + 1)
    else if c == '_' && after then
      match cs with
      | d :: _ =>
        if isDigit d then (runLength isDigit false cs).map (· + 1) |>.mapError (· + 1)
        else .error 1
      | [] => .error 1
    else .ok 0

/-- The value of digits in a base; underscores are left out. -/
def valueIn (base : Nat) (cs : List Char) : Nat :=
  (cs.filter (· != '_')).foldl (fun n c => n * base + (Text.hexDigit? c).getD 0) 0

/-- Whether a character is a digit of a base up to sixteen. -/
def isDigitIn (base : Nat) (c : Char) : Bool :=
  match Text.hexDigit? c with
  | some d => d < base
  | none => false

/-- A whole number in a base other than ten, after its two marks. -/
def inBase (kind : String) (base : Nat) (cs : List Char) : ReadNumeral :=
  let fail (length : Nat) (rest : List Char) : ReadNumeral :=
    match rest with
    | c :: _ =>
      if base < 10 && c.isDigit then
        .error { defect := .numeralDigit c kind, length := length + 1 }
      else .error { defect := .numeral kind, length }
    | [] => .error { defect := .numeral kind, length }
  match runLength (isDigitIn base) true cs with
  | .error n => fail (2 + n) (cs.drop n)
  | .ok 0 => fail 2 cs
  | .ok n =>
    let rest := cs.drop n
    if base < 10 && rest.head?.any Char.isDigit then fail (2 + n) rest
    else finished kind (.whole (valueIn base (cs.take n)) 0) (2 + n) rest

/-- The double that characters denote. -/
def double (cs : List Char) : Double :=
  Double.ofNumeral (LiveSession.Numeral.ofText (String.ofList cs))

/-- The end of a numeral with a point or an exponent, or of an imaginary one. -/
def fractionEnd (cs : List Char) (length : Nat) : ReadNumeral :=
  let rest := cs.drop length
  if rest.head?.any fun c => c == 'j' || c == 'J' then
    finished "imaginary" (.imaginary (double (cs.take length))) (length + 1) (rest.drop 1)
  else finished "decimal" (.fractional (double (cs.take length))) length rest

/-- The end of a whole number: it is imaginary where the mark follows. -/
def wholeEnd (cs : List Char) (length : Nat) : ReadNumeral :=
  let rest := cs.drop length
  if rest.head?.any fun c => c == 'j' || c == 'J' then
    finished "imaginary" (.imaginary (double (cs.take length))) (length + 1) (rest.drop 1)
  else
    let digits := (cs.take length).filter (· != '_')
    let zeros := (cs.take length).takeWhile fun c => c == '0' || c == '_'
    if cs.head? == some '0' && zeros.length < length then
      .error { defect := .leadingZeros, length, width := zeros.length }
    else
      -- however many zeros there are, they are not too many
      let count := if zeros.length = length then 0 else digits.length
      finished "decimal" (.whole (valueIn 10 digits) count) length rest

/-- The end of a numeral from its exponent on, if it has one. The letter of one
without digits is not part of the numeral. -/
def exponentEnd (isWhole : Bool) (cs : List Char) (length : Nat) : ReadNumeral :=
  let rest := cs.drop length
  let plain := if isWhole then wholeEnd cs length else fractionEnd cs length
  match rest with
  | e :: more =>
    if e == 'e' || e == 'E' then
      let signed := more.head?.any fun c => c == '+' || c == '-'
      let start := length + 1 + if signed then 1 else 0
      match runLength Char.isDigit false (cs.drop start) with
      | .error n => .error { defect := .numeral "decimal", length := start + n }
      | .ok 0 =>
        if signed then .error { defect := .numeral "decimal", length := start }
        else if canFollow rest then plain
        else .error { defect := .numeral "decimal", length }
      | .ok n => fractionEnd cs (start + n)
    else plain
  | [] => plain

/-- The end of a numeral from its point on, which stands at the given place. -/
def pointEnd (cs : List Char) (point : Nat) : ReadNumeral :=
  match runLength Char.isDigit false (cs.drop (point + 1)) with
  | .error n => .error { defect := .numeral "decimal", length := point + 1 + n }
  | .ok n => exponentEnd false cs (point + 1 + n)

/-- Read the decimal numeral at the start of a text. -/
def decimal (cs : List Char) : ReadNumeral :=
  match runLength Char.isDigit false cs with
  | .error n => .error { defect := .numeral "decimal", length := n }
  | .ok n => if (cs.drop n).head? == some '.' then pointEnd cs n else exponentEnd true cs n

/-- Read the numeral at the start of a text, which starts with a digit or a
point. -/
def read (cs : List Char) : ReadNumeral :=
  match cs with
  | '0' :: mark :: rest =>
    if mark == 'x' || mark == 'X' then inBase "hexadecimal" 16 rest
    else if mark == 'o' || mark == 'O' then inBase "octal" 8 rest
    else if mark == 'b' || mark == 'B' then inBase "binary" 2 rest
    else decimal cs
  | _ => decimal cs

end Numeral

end LiveSession.Script
