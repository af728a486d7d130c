/-!
# Digits and integers in text

A decimal digit is any character of the Unicode 14 category Nd; every run of
ten such characters starts at its zero. An integer is written as an optional
sign and digits, with single underscores allowed between digits.
-/

namespace LiveSession.Text

/-- The zeros of the decimal digits from U+0080 on. -/
def digitZeros : List Nat := [
  0x660, 0x6F0, 0x7C0, 0x966, 0x9E6, 0xA66, 0xAE6, 0xB66, 0xBE6, 0xC66, 0xCE6, 0xD66, 0xDE6,
  0xE50, 0xED0, 0xF20, 0x1040, 0x1090, 0x17E0, 0x1810, 0x1946, 0x19D0, 0x1A80, 0x1A90, 0x1B50,
  0x1BB0, 0x1C40, 0x1C50, 0xA620, 0xA8D0, 0xA900, 0xA9D0, 0xA9F0, 0xAA50, 0xABF0, 0xFF10,
  0x104A0, 0x10D30, 0x11066, 0x110F0, 0x11136, 0x111D0, 0x112F0, 0x11450, 0x114D0, 0x11650,
  0x116C0, 0x11730, 0x118E0, 0x11950, 0x11C50, 0x11D50, 0x11DA0, 0x16A60, 0x16AC0, 0x16B50,
  0x1D7CE, 0x1D7D8, 0x1D7E2, 0x1D7EC, 0x1D7F6, 0x1E140, 0x1E2F0, 0x1E950, 0x1FBF0]

/-- The value of a decimal digit of any script. -/
def decimalDigit? (c : Char) : Option Nat :=
  if c.toNat < 0x80 then
    if c.isDigit then some (c.toNat - '0'.toNat) else none
  else
    (digitZeros.find? fun z => z ≤ c.toNat && c.toNat < z + 10).map (c.toNat - ·)

/-- The value of an ASCII digit. -/
def asciiDigit? (c : Char) : Option Nat :=
  if c.isDigit then some (c.toNat - '0'.toNat) else none

/-- The value of a hexadecimal digit. -/
def hexDigit? (c : Char) : Option Nat :=
  if c.isDigit then some (c.toNat - '0'.toNat)
  else if 'a' ≤ c && c ≤ 'f' then some (c.toNat - 'a'.toNat + 10)
  else if 'A' ≤ c && c ≤ 'F' then some (c.toNat - 'A'.toNat + 10)
  else none

/-- Read the digits after the first one; `value` is what has been read so far.
An underscore has to be followed by a digit. -/
def moreDigits? (digit? : Char → Option Nat) (value : Nat) : List Char → Option Nat
  | [] => some value
  | c :: cs =>
    match digit? c with
    | some d => moreDigits? digit? (value * 10 + d) cs
    | none =>
      if c = '_' then
        match cs with
        | [] => none
        | c' :: cs' =>
          match digit? c' with
          | some d => moreDigits? digit? (value * 10 + d) cs'
          | none => none
      else none

/-- Read a natural number: digits with single underscores between them. -/
def natural? (digit? : Char → Option Nat) : List Char → Option Nat
  | [] => none
  | c :: cs => (digit? c).bind fun d => moreDigits? digit? d cs

/-- Read an integer: an optional sign and a natural number. -/
def integer? (digit? : Char → Option Nat) : List Char → Option Int
  | '-' :: cs => (natural? digit? cs).map fun n => -(n : Int)
  | '+' :: cs => (natural? digit? cs).map fun n => (n : Int)
  | cs => (natural? digit? cs).map fun n => (n : Int)

/-- How many digits an integer may have where it is read from a text or written
as one. -/
def digitLimit : Nat := 4300

/-- What is said of an integer with too many digits; `detail` says how many it
has, where that is known. -/
def beyondDigitLimit (detail : String) : String :=
  "Exceeds the limit (4300 digits) for integer string conversion" ++ detail ++
    "; use sys.set_int_max_str_digits() to increase the limit"

/-- The count of an integer's digits, as a detail. -/
def digitDetail (count : String) : String :=
  ": value has " ++ count ++ " digits"

/-- Whether an integer has too many digits to be written. -/
def isBeyondDigitLimit (i : Int) : Bool :=
  digitLimit < (Nat.toDigits 10 i.natAbs).length

/-- The decimal digits of a natural number. -/
def decimalText (n : Nat) : String :=
  String.ofList (Nat.toDigits 10 n)

/-- The decimal text of an integer. -/
def integerText : Int → String
  | .ofNat n => decimalText n
  | .negSucc n => "-" ++ decimalText (n + 1)

end LiveSession.Text
