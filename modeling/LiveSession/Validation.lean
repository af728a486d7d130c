import LiveSession.Host.Elements
import LiveSession.Host.Text
import LiveSession.Text.Blank

/-!
# Validation of fields

The fields of a settings record and of a response are checked when the record
is built from host values. A problem is reported with the path of the field;
all problems are collected, in the order of the fields. Texts are taken as
they are, bytes as the text they encode, named constants as the text of what
they stand for; whole numbers are taken from numbers without a fraction and
from texts that write one.
-/

namespace LiveSession

/-- What is wrong with a field. -/
inductive Problem where
  | missing
  | notText
  | notUnicode
  | notList
  | notMapping
  | notInteger
  | unreadableInteger
  | oversizedInteger
  | fractional
  | notFinite
  | belowOne
  | frozen
  deriving DecidableEq, Repr

namespace Problem

/-- The tag of a problem. -/
def tag : Problem → String
  | .missing => "missing"
  | .notText => "string_type"
  | .notUnicode => "string_unicode"
  | .notList => "list_type"
  | .notMapping => "dict_type"
  | .notInteger => "int_type"
  | .unreadableInteger => "int_parsing"
  | .oversizedInteger => "int_parsing_size"
  | .fractional => "int_from_float"
  | .notFinite => "finite_number"
  | .belowOne => "greater_than_equal"
  | .frozen => "frozen_instance"

/-- The wording of a problem. -/
def message : Problem → String
  | .missing => "Field required"
  | .notText => "Input should be a valid string"
  | .notUnicode => "Input should be a valid string, unable to parse raw data as a unicode string"
  | .notList => "Input should be a valid list"
  | .notMapping => "Input should be a valid dictionary"
  | .notInteger => "Input should be a valid integer"
  | .unreadableInteger => "Input should be a valid integer, unable to parse string as an integer"
  | .oversizedInteger => "Unable to parse input string as an integer, exceeded maximum size"
  | .fractional => "Input should be a valid integer, got a number with a fractional part"
  | .notFinite => "Input should be a finite number"
  | .belowOne => "Input should be greater than or equal to 1"
  | .frozen => "Instance is frozen"

end Problem

/-- A problem and where it is. -/
structure FieldProblem where
  /-- The field, and the way to the part of it that is wrong. -/
  path : List String
  problem : Problem
  deriving DecidableEq, Repr

namespace Validation

/-- The text that bytes encode, if they are well-formed UTF-8. -/
def textOfBytes? (bytes : List Nat) : Option String :=
  String.fromUTF8? (ByteArray.mk (bytes.map UInt8.ofNat).toArray)

/-- Take a text. -/
def text (h : Host) : Except Problem String :=
  match h with
  | .binary .view _ => .error .notText
  | .binary _ bytes =>
    match textOfBytes? bytes with
    | some s => .ok s
    | none => .error .notUnicode
  | .numbered _ i => .ok (Text.integerText i)
  | .constant _ i => .ok (Text.integerText i)
  | _ =>
    match h.text? with
    | some s => .ok s
    | none => .error .notText

/-- Take a text for a field. -/
def textField (field : String) (h : Host) : Except (List FieldProblem) String :=
  match text h with
  | .ok s => .ok s
  | .error p => .error [⟨[field], p⟩]

/-- The elements of a value that can stand for a list: of anything that can be
gone through, but of no text, bytes or mapping. -/
def listElements? (h : Host) : Option (List Host) :=
  match h with
  | .string _ => none
  | .label _ _ => none
  | .binary .fixed _ => none
  | .binary .growable _ => none
  | .mapping _ _ => none
  | .cyclic .mapping => none
  | _ => h.elements?

/-- Take texts, each with its position; all problems are collected. -/
def textsFrom (field : String) (position : Nat) :
    List Host → Except (List FieldProblem) (List String)
  | [] => .ok []
  | h :: rest =>
    match text h, textsFrom field (position + 1) rest with
    | .ok s, .ok ss => .ok (s :: ss)
    | .ok _, .error ps => .error ps
    | .error p, .ok _ => .error [⟨[field, Text.decimalText position], p⟩]
    | .error p, .error ps => .error (⟨[field, Text.decimalText position], p⟩ :: ps)

/-- Take a list of texts for a field. -/
def textsField (field : String) (h : Host) : Except (List FieldProblem) (List String) :=
  match listElements? h with
  | some hs => textsFrom field 0 hs
  | none => .error [⟨[field], .notList⟩]

/-- How many digits a whole number may have. -/
def numeralWidth : Nat := 4300

/-- The digits of a number, and whether a minus sign stands in front of them. -/
def splitMinus : List Char → Bool × List Char
  | '-' :: digits => (true, digits)
  | cs => (false, cs)

/-- Read a number that is written in digits alone, without a zero in front,
perhaps after a minus sign. One with too many digits is not read to its end. -/
def plainInteger (cs : List Char) : Except Problem Int :=
  let digits := (splitMinus cs).2
  match digits with
  | ['0'] => .ok 0
  | c :: _ =>
    if c = '0' then .error .unreadableInteger
    else if numeralWidth < (digits.takeWhile Char.isDigit).length then .error .oversizedInteger
    else
      match Text.integer? Text.asciiDigit? cs with
      | some i => if digits.all Char.isDigit then .ok i else .error .unreadableInteger
      | none => .error .unreadableInteger
  | [] => .error .unreadableInteger

/-- Drop the zeros in front of a number, and underscores among them. Before
another digit or a minus sign all zeros go; the last one stays before a point
and at the end. -/
def dropZeros (cs : List Char) : Option (List Char) :=
  match cs with
  | [] => none
  | c :: rest =>
    if c = '-' || (c.isDigit && c ≠ '0') then some cs
    else if c ≠ '0' then none
    else
      let zeros := cs.takeWhile fun c => c == '0' || c == '_'
      match rest.dropWhile fun c => c == '0' || c == '_' with
      | [] => zeros.getLast?.map fun c => [c]
      | d :: more =>
        if d = '.' then zeros.getLast?.map fun c => c :: d :: more
        else if d.isDigit || d = '-' then some (d :: more)
        else none

/-- Remove a decimal point that is followed by at least one zero and by zeros
only. -/
def dropZeroPlaces (cs : List Char) : List Char :=
  match cs.dropWhile (· != '.') with
  | [] => cs
  | _ :: places =>
    if !places.isEmpty && places.all (· == '0') then cs.takeWhile (· != '.') else cs

/-- Whether two underscores stand side by side. -/
def hasDoubleUnderscore : List Char → Bool
  | '_' :: '_' :: _ => true
  | _ :: cs => hasDoubleUnderscore cs
  | [] => false

/-- Remove single underscores between other characters; a text with others is
left alone. -/
def dropUnderscores (cs : List Char) : List Char :=
  if cs.head? == some '_' || cs.getLast? == some '_' || hasDoubleUnderscore cs then cs
  else cs.filter (· != '_')

/-- A number as it is written in full: white space around it, a plus sign,
zeros in front, zero decimal places and underscores are dropped. A minus sign
is set aside while the zeros go, so the zeros after it go too. -/
def cleanNumeral (cs : List Char) : Option (List Char) :=
  let trimmed := Text.trimBoth Text.isWhiteSpace cs
  let unsigned := if trimmed.head? == some '+' then trimmed.drop 1 else trimmed
  if unsigned.length ≠ trimmed.length && unsigned.head? == some '-' then none
  else
    let (negative, digits) := splitMinus unsigned
    (dropZeros digits).map fun cs =>
      let clean := dropUnderscores (dropZeroPlaces cs)
      if negative then '-' :: clean else clean

/-- Read a whole number from a text, as it stands or else written in full.
Only a text that could be read as it stands is ever too long. -/
def integerOfText (cs : List Char) : Except Problem Int :=
  match plainInteger cs with
  | .error .unreadableInteger =>
    match (cleanNumeral cs).map plainInteger with
    | some (.ok i) => .ok i
    | _ => .error .unreadableInteger
  | answer => answer

/-- The bound of 64-bit integers, two to the power of 63. -/
def wordBound : Int := 0x8000000000000000

/-- Whether a whole number lies strictly between the bounds of 64-bit
integers. -/
def fits64 (i : Int) : Bool :=
  -wordBound < i && i < wordBound

/-- Take a double without a fraction. -/
def integerOfDouble (d : Double) : Except Problem Int :=
  match d.quantity with
  | .finite q =>
    if q.den ≠ 1 then .error .fractional
    else if fits64 q.num then .ok q.num
    else .error .oversizedInteger
  | _ => .error .notFinite

/-- Take a decimal without a fraction. -/
def integerOfDecimal (d : Decimal) : Except Problem Int :=
  match d.numeral with
  | .finite negative digits exponent =>
    match Decimal.whole? negative digits exponent with
    | some i => .ok i
    | none => .error .fractional
  | _ => .error .notFinite

/-- Take a whole number. -/
def integer (h : Host) : Except Problem Int :=
  match h with
  | .bool b => .ok (if b then 1 else 0)
  | .int i => .ok i
  | .numbered _ i => .ok i
  | .constant _ i => .ok i
  | .double d => integerOfDouble d
  | .decimal d => integerOfDecimal d
  | .fraction q => integerOfDouble (Double.nearest false q)
  | .binary .fixed bytes =>
    match textOfBytes? bytes with
    | some s => integerOfText s.toList
    | none => .error .unreadableInteger
  | _ =>
    match h.text? with
    | some s => integerOfText s.toList
    | none => .error .notInteger

/-- Take a whole number of at least one for a field. -/
def countField (field : String) (h : Host) : Except (List FieldProblem) Nat :=
  match integer h with
  | .error p => .error [⟨[field], p⟩]
  | .ok i => if 1 ≤ i then .ok i.toNat else .error [⟨[field], .belowOne⟩]

/-- Join two checked fields; the problems of both are collected. -/
def both {α β : Type} (a : Except (List FieldProblem) α) (b : Except (List FieldProblem) β) :
    Except (List FieldProblem) (α × β) :=
  match a, b with
  | .ok x, .ok y => .ok (x, y)
  | .ok _, .error qs => .error qs
  | .error ps, .ok _ => .error ps
  | .error ps, .error qs => .error (ps ++ qs)

end Validation

end LiveSession
