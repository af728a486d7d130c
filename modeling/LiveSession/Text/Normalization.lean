import LiveSession.Text.Decomposition

/-!
# Compatibility composition

Two spellings of an identifier are the same when their compatibility
compositions are: every character is decomposed as far as it goes, marks after
a character are put in the order of their combining classes, and what can be
composed is composed again. Hangul syllables are decomposed and composed by
their numbers.
-/

namespace LiveSession.Text

/-- A syllable of three parts: the numbers of the first syllable and of the
first part of each kind, and how many there are of them. -/
structure SyllableBlock where
  syllable : Nat
  lead : Nat
  vowel : Nat
  /-- One before the first, since a syllable can do without a tail. -/
  tail : Nat
  leads : Nat
  vowels : Nat
  tails : Nat

/-- The syllables of Hangul. -/
def hangul : SyllableBlock where
  syllable := 0xAC00
  lead := 0x1100
  vowel := 0x1161
  tail := 0x11A7
  leads := 19
  vowels := 21
  tails := 28

namespace SyllableBlock

/-- How many syllables there are. -/
def size (b : SyllableBlock) : Nat :=
  b.leads * b.vowels * b.tails

/-- The number of a syllable in its block. -/
def index? (b : SyllableBlock) (c : Char) : Option Nat :=
  if b.syllable ≤ c.toNat && c.toNat < b.syllable + b.size then some (c.toNat - b.syllable)
  else none

/-- The parts of a syllable. -/
def parts (b : SyllableBlock) (index : Nat) : List Char :=
  let lead := Char.ofNat (b.lead + index / (b.vowels * b.tails))
  let vowel := Char.ofNat (b.vowel + index / b.tails % b.vowels)
  if index % b.tails = 0 then [lead, vowel]
  else [lead, vowel, Char.ofNat (b.tail + index % b.tails)]

/-- The number of a character among some characters. -/
def offset? (first count : Nat) (c : Char) : Option Nat :=
  if first ≤ c.toNat && c.toNat < first + count then some (c.toNat - first) else none

/-- The syllable of a lead and a vowel, or of a syllable without a tail and a
tail. -/
def compose? (b : SyllableBlock) (x y : Char) : Option Char :=
  match offset? b.lead b.leads x, offset? b.vowel b.vowels y with
  | some l, some v => some (Char.ofNat (b.syllable + (l * b.vowels + v) * b.tails))
  | _, _ =>
    match b.index? x, offset? (b.tail + 1) (b.tails - 1) y with
    | some s, some t => if s % b.tails = 0 then some (Char.ofNat (x.toNat + t + 1)) else none
    | _, _ => none

end SyllableBlock

/-- How many steps a decomposition takes at most. -/
def decompositionDepth : Nat := 8

/-- What a character decomposes into, in a number of steps. -/
def decomposed : Nat → Char → List Char
  | 0, c => [c]
  | steps + 1, c =>
    if c.toNat < 0x80 then [c]
    else
      match hangul.index? c with
      | some index => hangul.parts index
      | none =>
        match Decomposition.find? c with
        | some d => d.parts.flatMap (decomposed steps)
        | none => [c]

/-- Put a character after others, which are given from the last one back: a mark
goes in front of the marks of higher classes. -/
def putMark (c : Char) : List Char → List Char
  | [] => [c]
  | d :: ds =>
    if 0 < combiningClass c && combiningClass c < combiningClass d then d :: putMark c ds
    else c :: d :: ds

/-- Put marks in the order of their classes. -/
def orderMarks (cs : List Char) : List Char :=
  (cs.foldl (fun done c => putMark c done) []).reverse

/-- What two characters are composed into. -/
def composed? (a b : Char) : Option Char :=
  match hangul.compose? a b with
  | some c => some c
  | none => Decomposition.composite? a b

/-- Compose the characters after a starter with it. Those that were not composed
so far are given from the last one back; one of them stands in the way of a
character that is not of a higher class. -/
def composeFrom (starter : Char) (skipped : List Char) : List Char → List Char
  | [] => starter :: skipped.reverse
  | c :: cs =>
    let blocked := match skipped with
      | [] => false
      | d :: _ => combiningClass c ≤ combiningClass d
    match (if blocked then none else composed? starter c) with
    | some composite => composeFrom composite skipped cs
    | none =>
      if combiningClass c = 0 then starter :: skipped.reverse ++ composeFrom c [] cs
      else composeFrom starter (c :: skipped) cs

/-- Compose what can be composed. Marks in front of the first starter stay. -/
def compose (cs : List Char) : List Char :=
  let marks := cs.takeWhile fun c => combiningClass c != 0
  match cs.drop marks.length with
  | [] => marks
  | starter :: rest => marks ++ composeFrom starter [] rest

/-- The compatibility composition of a text. -/
def normalize (cs : List Char) : List Char :=
  if cs.all fun c => c.toNat < 0x80 then cs
  else compose (orderMarks (cs.flatMap (decomposed decompositionDepth)))

end LiveSession.Text
