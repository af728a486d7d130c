import LiveSession.Script.Builtin
import LiveSession.Script.Member
import LiveSession.Script.Phrase
import LiveSession.Text.Word

/-!
# Suggestions before a cursor

The word before the cursor, points included, is completed. A word without a
point is the beginning of a keyword, of a bound name or of a built-in one. A
word with a point is a path to a value and the beginning of one of its
attributes or members. What can be called is suggested with an opening
parenthesis, and a keyword with what follows it.
-/

namespace LiveSession.Script

/-- The characters of a word to complete. -/
def isPathCharacter (c : Char) : Bool :=
  Text.isWord c || c == '.'

/-- The word before the cursor; a single line feed may stand in between. -/
def pathBefore (cs : List Char) : List Char :=
  let back := fun cs : List Char => (cs.reverse.takeWhile isPathCharacter).reverse
  match cs.reverse with
  | '\n' :: rest => back rest.reverse
  | _ => back cs

/-- Keywords that stand for a value. -/
def constantKeywords : List String :=
  ["False", "None", "True"]

/-- A keyword with what follows it. -/
def keywordSuggestion (w : String) : String :=
  if w = "finally" || w = "try" then w ++ ":"
  else if constantKeywords.contains w then w
  else if ["break", "continue", "pass", "else", "_"].contains w then w
  else w ++ " "

/-- A name with a parenthesis where its value can be called, and with both where
it takes nothing. -/
def valueSuggestion (name : String) (v : Host) : String :=
  match v.calling with
  | .never => name
  | .bare => name ++ "()"
  | .withArguments => name ++ "("

/-- Whether a text begins with characters. -/
def beginsWith (start : List Char) (s : String) : Bool :=
  start.isPrefixOf s.toList

/-- Suggestions for a word without a point. -/
def wordSuggestions (names : Names) (start : List Char) : List String :=
  let words := (keywords ++ softKeywords).filter (beginsWith start)
  let fits (name : String) : Bool :=
    beginsWith start name && name != Builtin.selfName && !words.contains name
  let bound := names.filter fun e => fits e.1
  let builtin := Builtin.all.filter fun e =>
    fits e.1 && (Assoc.find? (· == ·) e.1 names).isNone
  words.map keywordSuggestion ++ (bound ++ builtin).map fun e => valueSuggestion e.1 e.2

/-- The attributes of an object. -/
def attributes : Host → List (String × Host)
  | .record _ fields => fields
  | .handle _ attributes => attributes
  | _ => []

/-- What can follow a value and a point: its attributes and the members of its
type. -/
def continuations (v : Host) : List String :=
  (attributes v).map (fun f => valueSuggestion f.1 f.2) ++ Member.ofType v

/-- The name that characters spell, if they spell one. -/
def spelled? (cs : List Char) : Option String :=
  if Text.isIdentifier cs && !keywords.contains (String.ofList cs) then
    some (String.ofList (Text.normalize cs))
  else none

/-- The value at the end of a path of names. -/
def resolve? (v : Host) : List (List Char) → Option Host
  | [] => some v
  | piece :: rest => do
    let name ← spelled? piece
    let next ← Assoc.find? (· == ·) name (attributes v)
    resolve? next rest

/-- The number that characters write as a whole. -/
def number? (cs : List Char) : Option Host :=
  match Numeral.read cs with
  | .ok (n, length) => if length = cs.length then (numberValue n).toOption else none
  | .error _ => none

/-- The value that a word stands for: some keywords stand for one, whatever is
bound. -/
def wordValue? (names : Names) (word : List Char) : Option Host :=
  let text := String.ofList word
  if constantKeywords.contains text then Assoc.find? (· == ·) text Builtin.all
  else (spelled? word).bind names.resolve?

/-- The value that a path leads to: a number where it starts with a digit. -/
def valueAt? (names : Names) (path : List (List Char)) : Option Host :=
  match path with
  | [] => none
  | head :: rest =>
    if head.head?.any Char.isDigit then number? (['.'].intercalate path)
    else (wordValue? names head).bind fun v => resolve? v rest

/-- Pieces of a path between its points. -/
def pieces : List Char → List (List Char)
  | [] => [[]]
  | c :: cs =>
    if c = '.' then [] :: pieces cs
    else
      match pieces cs with
      | [] => [[c]]
      | piece :: rest => (c :: piece) :: rest

/-- The path to an object and the beginning of an attribute: pieces with a
name in each, and one piece more; what comes after an empty piece is left out. -/
def pathOf (word : List Char) : Option (List (List Char) × List Char) :=
  let parts := pieces word
  let named := parts.takeWhile (!·.isEmpty)
  let rest := parts.drop named.length
  match rest with
  | piece :: _ => if named.isEmpty then none else some (named, piece)
  | [] => if named.length < 2 then none else some (named.dropLast, named.getLastD [])

/-- The words that a beginning admits: one that is empty or a single underscore
does not admit those with one underscore more, unless there are no others. -/
def admitted (start : List Char) (words : List String) : List String :=
  let matching := words.filter (beginsWith start)
  let shown :=
    if start.isEmpty || start = ['_'] then matching.filter (!beginsWith (start ++ ['_']) ·)
    else matching
  if shown.isEmpty then matching else shown

/-- Suggestions for a path. -/
def pathSuggestions (names : Names) (path : List (List Char)) (start : List Char) : List String :=
  match valueAt? names path with
  | none => []
  | some v =>
    let base := String.ofList (['.'].intercalate path) ++ "."
    ((admitted start (continuations v)).map (base ++ ·)).mergeSort fun a b => decide (a ≤ b)

end LiveSession.Script
