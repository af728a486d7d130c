import LiveSession.Script.Layout
import LiveSession.Script.Statement

/-!
# Phrases of a script

Tokens are read as expressions. Reading stops at the first token that does not
fit. It can be repeated strictly, to find a better reason than that token: two
expressions side by side, an assignment to what is no name, and the like. A
token that goes wrong by itself is never read over.
-/

namespace LiveSession.Script

/-- The tokens that are still to be read. -/
abbrev Tokens := List Located

/-- Why reading stops. -/
inductive Halt where
  /-- The first of the tokens does not fit. -/
  | unexpected (ts : Tokens)
  /-- There is a defect, found when the first of the tokens had been looked at. -/
  | rejected (rejection : Rejection) (ts : Tokens)

/-- What reading gives, unless it stops. -/
abbrev Parsed := Except Halt

/-- What reading gives, if it can be read; a defect that is found stays one. -/
def tried {α : Type} (p : Parsed α) : Parsed (Option α) :=
  match p with
  | .ok r => .ok (some r)
  | .error (.unexpected _) => .ok none
  | .error h => .error h

/-- The part of an expression that cannot be assigned to. -/
structure Obstacle where
  what : String
  first : Located
  last : Located

/-- An expression with its tokens. -/
structure Phrase where
  value : Expression
  /-- Its first token, and its last one; parentheses around it do not count. -/
  first : Located
  last : Located
  /-- The last token that was read for it. -/
  final : Located
  /-- Whether it opens with a list, a tuple or a keyword. -/
  isFixed : Bool := false
  /-- Why it cannot be assigned to, if it cannot. -/
  obstacle : Option Obstacle

/-- What stands between brackets. -/
structure Enclosed where
  items : List Phrase
  closing : Located
  /-- Whether a comma stands before the closing bracket. -/
  endsWithComma : Bool := false

/-- How tokens are read. -/
structure Grammar where
  source : Source
  /-- Whether to look for a better reason than the first token that does not
  fit. -/
  strict : Bool := false
  /-- Whether to read as much as can be read of an expression, and leave a call or
  a divisor that goes wrong. -/
  partly : Bool := false

/-- Whether the first of the tokens is a certain mark. -/
def startsWith (mark : String) : Tokens → Bool
  | t :: _ => t.isMark mark
  | [] => false

/-- Whether the first of the tokens is a name. -/
def startsWithName : Tokens → Bool
  | t :: _ =>
    match t.token with
    | .name _ => true
    | _ => false
  | [] => false

/-- Whether the first of the tokens is a certain one without characters. -/
def startsWithToken (token : Token) : Tokens → Bool
  | t :: _ => t.token == token
  | [] => false

/-- Whether the first of the tokens is broken. -/
def startsBroken : Tokens → Bool
  | t :: _ =>
    match t.token with
    | .broken _ => true
    | _ => false
  | [] => false

/-- Pass over a token that meets a condition. -/
def expectIf (fits : Located → Bool) (ts : Tokens) : Parsed (Located × Tokens) :=
  match ts with
  | t :: rest => if fits t then .ok (t, rest) else .error (.unexpected ts)
  | [] => .error (.unexpected ts)

/-- Pass over a mark. -/
def expect (mark : String) (ts : Tokens) : Parsed (Located × Tokens) :=
  expectIf (Located.isMark mark) ts

/-- Pass over a token without characters. -/
def expectToken (token : Token) (ts : Tokens) : Parsed (Located × Tokens) :=
  expectIf (fun t => t.token == token) ts

/-- The defect of a bracket that is never closed, when the text was read for a
token. -/
def Bracket.unclosed (source : Source) (b : Bracket) (reached : Located) : Rejection :=
  let shown := source.shown reached.after b.line
  { defect := .unclosed b.opening, line := b.line, shown
    start := source.position shown b.line b.column }

/-- How a script is rejected for a broken token. -/
def Break.rejection (source : Source) (t : Located) : Break → Rejection
  | .characters r => r
  | .lines r => r
  | .missing =>
    match t.waiting with
    | b :: _ => b.unclosed source t
    | [] => t.rejectLast source .cutOff

/-- The words that are keywords in some places only. -/
def softKeywords : List String :=
  ["_", "case", "match"]

/-- The routines that once took their arguments without parentheses. -/
def bareRoutines : List String :=
  ["print", "exec"]

/-- The marks that assign a value made of the one before. -/
def augmentingMarks : List String :=
  ["%=", "&=", "**=", "*=", "+=", "-=", "//=", "/=", "<<=", ">>=", "@=", "^=", "|="]

namespace Expression

/-- What an expression is called where it cannot be assigned to. -/
def description : Expression → String
  | .constant .null => "None"
  | .constant (.bool b) => if b then "True" else "False"
  | .constant (.entity _) => "ellipsis"
  | .constant _ => "literal"
  | .name _ _ => "name"
  | .negation _ _ => "expression"
  | .quotient _ _ _ => "expression"
  | .call _ _ _ => "function call"
  | .list _ => "list"
  | .tuple _ => "tuple"
  | .set _ _ => "set display"
  | .mapping _ _ => "dict literal"

/-- The name that an expression is, if it is one. -/
def name? : Expression → Option String
  | .name n _ => some n
  | _ => none

end Expression

namespace Phrase

/-- An expression that cannot be assigned to, from its first token to its last
one. -/
def whole (value : Expression) (first last : Located) ( isFixed : Bool) : Phrase :=
  ⟨value, first, last, last, isFixed, some ⟨value.description, first, last⟩⟩

/-- A name. -/
def name (n : String) (t : Located) : Phrase :=
  ⟨.name n t.line, t, t, t, false, none⟩

/-- A list or a tuple, which can be assigned to if its items can. -/
def collection (value : Expression) (items : List Phrase) (first last : Located) : Phrase :=
  ⟨value, first, last, last, true, (items.filterMap Phrase.obstacle).head?⟩

/-- A phrase in parentheses. -/
def enclosed (closing : Located) (p : Phrase) : Phrase :=
  { p with final := closing, isFixed := false }

end Phrase

/-- The literals at the start of tokens, one after the other. -/
def literalRun : Tokens → List (Literal × Located)
  | [] => []
  | t :: ts =>
    match t.token with
    | .literal l => (l, t) :: literalRun ts
    | _ => []

/-- The characters that text literals make together and the bytes that binary
ones do. All of them have to be of one kind. -/
def joinLiterals (isBinary : Bool) : List (Literal × Located) → Except Defect (List Char × List Nat)
  | [] => .ok ([], [])
  | (l, _) :: rest => do
    let cs ← if l.kind.isBinary then pure [] else l.text
    let bs ← if l.kind.isBinary then l.bytes else pure []
    if l.kind.isBinary != isBinary then throw .mixedLiterals
    let (moreChars, moreBytes) ← joinLiterals isBinary rest
    return (cs ++ moreChars, bs ++ moreBytes)

/-- The value of literals that stand side by side. -/
def literalValue (run : List (Literal × Located)) : Except Defect Host := do
  let isBinary := run.head?.any fun l => l.1.kind.isBinary
  let (cs, bs) ← joinLiterals isBinary run
  return if isBinary then .binary .fixed bs else .string (String.ofList cs)

/-- The value of a number; one of too many digits has none. -/
def numberValue : Numeric → Except Defect Host
  | .whole n digits =>
    if Text.digitLimit < digits then .error (.oversizedNumeral digits) else .ok (.int n)
  | .fractional d => .ok (.double d)
  | .imaginary d => .ok (.complex ⟨"0.0"⟩ d)

/-- The value that stands for what is left out. -/
def ellipsis : Host :=
  .entity { kind := .thing true, typeName := "ellipsis", shown := "Ellipsis" }

/-- Whether tokens start with a name and a literal, or with what can become a
word that is a keyword in some places. -/
def opensWithName : Tokens → Bool
  | t :: ts =>
    match t.token with
    | .name n =>
      softKeywords.any (fun w => n.toList.isPrefixOf w.toList) ||
        match ts.head?.map Located.token with
        | some (.literal _) => true
        | _ => false
    | _ => false
  | [] => false

/-- Whether an expression is the name of a routine that once took its arguments
without parentheses. -/
def isBareRoutine (e : Expression) : Bool :=
  e.name?.any bareRoutines.contains

/-- Whether tokens start with an equals sign or the one that also gives a
value. -/
def startsWithEquals (ts : Tokens) : Bool :=
  startsWith "=" ts || startsWith ":=" ts

/-- Whether tokens start with a name and an equals sign. -/
def opensWithAssignment (ts : Tokens) : Bool :=
  startsWithName ts && startsWith "=" (ts.drop 1)

namespace Grammar

/-- Halt at a broken token that was looked at, if reading is strict. -/
def guarded {α : Type} (g : Grammar) (result : Parsed (α × Tokens)) : Parsed (α × Tokens) :=
  let ts := match result with
    | .ok (_, ts) => ts
    | .error (.unexpected ts) => ts
    | .error (.rejected _ _) => []
  match ts with
  | t :: _ =>
    match t.token with
    | .broken cause =>
      if g.strict then .error (.rejected (cause.rejection g.source t) ts) else result
    | _ => result
  | [] => result

/-- A halt for a defect, when the first of some tokens had been looked at. -/
def haltWith (rejection : Located → Rejection) (ts : Tokens) : Halt :=
  match ts with
  | [] => .unexpected ts
  | reached :: _ => .rejected (rejection reached) ts

/-- Reject what stands from the start of one token to the end of another. -/
def reject (g : Grammar) (defect : Defect) (first last : Located) (ts : Tokens) : Halt :=
  haltWith (Located.rejectFrom g.source defect first last) ts

/-- Reject the last token that was looked at, the first of some tokens. -/
def rejectLast (g : Grammar) (defect : Defect) (ts : Tokens) : Halt :=
  haltWith (Located.rejectLast g.source defect) ts

/-- Reject a key at its end, where its colon is missing. -/
def rejectKey (g : Grammar) (key : Phrase) (ts : Tokens) : Halt :=
  haltWith (fun reached =>
    let shown := g.source.shown reached.after key.first.line
    { defect := .missingKeyColon, line := key.first.line, shown
      start := match key.last.extent with
        | some (_, stop) => g.source.positionBefore shown key.last.endLine stop
        | none => 0 }) ts

/-- Read literals that stand side by side. -/
def literals (g : Grammar) (t : Located) (ts : Tokens) : Parsed (Phrase × Tokens) :=
  let run := literalRun ts
  let rest := ts.drop run.length
  if startsBroken rest then .error (.unexpected rest)
  else
    match literalValue run with
    | .ok v => .ok (.whole (.constant v) t ((run.getLast?.map Prod.snd).getD t) false, rest)
    | .error .wideBytes =>
      match run.find? fun l => l.1.kind.isBinary && l.1.body.any fun c => 0x80 ≤ c.toNat with
      | some (_, wide) => .error (g.reject .wideBytes wide wide rest)
      | none => .error (.unexpected rest)
    | .error defect => .error (g.rejectLast defect rest)

/-- Read a number. A defect of its value has no place on its line. -/
def number (g : Grammar) (t : Located) (n : Numeric) (ts : Tokens) : Parsed (Phrase × Tokens) :=
  match numberValue n with
  | .ok v => .ok (.whole (.constant v) t t false, ts.drop 1)
  | .error defect =>
    .error (.rejected
      { defect, line := t.line, shown := g.source.shown t.after t.line, start := 0 } ts)

/-- Leave what goes wrong after a phrase, if only as much is read as can be. A
broken token is not left. -/
def left (g : Grammar) (a : Phrase) (ts : Tokens) (h : Halt) : Parsed (Phrase × Tokens) :=
  match h with
  | .unexpected reached => if g.partly && !startsBroken reached then .ok (a, ts) else .error h
  | .rejected _ _ => .error h

/-- Check that a name is none of a routine that is given its arguments without
parentheses, the last of which ends with a token. -/
def bare (g : Grammar) (a : Phrase) (last : Located) (ts : Tokens) : Parsed Unit :=
  match a.value.name? with
  | some n =>
    if bareRoutines.contains n then .error (g.reject (.missingParentheses n) a.first last ts)
    else .ok ()
  | none => .ok ()

mutual

/-- An expression. Strictly, another one must not stand right after it inside
brackets, nor after a routine that needs parentheses. -/
def expression (g : Grammar) : Nat → Tokens → Parsed (Phrase × Tokens)
  | 0, ts => .error (.unexpected ts)
  | fuel + 1, ts => do
    let (a, rest) ← quotient g fuel ts
    if g.strict then
      alone g fuel ts a rest
    return (a, rest)

/-- Check what stands right after an expression. As much of it as can be read
counts. -/
def alone (g : Grammar) : Nat → Tokens → Phrase → Tokens → Parsed Unit
  | 0, ts, _, _ => .error (.unexpected ts)
  | fuel + 1, ts, a, rest => do
    let isBare := a.value.name?.isSome && startsWithName ts && !startsWith "(" rest
    if opensWithName ts then
      if isBare then
        match ← tried (expressions g fuel rest) with
        | some (b, after) => bare g a b.last after
        | none => return ()
    else
      match ← tried (g.guarded (quotient { g with strict := false, partly := true } fuel rest)) with
      | none => return ()
      | some (b, after) =>
        if !isBareRoutine a.value && !b.final.waiting.isEmpty then
          throw (g.reject .missingComma a.first b.last after)
        if isBare then
          alone g fuel rest b after
          match ← tried (moreExpressions g fuel b.last after) with
          | some ((_, final), after) => bare g a final after
          | none => bare g a ((after.head?).getD b.last) after

/-- Expressions between commas: more than one, or one before a comma, make a
tuple. -/
def expressions (g : Grammar) : Nat → Tokens → Parsed (Phrase × Tokens)
  | 0, ts => .error (.unexpected ts)
  | fuel + 1, ts => do
    let (a, rest) ← expression g fuel ts
    if startsWith "," rest then
      let ((more, final), rest) ← moreExpressions g fuel a.final rest
      let all := a :: more
      return (.collection (.tuple (all.map Phrase.value)) all a.first final, rest)
    else return (a, rest)

/-- The rest of a tuple without parentheses, from a comma on; the last token of
it is returned, too. The tuple may end with a comma. -/
def moreExpressions (g : Grammar) : Nat → Located → Tokens →
    Parsed ((List Phrase × Located) × Tokens)
  | 0, _, ts => .error (.unexpected ts)
  | fuel + 1, final, ts =>
    match expect "," ts with
    | .error _ => .ok (([], final), ts)
    | .ok (comma, rest) =>
      match expression g fuel rest with
      | .error (.rejected r ts) => .error (.rejected r ts)
      | .error (.unexpected reached) =>
        if reached.length = rest.length then .ok (([], comma), rest)
        else .error (.unexpected reached)
      | .ok (a, rest) => do
        let ((more, final), rest) ← moreExpressions g fuel a.final rest
        return ((a :: more, final), rest)

/-- Factors divided from left to right. -/
def quotient (g : Grammar) : Nat → Tokens → Parsed (Phrase × Tokens)
  | 0, ts => .error (.unexpected ts)
  | fuel + 1, ts => do
    let (a, rest) ← factor g fuel ts
    match ts with
    | t :: _ => g.guarded (divisors g fuel t a rest)
    | [] => .error (.unexpected ts)

/-- The divisors after a dividend, which starts with a token. -/
def divisors (g : Grammar) : Nat → Located → Phrase → Tokens → Parsed (Phrase × Tokens)
  | 0, _, _, ts => .error (.unexpected ts)
  | fuel + 1, t, a, ts =>
    if startsWith "/" ts then
      match factor g fuel (ts.drop 1) with
      | .ok (b, rest) =>
        divisors g fuel t (.whole (.quotient a.value b.value t.line) t b.final a.isFixed) rest
      | .error h => g.left a ts h
    else .ok (a, ts)

/-- A primary expression, or the negative of a factor. -/
def factor (g : Grammar) : Nat → Tokens → Parsed (Phrase × Tokens)
  | 0, ts => .error (.unexpected ts)
  | fuel + 1, ts =>
    match ts with
    | [] => .error (.unexpected ts)
    | t :: rest =>
      if t.isMark "-" then do
        let (a, rest) ← g.guarded (factor g fuel rest)
        return (.whole (.negation a.value t.line) t a.final false, rest)
      else do
        let (a, rest) ← g.guarded (atom g fuel ts)
        calls g fuel t a rest

/-- The calls of an expression, which starts with a token. -/
def calls (g : Grammar) : Nat → Located → Phrase → Tokens → Parsed (Phrase × Tokens)
  | 0, _, _, ts => .error (.unexpected ts)
  | fuel + 1, t, callee, ts =>
    if startsWith "(" ts then
      match items g true ")" fuel (ts.drop 1) with
      | .ok (e, rest) =>
        let called := .call callee.value (e.items.map Phrase.value) t.line
        g.guarded (calls g fuel t (.whole called t e.closing callee.isFixed) rest)
      | .error h => g.left callee ts h
    else .ok (callee, ts)

/-- A literal, a name, a display or an expression in parentheses. -/
def atom (g : Grammar) : Nat → Tokens → Parsed (Phrase × Tokens)
  | 0, ts => .error (.unexpected ts)
  | fuel + 1, ts =>
    match ts with
    | [] => .error (.unexpected ts)
    | t :: rest =>
      match t.token with
      | .number n => number g t n ts
      | .literal _ => literals g t ts
      | .keyword "None" => .ok (.whole (.constant .null) t t true, rest)
      | .keyword "True" => .ok (.whole (.constant (.bool true)) t t true, rest)
      | .keyword "False" => .ok (.whole (.constant (.bool false)) t t true, rest)
      | .name n => .ok (.name n t, rest)
      | .mark "..." => .ok (.whole (.constant ellipsis) t t false, rest)
      | .mark "(" => do
        let (e, rest) ← items g false ")" fuel rest
        match e.items, e.endsWithComma with
        | [a], false => return (a.enclosed e.closing, rest)
        | all, _ =>
          return (.collection (.tuple (all.map Phrase.value)) all t e.closing, rest)
      | .mark "[" => do
        let (e, rest) ← items g false "]" fuel rest
        return (.collection (.list (e.items.map Phrase.value)) e.items t e.closing, rest)
      | .mark "\x7b" => display g fuel t rest
      | _ => .error (.unexpected ts)

/-- The items up to a closing bracket: the arguments of a call, or the elements of
a display. -/
def items (g : Grammar) ( isCall : Bool) (closing : String) :
    Nat → Tokens → Parsed (Enclosed × Tokens)
  | 0, ts => .error (.unexpected ts)
  | fuel + 1, ts =>
    match expect closing ts with
    | .ok (c, rest) => .ok (⟨[], c, false⟩, rest)
    | .error _ => do
      let (a, rest) ← if isCall then argument g fuel ts else element g fuel ts
      moreItems g isCall closing fuel a rest

/-- The items after one of them. -/
def moreItems (g : Grammar) ( isCall : Bool) (closing : String) :
    Nat → Phrase → Tokens → Parsed (Enclosed × Tokens)
  | 0, _, ts => .error (.unexpected ts)
  | fuel + 1, a, ts =>
    match expect closing ts with
    | .ok (c, rest) => .ok (⟨[a], c, false⟩, rest)
    | .error _ => do
      let (_, rest) ← expect "," ts
      let (e, rest) ← items g isCall closing fuel rest
      return (⟨a :: e.items, e.closing, e.endsWithComma || e.items.isEmpty⟩, rest)

/-- An argument of a call. Strictly, it is no assignment. -/
def argument (g : Grammar) : Nat → Tokens → Parsed (Phrase × Tokens)
  | 0, ts => .error (.unexpected ts)
  | fuel + 1, ts => do
    let (a, rest) ← expression g fuel ts
    match rest with
    | equals :: _ =>
      if g.strict && equals.isMark "=" && !opensWithAssignment ts then
        let isKeyword := a.isFixed && match a.value with
          | .constant _ => true
          | _ => false
        if isKeyword then
          throw (g.reject (.notAssignable a.value.description false) a.first equals rest)
        else throw (g.reject .assignedArgument a.first equals rest)
      else return (a, rest)
    | [] => return (a, rest)

/-- An element of a display, or an expression in parentheses. -/
def element (g : Grammar) : Nat → Tokens → Parsed (Phrase × Tokens)
  | 0, ts => .error (.unexpected ts)
  | fuel + 1, ts => do
    let (a, rest) ← expression g fuel ts
    if g.strict then
      unassigned g fuel ts a rest
    return (a, rest)

/-- Check that an expression does not seem to be assigned to. -/
def unassigned (g : Grammar) : Nat → Tokens → Phrase → Tokens → Parsed Unit
  | 0, ts, _, _ => .error (.unexpected ts)
  | fuel + 1, ts, a, rest =>
    if startsWith "=" rest then do
      match ← tried (quotient g fuel (rest.drop 1)) with
      | none => return ()
      | some (b, after) =>
        if startsWithEquals after then return ()
        else if opensWithAssignment ts then throw (g.reject .comparisonMeant a.first b.last after)
        else if a.isFixed then return ()
        else throw (g.reject (.notAssignable a.value.description true) a.first a.last after)
    else if startsWith ":=" rest && a.value.name?.isNone then do
      match ← tried (expression g fuel (rest.drop 1)) with
      | none => return ()
      | some (_, after) => throw (g.reject (.notNameable a.value.description) a.first a.last after)
    else .ok ()

/-- A mapping or a set, after its opening bracket. It is a mapping where a colon
follows the first element. -/
def display (g : Grammar) : Nat → Located → Tokens → Parsed (Phrase × Tokens)
  | 0, _, ts => .error (.unexpected ts)
  | fuel + 1, t, ts =>
    match expect "\x7d" ts with
    | .ok (c, rest) => .ok (.whole (.mapping [] t.line) t c false, rest)
    | .error _ => do
      let (a, rest) ← expression g fuel ts
      if startsWith ":" rest then
        let ((entries, closing), rest) ← entries g fuel a rest
        return (.whole (.mapping entries t.line) t closing false, rest)
      else
        if g.strict then
          unassigned g fuel ts a rest
        let (e, rest) ← moreItems g false "\x7d" fuel a rest
        return (.whole (.set (e.items.map Phrase.value) t.line) t e.closing false, rest)

/-- The entries of a mapping from the colon of a key on, and the closing bracket.
Strictly, every key has a colon and every colon a value. -/
def entries (g : Grammar) : Nat → Phrase → Tokens →
    Parsed ((List (Expression × Expression) × Located) × Tokens)
  | 0, _, ts => .error (.unexpected ts)
  | fuel + 1, key, ts => do
    let (colon, rest) ← expect ":" ts
    if g.strict && (startsWith "\x7d" rest || startsWith "," rest) then
      throw (g.reject .missingValue colon colon rest)
    let (value, rest) ← expression g fuel rest
    let entry := (key.value, value.value)
    match expect "\x7d" rest with
    | .ok (c, rest) => return (([entry], c), rest)
    | .error _ =>
      let (_, rest) ← expect "," rest
      match expect "\x7d" rest with
      | .ok (c, rest) => return (([entry], c), rest)
      | .error _ =>
        let (key, rest) ← quotient g fuel rest
        if g.strict && !startsWith ":" rest then
          throw (g.rejectKey key rest)
        let ((more, closing), rest) ← entries g fuel key rest
        return ((entry :: more, closing), rest)

end

end Grammar

end LiveSession.Script
