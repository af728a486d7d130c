import LiveSession.Script.Phrase

/-!
# The grammar of a script

A script is a line of statements or a loop, and nothing follows it but blanks
and comments. Where tokens do not make one, they are read again strictly. A
defect of the characters further on, or an opening bracket without a closing
one, goes before other reasons. A text that does not go wrong before its end
was seen could be the beginning of a script.
-/

namespace LiveSession.Script

/-- The targets and the value of an assignment; without targets it is an
expression. -/
structure Assignment where
  targets : List String
  value : Phrase

namespace Grammar

/-- Read names between equals signs, and what follows the last of them. What is
no name may have an equals sign after it, too. -/
def assignment (g : Grammar) : Nat → Tokens → Parsed (Assignment × Tokens)
  | 0, ts => .error (.unexpected ts)
  | fuel + 1, ts => do
    let (a, rest) ← expressions g fuel ts
    match a.value.name?, expect "=" rest with
    | some n, .ok (_, rest) =>
      let (more, rest) ← assignment g fuel rest
      return ({ more with targets := n :: more.targets }, rest)
    | _, _ => return (⟨[], a⟩, rest)

/-- Check the elements after the first one of a tuple without parentheses; what
follows it is returned. -/
def unassignedMore (g : Grammar) : Nat → Tokens → Parsed Tokens
  | 0, ts => .error (.unexpected ts)
  | fuel + 1, ts =>
    match expect "," ts with
    | .error _ => .ok ts
    | .ok (_, rest) => do
      match ← tried (element g fuel rest) with
      | none => return rest
      | some (_, rest) => unassignedMore g fuel rest

/-- What several things in brackets are called where no annotation can be given to
them. -/
def several? : Expression → Option String
  | .list _ => some "list"
  | .tuple _ => some "tuple"
  | _ => none

/-- Check that a phrase is given no annotation, which stands after a colon. -/
def unannotated (g : Grammar) (fuel : Nat) (defect : Defect) (a : Phrase) (ts : Tokens) :
    Parsed Unit := do
  if startsWith ":" ts then
    match ← tried (expression g fuel (ts.drop 1)) with
    | some (_, after) => throw (g.reject defect a.first a.last after)
    | none => return ()

/-- Check that an expression is no target of an assignment or an annotation. -/
def noTarget (g : Grammar) (fuel : Nat) (ts : Tokens) : Parsed Unit := do
  let (a, rest) ← expression g fuel ts
  match several? a.value with
  | some what => unannotated g fuel (.annotatedSeveral what) a rest
  | none => pure ()
  unassigned g fuel ts a rest
  if startsWith "," rest then
    unannotated g fuel (.annotatedSeveral "tuple") a (← unassignedMore g fuel rest)
  else if a.value.name?.isNone then unannotated g fuel .notAnnotatable a rest

/-- Check that the value of an assignment is no target itself. -/
def noLastTarget (g : Grammar) (fuel : Nat) (a : Assignment) (ts : Tokens) : Parsed Unit := do
  if startsWith "=" ts then
    match a.value.obstacle with
    | some o => throw (g.reject (.notAssignable o.what false) o.first o.last ts)
    | none => return ()
  else if a.targets.isEmpty && a.value.value.name?.isNone &&
      augmentingMarks.any fun m => startsWith m ts then
    match ← tried (expressions g fuel (ts.drop 1)) with
    | some (_, after) =>
      throw (g.reject (.notAugmentable a.value.value.description) a.value.first a.value.last after)
    | none => return ()

/-- An assignment or an expression as a statement, which starts on a line. -/
def evaluation (g : Grammar) (fuel line : Nat) (ts : Tokens) : Parsed (Statement × Tokens) := do
  let read := assignment g fuel ts
  let isTarget := match read with
    | .ok (a, rest) => a.targets.isEmpty || startsWith "=" rest
    | .error (.unexpected _) => true
    | .error (.rejected _ _) => false
  if g.strict && isTarget then
    let _ ← tried (noTarget g fuel ts)
  let (a, rest) ← read
  if g.strict then noLastTarget g fuel a rest
  if startsWith "=" rest then throw (.unexpected rest)
  if a.targets.isEmpty then return (.evaluate a.value.value line, rest)
  else return (.assign a.targets a.value.value, rest)

/-- What is raised, if anything. -/
def raised (g : Grammar) (fuel : Nat) (t : Located) (ts : Tokens) :
    Parsed (Statement × Tokens) :=
  match expression g fuel ts with
  | .ok (a, rest) => .ok (.raise (some a.value) t.line, rest)
  | .error (.unexpected reached) =>
    if reached.length = ts.length then .ok (.raise none t.line, ts)
    else .error (.unexpected reached)
  | .error h => .error h

/-- A statement that is no loop. -/
def simple (g : Grammar) (fuel : Nat) (ts : Tokens) : Parsed (Statement × Tokens) :=
  match ts with
  | [] => .error (.unexpected ts)
  | t :: rest =>
    if t.isKeyword "raise" then g.raised fuel t rest
    else if t.isKeyword "pass" then .ok (.pass, rest)
    else g.evaluation fuel t.line ts

/-- A line of statements between semicolons, and its end. -/
def line (g : Grammar) : Nat → Tokens → Parsed ((List Statement × Located) × Tokens)
  | 0, ts => .error (.unexpected ts)
  | fuel + 1, ts => do
    let (s, rest) ← simple g fuel ts
    match expect ";" rest with
    | .error _ =>
      let (t, rest) ← expectToken .lineEnd rest
      return (([s], t), rest)
    | .ok (_, rest) =>
      match expectToken .lineEnd rest with
      | .ok (t, rest) => return (([s], t), rest)
      | .error _ =>
        let ((more, t), rest) ← line g fuel rest
        return ((s :: more, t), rest)

/-- The target of a loop, which is a name. -/
def counter (g : Grammar) (fuel : Nat) (ts : Tokens) : Parsed (String × Tokens) :=
  match expressions { g with strict := false } fuel ts with
  | .error h => .error h
  | .ok (a, rest) =>
    match a.value.name? with
    | some n => .ok (n, rest)
    | none => .error (.unexpected rest)

/-- Check that what should be the target of a loop can be assigned to. -/
def noObstacle (g : Grammar) (fuel : Nat) (ts : Tokens) : Parsed Unit := do
  let (a, rest) ← expressions g fuel ts
  match a.obstacle with
  | some o => throw (g.reject (.notAssignable o.what false) o.first o.last rest)
  | none => return ()

/-- Check the end of the header of a loop, which starts with a token. -/
def header (g : Grammar) (first : Located) (ts : Tokens) : Parsed Unit :=
  if startsWithToken .lineEnd ts then .error (g.rejectLast .missingColon ts)
  else if startsWith ":" ts && startsWithToken .lineEnd (ts.drop 1) &&
      !startsWithToken .indent (ts.drop 2) then
    .error (g.rejectLast (.missingBody first.line) (ts.drop 2))
  else .ok ()

mutual

/-- A loop, after its keyword. -/
def loop (g : Grammar) : Nat → Located → Tokens → Parsed (Statement × Tokens)
  | 0, _, ts => .error (.unexpected ts)
  | fuel + 1, first, ts => do
    let target := do
      let (n, rest) ← counter g fuel ts
      let (_, rest) ← expectIf (Located.isKeyword "in") rest
      return (n, rest)
    match target with
    | .error h =>
      if g.strict then noObstacle g fuel ts
      throw h
    | .ok (n, rest) =>
      let (elements, rest) ← expressions g fuel rest
      if g.strict then header g first rest
      let (_, rest) ← expect ":" rest
      let (body, rest) ← block g fuel rest
      return (.loop n elements.value first.line body, rest)

/-- The body of a loop: the rest of the line, or lines that are indented
further. -/
def block (g : Grammar) : Nat → Tokens → Parsed (List Statement × Tokens)
  | 0, ts => .error (.unexpected ts)
  | fuel + 1, ts =>
    match expectToken .lineEnd ts with
    | .error _ => do
      let ((body, _), rest) ← line g fuel ts
      return (body, rest)
    | .ok (_, rest) => do
      let (_, rest) ← expectToken .indent rest
      statements g fuel rest

/-- Statements up to the end of their depth, of which there is one at least. -/
def statements (g : Grammar) : Nat → Tokens → Parsed (List Statement × Tokens)
  | 0, ts => .error (.unexpected ts)
  | fuel + 1, ts => do
    let (body, rest) ← statement g fuel ts
    match expectToken .unindent rest with
    | .ok (_, rest) => return (body, rest)
    | .error _ =>
      let (more, rest) ← statements g fuel rest
      return (body ++ more, rest)

/-- A loop, or a line of other statements. -/
def statement (g : Grammar) : Nat → Tokens → Parsed (List Statement × Tokens)
  | 0, ts => .error (.unexpected ts)
  | fuel + 1, ts =>
    match expectIf (Located.isKeyword "for") ts with
    | .ok (first, rest) => do
      let (s, rest) ← loop g fuel first rest
      return ([s], rest)
    | .error _ => do
      let ((body, _), rest) ← line g fuel ts
      return (body, rest)

end

/-- A script, and the last token of it: a loop with a line end of its own, or a
line. -/
def script (g : Grammar) (fuel : Nat) (ts : Tokens) :
    Parsed ((List Statement × Located) × Tokens) :=
  match expectIf (Located.isKeyword "for") ts with
  | .ok (first, rest) => do
    let (s, rest) ← loop g fuel first rest
    let (t, rest) ← expectToken .lineEnd rest
    return (([s], t), rest)
  | .error _ => line g fuel ts

end Grammar

/-- How a script is rejected that goes wrong when the first of some tokens had
been looked at: a defect of the characters after it goes before others. -/
def overruled (source : Source) (r : Rejection) (reached : Located) : Tokens → Rejection
  | [] => r
  | t :: ts =>
    match t.token with
    | .broken (.characters other) => other
    | .broken _ =>
      match t.waiting with
      | b :: _ => if b.line < reached.line then b.unclosed source t else r
      | [] => r
    | _ => overruled source r reached ts

/-- How a script is rejected that goes wrong at the first of some tokens. -/
def overruledAt (source : Source) (r : Rejection) (ts : Tokens) : Rejection :=
  match ts with
  | [] => r
  | t :: rest => if startsBroken ts then r else overruled source r t rest

/-- Whether a line has blanks and a comment only. -/
def isIdleLine (isBlank : Char → Bool) (l : List Char) : Bool :=
  match l.dropWhile isBlank with
  | [] => true
  | c :: _ => c == '#'

/-- Whether something other than blanks and comments is left. -/
def hasSurplus (cs : List Char) : Bool :=
  (Text.splitLines cs).any fun l => !isIdleLine Token.isGap l

/-- More than can be needed to read tokens: few steps are taken for each. -/
def fuelFor (ts : Tokens) : Nat :=
  16 * ts.length + 16

/-- How a script is rejected that does not fit its tokens: that of the strict
reading, if there is one. -/
def explained (source : Source) (k : Located) (ts all : Tokens) : Rejection :=
  match Grammar.script { source, strict := true } (fuelFor all) all with
  | .error (.rejected r reached) => overruledAt source r reached
  | _ =>
    match k.token with
    | .indent => k.rejectLast source .strayIndent
    | .unindent => k.rejectLast source .strayUnindent
    | _ => overruledAt source (k.reject source .unexpected k) ts

/-- How a script is rejected, for which reading its tokens stopped. -/
def rejectionOf (source : Source) (h : Halt) (all : Tokens) : Rejection :=
  let ts := match h with
    | .unexpected ts => ts
    | .rejected _ ts => ts
  match ts, h with
  | [], .rejected r _ => r
  | [], .unexpected _ => { defect := .unexpected, line := 1, shown := [], start := 0 }
  | k :: _, h =>
    if k.after.ended then k.rejectLast source .unfinished
    else
      match k.token, h with
      | .broken cause, _ => cause.rejection source k
      | _, .rejected r _ => overruledAt source r ts
      | _, .unexpected _ => explained source k ts all

/-- Read a script, whose lines end with line feeds only. -/
def readScript (cs : List Char) : Except Rejection (List Statement) :=
  let source := Source.ofChars cs
  let ts := Layout.tokens source cs
  match Grammar.script { source } (fuelFor ts) ts with
  | .error h => .error (rejectionOf source h ts)
  | .ok ((body, t), _) =>
    if hasSurplus t.after.rest then .error (t.rejectLast source .surplus) else .ok body

/-- What a text is. -/
inductive Reading where
  /-- A text of blank lines and comments. -/
  | nothing
  /-- The beginning of a script. -/
  | unfinished
  | script (body : List Statement)
  | rejected (rejection : Rejection)

namespace Reading

/-- The defect of a text with a null character. -/
def nullCharacter : Rejection :=
  { defect := .nullCharacter, line := 1, shown := [], start := 0 }

/-- Read a text. One that is no script is the beginning of one if it is a script
with one more line feed, or is unfinished then. -/
def ofText (cs : List Char) : Reading :=
  if (Text.splitLines cs).all (isIdleLine Text.isBlank) then .nothing
  else if cs.contains '\x00' then .rejected nullCharacter
  else
    match readScript (Text.unifyBreaks cs) with
    | .ok body => .script body
    | .error r =>
      match readScript (Text.unifyBreaks (cs ++ ['\n'])) with
      | .ok _ => .unfinished
      | .error again => if again.defect = .unfinished then .unfinished else .rejected r

end Reading

end LiveSession.Script
