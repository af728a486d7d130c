import LiveSession.Host.Equal

/-!
# The text of host values

A value is written in two ways. `quoted` is the form that shows what the value
is: texts stand in quotes. `text` is the form that is printed and used for
keys: a text stands for itself, a constant for its name, a moment for its ISO
text with a blank between date and time, a model for its fields. Inside a
sequence or a mapping every value is written in the quoted form.

An integer with too many digits is not written, and neither is a value in whose
form one stands. What shows where an object is kept, such as the form of a
handle, is not known; a fixed text stands for it.
-/

namespace LiveSession.Host

/-- Pieces between brackets, separated by commas. -/
def bracketed (left right : String) (pieces : List String) : String :=
  left ++ String.intercalate ", " pieces ++ right

/-- Pieces of a tuple: a single one is followed by a comma. -/
def tupled (pieces : List String) : String :=
  match pieces with
  | [p] => "(" ++ p ++ ",)"
  | ps => bracketed "(" ")" ps

/-- The arguments that denote a time of day: seconds and microseconds only
where they are not zero. -/
def clockArguments (c : Clock) : List String :=
  let n := Text.decimalText
  let zone : List String := match c.offset with
    | none => []
    | some 0 => ["tzinfo=datetime.timezone.utc"]
    | some m =>
      let days := m.fdiv 1440
      let seconds := (m - days * 1440) * 60
      let parts := (if days = 0 then [] else ["days=" ++ Text.integerText days]) ++
        (if seconds = 0 then [] else ["seconds=" ++ Text.integerText seconds])
      ["tzinfo=datetime.timezone(" ++ bracketed "datetime.timedelta(" ")" parts ++ ")"]
  let tail :=
    if c.microsecond = 0 then (if c.second = 0 then [] else [n c.second])
    else [n c.second, n c.microsecond]
  [n c.hour, n c.minute] ++ tail ++ zone

/-- A moment as the expression that makes it. -/
def quotedMoment : Moment → String
  | .date d => bracketed "datetime.date(" ")" ([d.year, d.month, d.day].map Text.decimalText)
  | .time c => bracketed "datetime.time(" ")" (clockArguments c)
  | .instant d c =>
    bracketed "datetime.datetime(" ")"
      ([d.year, d.month, d.day].map Text.decimalText ++ clockArguments c)

/-- A part of a complex number: a whole one is written without a point. -/
def complexPart (d : Double) : String :=
  let cs := d.text.toList
  String.ofList (if cs.reverse.take 2 == ['0', '.'] then cs.take (cs.length - 2) else cs)

/-- A complex number: its imaginary part alone where the real one is zero. -/
def complexText (real imaginary : Double) : String :=
  let im := complexPart imaginary
  if real.text == "0.0" then im ++ "j"
  else
    let sign := if imaginary.isNegative then "" else "+"
    "(" ++ complexPart real ++ sign ++ im ++ "j)"

/-- A length of time as the expression that makes it. -/
def quotedDuration (seconds : Int) : String :=
  let days := seconds.fdiv 86400
  let rest := seconds - days * 86400
  let parts := (if days = 0 then [] else ["days=" ++ Text.integerText days]) ++
    (if rest = 0 then [] else ["seconds=" ++ Text.integerText rest])
  bracketed "datetime.timedelta(" ")" (if parts.isEmpty then ["0"] else parts)

/-- A length of time as days and a time of day. -/
def durationText (seconds : Int) : String :=
  let days := seconds.fdiv 86400
  let rest := (seconds - days * 86400).toNat
  let clock := Text.decimalText (rest / 3600) ++ ":" ++ padded 2 (rest / 60 % 60) ++ ":" ++
    padded 2 (rest % 60)
  if days = 0 then clock
  else
    Text.integerText days ++ (if days.natAbs = 1 then " day, " else " days, ") ++ clock

/-- A ratio with a stroke, or a whole number. -/
def fractionText (q : Rat) : String :=
  if q.den = 1 then Text.integerText q.num
  else Text.integerText q.num ++ "/" ++ Text.decimalText q.den

/-- A value that contains itself; the dots stand for it. -/
def quotedCycle : CycleKind → String
  | .list => "[1, [...]]"
  | .mapping => "\x7b'a': 1, 'self': \x7b...\x7d\x7d"
  | .object => "<object>"

mutual

/-- A structured value as the expression that makes it. -/
def quotedStructured : Structured → String
  | .null => "NullValue()"
  | .bool b => "BoolValue(value=" ++ (if b then "True" else "False") ++ ")"
  | .string s => "StringValue(value=" ++ Text.quote s ++ ")"
  | .int i => "IntValue(value=" ++ Text.integerText i ++ ")"
  | .double d => "DoubleValue(value=" ++ d.text ++ ")"
  | .decimal d => "DecimalValue(value=Decimal(" ++ Text.quote d.text ++ "))"
  | .array items => "ArrayValue(items=" ++ tupled (quotedStructuredItems items) ++ ")"
  | .object fields => "ObjectValue(fields=" ++ tupled (quotedStructuredFields fields) ++ ")"
  | .shapeless => "StructuredValue()"
  | .foreign h => quoted h

/-- The items of a structured array. -/
def quotedStructuredItems : List Structured → List String
  | [] => []
  | v :: rest => quotedStructured v :: quotedStructuredItems rest

/-- The fields of a structured object, as pairs. -/
def quotedStructuredFields : List (String × Structured) → List String
  | [] => []
  | (k, v) :: rest =>
    tupled [Text.quote k, quotedStructured v] :: quotedStructuredFields rest

/-- The form that shows what a value is. -/
def quoted : Host → String
  | .null => "None"
  | .bool b => if b then "True" else "False"
  | .int i => Text.integerText i
  | .double d => d.text
  | .decimal d => "Decimal(" ++ Text.quote d.text ++ ")"
  | .fraction q =>
    bracketed "Fraction(" ")" [Text.integerText q.num, Text.decimalText q.den]
  | .complex real imaginary => complexText real imaginary
  | .string s => Text.quote s
  | .label name s => "<" ++ name ++ ": " ++ Text.quote s ++ ">"
  | .numbered name i => "<" ++ name ++ ": " ++ Text.integerText i ++ ">"
  | .constant name i => "<" ++ name ++ ": " ++ Text.integerText i ++ ">"
  | .moment m => quotedMoment m
  | .duration seconds => quotedDuration seconds
  | .binary .fixed bytes => Text.quoteBytes bytes
  | .binary .growable bytes => "bytearray(" ++ Text.quoteGrowable bytes ++ ")"
  | .binary .view _ => "<memory>"
  | .range start stop step =>
    bracketed "range(" ")"
      (([start, stop] ++ if step = 1 then [] else [step]).map Text.integerText)
  | .sequence .list items => bracketed "[" "]" (quotedItems items)
  | .sequence .wrapped items => bracketed "[" "]" (quotedItems items)
  | .sequence .deque items => bracketed "deque([" "])" (quotedItems items)
  | .sequence .array items => bracketed "array('i', [" "])" (quotedItems items)
  | .sequence .tuple items => tupled (quotedItems items)
  | .sequence .set [] => "set()"
  | .sequence .set (item :: items) => bracketed "\x7b" "\x7d" (quotedItems (item :: items))
  | .sequence .frozenSet [] => "frozenset()"
  | .sequence .frozenSet (item :: items) =>
    bracketed "frozenset(\x7b" "\x7d)" (quotedItems (item :: items))
  | .mapping .ordered entries =>
    if entries.isEmpty then "OrderedDict()"
    else bracketed "OrderedDict([" "])" (quotedPairs entries)
  | .mapping .view entries => bracketed "mappingproxy(\x7b" "\x7d)" (quotedEntries entries)
  | .mapping _ entries => bracketed "\x7b" "\x7d" (quotedEntries entries)
  | .record .loose fields => bracketed "namespace(" ")" (quotedFields fields)
  | .record .model fields => bracketed "Model(" ")" (quotedFields fields)
  | .record .declared fields => bracketed "Data(" ")" (quotedFields fields)
  | .record .object fields => bracketed "<" ">" (quotedFields fields)
  | .envelope root => bracketed "RootModel[Any](root=" ")" [quoted root]
  | .handle _ _ => "<handle>"
  | .structured v => quotedStructured v
  | .cyclic kind => quotedCycle kind
  | .entity o => o.shown

/-- The quoted forms of a run of values. -/
def quotedItems : List Host → List String
  | [] => []
  | h :: rest => quoted h :: quotedItems rest

/-- Keys and values, with a colon between them. -/
def quotedEntries : List (Host × Host) → List String
  | [] => []
  | (k, v) :: rest => (quoted k ++ ": " ++ quoted v) :: quotedEntries rest

/-- Keys and values as pairs. -/
def quotedPairs : List (Host × Host) → List String
  | [] => []
  | (k, v) :: rest => tupled [quoted k, quoted v] :: quotedPairs rest

/-- Field names and values, with an equals sign between them. -/
def quotedFields : List (String × Host) → List String
  | [] => []
  | (k, v) :: rest => (k ++ "=" ++ quoted v) :: quotedFields rest

end

/-- The form that is printed and used for keys. -/
def text : Host → String
  | .string s => s
  | .label name _ => name
  | .numbered _ i => Text.integerText i
  | .constant name _ => name
  | .decimal d => d.text
  | .fraction q => fractionText q
  | .moment m => m.isoWith " "
  | .duration seconds => durationText seconds
  | .mapping .view entries => bracketed "\x7b" "\x7d" (quotedEntries entries)
  | .record .model fields => String.intercalate " " (quotedFields fields)
  | .envelope root => "root=" ++ quoted root
  | .entity o => o.printed
  | h => h.quoted

mutual

/-- Whether an integer with too many digits stands in the form that shows a structured
value. -/
def oversizedStructured : Structured → Bool
  | .int i => Text.isBeyondDigitLimit i
  | .array items => oversizedStructuredItems items
  | .object fields => oversizedStructuredFields fields
  | .foreign h => oversized h
  | _ => false

/-- Whether one stands in the form of some item of a structured array. -/
def oversizedStructuredItems : List Structured → Bool
  | [] => false
  | v :: rest => oversizedStructured v || oversizedStructuredItems rest

/-- Whether one stands in the form of some field of a structured object. -/
def oversizedStructuredFields : List (String × Structured) → Bool
  | [] => false
  | (_, v) :: rest => oversizedStructured v || oversizedStructuredFields rest

/-- Whether an integer with too many digits stands in the quoted form of a value. The
forms of plain objects and of mappings of the user's own making say nothing of what
is in them. -/
def oversized : Host → Bool
  | .int i => Text.isBeyondDigitLimit i
  | .fraction q => Text.isBeyondDigitLimit q.num || Text.isBeyondDigitLimit q.den
  | .numbered _ i => Text.isBeyondDigitLimit i
  | .constant _ i => Text.isBeyondDigitLimit i
  | .range start stop step => [start, stop, step].any Text.isBeyondDigitLimit
  | .sequence _ items => oversizedItems items
  | .mapping .custom _ => false
  | .mapping _ entries => oversizedEntries entries
  | .record .object _ => false
  | .record _ fields => oversizedFields fields
  | .envelope root => oversized root
  | .structured v => oversizedStructured v
  | .entity o => o.oversized
  | _ => false

/-- Whether one stands in the form of some element of a run. -/
def oversizedItems : List Host → Bool
  | [] => false
  | h :: rest => oversized h || oversizedItems rest

/-- Whether one stands in the form of some key or value. -/
def oversizedEntries : List (Host × Host) → Bool
  | [] => false
  | (k, v) :: rest => oversized k || oversized v || oversizedEntries rest

/-- Whether one stands in the form of some field. -/
def oversizedFields : List (String × Host) → Bool
  | [] => false
  | (_, v) :: rest => oversized v || oversizedFields rest

end

/-- Whether an integer with too many digits stands in the form that is printed. A
constant is printed by its name, whatever number it stands for. -/
def oversizedText : Host → Bool
  | .constant _ _ => false
  | .entity o => o.oversizedText
  | h => h.oversized

/-- The quoted form of a value; `none` where an integer in it has too many digits. -/
def quoted? (h : Host) : Option String :=
  if h.oversized then none else some h.quoted

/-- The form of a value that is printed; `none` where an integer in it has too many
digits. -/
def printed? (h : Host) : Option String :=
  if h.oversizedText then none else some h.text

/-- What printing comes to. -/
structure Printout where
  /-- What is written, piece by piece. -/
  pieces : List String
  /-- Whether all was written: printing ends at a value that is not written. -/
  whole : Bool

/-- Print values one after the other, with a separator between them and an ending. -/
def print (separator ending : String) : List Host → Printout
  | [] => ⟨[ending], true⟩
  | h :: rest =>
    match h.printed? with
    | none => ⟨[], false⟩
    | some t =>
      let later := print separator ending rest
      ⟨t :: (if rest.isEmpty then later.pieces else separator :: later.pieces), later.whole⟩

end LiveSession.Host
