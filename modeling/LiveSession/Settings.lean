import LiveSession.Host.Sum
import LiveSession.Validation

/-!
# Session settings

A session samples handles up to a limit and runs startup statements. The
settings come from three sources. The environment gives a limit as text. An
untrusted request is a mapping; its limit, or else the one of the environment,
is lowered to the ceiling, and its statements are whatever its entry yields
when gone through. Trusted fields are checked and taken as they are, without a
ceiling.
-/

namespace LiveSession

/-- The ceiling of a limit that comes from the environment or a request. -/
def maxSampleLimit : Int := 1000

/-- What a session is run with. -/
structure Settings where
  /-- The number of elements taken from a handle. -/
  sampleLimit : Nat := 10
  /-- The statements that are run when the session starts. -/
  startupStatements : List String := []
  deriving DecidableEq, Repr

/-- Why there are no settings. -/
inductive SettingsError where
  /-- The text, as quoted, is no integer. -/
  | unreadableInteger (quoted : String)
  /-- The text has this many digits, which are too many. -/
  | tooManyDigits (count : Nat)
  /-- An infinity is no integer; whether it is a decimal one. -/
  | infinite (decimal : Bool)
  /-- What is no number is no integer either; whether it is a decimal one. -/
  | undefined (decimal : Bool)
  /-- A value of this type does not denote an integer. -/
  | notNumeric (typeName : String)
  /-- A value has no entries to get; what is said of it. -/
  | noEntries (missing : String)
  /-- A value of this type stands where entries are to be got from. -/
  | notCallable (typeName : String)
  /-- A value of this type cannot be gone through. -/
  | notIterable (typeName : String)
  /-- Fields are wrong. -/
  | invalid (problems : List FieldProblem)
  deriving DecidableEq, Repr

/-- The wording of a settings error; invalid fields have a wording each. -/
def SettingsError.message : SettingsError → String
  | .unreadableInteger quoted => "invalid literal for int() with base 10: " ++ quoted
  | .tooManyDigits count =>
    Text.beyondDigitLimit (Text.digitDetail (Text.decimalText count))
  | .infinite false => "cannot convert float infinity to integer"
  | .infinite true => "cannot convert Infinity to integer"
  | .undefined false => "cannot convert float NaN to integer"
  | .undefined true => "cannot convert NaN to integer"
  | .notNumeric name =>
    "int() argument must be a string, a bytes-like object or a real number, not '" ++ name ++ "'"
  | .noEntries missing => missing
  | .notCallable name => "'" ++ name ++ "' object is not callable"
  | .notIterable name => "'" ++ name ++ "' object is not iterable"
  | .invalid _ => ""

namespace Settings

/-- A quoted text is cut to this many characters in a message. -/
def quotedWidth : Nat := 200

/-- The digits that stand at the start of a text, after white space and a
sign; none where underscores among them are out of place. -/
def leadingDigits (isDigit : Char → Bool) (cs : List Char) : List Char :=
  let unsigned := match cs with
    | '-' :: rest => rest
    | '+' :: rest => rest
    | _ => cs
  let run := unsigned.takeWhile fun c => isDigit c || c == '_'
  if run.head? == some '_' || run.getLast? == some '_' || Validation.hasDoubleUnderscore run then []
  else run.filter (· != '_')

/-- Read an integer from trimmed characters; `quoted` stands for them in a
message. The count of digits is looked at before what comes after them. -/
def limitOfChars (digit? : Char → Option Nat) (quoted : String) (cs : List Char) :
    Except SettingsError Int :=
  let count := (leadingDigits (fun c => (digit? c).isSome) cs).length
  if Text.digitLimit < count then .error (.tooManyDigits count)
  else
    match Text.integer? digit? cs with
    | some i => .ok i
    | none => .error (.unreadableInteger (String.ofList (quoted.toList.take quotedWidth)))

/-- Read a limit from a text that is quoted in a certain way: white space around
it is ignored, digits may be of any script. -/
def limitOfQuoted (quoted s : String) : Except SettingsError Int :=
  limitOfChars Text.decimalDigit? quoted (Text.trimBoth Text.isWhiteSpace s.toList)

/-- Read a limit from text. -/
def limitOfText (s : String) : Except SettingsError Int :=
  limitOfQuoted (Text.quote s) s

/-- Read a limit from bytes, as ASCII text. -/
def limitOfBytes (bytes : List Nat) : Except SettingsError Int :=
  limitOfChars Text.asciiDigit? (Text.quoteBytes (bytes.take quotedWidth))
    (Text.trimBoth (fun c => c.toNat < 0x80 && Text.isWhiteSpace c) (bytes.map Char.ofNat))

/-- The whole part of a double. -/
def limitOfDouble (d : Double) : Except SettingsError Int :=
  match d.quantity with
  | .finite q => .ok (Quantity.truncate q)
  | .infinite _ => .error (.infinite false)
  | .undefined => .error (.undefined false)

/-- The whole part of a decimal. -/
def limitOfDecimal (d : Decimal) : Except SettingsError Int :=
  match d.numeral with
  | .finite negative digits exponent => .ok (Decimal.wholePart negative digits exponent)
  | .infinite _ => .error (.infinite true)
  | .undefined => .error (.undefined true)

/-- The integer that a requested limit denotes. -/
def limitOfHost (h : Host) : Except SettingsError Int :=
  match h with
  | .double d => limitOfDouble d
  | .decimal d => limitOfDecimal d
  | .fraction q => .ok (Quantity.truncate q)
  | _ =>
    match h.integer?, h.text?, h.memory? with
    | some i, _, _ => .ok i
    | _, some s, _ => limitOfQuoted h.quoted s
    | _, _, some bytes => limitOfBytes bytes
    | _, _, _ => .error (.notNumeric h.qualifiedTypeName)

/-- Check the fields of settings and build them. -/
def validate (limit statements : Option Host) : Except SettingsError Settings :=
  let count : Except (List FieldProblem) Nat :=
    match limit with
    | none => .ok 10
    | some h => Validation.countField "sample_limit" h
  let texts : Except (List FieldProblem) (List String) :=
    match statements with
    | none => .ok []
    | some h => Validation.textsField "startup_statements" h
  match Validation.both count texts with
  | .ok fields => .ok ⟨fields.1, fields.2⟩
  | .error problems => .error (.invalid problems)

/-- Settings from the environment: a limit that is not empty is lowered to the
ceiling; without one the defaults hold. -/
def fromEnvironment : Option String → Except SettingsError Settings
  | none => validate none none
  | some s =>
    if s.isEmpty then validate none none
    else
      match limitOfText s with
      | .error e => .error e
      | .ok i => validate (some (.int (min i maxSampleLimit))) none

/-- The entries that can be got from a value: those of a mapping. A field that
is named as the getter is found in its place, and cannot be called. -/
def entriesOf (h : Host) : Except SettingsError (List (Host × Host)) :=
  match h with
  | .mapping _ entries => .ok entries
  | .cyclic .mapping => .ok []
  | .record _ fields =>
    match Assoc.find? (· == ·) "get" fields with
    | some v => .error (.notCallable v.qualifiedTypeName)
    | none => .error (.noEntries (h.noAttribute "get"))
  | _ => .error (.noEntries (h.noAttribute "get"))

/-- Settings from an untrusted request. The environment is read first. -/
def cap (environment : Option String) (requested : Host) : Except SettingsError Settings :=
  match fromEnvironment environment with
  | .error e => .error e
  | .ok defaults =>
    if !requested.isTruthy then .ok defaults
    else
      match entriesOf requested with
      | .error e => .error e
      | .ok entries =>
        let limit := (Host.member? "sample_limit" entries).getD (.int defaults.sampleLimit)
        match limitOfHost limit with
        | .error e => .error e
        | .ok i =>
          let statements := (Host.member? "startup_statements" entries).getD
            (.list (defaults.startupStatements.map .string))
          match statements.elements? with
          | none => .error (.notIterable statements.qualifiedTypeName)
          | some hs => validate (some (.int (min i maxSampleLimit))) (some (.list hs))

/-- Settings from trusted fields; unknown names are ignored. -/
def ofFields (fields : List (String × Host)) : Except SettingsError Settings :=
  validate (Assoc.find? (· == ·) "sample_limit" fields)
    (Assoc.find? (· == ·) "startup_statements" fields)

end Settings

end LiveSession
