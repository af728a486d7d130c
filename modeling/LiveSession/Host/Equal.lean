import LiveSession.Assoc
import LiveSession.Host

/-!
# Equality of host values

Two numbers are equal when they stand for the same number, whatever their
types; a boolean counts as one or zero. Texts are equal by their characters,
runs element by element, sets as sets, moments by what they denote, structured
values by their shape and their parts. Values of any other kind are told apart.
This is the equality that decides which keys of a mapping and which members of
a set coincide. A value that can change is neither a key nor a member.
-/

namespace LiveSession.Host

/-- A boolean or a whole number as a whole number. -/
def integer? : Host → Option Int
  | .bool b => some (if b then 1 else 0)
  | .int i => some i
  | .numbered _ i => some i
  | _ => none

/-- The exact numeral of a number that has one, booleans included. -/
def numeral? : Host → Option Numeral
  | .double d => some d.numeral
  | .decimal d => some d.numeral
  | h => h.integer?.map Numeral.ofInt

/-- Whether a ratio is the number that a numeral stands for. -/
def ratioSame (q : Rat) : Numeral → Bool
  | .finite negative digits exponent =>
    -- past these powers of ten the numeral is no ratio that is written out
    if exponent.natAbs ≤ 2000 then
      let r := Shortest.decimalRatio digits exponent
      q == signedRatio negative r.1 r.2
    else false
  | _ => false

/-- Equality of two numbers; `none` where either is no number. -/
def numberSame? : Host → Host → Option Bool
  | .fraction p, .fraction q => some (p == q)
  | .complex a b, .complex c d =>
    some (a.numeral.coincide c.numeral && b.numeral.coincide d.numeral)
  | .fraction p, b => b.numeral?.map (ratioSame p)
  | a, .fraction q => a.numeral?.map (ratioSame q)
  | a, b =>
    match a.numeral?, b.numeral? with
    | some m, some n => some (m.coincide n)
    | _, _ => none

/-- The characters of a text. -/
def text? : Host → Option String
  | .string s => some s
  | .label _ s => some s
  | _ => none

/-- Equality of two progressions, by their terms. -/
def sameRange (start stop step start' stop' step' : Int) : Bool :=
  let n := rangeLength start stop step
  n == rangeLength start' stop' step' &&
    (n == 0 || (start == start' && (n == 1 || step == step')))

mutual

/-- Equality of two values. -/
def same : Host → Host → Bool
  | .null, .null => true
  | .constant a _, .constant b _ => a == b
  | .moment a, .moment b => a.same b
  | .duration a, .duration b => a == b
  | .binary _ a, .binary _ b => a == b
  | .range a b c, .range a' b' c' => sameRange a b c a' b' c'
  | .sequence .list a, .sequence .list b => sameItems a b
  | .sequence .tuple a, .sequence .tuple b => sameItems a b
  | .sequence .set a, .sequence .set b => a.length == b.length && sameMembers a b
  | .sequence .set a, .sequence .frozenSet b => a.length == b.length && sameMembers a b
  | .sequence .frozenSet a, .sequence .set b => a.length == b.length && sameMembers a b
  | .sequence .frozenSet a, .sequence .frozenSet b => a.length == b.length && sameMembers a b
  | .structured a, .structured b => sameStructured a b
  | .entity a, .entity b => a == b
  | a, b =>
    match numberSame? a b with
    | some answer => answer
    | none =>
      match text? a, text? b with
      | some s, some t => s == t
      | _, _ => false

/-- Equality of two runs, place by place. -/
def sameItems : List Host → List Host → Bool
  | [], [] => true
  | a :: as, b :: bs => same a b && sameItems as bs
  | _, _ => false

/-- Whether every member of the first run is in the second. -/
def sameMembers : List Host → List Host → Bool
  | [], _ => true
  | a :: as, bs => bs.any (fun b => same a b) && sameMembers as bs

/-- Equality of two structured values. -/
def sameStructured : Structured → Structured → Bool
  | .null, .null => true
  | .bool a, .bool b => a == b
  | .string a, .string b => a == b
  | .int a, .int b => a == b
  | .double a, .double b => a.numeral.coincide b.numeral
  | .decimal a, .decimal b => a.numeral.coincide b.numeral
  | .array a, .array b => sameStructuredItems a b
  | .object a, .object b => sameStructuredFields a b
  | .foreign a, .foreign b => same a b
  | _, _ => false

/-- Equality of the items of two arrays, place by place. -/
def sameStructuredItems : List Structured → List Structured → Bool
  | [], [] => true
  | a :: as, b :: bs => sameStructured a b && sameStructuredItems as bs
  | _, _ => false

/-- Equality of the fields of two objects, place by place. -/
def sameStructuredFields : List (String × Structured) → List (String × Structured) → Bool
  | [], [] => true
  | (k, a) :: as, (l, b) :: bs => k == l && sameStructured a b && sameStructuredFields as bs
  | _, _ => false

end

/-- What is said of a value of a type that is neither key nor member. -/
def unhashable (h : Host) : String :=
  "unhashable type: '" ++ h.qualifiedTypeName ++ "'"

mutual

/-- Why a value can be neither a key nor a member; `none` where it can. -/
def hashDefect? : Host → Option String
  | .decimal d => if d.isSignaling then some "Cannot hash a signaling NaN value" else none
  | .binary .growable b => some (unhashable (.binary .growable b))
  | .sequence .tuple items => hashDefectItems? items
  | .sequence .frozenSet _ => none
  | .sequence kind items => some (unhashable (.sequence kind items))
  | .mapping kind entries => some (unhashable (.mapping kind entries))
  | .record .object _ => none
  | .record kind fields => some (unhashable (.record kind fields))
  | .envelope root => some (unhashable (.envelope root))
  | .structured v => hashDefectStructured? v
  | .cyclic .object => none
  | .cyclic kind => some (unhashable (.cyclic kind))
  | .entity o =>
    match o.kind with
    | .view false => some (unhashable (.entity o))
    | .thing false => some (unhashable (.entity o))
    | _ => none
  | _ => none

/-- The first defect among elements. -/
def hashDefectItems? : List Host → Option String
  | [] => none
  | h :: rest =>
    match hashDefect? h with
    | some defect => some defect
    | none => hashDefectItems? rest

/-- The defect of a structured value is that of its first part with one. -/
def hashDefectStructured? : Structured → Option String
  | .array items => hashDefectStructuredItems? items
  | .object fields => hashDefectStructuredFields? fields
  | .decimal d => if d.isSignaling then some "Cannot hash a signaling NaN value" else none
  | .foreign h => hashDefect? h
  | _ => none

/-- The first defect among the items of an array. -/
def hashDefectStructuredItems? : List Structured → Option String
  | [] => none
  | v :: rest =>
    match hashDefectStructured? v with
    | some defect => some defect
    | none => hashDefectStructuredItems? rest

/-- The first defect among the fields of an object. -/
def hashDefectStructuredFields? : List (String × Structured) → Option String
  | [] => none
  | (_, v) :: rest =>
    match hashDefectStructured? v with
    | some defect => some defect
    | none => hashDefectStructuredFields? rest

end

/-- A mapping built by putting its entries one after the other. -/
def mappingOf (kind : MappingKind) (entries : List (Host × Host)) : Host :=
  .mapping kind (Assoc.ofList same entries)

/-- The mapping of entries, or why the first bad key among them is none. -/
def mapping? (kind : MappingKind) (entries : List (Host × Host)) : Except String Host :=
  match entries.findSome? fun e => e.1.hashDefect? with
  | some defect => .error defect
  | none => .ok (mappingOf kind entries)

/-- A set built by adding its members one after the other. -/
def setOf (kind : SequenceKind) (members : List Host) : Host :=
  .sequence kind (Assoc.distinct same members)

/-- The set of members, or why the first bad one among them is none. -/
def set? (kind : SequenceKind) (members : List Host) : Except String Host :=
  match members.findSome? hashDefect? with
  | some defect => .error defect
  | none => .ok (setOf kind members)

end LiveSession.Host
