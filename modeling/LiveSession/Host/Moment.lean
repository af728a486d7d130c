import LiveSession.Text.Digits

/-!
# Dates and times

A moment is a calendar date, a time of day or both. A time can carry an offset
in minutes from universal time; two times with offsets are equal when they
name the same instant, and a time with an offset never equals one without.
-/

namespace LiveSession

/-- A time of day. -/
structure Clock where
  hour : Nat
  minute : Nat
  second : Nat
  microsecond : Nat
  /-- Minutes ahead of universal time. -/
  offset : Option Int
  deriving DecidableEq, Repr

/-- A date of the proleptic Gregorian calendar. -/
structure Calendar where
  year : Nat
  month : Nat
  day : Nat
  deriving DecidableEq, Repr

/-- A date, a time of day, or a date with a time of day. -/
inductive Moment where
  | date (day : Calendar)
  | time (clock : Clock)
  | instant (day : Calendar) (clock : Clock)
  deriving DecidableEq, Repr

/-- A number with zeros in front up to a width. -/
def padded (width n : Nat) : String :=
  let digits := Text.decimalText n
  String.ofList (List.replicate (width - digits.length) '0') ++ digits

namespace Calendar

/-- Year, month and day with hyphens. -/
def iso (d : Calendar) : String :=
  padded 4 d.year ++ "-" ++ padded 2 d.month ++ "-" ++ padded 2 d.day

/-- Whether a year has a leap day. -/
def isLeap (year : Nat) : Bool :=
  year % 4 == 0 && (year % 100 != 0 || year % 400 == 0)

/-- The days of a year before a month. -/
def daysBeforeMonth (year month : Nat) : Nat :=
  let days := [0, 31, 59, 90, 120, 151, 181, 212, 243, 273, 304, 334].getD (month - 1) 0
  if 2 < month && isLeap year then days + 1 else days

/-- The count of days since the start of the calendar. -/
def dayNumber (d : Calendar) : Nat :=
  let y := d.year - 1
  y * 365 + y / 4 - y / 100 + y / 400 + daysBeforeMonth d.year d.month + d.day

/-- The month and the day of a day of a year, which is counted from zero. -/
def monthDay (year day : Nat) : Nat × Nat :=
  let month := ((List.range 12).filter fun m => daysBeforeMonth year (m + 1) ≤ day).length
  (month, day - daysBeforeMonth year month + 1)

/-- The last year of the calendar. -/
def lastYear : Nat := 9999

/-- The date of a count of days since the start of the calendar. -/
def ofDayNumber? (n : Int) : Option Calendar :=
  if n < 1 then none
  else
    let days := n.toNat - 1
    let before (year : Nat) : Nat := dayNumber ⟨year, 1, 1⟩ - 1
    -- the mean length of a year gives the year or one next to it
    let guess := days * 400 / 146097 + 1
    let year := if before (guess + 1) ≤ days then guess + 1
      else if before guess ≤ days then guess else guess - 1
    if lastYear < year then none
    else
      let part := monthDay year (days - before year)
      some ⟨year, part.1, part.2⟩

end Calendar

namespace Clock

/-- The offset as a sign, hours and minutes. -/
def offsetText : Option Int → String
  | none => ""
  | some m =>
    (if m < 0 then "-" else "+") ++ padded 2 (m.natAbs / 60) ++ ":" ++ padded 2 (m.natAbs % 60)

/-- Hours, minutes and seconds; microseconds only where there are any. -/
def iso (c : Clock) : String :=
  padded 2 c.hour ++ ":" ++ padded 2 c.minute ++ ":" ++ padded 2 c.second ++
    (if c.microsecond = 0 then "" else "." ++ padded 6 c.microsecond) ++ offsetText c.offset

/-- Minutes since midnight of universal time, where the offset is known. -/
def universalMinutes (c : Clock) : Int :=
  (c.hour * 60 + c.minute : Nat) - c.offset.getD 0

/-- Equality of times on the same day. -/
def same (a b : Clock) : Bool :=
  a.offset.isSome == b.offset.isSome && a.universalMinutes == b.universalMinutes &&
    a.second == b.second && a.microsecond == b.microsecond

end Clock

namespace Moment

/-- The ISO 8601 text; the given separator stands between date and time. -/
def isoWith (separator : String) : Moment → String
  | .date d => d.iso
  | .time c => c.iso
  | .instant d c => d.iso ++ separator ++ c.iso

/-- The ISO 8601 text. -/
def iso (m : Moment) : String := m.isoWith "T"

/-- A moment moved by a length of time; a date is moved by whole days. There is
none outside the calendar. -/
def after? (seconds : Int) : Moment → Option Moment
  | .date d =>
    (Calendar.ofDayNumber? (d.dayNumber + seconds.fdiv 86400)).map .date
  | .time _ => none
  | .instant d c =>
    let total : Int := ((c.hour * 3600 + c.minute * 60 + c.second : Nat) : Int) + seconds
    let rest := (total - total.fdiv 86400 * 86400).toNat
    let clock := { c with hour := rest / 3600, minute := rest / 60 % 60, second := rest % 60 }
    (Calendar.ofDayNumber? (d.dayNumber + total.fdiv 86400)).map fun day => .instant day clock

/-- Whether two moments are the same date, time or instant. -/
def same : Moment → Moment → Bool
  | .date a, .date b => a == b
  | .time a, .time b => a.same b
  | .instant d c, .instant d' c' =>
    c.offset.isSome == c'.offset.isSome &&
      (d.dayNumber * 1440 : Nat) + c.universalMinutes ==
        (d'.dayNumber * 1440 : Nat) + c'.universalMinutes &&
      c.second == c'.second && c.microsecond == c'.microsecond
  | _, _ => false

end Moment

end LiveSession
