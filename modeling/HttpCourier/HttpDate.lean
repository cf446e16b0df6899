import HttpCourier.Item.Basic
import HttpCourier.Number.Binary64

/-!
# Dates of messages

`HttpDate.ofSeconds` writes a moment, given in seconds since the start of 1970, as a date in
Greenwich time (RFC 1123). `civil` finds the day of the calendar by eras of 400 years, each of which
begins in March, so that the leap day comes last.
-/

namespace HttpCourier.HttpDate

/-- Why a moment has no date. -/
inductive Error where
  | yearOutOfRange (year : Int)
  | tooFar
  | beyondClock
  | notANumber
  | infinite
  deriving DecidableEq, Repr

/-- The words for a moment without a date. -/
def Error.message : Error → String
  | .yearOutOfRange year => "year " ++ toString year ++ " is out of range"
  | .tooFar => "[Errno 75] Value too large for defined data type"
  | .beyondClock => "timestamp out of range for platform time_t"
  | .notANumber => "Invalid value NaN (not a number)"
  | .infinite => "cannot convert float infinity to integer"

/-- The name of the kind of an error. -/
def Error.label : Error → String
  | .yearOutOfRange _ | .notANumber => "ValueError"
  | .tooFar => "OSError"
  | .beyondClock | .infinite => "OverflowError"

/-- A day of the calendar. -/
structure Day where
  year : Int
  month : Nat
  day : Nat
  deriving DecidableEq, Repr

/-- The day of the calendar that is `days` days after the first of 1970. -/
def civil (days : Int) : Day :=
  let z := days + 719468
  let era := z.fdiv 146097
  let dayOfEra := (z - era * 146097).toNat
  let yearOfEra :=
    (dayOfEra - dayOfEra / 1460 + dayOfEra / 36524 - dayOfEra / 146096) / 365
  let dayOfYear := dayOfEra - (365 * yearOfEra + yearOfEra / 4 - yearOfEra / 100)
  let fromMarch := (5 * dayOfYear + 2) / 153
  let month := if fromMarch < 10 then fromMarch + 3 else fromMarch - 9
  { year := era * 400 + yearOfEra + (if month ≤ 2 then 1 else 0), month,
    day := dayOfYear - (153 * fromMarch + 2) / 5 + 1 }

/-- The days of the week, from the first day of 1970. -/
def weekdays : List String := ["Thu", "Fri", "Sat", "Sun", "Mon", "Tue", "Wed"]

/-- The months. -/
def months : List String :=
  ["Jan", "Feb", "Mar", "Apr", "May", "Jun", "Jul", "Aug", "Sep", "Oct", "Nov", "Dec"]

/-- The calendar form of a moment: the date and the time, the largest unit first. -/
def calendarText (seconds : Int) : String :=
  let days := seconds.fdiv 86400
  let rest := (seconds - days * 86400).toNat
  let d := civil days
  let two := Ids.paddedDecimal 2
  toString d.year ++ "-" ++ two d.month ++ "-" ++ two d.day ++ "T" ++ two (rest / 3600) ++ ":"
    ++ two (rest / 60 % 60) ++ ":" ++ two (rest % 60) ++ "Z"

/-- The date of a moment. -/
def ofSeconds (seconds : Int) : Except Error String :=
  let days := seconds.fdiv 86400
  let rest := (seconds - days * 86400).toNat
  let d := civil days
  let two := Ids.paddedDecimal 2
  if Nat.pow 2 63 ≤ seconds.natAbs then .error .beyondClock
  else if Nat.pow 2 31 ≤ d.year.natAbs then .error .tooFar
  else if d.year < 1 ∨ 9999 < d.year then .error (.yearOutOfRange d.year)
  else .ok (weekdays.getD (days.fmod 7).toNat "" ++ ", " ++ two d.day ++ " "
    ++ months.getD (d.month - 1) "" ++ " " ++ Ids.paddedDecimal 4 d.year.toNat ++ " "
    ++ two (rest / 3600) ++ ":" ++ two (rest / 60 % 60) ++ ":" ++ two (rest % 60) ++ " GMT")

/-- The whole seconds of a moment, which is first rounded to microseconds. -/
def wholeSeconds : Binary64 → Except Error Int
  | .nan => .error .notANumber
  | .infinite _ => .error .infinite
  | .finite negative m e =>
    let (num, den) := Binary64.ratio m e
    let micros : Int := Number.roundQuotient (num * 1000000) den
    .ok ((if negative then -micros else micros).fdiv 1000000)

/-- The date of a moment with a fraction of a second. -/
def ofReal (x : Binary64) : Except Error String := do
  let seconds ← wholeSeconds x
  ofSeconds seconds

end HttpCourier.HttpDate
