import HttpCourier.HttpDate
import HttpCourier.Number.Parse
import HttpCourier.Text.Case

/-!
# Dates of cookies

A cookie says until when it is kept in one of many forms: the date of a message, the older one with
hyphens and two digits for the year, with or without the day of the week, the time of day and the
zone. `CookieDate.read` reads them all; zones other than Greenwich time are known by their distance
from it. The zone of the machine, which matters for two digits of a year only, is Greenwich time.
-/

namespace HttpCourier.CookieDate

open Text

/-- What stops the reader, so that no cookie of the answer is kept. A date that is merely not
understood is no such error. -/
inductive Error where
  /-- A date in the strict form names a month that there is not. -/
  | noSuchMonth
  | yearOutOfRange
  | tooManyDigits
  deriving DecidableEq, Repr

/-- How many digits of an integer are read. -/
def maxDigits : Nat := 4300

/-- An integer, unless it has too many digits. -/
def integer? (s : List Char) : Option Int :=
  if maxDigits < s.countP isDecimal then none else Number.parseInt? s

/-- White space of ASCII. -/
def isSpace (c : Char) : Bool := " \t\n\r\x0b\x0c".toList.contains c

/-- Letters of ASCII. -/
def isLetter (c : Char) : Bool := decide ('a' ≤ c ∧ c ≤ 'z') || decide ('A' ≤ c ∧ c ≤ 'Z')

/-- Letters and digits of ASCII, and the underscore. -/
def isWordChar (c : Char) : Bool := isLetter c || isAsciiDigit c || c == '_'

/-- The number that digits of ASCII write. -/
def decimal (digits : List Char) : Nat := digits.foldl (fun n d => 10 * n + (d.toNat - 48)) 0

/-- The place of a month in the year, the first being one. -/
def monthNumber? (name : List Char) : Option Nat :=
  ((HttpDate.months.map lower).idxOf? (lower (String.ofList name))).map (· + 1)

/-- The days from the start of 1970 to the first day of a month. -/
def daysBefore (year : Int) (month : Nat) : Int :=
  let year := if month ≤ 2 then year - 1 else year
  let era := year.fdiv 400
  let yearOfEra := (year - era * 400).toNat
  let dayOfYear := (153 * ((month + 9) % 12) + 2) / 5
  era * 146097 + (yearOfEra * 365 + yearOfEra / 4 - yearOfEra / 100 + dayOfYear : Nat) - 719468

/-- A day with the time of day, as they are written. -/
structure Clock where
  year : Int
  month : Nat
  day : Nat
  hour : Nat := 0
  minute : Nat := 0
  second : Nat := 0

/-- The seconds since the start of 1970; a month has up to 31 days, whichever it is. -/
def Clock.seconds? (c : Clock) : Except Error (Option Int) :=
  if c.year < 1970 ∨ c.month < 1 ∨ 12 < c.month ∨ c.day < 1 ∨ 31 < c.day ∨ 24 < c.hour ∨ 59 < c.minute
      ∨ 61 < c.second then .ok none
  else if 9999 < c.year then .error .yearOutOfRange
  else .ok (some
    ((((daysBefore c.year c.month + c.day - 1) * 24 + c.hour) * 60 + c.minute) * 60 + c.second))

/-- The parts of a date in the strict form, such as `Sun, 06 Nov 1994 08:49:37 GMT`. -/
def strict? (s : List Char) : Option (List Char × List Char × List Char × List (List Char)) :=
  let s := if s.getLast? = some '\n' then s.dropLast else s
  match s with
  | [w, a, b, ',', ' ', d₁, d₂, ' ', m, c, d, ' ', y₁, y₂, y₃, y₄, ' ', h₁, h₂, ':', i₁, i₂, ':', s₁, s₂,
      ' ', 'G', 'M', 'T'] =>
    let isSmall (c : Char) := decide ('a' ≤ c ∧ c ≤ 'z')
    if "SMTWF".toList.contains w && "JFMASOND".toList.contains m && [a, b, c, d].all isSmall
        && [d₁, d₂, y₁, y₂, y₃, y₄, h₁, h₂, i₁, i₂, s₁, s₂].all isAsciiDigit then
      some ([d₁, d₂], [m, c, d], [y₁, y₂, y₃, y₄], [[h₁, h₂], [i₁, i₂], [s₁, s₂]])
    else none
  | _ => none

/-- Reads a date in the strict form. -/
def readStrict (day month year : List Char) (time : List (List Char)) : Except Error (Option Int) :=
  match monthNumber? month with
  | none => .error .noSuchMonth
  | some month =>
    Clock.seconds? {
      year := decimal year, month, day := decimal day, hour := decimal (time.getD 0 []),
      minute := decimal (time.getD 1 []), second := decimal (time.getD 2 []) }

/-- A text without the day of the week it begins with. -/
def dropWeekday (s : List Char) : List Char :=
  let isDay := HttpDate.weekdays.any fun d => (lower d).toList == (s.take 3).map Char.toLower
  if !isDay then s
  else
    let rest := (s.drop 3).dropWhile isLetter
    (if rest.head? = some ',' then rest.tail else rest).dropWhile isSpace

/-- The distance of a zone from Greenwich time in seconds, if it is known. -/
def zoneSeconds? (zone : List Char) : Option Int :=
  if ["GMT", "UTC", "UT", "Z"].contains (upper (String.ofList zone)) then some 0
  else
    let (negative, digits) := Number.splitSign zone
    if digits.isEmpty || !digits.all isAsciiDigit then none
    else
      let hours := digits.take (if digits.length % 2 = 0 then 2 else 1)
      let seconds : Int := 3600 * decimal hours + 60 * decimal (digits.drop hours.length)
      some (if negative then -seconds else seconds)

/-- Takes what separates the parts of a date: white space, or one of the given characters. -/
def separator? (marks : List Char) (s : List Char) : Option (List Char) :=
  match s with
  | c :: rest =>
    if isSpace c then some (s.dropWhile isSpace) else if marks.contains c then some rest else none
  | [] => none

/-- Takes a run of characters, at least one. -/
def run? (p : Char → Bool) (s : List Char) : Option (List Char × List Char) :=
  match s.takeWhile p with
  | [] => none
  | run => some (run, s.dropWhile p)

/-- Takes digits of ASCII, so many and no more. -/
def digits? (n : Nat) (s : List Char) : Option (List Char × List Char) :=
  if (s.take n).length = n && (s.take n).all isAsciiDigit then some (s.take n, s.drop n) else none

/-- The time of day behind a date, if there is one. -/
def time? (s : List Char) : Option (List (List Char) × List Char) := do
  let (hour, s) ← run? isAsciiDigit (← separator? [':'] s)
  if 2 < hour.length then none
  let ':' :: s := s | none
  let (minute, s) ← digits? 2 s
  match s with
  | ':' :: after =>
    match digits? 2 after with
    | some (second, after) => some ([hour, minute, second], after)
    | none => some ([hour, minute], s)
  | _ => some ([hour, minute], s)

/-- The zone at the front of a text, if there is one: two to four digits with a sign, or letters;
not the halves of a day. -/
def zone? (s : List Char) : Option (List Char × List Char) :=
  match run? isLetter s with
  | some (letters, rest) =>
    if ["am", "pm"].contains (String.ofList (letters.map Char.toLower)) then none
    else some (letters, rest)
  | none =>
    let sign := s.takeWhile fun c => c == '+' || c == '-'
    match run? isAsciiDigit (s.drop sign.length) with
    | some (digits, rest) =>
      if sign.length ≤ 1 ∧ 2 ≤ digits.length ∧ digits.length ≤ 4 then some (sign ++ digits, rest)
      else none
    | none => none

/-- Whether a text is over, but for a word in parentheses. -/
def isEnd (s : List Char) : Bool :=
  match s with
  | [] => true
  | '(' :: rest =>
    match run? isWordChar rest with
    | some (_, ')' :: rest) => rest.all isSpace
    | _ => false
  | _ => false

/-- The parts of a date in one of the other forms. -/
structure Loose where
  day : List Char
  month : List Char
  year : List Char
  time : List (List Char)
  zone : Option (List Char)

/-- Splits a date into its parts. No other split of the text fits the form: each part ends where a
character of another kind begins. -/
def loose? (s : List Char) : Option Loose := do
  let (day, s) ← run? isAsciiDigit s
  if 2 < day.length then none
  let (month, s) ← run? isWordChar (← separator? ['-', '/'] s)
  let (year, s) ← run? isAsciiDigit (← separator? ['-', '/'] s)
  let (time, s) := (time? s).getD ([], s)
  let s := s.dropWhile isSpace
  let (zone, s) := match zone? s with
    | some (zone, rest) => (some zone, rest.dropWhile isSpace)
    | none => (none, s)
  if isEnd s then some { day, month, year, time, zone } else none

/-- A year of less than four digits means the one nearest to the present. -/
def fullYear (now year : Int) : Int :=
  if 1000 ≤ year then year
  else
    let current := (HttpDate.civil (now.fdiv 86400)).year
    let distance := current.fmod 100 - year
    let full := year + current - current.fmod 100
    if distance.natAbs ≤ 50 then full else if 0 < distance then full + 100 else full - 100

/-- The number of a month that is written with its name or its number. -/
def looseMonth? (s : List Char) : Option Nat :=
  match monthNumber? s with
  | some n => some n
  | none =>
    match integer? s with
    | some n => if 1 ≤ n ∧ n ≤ 12 then some n.toNat else none
    | none => none

/-- The seconds since the start of 1970 that the parts of a date say, if they say some. -/
def Loose.seconds? (now : Int) (d : Loose) : Except Error (Option Int) :=
  if maxDigits < d.year.length then .error .tooManyDigits
  else if 9999 < decimal d.year then .ok none
  else match looseMonth? d.month with
    | none => .ok none
    | some month => do
      let time ← Clock.seconds? {
        year := fullYear now (decimal d.year), month, day := decimal d.day,
        hour := decimal (d.time.getD 0 []), minute := decimal (d.time.getD 1 []),
        second := decimal (d.time.getD 2 []) }
      return do
        let seconds ← time
        let distance ← d.zone.elim (some 0) zoneSeconds?
        return seconds - distance

/-- The seconds since the start of 1970 that a date says; nothing when it is not understood. -/
def read (now : Int) (s : List Char) : Except Error (Option Int) :=
  match strict? s with
  | some (day, month, year, time) => readStrict day month year time
  | none =>
    match loose? (dropWeekday (trimLeft s)) with
    | some d => d.seconds? now
    | none => .ok none

example :
    (read 0 "Sun, 06 Nov 1994 08:49:37 GMT".toList).toOption = some (some 784111777)
      ∧ (read 0 "Sunday, 06-Nov-94 08:49:37 +0100".toList).toOption = some (some 784108177) := by
  decide +kernel

end HttpCourier.CookieDate
