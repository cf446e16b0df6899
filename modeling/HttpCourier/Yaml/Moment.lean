import HttpCourier.Yaml.Error

/-!
# Dates

A plain scalar may be a date, alone or with the time of day and the distance from universal time.
`Moment.ofText?` reads the form, and `Moment.check` says whether there is such a day and time.
-/

namespace HttpCourier.Yaml

/-- A date with the time of day and the distance from universal time, if they are given. -/
structure Moment where
  year : Nat
  month : Nat
  day : Nat
  time : Option (Nat × Nat × Nat) := none
  /-- Whether the distance is negative, and its hours and minutes. -/
  offset : Option (Bool × Nat × Nat) := none

namespace Moment

/-- Takes digits from the front of a text, between a least and a greatest number. -/
def takeDigits? (least most : Nat) (s : List Char) : Option (List Char × List Char) :=
  let digits := (s.takeWhile Char.isDigit).take most
  if digits.length < least then none else some (digits, s.drop digits.length)

/-- Takes a character from the front of a text. -/
def takeChar? (c : Char) : List Char → Option (List Char)
  | d :: rest => if d = c then some rest else none
  | [] => none

/-- The number that decimal digits write. -/
def decimal (digits : List Char) : Nat := digits.foldl (fun n d => 10 * n + (d.toNat - 48)) 0

/-- Reads the distance from universal time; the whole text must be used up. -/
def offset? (s : List Char) : Option (Option (Bool × Nat × Nat)) :=
  match s with
  | [] => some none
  | _ =>
    match s.dropWhile fun c => c == ' ' || c == '\t' with
    | ['Z'] => some none
    | sign :: rest =>
      if sign == '+' || sign == '-' then do
        let (hours, rest) ← takeDigits? 1 2 rest
        match rest with
        | [] => some (some (sign == '-', decimal hours, 0))
        | _ =>
          let (minutes, rest) ← takeDigits? 2 2 (← takeChar? ':' rest)
          if rest.isEmpty then some (some (sign == '-', decimal hours, decimal minutes)) else none
      else none
    | [] => none

/-- Reads the time of day behind a date. -/
def time? (s : List Char) : Option ((Nat × Nat × Nat) × List Char) := do
  let s ← match s with
    | 'T' :: rest | 't' :: rest => some rest
    | c :: rest =>
      if c == ' ' || c == '\t' then some (rest.dropWhile fun c => c == ' ' || c == '\t') else none
    | [] => none
  let (hour, s) ← takeDigits? 1 2 s
  let (minute, s) ← takeDigits? 2 2 (← takeChar? ':' s)
  let (second, s) ← takeDigits? 2 2 (← takeChar? ':' s)
  let s := match s with
    | '.' :: rest => rest.dropWhile Char.isDigit
    | _ => s
  some ((decimal hour, decimal minute, decimal second), s)

/-- Reads a date, with or without the time of day. -/
def ofText? (s : List Char) : Option Moment := do
  let (year, rest) ← takeDigits? 4 4 s
  let (month, rest) ← takeDigits? 1 2 (← takeChar? '-' rest)
  let (day, rest) ← takeDigits? 1 2 (← takeChar? '-' rest)
  let date : Moment := { year := decimal year, month := decimal month, day := decimal day }
  match rest with
  | [] => if month.length = 2 ∧ day.length = 2 then some date else none
  | _ =>
    let (time, rest) ← time? rest
    let offset ← offset? rest
    some { date with time := some time, offset }

/-- Whether a year has a day more than others. -/
def isLeap (year : Nat) : Bool := year % 4 == 0 && (year % 100 != 0 || year % 400 == 0)

/-- How many days a month has. -/
def daysIn (year month : Nat) : Nat :=
  if month = 2 then (if isLeap year then 29 else 28)
  else if [4, 6, 9, 11].contains month then 30 else 31

/-- The seconds of the distance from universal time. -/
def offsetSeconds (offset : Bool × Nat × Nat) : Int :=
  let (negative, hours, minutes) := offset
  let n : Int := hours * 3600 + minutes * 60
  if negative then -n else n

/-- A span of time in days and seconds, as it is written. -/
def shownSpan (seconds : Int) : String :=
  let days := seconds.fdiv 86400
  let rest := seconds.fmod 86400
  let parts := (if days = 0 then [] else ["days=" ++ toString days])
    ++ (if rest = 0 then [] else ["seconds=" ++ toString rest])
  "datetime.timedelta(" ++ (if parts.isEmpty then "0" else ", ".intercalate parts) ++ ")"

/-- What is wrong with a date, if anything is. -/
def dateFlaw? (m : Moment) : Option String :=
  if m.year = 0 then some "year 0 is out of range"
  else if m.month < 1 ∨ 12 < m.month then some "month must be in 1..12"
  else if m.day < 1 ∨ daysIn m.year m.month < m.day then some "day is out of range for month"
  else none

/-- What is wrong with a time of day, if anything is. -/
def timeFlaw? : Nat × Nat × Nat → Option String
  | (hour, minute, second) =>
    if 23 < hour then some "hour must be in 0..23"
    else if 59 < minute then some "minute must be in 0..59"
    else if 59 < second then some "second must be in 0..59"
    else none

/-- What is wrong with a distance from universal time, if anything is. -/
def offsetFlaw? (offset : Bool × Nat × Nat) : Option String :=
  let seconds := offsetSeconds offset
  if seconds.natAbs < 86400 then none
  else some ("offset must be a timedelta strictly between -timedelta(hours=24) and "
    ++ "timedelta(hours=24), not " ++ shownSpan seconds ++ ".")

/-- Says whether there is such a day and time. -/
def check (m : Moment) : Except Error Unit :=
  match ((m.offset.bind offsetFlaw?).or m.dateFlaw?).or (m.time.bind timeFlaw?) with
  | none => .ok ()
  | some words => .error (.unsound "ValueError" words)

/-- The name of the kind of a moment: with or without the time of day. -/
def kindName (m : Moment) : String := if m.time.isSome then "datetime.datetime" else "datetime.date"

/-- A moment as it is written among values. -/
def shown (m : Moment) : String :=
  let time := match m.time with
    | none => []
    | some (hour, minute, 0) => [hour, minute]
    | some (hour, minute, second) => [hour, minute, second]
  m.kindName ++ "(" ++ ", ".intercalate (([m.year, m.month, m.day] ++ time).map toString) ++ ")"

end Moment

end HttpCourier.Yaml
