import Hexscope.Yaml.Error

/-!
# Dates in documents

A date is a year in four places, a month and a day, with a time of day behind it or not. The time may
have a fraction of a second and a distance from universal time. `Date.read` also checks that the date
exists.
-/

namespace Hexscope.Yaml.Date

/-- The digits of a text, from `least` to `most` of them, as a number, and the rest. -/
def digits? (least most : Nat) (cs : List Char) : Option (Nat × List Char) :=
  let ds := (cs.take most).takeWhile Char.isDigit
  if ds.length < least then none
  else some (Binary64.Numeral.valueOf ds, cs.drop ds.length)

/-- Passes over a character. -/
def skip? (ch : Char) : List Char → Option (List Char)
  | c :: cs => if c = ch then some cs else none
  | [] => none

/-- Passes over blanks. -/
def skipBlanks (cs : List Char) : List Char := cs.dropWhile fun c => c = ' ' || c = '\t'

/-- The distance from universal time at the end of a date, in minutes. -/
def offset? (cs : List Char) : Option (Option Int) :=
  match cs, skipBlanks cs with
  | [], _ => some none
  | _, ['Z'] => some (some 0)
  | _, s :: rest =>
    if s = '+' ∨ s = '-' then do
      let (hours, rest) ← digits? 1 2 rest
      let minutes ← match rest with
        | [] => some 0
        | c :: rest => do
          let (n, rest) ← digits? 2 2 rest
          if c = ':' ∧ rest.isEmpty then some n else none
      some (some (Text.Integer.signed (s = '-') (hours * 60 + minutes)))
    else none
  | _, [] => none

/-- The microseconds of digits behind a point. -/
def microseconds (ds : List Char) : Nat :=
  Binary64.Numeral.valueOf ((ds ++ List.replicate 6 '0').take 6)

/-- The time behind a day. -/
def time? (cs : List Char) : Option ClockTime := do
  let cs ← match cs with
    | [] => none
    | c :: rest =>
      if c = 'T' ∨ c = 't' then some rest
      else if c = ' ' ∨ c = '\t' then some (skipBlanks rest) else none
  let (hour, cs) ← digits? 1 2 cs
  let (minute, cs) ← digits? 2 2 (← skip? ':' cs)
  let (second, cs) ← digits? 2 2 (← skip? ':' cs)
  let (micro, cs) := match cs with
    | '.' :: rest => (microseconds (rest.takeWhile Char.isDigit), rest.dropWhile Char.isDigit)
    | cs => (0, cs)
  return ⟨hour, minute, second, micro, ← offset? cs⟩

/-- The date that a text has the form of. -/
def ofText? (cs : List Char) : Option (CalendarDay × Option ClockTime) := do
  let (year, cs) ← digits? 4 4 cs
  let (month, cs) ← digits? 1 2 (← skip? '-' cs)
  let (day, cs) ← digits? 1 2 (← skip? '-' cs)
  return (⟨year, month, day⟩, ← if cs.isEmpty then some none else (time? cs).map some)

/-- Whether a plain scalar is a date. A day by itself needs two places for month and day. -/
def isPlain (cs : List Char) : Bool :=
  match ofText? cs with
  | some (_, none) => cs.length = 10
  | some (_, some _) => true
  | none => false

/-- A distance from universal time is less than a day. -/
def checkOffset (minutes : Int) : Except Error Unit :=
  if minutes.natAbs < 1440 then .ok ()
  else
    let days := Int.fdiv minutes 1440
    let seconds := (minutes - days * 1440) * 60
    let seconds := if seconds = 0 then "" else s!", seconds={seconds}"
    .error (.noSuchDate ("offset must be a timedelta strictly between -timedelta(hours=24) and " ++
      "timedelta(hours=24), not datetime.timedelta(days=" ++ s!"{days}{seconds})."))

/-- The date must exist. -/
def check (d : CalendarDay) (t : Option ClockTime) : Except Error Value := do
  if let some m := t.bind (·.offset) then checkOffset m
  if d.year = 0 then throw (.noSuchDate "year 0 is out of range")
  if d.month < 1 ∨ 12 < d.month then throw (.noSuchDate "month must be in 1..12")
  if d.day < 1 ∨ Value.Calendar.daysIn d.year d.month < d.day then
    throw (.noSuchDate "day is out of range for month")
  if let some t := t then
    if 23 < t.hour then throw (.noSuchDate "hour must be in 0..23")
    if 59 < t.minute then throw (.noSuchDate "minute must be in 0..59")
    if 59 < t.second then throw (.noSuchDate "second must be in 0..59")
  return .date d t

end Hexscope.Yaml.Date
