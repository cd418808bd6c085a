import Hexscope.ErrorKind
import Hexscope.Number
import Hexscope.Text.Integer

/-!
# Data values

The values that a configuration is made of: nothing, truth values, integers, floating point numbers,
text, bytes, dates, pairs, lists, sets and mappings. A mapping keeps its entries in the order in which
their keys first came. `Value.shown` is the value as messages show it, and `Value.quoted` the same
with quotes around text. A value with an integer of too many digits cannot be shown, and neither can one
that is nested deeper than there is room for.

A collection may hold itself. It is a knot then, which has a number, and inside it the number stands
for the whole. `Value.unfolded` lays open the parts of a knot, each of which is complete by itself.
-/

namespace Hexscope

/-- A day of the calendar. -/
structure CalendarDay where
  year : Nat
  month : Nat
  day : Nat
deriving DecidableEq, Repr

/-- A time of day, to the microsecond, with the distance from universal time in minutes if it is
known. -/
structure ClockTime where
  hour : Nat
  minute : Nat
  second : Nat
  micro : Nat
  offset : Option Int
deriving DecidableEq, Repr

/-- A value of a configuration. -/
inductive Value where
  | null
  | bool (b : Bool)
  | int (n : Int)
  | float (x : Binary64)
  | text (s : Text)
  | bytes (bs : List UInt8)
  | date (day : CalendarDay) (time : Option ClockTime)
  | pair (first second : Value)
  | list (items : List Value)
  | set (members : List Value)
  | mapping (entries : List (Value × Value))
  /-- A collection that holds itself. -/
  | knot (number : Nat) (whole : Value)
  /-- The knot of this number, inside which this stands. -/
  | again (number : Nat)
deriving Repr

namespace Value

instance : Inhabited Value := ⟨.null⟩

/-- A number in decimal, filled with zeros to a width. -/
def places (width n : Nat) : String := Radix.padded 10 width n

namespace Calendar

/-- The number of days of a month. -/
def daysIn (year month : Nat) : Nat :=
  if month = 2 then
    if year % 4 = 0 ∧ (year % 100 ≠ 0 ∨ year % 400 = 0) then 29 else 28
  else if month = 4 ∨ month = 6 ∨ month = 9 ∨ month = 11 then 30 else 31

/-- A day as messages show it. -/
def dayText (d : CalendarDay) : String :=
  places 4 d.year ++ "-" ++ places 2 d.month ++ "-" ++ places 2 d.day

/-- A time as messages show it, behind the day. -/
def timeText (t : ClockTime) : String :=
  let micro := if t.micro = 0 then "" else "." ++ places 6 t.micro
  let offset := match t.offset with
    | none => ""
    | some m =>
      (if m < 0 then "-" else "+") ++ places 2 (m.natAbs / 60) ++ ":" ++ places 2 (m.natAbs % 60)
  " " ++ places 2 t.hour ++ ":" ++ places 2 t.minute ++ ":" ++ places 2 t.second ++ micro ++ offset

/-- A distance from universal time, spelled out. -/
def zone (minutes : Int) : String :=
  if minutes = 0 then "datetime.timezone.utc"
  else
    let days := Int.fdiv minutes 1440
    let seconds := (minutes - days * 1440) * 60
    let days := if days = 0 then [] else [s!"days={days}"]
    let seconds := if seconds = 0 then [] else [s!"seconds={seconds}"]
    "datetime.timezone(datetime.timedelta(" ++ String.intercalate ", " (days ++ seconds) ++ "))"

/-- The numbers of a date in the spelled form. A time without seconds stops at the minutes. -/
def spelled (d : CalendarDay) : Option ClockTime → String
  | none => s!"datetime.date({d.year}, {d.month}, {d.day})"
  | some t =>
    let tail :=
      if t.micro ≠ 0 then [t.second, t.micro] else if t.second ≠ 0 then [t.second] else []
    let numbers := [d.year, d.month, d.day, t.hour, t.minute] ++ tail
    let offset := match t.offset with
      | none => []
      | some m => ["tzinfo=" ++ zone m]
    "datetime.datetime(" ++
      String.intercalate ", " (numbers.map (fun n => s!"{n}") ++ offset) ++ ")"

end Calendar

/-- The levels that a date takes up inside its own: the distance from universal time is a value, and the
time that it is made of is another one. -/
def Calendar.inner : Option ClockTime → Nat
  | some ⟨_, _, _, _, some minutes⟩ => if minutes = 0 then 1 else 2
  | _ => 0

/-- Why a value is not shown. -/
inductive Unshown where
  /-- An integer has too many digits. -/
  | tooManyDigits
  /-- There is no room for values that deep inside others. -/
  | tooDeep
deriving DecidableEq, Repr

/-- The kind of a refusal. -/
def Unshown.kind : Unshown → ErrorKind
  | .tooManyDigits => .value
  | .tooDeep => .recursion

/-- The text of a refusal. -/
def Unshown.message : Unshown → Text
  | .tooManyDigits => Text.Integer.limitMessage ""
  | .tooDeep => "maximum recursion depth exceeded"

instance : Failure Unshown := ⟨Unshown.kind, Unshown.message⟩

/-- What is shown of a collection inside itself. -/
def elided : Value → String
  | .pair .. => "(...)"
  | .set _ => "set(...)"
  | .mapping _ => "\x7b...\x7d"
  | _ => "[...]"

mutual

/-- A value as it is shown inside other values: text is quoted. Each value takes up a level of the room that
is left, and a set with members two. The knots around the value are listed with what is shown in their place. -/
def quotedIn (around : List (Nat × String)) : (room : Nat) → Value → Except Unshown String
  | 0, _ => .error .tooDeep
  | _ + 1, .null => .ok "None"
  | _ + 1, .bool b => .ok (if b then "True" else "False")
  | _ + 1, .int n => (Text.Integer.text? n).elim (.error .tooManyDigits) .ok
  | _ + 1, .float x => .ok x.text
  | _ + 1, .text s => .ok (Text.quoted s)
  | _ + 1, .bytes bs => .ok (Text.quotedBytes bs)
  | room + 1, .date d t =>
    if room < Calendar.inner t then .error .tooDeep else .ok (Calendar.spelled d t)
  | room + 1, .pair a b => do
    return "(" ++ (← quotedIn around room a) ++ ", " ++ (← quotedIn around room b) ++ ")"
  | room + 1, .list items => do return "[" ++ (← quotedItems around room items) ++ "]"
  | _ + 1, .set [] => .ok "set()"
  | 1, .set (_ :: _) => .error .tooDeep
  | room + 2, .set (m :: ms) => do return "\x7b" ++ (← quotedItems around room (m :: ms)) ++ "\x7d"
  | room + 1, .mapping entries => do
    return "\x7b" ++ (← quotedEntries around room entries) ++ "\x7d"
  | room + 1, .knot n v =>
    match around.lookup n with
    | some s => .ok s
    | none => quotedIn ((n, v.elided) :: around) (room + 1) v
  | _ + 1, .again n => .ok ((around.lookup n).getD "...")

/-- The items of a list, separated by commas. -/
def quotedItems (around : List (Nat × String)) (room : Nat) : List Value → Except Unshown String
  | [] => .ok ""
  | [v] => quotedIn around room v
  | v :: w :: vs => do
    return (← quotedIn around room v) ++ ", " ++ (← quotedItems around room (w :: vs))

/-- The entries of a mapping, separated by commas. -/
def quotedEntries (around : List (Nat × String)) (room : Nat) :
    List (Value × Value) → Except Unshown String
  | [] => .ok ""
  | [(k, v)] => do return (← quotedIn around room k) ++ ": " ++ (← quotedIn around room v)
  | (k, v) :: e :: es => do
    return (← quotedIn around room k) ++ ": " ++ (← quotedIn around room v) ++ ", " ++
      (← quotedEntries around room (e :: es))

end

/-- A value as it is shown inside other values. -/
def quoted (room : Nat) (v : Value) : Except Unshown String := quotedIn [] room v

/-- A value as it is shown by itself: text and dates are shown as they are. -/
def shown (room : Nat) : Value → Except Unshown Text
  | .text s => .ok s
  | .date d none => .ok (Calendar.dayText d)
  | .date d (some t) => .ok (Calendar.dayText d ++ Calendar.timeText t)
  | v => (v.quoted room).map Text.ofString

/-- The room for values where little else is under way. -/
def ampleRoom : Nat := 950

mutual

/-- The value with the whole of a knot wherever its number stands. -/
def tie (n : Nat) (whole : Value) : Value → Value
  | .again m => if m = n then whole else .again m
  | .knot m v => .knot m (if m = n then v else tie n whole v)
  | .pair a b => .pair (tie n whole a) (tie n whole b)
  | .list items => .list (tieItems n whole items)
  | .mapping entries => .mapping (tieEntries n whole entries)
  | v => v

/-- The items of a list, each with the whole of a knot. -/
def tieItems (n : Nat) (whole : Value) : List Value → List Value
  | [] => []
  | v :: vs => tie n whole v :: tieItems n whole vs

/-- The entries of a mapping, each with the whole of a knot. -/
def tieEntries (n : Nat) (whole : Value) : List (Value × Value) → List (Value × Value)
  | [] => []
  | (k, v) :: es => (k, tie n whole v) :: tieEntries n whole es

end

/-- A collection whose parts can be looked at by themselves. -/
def unfolded : Value → Value
  | .knot n v => tie n (.knot n v) v
  | v => v

/-- Whether a value counts as something: not nothing, not false, not zero and not empty. -/
def isTruthy : Value → Bool
  | .null => false
  | .bool b => b
  | .int n => n ≠ 0
  | .float (.finite _ m _) => m ≠ 0
  | .float _ => true
  | .text s => !s.isEmpty
  | .bytes bs => !bs.isEmpty
  | .list items => !items.isEmpty
  | .set members => !members.isEmpty
  | .mapping entries => !entries.isEmpty
  | .date .. | .pair .. | .knot .. | .again _ => true

/-- What counts as nothing is no knot. -/
theorem unfolded_of_falsy {v : Value} (falsy : v.isTruthy = false) : v.unfolded = v := by
  cases v with
  | knot _ _ => cases falsy
  | _ => rfl

theorem isTruthy_list (items : List Value) : (Value.list items).isTruthy = !items.isEmpty := rfl

theorem isTruthy_mapping (entries : List (Value × Value)) :
    (Value.mapping entries).isTruthy = !entries.isEmpty := rfl

theorem items_eq_nil_of_falsy {v : Value} {items : List Value} (falsy : v.isTruthy = false)
    (list : v.unfolded = .list items) : items = [] := by
  rw [← unfolded_of_falsy falsy, list, isTruthy_list, Bool.not_eq_false'] at falsy
  exact List.isEmpty_iff.mp falsy

theorem entries_eq_nil_of_falsy {v : Value} {entries : List (Value × Value)} (falsy : v.isTruthy = false)
    (mapping : v.unfolded = .mapping entries) : entries = [] := by
  rw [← unfolded_of_falsy falsy, mapping, isTruthy_mapping, Bool.not_eq_false'] at falsy
  exact List.isEmpty_iff.mp falsy

/-- The value of an entry under a name. -/
def lookup? (entries : List (Value × Value)) (name : String) : Option Value :=
  (entries.find? fun e =>
    match e.1 with
    | .text s => s = (name : Text)
    | _ => false).map (·.2)

/-- The items of a list. Other values have none. -/
def items : Value → List Value
  | .list items => items
  | _ => []

/-- The entries of a mapping whose keys are texts. -/
def members : Value → List (Text × Value)
  | .mapping entries => entries.filterMap fun e =>
    match e.1 with
    | .text name => some (name, e.2)
    | _ => none
  | _ => []

/-- The number that a value is. -/
def number? : Value → Option Number
  | .bool b => some (.truth b)
  | .int n => some (.whole n)
  | .float x => some (.binary x)
  | _ => none

/-- The number that a value is as a fraction, if it is finite. -/
def fraction? (v : Value) : Option (Int × Nat) := v.number?.bind Number.fraction?

/-- The number of days before a day of the calendar. -/
def Calendar.dayNumber (d : CalendarDay) : Nat :=
  let y := d.year - 1
  let before := 365 * y + y / 4 - y / 100 + y / 400 + d.day
  (List.range (d.month - 1)).foldl (fun n m => n + daysIn d.year (m + 1)) before

/-- The microseconds from the beginning of the calendar to a time whose distance from universal time
is known. -/
def Calendar.instant? (d : CalendarDay) (t : ClockTime) : Option Int :=
  t.offset.map fun offset =>
    let minutes : Int := (dayNumber d * 24 + t.hour : Nat) * 60 + t.minute - offset
    (minutes * 60 + t.second) * 1000000 + t.micro

/-- Whether two dates are the same. Two times whose distances from universal time are known are
compared as instants. -/
def Calendar.isSame (d : CalendarDay) (t : Option ClockTime) (e : CalendarDay)
    (u : Option ClockTime) : Bool :=
  match t.bind (instant? d), u.bind (instant? e) with
  | some i, some j => i = j
  | _, _ => d = e && t = u

/-- Whether two keys are the same. Numbers are compared by value, and what is not a number is the same as
itself. -/
def sameKey : Value → Value → Bool
  | .null, .null => true
  | .text s, .text t => s = t
  | .bytes bs, .bytes cs => bs = cs
  | .date d t, .date e u => Calendar.isSame d t e u
  | .float .nan, .float .nan => true
  | .float (.infinite s), .float (.infinite t) => s = t
  | v, w =>
    match v.fraction?, w.fraction? with
    | some (a, b), some (c, d) => a * d = c * b
    | _, _ => false

mutual

/-- Whether two values are the same: keys as keys, lists item by item, and mappings whatever the order of
their entries. -/
def isSame : Value → Value → Bool
  | .list vs, w =>
    match w with
    | .list ws => sameItems vs ws
    | _ => false
  | .mapping es, w =>
    match w with
    | .mapping fs => es.length = fs.length && sameEntries es fs
    | _ => false
  | v, w => sameKey v w

/-- Whether two lists are the same item by item. -/
def sameItems : List Value → List Value → Bool
  | [], ws => ws.isEmpty
  | v :: vs, ws =>
    match ws with
    | w :: ws => isSame v w && sameItems vs ws
    | [] => false

/-- Whether each entry is also among other ones. -/
def sameEntries : List (Value × Value) → List (Value × Value) → Bool
  | [], _ => true
  | (k, v) :: es, fs => (fs.any fun f => sameKey k f.1 && isSame v f.2) && sameEntries es fs

end

end Value

end Hexscope
