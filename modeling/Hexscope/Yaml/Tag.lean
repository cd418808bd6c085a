import Hexscope.Yaml.Date

/-!
# Tags

A tag says what a node is. The tags of the core schema have names of their own, and all others are
unknown. A plain scalar without a tag has the tag of its form: the words for truth values and for
nothing, integers, floating point numbers and dates, a mark for merging, a mark for a value, and text
otherwise. Integers are binary behind `0b`, hexadecimal behind `0x`, octal behind a zero, and
otherwise decimal; colons part the digits of base sixty. A floating point number needs its point, and
an exponent needs its sign. A line feed at the end of the text does not count.
-/

namespace Hexscope.Yaml

/-- What a node is. -/
inductive Tag where
  | null
  | bool
  | int
  | float
  | text
  | timestamp
  | binary
  | sequence
  | mapping
  | set
  /-- A list of pairs, whether it is meant to be a mapping with an order or not. -/
  | pairs
  /-- The key under which a mapping takes over the entries of others. -/
  | merge
  /-- The key under which a mapping has the scalar that it may stand for. -/
  | value
  | unknown
deriving DecidableEq, Repr

namespace Tag

/-- What the names of the tags of the core schema begin with. -/
def coreStart : String := "tag:yaml.org,2002:"

/-- The tags of the core schema by the rest of their names. -/
def core : List (String × Tag) :=
  [("null", .null), ("bool", .bool), ("int", .int), ("float", .float), ("str", .text),
   ("timestamp", .timestamp), ("binary", .binary), ("seq", .sequence), ("map", .mapping),
   ("set", .set), ("omap", .pairs), ("pairs", .pairs), ("merge", .merge), ("value", .value)]

/-- The tag of a name. -/
def ofName (name : String) : Tag :=
  ((core.find? fun e => coreStart ++ e.1 = name).map (·.2)).getD .unknown

/-! ## Forms -/

/-- The words for truth values. -/
def truthWords : List String :=
  ["yes", "Yes", "YES", "no", "No", "NO", "true", "True", "TRUE", "false", "False", "FALSE", "on",
   "On", "ON", "off", "Off", "OFF"]

/-- The words for nothing. -/
def nullWords : List String := ["", "~", "null", "Null", "NULL"]

/-- Whether a text is not empty and has only characters of a kind and underscores. -/
def isRun (p : Char → Bool) (cs : List Char) : Bool :=
  !cs.isEmpty && cs.all fun c => p c || c = '_'

/-- Whether a text starts with a digit and goes on with digits and underscores. -/
def isNumeral (cs : List Char) : Bool :=
  cs.head?.any Char.isDigit && isRun Char.isDigit cs

/-- Whether a text is a digit of base sixty in one or two decimal places. -/
def isSixtieth : List Char → Bool
  | [a] => a.isDigit
  | [a, b] => '0' ≤ a && a ≤ '5' && b.isDigit
  | _ => false

/-- Whether the parts of a text between colons are the digits of a number in base sixty, of which
there are at least two. -/
def isSexagesimal (cs : List Char) : Bool :=
  match cs.splitOn ':' with
  | head :: rest => isNumeral head && !rest.isEmpty && rest.all isSixtieth
  | [] => false

/-- Whether a text has the form of an integer without a sign. -/
def isMagnitude (cs : List Char) : Bool :=
  match cs with
  | ['0'] => true
  | '0' :: 'b' :: ds => isRun (fun c => c = '0' || c = '1') ds
  | '0' :: 'x' :: ds => isRun (fun c => (Text.Integer.digit? 16 c).isSome) ds
  | '0' :: ds => isRun (fun c => '0' ≤ c && c ≤ '7') ds
  | ds => isNumeral ds || isSexagesimal ds

/-- Whether a text is an exponent with a sign, or empty. -/
def isExponent : List Char → Bool
  | [] => true
  | e :: s :: ds => (e = 'e' || e = 'E') && (s = '+' || s = '-') && !ds.isEmpty && ds.all Char.isDigit
  | _ => false

/-- Whether a text has the form of a floating point number behind its sign. Without digits before
the point it may have no sign, infinity apart. -/
def isFraction (hasSign : Bool) (cs : List Char) : Bool :=
  let whole := cs.takeWhile (· ≠ '.')
  match cs.dropWhile (· ≠ '.') with
  | [] => false
  | _ :: behind =>
    let exponent := behind.dropWhile fun c => c.isDigit || c = '_'
    let word := String.ofList behind
    if whole.isEmpty then
      ["inf", "Inf", "INF"].contains word ||
        (!hasSign && (["nan", "NaN", "NAN"].contains word ||
          (behind.head?.any Char.isDigit && isExponent exponent)))
    else
      (isNumeral whole && isExponent exponent) || (isSexagesimal whole && exponent.isEmpty)

/-- The text without the line feed at its end. -/
def withoutFinalBreak (cs : List Char) : List Char :=
  if cs.getLast? = some '\n' then cs.dropLast else cs

/-- The tag of a scalar of characters that has none of its own. -/
def ofChars (cs : List Char) : Tag :=
  if cs = ['\n'] then .text
  else
    let cs := withoutFinalBreak cs
    let word := String.ofList cs
    let (_, body) := Text.Integer.splitSign cs
    if truthWords.contains word then .bool
    else if nullWords.contains word then .null
    else if isFraction (body.length < cs.length) body then .float
    else if isMagnitude body then .int
    else if Date.isPlain cs then .timestamp
    else if word = "<<" then .merge
    else if word = "=" then .value
    else if ["!", "&", "*"].contains word then .unknown
    else .text

/-- The tag of a scalar that has none of its own. Half of a surrogate pair has no form. -/
def ofPlain (s : Text) : Tag := s.chars?.elim .text ofChars

end Tag

end Hexscope.Yaml
