import Hexscope.Text.Base64
import Hexscope.Text.Lowercase
import Hexscope.Yaml.Tag

/-!
# What scalars stand for

A scalar stands for what its tag says, in whatever form it is written; a tag that is given may stand
before a text of another form, which is then read as well as it can be. Underscores in numbers are
passed over. Behind a sign, an integer is binary, hexadecimal or octal after `0b`, `0x` or a zero;
colons part the digits of base sixty, from the last to the first of which the value is summed up.
-/

namespace Hexscope.Yaml.Literal

/-- The words for truth values in lower case. -/
def truths : List (String × Bool) :=
  [("yes", true), ("no", false), ("true", true), ("false", false), ("on", true), ("off", false)]

/-- The truth value of a word in any case. -/
def truth (s : Text) : Except Error Bool :=
  let word := s.lowercase
  match word.string?.bind (truths.lookup ·) with
  | some b => .ok b
  | none => .error (.notTruth word)

/-- The sign of a numeral, which must not be empty, and the rest without underscores. -/
def splitSign (s : Text) : Except Error (Bool × Text) :=
  match s.points.filter (· ≠ .char '_') with
  | [] => .error .emptyNumeral
  | .char '-' :: ps => .ok (true, ⟨ps⟩)
  | .char '+' :: ps => .ok (false, ⟨ps⟩)
  | ps => .ok (false, ⟨ps⟩)

/-- An integer in a base. -/
def inBase (base : Nat) (s : Text) : Except Error Int :=
  (Text.Integer.read base s).mapError .badInteger

/-- The integer behind a sign. -/
def magnitude (s : Text) : Except Error Int :=
  match s.points with
  | [] => .error .emptyNumeral
  | .char '0' :: .char 'b' :: ps => inBase 2 ⟨ps⟩
  | .char '0' :: .char 'x' :: ps => inBase 16 ⟨ps⟩
  | .char '0' :: _ => inBase 8 s
  | _ =>
    if s.has ':' then do
      let digits ← (s.splitOn ':').mapM (inBase 10)
      return digits.foldl (fun n d => n * 60 + d) 0
    else inBase 10 s

/-- The integer of a text. -/
def integer (s : Text) : Except Error Int := do
  let (negative, body) ← splitSign s
  let n ← magnitude body
  return if negative then -n else n

/-- The floating point number of a numeral. -/
def decimal (s : Text) : Except Error Binary64 :=
  (Binary64.ofText? s).elim (.error (.badNumber (.notNumeral s))) .ok

/-- Adds a digit of base sixty, whose weight must not lie beyond every floating point number. -/
def addSixtieth (acc : Binary64 × Nat) (digit : Binary64) : Except Error (Binary64 × Nat) :=
  match Binary64.ofInt? acc.2 with
  | some weight => .ok (acc.1.add (digit.mul weight), acc.2 * 60)
  | none => .error (.badNumber .tooLarge)

/-- The word for what is not a number. -/
def nanWord : String := ".nan"

/-- The floating point number of a text. -/
def float (s : Text) : Except Error Binary64 := do
  let (negative, body) ← splitSign s.lowercase
  if body = (nanWord : Text) then return .nan
  let x ← if body = (".inf" : Text) then pure (.infinite false)
    else if body.has ':' then do
      let digits ← (body.splitOn ':').mapM decimal
      pure (← digits.reverse.foldlM addSixtieth (Binary64.zero, 1)).1
    else decimal body
  return if negative then x.neg else x

/-- Whether a text that stands for no number is the word for that. -/
def isNanWord (s : Text) : Bool :=
  match splitSign s.lowercase with
  | .ok (_, body) => body = (nanWord : Text)
  | .error _ => false

/-- The date of a text. -/
def date (s : Text) : Except Error Value :=
  match s.chars?.bind fun cs => Date.ofText? (Tag.withoutFinalBreak cs) with
  | some (d, t) => Date.check d t
  | none => .error .notDate

/-- The bytes of a text in base 64. -/
def bytes (s : Text) : Except Error (List UInt8) :=
  match s.chars? with
  | some cs =>
    if cs.any (128 ≤ ·.toNat) then .error .malformed
    else (Text.Base64.decode? cs).elim (.error .malformed) .ok
  | none => .error .malformed

/-- What a scalar with a tag stands for. -/
def value (tag : Tag) (s : Text) : Except Error Value :=
  match tag with
  | .null => .ok .null
  | .bool => (truth s).map .bool
  | .int => (integer s).map .int
  | .float => (float s).map .float
  | .text => .ok (.text s)
  | .timestamp => date s
  | .binary => (bytes s).map .bytes
  | .sequence | .mapping | .set | .pairs | .merge | .value | .unknown => .error .malformed

end Hexscope.Yaml.Literal
