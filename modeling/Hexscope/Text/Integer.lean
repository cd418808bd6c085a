import Hexscope.Text.Blank
import Hexscope.Text.DecimalDigit
import Hexscope.Text.Quoted

/-!
# Integers written in text

A numeral is a sign that may be missing and digits of any script, with single underscores allowed
between two digits and blanks around the whole. A hexadecimal numeral may carry the mark `0x`, an
octal one `0o` and a binary one `0b`, and one underscore may follow the mark. Decimal numerals of more
than 4300 digits are neither read nor printed.
-/

namespace Hexscope.Text.Integer

/-- A character reduced to ASCII: blanks become spaces, decimal digits of any script become ASCII
digits, and a character that no numeral has becomes a question mark. -/
def plainChar (c : Char) : Char :=
  if c.toNat < 127 then c
  else if wideBlanks.contains c.toNat then ' '
  else match DecimalDigit.value? c with
    | some d => Char.ofNat (48 + d)
    | none => '?'

/-- A code point reduced to ASCII. -/
def plain : CodePoint → Char
  | .char c => plainChar c
  | .half _ => '?'

/-- The value of an ASCII digit or letter as a digit of a base. -/
def digit? (base : Nat) (c : Char) : Option Nat :=
  let n := c.toNat
  let d :=
    if 48 ≤ n ∧ n ≤ 57 then n - 48
    else if 65 ≤ n ∧ n ≤ 90 then n - 55
    else if 97 ≤ n ∧ n ≤ 122 then n - 87
    else base
  if d < base then some d else none

/-- Digits with single underscores between them. `afterDigit` tells whether the character just
read was a digit, and `acc` is the value of the digits so far. -/
def digitsValue? (base : Nat) : (acc : Nat) → (afterDigit : Bool) → List Char → Option Nat
  | acc, afterDigit, [] => if afterDigit then some acc else none
  | acc, afterDigit, c :: cs =>
    if c = '_' then
      if afterDigit then digitsValue? base acc false cs else none
    else match digit? base c with
      | some d => digitsValue? base (acc * base + d) true cs
      | none => none

/-- The most digits that a decimal numeral may have. -/
def maxDecimalDigits : Nat := 4300

/-- The sign of a numeral and what follows it. -/
def splitSign : List Char → Bool × List Char
  | '-' :: cs => (true, cs)
  | '+' :: cs => (false, cs)
  | cs => (false, cs)

/-- The letter in the mark of a base. -/
def markOf? : (base : Nat) → Option Char
  | 2 => some 'b'
  | 8 => some 'o'
  | 16 => some 'x'
  | _ => none

/-- The text behind the mark of a base and the underscore that may follow it. -/
def dropMark (base : Nat) : List Char → List Char
  | '0' :: m :: cs =>
    if markOf? base = some m.toLower then
      match cs with
      | '_' :: ds => ds
      | ds => ds
    else '0' :: m :: cs
  | cs => cs

/-- The characters of a numeral without the blanks around it. -/
def body (s : Text) : List Char := stripBlanks (s.points.map plain)

/-- The integer with a sign and a magnitude. -/
def signed (negative : Bool) (n : Nat) : Int := if negative then -(n : Int) else n

/-- Why a text gives no integer. -/
inductive Error where
  | notNumeral (base : Nat) (s : Text)
  /-- A decimal numeral has too many digits. -/
  | tooLong (digits : Nat)
deriving DecidableEq, Repr

/-- The words for the limit on decimal numerals, with what is told about the one at hand. -/
def limitMessage (detail : String) : String :=
  s!"Exceeds the limit ({maxDecimalDigits} digits) for integer string conversion" ++ detail ++
    "; use sys.set_int_max_str_digits() to increase the limit"

/-- The text of an error. A long text is cut off. -/
def Error.message : Error → String
  | .notNumeral base s =>
    s!"invalid literal for int() with base {base}: " ++
      String.ofList ((Quoted.encode s).take 200)
  | .tooLong digits => limitMessage s!": value has {digits} digits"

/-- Whether underscores stand only between two digits. -/
def isSeparated : (afterDigit : Bool) → List Char → Bool
  | afterDigit, [] => afterDigit
  | afterDigit, c :: cs => if c = '_' then afterDigit && isSeparated false cs else isSeparated true cs

/-- Reads a numeral of a base. A decimal one is refused for its length before what stands behind its
digits is looked at. -/
def read (base : Nat) (s : Text) : Except Error Int :=
  let (negative, cs) := splitSign (body s)
  let cs := dropMark base cs
  let run := cs.takeWhile fun c => c = '_' || (digit? base c).isSome
  let digits := run.countP (· ≠ '_')
  if base = 10 ∧ maxDecimalDigits < digits ∧ isSeparated false run then .error (.tooLong digits)
  else
    match digitsValue? base 0 false cs with
    | some n => .ok (signed negative n)
    | none => .error (.notNumeral base s)

/-- Reads a decimal numeral. -/
def decimal? (s : Text) : Option Int := (read 10 s).toOption

/-- Reads a hexadecimal numeral, with or without a mark. -/
def hexadecimal? (s : Text) : Option Int := (read 16 s).toOption

/-- An integer in decimal, unless it has too many digits. -/
def text? (n : Int) : Option String :=
  let s := toString n
  if (if n < 0 then 1 else 0) + maxDecimalDigits < s.length then none else some s

end Hexscope.Text.Integer
