import Hexscope.Text.Printable
import Hexscope.Text.Radix

/-!
# Quoted text

Text is quoted with apostrophes, or with double quotes if it holds an apostrophe and no double
quote. A backslash and the closing quote are escaped, line feed, carriage return and tab have
letters, and every other code point that is not printable is written by its number in two, four or eight
hexadecimal places. So a quoted text is a string even if it holds halves of surrogate pairs. Bytes are
quoted like ASCII text, behind a `b`.
-/

namespace Hexscope.Text.Quoted

/-- The quote for a text. -/
def quoteFor (s : Text) : Char := if s.has '\'' && !s.has '"' then '"' else '\''

/-- The lowest `places` hexadecimal digits of `n` in lower case. -/
def lowerNibbles : (places : Nat) → (n : Nat) → List Char
  | 0, _ => []
  | places + 1, n => lowerNibbles places (n / 16) ++ [Radix.lowerDigit (n % 16)]

/-- A code point written by its number. -/
def numbered (n : Nat) : List Char :=
  if n < 0x100 then '\\' :: 'x' :: lowerNibbles 2 n
  else if n < 0x10000 then '\\' :: 'u' :: lowerNibbles 4 n
  else '\\' :: 'U' :: lowerNibbles 8 n

/-- One character inside quotes. -/
def escapeChar (quote c : Char) : List Char :=
  if c = quote ∨ c = '\\' then ['\\', c]
  else if c = '\n' then ['\\', 'n']
  else if c = '\r' then ['\\', 'r']
  else if c = '\t' then ['\\', 't']
  else if isPrintable c then [c]
  else numbered c.toNat

/-- One code point inside quotes. -/
def escape (quote : Char) : CodePoint → List Char
  | .char c => escapeChar quote c
  | p => numbered p.toNat

/-- The characters of a text between quotes. -/
def encode (s : Text) : List Char :=
  let quote := quoteFor s
  quote :: s.points.flatMap (escape quote) ++ [quote]

/-- One byte inside quotes. Only ASCII characters stand for themselves. -/
def escapeByte (quote : Char) (b : UInt8) : List Char :=
  if b < 128 then escapeChar quote (Char.ofNat b.toNat) else numbered b.toNat

end Quoted

/-- The text between quotes. -/
def quoted (s : Text) : String := String.ofList (Quoted.encode s)

/-- The bytes between quotes. -/
def quotedBytes (bs : List UInt8) : String :=
  let quote := Quoted.quoteFor (.ofChars (bs.map fun b => Char.ofNat b.toNat))
  String.ofList ('b' :: quote :: bs.flatMap (Quoted.escapeByte quote) ++ [quote])

end Hexscope.Text
