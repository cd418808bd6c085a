import Hexscope.Binary64
import Hexscope.Text.Integer

/-!
# Numerals with a fraction

A numeral has digits with a point that may be missing, an exponent that may be missing, a sign and
blanks around it. Single underscores are allowed between two digits. The names of infinity and of
what is not a number are read in any case. The value is the nearest number, and a value beyond the
largest one is infinite.
-/

namespace Hexscope.Binary64.Numeral

/-- The value of an ASCII digit. -/
def digit? (c : Char) : Option Nat := if c.isDigit then some (c.toNat - 48) else none

/-- Removes underscores, which must stand between two digits. `previous` is the character before. -/
def dropUnderscores (previous : Char) : List Char → Option (List Char)
  | [] => if previous = '_' then none else some []
  | c :: cs =>
    if c = '_' then if previous.isDigit then dropUnderscores c cs else none
    else if previous = '_' && !c.isDigit then none
    else (dropUnderscores c cs).map (c :: ·)

/-- The leading digits and the rest. -/
def spanDigits (cs : List Char) : List Char × List Char :=
  (cs.takeWhile Char.isDigit, cs.dropWhile Char.isDigit)

/-- The value of a string of ASCII digits. -/
def valueOf (cs : List Char) : Nat := cs.foldl (fun n c => n * 10 + (c.toNat - 48)) 0

/-- An exponent: nothing, or a mark with a sign that may be missing and digits. -/
def exponent? : List Char → Option Int
  | [] => some 0
  | c :: cs =>
    if c = 'e' ∨ c = 'E' then
      let (negative, ds) := Text.Integer.splitSign cs
      if ds.isEmpty || !ds.all Char.isDigit then none
      else some (Text.Integer.signed negative (valueOf ds))
    else none

/-- An unsigned decimal. Beyond four hundred places to either side of the point it is infinite or
zero, whatever its digits are. -/
def decimal? (negative : Bool) (cs : List Char) : Option Binary64 :=
  let (whole, rest) := spanDigits cs
  let (part, rest) :=
    match rest with
    | '.' :: more => spanDigits more
    | _ => ([], rest)
  if whole.isEmpty && part.isEmpty then none
  else do
    let e ← exponent? rest
    let digits := valueOf (whole ++ part)
    if digits = 0 then return .finite negative 0 minExponent
    let places : Int := (Nat.toDigits 10 digits).length + e - part.length
    if 400 < places then return .infinite negative
    if places < -400 then return .finite negative 0 minExponent
    return ofDecimal negative digits (e - part.length)

/-- An unsigned numeral or one of the names. -/
def unsigned? (negative : Bool) (cs : List Char) : Option Binary64 :=
  let name := String.ofList (cs.map Char.toLower)
  if name = "inf" ∨ name = "infinity" then some (.infinite negative)
  else if name = "nan" then some .nan
  else decimal? negative cs

end Numeral

/-- Reads a numeral from text. -/
def ofText? (s : Text) : Option Binary64 := do
  let cs ← Numeral.dropUnderscores ' ' (Text.Integer.body s)
  let (negative, rest) := Text.Integer.splitSign cs
  Numeral.unsigned? negative rest

end Hexscope.Binary64
