/-!
# Numerals in a base

Addresses, words and register values are printed in upper-case hexadecimal. `nibbles` prints a
fixed number of places and drops what does not fit. `padded` prints every digit, fills up with
zeros to a width, and counts a minus sign towards that width.
-/

namespace Hexscope.Radix

/-- The upper-case digit for a value below 36. -/
def digit (d : Nat) : Char :=
  if d < 10 then Char.ofNat (48 + d) else Char.ofNat (55 + d)

/-- The lower-case digit for a value below 36. -/
def lowerDigit (d : Nat) : Char :=
  if d < 10 then Char.ofNat (48 + d) else Char.ofNat (87 + d)

/-- The lowest `places` hexadecimal digits of `n`, most significant first. -/
def nibbles : (places : Nat) → (n : Nat) → List Char
  | 0, _ => []
  | places + 1, n => nibbles places (n / 16) ++ [digit (n % 16)]

theorem length_nibbles (places n : Nat) : (nibbles places n).length = places := by
  induction places generalizing n with
  | zero => rfl
  | succ p ih => simp [nibbles, ih]

/-- The lowest `places` hexadecimal digits of `n` as text. -/
def hex (places n : Nat) : String := String.ofList (nibbles places n)

/-- All digits of `n` in a base, most significant first; zero has one digit. -/
def digits (base : Nat) (n : Nat) : List Char :=
  (Nat.toDigits base n).map Char.toUpper

/-- Fills `cs` up with leading zeros to at least `width` characters. -/
def zeroFill (width : Nat) (cs : List Char) : List Char :=
  List.replicate (width - cs.length) '0' ++ cs

theorem length_zeroFill (width : Nat) (cs : List Char) :
    (zeroFill width cs).length = max width cs.length := by
  simp [zeroFill]; omega

/-- An integer in upper-case digits of a base, filled with zeros to `width` characters after the
sign. The sign takes one of the places. -/
def padded (base width : Nat) (n : Int) : String :=
  if n < 0 then
    String.ofList ('-' :: zeroFill (width - 1) (digits base n.natAbs))
  else String.ofList (zeroFill width (digits base n.natAbs))

/-- An integer in hexadecimal, at least `width` characters wide. -/
def paddedHex (width : Nat) (n : Int) : String := padded 16 width n

/-- An address as the bus writes it in its messages: `0x` and lower-case digits, six characters
wide altogether, with a minus sign in front of the `0x`. -/
def address (n : Int) : String :=
  let body := (Nat.toDigits 16 n.natAbs)
  if n < 0 then String.ofList ('-' :: '0' :: 'x' :: zeroFill 3 body)
  else String.ofList ('0' :: 'x' :: zeroFill 4 body)

/-- An integer with a `0x` mark and lower-case hexadecimal digits, without padding. -/
def marked (n : Int) : String :=
  let body := (Nat.toDigits 16 n.natAbs)
  if n < 0 then String.ofList ('-' :: '0' :: 'x' :: body)
  else String.ofList ('0' :: 'x' :: body)

/-- The value of a hexadecimal digit of either case. -/
def hexDigit? (c : Char) : Option Nat :=
  if c.isDigit then some (c.toNat - 48)
  else if 'a' ≤ c ∧ c ≤ 'f' then some (c.toNat - 87)
  else if 'A' ≤ c ∧ c ≤ 'F' then some (c.toNat - 55)
  else none

/-- The number that hexadecimal digits stand for. -/
def ofHex? (cs : List Char) : Option Nat :=
  cs.foldlM (fun n c => (hexDigit? c).map (n * 16 + ·)) 0

/-- The bytes that are written as pairs of hexadecimal digits. -/
def bytes? : List Char → Option (List UInt8)
  | high :: low :: cs => do return UInt8.ofNat (← ofHex? [high, low]) :: (← bytes? cs)
  | cs => if cs.isEmpty then some [] else none

end Hexscope.Radix
