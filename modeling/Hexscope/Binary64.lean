/-!
# Binary floating point numbers

Volumes and clock periods are binary floating point numbers of 64 bits. They are kept as exact
dyadic numbers, so every operation is a computation on integers followed by one rounding to the
nearest number, and a tie goes to the even mantissa (`Binary64.ofRatio`).
-/

namespace Hexscope

/-- A binary floating point number. A finite one is `mantissa * 2 ^ exponent` with a sign, and zero
has mantissa zero. -/
inductive Binary64 where
  | finite (negative : Bool) (mantissa : Nat) (exponent : Int)
  | infinite (negative : Bool)
  | nan
deriving DecidableEq, Repr, Inhabited

namespace Binary64

/-- The mantissa of a normal number has this many bits. -/
def precision : Nat := 53

/-- The smallest exponent of a mantissa that is a whole number. -/
def minExponent : Int := -1074

/-- The largest exponent of a mantissa that is a whole number. -/
def maxExponent : Int := 971

/-- Positive zero. -/
def zero : Binary64 := .finite false 0 minExponent

/-- The quotient rounded to the nearest whole number, a tie to the even one. -/
def roundQuotient (num den : Nat) : Nat :=
  let q := num / den
  let r := num % den
  if 2 * r < den then q
  else if den < 2 * r then q + 1
  else if q % 2 = 0 then q else q + 1

/-- Numerator and denominator of `num / den` divided by `2 ^ e`. -/
def scale (num den : Nat) (e : Int) : Nat × Nat :=
  if 0 ≤ e then (num, den <<< e.toNat) else (num <<< (-e).toNat, den)

/-- The exponent at which a positive quotient has a mantissa of full precision, or the smallest
exponent if the quotient is too small for that. -/
def exponentOf (num den : Nat) : Int :=
  let e : Int := (Nat.log2 num : Int) - Nat.log2 den - precision
  let (n, d) := scale num den (e + precision)
  max minExponent (if d ≤ n then e + 1 else e)

/-- The number nearest to `num / den`, a tie to the even mantissa. -/
def ofRatio (negative : Bool) (num den : Nat) : Binary64 :=
  if num = 0 then .finite negative 0 minExponent
  else
    let e := exponentOf num den
    let (n, d) := scale num den e
    let m := roundQuotient n d
    let (m, e) := if m = 1 <<< precision then (1 <<< (precision - 1), e + 1) else (m, e)
    if maxExponent < e then .infinite negative else .finite negative m e

/-- The number nearest to a decimal `digits * 10 ^ exponent`. -/
def ofDecimal (negative : Bool) (digits : Nat) (exponent : Int) : Binary64 :=
  if 0 ≤ exponent then ofRatio negative (digits * Nat.pow 10 exponent.toNat) 1
  else ofRatio negative digits (Nat.pow 10 (-exponent).toNat)

/-- The number nearest to an integer, or nothing if that is beyond the largest number. -/
def ofInt? (n : Int) : Option Binary64 :=
  match ofRatio (n < 0) n.natAbs 1 with
  | .infinite _ => none
  | x => some x

/-- A natural number, which must be small enough to have a binary form. -/
def ofNat (n : Nat) : Binary64 := ofRatio false n 1

/-- A finite number as a signed numerator over a power of two. -/
def fraction (negative : Bool) (m : Nat) (e : Int) : Int × Nat :=
  let signed (n : Nat) : Int := if negative then -(n : Int) else n
  if 0 ≤ e then (signed (m <<< e.toNat), 1) else (signed m, 1 <<< (-e).toNat)

/-- The order of the numbers; nothing is below or above what is not a number. -/
def lt : Binary64 → Binary64 → Bool
  | .finite s m e, .finite t n f =>
    let (a, b) := fraction s m e
    let (c, d) := fraction t n f
    a * d < c * b
  | .finite .., .infinite t => !t
  | .infinite s, .finite .. => s
  | .infinite s, .infinite t => s && !t
  | .nan, _ => false
  | _, .nan => false

/-- The number rounded from a signed fraction; a zero takes the sign `negativeZero`. -/
def ofFraction (negativeZero : Bool) (num : Int) (den : Nat) : Binary64 :=
  if num = 0 then .finite negativeZero 0 minExponent else ofRatio (num < 0) num.natAbs den

/-- The number with the other sign. -/
def neg : Binary64 → Binary64
  | .finite s m e => .finite (!s) m e
  | .infinite s => .infinite (!s)
  | .nan => .nan

/-- The rounded sum. -/
def add : Binary64 → Binary64 → Binary64
  | .finite s m e, .finite t n f =>
    let (a, b) := fraction s m e
    let (c, d) := fraction t n f
    ofFraction (s && t) (a * d + c * b) (b * d)
  | .finite .., .infinite t => .infinite t
  | .infinite s, .finite .. => .infinite s
  | .infinite s, .infinite t => if s = t then .infinite s else .nan
  | .nan, _ => .nan
  | _, .nan => .nan

/-- The rounded product. -/
def mul : Binary64 → Binary64 → Binary64
  | .finite s m e, .finite t n f =>
    let (a, b) := fraction s m e
    let (c, d) := fraction t n f
    ofFraction (s != t) (a * c) (b * d)
  | .finite s m _, .infinite t => if m = 0 then .nan else .infinite (s != t)
  | .infinite s, .finite t n _ => if n = 0 then .nan else .infinite (s != t)
  | .infinite s, .infinite t => .infinite (s != t)
  | .nan, _ => .nan
  | _, .nan => .nan

/-- Whether a number is zero, of either sign. -/
def isZero : Binary64 → Bool
  | .finite _ m _ => m = 0
  | _ => false

/-- The rounded quotient of a finite number, the divisor not being zero. -/
def div : Binary64 → Binary64 → Binary64
  | .finite s m e, .finite t n f =>
    if n = 0 then .nan
    else
      let (a, b) := fraction false m e
      let (c, d) := fraction false n f
      ofRatio (s != t) (a.natAbs * d) (b * c.natAbs)
  | .finite s .., .infinite t => .finite (s != t) 0 minExponent
  | _, _ => .nan

/-- A finite number rounded to the nearest integer, a tie to the even one. -/
def round? : Binary64 → Option Int
  | .finite s m e =>
    let (a, b) := fraction false m e
    let q := roundQuotient a.natAbs b
    some (if s then -(q : Int) else q)
  | _ => none

/-- The number, but at least zero and at most one. What is not a number becomes zero. -/
def clampUnit (x : Binary64) : Binary64 :=
  let atLeast := if lt zero x then x else zero
  if lt (ofNat 1) atLeast then ofNat 1 else atLeast

/-- The number lies between zero and one, both included. -/
def InUnit (x : Binary64) : Prop := lt x zero = false ∧ lt (ofNat 1) x = false ∧ x ≠ .nan

instance (x : Binary64) : Decidable (InUnit x) :=
  inferInstanceAs (Decidable (_ ∧ _ ∧ _))

end Binary64

end Hexscope
