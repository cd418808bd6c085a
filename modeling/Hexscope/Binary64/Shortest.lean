import Hexscope.Binary64

/-!
# Shortest decimal text of a binary number

A finite number is written with the fewest digits that still read back as it, and of those with the
digits nearest to it. A decimal reads back as `m * 2 ^ e` if it lies in the interval between the
two halfway points around it; the ends belong to the interval exactly if `m` is even. For one, two,
… seventeen digits the two neighbours of the number on the grid of that many digits are tried, and
the first grid with a hit wins. The text is positional from 10^-4 up to below 10^16, with at least
one digit behind the point, and scientific elsewhere, with a sign and two places in the exponent.
-/

namespace Hexscope.Binary64

/-- Compares `a * 10 ^ s` with `b * 2 ^ e` for natural numbers `a` and `b`. -/
def compareDecimal (a : Nat) (s : Int) (b : Nat) (e : Int) : Ordering :=
  let left := (a * Nat.pow 10 s.toNat) <<< (-e).toNat
  let right := (b <<< e.toNat) * Nat.pow 10 (-s).toNat
  compare left right

/-- The decimals that read back as `mantissa * 2 ^ exponent`, in units of a quarter of the last
place of the mantissa. -/
structure Interval where
  low : Nat
  high : Nat
  closed : Bool

/-- The interval around a number. It is narrower below a power of two. -/
def interval (m : Nat) (e : Int) : Interval :=
  let narrow := m = 1 <<< (precision - 1) ∧ minExponent < e
  ⟨4 * m - (if narrow then 1 else 2), 4 * m + 2, m % 2 = 0⟩

/-- Whether the decimal `a * 10 ^ s` lies in an interval with unit `2 ^ e`. -/
def Interval.holds (i : Interval) (e : Int) (a : Nat) (s : Int) : Bool :=
  let low := compareDecimal a s i.low e
  let high := compareDecimal a s i.high e
  (low == .gt || (i.closed && low == .eq)) && (high == .lt || (i.closed && high == .eq))

/-- The number `b * 2 ^ e` divided by `10 ^ s`, rounded down. -/
def gridBelow (b : Nat) (e s : Int) : Nat :=
  ((b <<< e.toNat) * Nat.pow 10 (-s).toNat) / (Nat.pow 10 s.toNat <<< (-e).toNat)

/-- Of two neighbours on the grid `10 ^ s` the one that reads back, or the nearer one if both do,
with a tie to the even digit. -/
def pick (m : Nat) (e s : Int) : Option Nat :=
  let i := interval m e
  let a := gridBelow m e s
  match i.holds (e - 2) a s, i.holds (e - 2) (a + 1) s with
  | false, false => none
  | true, false => some a
  | false, true => some (a + 1)
  | true, true =>
    match compareDecimal (2 * a + 1) s (2 * m) e with
    | .gt => some a
    | .lt => some (a + 1)
    | .eq => some (if a % 2 = 0 then a else a + 1)

/-- The number of digits before the point of a positive number `m * 2 ^ e`, found by stepping from
an estimate that is at most two too low. -/
def magnitude (m : Nat) (e : Int) : Int :=
  let bits : Int := (Nat.log2 m : Int) + e
  let guess := Int.fdiv (bits * 30103) 100000
  let step (k : Int) : Int := if compareDecimal 1 k m e == .gt then k else k + 1
  step (step (step (guess - 1)))

/-- Digits and exponent of the shortest decimal, trying grids of more and more digits. -/
def shortestFrom (m : Nat) (e : Int) (places : Int) : (fuel : Nat) → Nat × Int
  | 0 => (gridBelow m e (places - 17), places - 17)
  | fuel + 1 =>
    let s := places - (17 - fuel : Int)
    match pick m e s with
    | some a => (a, s)
    | none => shortestFrom m e places fuel

/-- Drops zeros from the end of a digit string. -/
def trimZeros (cs : List Char) : List Char := (cs.reverse.dropWhile (· = '0')).reverse

/-- How a decimal is laid out. -/
structure Layout where
  /-- Positional from this power of ten on … -/
  lowest : Int
  /-- … up to below this one. -/
  highest : Int
  /-- Places of an exponent, filled with zeros. -/
  exponentPlaces : Nat

/-- The layout of all numbers in this library. -/
def layout : Layout := ⟨-4, 16, 2⟩

/-- The text of a decimal with these digits, `point` of which stand before the point. -/
def Layout.write (l : Layout) (cs : List Char) (point : Int) : List Char :=
  if l.lowest < point ∧ point ≤ l.highest then
    if point ≤ 0 then '0' :: '.' :: List.replicate (-point).toNat '0' ++ cs
    else
      let whole := cs.take point.toNat
      let rest := cs.drop point.toNat
      whole ++ List.replicate (point.toNat - whole.length) '0' ++
        '.' :: (if rest.isEmpty then ['0'] else rest)
  else
    let x := point - 1
    let places := Nat.toDigits 10 x.natAbs
    let places := List.replicate (l.exponentPlaces - places.length) '0' ++ places
    let tail := if cs.length ≤ 1 then [] else '.' :: cs.drop 1
    cs.take 1 ++ tail ++ 'e' :: (if x < 0 then '-' else '+') :: places

/-- The shortest text that reads back as the number. -/
def text : Binary64 → String
  | .nan => "nan"
  | .infinite s => if s then "-inf" else "inf"
  | .finite s m e =>
    let body :=
      if m = 0 then ['0', '.', '0']
      else
        let (a, k) := shortestFrom m e (magnitude m e) 17
        let all := Nat.toDigits 10 a
        layout.write (trimZeros all) (all.length + k)
    String.ofList (if s then '-' :: body else body)

end Hexscope.Binary64
