import Hexscope.Binary64.Shortest

/-!
# Numbers as they are given

A number may be given as a whole number of any size, as a truth value, which counts as one or zero, or as
a binary floating point number. The form is kept, because messages show it. Numbers are compared by their
exact values, whatever their forms (`Number.isBelow_whole`), and only a whole number or a truth value can
count places (`Number.index?`).
-/

namespace Hexscope

/-- A number in the form in which it was given. -/
inductive Number where
  | whole (n : Int)
  | truth (b : Bool)
  | binary (x : Binary64)
deriving DecidableEq, Repr

namespace Number

instance : Coe Int Number := ⟨.whole⟩

instance : Inhabited Number := ⟨.whole 0⟩

/-- What a truth value counts as. -/
def ofTruth (b : Bool) : Int := if b then 1 else 0

/-- A number as messages show it. -/
def text : Number → String
  | .whole n => s!"{n}"
  | .truth b => if b then "True" else "False"
  | .binary x => x.text

/-- The integer of a number that is given as one or as a truth value. -/
def index? : Number → Option Int
  | .whole n => some n
  | .truth b => some (ofTruth b)
  | .binary _ => none

/-- The number as a fraction, if it is finite. -/
def fraction? : Number → Option (Int × Nat)
  | .whole n => some (n, 1)
  | .truth b => some (ofTruth b, 1)
  | .binary (.finite s m e) => some (Binary64.fraction s m e)
  | .binary _ => none

/-- Whether a number lies below an integer. What is not a number lies nowhere. -/
def isBelow (x : Number) (n : Int) : Bool :=
  match x with
  | .binary (.infinite s) => s
  | x => x.fraction?.any fun f => f.1 < n * f.2

/-- Whether a number lies above an integer. -/
def isAbove (x : Number) (n : Int) : Bool :=
  match x with
  | .binary (.infinite s) => !s
  | x => x.fraction?.any fun f => n * f.2 < f.1

/-- Whether a number lies at an integer or above it. -/
def isFrom (x : Number) (n : Int) : Bool :=
  match x with
  | .binary (.infinite s) => !s
  | x => x.fraction?.any fun f => n * f.2 ≤ f.1

/-- Whether a number lies between two integers, both included. -/
def isWithin (x : Number) (first last : Int) : Bool := x.isFrom first && !x.isAbove last

/-- Whether a number lies from zero on and below a count. -/
def isPlace (x : Number) (count : Int) : Bool := x.isFrom 0 && x.isBelow count

/-- The floating point form of a number, if it has one. -/
def binary? : Number → Option Binary64
  | .whole n => Binary64.ofInt? n
  | .truth b => some (.ofNat (if b then 1 else 0))
  | .binary x => some x

/-- The sum with an integer: exact, or rounded if the number is a floating point number. -/
def plus (x : Number) (n : Int) : Number :=
  match x.index?, x with
  | some m, _ => .whole (m + n)
  | none, .binary x => .binary (x.add ((Binary64.ofInt? n).getD .nan))
  | none, x => x

theorem isBelow_whole (m n : Int) : isBelow m n = decide (m < n) := by
  simp [isBelow, fraction?]

theorem isAbove_whole (m n : Int) : isAbove m n = decide (n < m) := by
  simp [isAbove, fraction?]

theorem isFrom_whole (m n : Int) : isFrom m n = decide (n ≤ m) := by
  simp [isFrom, fraction?]

theorem isWithin_whole (n first last : Int) :
    isWithin n first last = true ↔ first ≤ n ∧ n ≤ last := by
  simp [isWithin, isFrom_whole, isAbove_whole]

end Number

end Hexscope
