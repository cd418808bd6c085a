import Hexscope.Number

/-!
# Frequencies

A frequency is a number of cycles a second, in any of the forms of a number. Its period is the quotient
of the unit of time and the frequency, rounded once. Only a whole number that is too large for a floating
point form has no period (`Frequency.period?_eq_none`).
-/

namespace Hexscope

/-- How often a second something is done. -/
abbrev Frequency := Number

namespace Frequency

/-- Whether a frequency is zero or below zero. What is not a number is neither. -/
def isRefused (f : Frequency) : Bool :=
  f.isBelow 0 || match f with
    | .whole n => n = 0
    | .truth b => !b
    | .binary x => x.isZero

/-- The time between two cycles in milliseconds. -/
def period? (f : Frequency) : Option Binary64 := f.binary?.map (Binary64.div (.ofNat 1000))

theorem period?_eq_none {f : Frequency} :
    f.period? = none ↔ ∃ n, f = .whole n ∧ Binary64.ofInt? n = none := by
  cases f <;> simp [period?, Number.binary?]

theorem isRefused_whole (n : Int) : isRefused n = decide (n ≤ 0) := by
  simp only [isRefused, Number.isBelow_whole]
  rw [← Bool.decide_or]
  congr 1
  exact propext (by omega)

/-- The nearest whole number of cycles a second. -/
def rounded : Frequency → Int
  | .whole n => n
  | .truth b => Number.ofTruth b
  | .binary x => x.round?.getD 0

end Frequency

end Hexscope
