import Hexscope.Text

/-!
# Typefaces

The inspector is set in a typeface of fixed width: the first preferred family that the system
offers, or else the system's own.
-/

namespace Hexscope

/-- What a system offers: its families, and the one of fixed width that it uses itself. -/
structure FontShelf where
  families : List Text
  fixed : Text
deriving DecidableEq, Repr

namespace FontShelf

/-- A shelf with nothing but the system's own family. -/
def bare : FontShelf := ⟨[], "Fixed"⟩

instance : Inhabited FontShelf := ⟨bare⟩

/-- The families that are preferred, best first. -/
def preferred : List Text := ["Consolas", "Menlo", "Monaco", "Courier New"]

/-- The family to use. -/
def choose (s : FontShelf) : Text := (preferred.find? s.families.contains).getD s.fixed

/-- The size in points unless said otherwise. -/
def standardSize : Nat := 10

theorem choose_mem_or_eq_fixed (s : FontShelf) : s.choose ∈ s.families ∨ s.choose = s.fixed := by
  unfold choose
  cases h : preferred.find? s.families.contains with
  | none => exact .inr rfl
  | some f =>
    have := List.find?_some h
    exact .inl (by simpa using this)

end FontShelf

end Hexscope
