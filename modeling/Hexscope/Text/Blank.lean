import Hexscope.Text.Ranges

/-!
# Blank characters

The characters that are stripped from around a numeral.
-/

namespace Hexscope.Text

/-- The blanks outside ASCII. -/
def wideBlanks : Ranges :=
  [(133, 133), (160, 160), (5760, 5760), (8192, 8202), (8232, 8233), (8239, 8239), (8287, 8287),
   (12288, 12288)]

/-- Whether a character may surround a numeral: the six ASCII blanks (space, tab, line feed,
vertical tab, form feed, carriage return) and the blanks of other blocks. -/
def isBlank (c : Char) : Bool :=
  c = ' ' || (9 ≤ c.toNat && c.toNat ≤ 13) || wideBlanks.contains c.toNat

theorem isBlank_of_isWhitespace {c : Char} (h : c.isWhitespace = true) : isBlank c = true := by
  simp only [Char.isWhitespace, Bool.or_eq_true, decide_eq_true_eq] at h
  rcases h with ((rfl | rfl) | rfl) | rfl <;> rfl

/-- The text without the blanks at its ends. -/
def stripBlanks (cs : List Char) : List Char :=
  ((cs.dropWhile isBlank).reverse.dropWhile isBlank).reverse

end Hexscope.Text
