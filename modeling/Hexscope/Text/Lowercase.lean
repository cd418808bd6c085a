import Hexscope.Text
import Hexscope.Text.CaseTable

/-!
# Lower-casing of text

Each capital becomes its small letter. Two capitals are special: the dotted capital I becomes a
small i followed by a combining dot, and a capital sigma becomes the final form at the end of a
word. A word ends at a sigma when the nearest code point before it that is not ignorable has case,
and the nearest one behind it has not. Halves of surrogate pairs have no case.
-/

namespace Hexscope.Text

namespace Case

/-- The number of the small letter of a capital that has a single one. -/
def simple? (c : Nat) : Option Nat :=
  runs.findSome? fun r =>
    if r.first ≤ c ∧ c ≤ r.last ∧ (c - r.first) % r.step = 0 then some ((c : Int) + r.shift).toNat
    else none

/-- The first code point that is not ignorable has case. -/
def startsCased (ps : List CodePoint) : Bool :=
  match ps.dropWhile fun p => ignorable.contains p.toNat with
  | [] => false
  | p :: _ => cased.contains p.toNat

/-- Whether a sigma between the reversed text `before` and the text `behind` ends a word. -/
def isFinal (before behind : List CodePoint) : Bool :=
  startsCased before && !startsCased behind

/-- The lower-case form of one character in its surroundings. -/
def lowerAt (before : List CodePoint) (c : Char) (behind : List CodePoint) : List Char :=
  if c.toNat = 0x130 then ['i', Char.ofNat 0x307]
  else if c.toNat = 0x3A3 then [Char.ofNat (if isFinal before behind then 0x3C2 else 0x3C3)]
  else match simple? c.toNat with
    | some l => [Char.ofNat l]
    | none => [c]

/-- Lower-cases a text that stands behind the reversed text `before`. -/
def lowerFrom (before : List CodePoint) : List CodePoint → List CodePoint
  | [] => []
  | .char c :: ps => (lowerAt before c ps).map .char ++ lowerFrom (.char c :: before) ps
  | p :: ps => p :: lowerFrom (p :: before) ps

end Case

/-- The text in lower case. -/
def lowercase (s : Text) : Text := ⟨Case.lowerFrom [] s.points⟩

end Hexscope.Text
