/-!
# Texts

A text is a sequence of code points. Nearly all of them are characters, but half of a surrogate pair
may also stand alone: it is no character, yet an escape can name one, and then it is kept, compared and
shown like any other code point. Texts are ordered by the numbers of their code points. In units of 16
bits a code point is one unit or a pair of halves, and two halves that belong together are one character
(`Text.ofUnits`). Every string is a text (`Text.ofString`), and a text without halves is a string
(`Text.string?_ofString`).
-/

namespace Hexscope

/-- A character, or half of a surrogate pair that stands alone. -/
inductive CodePoint where
  | char (c : Char)
  | half (k : Fin 0x800)
deriving DecidableEq, Repr

namespace CodePoint

/-- The number of the first half. -/
def firstHalf : Nat := 0xD800

/-- The number of the first half that comes second in its pair. -/
def firstLowHalf : Nat := 0xDC00

/-- The number of the first character that is a pair of halves in units of 16 bits. -/
def firstPaired : Nat := 0x10000

/-- The largest number of a code point. -/
def last : Nat := 0x10FFFF

/-- The number of a code point. -/
def toNat : CodePoint → Nat
  | .char c => c.toNat
  | .half k => firstHalf + k.val

/-- The code point of a number. A number beyond the last one stands for the character zero. -/
def ofNat (n : Nat) : CodePoint :=
  if h : n - firstHalf < 0x800 ∧ firstHalf ≤ n then .half ⟨n - firstHalf, h.1⟩
  else .char (Char.ofNat n)

/-- The character of a code point, if it is one. -/
def char? : CodePoint → Option Char
  | .char c => some c
  | .half _ => none

/-- The units of 16 bits. -/
def units (p : CodePoint) : List Nat :=
  let n := p.toNat
  if n < firstPaired then [n]
  else [firstHalf + (n - firstPaired) / 0x400, firstLowHalf + (n - firstPaired) % 0x400]

/-- Whether a number is that of a half, the first or the second of its pair. -/
def isHalf (n : Nat) : Bool := firstHalf ≤ n && n < firstHalf + 0x800

/-- The character of two halves, if they belong together. -/
def paired? (high low : Nat) : Option CodePoint :=
  if firstHalf ≤ high ∧ high < firstLowHalf ∧ firstLowHalf ≤ low ∧ isHalf low then
    some (ofNat (firstPaired + (high - firstHalf) * 0x400 + (low - firstLowHalf)))
  else none

theorem toNat_ofNat_half {n : Nat} (h : isHalf n = true) : (ofNat n).toNat = n := by
  have bounds : 0xD800 ≤ n ∧ n < 0xD800 + 0x800 := by
    obtain ⟨low, high⟩ := (Bool.and_eq_true _ _).mp h
    exact ⟨of_decide_eq_true low, of_decide_eq_true high⟩
  unfold ofNat
  split
  · simp only [toNat, firstHalf]
    omega
  · rename_i refuted
    exact absurd ⟨by simp only [firstHalf]; omega, bounds.1⟩ refuted

theorem ofNat_half (k : Fin 0x800) : ofNat (CodePoint.half k).toNat = .half k := by
  unfold ofNat
  have value : (CodePoint.half k).toNat - firstHalf = k.val := by
    simp only [toNat]
    omega
  split
  · simp [value]
  · rename_i refuted
    exact absurd ⟨by rw [value]; exact k.isLt, by simp only [toNat]; omega⟩ refuted

end CodePoint

/-- A sequence of code points. -/
structure Text where
  points : List CodePoint
deriving DecidableEq, Repr

namespace Text

/-- The text of characters. -/
def ofChars (cs : List Char) : Text := ⟨cs.map .char⟩

/-- The text of a string. -/
def ofString (s : String) : Text := ofChars s.toList

instance : Coe String Text := ⟨ofString⟩

instance : Inhabited Text := ⟨⟨[]⟩⟩

/-- One text behind another. -/
def append (s t : Text) : Text := ⟨s.points ++ t.points⟩

instance : Append Text := ⟨append⟩

/-- Whether there are no code points. -/
def isEmpty (s : Text) : Bool := s.points.isEmpty

/-- The characters of a text, if all code points are characters. -/
def chars? (s : Text) : Option (List Char) := s.points.mapM CodePoint.char?

/-- The string of a text, if all code points are characters. -/
def string? (s : Text) : Option String := s.chars?.map String.ofList

/-- The string of a text on a terminal, which shows a mark for each half. -/
def display (s : Text) : String :=
  String.ofList (s.points.map fun p => p.char?.getD (Char.ofNat 0xFFFD))

/-- Whether a text holds a character. -/
def has (s : Text) (c : Char) : Bool := s.points.contains (.char c)

/-- The parts of a text between the places of a character. -/
def splitOn (s : Text) (c : Char) : List Text := (s.points.splitOn (.char c)).map Text.mk

/-- Texts in a row with another text between them. -/
def join (between : Text) : List Text → Text
  | [] => ⟨[]⟩
  | [s] => s
  | s :: t :: ts => s ++ between ++ join between (t :: ts)

/-- Whether a text comes before another in the order of the numbers, or equals it. -/
def isUpTo (s t : Text) : Bool := pointsUpTo s.points t.points
where
  pointsUpTo : List CodePoint → List CodePoint → Bool
    | [], _ => true
    | _ :: _, [] => false
    | p :: ps, q :: qs => p.toNat < q.toNat || (p.toNat = q.toNat && pointsUpTo ps qs)

/-- The text of units of 16 bits. Two halves that belong together are one character. -/
def ofUnits (units : List Nat) : Text := ⟨paired units⟩
where
  paired : List Nat → List CodePoint
    | high :: low :: us =>
      match CodePoint.paired? high low with
      | some p => p :: paired us
      | none => .ofNat high :: paired (low :: us)
    | us => us.map .ofNat

@[simp] theorem points_append (s t : Text) : (s ++ t).points = s.points ++ t.points := rfl

theorem chars?_ofChars (cs : List Char) : (ofChars cs).chars? = some cs := by
  unfold chars? ofChars
  induction cs with
  | nil => rfl
  | cons c cs ih =>
    simp only [List.map_cons, List.mapM_cons, CodePoint.char?, Option.pure_def, Option.bind_eq_bind,
      Option.bind_some]
    rw [ih]
    rfl

theorem string?_ofString (s : String) : (ofString s).string? = some s := by
  simp [string?, ofString, chars?_ofChars]

end Text

end Hexscope
