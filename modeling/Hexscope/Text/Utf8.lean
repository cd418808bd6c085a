/-!
# Text from bytes, a byte at a time

In UTF-8 a character is one to four bytes, of which the first one tells how many follow. The second one
is limited further for some first bytes, so that every character has a single form and halves of surrogate
pairs have none. A byte that no text has at its place is refused at once, also if the bytes behind it are
not known yet (`Utf8.decode`).
-/

namespace Hexscope.Text.Utf8

/-- A character whose first bytes are known. -/
structure Opened where
  /-- The number of bytes that are missing. -/
  owed : Nat
  /-- The least next byte. -/
  low : Nat
  /-- The greatest next byte. -/
  high : Nat
  /-- The number that the known bytes give. -/
  code : Nat
deriving DecidableEq, Repr

/-- The character that a first byte opens. -/
def Opened.ofByte? (b : Nat) : Option Opened :=
  if b < 0x80 then some ⟨0, 0x80, 0xBF, b⟩
  else if b < 0xC2 then none
  else if b < 0xE0 then some ⟨1, 0x80, 0xBF, b - 0xC0⟩
  else if b < 0xF0 then
    some ⟨2, if b = 0xE0 then 0xA0 else 0x80, if b = 0xED then 0x9F else 0xBF, b - 0xE0⟩
  else if b < 0xF5 then
    some ⟨3, if b = 0xF0 then 0x90 else 0x80, if b = 0xF4 then 0x8F else 0xBF, b - 0xF0⟩
  else none

/-- The character with its next byte. -/
def Opened.add? (o : Opened) (b : Nat) : Option Opened :=
  if o.low ≤ b ∧ b ≤ o.high then some ⟨o.owed - 1, 0x80, 0xBF, o.code * 64 + (b - 0x80)⟩ else none

/-- The characters of bytes behind a character that may be open, and the one that is open at their end.
Bytes that no text has give nothing. -/
def decode : Option Opened → List UInt8 → Option (List Char × Option Opened)
  | o, [] => some ([], o)
  | o, b :: bs =>
    match o.elim (Opened.ofByte? b.toNat) (·.add? b.toNat) with
    | none => none
    | some o =>
      if o.owed = 0 then (decode none bs).map fun r => (Char.ofNat o.code :: r.1, r.2)
      else decode (some o) bs

/-- Decoding goes on where it was left off. -/
theorem decode_append (o : Option Opened) (bs cs : List UInt8) :
    decode o (bs ++ cs) =
      (decode o bs).bind fun r => (decode r.2 cs).map fun s => (r.1 ++ s.1, s.2) := by
  induction bs generalizing o with
  | nil => simp [decode]
  | cons b bs ih =>
    simp only [List.cons_append, decode]
    split
    · rfl
    · split
      · rw [ih]
        cases decode none bs with
        | none => rfl
        | some r => cases h : decode r.2 cs <;> simp [h]
      · exact ih _

end Hexscope.Text.Utf8
