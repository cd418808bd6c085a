import Hexscope.Text.Quoted

/-!
# Texts as the system takes them

The system names files and accounts by bytes. A character is written in UTF-8, a half of a surrogate pair
from U+DC80 to U+DCFF stands for a single byte beyond ASCII, and every other half has no bytes. So a name
that is no UTF-8 also has a text.
-/

namespace Hexscope.Text

/-- Halves in a row of which the first one has no bytes. -/
structure Unencodable where
  /-- The number of code points before them. -/
  position : Nat
  first : Fin 0x800
  count : Nat
deriving DecidableEq, Repr

/-- The text of a refusal. -/
def Unencodable.message (e : Unencodable) : String :=
  let place :=
    if e.count = 1 then
      "character '" ++ String.ofList (Quoted.numbered (CodePoint.half e.first).toNat) ++
        s!"' in position {e.position}"
    else s!"characters in position {e.position}-{e.position + e.count - 1}"
  "'utf-8' codec can't encode " ++ place ++ ": surrogates not allowed"

/-- The byte that a half stands for. -/
def halfByte? (k : Fin 0x800) : Option UInt8 :=
  if 0x480 ≤ k.val ∧ k.val < 0x500 then some (UInt8.ofNat (k.val - 0x400)) else none

/-- The bytes of code points that stand at a position. -/
def systemBytesFrom (position : Nat) : List CodePoint → Except Unencodable (List UInt8)
  | [] => .ok []
  | .char c :: ps => do return String.utf8EncodeChar c ++ (← systemBytesFrom (position + 1) ps)
  | .half k :: ps =>
    match halfByte? k with
    | some b => do return b :: (← systemBytesFrom (position + 1) ps)
    | none => .error ⟨position, k, 1 + (ps.takeWhile (·.char?.isNone)).length⟩

/-- The bytes of a text. -/
def systemBytes (s : Text) : Except Unencodable (List UInt8) := systemBytesFrom 0 s.points

end Hexscope.Text
