import Hexscope.Bus
import Hexscope.Instruction.Assembly

/-!
# Listings

A listing shows the memory from an address on as instructions of two bytes. It ends with the address
space; a byte that is left over at the end stands alone, with question marks for its text. Reading
for a listing leaves no record.
-/

namespace Hexscope

/-- A line of a listing. -/
structure ListingLine where
  address : Int
  bytes : String
  text : String
deriving DecidableEq, Repr

namespace Bus

/-- The line of the last address of all, where only one byte is left. -/
def lastLine (b : Bus) (a : Int) : Except Error ListingLine := do
  let byte ← b.peek a
  return ⟨a, Radix.hex 2 byte.toNat, "??"⟩

/-- The line of the two bytes at an address and behind it. -/
def opcodeLine (b : Bus) (a : Int) : Except Error ListingLine := do
  let high ← b.peek a
  let low ← b.peek (a + 1)
  return ⟨a, Radix.hex 2 high.toNat ++ " " ++ Radix.hex 2 low.toNat,
    (Opcode.ofBytes high low).describe.text⟩

theorem toNat_sub_lt {stop a : Int} (below : a < stop) : (stop - (a + 2)).toNat < (stop - a).toNat := by
  omega

/-- The lines from the address `a` on, as long as they begin below `stop`. A line at the last address of all
ends the loop. -/
def linesFrom (b : Bus) (stop a : Int) : Except Error (List ListingLine) :=
  if a < stop then
    if b.size ≤ a + 1 then do
      let l ← b.lastLine a
      return [l]
    else do
      let l ← b.opcodeLine a
      let lines ← b.linesFrom stop (a + 2)
      return l :: lines
  else return []
termination_by (stop - a).toNat
decreasing_by exact toNat_sub_lt ‹a < stop›

/-- The listing of `length` addresses from `start` on, as far as they exist. -/
def listing (b : Bus) (start length : Int) : Except Error (List ListingLine) :=
  b.linesFrom (min (start + length) b.size) start

end Bus

end Hexscope
