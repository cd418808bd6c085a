import Hexscope.Bus
import Hexscope.Instruction.Assembly

/-!
# Snapshots

A snapshot is the frozen record of a moment: the registers, the instruction that led there (none
after a reset), the cycle count, the instruction that comes next in memory, and the bus accesses
since the log was last taken.
-/

namespace Hexscope

/-- The record of a moment, with registers of type `σ`. -/
structure Snapshot (σ : Type) where
  state : σ
  operation : Option Operation
  cycles : Nat
  renderNeeded : Bool
  next : Option Operation
  activity : List Access
deriving Repr

namespace Snapshot

variable {σ : Type}

/-- The text of the instruction. -/
def symbol (s : Snapshot σ) : Option String := s.operation.map Operation.text

/-- The addresses that were accessed in a direction, in order. -/
def accessed (s : Snapshot σ) (d : Direction) : List Int :=
  (s.activity.filter (·.direction = d)).map (·.address)

end Snapshot

end Hexscope
