import Hexscope.Bus
import Hexscope.Instruction

/-!
# Faults

A fault ends a run: the opcode has no instruction, the call stack is full or empty, or a memory
access is refused. It remembers where it happened and the opcode.
-/

namespace Hexscope

/-- Why an instruction cannot reach a place. -/
inductive AccessError where
  | bus (error : Bus.Error)
  /-- There is no slot of this number to read. -/
  | noSlot
  /-- There is no slot of this number to fill. -/
  | noSlotToFill
  /-- No slot can have a number so far from zero. -/
  | farSlot
deriving DecidableEq, Repr

/-- The text of a refusal. -/
def AccessError.message : AccessError → Text
  | .bus e => e.message
  | .noSlot => "list index out of range"
  | .noSlotToFill => "list assignment index out of range"
  | .farSlot => "cannot fit 'int' into an index-sized integer"

/-- The kind of a refusal. -/
def AccessError.kind : AccessError → ErrorKind
  | .bus e => e.kind
  | .noSlot | .noSlotToFill | .farSlot => .index

instance : Failure AccessError := ⟨AccessError.kind, AccessError.message⟩

/-- The refusal of a slot, `near` being that of a slot whose number has no more than 64 bits. -/
def AccessError.ofSlot (near : AccessError) (number : Int) : AccessError :=
  if -0x8000000000000000 ≤ number ∧ number < 0x8000000000000000 then near else .farSlot

/-- The cause of a fault. -/
inductive Fault.Cause where
  | unknownOpcode
  | stackOverflow
  | stackUnderflow
  | access (error : AccessError)
deriving DecidableEq, Repr

/-- The number of slots on the call stack. -/
def stackDepth : Nat := 16

/-- The text of a cause. -/
def Fault.Cause.message : Fault.Cause → Text
  | .unknownOpcode => "Unknown opcode"
  | .stackOverflow => s!"Call stack overflow (depth {stackDepth})"
  | .stackUnderflow => "Return with empty call stack"
  | .access e => e.message

/-- The kind of a cause. -/
def Fault.Cause.kind : Fault.Cause → ErrorKind
  | .unknownOpcode => .invalidOpcode
  | .stackOverflow => .stackOverflow
  | .stackUnderflow => .stackUnderflow
  | .access _ => .memoryAccess

/-- A cause, the address of the instruction and its opcode. -/
structure Fault where
  cause : Fault.Cause
  pc : Int
  opcode : Int
deriving DecidableEq, Repr

namespace Fault

/-- A text with the place it speaks of, if both the address and the opcode are known. -/
def located (text : Text) : (pc opcode : Option Int) → Text
  | some pc, some opcode =>
    text ++ " (PC=0x" ++ Radix.paddedHex 4 pc ++ ", opcode=0x" ++ Radix.paddedHex 4 opcode ++ ")"
  | _, _ => text

/-- The text of a fault. -/
def message (f : Fault) : Text := located f.cause.message (some f.pc) (some f.opcode)

end Fault

end Hexscope
