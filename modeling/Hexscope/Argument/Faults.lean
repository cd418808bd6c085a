import Hexscope.Fault
import Hexscope.Argument

/-!
# Arguments for faults
-/

namespace Hexscope.Fault

/-- The number that a value is, for its hexadecimal digits. -/
def digitsOf (v : Value) : Except Complaint Int :=
  match v.number?.bind Number.index? with
  | some n => .ok n
  | none => .error (Argument.notHexadecimal "X" v)

/-- A text with the place it speaks of, unless the address or the opcode is nothing. -/
def locatedBy (text : Text) (pc opcode : Value) : Except Complaint Text :=
  match pc, opcode with
  | .null, _ | _, .null => .ok text
  | pc, opcode => do
    let pc ← digitsOf pc
    return located text pc (← digitsOf opcode)

end Hexscope.Fault
