import Hexscope.Keypad
import Hexscope.Argument

/-!
# Arguments for keys

A key is named by its number or by the name of a host key.
-/

namespace Hexscope.Keypad

/-- The key that a value names. -/
def keyOf (v : Value) : Except Complaint Key := do
  let x ← Argument.number v
  match x.index? with
  | some n => Argument.answer (key? n)
  | none => throw (if x.isPlace 16 then Argument.wrongForm else .of (NoSuchKey.mk x))

/-- Whether the key that a value names is down. -/
def isPressedAt (p : Keypad) (v : Value) : Except Complaint Bool := do
  let x ← Argument.number v
  match x.index? with
  | some n => return p.isPressed n
  | none => if x.isPlace 16 then throw Argument.wrongForm else return false

/-- A keypad with host keys of one's own besides the standard ones. What counts as nothing stands for the
empty map. -/
def ofArgument : Value → Except Complaint Keypad
  | .mapping entries => do
    let own := (Value.mapping entries).members
    let names := assignAll (standardNames.map fun e => (e.1, .int e.2)) own
    return idle (← names.mapM fun e => do return (e.1, ← keyOf e.2))
  | v => if v.isTruthy then .error Argument.withoutPart else .ok (idle standardNames)

end Hexscope.Keypad
