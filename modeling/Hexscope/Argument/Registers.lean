import Hexscope.Argument
import Hexscope.State
import Hexscope.Text.Integer

/-!
# Arguments for registers

A register is named by a number, and its new value is an integer of any size, of which the low byte is
stored. The registers of a state also have names of their own (`State.poke`).
-/

namespace Hexscope

namespace RegisterFile

/-- The register that a value names. -/
def registerOf (v : Value) : Except Complaint Register := do
  let x ← Argument.number v
  match x.index? with
  | some n => Argument.answer (register? n)
  | none => throw (if x.isPlace 16 then Argument.wrongForm else Argument.notHexadecimal "X" v)

/-- The content of the register that a value names. -/
def getAt (f : RegisterFile) (v : Value) : Except Complaint UInt8 := do
  return f.get (← registerOf v)

/-- The file with the register that a value names replaced. -/
def setAt (f : RegisterFile) (v value : Value) : Except Complaint RegisterFile := do
  let x ← registerOf v
  return f.set x (Byte.ofInt (← Argument.integer value))

/-- A file with the values of a list in its first registers. Nothing, an empty text and an empty mapping
stand for the empty list. -/
def ofArgument : Value → Except Complaint RegisterFile
  | .null => .ok zero
  | .list vs => vs.zipIdx.foldlM (fun f v => f.setAt (.int v.2) v.1) zero
  | v =>
    match v with
    | .text _ | .mapping _ => if v.isTruthy then .error Argument.wrongForm else .ok zero
    | _ => .error Argument.wrongForm

theorem getAt_int (f : RegisterFile) (n : Int) : f.getAt (.int n) = Argument.answer (f.get? n) := by
  have given : registerOf (.int n) = Argument.answer (register? n) := rfl
  unfold getAt get?
  rw [given]
  cases register? n <;> rfl

end RegisterFile

namespace State

/-- The text without a small v at its start. -/
def registerName? : Text → Option Text
  | ⟨.char 'v' :: ps⟩ => some ⟨ps⟩
  | _ => none

/-- The number of a register in hexadecimal. -/
def registerNumber (name : Text) : Except Complaint Int :=
  (Text.Integer.read 16 name).mapError fun e => ⟨.value, e.message⟩

/-- The rows of a screen, each with its number and its pixels in hexadecimal. -/
def screenOf (rows : Value) (screen : Screen) : Screen :=
  rows.items.foldl (fun screen row =>
    match row.items with
    | [.int y, .text pixels] =>
      let digits := (pixels.chars?.bind Radix.ofHex?).getD 0
      screen.setRow y.toNat (.ofNat 64 digits)
    | _ => screen) screen

/-- The state with the part of a name replaced: `i`, `pc`, `sp`, the timers, the first slots of the stack,
rows of the screen, or behind a `v` the register with a number in hexadecimal. Other names change
nothing. -/
def poke (s : State) (name : Text) (v : Value) : Except Complaint State :=
  let n := (v.number?.bind Number.index?).getD 0
  match registerName? name with
  | some digits => do
    let x ← Argument.answer (RegisterFile.register? (← registerNumber digits))
    return s.setV x (Byte.ofInt (← Argument.integer v))
  | none =>
    match name.string? with
    | some "i" => .ok { s with i := n }
    | some "pc" => .ok { s with pc := n }
    | some "sp" => .ok { s with sp := n }
    | some "dt" | some "delay_timer" => .ok { s with delay := n }
    | some "st" | some "sound_timer" => .ok { s with sound := n }
    | some "stack" =>
      let slots := v.items.map fun v => (v.number?.bind Number.index?).getD 0
      .ok { s with stack := slots ++ s.stack.drop slots.length }
    | some "fb" => .ok { s with screen := screenOf v s.screen }
    | _ => .ok s

/-- The state with the parts of a mapping replaced, in its order. -/
def pokeAll (s : State) (parts : Value) : Except Complaint State :=
  parts.members.foldlM (fun s m => s.poke m.1 m.2) s

end State

end Hexscope
