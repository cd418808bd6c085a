import Hexscope.Fault
import Hexscope.Screen
import Hexscope.Text.DecimalDigit
import Hexscope.Text.Lowercase

/-!
# Registers and processor state

`Registers` is what a snapshot keeps: V0 … VF, the index I, program counter and stack pointer, the
sixteen stack slots and the two timers. `State` adds the screen, whether it must be shown again, and
the register that an instruction waiting for a key will fill. The instructions keep all values in
their machine ranges; the numbers are integers, because a session may set them to anything.
-/

namespace Hexscope

/-- The address of the first instruction of a program. -/
def programStart : Nat := 0x200

/-- The registers, the call stack and the timers. -/
structure Registers where
  pc : Int
  sp : Int
  i : Int
  v : RegisterFile
  stack : List Int
  delay : Int
  sound : Int
deriving DecidableEq, Repr

namespace Registers

/-- The registers of a processor that was just reset. -/
def initial : Registers :=
  ⟨programStart, 0, 0, RegisterFile.zero, List.replicate stackDepth 0, 0, 0⟩

instance : Inhabited Registers := ⟨initial⟩

/-- The register that a single character names: a decimal digit of any script, or a letter from
a to f in either case. -/
def digit? (c : Char) : Option Register :=
  match Text.DecimalDigit.value? c with
  | some d => if h : d < 16 then some ⟨d, h⟩ else none
  | none =>
    if 'a' ≤ c ∧ c ≤ 'f' then some (Fin.ofNat 16 (c.toNat - 87))
    else if 'A' ≤ c ∧ c ≤ 'F' then some (Fin.ofNat 16 (c.toNat - 55))
    else none

/-- The value of a register that is named in any case: `v0` to `vf`, `i`, `pc`, `sp`,
`delay_timer` or `sound_timer`. Other names have no value. -/
def named? (r : Registers) (name : Text) : Option Int :=
  let name := name.lowercase
  match name.points, name.string? with
  | [.char 'v', .char c], _ => (digit? c).map fun x => Byte.toInt (r.v.get x)
  | _, some "pc" => some r.pc
  | _, some "sp" => some r.sp
  | _, some "i" => some r.i
  | _, some "delay_timer" => some r.delay
  | _, some "sound_timer" => some r.sound
  | _, _ => none

/-- All registers under the names of the panel, in its order. -/
def table (r : Registers) : List (String × Int) :=
  (List.finRange 16).map (fun (x : Register) => ("V" ++ Radix.hex 1 x, Byte.toInt (r.v.get x))) ++
    [("I", r.i), ("PC", r.pc), ("SP", r.sp), ("DT", r.delay), ("ST", r.sound)]

end Registers

/-- A group of registers on the panel, with the width of each in bits. -/
structure RegisterGroup where
  title : String
  registers : List (String × Nat)
deriving DecidableEq, Repr

/-- The groups of the panel. -/
def registerGroups : List RegisterGroup :=
  [⟨"General Purpose", (List.range 16).map fun x => ("V" ++ Radix.hex 1 x, 8)⟩,
   ⟨"Index/Pointers", [("I", 16), ("PC", 16), ("SP", 8)]⟩,
   ⟨"Timers", [("DT", 8), ("ST", 8)]⟩]

/-- The registers, the screen, whether it changed, and the register that waits for a key. -/
structure State extends Registers where
  screen : Screen
  renderNeeded : Bool
  keyWait : Option Register
deriving DecidableEq, Repr

namespace State

/-- The state of a processor that was just reset. -/
def initial : State := { Registers.initial with
  screen := .blank
  renderNeeded := false
  keyWait := none }

instance : Inhabited State := ⟨initial⟩

/-- Replaces a register. -/
def setV (s : State) (x : Register) (b : UInt8) : State := { s with v := s.v.set x b }

/-- The register that holds flags. -/
def flag : Register := 0xF

/-- Replaces the flag. -/
def setFlag (s : State) (b : Bool) : State := s.setV flag (if b then 1 else 0)

/-- Moves the program counter behind an instruction. -/
def advance (s : State) (length : Nat) : State := { s with pc := wrapWord (s.pc + length) }

/-- Passes over the next instruction if a condition holds. -/
def skipIf (s : State) (condition : Bool) : State := if condition then s.advance 2 else s

/-- The slot that a stack pointer names. A negative one counts from the end of the stack. -/
def slot? (s : State) (sp : Int) : Option Nat :=
  if 0 ≤ sp ∧ sp < s.stack.length then some sp.toNat
  else if sp < 0 ∧ 0 ≤ sp + s.stack.length then some (sp + s.stack.length).toNat
  else none

end State

end Hexscope
