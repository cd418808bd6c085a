import Hexscope.RegisterFile

/-!
# Instructions

An opcode is a word of sixteen bits. `Instruction.decode?` reads it as one of the 35 instruction
forms; it is the only reader of opcodes, so execution, listing and lookahead agree on what an opcode
means. The family of an opcode is its top nibble. Families 8 select the form by the lowest nibble
and families E and F by the low byte, and family 0 has two opcodes of its own.
-/

namespace Hexscope

/-- An instruction word. -/
abbrev Opcode := UInt16

namespace Opcode

/-- The opcode of two bytes. -/
def ofBytes (high low : UInt8) : Opcode := UInt16.ofNat (high.toNat * 256 + low.toNat)

/-- The low sixteen bits of an integer. -/
def ofInt (n : Int) : Opcode := UInt16.ofNat (n % 65536).toNat

/-- The first byte. -/
def high (w : Opcode) : UInt8 := UInt8.ofNat (w.toNat / 256)

/-- The second byte, which is the immediate byte of many forms. -/
def low (w : Opcode) : UInt8 := UInt8.ofNat (w.toNat % 256)

/-- The top nibble. -/
def family (w : Opcode) : Nat := w.toNat / 4096

/-- The second nibble, a register. -/
def x (w : Opcode) : Register := ⟨w.toNat / 256 % 16, Nat.mod_lt _ (by decide)⟩

/-- The third nibble, a register. -/
def y (w : Opcode) : Register := ⟨w.toNat / 16 % 16, Nat.mod_lt _ (by decide)⟩

/-- The lowest nibble. -/
def n (w : Opcode) : Fin 16 := ⟨w.toNat % 16, Nat.mod_lt _ (by decide)⟩

/-- The address in the lowest three nibbles. -/
def nnn (w : Opcode) : Fin 4096 := ⟨w.toNat % 4096, Nat.mod_lt _ (by decide)⟩

/-- The opcode with its operands blanked, which selects the instruction form. -/
def selector (w : Opcode) : Nat :=
  match w.family with
  | 0 => if w = 0x00E0 ∨ w = 0x00EE then w.toNat else 0
  | 5 | 8 | 9 => w.family * 4096 + w.n
  | 14 | 15 => w.family * 4096 + w.low.toNat
  | f => f * 4096

/-- The opcode and its bits, as it is shown in traces. -/
def text (w : Opcode) : String :=
  "0x" ++ Radix.hex 4 w.toNat ++ " (" ++ Radix.padded 2 16 w.toNat ++ ")"

end Opcode

/-- The instruction forms with their operands. -/
inductive Instruction where
  /-- Call of a machine routine, which is ignored. -/
  | sys (a : Fin 4096)
  /-- Blanks the screen. -/
  | cls
  /-- Returns from a subroutine. -/
  | ret
  | jump (a : Fin 4096)
  | call (a : Fin 4096)
  | skipIfByte (x : Register) (b : UInt8)
  | skipUnlessByte (x : Register) (b : UInt8)
  | skipIfSame (x y : Register)
  | loadByte (x : Register) (b : UInt8)
  | addByte (x : Register) (b : UInt8)
  | copy (x y : Register)
  | or (x y : Register)
  | and (x y : Register)
  | xor (x y : Register)
  | add (x y : Register)
  | sub (x y : Register)
  /-- Shifts Vx right; the second register is ignored. -/
  | shiftRight (x y : Register)
  /-- Subtracts Vx from Vy. -/
  | subFrom (x y : Register)
  /-- Shifts Vx left; the second register is ignored. -/
  | shiftLeft (x y : Register)
  | skipUnlessSame (x y : Register)
  | loadIndex (a : Fin 4096)
  /-- Jumps to an address plus V0. -/
  | jumpPlus (a : Fin 4096)
  /-- A random byte, masked. -/
  | random (x : Register) (b : UInt8)
  /-- Draws a sprite of `n` rows at column Vx and row Vy. -/
  | draw (x y : Register) (n : Fin 16)
  | skipIfKey (x : Register)
  | skipUnlessKey (x : Register)
  | readDelay (x : Register)
  /-- Waits for a key. -/
  | awaitKey (x : Register)
  | setDelay (x : Register)
  | setSound (x : Register)
  | addIndex (x : Register)
  /-- Points the index at the glyph of a digit. -/
  | glyph (x : Register)
  /-- Stores the three decimal digits of a register. -/
  | decimal (x : Register)
  /-- Stores V0 … Vx at the index. -/
  | store (x : Register)
  /-- Fills V0 … Vx from the index. -/
  | fill (x : Register)
deriving DecidableEq, Repr

namespace Instruction

/-- The register forms of family 8, selected by the lowest nibble. -/
def decodeRegisters? (w : Opcode) : Option Instruction :=
  match w.n.val with
  | 0 => some (.copy w.x w.y)
  | 1 => some (.or w.x w.y)
  | 2 => some (.and w.x w.y)
  | 3 => some (.xor w.x w.y)
  | 4 => some (.add w.x w.y)
  | 5 => some (.sub w.x w.y)
  | 6 => some (.shiftRight w.x w.y)
  | 7 => some (.subFrom w.x w.y)
  | 14 => some (.shiftLeft w.x w.y)
  | _ => none

/-- The forms of family F, selected by the low byte. -/
def decodeDevices? (w : Opcode) : Option Instruction :=
  match w.low.toNat with
  | 0x07 => some (.readDelay w.x)
  | 0x0A => some (.awaitKey w.x)
  | 0x15 => some (.setDelay w.x)
  | 0x18 => some (.setSound w.x)
  | 0x1E => some (.addIndex w.x)
  | 0x29 => some (.glyph w.x)
  | 0x33 => some (.decimal w.x)
  | 0x55 => some (.store w.x)
  | 0x65 => some (.fill w.x)
  | _ => none

/-- The instruction of an opcode, or nothing if the opcode has none of the forms. -/
def decode? (w : Opcode) : Option Instruction :=
  match w.family with
  | 0x0 => some (if w = 0x00E0 then .cls else if w = 0x00EE then .ret else .sys w.nnn)
  | 0x1 => some (.jump w.nnn)
  | 0x2 => some (.call w.nnn)
  | 0x3 => some (.skipIfByte w.x w.low)
  | 0x4 => some (.skipUnlessByte w.x w.low)
  | 0x5 => if w.n = 0 then some (.skipIfSame w.x w.y) else none
  | 0x6 => some (.loadByte w.x w.low)
  | 0x7 => some (.addByte w.x w.low)
  | 0x8 => decodeRegisters? w
  | 0x9 => if w.n = 0 then some (.skipUnlessSame w.x w.y) else none
  | 0xA => some (.loadIndex w.nnn)
  | 0xB => some (.jumpPlus w.nnn)
  | 0xC => some (.random w.x w.low)
  | 0xD => some (.draw w.x w.y w.n)
  | 0xE =>
    if w.low = 0x9E then some (.skipIfKey w.x)
    else if w.low = 0xA1 then some (.skipUnlessKey w.x) else none
  | 0xF => decodeDevices? w
  | _ => none

end Instruction

end Hexscope
