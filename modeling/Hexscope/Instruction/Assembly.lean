import Hexscope.Instruction

/-!
# Assembly text

Each instruction has a mnemonic and operands. Addresses are written with a dollar sign and three
hexadecimal digits, bytes with a number sign and two, and the row count of a sprite in decimal. An
opcode without instruction is shown as a data word.
-/

namespace Hexscope

/-- An operand of an instruction. -/
inductive Operand where
  | register (x : Register)
  | address (a : Fin 4096)
  | byte (b : UInt8)
  | count (n : Fin 16)
  /-- A data word. -/
  | word (w : Opcode)
  /-- The index register. -/
  | index
  /-- The memory that the index register points at. -/
  | memory
  /-- The delay timer. -/
  | delay
  /-- The sound timer. -/
  | sound
  /-- The next key. -/
  | key
  /-- The font. -/
  | font
  /-- The decimal digits. -/
  | digits
deriving DecidableEq, Repr

/-- An operand as it is written. -/
def Operand.text : Operand → String
  | .register x => "V" ++ Radix.hex 1 x
  | .address a => "$" ++ Radix.hex 3 a
  | .byte b => "#$" ++ Radix.hex 2 b.toNat
  | .count n => s!"{n.val}"
  | .word w => "#$" ++ Radix.hex 4 w.toNat
  | .index => "I"
  | .memory => "[I]"
  | .delay => "DT"
  | .sound => "ST"
  | .key => "K"
  | .font => "F"
  | .digits => "B"

/-- What a step reports about the instruction that it executed. -/
structure Operation where
  /-- The opcode in hexadecimal. -/
  code : String
  mnemonic : String
  operands : List String
  /-- The number of cycles that the instruction takes. -/
  cycles : Nat
  /-- The number of bytes that the instruction takes in memory. -/
  length : Nat
deriving DecidableEq, Repr

/-- The mnemonic, and the operands separated by commas. -/
def Operation.text (o : Operation) : String :=
  if o.operands.isEmpty then o.mnemonic
  else o.mnemonic ++ " " ++ String.intercalate ", " o.operands

namespace Instruction

/-- The mnemonic of an instruction. -/
def mnemonic : Instruction → String
  | .sys _ => "SYS"
  | .cls => "CLS"
  | .ret => "RET"
  | .jump _ | .jumpPlus _ => "JP"
  | .call _ => "CALL"
  | .skipIfByte .. | .skipIfSame .. => "SE"
  | .skipUnlessByte .. | .skipUnlessSame .. => "SNE"
  | .addByte .. | .add .. | .addIndex _ => "ADD"
  | .or .. => "OR"
  | .and .. => "AND"
  | .xor .. => "XOR"
  | .sub .. => "SUB"
  | .shiftRight .. => "SHR"
  | .subFrom .. => "SUBN"
  | .shiftLeft .. => "SHL"
  | .random .. => "RND"
  | .draw .. => "DRW"
  | .skipIfKey _ => "SKP"
  | .skipUnlessKey _ => "SKNP"
  | .loadByte .. | .copy .. | .loadIndex _ | .readDelay _ | .awaitKey _ | .setDelay _
  | .setSound _ | .glyph _ | .decimal _ | .store _ | .fill _ => "LD"

/-- The operands of an instruction in the order in which they are written. -/
def operands : Instruction → List Operand
  | .cls | .ret => []
  | .sys a | .jump a | .call a => [.address a]
  | .skipIfByte x b | .skipUnlessByte x b | .loadByte x b | .addByte x b | .random x b =>
    [.register x, .byte b]
  | .skipIfSame x y | .skipUnlessSame x y | .copy x y | .or x y | .and x y | .xor x y | .add x y
  | .sub x y | .subFrom x y => [.register x, .register y]
  | .shiftRight x _ | .shiftLeft x _ | .skipIfKey x | .skipUnlessKey x => [.register x]
  | .loadIndex a => [.index, .address a]
  | .jumpPlus a => [.register 0, .address a]
  | .draw x y n => [.register x, .register y, .count n]
  | .readDelay x => [.register x, .delay]
  | .awaitKey x => [.register x, .key]
  | .setDelay x => [.delay, .register x]
  | .setSound x => [.sound, .register x]
  | .addIndex x => [.index, .register x]
  | .glyph x => [.font, .register x]
  | .decimal x => [.digits, .register x]
  | .store x => [.memory, .register x]
  | .fill x => [.register x, .memory]

end Instruction

namespace Opcode

/-- The report of an opcode under a mnemonic. -/
def report (w : Opcode) (mnemonic : String) (operands : List Operand) : Operation :=
  ⟨Radix.hex 4 w.toNat, mnemonic, operands.map Operand.text, 1, 2⟩

/-- The report of an opcode that has an instruction. -/
def operation? (w : Opcode) : Option Operation :=
  (Instruction.decode? w).map fun i => w.report i.mnemonic i.operands

/-- The report of any opcode: its instruction, or the word itself as data. -/
def describe (w : Opcode) : Operation :=
  w.operation?.getD (w.report "DW" [.word w])

end Opcode

end Hexscope
