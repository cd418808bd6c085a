import Hexscope.Cycle

/-!
# A one-byte processor

A small processor over the same instruction cycle, with opcodes of one byte and four instructions.
It has no program end, no screen and no lookahead; its wait ends at once. It shows what the cycle
does when a processor adds as little as possible.
-/

namespace Hexscope

/-- Program counter, stack pointer, bus, cycle count and last fault. `start` is the state after a
reset. -/
structure OneByte where
  pc : Int
  sp : Int
  start : Int × Int
  bus : Bus
  cycles : Nat
  fault : Option Fault

namespace OneByte

/-- The stack pointer of a processor that starts at a given address. -/
def stackTop : Int := 0xF0

/-- The address that the store instruction writes to. -/
def storeAddress : Int := 0x20

/-- A processor that starts at an address, or with both pointers at zero. -/
def assemble (bus : Bus) (start : Option Int) : OneByte :=
  let s := match start with
    | some a => (a, stackTop)
    | none => (0, 0)
  ⟨s.1, s.2, s, bus, 0, none⟩

instance : Inhabited OneByte := ⟨assemble default none⟩

/-- A fetched byte and its address. -/
structure Word where
  pc : Int
  opcode : UInt8
deriving DecidableEq, Repr

/-- Mnemonic, cycles and length of the instructions. -/
def form? (opcode : UInt8) : Option (String × Nat × Nat) :=
  match opcode.toNat with
  | 0 => some ("NOP", 1, 1)
  | 1 => some ("WAIT", 1, 1)
  | 2 => some ("STORE", 1, 1)
  | 3 => some ("LONG", 4, 3)
  | _ => none

/-- The report of an instruction. -/
def decode (w : Word) : Except Fault Operation :=
  match form? w.opcode with
  | some (mnemonic, cycles, length) =>
    .ok ⟨Radix.hex 2 w.opcode.toNat, mnemonic, [], cycles, length⟩
  | none => .error ⟨.unknownOpcode, w.pc, w.opcode.toNat⟩

/-- Executes an instruction; only the store does anything. -/
def execute (w : Word) (m : OneByte) : OneByte × Option Refusal :=
  if w.opcode = 2 then
    match m.bus.write storeAddress 0xFF with
    | .ok bus => ({ m with bus }, none)
    | .error e => (m, some (.access (.bus e)))
  else (m, none)

/-- What this processor supplies to the instruction cycle. -/
def processor : Processor OneByte Word where
  pc m := m.pc
  bus m := m.bus
  setBus bus m := { m with bus := bus }
  fetch pc b :=
    match b.read pc with
    | .ok (opcode, b) => (b, .ok ⟨pc, opcode⟩)
    | .error e => (b, .error e)
  isEnd _ := false
  decode := decode
  advance length m := { m with pc := wrapWord (m.pc + length) }
  execute := execute
  setFault f m := { m with fault := some f }
  addCycles n m := { m with cycles := m.cycles + n }

/-- The record of this moment, with program counter and stack pointer for a state. -/
def snapshot (operation : Option Operation) (m : OneByte) : OneByte × Snapshot (Int × Int) :=
  let (activity, bus) := m.bus.drain
  ({ m with bus := bus }, ⟨(m.pc, m.sp), operation, m.cycles, false, none, activity⟩)

/-- One step, with the snapshot that its listeners get if an instruction was executed. -/
def step (m : OneByte) : OneByte × Outcome Word × Option (Snapshot (Int × Int)) :=
  match processor.cycle m with
  | (m, .done w o) =>
    let (m, moment) := m.snapshot (some o)
    (m, .done w o, some moment)
  | (m, outcome) => (m, outcome, none)

/-- Back to the start; the memory is kept. -/
def reset (m : OneByte) : OneByte × Snapshot (Int × Int) :=
  snapshot none { m with
    pc := m.start.1
    sp := m.start.2
    bus := m.bus.dropLog
    cycles := 0
    fault := none }

end OneByte

end Hexscope
