import Hexscope.Cycle
import Hexscope.Rom
import Hexscope.Speaker

/-!
# The CHIP-8 processor

`Cpu` joins the board with the keypad, the speaker, the gate at which a debugger stops it, the cycle
count and the last fault. A step has three parts, so that a thread may stop between them: passing
the gate, `Cpu.cycle`, which executes the instruction, and `Cpu.conclude`, which reports it. An
instruction that waits for a key leaves `keyWait` set after `cycle`; `deliver` stores the key before
the conclusion. Listeners are told through notices, the frame before the snapshot.
-/

namespace Hexscope

/-- An opcode with its address and the opcode behind it, if that lies in memory. -/
structure Fetched where
  pc : Int
  opcode : Opcode
  next : Option Opcode
deriving DecidableEq, Repr

/-- Looks at the opcode at an address without a record. -/
def Bus.peekOpcode (b : Bus) (a : Int) : Except Bus.Error Opcode := do
  let high ← b.peek a
  let low ← b.peek (a + 1)
  return .ofBytes high low

/-- Reads the opcode at an address, and looks at the one behind it if it lies below the end. -/
def Bus.fetch (pc : Int) (b : Bus) : Bus × Except Bus.Error Fetched :=
  match b.read pc with
  | .error e => (b, .error e)
  | .ok (high, b) =>
    match b.read (pc + 1) with
    | .error e => (b, .error e)
    | .ok (low, b) =>
      let opcode := Opcode.ofBytes high low
      if pc + 3 < b.size then
        (b, (b.peekOpcode (pc + 2)).map fun next => ⟨pc, opcode, some next⟩)
      else (b, .ok ⟨pc, opcode, none⟩)

/-- What listeners are told. -/
inductive Notice where
  /-- The tone starts or ends. -/
  | tone (beeping : Bool)
  /-- The screen is shown. -/
  | frame (screen : Screen)
  /-- An instruction was executed, or the processor was reset. -/
  | snapshot (moment : Snapshot Registers)
deriving Repr

/-- The processor and its surroundings. -/
structure Cpu extends Board where
  keypad : Keypad
  speaker : Option Speaker
  gate : Gate
  romLimit : Number
  cycles : Nat
  fault : Option Fault

namespace Cpu

/-- A processor that was just assembled. Its memory holds no font until it is reset. -/
def assemble (bus : Bus) (keypad : Keypad) (speaker : Option Speaker) (random : Random)
    (romLimit : Number) : Cpu where
  state := .initial
  bus := bus
  random := random
  keypad := keypad
  speaker := speaker
  gate := .ofPolicy false
  romLimit := romLimit
  cycles := 0
  fault := none

instance : Inhabited Cpu := ⟨assemble .standard default none default Rom.standardLimit⟩

/-- The processor with another board. -/
def setBoard (c : Cpu) (b : Board) : Cpu := { c with toBoard := b }

/-- The report of an unknown opcode is a fault. -/
def decode (w : Fetched) : Except Fault Operation :=
  match w.opcode.operation? with
  | some o => .ok o
  | none => .error ⟨.unknownOpcode, w.pc, w.opcode.toNat⟩

/-- Executes an instruction. A refused access becomes a fault, except for data that is no byte. -/
def execute (w : Fetched) (c : Cpu) : Cpu × Option Refusal :=
  let board : Board := { c.toBoard with state := { c.state with renderNeeded := false } }
  let (board, refusal) := w.opcode.effect w.pc c.keypad board
  let refusal := refusal.map fun
    | .access (.bus (.notByte d)) => .access (.bus (.notByte d))
    | .access e => .fault ⟨.access e, w.pc, w.opcode.toNat⟩
    | .fault f => .fault f
  (c.setBoard board, refusal)

/-- What this processor supplies to the instruction cycle. The word zero marks the end of a
program. -/
def processor : Processor Cpu Fetched where
  pc c := c.state.pc
  bus c := c.bus
  setBus bus c := { c with bus := bus }
  fetch := Bus.fetch
  isEnd w := w.opcode = 0
  decode := decode
  advance length c := { c with state := c.state.advance length }
  execute := execute
  setFault f c := { c with fault := some f }
  addCycles n c := { c with cycles := c.cycles + n }

/-- Runs one instruction up to the point where it may have to wait for a key. -/
def cycle (c : Cpu) : Cpu × Outcome Fetched := processor.cycle c

/-- Takes the record of this moment, and with it the access log. -/
def snapshot (operation : Option Operation) (next : Option Opcode) (c : Cpu) :
    Cpu × Snapshot Registers :=
  let (activity, bus) := c.bus.drain
  ({ c with bus := bus },
    ⟨c.state.toRegisters, operation, c.cycles, c.state.renderNeeded, next.map Opcode.describe,
      activity⟩)

/-- The screen, if it must be shown or `always` says so. The screen then counts as shown. -/
def takeFrame (always : Bool) (c : Cpu) : Cpu × Option Screen :=
  if always || c.state.renderNeeded then
    ({ c with state := { c.state with renderNeeded := false } }, some c.state.screen)
  else (c, none)

/-- The notices of a moment: the screen if it is shown, then the snapshot. -/
def notify (operation : Option Operation) (next : Option Opcode) (always : Bool) (c : Cpu) :
    Cpu × List Notice :=
  let (c, moment) := c.snapshot operation next
  let (c, frame) := c.takeFrame always
  (c, (frame.map Notice.frame).toList ++ [.snapshot moment])

/-- Reports an executed instruction. -/
def conclude (w : Fetched) (o : Operation) (c : Cpu) : Cpu × List Notice :=
  c.notify (some o) w.next false

/-- Whether an instruction waits for a key. -/
def isSuspended (c : Cpu) : Bool := c.state.keyWait.isSome

/-- Stores the key for which an instruction waits. After a reset nothing waits any more. -/
def deliver (k : Key) (c : Cpu) : Cpu :=
  match c.state.keyWait with
  | some x =>
    { c with state := { c.state.setV x (UInt8.ofNat k.val) with keyWait := none } }
  | none => c

/-- Asks for a tone or for silence. -/
def requestTone (beeping : Bool) (c : Cpu) : Cpu × List Notice :=
  match c.speaker with
  | none => (c, [])
  | some s =>
    let (s, heard) := s.request beeping
    ({ c with speaker := some s }, (heard.map Notice.tone).toList)

/-- Counts both timers down to zero. The answer tells whether the sound timer still runs. -/
def countDown (c : Cpu) : Cpu × Bool :=
  let s := c.state
  let down (t : Int) : Int := if 0 < t then t - 1 else t
  let s := { s with delay := down s.delay, sound := down s.sound }
  ({ c with state := s }, 0 < s.sound)

/-- One tick of the timers: the count, and the tone that follows from it. -/
def tick (c : Cpu) : Cpu × List Notice :=
  let (c, beeping) := c.countDown
  c.requestTone beeping

/-- Blanks state, memory and log, and places the font. A memory without room for the font stops
this short. -/
def blank (c : Cpu) : Cpu × List Notice × Option Bus.Error :=
  let (bus, error) := c.bus.clear.load 0 Font.bytes
  let c := { c with state := .initial, cycles := 0, fault := none, bus := bus }
  match error with
  | some e => (c, [], some e)
  | none =>
    let (c, notices) := c.requestTone false
    (c, notices, none)

/-- Resets the processor and shows the blank screen. -/
def reset (c : Cpu) : Cpu × List Notice × Option Bus.Error :=
  match c.blank with
  | (c, told, some e) => (c, told, some e)
  | (c, told, none) =>
    let (c, more) := c.notify none none true
    (c, told ++ more, none)

/-- Why a program is not loaded. -/
inductive LoadError where
  | rom (error : Rom.Error)
  /-- The memory has no room for it. -/
  | access (error : Bus.Error)
deriving DecidableEq, Repr

/-- The kind of a refusal. -/
def LoadError.kind : LoadError → ErrorKind
  | .rom e => e.kind
  | .access e => e.kind

/-- The text of a refusal. -/
def LoadError.message : LoadError → Text
  | .rom e => e.message
  | .access e => e.message

instance : Failure LoadError := ⟨LoadError.kind, LoadError.message⟩

/-- Resets the processor and stores a program. A program over the limit changes nothing. -/
def loadProgram (data : List UInt8) (c : Cpu) : Cpu × List Notice × Option LoadError :=
  match Rom.checkSize c.romLimit data.length none with
  | .error e => (c, [], some (.rom e))
  | .ok () =>
    match c.blank with
    | (c, told, some e) => (c, told, some (.access e))
    | (c, told, none) =>
      let (bus, error) := c.bus.load programStart data
      let c := { c with bus := bus }
      match error with
      | some e => (c, told, some (.access e))
      | none =>
        let (c, more) := c.notify none none true
        (c, told ++ more, none)

/-- Loads a program from a file. -/
def loadRom (files : FileNode) (path : Text) (c : Cpu) : Cpu × List Notice × Option LoadError :=
  match Rom.load c.romLimit files path with
  | .error e => (c, [], some (.rom e))
  | .ok data => c.loadProgram data

end Cpu

end Hexscope
