import Hexscope.Cpu
import Hexscope.History
import Hexscope.Value

/-!
# The debugger

The debugger sees every snapshot, keeps the last ones, and compares each with its breakpoints in
order. The first breakpoint that matches is remembered as the hit, and the processor is asked to
stop before its next instruction. A snapshot without instruction comes from a reset: it empties the
history and is the base for changes of registers.
-/

namespace Hexscope

/-- What a breakpoint looks at. -/
inductive Trigger where
  /-- The program counter has the value. -/
  | pcMatch
  /-- The address was read. -/
  | memoryRead
  /-- The address was written. -/
  | memoryWrite
  /-- The register has the value. -/
  | registerValue
  /-- The register has another value than in the snapshot before. -/
  | registerChange
deriving DecidableEq, Repr

/-- All triggers. -/
def Trigger.all : List Trigger :=
  [.pcMatch, .memoryRead, .memoryWrite, .registerValue, .registerChange]

/-- The word for a trigger. -/
def Trigger.name : Trigger → String
  | .pcMatch => "PC_MATCH"
  | .memoryRead => "MEMORY_READ"
  | .memoryWrite => "MEMORY_WRITE"
  | .registerValue => "REGISTER_VALUE"
  | .registerChange => "REGISTER_CHANGE"

/-- A condition to stop at. Each trigger uses some of the fields, which are kept as they are given; a field
that is not given is nothing. -/
structure Breakpoint where
  trigger : Trigger
  value : Value
  address : Value
  register : Value
  enabled : Value
deriving Repr

/-- A snapshot of the CHIP-8 registers. -/
abbrev Moment := Snapshot Registers

namespace Breakpoint

/-- Whether two conditions are the same field by field. -/
def isSame (c d : Breakpoint) : Bool :=
  c.trigger = d.trigger && c.value.isSame d.value && c.address.isSame d.address &&
    c.register.isSame d.register && c.enabled.isSame d.enabled

/-- The register that the condition names, if it names one. -/
def registerName? (c : Breakpoint) : Option Text :=
  match c.register with
  | .text name => if name.isEmpty then none else some name
  | _ => none

/-- Whether an access in a direction was at the address of the condition. -/
def accessed (c : Breakpoint) (d : Direction) (now : Moment) : Bool :=
  (now.accessed d).any fun a => c.address.isSame (.int a)

/-- The value of a register, or nothing if there is no register of this name. -/
def valueOf (name : Text) (r : Registers) : Value := (r.named? name).elim .null .int

/-- Whether the condition is met by a snapshot, whatever the trigger, given the registers of the
snapshot before it. -/
def isMet (c : Breakpoint) (before : Option Registers) (now : Moment) : Bool :=
  match c.trigger with
  | .pcMatch => c.value.isSame (.int now.state.pc)
  | .memoryRead => c.accessed .read now
  | .memoryWrite => c.accessed .write now
  | .registerValue =>
    match c.registerName? with
    | some name => c.value.isSame (valueOf name now.state)
    | none => false
  | .registerChange =>
    match c.registerName?, before with
    | some name, some before =>
      let current := now.state.named? name
      current.isSome && current != before.named? name
    | _, _ => false

/-- Whether an enabled condition is met. -/
def fires (c : Breakpoint) (before : Option Registers) (now : Moment) : Bool :=
  c.enabled.isTruthy && c.isMet before now

end Breakpoint

/-- Breakpoints, the last snapshots, the hit, and whether a run on the caller's thread goes on. -/
structure Debugger where
  breakpoints : List Breakpoint
  running : Bool
  before : Option Registers
  last : Option Moment
  hit : Option Breakpoint
  history : History Moment

namespace Debugger

/-- The number of snapshots that are kept unless said otherwise. -/
def standardLimit : Nat := 1000

/-- A debugger that has seen nothing. -/
def fresh (limit : Nat) : Debugger := ⟨[], false, none, none, none, .empty limit⟩

instance : Inhabited Debugger := ⟨fresh standardLimit⟩

/-- Why a history cannot have a limit. -/
inductive LimitError where
  | negative
  /-- The limit has more than 64 bits. -/
  | tooLarge
deriving DecidableEq, Repr

/-- The text of a refusal. -/
def LimitError.message : LimitError → Text
  | .negative => "maxlen must be non-negative"
  | .tooLarge => "history limit too large"

/-- The kind of a refusal. -/
def LimitError.kind : LimitError → ErrorKind
  | .negative => .value
  | .tooLarge => .overflow

instance : Failure LimitError := ⟨LimitError.kind, LimitError.message⟩

/-- A debugger that has seen nothing and keeps a number of snapshots. -/
def ofLimit? (limit : Int) : Except LimitError Debugger :=
  if limit < -0x8000000000000000 ∨ 0x8000000000000000 ≤ limit then .error .tooLarge
  else if limit < 0 then .error .negative
  else .ok (fresh limit.toNat)

/-- Adds a breakpoint unless the same one is there already. -/
def add (d : Debugger) (c : Breakpoint) : Debugger :=
  if d.breakpoints.any c.isSame then d else { d with breakpoints := d.breakpoints ++ [c] }

/-- Puts a breakpoint in the place of the first one that is the same as `old`, if there is one. -/
def replace (d : Debugger) (old new : Breakpoint) : Debugger :=
  { d with breakpoints := d.breakpoints.set (d.breakpoints.findIdx old.isSame) new }

/-- Removes the first breakpoint that is the same as `c`. -/
def remove (d : Debugger) (c : Breakpoint) : Debugger :=
  { d with breakpoints := d.breakpoints.eraseP c.isSame }

/-- The first breakpoint that a snapshot meets. -/
def firstMatch? (d : Debugger) (now : Moment) : Option Breakpoint :=
  d.breakpoints.find? (·.fires d.before now)

/-- Takes note of a snapshot. The answer tells whether the processor must stop. -/
def observe (d : Debugger) (now : Moment) : Debugger × Bool :=
  if now.operation.isNone then
    ({ d with history := d.history.clear, before := some now.state, last := some now }, false)
  else
    let found := d.firstMatch? now
    ({ d with
        history := d.history.push now
        last := some now
        before := some now.state
        hit := found.or d.hit }, found.isSome)

end Debugger

end Hexscope
