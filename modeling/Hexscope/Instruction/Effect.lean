import Hexscope.Font
import Hexscope.Keypad
import Hexscope.Random
import Hexscope.State

/-!
# Effects of instructions

`Instruction.effect` runs one instruction on a board: the processor state, the bus and the source of
random bytes. The program counter already points behind the instruction. Where an instruction sets
the flag and a result, the flag is written first, and the shifts and differences then read the
registers again; the sum is taken before. An instruction that is refused in the middle keeps what it
did before.
-/

namespace Hexscope

/-- What an instruction works on. -/
structure Board where
  state : State
  bus : Bus
  random : Random

instance : Inhabited Board := ⟨⟨default, default, default⟩⟩

/-- Why an instruction stops short. -/
inductive Trap where
  | stackOverflow
  | stackUnderflow
  | access (error : AccessError)
deriving DecidableEq, Repr

/-- Writes values at consecutive addresses until one is refused. -/
def Bus.writeAll (b : Bus) (a : Int) : List Int → Bus × Option Bus.Error
  | [] => (b, none)
  | d :: ds =>
    match b.write a d with
    | .ok b' => b'.writeAll (a + 1) ds
    | .error e => (b, some e)

namespace Board

/-- The board with another state. -/
def withState (b : Board) (s : State) : Board := { b with state := s }

/-- Draws the rows of a sprite with these numbers. Every row is read, also one that lies below the
bottom. `hit` tells whether a row before met a lit pixel. -/
def drawRows (x y : Nat) (b : Board) (hit : Bool) : List Nat → Board × Except Bus.Error Bool
  | [] => (b, .ok hit)
  | r :: rs =>
    match b.bus.read (b.state.i + r) with
    | .error e => (b, .error e)
    | .ok (sprite, bus) =>
      let (screen, met) := b.state.screen.drawRow x (y + r) sprite
      drawRows x y { b with bus, state := { b.state with screen } } (hit || met) rs

/-- Draws a sprite of `n` rows at the index register. Columns are taken modulo the width and rows
modulo the height, and what lies beyond the edges is dropped. -/
def draw (x y : UInt8) (n : Nat) (b : Board) : Board × Option Trap :=
  match b.drawRows (x.toNat % Screen.width) (y.toNat % Screen.height) false (List.range n) with
  | (b, .ok hit) =>
    (b.withState { b.state.setFlag hit with renderNeeded := true }, none)
  | (b, .error e) => (b, some (.access (.bus e)))

/-- Fills registers in order from consecutive addresses. -/
def fillFrom (a : Int) (b : Board) : List Register → Board × Option Trap
  | [] => (b, none)
  | x :: xs =>
    match b.bus.read a with
    | .error e => (b, some (.access (.bus e)))
    | .ok (d, bus) => fillFrom (a + 1) { b with bus, state := b.state.setV x d } xs

/-- Stores values from the index register on. -/
def storeAll (b : Board) (values : List Int) : Board × Option Trap :=
  let (bus, e) := b.bus.writeAll b.state.i values
  ({ b with bus }, e.map fun e => .access (.bus e))

/-- Leaves a subroutine. -/
def ret (b : Board) : Board × Option Trap :=
  let s := b.state
  if s.sp ≤ 0 then (b, some .stackUnderflow)
  else
    let s := { s with sp := s.sp - 1 }
    match s.slot? s.sp with
    | some k => (b.withState { s with pc := s.stack.getD k 0 }, none)
    | none => (b.withState s, some (.access (.ofSlot .noSlot s.sp)))

/-- Enters a subroutine. -/
def call (target : Nat) (b : Board) : Board × Option Trap :=
  let s := b.state
  if stackDepth ≤ s.sp then (b, some .stackOverflow)
  else
    match s.slot? s.sp with
    | some k =>
      (b.withState { s with stack := s.stack.set k s.pc, sp := s.sp + 1, pc := target }, none)
    | none => (b, some (.access (.ofSlot .noSlotToFill s.sp)))

end Board

/-- The registers from V0 up to and including `x`. -/
def Register.upTo (x : Register) : List Register := (List.finRange 16).filter (· ≤ x)

/-- The decimal digits of a byte: hundreds, tens, ones. -/
def decimalDigits (b : UInt8) : List Int :=
  [(b.toNat / 100 : Nat), (b.toNat / 10 % 10 : Nat), (b.toNat % 10 : Nat)]

/-- Runs an instruction. -/
def Instruction.effect (keys : Keypad) (instruction : Instruction) (b : Board) :
    Board × Option Trap :=
  let s := b.state
  let get := s.v.get
  let done (s : State) : Board × Option Trap := (b.withState s, none)
  match instruction with
  | .sys _ => (b, none)
  | .cls => done { s with screen := .blank, renderNeeded := true }
  | .ret => b.ret
  | .jump a => done { s with pc := a.val }
  | .call a => b.call a
  | .skipIfByte x n => done (s.skipIf (get x = n))
  | .skipUnlessByte x n => done (s.skipIf (get x ≠ n))
  | .skipIfSame x y => done (s.skipIf (get x = get y))
  | .skipUnlessSame x y => done (s.skipIf (get x ≠ get y))
  | .loadByte x n => done (s.setV x n)
  | .addByte x n => done (s.setV x (get x + n))
  | .copy x y => done (s.setV x (get y))
  | .or x y => done (s.setV x (get x ||| get y))
  | .and x y => done (s.setV x (get x &&& get y))
  | .xor x y => done (s.setV x (get x ^^^ get y))
  | .add x y =>
    done ((s.setFlag (255 < Byte.wideSum (get x) (get y))).setV x (get x + get y))
  | .sub x y =>
    let s := s.setFlag (get y < get x)
    done (s.setV x (s.v.get x - s.v.get y))
  | .shiftRight x _ =>
    let s := s.setV State.flag (get x &&& 1)
    done (s.setV x (s.v.get x >>> 1))
  | .subFrom x y =>
    let s := s.setFlag (get x < get y)
    done (s.setV x (s.v.get y - s.v.get x))
  | .shiftLeft x _ =>
    let s := s.setV State.flag (get x >>> 7)
    done (s.setV x (s.v.get x <<< 1))
  | .loadIndex a => done { s with i := a.val }
  | .jumpPlus a => done { s with pc := wrapWord (a.val + (get 0).toNat) }
  | .random x n =>
    let (r, source) := b.random.next
    ({ b with random := source, state := s.setV x (r &&& n) }, none)
  | .draw x y n => b.draw (get x) (get y) n
  | .skipIfKey x => done (s.skipIf (keys.isPressed (get x).toNat))
  | .skipUnlessKey x => done (s.skipIf (!keys.isPressed (get x).toNat))
  | .readDelay x => done (s.setV x (Byte.ofInt s.delay))
  | .awaitKey x => done { s with keyWait := some x }
  | .setDelay x => done { s with delay := (get x).toNat }
  | .setSound x => done { s with sound := (get x).toNat }
  | .addIndex x => done { s with i := wrapWord (s.i + (get x).toNat) }
  | .glyph x => done { s with i := (get x).toNat * Font.glyphSize }
  | .decimal x => b.storeAll (decimalDigits (get x))
  | .store x => b.storeAll (x.upTo.map fun r => ((get r).toNat : Int))
  | .fill x => b.fillFrom s.i x.upTo

/-- Why the instruction of an opcode stops short, seen from outside. -/
inductive Refusal where
  | fault (f : Fault)
  | access (error : AccessError)
deriving DecidableEq, Repr

/-- Runs the instruction of an opcode at an address. -/
def Opcode.effect (w : Opcode) (pc : Int) (keys : Keypad) (b : Board) : Board × Option Refusal :=
  let fault (c : Fault.Cause) : Refusal := .fault ⟨c, pc, w.toNat⟩
  match Instruction.decode? w with
  | none => (b, some (fault .unknownOpcode))
  | some instruction =>
    match instruction.effect keys b with
    | (b, none) => (b, none)
    | (b, some .stackOverflow) => (b, some (fault .stackOverflow))
    | (b, some .stackUnderflow) => (b, some (fault .stackUnderflow))
    | (b, some (.access e)) => (b, some (.access e))

end Hexscope
