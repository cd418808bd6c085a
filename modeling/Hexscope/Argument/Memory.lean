import Hexscope.Bus
import Hexscope.Argument

/-!
# Arguments for memory

Addresses and data are numbers. A place that does not exist and data that is no byte are refused in the
form in which they were given, and before a number that counts no places is refused for its form.
-/

namespace Hexscope

namespace Ram

/-- The memory of a size, if that is an integer or a truth value. -/
def ofArgument : Value → Except Complaint Ram
  | .bool b => Argument.answer (ofTruth? b)
  | .int n => Argument.answer (ofSize? n)
  | _ => .error (.of BadSize.notPositive)

/-- The number of a cell that a value gives. -/
def cellOf (r : Ram) (v : Value) : Except Complaint Number := do
  let a ← Argument.number v
  if a.isBelow 0 || a.isFrom r.size then throw (.of (Bus.Error.outsideRam a r.givenSize))
  return a

/-- The byte in a cell. -/
def readAt (r : Ram) (address : Value) : Except Complaint UInt8 := do
  let a ← r.cellOf address
  Argument.answer (r.read (← Argument.index a))

/-- Data for a cell, which must be a byte. -/
def dataOf (v : Value) : Except Complaint Number := do
  let data ← Argument.number v
  if data.isBelow 0 || data.isAbove 255 then throw (.of (Bus.Error.notByte data))
  return data

/-- Replaces the byte in a cell. -/
def writeAt (r : Ram) (address data : Value) : Except Complaint Ram := do
  let a ← r.cellOf address
  let data ← dataOf data
  Argument.answer (r.write (← Argument.index a) (← Argument.index data))

/-- Stores a block, all of which must fit. -/
def loadAt (r : Ram) (address : Value) (data : List UInt8) : Except Complaint Ram := do
  let a ← Argument.number address
  let stop := a.plus data.length
  if a.isBelow 0 || stop.isAbove r.size then
    throw (.of (Bus.Error.blockOutsideRam a (stop.plus (-1)) r.givenSize))
  Argument.answer (r.load (← Argument.index a) data)

end Ram

namespace Bus

/-- Whether a number lies in one of the mapped ranges. -/
def isMapped (b : Bus) (x : Number) : Bool := b.mappings.any fun m => x.isWithin m.first m.last

/-- The address that a value gives, from which on a block of a length is accessed. A number that is no
address is refused for want of digits if one of the ends is not mapped, and without a device so is what is
no number. -/
def addressOf (b : Bus) (v : Value) (length : Nat := 1) : Except Complaint Int :=
  match v.number? with
  | none => .error (if b.mappings.isEmpty then Argument.notHexadecimal "x" v else Argument.wrongForm)
  | some x =>
    match x.index? with
    | some a => .ok a
    | none =>
      let last := (x.plus length).plus (-1)
      .error (if b.isMapped x && b.isMapped last then Argument.wrongForm
        else Argument.notHexadecimal "x" v)

/-- The byte at an address, without a record. -/
def peekAt (b : Bus) (address : Value) : Except Complaint UInt8 := do
  Argument.answer (b.peek (← b.addressOf address))

/-- The byte at an address. -/
def readAt (b : Bus) (address : Value) : Except Complaint (UInt8 × Bus) := do
  Argument.answer (b.read (← b.addressOf address))

/-- Writes at an address, which must be mapped before the data is looked at. -/
def writeAt (b : Bus) (address data : Value) : Except Complaint Bus := do
  let a ← b.addressOf address
  let c ← Argument.answer (b.resolve a)
  let x ← match b.device c.device with
    | .ram _ => Ram.dataOf data
    | .latch _ => Argument.number data
  Argument.answer (b.write a (← Argument.index x))

/-- The bytes from an address on, without a record. -/
def peekFrom (b : Bus) (address : Value) (count : Nat) : Except Complaint (List UInt8) := do
  if count = 0 then return []
  let a ← b.addressOf address
  (List.range (min count (b.size.toNat + 1))).mapM fun (k : Nat) => Argument.answer (b.peek (a + k))

/-- Stores a block from an address on. -/
def loadAt (b : Bus) (address : Value) (data : List UInt8) : Bus × Option Complaint :=
  if data.isEmpty then (b, none)
  else
    match b.addressOf address data.length with
    | .error e => (b, some e)
    | .ok a => (b.load a data).map id (·.map .of)

/-- Maps a part at the addresses between two values, both included. -/
def registerAt (b : Bus) (first last : Value) (part : Part) : Except Complaint Bus := do
  let m ← Argument.number first
  if m.isBelow 0 then throw (.of RegistrationError.badRange)
  let l ← Argument.number last
  Argument.answer (b.register (← Argument.index m) (← Argument.index l) part)

end Bus

end Hexscope
