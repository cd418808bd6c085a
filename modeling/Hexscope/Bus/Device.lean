import Hexscope.Byte
import Hexscope.ErrorKind
import Hexscope.Number
import Hexscope.Text.Radix

/-!
# Devices on the bus

A device answers reads and writes at offsets from its first address. A RAM holds one byte at each
offset and refuses offsets outside it and data that is no byte; then it stays as it is. A latch holds one byte for all its
offsets, reads back as that byte plus the offset, keeps the low byte of what is written, and is not
affected by clearing.
-/

namespace Hexscope

namespace Bus

/-- Why an access is refused. The numbers have the forms in which they were given. -/
inductive Error where
  /-- No device answers at the address. -/
  | unmapped (address : Int)
  /-- The offset lies outside the RAM. -/
  | outsideRam (address size : Number)
  /-- The block does not lie inside the RAM. -/
  | blockOutsideRam (first last size : Number)
  /-- The RAM holds bytes only. -/
  | notByte (data : Number)
deriving DecidableEq, Repr

/-- The text of a refusal. -/
def Error.message : Error → Text
  | .unmapped a => "Address " ++ Radix.address a ++ " not mapped to any device."
  | .outsideRam a size =>
    "Address " ++ a.text ++ " out of bounds for RAM of size " ++ size.text ++ "."
  | .blockOutsideRam a b size =>
    "Block " ++ a.text ++ ".." ++ b.text ++ " out of bounds for RAM of size " ++ size.text ++ "."
  | .notByte d => "Data " ++ d.text ++ " is not an 8-bit value."

/-- The kind of a refusal: a wrong place or a wrong value. -/
def Error.kind : Error → ErrorKind
  | .unmapped _ | .outsideRam .. | .blockOutsideRam .. => .index
  | .notByte _ => .value

instance : Failure Error := ⟨Error.kind, Error.message⟩

end Bus

/-- What an operation leaves, unless it was refused. -/
def unlessRefused {α ε : Type} : α × Option ε → Except ε α
  | (a, none) => .ok a
  | (_, some e) => .error e

/-- Memory of a fixed size. -/
structure Ram where
  cells : Array UInt8
  /-- Whether the size was given as a truth value. -/
  sizedByTruth : Bool := false
deriving DecidableEq, Repr

namespace Ram

/-- A memory needs at least one cell, and not more than can be had. -/
inductive BadSize where
  | notPositive
  | exhausting
  /-- The cells cannot even be numbered. -/
  | notAddressable
deriving DecidableEq, Repr

/-- The text of a refusal. -/
def BadSize.message : BadSize → Text
  | .notPositive => "RAM size must be a positive integer."
  | .exhausting => ""
  | .notAddressable => "cannot fit 'int' into an index-sized integer"

/-- The kind of a refusal. -/
def BadSize.kind : BadSize → ErrorKind
  | .notPositive => .value
  | .exhausting => .memory
  | .notAddressable => .overflow

instance : Failure BadSize := ⟨BadSize.kind, BadSize.message⟩

/-- The number of cells. -/
def size (r : Ram) : Nat := r.cells.size

/-- The size as it was given. -/
def givenSize (r : Ram) : Number := if r.sizedByTruth then .truth true else .whole r.size

/-- A memory of zeros. -/
def zeros (size : Nat) : Ram := { cells := Array.replicate size 0 }

@[simp] theorem size_zeros (n : Nat) : (zeros n).size = n := by simp [zeros, size]

/-- The number of cells from which on a memory is not to be had. -/
def exhaustion : Int := 0x10000000000

/-- The number of cells from which on there are no numbers for them. -/
def addressLimit : Int := 0x8000000000000000

/-- A memory of zeros of a given size. -/
def ofSize? (n : Int) : Except BadSize Ram :=
  if n ≤ 0 then .error .notPositive
  else if addressLimit ≤ n then .error .notAddressable
  else if exhaustion ≤ n then .error .exhausting
  else .ok (zeros n.toNat)

/-- A memory of zeros whose size is given as a truth value. -/
def ofTruth? (b : Bool) : Except BadSize Ram :=
  if b then .ok { zeros 1 with sizedByTruth := true } else .error .notPositive

/-- The cell that an address names, if the memory has it. -/
def cell? (r : Ram) (a : Int) : Except Bus.Error Nat :=
  if a < 0 ∨ r.size ≤ a then .error (.outsideRam a r.givenSize) else .ok a.toNat

/-- The byte in a cell. -/
def read (r : Ram) (a : Int) : Except Bus.Error UInt8 := do
  return r.cells.getD (← r.cell? a) 0

/-- Replaces the byte in a cell, or refuses to. -/
def tryWrite (r : Ram) (a data : Int) : Ram × Option Bus.Error :=
  match r.cell? a with
  | .error e => (r, some e)
  | .ok k =>
    if data < 0 ∨ 255 < data then (r, some (.notByte data))
    else ({ r with cells := r.cells.setIfInBounds k (Byte.ofInt data) }, none)

/-- The memory with another byte in a cell. -/
def write (r : Ram) (a data : Int) : Except Bus.Error Ram := unlessRefused (r.tryWrite a data)

theorem write_eq (r : Ram) (a data : Int) : r.write a data = do
    let k ← r.cell? a
    if data < 0 ∨ 255 < data then throw (.notByte data)
    return { r with cells := r.cells.setIfInBounds k (Byte.ofInt data) } := by
  unfold write tryWrite
  cases r.cell? a with
  | error e => rfl
  | ok k =>
    dsimp only [bind, Except.bind]
    split <;> rfl

/-- A refusal leaves the memory as it is. -/
theorem tryWrite_eq (r : Ram) (a data : Int) : r.tryWrite a data =
    match r.write a data with
    | .ok r' => (r', none)
    | .error e => (r, some e) := by
  unfold write tryWrite
  cases r.cell? a with
  | error e => rfl
  | ok k =>
    dsimp only
    split <;> rfl

/-- Stores bytes from a cell on. Bytes beyond the end are dropped. -/
def store (cells : Array UInt8) (k : Nat) : List UInt8 → Array UInt8
  | [] => cells
  | b :: bs => store (cells.setIfInBounds k b) (k + 1) bs

@[simp] theorem size_store (cells : Array UInt8) (k : Nat) (bs : List UInt8) :
    (store cells k bs).size = cells.size := by
  induction bs generalizing cells k with
  | nil => rfl
  | cons b bs ih => simp [store, ih]

/-- Stores a block, all of which must fit. -/
def load (r : Ram) (a : Int) (data : List UInt8) : Except Bus.Error Ram :=
  let stop := a + data.length
  if a < 0 ∨ r.size < stop then .error (.blockOutsideRam a (.whole (stop - 1)) r.givenSize)
  else .ok { r with cells := store r.cells a.toNat data }

/-- The memory as it is when switched on. -/
def clear (r : Ram) : Ram := { r with cells := (zeros r.size).cells }

@[simp] theorem size_clear (r : Ram) : r.clear.size = r.size := by
  simp [clear, zeros, size]

end Ram

/-- What can be mapped into the address space. -/
inductive Device where
  | ram (memory : Ram)
  | latch (byte : UInt8)
deriving DecidableEq, Repr

instance : Inhabited Device := ⟨.latch 0⟩

namespace Device

/-- The byte at an offset. -/
def read : Device → Int → Except Bus.Error UInt8
  | .ram r, a => r.read a
  | .latch b, a => .ok (Byte.ofInt (b.toNat + a))

/-- Writes at an offset, or refuses to. -/
def tryWrite : Device → Int → Int → Device × Option Bus.Error
  | .ram r, a, data => (r.tryWrite a data).map .ram id
  | .latch _, _, data => (.latch (Byte.ofInt data), none)

/-- The device with another byte at an offset. -/
def write (d : Device) (a data : Int) : Except Bus.Error Device := unlessRefused (d.tryWrite a data)

theorem write_ram (r : Ram) (a data : Int) : (Device.ram r).write a data = (r.write a data).map .ram := by
  rw [write, tryWrite, Ram.tryWrite_eq]
  cases r.write a data <;> rfl

/-- A refusal leaves the device as it is. -/
theorem tryWrite_eq (d : Device) (a data : Int) : d.tryWrite a data =
    match d.write a data with
    | .ok d' => (d', none)
    | .error e => (d, some e) := by
  cases d with
  | latch byte => rfl
  | ram r =>
    rw [write_ram, tryWrite, Ram.tryWrite_eq]
    cases r.write a data <;> rfl

/-- Sets a memory back to zeros. -/
def clear : Device → Device
  | .ram r => .ram r.clear
  | .latch b => .latch b

end Device

end Hexscope
