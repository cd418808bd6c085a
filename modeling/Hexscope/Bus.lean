import Hexscope.Bus.Device

/-!
# The memory bus

The bus resolves an address to a device and an offset. Ranges may overlap, and the range that was
registered first wins; one device may be mapped several times. Reads and writes are recorded in the
access log when they succeed. `peek`, `load` and `clear` leave no record. `tryRead` and `tryWrite` are accesses
with the bus that they leave; `read` and `write` are the same for those who stop at a refusal.
-/

namespace Hexscope

/-- The direction of an access. -/
inductive Direction where
  | read
  | write
deriving DecidableEq, Repr

/-- The record of one access. -/
structure Access where
  address : Int
  data : Int
  direction : Direction
deriving DecidableEq, Repr

/-- A range of addresses, both ends included, and the number of the device that answers there. -/
structure Bus.Mapping where
  first : Int
  last : Int
  device : Nat
deriving DecidableEq, Repr

/-- Whether an address lies in the range. -/
def Bus.Mapping.holds (m : Bus.Mapping) (a : Int) : Bool := m.first ≤ a && a ≤ m.last

/-- Devices, the ranges they answer at in the order of registration, and the access log. -/
structure Bus where
  devices : Array Device
  mappings : List Bus.Mapping
  log : List Access

namespace Bus

/-- No devices. -/
def empty : Bus := ⟨#[], [], []⟩

instance : Inhabited Bus := ⟨empty⟩

/-- What is offered for registration. -/
inductive Part where
  /-- A new device. -/
  | fresh (device : Device)
  /-- The device with this number, mapped again. Devices are numbered as they are added, and a negative
  number counts from the end. -/
  | again (index : Int)
  /-- Something that is no device. -/
  | foreign
deriving Repr

/-- Why a registration is refused. -/
inductive RegistrationError where
  | noSuchDevice
  | badRange
  | notDevice
  | sizeMismatch (size : Number) (span : Int)
deriving DecidableEq, Repr

/-- The text of a refusal. -/
def RegistrationError.message : RegistrationError → Text
  | .noSuchDevice => "list index out of range"
  | .badRange =>
    "Invalid address range: start_address must be <= end_address and non-negative."
  | .notDevice => "Device must be an instance of a class derived from Device."
  | .sizeMismatch size span =>
    "Registered RAM device size (" ++ size.text ++ " bytes) does not match " ++
      s!"the specified address range size ({span} bytes)."

/-- The kind of a refusal. -/
def RegistrationError.kind : RegistrationError → ErrorKind
  | .noSuchDevice => .index
  | .badRange | .sizeMismatch .. => .value
  | .notDevice => .type

instance : Failure RegistrationError := ⟨RegistrationError.kind, RegistrationError.message⟩

/-- The device with a number. -/
def device (b : Bus) (index : Nat) : Device := b.devices.getD index default

/-- The size of a memory must be the length of its range. -/
def fits (d : Device) (span : Int) : Except RegistrationError Unit :=
  match d with
  | .ram r => if (r.size : Int) = span then .ok () else .error (.sizeMismatch r.givenSize span)
  | .latch _ => .ok ()

/-- The number of a device from zero on. -/
def deviceNumber? (b : Bus) (index : Int) : Except RegistrationError Nat :=
  let k := if index < 0 then index + b.devices.size else index
  if 0 ≤ k ∧ k < b.devices.size then .ok k.toNat else .error .noSuchDevice

/-- A range does not begin below zero, and has an address. -/
def checkRange (first last : Int) : Except RegistrationError Unit :=
  if first < 0 ∨ last < first then .error .badRange else .ok ()

/-- Maps a part at the addresses from `first` to `last`, both included. -/
def register (b : Bus) (first last : Int) : Part → Except RegistrationError Bus
  | .foreign => do
    checkRange first last
    throw .notDevice
  | .fresh d => do
    checkRange first last
    fits d (last - first + 1)
    return { b with
      devices := b.devices.push d
      mappings := b.mappings ++ [⟨first, last, b.devices.size⟩] }
  | .again index => do
    let k ← b.deviceNumber? index
    checkRange first last
    fits (b.device k) (last - first + 1)
    return { b with mappings := b.mappings ++ [⟨first, last, k⟩] }

/-- One more than the highest mapped address. -/
def size (b : Bus) : Int := b.mappings.foldl (fun n m => max n (m.last + 1)) 0

/-- A place in a device. -/
structure Cell where
  device : Nat
  offset : Int
deriving DecidableEq, Repr

/-- The place that an address names: the first registered range that holds it decides. -/
def resolve (b : Bus) (a : Int) : Except Error Cell :=
  match b.mappings.find? (·.holds a) with
  | some m => .ok ⟨m.device, a - m.first⟩
  | none => .error (.unmapped a)

/-- The byte at an address, without a record. -/
def peek (b : Bus) (a : Int) : Except Error UInt8 := do
  let c ← b.resolve a
  (b.device c.device).read c.offset

/-- Adds a record to the log. -/
def record (b : Bus) (x : Access) : Bus := { b with log := b.log ++ [x] }

/-- Replaces a device. -/
def replace (b : Bus) (index : Nat) (d : Device) : Bus :=
  { b with devices := b.devices.setIfInBounds index d }

/-- Reads at an address, or refuses to. The place is found, its device is read, and the access is recorded. -/
def tryRead (b : Bus) (a : Int) : Bus × Except Error UInt8 :=
  match b.resolve a with
  | .error e => (b, .error e)
  | .ok c =>
    match (b.device c.device).read c.offset with
    | .error e => (b, .error e)
    | .ok data => (b.record ⟨a, data.toNat, .read⟩, .ok data)

/-- Writes to the place that an address names, without a record, or refuses to. -/
def tryPoke (b : Bus) (a data : Int) : Bus × Option Error :=
  match b.resolve a with
  | .error e => (b, some e)
  | .ok c => ((b.device c.device).tryWrite c.offset data).map (b.replace c.device) id

/-- Writes at an address, or refuses to. What is written is recorded. -/
def tryWrite (b : Bus) (a data : Int) : Bus × Option Error :=
  match b.tryPoke a data with
  | (b, none) => (b.record ⟨a, data, .write⟩, none)
  | (b, some e) => (b, some e)

/-- The byte at an address, and the bus with the record. -/
def read (b : Bus) (a : Int) : Except Error (UInt8 × Bus) :=
  match b.tryRead a with
  | (b, .ok data) => .ok (data, b)
  | (_, .error e) => .error e

/-- The bus with another byte at an address, without a record. -/
def poke (b : Bus) (a data : Int) : Except Error Bus := unlessRefused (b.tryPoke a data)

/-- The bus with another byte at an address, and the record. -/
def write (b : Bus) (a data : Int) : Except Error Bus := unlessRefused (b.tryWrite a data)

/-- Writes bytes one at a time in increasing order, and stops at the first refusal. What was written
before it stays. -/
def pokeAll (b : Bus) (a : Int) : List UInt8 → Bus × Option Error
  | [] => (b, none)
  | x :: xs =>
    match b.tryPoke a x.toNat with
    | (b, none) => b.pokeAll (a + 1) xs
    | (b, some e) => (b, some e)

/-- Stores a block from an address on. The first and the last address must be mapped. A block whose
ends lie in the same memory is handed to that memory as a whole, any other is written byte by
byte. -/
def load (b : Bus) (a : Int) (data : List UInt8) : Bus × Option Error :=
  if data.isEmpty then (b, none)
  else
    match b.resolve a, b.resolve (a + data.length - 1) with
    | .error e, _ => (b, some e)
    | .ok _, .error e => (b, some e)
    | .ok c, .ok l =>
      match b.device c.device with
      | .ram r =>
        if c.device = l.device then
          match r.load c.offset data with
          | .ok r' => (b.replace c.device (.ram r'), none)
          | .error e => (b, some e)
        else b.pokeAll a data
      | .latch _ => b.pokeAll a data

/-- The log and the bus with an empty one. -/
def drain (b : Bus) : List Access × Bus := (b.log, { b with log := [] })

/-- The bus with an empty log. -/
def dropLog (b : Bus) : Bus := { b with log := [] }

/-- Clears every device and the log. -/
def clear (b : Bus) : Bus := { b with devices := b.devices.map Device.clear, log := [] }

/-- A bus with parts registered in order. -/
def ofParts : List (Int × Int × Part) → Except RegistrationError Bus :=
  List.foldlM (fun b (p : Int × Int × Part) => b.register p.1 p.2.1 p.2.2) empty

/-- The number of bytes of the standard memory. -/
def standardSize : Nat := 4096

/-- One memory of 4096 bytes from address zero on. -/
def standard : Bus := ⟨#[.ram (Ram.zeros standardSize)], [⟨0, 4095, 0⟩], []⟩

/-! ## Refusals -/

theorem replace_device (b : Bus) (k : Nat) : b.replace k (b.device k) = b := by
  have same : b.devices.setIfInBounds k (b.device k) = b.devices := by
    unfold device
    apply Array.ext (by simp)
    intro i _ inside
    rw [Array.getElem_setIfInBounds]
    split
    · rename_i here
      subst here
      exact dif_pos inside
    · rfl
  rw [replace, same]

theorem poke_eq (b : Bus) (a data : Int) : b.poke a data = do
    let c ← b.resolve a
    let d ← (b.device c.device).write c.offset data
    return b.replace c.device d := by
  unfold poke tryPoke
  cases b.resolve a with
  | error e => rfl
  | ok c =>
    dsimp only [bind, Except.bind]
    rw [Device.tryWrite_eq]
    cases (b.device c.device).write c.offset data <;> rfl

/-- A refusal leaves the bus as it is. -/
theorem tryPoke_eq (b : Bus) (a data : Int) : b.tryPoke a data =
    match b.poke a data with
    | .ok b' => (b', none)
    | .error e => (b, some e) := by
  rw [poke_eq, tryPoke]
  cases b.resolve a with
  | error e => rfl
  | ok c =>
    dsimp only [bind, Except.bind]
    rw [Device.tryWrite_eq]
    cases (b.device c.device).write c.offset data with
    | error e => exact congrArg (·, some e) (b.replace_device c.device)
    | ok d => rfl

theorem write_eq (b : Bus) (a data : Int) : b.write a data = do
    return (← b.poke a data).record ⟨a, data, .write⟩ := by
  rw [write, tryWrite, tryPoke_eq]
  cases b.poke a data <;> rfl

theorem tryWrite_eq (b : Bus) (a data : Int) : b.tryWrite a data =
    match b.write a data with
    | .ok b' => (b', none)
    | .error e => (b, some e) := by
  rw [write_eq, tryWrite, tryPoke_eq]
  cases b.poke a data <;> rfl

theorem tryRead_eq (b : Bus) (a : Int) : b.tryRead a =
    match b.peek a with
    | .ok data => (b.record ⟨a, data.toNat, .read⟩, .ok data)
    | .error e => (b, .error e) := by
  unfold tryRead peek
  cases b.resolve a with
  | error e => rfl
  | ok c =>
    dsimp only [bind, Except.bind]
    cases (b.device c.device).read c.offset <;> rfl

theorem read_eq (b : Bus) (a : Int) : b.read a = do
    let data ← b.peek a
    return (data, b.record ⟨a, data.toNat, .read⟩) := by
  rw [read, tryRead_eq]
  cases b.peek a <;> rfl

/-! ## The standard memory -/

theorem fits_zeros (n : Nat) : fits (.ram (Ram.zeros n)) n = .ok () := by
  simp [fits]

/-- The standard bus is the one that results from registering its memory. -/
theorem register_standard :
    empty.register 0 4095 (.fresh (.ram (Ram.zeros standardSize))) = .ok standard := by
  have fit : fits (.ram (Ram.zeros standardSize)) (4095 - 0 + 1) = .ok () :=
    fits_zeros standardSize
  have range : checkRange 0 4095 = .ok () := rfl
  simp only [register, range, fit]
  rfl

end Bus

end Hexscope
