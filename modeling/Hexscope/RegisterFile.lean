import Hexscope.Byte
import Hexscope.ErrorKind
import Hexscope.Text.Radix

/-!
# The register file

Sixteen byte registers V0 … VF. Instructions name a register by a nibble, so `get` and `set` take a
`Fin 16` and cannot miss. A register that is named by an arbitrary integer is looked up by `get?`
and `set?`, which refuse every other number.
-/

namespace Hexscope

/-- The number of a register, one nibble. -/
abbrev Register := Fin 16

/-- The sixteen registers. -/
structure RegisterFile where
  values : Vector UInt8 16
deriving DecidableEq, Repr

namespace RegisterFile

/-- A register number outside the file. -/
structure NoSuchRegister where
  index : Int
deriving DecidableEq, Repr

/-- The text of a refusal. -/
def NoSuchRegister.message (e : NoSuchRegister) : Text :=
  "Register V" ++ Radix.paddedHex 0 e.index ++ " does not exist."

/-- The kind of a refusal. -/
def NoSuchRegister.kind (_ : NoSuchRegister) : ErrorKind := .index

instance : Failure NoSuchRegister := ⟨NoSuchRegister.kind, NoSuchRegister.message⟩

/-- All registers hold zero. -/
def zero : RegisterFile := ⟨Vector.replicate 16 0⟩

instance : Inhabited RegisterFile := ⟨zero⟩

/-- The content of a register. -/
def get (f : RegisterFile) (x : Register) : UInt8 := f.values[x]

/-- The file with a register replaced. -/
def set (f : RegisterFile) (x : Register) (b : UInt8) : RegisterFile := ⟨f.values.set x b⟩

@[simp] theorem get_set_self (f : RegisterFile) (x : Register) (b : UInt8) :
    (f.set x b).get x = b := by simp [get, set]

theorem get_set (f : RegisterFile) (x y : Register) (b : UInt8) :
    (f.set x b).get y = if x = y then b else f.get y := by
  simp [get, set, Vector.getElem_set, Fin.ext_iff]

@[simp] theorem get_zero (x : Register) : zero.get x = 0 := by simp [get, zero]

/-- Two files that agree on every register are equal. -/
@[ext] theorem ext {f g : RegisterFile} (h : ∀ x, f.get x = g.get x) : f = g := by
  obtain ⟨v⟩ := f
  obtain ⟨w⟩ := g
  congr 1
  apply Vector.ext
  intro i hi
  exact h ⟨i, hi⟩

/-- The registers in order. -/
def toList (f : RegisterFile) : List UInt8 := f.values.toList

/-- The register with a number, if there is one. -/
def register? (index : Int) : Except NoSuchRegister Register :=
  if h : 0 ≤ index ∧ index < 16 then .ok ⟨index.toNat, toNat_lt_sixteen h⟩ else .error ⟨index⟩

/-- The content of the register with a number. -/
def get? (f : RegisterFile) (index : Int) : Except NoSuchRegister UInt8 := do
  return f.get (← register? index)

/-- The file with the register of a number replaced by the low byte of a value. -/
def set? (f : RegisterFile) (index value : Int) : Except NoSuchRegister RegisterFile := do
  return f.set (← register? index) (Byte.ofInt value)

/-- Stores values from a register on. -/
def setFrom (f : RegisterFile) (index : Int) : List Int → Except NoSuchRegister RegisterFile
  | [] => .ok f
  | v :: vs => do (← f.set? index v).setFrom (index + 1) vs

/-- A file with the given values in its first registers and zero in the others. -/
def ofValues (vs : List Int) : Except NoSuchRegister RegisterFile := zero.setFrom 0 vs

/-- The file as a list of hexadecimal bytes. -/
def text (f : RegisterFile) : String :=
  "RegisterFile([" ++
    String.intercalate ", " (f.toList.map fun b => "0x" ++ Radix.hex 2 b.toNat) ++ "])"

end RegisterFile

end Hexscope
