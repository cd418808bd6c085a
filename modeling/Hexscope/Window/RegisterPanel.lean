import Hexscope.State

/-!
# The register panel

The panel shows each register of the processor in hexadecimal, in the groups of its layout. The
values are those of the last update; a panel that was just laid out shows zeros.
-/

namespace Hexscope

/-- A register on the panel. -/
structure RegisterField where
  name : String
  /-- The least number of digits. -/
  digits : Nat
  shown : String
deriving DecidableEq, Repr

namespace RegisterField

/-- The field of a register of a width in bits. Four bits make a digit. -/
def ofWidth (name : String) (width : Nat) : RegisterField :=
  let digits := (width + 3) / 4
  ⟨name, digits, "0x" ++ String.ofList (List.replicate digits '0')⟩

/-- The text in front of the value. -/
def label (f : RegisterField) : String := f.name ++ ":"

/-- Shows a value. -/
def set (f : RegisterField) (value : Int) : RegisterField :=
  { f with shown := "0x" ++ Radix.paddedHex f.digits value }

/-- Shows the value that a table of registers has under the field's name. -/
def update (table : List (String × Int)) (f : RegisterField) : RegisterField :=
  (table.lookup f.name).elim f f.set

end RegisterField

/-- The groups of registers, or nothing as long as no processor is shown. -/
structure RegisterPanel where
  groups : Option (List (String × List RegisterField))
deriving DecidableEq, Repr

namespace RegisterPanel

/-- A panel that shows no processor. -/
def empty : RegisterPanel := ⟨none⟩

instance : Inhabited RegisterPanel := ⟨empty⟩

/-- Lays the panel out. -/
def ofLayout (layout : List RegisterGroup) : RegisterPanel :=
  ⟨some (layout.map fun g => (g.title, g.registers.map fun r => .ofWidth r.1 r.2))⟩

/-- The panel of the processor. -/
def standard : RegisterPanel := ofLayout registerGroups

/-- Shows the values of a table of registers. -/
def update (p : RegisterPanel) (table : List (String × Int)) : RegisterPanel :=
  ⟨p.groups.map (·.map fun g => (g.1, g.2.map (.update table)))⟩

/-- All fields, group by group. -/
def fields (p : RegisterPanel) : List RegisterField := (p.groups.getD []).flatMap (·.2)

/-- The text that the panel shows for a register. -/
def shown? (p : RegisterPanel) (name : String) : Option String :=
  (p.fields.find? (·.name = name)).map (·.shown)

end RegisterPanel

end Hexscope
