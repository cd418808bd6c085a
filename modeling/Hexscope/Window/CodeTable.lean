import Hexscope.Listing

/-!
# The code table

The table shows a listing and marks the line of the program counter. As long as the counter points
to a line that is listed, the listing is kept and only the mark moves; otherwise the memory is
listed anew from the counter on. So the table does not follow changes of listed memory until it is
emptied. The table scrolls to the marked row and then to the rows behind it.
-/

namespace Hexscope

/-- The background of a row. -/
inductive Shade where
  /-- Nothing was set since the row was filled. -/
  | unset
  | normal
  | marked
deriving DecidableEq, Repr

/-- The colour of a background, if one is set. -/
def Shade.colour? : Shade → Option String
  | .unset => none
  | .normal => some "#101010"
  | .marked => some "#404000"

/-- A row of the table. -/
structure CodeRow where
  address : String
  bytes : String
  text : String
  shade : Shade
deriving DecidableEq, Repr

/-- The row of a line of a listing. -/
def CodeRow.ofLine (l : ListingLine) : CodeRow :=
  ⟨Radix.paddedHex 4 l.address, l.bytes, l.text, .unset⟩

/-- The lines that are listed, the rows that are shown, and the number of the marked row. -/
structure CodeTable where
  lines : List ListingLine
  rows : List CodeRow
  marked : Option Nat
deriving DecidableEq, Repr

namespace CodeTable

/-- A table without rows. -/
def empty : CodeTable := ⟨[], [], none⟩

instance : Inhabited CodeTable := ⟨empty⟩

/-- The number of addresses that are listed at once. -/
def span : Nat := 512

/-- The number of rows behind the marked one that are kept in sight. -/
def margin : Nat := 5

/-- The titles of the columns. -/
def titles : List String := ["Address", "Bytes", "Mnemonic"]

/-- The number of the line at an address. -/
def row? (t : CodeTable) (pc : Int) : Option Nat := t.lines.findIdx? (·.address = pc)

/-- A table that shows a listing, with no mark. -/
def ofLines (lines : List ListingLine) : CodeTable := ⟨lines, lines.map CodeRow.ofLine, none⟩

/-- Changes the shade of a row, if there is one. -/
def paint (t : CodeTable) (row : Option Nat) (s : Shade) : CodeTable :=
  match row with
  | some k => { t with rows := t.rows.modify k fun r => { r with shade := s } }
  | none => t

/-- Moves the mark to a row, or takes it away. -/
def moveMark (t : CodeTable) (row : Option Nat) : CodeTable :=
  { (t.paint t.marked .normal).paint row .marked with marked := row }

/-- The rows that the table scrolls to, one after the other, to show a row. -/
def scrolls (t : CodeTable) : Option Nat → List Nat
  | none => []
  | some k =>
    let ahead := min (k + margin) (t.rows.length - 1)
    k :: if k < ahead then [ahead] else []

/-- The table that lists an address: the same one if it does so already. -/
def covering (t : CodeTable) (b : Bus) (pc : Int) : Except Bus.Error CodeTable :=
  if (t.row? pc).isSome then .ok t else (b.listing pc span).map ofLines

/-- Shows the program counter. The answer has the rows that the table scrolls to. -/
def update (t : CodeTable) (b : Bus) (pc : Int) : Except Bus.Error (CodeTable × List Nat) := do
  let t ← t.covering b pc
  let row := t.row? pc
  return (t.moveMark row, t.scrolls row)

end CodeTable

end Hexscope
