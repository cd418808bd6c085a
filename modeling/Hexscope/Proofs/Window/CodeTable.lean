import Mathlib.Data.List.Nodup
import Mathlib.Data.List.Range
import Hexscope.Window.CodeTable
import Hexscope.Proofs.Bus.Listing

/-!
# The rows of the code table

The table keeps the lines of a listing, the rows that show them, and the number of the marked row. These three stay
in step (`CodeTable.InStep`), whatever the memory holds whenever the table is updated.

* `CodeTable.isMarked_moveMark`: the background of the mark goes where the mark goes;
* `CodeTable.row?_eq_some_iff`: a row is found by the address of its line;
* `CodeTable.InStep.exists_covering`: the table keeps its lines, or lists the memory anew;
* `CodeTable.InStep.exists_update`: an update marks the row of its address and no other;
* `CodeTable.rows_after`: so it is after all calls, and no row is left from the end of the memory on.
-/

namespace Hexscope

/-- What stands in the cells of a row. -/
def CodeRow.cells (r : CodeRow) : List String := [r.address, r.bytes, r.text]

/-- What stands in the cells of the row of a line. -/
def ListingLine.cells (l : ListingLine) : List String := [Radix.paddedHex 4 l.address, l.bytes, l.text]

namespace CodeTable

/-- The background of a row. -/
def shade? (t : CodeTable) (k : Nat) : Option Shade := t.rows[k]?.map (·.shade)

/-- Whether a row has the background of the mark. -/
def IsMarked (t : CodeTable) (k : Nat) : Prop := t.shade? k = some .marked

/-- Each line has one row, which shows it. -/
def ShowsLines (t : CodeTable) : Prop := t.rows.map CodeRow.cells = t.lines.map ListingLine.cells

/-- Exactly one row has the background of the mark, the row of the line at an address. -/
structure MarksOnly (t : CodeTable) (pc : Int) : Prop where
  one : ∃! k, t.IsMarked k
  isMarked_iff : ∀ k, t.IsMarked k ↔ ∃ l, t.lines[k]? = some l ∧ l.address = pc

/-- The lines, the rows and the mark of a table over a memory of a size tell the same. -/
structure InStep (size : Int) (t : CodeTable) : Prop where
  shows : t.ShowsLines
  isMarked_iff : ∀ k, t.IsMarked k ↔ t.marked = some k
  nodup : (t.lines.map (·.address)).Nodup
  range : ∀ l ∈ t.lines, 0 ≤ l.address ∧ l.address < size

variable {t : CodeTable} {b b₀ : Bus} {pc size : Int} {row : Option Nat} {s : Shade} {k : Nat}

/-! ## Backgrounds -/

theorem shade?_paint : (t.paint row s).shade? k = if row = some k then (t.shade? k).map fun _ => s else t.shade? k := by
  cases row with
  | none => rfl
  | some j =>
    simp only [shade?, paint, List.getElem?_modify, Option.some.injEq]
    cases t.rows[k]? with
    | none => split <;> rfl
    | some r => by_cases here : j = k <;> simp [here]

theorem lines_paint (t : CodeTable) (row : Option Nat) (s : Shade) : (t.paint row s).lines = t.lines := by
  cases row <;> rfl

theorem showsLines_paint : (t.paint row s).ShowsLines ↔ t.ShowsLines := by
  have cells : (t.paint row s).rows.map CodeRow.cells = t.rows.map CodeRow.cells := by
    cases row with
    | none => rfl
    | some j =>
      apply List.ext_getElem?
      intro k
      simp only [paint, List.getElem?_map, List.getElem?_modify]
      cases t.rows[k]? with
      | none => rfl
      | some r => by_cases here : j = k <;> simp [here, CodeRow.cells]
  rw [ShowsLines, ShowsLines, cells, lines_paint]

theorem ShowsLines.length_eq (h : t.ShowsLines) : t.rows.length = t.lines.length := by
  have := congrArg List.length h
  simpa only [List.length_map] using this

theorem lines_moveMark (t : CodeTable) (row : Option Nat) : (t.moveMark row).lines = t.lines := by
  show ((t.paint t.marked .normal).paint row .marked).lines = t.lines
  rw [lines_paint, lines_paint]

/-- The background of the mark goes where the mark goes, and leaves the row where the mark was. -/
theorem isMarked_moveMark (follows : ∀ k, t.IsMarked k ↔ t.marked = some k)
    (inside : ∀ k, row = some k → k < t.rows.length) : (t.moveMark row).IsMarked k ↔ row = some k := by
  have shade : (t.moveMark row).shade? k = ((t.paint t.marked .normal).paint row .marked).shade? k := rfl
  rw [IsMarked, shade, shade?_paint, shade?_paint]
  by_cases here : row = some k
  · have row : k < t.rows.length := inside k here
    have shade : t.shade? k = some t.rows[k].shade := by
      rw [shade?, List.getElem?_eq_getElem row]
      rfl
    rw [if_pos here, shade]
    refine iff_of_true ?_ here
    split <;> rfl
  · -- Of the other rows only the one that the mark leaves had its background, and it gets the normal one.
    rw [if_neg here]
    refine iff_of_false (fun marked => ?_) here
    split at marked
    · obtain ⟨_, -, normal⟩ := Option.map_eq_some_iff.mp marked
      cases normal
    · exact absurd ((follows k).mp marked) ‹_›

/-- No background of a fresh listing is set. -/
theorem not_isMarked_ofLines (lines : List ListingLine) : ¬ (ofLines lines).IsMarked k := by
  intro marked
  obtain ⟨r, here, shade⟩ := Option.map_eq_some_iff.mp marked
  obtain ⟨l, -, rfl⟩ := List.mem_map.mp (List.mem_of_getElem? here)
  cases shade

/-! ## Rows and lines -/

/-- A row is found by the address of its line. -/
theorem row?_eq_some_iff (nodup : (t.lines.map (·.address)).Nodup) :
    t.row? pc = some k ↔ ∃ l, t.lines[k]? = some l ∧ l.address = pc := by
  simp only [row?, List.findIdx?_eq_some_iff_getElem, decide_eq_true_eq]
  constructor
  · rintro ⟨inside, address, -⟩
    exact ⟨_, List.getElem?_eq_getElem inside, address⟩
  · rintro ⟨l, found, address⟩
    obtain ⟨inside, rfl⟩ := List.getElem?_eq_some_iff.mp found
    refine ⟨inside, address, fun j before same => ?_⟩
    have inside : k < (t.lines.map (·.address)).length := by rwa [List.length_map]
    have inside' : j < (t.lines.map (·.address)).length := by omega
    have equal : (t.lines.map (·.address))[j] = (t.lines.map (·.address))[k] := by
      rw [List.getElem_map, List.getElem_map, same, address]
    exact Nat.ne_of_lt before ((List.Nodup.getElem_inj_iff nodup).mp equal)

/-- An address that no line has is not found. -/
theorem row?_eq_none_iff : t.row? pc = none ↔ ∀ l ∈ t.lines, l.address ≠ pc := by
  simp only [row?, List.findIdx?_eq_none_iff, decide_eq_false_iff_not, ne_eq]

theorem isSome_row?_iff : (t.row? pc).isSome = true ↔ ∃ l ∈ t.lines, l.address = pc := by
  rw [Option.isSome_iff_ne_none, Ne, row?_eq_none_iff]
  simp only [ne_eq, not_forall, not_not, exists_prop]

namespace InStep

theorem empty (size : Int) : InStep size .empty where
  shows := rfl
  isMarked_iff _ := iff_of_false (not_isMarked_ofLines []) nofun
  nodup := List.nodup_nil
  range := List.forall_mem_nil _

/-- A fresh listing of addresses below the end of a memory. -/
theorem ofLines {start stop : Int} {lines : List ListingLine} (tiles : b.Tiles start stop lines) (low : 0 ≤ start)
    (shows : ∀ l ∈ lines, b.Shows l) : InStep b.size (.ofLines lines) where
  shows := List.map_map
  isMarked_iff _ := iff_of_false (not_isMarked_ofLines lines) nofun
  nodup := by
    show (lines.map (·.address)).Nodup
    rw [tiles.addresses]
    refine List.nodup_range.map fun i j (same : start + 2 * (i : Int) = start + 2 * (j : Int)) => ?_
    omega
  range l hl := ⟨Int.le_trans low (tiles.le_address hl), (shows l hl).lt_size⟩

theorem lt_length_of_row? (h : t.InStep size) (pc : Int) : ∀ k, t.row? pc = some k → k < t.rows.length := by
  intro k found
  obtain ⟨l, here, -⟩ := (row?_eq_some_iff h.nodup).mp found
  rw [h.shows.length_eq]
  exact (List.getElem?_eq_some_iff.mp here).1

theorem row?_eq_none (h : t.InStep size) (outside : pc < 0 ∨ size ≤ pc) : t.row? pc = none := by
  rw [row?_eq_none_iff]
  intro l hl
  have := h.range l hl
  omega

/-- The mark goes to the row of an address, if there is one. -/
theorem moveMark (h : t.InStep size) (pc : Int) : (t.moveMark (t.row? pc)).InStep size where
  shows := showsLines_paint.mpr (showsLines_paint.mpr h.shows)
  isMarked_iff _ := isMarked_moveMark h.isMarked_iff (h.lt_length_of_row? pc)
  nodup := (lines_moveMark t _).symm ▸ h.nodup
  range := (lines_moveMark t _).symm ▸ h.range

theorem marksOnly_moveMark (h : t.InStep size) (found : (t.row? pc).isSome = true) :
    (t.moveMark (t.row? pc)).MarksOnly pc := by
  obtain ⟨k, row⟩ := Option.isSome_iff_exists.mp found
  have marked (j : Nat) := isMarked_moveMark (k := j) h.isMarked_iff (h.lt_length_of_row? pc)
  constructor
  · refine ⟨k, (marked k).mpr row, fun j here => ?_⟩
    exact Option.some.inj (((marked j).mp here).symm.trans row)
  · intro j
    rw [marked, row?_eq_some_iff h.nodup, lines_moveMark]

section

variable (h : t.InStep b.size)
include h

/-- A table keeps its lines if one of them is at an address of the memory. Otherwise it lists the memory anew, and
then one of them is. -/
theorem exists_covering (sound : b.Sound) (whole : b.IsWhole) (low : 0 ≤ pc) :
    ∃ u, t.covering b pc = .ok u ∧ u.InStep b.size ∧ (pc < b.size → (u.row? pc).isSome = true) ∧
      (t.row? pc ≠ none → u = t) ∧ (t.row? pc = none → ∀ l ∈ u.lines, b.Shows l) := by
  cases row : t.row? pc with
  | some k =>
    refine ⟨t, ?_, h, fun _ => ?_, fun _ => rfl, nofun⟩
    · rw [covering, row]
      rfl
    · rw [row]
      rfl
  | none =>
    obtain ⟨lines, listed, tiles, shows⟩ := Bus.exists_listing sound whole low span
    refine ⟨.ofLines lines, ?_, ofLines tiles low shows, fun below => ?_, (absurd rfl ·), fun _ => shows⟩
    · rw [covering, row, listed]
      rfl
    · have more : pc < min (pc + (span : Int)) b.size := by
        show pc < min (pc + 512) b.size
        omega
      exact isSome_row?_iff.mpr (tiles.exists_address_eq more)

/-- An update at an address of the memory succeeds, and marks the row of that address and no other. -/
theorem exists_update (sound : b.Sound) (whole : b.IsWhole) (low : 0 ≤ pc) :
    ∃ u scrolls, t.update b pc = .ok (u, scrolls) ∧ u.InStep b.size ∧ (pc < b.size → u.MarksOnly pc) ∧
      (t.row? pc ≠ none → u.lines = t.lines) ∧ (t.row? pc = none → ∀ l ∈ u.lines, b.Shows l) := by
  obtain ⟨u, covers, inStep, found, kept, listed⟩ := h.exists_covering sound whole low
  refine ⟨u.moveMark (u.row? pc), u.scrolls (u.row? pc), ?_, inStep.moveMark pc,
    fun below => inStep.marksOnly_moveMark (found below), fun row => ?_, ?_⟩
  · rw [update, covers]
    rfl
  · rw [lines_moveMark, kept row]
  · rw [lines_moveMark]
    exact listed

/-- From the end of the memory on nothing is listed. -/
theorem update_of_size_le (beyond : b.size ≤ pc) : t.update b pc = .ok (.empty, []) := by
  rw [update, covering, h.row?_eq_none (.inr beyond), Bus.listing_of_size_le beyond]
  rfl

/-- An update below zero fails. -/
theorem update_of_neg (built : b₀.Built) (same : b.layout = b₀.layout) (below : pc < 0) :
    t.update b pc = .error (.unmapped pc) := by
  have unmapped : ¬ b.IsMapped pc := fun mapped => absurd (built.nonneg_of_isMapped same mapped) (by omega)
  have asked : (0 : Int) < span := by decide
  have inside : pc < b.size := below.trans_le b.size_nonneg
  rw [update, covering, h.row?_eq_none (.inl below), Bus.listing_of_not_isMapped unmapped asked inside]
  rfl

end

end InStep

/-! ## Calls -/

/-- What a table is asked for. -/
inductive Call where
  /-- To show the program counter, with the memory as it is then. -/
  | update (b : Bus) (pc : Int)
  /-- To forget its lines. -/
  | reset

/-- The table after a call. An update that fails leaves it as it is. -/
def call (t : CodeTable) : Call → CodeTable
  | .update b pc => ((t.update b pc).toOption.map Prod.fst).getD t
  | .reset => .empty

/-- The table after several calls in order. -/
def after (t : CodeTable) (cs : List Call) : CodeTable := cs.foldl call t

/-- Whether a call meets a memory with the layout of a given one, whatever it holds. -/
def Call.Over (b₀ : Bus) : Call → Prop
  | .update b _ => b.layout = b₀.layout
  | .reset => True

/-- A call leaves the rows, the lines and the mark in step. -/
theorem InStep.call {c : Call} (h : t.InStep b₀.size) (built : b₀.Built) (whole : b₀.IsWhole) (fixed : c.Over b₀) :
    (t.call c).InStep b₀.size := by
  cases c with
  | reset => exact .empty _
  | update b pc =>
    have size : b.size = b₀.size := Bus.size_of_layout fixed
    rw [← size] at h ⊢
    rcases Int.lt_or_le pc 0 with below | low
    · rw [CodeTable.call, h.update_of_neg built fixed below]
      exact h
    · obtain ⟨u, _, updated, inStep, -⟩ := h.exists_update (built.sound.of_layout fixed) (whole.of_layout fixed) low
      rw [CodeTable.call, updated]
      exact inStep

theorem InStep.after {cs : List Call} (h : t.InStep b₀.size) (built : b₀.Built) (whole : b₀.IsWhole)
    (fixed : ∀ c ∈ cs, c.Over b₀) : (t.after cs).InStep b₀.size := by
  induction cs generalizing t with
  | nil => exact h
  | cons c cs ih =>
    obtain ⟨first, rest⟩ := List.forall_mem_cons.mp fixed
    exact ih (h.call built whole first) rest

/-- After all calls each line has one row, which shows it. A further update marks the row of its address and no other, if
the address is in the memory. From the end of the memory on it leaves no rows, and below zero it fails. -/
theorem rows_after (built : b₀.Built) (whole : b₀.IsWhole) (cs : List Call) (fixed : ∀ c ∈ cs, c.Over b₀) :
    (empty.after cs).ShowsLines ∧ ∀ b pc, b.layout = b₀.layout →
      (0 ≤ pc → pc < b.size → ∃ t scrolls, (empty.after cs).update b pc = .ok (t, scrolls) ∧
        t.ShowsLines ∧ t.MarksOnly pc) ∧
      (b.size ≤ pc → (empty.after cs).update b pc = .ok (empty, [])) ∧
      (pc < 0 → (empty.after cs).update b pc = .error (.unmapped pc)) := by
  have inStep := (InStep.empty b₀.size).after built whole fixed
  refine ⟨inStep.shows, fun b pc same => ?_⟩
  rw [← Bus.size_of_layout same] at inStep
  refine ⟨fun low below => ?_, inStep.update_of_size_le, inStep.update_of_neg built same⟩
  obtain ⟨t, scrolls, updated, shown, marks, -⟩ :=
    inStep.exists_update (built.sound.of_layout same) (whole.of_layout same) low
  exact ⟨t, scrolls, updated, shown.shows, marks below⟩

/-- The memory changes and the counter moves on in what is listed. Then the lines are forgotten, and listed anew from
an odd address. -/
def moves : List Call :=
  [.update .standard 0x200, .update (Bus.standard.load 0x200 [0x12, 0x00]).1 0x204, .reset, .update .standard 0x301]

/-- The last byte of the memory is marked, and behind it the table has no rows. -/
theorem rows_after_moves : (∀ c ∈ moves, c.Over .standard) ∧
    (∃ t scrolls, (empty.after moves).update .standard 0xFFF = .ok (t, scrolls) ∧ t.ShowsLines ∧ t.MarksOnly 0xFFF) ∧
    (empty.after moves).update .standard 0x1000 = .ok (empty, []) := by
  have fixed : ∀ c ∈ moves, c.Over .standard := by
    simp only [moves, List.forall_mem_cons]
    exact ⟨rfl, Bus.layout_load _ _ _, trivial, rfl, List.forall_mem_nil _⟩
  have rows := (rows_after Bus.built_standard Bus.whole_standard moves fixed).2 .standard
  exact ⟨fixed, (rows 0xFFF rfl).1 (by decide) (by decide), (rows 0x1000 rfl).2.1 (by decide)⟩

end CodeTable

end Hexscope
