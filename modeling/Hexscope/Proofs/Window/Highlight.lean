import Hexscope.Proofs.Machine.Range
import Hexscope.Proofs.Window.Buttons
import Hexscope.Proofs.Window.CodeTable

/-!
# The marked line

Whenever the inspector is refreshed while a program is there, the code table marks one row, the row of the program
counter (`Window.marked_line`). What the row shows is what the memory held when its lines were listed, so it is what
the memory holds now exactly if the two bytes at the counter are still the same. They need not be: a program may
store into its own listed lines, and only a load makes the table forget them (`Window.stored_misleads`).

* `Window.happen`: what happens to a window, with the refreshes of its inspector;
* `Window.listed`: the memory that the present lines were taken from;
* `Window.Viewed.happen`: the lines show that memory, whatever happens.
-/

namespace Hexscope

/-! ## Machines -/

namespace Machine

variable {P : Cpu → Prop} {m : Machine}

theorem law_stop (law : Cpu.Law P) (h : P m.cpu) : P m.stop.cpu := by
  cases clocked : m.clocked with
  | true =>
    obtain ⟨ks, stopped⟩ := stop_eq_after m clocked
    rw [stopped]
    exact law_after law h _
  | false =>
    rw [stop, clocked]
    exact h

/-- A law holds when a program is loaded and runs, and when that fails. -/
theorem law_loadAndRun (law : Cpu.Law P) (h : P m.cpu) (files : FileNode) (path : Text) :
    P (m.loadAndRun files path).1.cpu := by
  have stopped := law_stop law h
  rcases loadAndRun_cases m files path with ⟨e, failed⟩ | ⟨data, ⟨e, failed⟩ | started⟩
  · rw [failed]
    exact stopped
  · rw [failed]
    exact law_act law stopped (.load data)
  · rw [started]
    exact law_act law (law_act law stopped (.load data)) .start

end Machine

namespace CodeTable

/-- Exactly one row has the background of the mark, and it shows a line. -/
def MarksLine (t : CodeTable) (l : ListingLine) : Prop :=
  ∃ k r, t.rows[k]? = some r ∧ r.cells = l.cells ∧ ∀ j, t.IsMarked j ↔ j = k

theorem MarksOnly.exists_line {t : CodeTable} {pc : Int} (marks : t.MarksOnly pc) (shows : t.ShowsLines) :
    ∃ l ∈ t.lines, l.address = pc ∧ t.MarksLine l := by
  obtain ⟨k, marked, only⟩ := marks.one
  obtain ⟨l, line, address⟩ := (marks.isMarked_iff k).mp marked
  have cells : t.rows[k]?.map CodeRow.cells = some l.cells := by
    rw [← List.getElem?_map, shows, List.getElem?_map, line]
    rfl
  obtain ⟨r, row, same⟩ := Option.map_eq_some_iff.mp cells
  exact ⟨l, List.mem_of_getElem? line, address, k, r, row, same, fun j => ⟨only j, fun h => h ▸ marked⟩⟩

end CodeTable

namespace Window

/-- What happens to a window, with the refreshes of its inspector. -/
inductive Happening where
  | act (a : Action)
  /-- The inspector is refreshed. -/
  | inspect
  /-- The machine tells something. -/
  | hear (e : Event)

/-- The window when something has happened. -/
def happen (w : Window) : Happening → Window
  | .act a => w.act a
  | .inspect => w.inspect.1
  | .hear e => w.hear e

/-- The window when several things have happened in order. -/
def during (w : Window) (hs : List Happening) : Window := hs.foldl happen w

/-- Whether a refresh of the inspector lists the memory. -/
def lists (w : Window) : Bool := w.loaded && (w.table.row? w.machine.cpu.state.pc).isNone

/-- The memory that the lines of the table were taken from, when something has happened. The end of a run refreshes the
inspector, too, and the table forgets its lines when a program was loaded. -/
def listed (w : Window) (before : Option Bus) : Happening → Option Bus
  | .inspect | .hear (.finish _) => if w.lists then some w.machine.cpu.bus else before
  | .act (.load files path as) => if w.fails (.load files path as) then before else none
  | .act _ | .hear _ => before

/-- The memory that the lines of the table were taken from, when several things have happened. -/
def lastListed (w : Window) (before : Option Bus) : List Happening → Option Bus
  | [] => before
  | h :: hs => (w.happen h).lastListed (w.listed before h) hs

/-- The machine of a window has the standard memory, and the lines of the table were taken from a memory. -/
structure Viewed (w : Window) (source : Option Bus) : Prop where
  within : w.machine.cpu.Within .standard
  inStep : w.table.InStep Bus.standard.size
  shows : ∀ l ∈ w.table.lines, ∃ b, source = some b ∧ b.layout = Bus.standard.layout ∧ b.Shows l

variable {w : Window} {source : Option Bus}

/-! ## Refreshes -/

theorem machine_inspect (w : Window) : w.inspect.1.machine = w.machine := by
  unfold inspect showCode
  dsimp only
  split
  · split <;> rfl
  · rfl

theorem table_inspect_of_not_loaded (blank : w.loaded = false) : w.inspect.1.table = w.table := by
  unfold inspect
  dsimp only
  rw [blank]
  rfl

theorem inspect_of_update {t : CodeTable} {rows : List Nat} (loaded : w.loaded = true)
    (updated : w.table.update w.machine.cpu.bus w.machine.cpu.state.pc = .ok (t, rows)) :
    w.inspect.1.table = t ∧ w.inspect.2 = none := by
  unfold inspect showCode
  dsimp only
  rw [loaded, updated]
  exact ⟨rfl, rfl⟩

namespace Viewed

/-- Who leaves the table leaves what its lines show. -/
theorem congr {v : Window} (h : w.Viewed source) (within : v.machine.cpu.Within .standard) (table : v.table = w.table) :
    v.Viewed source :=
  ⟨within, table ▸ h.inStep, table ▸ h.shows⟩

/-- A refresh succeeds. It keeps the lines or lists the memory, and marks the row of the counter and no other. -/
theorem inspect_of_loaded (h : w.Viewed source) (loaded : w.loaded = true) :
    w.inspect.2 = none ∧ w.inspect.1.Viewed (w.listed source .inspect) ∧
      (w.machine.cpu.state.pc < Bus.standard.size → w.inspect.1.table.MarksOnly w.machine.cpu.state.pc) := by
  have size : w.machine.cpu.bus.size = Bus.standard.size := Bus.size_of_layout h.within.layout
  have sound := Bus.built_standard.sound.of_layout h.within.layout
  have inStep := h.inStep
  rw [← size] at inStep ⊢
  obtain ⟨t, rows, updated, inStep', marks, kept, listed⟩ :=
    inStep.exists_update sound h.within.isWhole h.within.inRange.pc_nonneg
  obtain ⟨table, succeeds⟩ := inspect_of_update loaded updated
  rw [table]
  refine ⟨succeeds, ⟨?_, table ▸ size ▸ inStep', ?_⟩, marks⟩
  · rw [machine_inspect]
    exact h.within
  · -- The lines stay if one of them is at the counter. Otherwise they are those of the present memory.
    rw [table, Window.listed, lists, loaded, Bool.true_and]
    cases row : w.table.row? w.machine.cpu.state.pc with
    | some k =>
      rw [kept (row ▸ nofun)]
      exact h.shows
    | none => exact fun l hl => ⟨_, rfl, h.within.layout, listed row l hl⟩

theorem inspect (h : w.Viewed source) : w.inspect.1.Viewed (w.listed source .inspect) := by
  cases loaded : w.loaded with
  | true => exact (h.inspect_of_loaded loaded).2.1
  | false =>
    have stays : w.listed source .inspect = source := by
      rw [Window.listed, lists, loaded]
      rfl
    rw [stays]
    exact h.congr ((machine_inspect w).symm ▸ h.within) (table_inspect_of_not_loaded loaded)

/-! ## Histories -/

theorem act (h : w.Viewed source) (a : Action) : (w.act a).Viewed (w.listed source (.act a)) := by
  have law := Cpu.within_law .standard
  cases a with
  | goOn a => exact h.congr (Machine.law_act law h.within a) rfl
  | load files path as =>
    have within := Machine.law_loadAndRun law h.within files path
    rw [Window.act, Window.listed]
    cases run : (w.machine.loadAndRun files path).2 with
    | none =>
      rw [loadRomWhile_of_loaded run, fails_load, run]
      exact ⟨Machine.law_after law within as, .empty _, List.forall_mem_nil _⟩
    | some e =>
      have failed := Option.isSome_iff_exists.mpr ⟨e, run⟩
      obtain ⟨_, _, -, left⟩ := loadRomWhile_of_failed failed
      rw [left, fails_load, failed]
      exact h.congr within rfl
  | toggle as =>
    obtain ⟨a, _, -, toggled⟩ := togglePauseWhile_cases w (·.after as)
    rw [Window.act, toggled]
    exact h.congr (Machine.law_after law (Machine.law_act law h.within a) as) rfl
  | stop => exact h.congr (Machine.law_stop law h.within) rfl

/-- Whatever happens, the lines show the memory that they were taken from. -/
theorem happen (h : w.Viewed source) (a : Happening) : (w.happen a).Viewed (w.listed source a) := by
  cases a with
  | act a => exact h.act a
  | inspect => exact h.inspect
  | hear e =>
    cases e with
    | finish r =>
      have told : ({ w with status := finalStatus w.machine r } : Window).Viewed source := h.congr h.within rfl
      exact told.inspect.congr told.inspect.within rfl
    | notice n => cases n <;> exact h.congr h.within rfl
    | _ => exact h

theorem during (h : w.Viewed source) (hs : List Happening) : (w.during hs).Viewed (w.lastListed source hs) := by
  induction hs generalizing w source with
  | nil => exact h
  | cons a hs ih => exact ih (h.happen a)

end Viewed

theorem lastListed_concat (hs : List Happening) (a : Happening) :
    w.lastListed source (hs ++ [a]) = (w.during hs).listed (w.lastListed source hs) a := by
  induction hs generalizing w source with
  | nil => rfl
  | cons b hs ih => exact ih

/-! ## The window of a configuration -/

variable {fonts : FontShelf} {c : Config}

theorem within_of_build {m : Machine} (built : c.build = .ok m) : m.cpu.Within .standard := by
  obtain ⟨keypad, speaker, random, assembled⟩ := exists_assemble_of_build built
  unfold Machine.assemble at assembled
  split at assembled
  · cases assembled
  · cases assembled
    exact (Cpu.within_law .standard).reset (Cpu.within_assemble .standard keypad speaker random _)

/-- A new window has the standard memory, and no lines. -/
theorem viewed_of_openWindow (opened : Session.openWindow fonts c = .ok w) : w.Viewed none := by
  obtain ⟨m, built, rfl⟩ := exists_of_openWindow opened
  have within : m.cpu.Within .standard := within_of_build built
  exact ⟨within, .empty _, List.forall_mem_nil _⟩

/-- Whenever the inspector is refreshed while a program is there and the counter is in the memory, exactly one row is
marked, and shows a line at the counter. The line shows the memory that the lines were taken from, and so it shows the
present memory exactly if both of its bytes are the same there. -/
theorem marked_line (opened : Session.openWindow fonts c = .ok w) (hs : List Happening)
    (loaded : (w.during hs).loaded = true)
    (below : (w.during hs).machine.cpu.state.pc < (w.during hs).machine.cpu.bus.size) :
    let now := (w.during hs).machine.cpu
    (w.during hs).inspect.2 = none ∧ ∃ l, (w.during hs).inspect.1.table.MarksLine l ∧ l.address = now.state.pc ∧
      ∃ b, w.lastListed none (hs ++ [.inspect]) = some b ∧ b.Shows l ∧
        (now.bus.Shows l ↔ now.bus.peek now.state.pc = b.peek now.state.pc ∧
          now.bus.peek (now.state.pc + 1) = b.peek (now.state.pc + 1)) := by
  intro now
  have viewed := (viewed_of_openWindow opened).during hs
  rw [Bus.size_of_layout viewed.within.layout] at below
  obtain ⟨succeeds, viewed', marks⟩ := viewed.inspect_of_loaded loaded
  obtain ⟨l, line, address, marked⟩ := (marks below).exists_line viewed'.inStep.shows
  obtain ⟨b, source, layout, shows⟩ := viewed'.shows l line
  refine ⟨succeeds, l, marked, address, b, (lastListed_concat hs _).trans source, shows, ?_⟩
  rw [← address]
  exact shows.iff_of_layout (viewed.within.layout.trans layout.symm)

/-- The program jumps to itself, and the inspector is refreshed before a jump. -/
def jumped : List Happening := [.act (.load looping "loop.ch8" []), .inspect, .act (.goOn (.move 0))]

/-- The marked line shows the jump. -/
theorem marked_line_jumped : ∃ l, (standard.during jumped).inspect.1.table.MarksLine l ∧ l.address = 0x200 ∧
    (standard.during jumped).machine.cpu.bus.Shows l := by
  have facts : (standard.during jumped).loaded = true ∧ (standard.during jumped).machine.cpu.state.pc = 0x200 ∧
      (standard.during jumped).machine.cpu.bus.size = 4096 ∧
      (standard.lastListed none (jumped ++ [.inspect])).map (fun b => (b.peek 0x200, b.peek 0x201)) =
        some ((standard.during jumped).machine.cpu.bus.peek 0x200,
          (standard.during jumped).machine.cpu.bus.peek 0x201) := by
    decide +kernel
  obtain ⟨loaded, pc, size, bytes⟩ := facts
  obtain ⟨-, l, marked, address, b, source, -, shows_iff⟩ :=
    marked_line openWindow_standard jumped loaded (by rw [pc, size]; decide)
  rw [source] at bytes
  obtain ⟨first, second⟩ := Prod.mk.inj (Option.some.inj bytes)
  rw [pc] at address shows_iff
  exact ⟨l, marked, address, shows_iff.mpr ⟨first.symm, second.symm⟩⟩

/-- A file with a program that stores a zero into its third instruction. -/
def storing : FileNode :=
  .directory [(FileName.ofString "store.ch8", .file [0xA2, 0x04, 0xF0, 0x55, 0x12, 0x00])]

/-- The inspector is refreshed before the program runs up to its third instruction. -/
def stored : List Happening :=
  [.act (.load storing "store.ch8" []), .inspect, .act (.goOn (.move 0)), .act (.goOn (.move 0))]

/-- The marked row shows the jump that was there, but the memory has zeros. -/
theorem stored_misleads : Session.openWindow default .standard = .ok standard ∧
    (standard.during stored).loaded = true ∧ (standard.during stored).machine.cpu.state.pc = 0x204 ∧
    0x204 < (standard.during stored).machine.cpu.bus.size ∧
    (standard.during stored).inspect.1.table.rows[2]? = some ⟨"0204", "12 00", "JP $200", .marked⟩ ∧
    (standard.during stored).machine.cpu.bus.peek 0x204 = .ok 0 ∧
    (standard.during stored).machine.cpu.bus.peek 0x205 = .ok 0 := by
  refine ⟨openWindow_standard, ?_⟩
  decide +kernel

end Window

end Hexscope
