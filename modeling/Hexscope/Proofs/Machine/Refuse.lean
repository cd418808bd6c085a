import Hexscope.Proofs.Bus.Room
import Hexscope.Proofs.Machine.Frame

/-!
# Loads that are refused

A program is refused by the loader, which knows its file and a limit for its size, or by the memory, which
may have no room for it or for the font. The loader comes first, and what it refuses changes nothing. The
memory is asked when it has been cleared already, so what it refuses has forgotten the program before.

* `Cpu.loadProgram_of_accepted`: what becomes of a program that the loader lets through;
* `Machine.refused_of_loader`: what the loader refuses leaves the machine as it is;
* `Machine.forgets_of_noRoom`: what the memory refuses;
* `Machine.load_atomic`: no refused load shows anything, and it changes nothing exactly if the memory has
  room for what the loader lets through.
-/

namespace Hexscope

/-! ## The processor -/

namespace Cpu

variable {c : Cpu} {data : List UInt8}

/-- The memory has room for the font and for a program of a size. -/
def HasRoom (c : Cpu) (size : Nat) : Prop :=
  c.bus.HasRoom 0 Font.bytes.length ∧ c.bus.HasRoom programStart size

/-- Blanking is refused exactly if there is no room for the font. -/
theorem blank_error_iff (sound : c.bus.Sound) :
    c.blank.2.2 = none ↔ c.bus.HasRoom 0 Font.bytes.length := by
  have keep := Bus.layout_clear c.bus
  have error : c.blank.2.2 = (c.bus.clear.load 0 Font.bytes).2 := congrArg Prod.snd (bus_blank c)
  rw [error, Bus.load_error_iff (sound.of_layout keep)]
  exact ⟨.of_layout keep.symm, .of_layout keep⟩

/-- Of a processor that was blanked, nothing is left that it had done. -/
theorem forgotten_blank (c : Cpu) :
    c.blank.1.state = .initial ∧ c.blank.1.cycles = 0 ∧ c.blank.1.fault = none := by
  refine ⟨state_blank c, ?_⟩
  unfold blank
  rcases c.bus.clear.load 0 Font.bytes with ⟨bus, _ | e⟩
  · unfold requestTone
    dsimp only
    split <;> exact ⟨rfl, rfl⟩
  · exact ⟨rfl, rfl⟩

/-- What becomes of a program that the loader lets through. Without room the processor has forgotten what
it did, and tells nothing but tones. -/
theorem loadProgram_of_accepted (sound : c.bus.Sound)
    (accepted : Rom.checkSize c.romLimit data.length none = .ok ()) :
    ((c.loadProgram data).2.2 = none ↔ c.HasRoom data.length) ∧
      ((c.loadProgram data).2.2 ≠ none →
        (c.loadProgram data).2.1.filter (!·.isTone) = [] ∧
        (c.loadProgram data).1.state = .initial ∧ (c.loadProgram data).1.cycles = 0 ∧
        (c.loadProgram data).1.fault = none) := by
  have font := blank_error_iff sound
  have silent := silent_blank c
  have forgotten := forgotten_blank c
  have keep := layout_blank c
  unfold loadProgram HasRoom
  rw [accepted, ← font]
  generalize c.blank = r at font silent forgotten keep ⊢
  obtain ⟨d, told, _ | e⟩ := r
  · dsimp only at silent forgotten keep ⊢
    have room := Bus.load_error_iff (a := programStart) (sound.of_layout keep) data
    generalize d.bus.load programStart data = loaded at room ⊢
    obtain ⟨bus, _ | e⟩ := loaded
    · refine ⟨iff_of_true rfl ⟨rfl, ?_⟩, fun refused => absurd rfl refused⟩
      exact .of_layout keep.symm (room.mp rfl)
    · refine ⟨iff_of_false nofun fun fits => ?_, fun _ => ⟨silent, forgotten⟩⟩
      cases room.mpr (.of_layout keep fits.2)
  · exact ⟨iff_of_false nofun fun fits => Option.some_ne_none e fits.1, fun _ => ⟨silent, forgotten⟩⟩

end Cpu

/-! ## The machine -/

/-- What is loaded: a program that is at hand, or one from a file. -/
inductive Load where
  | program (data : List UInt8)
  | file (files : FileNode) (path : Text)

/-- The program that the loader lets through. -/
def Load.accepted (limit : Number) : Load → Except Rom.Error (List UInt8)
  | .program data => do
    Rom.checkSize limit data.length none
    return data
  | .file files path => Rom.load limit files path

namespace Machine

/-- Loads a program. -/
def load (m : Machine) : Load → Machine × Option Cpu.LoadError
  | .program data => m.loadProgram data
  | .file files path => m.loadRom files path

/-- The registers, the screen, the count of cycles, the fault and the devices are the same. -/
structure Unchanged (m n : Machine) : Prop where
  state : n.cpu.state = m.cpu.state
  cycles : n.cpu.cycles = m.cpu.cycles
  fault : n.cpu.fault = m.cpu.fault
  devices : n.cpu.bus.devices = m.cpu.bus.devices

/-- A load that is refused changes nothing, and no snapshot or frame is told. -/
def Atomic (m : Machine) (l : Load) : Prop :=
  (m.load l).2 ≠ none → m.Unchanged (m.load l).1 ∧ (m.load l).1.shown = m.shown

/-- The processor has been used since it was blanked. -/
def Used (m : Machine) : Prop :=
  m.cpu.state ≠ .initial ∨ m.cpu.cycles ≠ 0 ∨ m.cpu.fault ≠ none

variable {m : Machine} {l : Load} {data : List UInt8} {bus : Bus}

/-- A program from a file is checked once more, and passes again. -/
theorem checkSize_of_accepted {limit : Number} (h : l.accepted limit = .ok data) :
    Rom.checkSize limit data.length none = .ok () := by
  have other {size : Nat} {path : Option Text} (h : Rom.checkSize limit size path = .ok ()) :
      Rom.checkSize limit size none = .ok () := by
    unfold Rom.checkSize at h ⊢
    split at h
    · cases h
    · rename_i fits
      rw [if_neg fits]
  cases l with
  | program program =>
    obtain ⟨u, checked, h⟩ := exists_of_bind_eq_ok h
    cases h
    exact checked
  | file files path =>
    obtain ⟨name, -, h⟩ := exists_of_bind_eq_ok h
    obtain ⟨read, -, h⟩ := exists_of_bind_eq_ok h
    obtain ⟨u, checked, h⟩ := exists_of_bind_eq_ok h
    cases h
    exact other checked

/-- What the loader refuses leaves the machine as it is. -/
theorem refused_of_loader {e : Rom.Error} (h : l.accepted m.cpu.romLimit = .error e) :
    m.load l = (m, some (.rom e)) := by
  cases l with
  | program data =>
    cases checked : Rom.checkSize m.cpu.romLimit data.length none with
    | error e' =>
      simp only [Load.accepted, checked] at h
      cases h
      simp only [load, loadProgram, Cpu.loadProgram_of_error checked]
      rfl
    | ok u =>
      simp only [Load.accepted, checked] at h
      cases h
  | file files path =>
    have h : Rom.load m.cpu.romLimit files path = .error e := h
    simp only [load, loadRom, Cpu.loadRom, h]
    rfl

/-- What the loader lets through is handed to the processor. -/
theorem load_of_accepted (h : l.accepted m.cpu.romLimit = .ok data) :
    m.load l = m.loadProgram data := by
  cases l with
  | program program =>
    obtain ⟨u, -, h⟩ := exists_of_bind_eq_ok h
    cases h
    rfl
  | file files path =>
    have h : Rom.load m.cpu.romLimit files path = .ok data := h
    simp only [load, loadRom, Cpu.loadRom, h]
    rfl

/-- What the loader lets through is refused exactly if the memory has no room. Then nothing is shown, and the
processor has forgotten what it did. -/
theorem forgets_of_noRoom (sound : m.cpu.bus.Sound) (h : l.accepted m.cpu.romLimit = .ok data) :
    ((m.load l).2 = none ↔ m.cpu.HasRoom data.length) ∧
      ((m.load l).2 ≠ none → (m.load l).1.shown = m.shown ∧ ¬ (m.load l).1.Used) := by
  obtain ⟨room, refused⟩ := Cpu.loadProgram_of_accepted sound (checkSize_of_accepted h)
  rw [load_of_accepted h]
  refine ⟨room, fun stopped => ?_⟩
  obtain ⟨silent, state, cycles, fault⟩ := refused stopped
  have told : (m.cpu.loadProgram data).2.1.filterMap Notice.moment? = [] := by
    refine List.filterMap_eq_nil_iff.mpr fun n hn => ?_
    have tone := List.filter_eq_nil_iff.mp silent n hn
    cases n with
    | tone _ | frame _ => rfl
    | snapshot _ => exact absurd rfl tone
  have none : ∀ moment ∈ (m.cpu.loadProgram data).2.1.filterMap Notice.moment?,
      moment.operation = none := by
    rw [told]
    exact nofun
  have cpu : (m.loadProgram data).1.cpu = (m.cpu.loadProgram data).1 :=
    cpu_tellAll_of_blank { m with cpu := (m.cpu.loadProgram data).1 } none
  refine ⟨shown_withCpu_of_silent (m := m) silent, ?_⟩
  rw [Used, cpu, state, cycles, fault]
  simp

/-- A load of any machine, with a program at hand or from a file. What the loader refuses leaves the whole
machine as it is, and whoever refuses the load, no snapshot and no frame is told. If the memory has room for the
font and for what the loader lets through, then a load that is refused has changed nothing. And of a processor
that has been used, a load without room makes a blank one. -/
theorem load_atomic (built : bus.Built) (layout : m.cpu.bus.layout = bus.layout) (l : Load) :
    (∀ e, l.accepted m.cpu.romLimit = .error e → m.load l = (m, some (.rom e))) ∧
    ((m.load l).2 ≠ none → (m.load l).1.shown = m.shown) ∧
    ((∀ data, l.accepted m.cpu.romLimit = .ok data → m.cpu.HasRoom data.length) → m.Atomic l) ∧
    (m.Used → m.Atomic l →
      ∀ data, l.accepted m.cpu.romLimit = .ok data → m.cpu.HasRoom data.length) := by
  have sound := built.sound.of_layout layout
  cases h : l.accepted m.cpu.romLimit with
  | error e =>
    have same := refused_of_loader h
    refine ⟨fun e' h' => ?_, fun _ => by rw [same], fun _ _ => ?_, fun _ _ _ => nofun⟩
    · cases h'
      exact same
    · rw [same]
      exact ⟨⟨rfl, rfl, rfl, rfl⟩, rfl⟩
  | ok data =>
    obtain ⟨room, refused⟩ := forgets_of_noRoom sound h
    refine ⟨fun _ => nofun, fun stopped => (refused stopped).1, fun fits stopped => ?_,
      fun used atomic data' h' => ?_⟩
    · exact absurd (room.mpr (fits data rfl)) stopped
    · cases h'
      by_contra noRoom
      have stopped : (m.load l).2 ≠ none := fun accepted => noRoom (room.mp accepted)
      obtain ⟨unchanged, -⟩ := atomic stopped
      refine (refused stopped).2 ?_
      rw [Used, unchanged.state, unchanged.cycles, unchanged.fault]
      exact used

/-- A memory of 768 cells. It has room for programs of 256 bytes, and the loader lets through larger ones. -/
def cramped : Bus := ⟨#[.ram (Ram.zeros 768)], [⟨0, 767, 0⟩], []⟩

/-- A machine with that memory that has executed an instruction. -/
def crampedMachine : Machine :=
  { (default : Machine) with cpu := .assemble cramped default none default Rom.standardLimit }.after
    [.load [0x60, 0x05], .step 1, .move 0]

/-- What the loader refuses leaves that machine as it is. What only the memory refuses does not. -/
theorem load_atomic_cramped :
    crampedMachine.load (.program (List.replicate 3585 0)) =
      (crampedMachine, some (.rom (.tooLarge none 3585 Rom.standardLimit))) ∧
    ¬ crampedMachine.Atomic (.program (List.replicate 257 0)) := by
  have built : cramped.Built := .register .empty (Bus.register_zeros _ (by decide) (by decide) rfl)
  have facts : crampedMachine.cpu.bus.mappings = cramped.mappings ∧
      crampedMachine.cpu.bus.devices.map Device.cells? = cramped.devices.map Device.cells? ∧
      crampedMachine.cpu.cycles = 1 ∧ crampedMachine.cpu.romLimit = Rom.standardLimit ∧
      (crampedMachine.cpu.bus.load programStart (List.replicate 257 0)).2.isSome = true := by
    decide +kernel
  obtain ⟨mappings, cells, cycles, limit, noRoom⟩ := facts
  have layout : crampedMachine.cpu.bus.layout = cramped.layout :=
    congrArg₂ Bus.Layout.mk mappings cells
  constructor
  · obtain ⟨same, -⟩ := load_atomic built layout (.program (List.replicate 3585 0))
    refine same _ ?_
    rw [Load.accepted, List.length_replicate, limit]
    rfl
  · intro atomic
    obtain ⟨-, -, -, room⟩ := load_atomic built layout (.program (List.replicate 257 0))
    have accepted : (Load.program (List.replicate 257 0)).accepted crampedMachine.cpu.romLimit =
        .ok (List.replicate 257 0) := by
      rw [Load.accepted, List.length_replicate, limit]
      rfl
    have used : crampedMachine.Used := .inr (.inl (by rw [cycles]; decide))
    obtain ⟨-, fits⟩ := room used atomic _ accepted
    rw [(Bus.load_error_iff (built.sound.of_layout layout) _).mpr fits] at noRoom
    cases noRoom

/-- A program that the loader lets through and for which the memory has no room is refused, and the machine has
been reset. -/
theorem refused_resets :
    let loaded := crampedMachine.load (.program ([0x60, 0x05] ++ List.replicate 298 0))
    loaded.2 = some (.access (.unmapped 0x32B)) ∧
    crampedMachine.cpu.cycles = 1 ∧ loaded.1.cpu.cycles = 0 ∧
    crampedMachine.cpu.state.pc = 0x202 ∧ loaded.1.cpu.state.pc = 0x200 ∧
    crampedMachine.cpu.state.v.get 0 = 5 ∧ loaded.1.cpu.state.v.get 0 = 0 ∧
    crampedMachine.cpu.bus.peek 0x200 = .ok 0x60 ∧ loaded.1.cpu.bus.peek 0x200 = .ok 0 := by
  decide +kernel

end Machine

end Hexscope
