import Hexscope.Proofs.Bus.Clear
import Hexscope.Proofs.Machine.Alike
import Hexscope.Proofs.Machine.Gate
import Hexscope.Proofs.Machine.Range

/-!
# A load forgets what was before

A load clears the memory and sets the processor back, so that nothing of what a machine did before can be
found out afterwards. Over a bus of memories only, `Cpu.Kept` says what no run changes: what a clear makes
of the bus, and the limit for programs.

* `Cpu.kept_law`: it holds along every run;
* `Machine.alike_after_load`: two standard machines that have done anything at all, and no thread of
  which stays at the gate, hold the same memory after a load, and cannot be told apart by whatever is
  done to them from then on.
-/

namespace Hexscope

namespace Cpu

/-- A clear makes of the bus what it makes of `b`, and the limit for programs is a given one. -/
structure Kept (b : Bus) (limit : Number) (c : Cpu) : Prop where
  layout : c.bus.layout = b.layout
  clear : c.bus.clear = b.clear
  romLimit : c.romLimit = limit

variable {b : Bus} {limit : Number} {c d : Cpu} {data : List UInt8}

theorem Ends.romLimit {o : Outcome Fetched} (h : c.Ends d o) : d.romLimit = c.romLimit := by
  cases h <;> rfl

theorem romLimit_blank (c : Cpu) : c.blank.1.romLimit = c.romLimit := by
  unfold blank
  rcases c.bus.clear.load 0 Font.bytes with ⟨bus, _ | e⟩
  · exact (rests_requestTone _ _).romLimit
  · rfl

/-- No run changes what a clear makes of a bus of memories. -/
theorem kept_law (hb : b.Plain) (limit : Number) : Law (Kept b limit) where
  rests h hc := ⟨h.layout.trans hc.layout, h.clear.trans hc.clear, h.romLimit.trans hc.romLimit⟩
  deliver {c} k hc := by
    unfold Cpu.deliver
    split <;> exact ⟨hc.layout, hc.clear, hc.romLimit⟩
  cycle {c} hc := by
    have ends := ends_cycle c
    obtain ⟨layout, clear⟩ := ends.kept hb.kept_clear ⟨hc.layout, hc.clear⟩
    exact ⟨layout, clear, ends.romLimit.trans hc.romLimit⟩
  blank {c} hc := by
    have blank : c.blank.1.bus = (c.bus.clear.load 0 Font.bytes).1 :=
      congrArg Prod.fst (bus_blank c)
    have plain := hb.of_layout ((Bus.layout_clear c.bus).trans hc.layout)
    refine ⟨(layout_blank c).trans hc.layout, ?_, (romLimit_blank c).trans hc.romLimit⟩
    rw [blank, plain.clear_load, Bus.clear_clear, hc.clear]
  load {c} data hc :=
    ⟨(Bus.layout_load c.bus programStart data).trans hc.layout,
      ((hb.of_layout hc.layout).clear_load programStart data).trans hc.clear, hc.romLimit⟩

/-- A program within the limit is accepted, and no other. -/
theorem Kept.toBool_checkSize (h : c.Kept b Rom.standardLimit) (data : List UInt8) :
    (Rom.checkSize c.romLimit data.length none).toBool = decide (data.length ≤ 3584) := by
  rw [h.romLimit, Rom.checkSize, Number.isBelow_whole, Rom.standardLimit]
  by_cases fit : data.length ≤ 3584
  · rw [decide_eq_false (by omega), decide_eq_true fit]
    rfl
  · rw [decide_eq_true (by omega), decide_eq_false fit]
    rfl

theorem Kept.checkSize (h : c.Kept b Rom.standardLimit) (fit : data.length ≤ 3584) :
    Rom.checkSize c.romLimit data.length none = .ok () := by
  have accepted := h.toBool_checkSize data
  rw [decide_eq_true fit] at accepted
  cases checked : Rom.checkSize c.romLimit data.length none with
  | ok u => rfl
  | error e =>
    rw [checked] at accepted
    cases accepted

/-- The standard memory is blanked. -/
theorem Kept.blank (h : c.Kept .standard limit) :
    c.blank.1.bus = Bus.ofCells Bus.fontCells ∧ c.blank.2.2 = none := by
  have blank := bus_blank c
  rw [h.clear, Bus.clear_standard, Bus.load_font] at blank
  exact Prod.mk.inj blank

/-- No reset is refused. -/
theorem Kept.reset (h : c.Kept .standard limit) : c.reset.2.2 = none := by
  have blank := h.blank.2
  unfold Cpu.reset
  generalize c.blank = r at blank
  obtain ⟨d, told, error⟩ := r
  obtain rfl : error = none := blank
  rfl

/-- A program that fits is loaded into the standard memory, and nothing else but the font is in it. -/
theorem Kept.loadProgram (h : c.Kept .standard Rom.standardLimit) (fit : data.length ≤ 3584) :
    (c.loadProgram data).2.2 = none ∧ (c.loadProgram data).1.bus.peek = Bus.image data := by
  have blank := h.blank
  unfold Cpu.loadProgram
  rw [h.checkSize fit]
  generalize c.blank = r at blank
  obtain ⟨d, told, error⟩ := r
  obtain ⟨bus, rfl⟩ : d.bus = Bus.ofCells Bus.fontCells ∧ error = none := blank
  dsimp only
  rw [bus, Bus.load_image fit]
  refine ⟨rfl, ?_⟩
  dsimp only
  rw [bus_notify]
  exact Bus.peek_image fit

/-- Two processors with nobody at the gate differ after a load by nothing, if the keys, the bytes to come
and the policies of the gates are the same. -/
theorem Kept.kin (h : c.Kept b limit) (h' : d.Kept b limit) (down : d.keypad.down = c.keypad.down)
    (random : c.random.SameFuture d.random) (gate : d.gate = c.gate) : c.Kin d :=
  ⟨h'.clear.trans h.clear.symm, gate, h'.romLimit.trans h.romLimit.symm, down, random⟩

end Cpu

namespace Machine

variable {keypad keypad' : Keypad} {speaker speaker' : Option Speaker} {random random' : Random}
  {cpuHz cpuHz' timerHz timerHz' : Frequency} {historyLimit historyLimit' : Nat} {m m' : Machine}
  {data : List UInt8}

/-- Along every run of a standard machine, its memory can be cleared and its gate counts. -/
theorem kept_after
    (assembled : assemble (.assemble .standard keypad speaker random Rom.standardLimit) cpuHz
      timerHz historyLimit = .ok m) (as : List Action) :
    (m.after as).cpu.Kept .standard Rom.standardLimit ∧ (m.after as).Counted := by
  obtain ⟨cpu, threads⟩ := of_assemble assembled
  refine ⟨law_after (Cpu.kept_law Bus.plain_standard _) ?_ as, counted_after ?_ as⟩
  · rw [cpu]
    exact ⟨rfl, rfl, rfl⟩
  · refine ⟨?_, ?_⟩
    · rw [cpu]
      exact Gate.sound_ofPolicy false
    · rw [cpu, stopped, threads]
      rfl

/-- Two standard machines that have done anything, and no thread of which stays at the gate, may still
have the same keys down, the same random bytes to come and the same policy. Then a load of a program that
fits succeeds in both, and leaves the font, the program and zeros in both memories. Put in the same
surroundings, their processors cannot be told apart from the load on. -/
theorem alike_after_load
    (assembled : assemble (.assemble .standard keypad speaker random Rom.standardLimit) cpuHz
      timerHz historyLimit = .ok m)
    (assembled' : assemble (.assemble .standard keypad' speaker' random' Rom.standardLimit) cpuHz'
      timerHz' historyLimit' = .ok m')
    (as as' : List Action) {c c' : Cpu} (hc : c = (m.after as).cpu) (hc' : c' = (m'.after as').cpu)
    (still : ∀ t ∈ (m.after as).threads, t.place ≠ .gate)
    (still' : ∀ t ∈ (m'.after as').threads, t.place ≠ .gate)
    (down : c'.keypad.down = c.keypad.down) (future : c.random.SameFuture c'.random)
    (policy : c'.gate.shouldWait = c.gate.shouldWait) (fit : data.length ≤ 3584) :
    ((c.loadProgram data).2.2 = none ∧ (c.loadProgram data).1.bus.peek = Bus.image data) ∧
    ((c'.loadProgram data).2.2 = none ∧ (c'.loadProgram data).1.bus.peek = Bus.image data) ∧
    ∀ (n : Machine) (bs : List Action),
      Alike ({ n with cpu := c }.after (.load data :: bs))
        ({ n with cpu := c' }.after (.load data :: bs)) := by
  subst hc hc'
  obtain ⟨kept, counted⟩ := kept_after assembled as
  obtain ⟨kept', counted'⟩ := kept_after assembled' as'
  have gate : (m'.after as').cpu.gate = (m.after as).cpu.gate := by
    rw [counted'.gate_eq still', policy, ← counted.gate_eq still]
  have loaded := (kept.kin kept' down future gate).loadProgram (kept.checkSize fit)
  refine ⟨kept.loadProgram fit, kept'.loadProgram fit, fun n bs => ?_⟩
  have first : Alike ({ n with cpu := (m.after as).cpu }.loadProgram data).1
      ({ n with cpu := (m'.after as').cpu }.loadProgram data).1 := by
    have surroundings : Alike { n with cpu := ((m.after as).cpu.loadProgram data).1 }
        { n with cpu := ((m'.after as').cpu.loadProgram data).1 } :=
      (Alike.refl n).setCpu loaded.cpu
    exact surroundings.withCpu ⟨loaded.cpu, loaded.told⟩
  exact first.after bs

/-- A machine that draws, writes to its memory and then returns from nowhere. -/
def faulted : Machine := (default : Machine).after
  [.load [0xD0, 0x05, 0xA3, 0x00, 0xF3, 0x55, 0x00, 0xEE], .tick, .step 4, .move 0, .move 0, .move 0,
    .move 0]

/-- After a load it cannot be told from one that was never used. -/
theorem alike_faulted :
    (faulted.cpu.fault.isSome = true ∧ faulted.cpu.cycles = 3 ∧ faulted.cpu.state.screen ≠ .blank) ∧
    (faulted.cpu.loadProgram [0x60, 0x01]).1.bus.peek = Bus.image [0x60, 0x01] ∧
    Alike ((default : Machine).after [.load [0x60, 0x01], .step 2, .move 0, .move 0])
      ({ (default : Machine) with cpu := faulted.cpu }.after
        [.load [0x60, 0x01], .step 2, .move 0, .move 0]) := by
  have assembled : assemble (.assemble .standard default none default Rom.standardLimit)
      standardCpuHz standardTimerHz Debugger.standardLimit = .ok default := rfl
  have used : (faulted.cpu.fault.isSome = true ∧ faulted.cpu.cycles = 3 ∧
      faulted.cpu.state.screen ≠ .blank) ∧ (∀ t ∈ faulted.threads, t.place ≠ .gate) ∧
      faulted.cpu.keypad.down = (default : Machine).cpu.keypad.down ∧
      faulted.cpu.random = (default : Machine).cpu.random ∧
      faulted.cpu.gate.shouldWait = (default : Machine).cpu.gate.shouldWait := by
    decide +kernel
  obtain ⟨used, still, down, random, policy⟩ := used
  have fit : ([0x60, 0x01] : List UInt8).length ≤ 3584 := by decide
  have loaded := alike_after_load assembled assembled [] _ rfl rfl nofun still down
    (random ▸ Random.SameFuture.refl _) policy fit
  exact ⟨used, loaded.2.1.2, loaded.2.2 default [.step 2, .move 0, .move 0]⟩

end Machine

end Hexscope
