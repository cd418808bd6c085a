import Hexscope.Proofs.Cpu.Cycle

/-!
# Processors at rest

Between instructions a processor is shown, listened to, paused and timed. `Cpu.core` is what none of
this touches, and `Cpu.Rests` says that only this has happened: the core is the same, and the timers
have at most counted down.

A property of processors that survives rests, keys, resets, loads and cycles is a `Cpu.Law`. It
holds of the processor of a machine as long as the machine is used (`Machine.law_after`).

* `bus_notify`, `moments_notify`: a moment is told as one snapshot, and the access log goes with it;
* `Within`: the bus has the layout of a given one, and the registers are in range over it;
* `within_law`: this is such a law.
-/

namespace Hexscope

/-- The snapshot that a notice tells, if it tells one. -/
def Notice.moment? : Notice → Option (Snapshot Registers)
  | .snapshot moment => some moment
  | .tone _ | .frame _ => none

namespace Cpu

/-- A timer has counted down, or stands. -/
def RunsDown (t t' : Int) : Prop := t' ≤ t ∧ (0 ≤ t → 0 ≤ t')

theorem RunsDown.refl (t : Int) : RunsDown t t := ⟨Int.le_refl t, id⟩

theorem RunsDown.trans {t t' t'' : Int} (h : RunsDown t t') (h' : RunsDown t' t'') :
    RunsDown t t'' :=
  ⟨Int.le_trans h'.1 h.1, fun ht => h'.2 (h.2 ht)⟩

/-- What of a processor only instructions, keys, resets and loads change, if anything does. -/
structure Core where
  state : State
  bus : Bus
  random : Random
  romLimit : Number
  cycles : Nat
  fault : Option Fault

/-- The core of a processor: all but its surroundings, the timers, the access log, and whether the
screen must be shown. -/
def core (c : Cpu) : Core :=
  ⟨{ c.state with delay := 0, sound := 0, renderNeeded := false }, c.bus.dropLog, c.random,
    c.romLimit, c.cycles, c.fault⟩

/-- Nothing was executed or stored between two moments of a processor. -/
structure Rests (c d : Cpu) : Prop where
  core : d.core = c.core
  delay : RunsDown c.state.delay d.state.delay
  sound : RunsDown c.state.sound d.state.sound

variable {c d e : Cpu}

namespace Rests

theorem refl (c : Cpu) : c.Rests c := ⟨rfl, .refl _, .refl _⟩

theorem trans (h : c.Rests d) (h' : d.Rests e) : c.Rests e :=
  ⟨h'.core.trans h.core, h.delay.trans h'.delay, h.sound.trans h'.sound⟩

theorem of_core (h : d.core = c.core) (hd : d.state.delay = c.state.delay)
    (hs : d.state.sound = c.state.sound) : c.Rests d :=
  ⟨h, hd ▸ .refl _, hs ▸ .refl _⟩

theorem registers (h : c.Rests d) : d.state.toRegisters =
    { c.state.toRegisters with delay := d.state.delay, sound := d.state.sound } :=
  congrArg (fun k : Core =>
    { k.state.toRegisters with delay := d.state.delay, sound := d.state.sound }) h.core

theorem pc (h : c.Rests d) : d.state.pc = c.state.pc := congrArg (·.state.pc) h.core

theorem v (h : c.Rests d) : d.state.v = c.state.v := congrArg (·.state.v) h.core

theorem keyWait (h : c.Rests d) : d.state.keyWait = c.state.keyWait :=
  congrArg (·.state.keyWait) h.core

theorem layout (h : c.Rests d) : d.bus.layout = c.bus.layout :=
  congrArg (·.bus.layout) h.core

theorem clear (h : c.Rests d) : d.bus.clear = c.bus.clear := congrArg (·.bus.clear) h.core

theorem romLimit (h : c.Rests d) : d.romLimit = c.romLimit := congrArg (·.romLimit) h.core

theorem inRange {size : Int} (h : c.Rests d) (hc : c.state.InRange size) :
    d.state.InRange size := by
  have delay := h.delay.2 hc.delay_nonneg
  have sound := h.sound.2 hc.sound_nonneg
  rw [h.registers]
  exact (hc.withDelay delay (Int.le_trans h.delay.1 hc.delay_le)).withSound sound
    (Int.le_trans h.sound.1 hc.sound_le)

end Rests

/-! ## What lets a processor rest -/

theorem rests_gate (c : Cpu) (gate : Gate) : c.Rests { c with gate } := .of_core rfl rfl rfl

theorem rests_keypad (c : Cpu) (keypad : Keypad) : c.Rests { c with keypad } :=
  .of_core rfl rfl rfl

theorem rests_requestTone (c : Cpu) (beeping : Bool) : c.Rests (c.requestTone beeping).1 := by
  unfold requestTone
  split
  · exact .refl c
  · exact .of_core rfl rfl rfl

theorem rests_countDown (c : Cpu) : c.Rests c.countDown.1 := by
  refine ⟨rfl, ?_, ?_⟩ <;>
  · simp only [countDown, RunsDown]
    split <;> omega

theorem rests_tick (c : Cpu) : c.Rests c.tick.1 :=
  (rests_countDown c).trans (rests_requestTone _ _)

theorem rests_notify (operation : Option Operation) (next : Option Opcode) (always : Bool)
    (c : Cpu) : c.Rests (c.notify operation next always).1 := by
  unfold notify snapshot takeFrame
  dsimp only
  split <;> exact .of_core rfl rfl rfl

theorem rests_conclude (w : Fetched) (o : Operation) (c : Cpu) : c.Rests (c.conclude w o).1 :=
  rests_notify _ _ _ c

/-! ## What is told -/

/-- The snapshot that reports an executed instruction. -/
def closing (w : Fetched) (o : Operation) (c : Cpu) : Snapshot Registers :=
  (c.snapshot (some o) w.next).2

@[simp] theorem bus_requestTone (c : Cpu) (beeping : Bool) :
    (c.requestTone beeping).1.bus = c.bus := by
  unfold requestTone
  split <;> rfl

@[simp] theorem bus_notify (operation : Option Operation) (next : Option Opcode) (always : Bool)
    (c : Cpu) : (c.notify operation next always).1.bus = c.bus.dropLog := by
  unfold notify snapshot takeFrame
  dsimp only
  split <;> rfl

@[simp] theorem bus_conclude (w : Fetched) (o : Operation) (c : Cpu) :
    (c.conclude w o).1.bus = c.bus.dropLog :=
  bus_notify _ _ _ c

/-- Asking for a tone tells no snapshot. -/
theorem moments_requestTone (c : Cpu) (beeping : Bool) :
    (c.requestTone beeping).2.filterMap Notice.moment? = [] := by
  unfold requestTone
  split
  · rfl
  · dsimp only
    generalize (Speaker.request _ beeping).2 = heard
    cases heard <;> rfl

/-- A moment is told as one snapshot, whether the screen is shown or not. -/
theorem moments_notify (operation : Option Operation) (next : Option Opcode) (always : Bool)
    (c : Cpu) : (c.notify operation next always).2.filterMap Notice.moment? =
      [(c.snapshot operation next).2] := by
  unfold notify takeFrame
  dsimp only
  split <;> rfl

theorem moments_conclude (w : Fetched) (o : Operation) (c : Cpu) :
    (c.conclude w o).2.filterMap Notice.moment? = [c.closing w o] :=
  moments_notify _ _ _ c

/-! ## Resets and loads -/

/-- A reset blanks the processor, and shows it unless blanking was refused. -/
theorem reset_cases (c : Cpu) :
    c.reset.1 = c.blank.1 ∨ c.reset.1 = (c.blank.1.notify none none true).1 := by
  unfold reset
  rcases c.blank with ⟨d, told, _ | error⟩
  · exact .inr rfl
  · exact .inl rfl

/-- A load blanks the processor and stores the program, as far as neither is refused, and then shows
the processor. -/
theorem loadProgram_cases {data : List UInt8}
    (fits : Rom.checkSize c.romLimit data.length none = .ok ()) :
    (c.loadProgram data).1 = c.blank.1 ∨
    ∃ d : Cpu, d = { c.blank.1 with bus := (c.blank.1.bus.load programStart data).1 } ∧
      ((c.loadProgram data).1 = d ∨ (c.loadProgram data).1 = (d.notify none none true).1) := by
  unfold loadProgram
  rw [fits]
  rcases c.blank with ⟨d, told, _ | error⟩
  · dsimp only
    rcases d.bus.load programStart data with ⟨bus, _ | error⟩
    · exact .inr ⟨_, rfl, .inr rfl⟩
    · exact .inr ⟨_, rfl, .inl rfl⟩
  · exact .inl rfl

/-- A program over the limit changes nothing. -/
theorem loadProgram_of_error {data : List UInt8} {e : Rom.Error}
    (h : Rom.checkSize c.romLimit data.length none = .error e) :
    c.loadProgram data = (c, [], some (.rom e)) := by
  rw [loadProgram, h]

/-! ## Laws -/

/-- A property of processors that survives whatever a machine does with its processor. -/
structure Law (P : Cpu → Prop) : Prop where
  rests {c d : Cpu} : c.Rests d → P c → P d
  deliver {c : Cpu} (k : Key) : P c → P (c.deliver k)
  cycle {c : Cpu} : P c → P c.cycle.1
  blank {c : Cpu} : P c → P c.blank.1
  load {c : Cpu} (data : List UInt8) : P c →
    P { c with bus := (c.bus.load programStart data).1 }

namespace Law

variable {P : Cpu → Prop}

theorem reset (law : Law P) (h : P c) : P c.reset.1 := by
  have blank := law.blank h
  rcases reset_cases c with same | shown
  · rw [same]
    exact blank
  · rw [shown]
    exact law.rests (rests_notify _ _ _ _) blank

theorem loadProgram (law : Law P) (h : P c) (data : List UInt8) : P (c.loadProgram data).1 := by
  have blank := law.blank h
  cases fits : Rom.checkSize c.romLimit data.length none with
  | error e =>
    rw [loadProgram_of_error fits]
    exact h
  | ok u =>
    rcases loadProgram_cases fits with same | ⟨d, rfl, same | shown⟩
    · rw [same]
      exact blank
    · rw [same]
      exact law.load data blank
    · rw [shown]
      exact law.rests (rests_notify _ _ _ _) (law.load data blank)

end Law

/-- The bus has the layout of a given one, and the registers are in range over it. -/
structure Within (b : Bus) (c : Cpu) : Prop where
  layout : c.bus.layout = b.layout
  inRange : c.state.InRange b.size

/-- The memory that blanking leaves, and how it ends. -/
theorem bus_blank (c : Cpu) : (c.blank.1.bus, c.blank.2.2) = c.bus.clear.load 0 Font.bytes := by
  unfold blank
  rcases c.bus.clear.load 0 Font.bytes with ⟨bus, _ | e⟩
  · exact congrArg (·, none) (bus_requestTone _ _)
  · rfl

theorem layout_blank (c : Cpu) : c.blank.1.bus.layout = c.bus.layout := by
  rw [show c.blank.1.bus = _ from congrArg Prod.fst (bus_blank c)]
  exact (Bus.layout_load c.bus.clear 0 Font.bytes).trans (Bus.layout_clear c.bus)

theorem inRange_blank {size : Int} (h : 0 ≤ size) (c : Cpu) : c.blank.1.state.InRange size := by
  unfold blank
  rcases c.bus.clear.load 0 Font.bytes with ⟨bus, _ | e⟩
  · exact (rests_requestTone _ _).inRange (.initial h)
  · exact .initial h

/-- Whatever a machine does with its processor, the bus keeps its layout and the registers stay in
range. -/
theorem within_law (b : Bus) : Law (Within b) where
  rests h hc := ⟨h.layout.trans hc.layout, h.inRange hc.inRange⟩
  deliver {c} k hc := by
    unfold Cpu.deliver
    split
    · exact ⟨hc.layout, hc.inRange.withV _⟩
    · exact hc
  cycle {c} hc := by
    have ends := ends_cycle c
    have size : c.bus.size = b.size := Bus.size_of_layout hc.layout
    refine ⟨ends.layout.trans hc.layout, ?_⟩
    rw [← size]
    exact ends.inRange (size ▸ hc.inRange)
  blank {c} hc := ⟨(layout_blank c).trans hc.layout, inRange_blank b.size_nonneg c⟩
  load {c} data hc := ⟨(Bus.layout_load c.bus programStart data).trans hc.layout, hc.inRange⟩

theorem within_assemble (b : Bus) (keypad : Keypad) (speaker : Option Speaker) (random : Random)
    (romLimit : Number) : Within b (assemble b keypad speaker random romLimit) :=
  ⟨rfl, .initial b.size_nonneg⟩

end Cpu

end Hexscope
