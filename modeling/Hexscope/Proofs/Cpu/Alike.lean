import Hexscope.Proofs.Cpu.Rest

/-!
# Processors that cannot be told apart

Two processors are `Cpu.Alike` if they agree on all that their instructions read: the state, the memory
with the access log, the gate, the keys that are down, the bytes that the random source will yield, the
cycles and the fault. They may differ in the speaker, in the names of the keys, and in how the random
source comes to its bytes. What one of them does, the other does too, up to the tones that are asked of
the speakers.

* `Cpu.Alike.cycle`, `Cpu.Alike.conclude`, `Cpu.Alike.deliver`, `Cpu.Alike.tick`: executing and timing
  keeps processors alike;
* `Cpu.Kin.reset`, `Cpu.Kin.loadProgram`: a reset makes processors alike that agree on much less.
-/

namespace Hexscope

/-! ## Random bytes -/

namespace Random

/-- The byte that a source yields after `n` others. -/
def byte (r : Random) : Nat → UInt8
  | 0 => r.next.1
  | n + 1 => r.next.2.byte n

/-- Two sources yield the same bytes from now on. -/
def SameFuture (r s : Random) : Prop := ∀ n, s.byte n = r.byte n

variable {r s : Random}

theorem SameFuture.refl (r : Random) : r.SameFuture r := fun _ => rfl

theorem SameFuture.symm (h : r.SameFuture s) : s.SameFuture r := fun n => (h n).symm

theorem SameFuture.trans {q : Random} (h : r.SameFuture s) (h' : s.SameFuture q) : r.SameFuture q :=
  fun n => (h' n).trans (h n)

theorem SameFuture.first (h : r.SameFuture s) : s.next.1 = r.next.1 := h 0

theorem SameFuture.next (h : r.SameFuture s) : r.next.2.SameFuture s.next.2 := fun n => h (n + 1)

end Random

/-! ## Instructions -/

/-- Two boards agree on the state and the bus, and their sources on the bytes to come. -/
structure Board.Alike (b d : Board) : Prop where
  state : d.state = b.state
  bus : d.bus = b.bus
  random : b.random.SameFuture d.random

/-- Which keys are pressed depends only on those that are down. -/
theorem Keypad.isPressed_of_down {p q : Keypad} (h : q.down = p.down) (k : Int) :
    q.isPressed k = p.isPressed k := by
  unfold isPressed isDown
  rw [h]

theorem effect_of_down {keys keys' : Keypad} (h : keys'.down = keys.down) (i : Instruction)
    (b : Board) : i.effect keys' b = i.effect keys b := by
  cases i with
  | skipIfKey x | skipUnlessKey x =>
    simp only [Instruction.effect, Keypad.isPressed_of_down h]
  | _ => rfl

namespace Board

/-- The board with another source of random bytes. -/
def withRandom (b : Board) (r : Random) : Board := { b with random := r }

theorem fillFrom_withRandom (b : Board) (r : Random) (a : Int) (xs : List Register) :
    (b.withRandom r).fillFrom a xs = ((b.fillFrom a xs).1.withRandom r, (b.fillFrom a xs).2) := by
  induction xs generalizing b a with
  | nil => rfl
  | cons x xs ih =>
    simp only [fillFrom, show (b.withRandom r).bus = b.bus from rfl]
    rcases b.bus.read a with e | ⟨d, bus⟩
    · rfl
    · exact ih { b with bus, state := b.state.setV x d } (a + 1)

theorem drawRows_withRandom (b : Board) (r : Random) (x y : Nat) (hit : Bool) (rs : List Nat) :
    (b.withRandom r).drawRows x y hit rs =
      ((b.drawRows x y hit rs).1.withRandom r, (b.drawRows x y hit rs).2) := by
  induction rs generalizing b hit with
  | nil => rfl
  | cons n rs ih =>
    simp only [drawRows, show (b.withRandom r).bus = b.bus from rfl,
      show (b.withRandom r).state = b.state from rfl]
    rcases b.bus.read (b.state.i + n) with e | ⟨d, bus⟩
    · rfl
    · exact ih { b with bus, state := { b.state with
        screen := (b.state.screen.drawRow x (y + n) d).1 } } _

theorem draw_withRandom (b : Board) (r : Random) (x y : UInt8) (n : Nat) :
    (b.withRandom r).draw x y n = ((b.draw x y n).1.withRandom r, (b.draw x y n).2) := by
  simp only [draw, drawRows_withRandom]
  rcases b.drawRows (x.toNat % Screen.width) (y.toNat % Screen.height) false (List.range n)
    with ⟨d, e | hit⟩ <;> rfl

end Board

/-- Only one instruction draws from the source of random bytes. -/
theorem effect_withRandom {i : Instruction} (h : ∀ x n, i ≠ .random x n) (keys : Keypad) (b : Board)
    (r : Random) :
    i.effect keys (b.withRandom r) = ((i.effect keys b).1.withRandom r, (i.effect keys b).2) := by
  cases i with
  | random x n => exact absurd rfl (h x n)
  | draw x y n => exact Board.draw_withRandom b r _ _ _
  | fill x => exact Board.fillFrom_withRandom b r b.state.i x.upTo
  | ret =>
    simp only [Instruction.effect, Board.ret, show (b.withRandom r).state = b.state from rfl]
    split
    · rfl
    · split <;> rfl
  | call a =>
    simp only [Instruction.effect, Board.call, show (b.withRandom r).state = b.state from rfl]
    split
    · rfl
    · split <;> rfl
  | _ => rfl

/-- What an instruction does on one of two boards that are alike, it does on the other. -/
theorem Board.Alike.effect {b d : Board} (h : b.Alike d) {keys keys' : Keypad}
    (down : keys'.down = keys.down) (i : Instruction) :
    (i.effect keys b).1.Alike (i.effect keys' d).1 ∧
      (i.effect keys' d).2 = (i.effect keys b).2 := by
  rw [effect_of_down down]
  obtain ⟨state, bus, random⟩ := b
  obtain ⟨state', bus', random'⟩ := d
  obtain ⟨rfl, rfl, future⟩ := h
  by_cases draws : ∃ x n, i = .random x n
  · obtain ⟨x, n, rfl⟩ := draws
    have first := future.first
    refine ⟨⟨?_, rfl, future.next⟩, rfl⟩
    simp only [Instruction.effect, first]
  · have other := effect_withRandom (fun x n e => draws ⟨x, n, e⟩) keys
      ⟨state', bus', random⟩ random'
    have same := effect_withRandom (fun x n e => draws ⟨x, n, e⟩) keys
      ⟨state', bus', random⟩ random
    simp only [Board.withRandom] at other same
    rw [other]
    refine ⟨⟨rfl, rfl, ?_⟩, rfl⟩
    rw [congrArg (·.1.random) same]
    exact future

/-! ## Processors -/

/-- Whether a notice is about a tone. -/
def Notice.isTone : Notice → Bool
  | .tone _ => true
  | .frame _ | .snapshot _ => false

namespace Cpu

/-- Two processors agree on all that instructions read. -/
structure Alike (c d : Cpu) : Prop where
  state : d.state = c.state
  bus : d.bus = c.bus
  gate : d.gate = c.gate
  romLimit : d.romLimit = c.romLimit
  cycles : d.cycles = c.cycles
  fault : d.fault = c.fault
  down : d.keypad.down = c.keypad.down
  random : c.random.SameFuture d.random

/-- The same is told twice, except for tones. -/
def SameButTones (ns ms : List Notice) : Prop :=
  ms.filter (!·.isTone) = ns.filter (!·.isTone)

/-- Two operations leave processors that are alike, and tell the same except for tones. -/
structure AlikeTold (r s : Cpu × List Notice) : Prop where
  cpu : r.1.Alike s.1
  told : SameButTones r.2 s.2

/-- Two operations that may be refused do the same so. -/
structure AlikeEnded {ε : Type} (r s : Cpu × List Notice × Option ε) : Prop where
  cpu : r.1.Alike s.1
  told : SameButTones r.2.1 s.2.1
  error : s.2.2 = r.2.2

/-- Two processors agree on what a reset leaves alone, and on the sizes of their memories. -/
structure Kin (c d : Cpu) : Prop where
  cleared : d.bus.clear = c.bus.clear
  gate : d.gate = c.gate
  romLimit : d.romLimit = c.romLimit
  down : d.keypad.down = c.keypad.down
  random : c.random.SameFuture d.random

variable {c d : Cpu}

/-- Asking for a tone tells nothing else. -/
theorem silent_requestTone (c : Cpu) (beeping : Bool) :
    (c.requestTone beeping).2.filter (!·.isTone) = [] := by
  unfold requestTone
  split
  · rfl
  · dsimp only
    generalize (Speaker.request _ beeping).2 = heard
    cases heard <;> rfl

theorem SameButTones.append {ns ms ns' ms' : List Notice} (h : SameButTones ns ms)
    (h' : SameButTones ns' ms') : SameButTones (ns ++ ns') (ms ++ ms') := by
  simp only [SameButTones, List.filter_append] at h h' ⊢
  rw [h, h']

namespace Alike

theorem refl (c : Cpu) : c.Alike c := ⟨rfl, rfl, rfl, rfl, rfl, rfl, rfl, .refl _⟩

theorem symm (h : c.Alike d) : d.Alike c :=
  ⟨h.state.symm, h.bus.symm, h.gate.symm, h.romLimit.symm, h.cycles.symm, h.fault.symm,
    h.down.symm, h.random.symm⟩

theorem trans {e : Cpu} (h : c.Alike d) (h' : d.Alike e) : c.Alike e :=
  ⟨h'.state.trans h.state, h'.bus.trans h.bus, h'.gate.trans h.gate,
    h'.romLimit.trans h.romLimit, h'.cycles.trans h.cycles, h'.fault.trans h.fault,
    h'.down.trans h.down, h.random.trans h'.random⟩

theorem kin (h : c.Alike d) : c.Kin d :=
  ⟨congrArg Bus.clear h.bus, h.gate, h.romLimit, h.down, h.random⟩

theorem withBus (h : c.Alike d) (bus : Bus) : Alike { c with bus } { d with bus } :=
  { h with bus := rfl }

theorem withState (h : c.Alike d) (state : State) : Alike { c with state } { d with state } :=
  { h with state := rfl }

theorem withGate (h : c.Alike d) (gate : Gate) : Alike { c with gate } { d with gate } :=
  { h with gate := rfl }

theorem withKeypad (h : c.Alike d) {p q : Keypad} (down : q.down = p.down) :
    Alike { c with keypad := p } { d with keypad := q } :=
  { h with down }

theorem withBoard (h : c.Alike d) {b b' : Board} (hb : b.Alike b') :
    Alike { c with toBoard := b } { d with toBoard := b' } :=
  { h with state := hb.state, bus := hb.bus, random := hb.random }

/-! ### What is done to processors that are alike -/

/-- Executing a fetched word. -/
theorem perform (h : c.Alike d) (bus : Bus) (w : Fetched) :
    (processor.perform w { c with bus }).1.Alike (processor.perform w { d with bus }).1 ∧
      (processor.perform w { d with bus }).2 = (processor.perform w { c with bus }).2 := by
  rw [perform_eq, perform_eq]
  cases Instruction.decode? w.opcode with
  | none => exact ⟨{ h.withBus bus with fault := rfl }, rfl⟩
  | some i =>
    have ready : (c.ready bus).Alike (d.ready bus) :=
      ⟨congrArg (fun s : State => { s.advance 2 with renderNeeded := false }) h.state, rfl, h.random⟩
    obtain ⟨alike, same⟩ := ready.effect h.down i
    dsimp only
    generalize i.effect c.keypad (c.ready bus) = r at alike same ⊢
    generalize i.effect d.keypad (d.ready bus) = r' at alike same ⊢
    obtain ⟨b, t⟩ := r
    obtain ⟨b', t'⟩ := r'
    obtain rfl : t' = t := same
    cases t' with
    | none =>
      exact ⟨{ h.withBoard alike with cycles := congrArg (· + 1) h.cycles }, rfl⟩
    | some t =>
      dsimp only
      cases t.refusal w.pc w.opcode.toNat with
      | fault f => exact ⟨{ h.withBoard alike with fault := rfl }, rfl⟩
      | access e => exact ⟨h.withBoard alike, rfl⟩

theorem cycle (h : c.Alike d) : c.cycle.1.Alike d.cycle.1 ∧ d.cycle.2 = c.cycle.2 := by
  have fetched : d.fetched = c.fetched := by
    rw [Cpu.fetched, Cpu.fetched, h.bus, h.state]
  have ended : d.bus.size ≤ d.state.pc + 1 ↔ c.bus.size ≤ c.state.pc + 1 := by
    rw [h.bus, h.state]
  rw [cycle_eq c, cycle_eq d, fetched]
  by_cases out : c.bus.size ≤ c.state.pc + 1
  · rw [if_pos out, if_pos (ended.mpr out)]
    exact ⟨{ h with bus := congrArg Bus.dropLog h.bus }, rfl⟩
  rw [if_neg out, if_neg (not_congr ended |>.mpr out)]
  rcases c.fetched with ⟨bus, e | w⟩
  · exact ⟨h.withBus bus, rfl⟩
  dsimp only
  split
  · exact ⟨h.withBus bus, rfl⟩
  · exact h.perform bus w

theorem deliver (h : c.Alike d) (k : Key) : (c.deliver k).Alike (d.deliver k) := by
  unfold Cpu.deliver
  rw [h.state]
  split
  · exact h.withState _
  · exact h

theorem requestTone (h : c.Alike d) (beeping beeping' : Bool) :
    AlikeTold (c.requestTone beeping) (d.requestTone beeping') := by
  have keeps (c : Cpu) (beeping : Bool) : c.Alike (c.requestTone beeping).1 := by
    unfold Cpu.requestTone
    split
    · exact .refl c
    · exact { Alike.refl c with }
  have same := keeps c beeping
  have same' := keeps d beeping'
  refine ⟨⟨?_, ?_, ?_, ?_, ?_, ?_, ?_, fun n => ?_⟩, ?_⟩
  · rw [same'.state, h.state, same.state]
  · rw [same'.bus, h.bus, same.bus]
  · rw [same'.gate, h.gate, same.gate]
  · rw [same'.romLimit, h.romLimit, same.romLimit]
  · rw [same'.cycles, h.cycles, same.cycles]
  · rw [same'.fault, h.fault, same.fault]
  · rw [same'.down, h.down, same.down]
  · rw [same'.random, h.random, same.random]
  · rw [SameButTones, silent_requestTone, silent_requestTone]

theorem tick (h : c.Alike d) : AlikeTold c.tick d.tick := by
  have counted : c.countDown.1.Alike d.countDown.1 :=
    { h with state := by simp only [countDown, h.state] }
  exact counted.requestTone c.countDown.2 d.countDown.2

theorem notify (h : c.Alike d) (operation : Option Operation) (next : Option Opcode)
    (always : Bool) :
    AlikeTold (c.notify operation next always) (d.notify operation next always) := by
  unfold Cpu.notify snapshot takeFrame
  rw [h.bus, h.state, h.cycles]
  dsimp only
  split <;> exact ⟨⟨rfl, rfl, h.gate, h.romLimit, rfl, h.fault, h.down, h.random⟩, rfl⟩

theorem conclude (h : c.Alike d) (w : Fetched) (o : Operation) :
    AlikeTold (c.conclude w o) (d.conclude w o) :=
  h.notify (some o) w.next false

end Alike

namespace Kin

/-- What is not cleared by a reset is all that it may depend on. -/
theorem blank (h : c.Kin d) : AlikeEnded c.blank d.blank := by
  unfold Cpu.blank
  rw [h.cleared]
  generalize c.bus.clear.load 0 Font.bytes = r
  obtain ⟨bus, error⟩ := r
  have alike : Alike { c with state := .initial, cycles := 0, fault := none, bus }
      { d with state := .initial, cycles := 0, fault := none, bus } :=
    ⟨rfl, rfl, h.gate, h.romLimit, rfl, rfl, h.down, h.random⟩
  cases error with
  | some e => exact ⟨alike, rfl, rfl⟩
  | none =>
    have silent := alike.requestTone false false
    exact ⟨silent.cpu, silent.told, rfl⟩

theorem reset (h : c.Kin d) : AlikeEnded c.reset d.reset := by
  have blank := h.blank
  unfold Cpu.reset
  generalize c.blank = r at blank ⊢
  generalize d.blank = s at blank ⊢
  obtain ⟨c, told, error⟩ := r
  obtain ⟨d, told', error'⟩ := s
  obtain ⟨alike, told, rfl⟩ := blank
  cases error' with
  | some e => exact ⟨alike, told, rfl⟩
  | none =>
    have shown := Alike.notify alike none none true
    exact ⟨shown.cpu, told.append shown.told, rfl⟩

/-- A program that is accepted is loaded alike, whatever was there before. -/
theorem loadProgram (h : c.Kin d) {data : List UInt8}
    (fits : Rom.checkSize c.romLimit data.length none = .ok ()) :
    AlikeEnded (c.loadProgram data) (d.loadProgram data) := by
  have blank := h.blank
  unfold Cpu.loadProgram
  rw [h.romLimit, fits]
  generalize c.blank = r at blank ⊢
  generalize d.blank = s at blank ⊢
  obtain ⟨c, told, error⟩ := r
  obtain ⟨d, told', error'⟩ := s
  obtain ⟨alike, told, rfl⟩ := blank
  cases error' with
  | some e => exact ⟨alike, told, rfl⟩
  | none =>
    have bus : d.bus = c.bus := alike.bus
    dsimp only
    rw [bus]
    generalize c.bus.load programStart data = r
    obtain ⟨bus, error⟩ := r
    have loaded := Alike.withBus alike bus
    cases error with
    | some e => exact ⟨loaded, told, rfl⟩
    | none =>
      have shown := loaded.notify none none true
      exact ⟨shown.cpu, told.append shown.told, rfl⟩

end Kin

theorem Alike.loadProgram (h : c.Alike d) (data : List UInt8) :
    AlikeEnded (c.loadProgram data) (d.loadProgram data) := by
  cases fits : Rom.checkSize c.romLimit data.length none with
  | ok u => exact h.kin.loadProgram fits
  | error e =>
    have fits' : Rom.checkSize d.romLimit data.length none = .error e := by rw [h.romLimit, fits]
    simp only [Cpu.loadProgram, fits, fits']
    exact ⟨h, rfl, rfl⟩

end Cpu

end Hexscope
