import Hexscope.Proofs.Cpu.Alike

/-!
# The processor behind its gate

The gate decides whether an instruction begins. What the instruction does then, and all else that is done
to the processor, happens behind the gate: it neither looks at the gate nor changes it. So with another
gate the same happens (`Cpu.cycle_withGate` and its like), and the gate stays as it is (`Cpu.gate_cycle`
and its like). Two processors that are alike but for their gates stay so (`Cpu.AlikeButGate`).
-/

namespace Hexscope.Cpu

/-- The processor with another gate. -/
def withGate (c : Cpu) (g : Gate) : Cpu := { c with gate := g }

variable (c : Cpu) (g : Gate)

@[simp] theorem gate_withGate : (c.withGate g).gate = g := rfl

@[simp] theorem state_withGate : (c.withGate g).state = c.state := rfl

@[simp] theorem withGate_self : c.withGate c.gate = c := rfl

/-! ## With another gate -/

/-- A fetched word is decoded and executed on a board, to which the gate does not belong. -/
theorem perform_withGate (bus : Bus) (w : Fetched) :
    processor.perform w { c.withGate g with bus } =
      ((processor.perform w { c with bus }).1.withGate g,
        (processor.perform w { c with bus }).2) := by
  have ready : (c.withGate g).ready bus = c.ready bus := rfl
  have keypad : (c.withGate g).keypad = c.keypad := rfl
  rw [perform_eq (c.withGate g) bus w, perform_eq c bus w, ready, keypad]
  cases Instruction.decode? w.opcode with
  | none => rfl
  | some i =>
    dsimp only
    rcases i.effect c.keypad (c.ready bus) with ⟨b, _ | t⟩
    · rfl
    · dsimp only
      cases t.refusal w.pc w.opcode.toNat <;> rfl

theorem cycle_withGate : (c.withGate g).cycle = (c.cycle.1.withGate g, c.cycle.2) := by
  have fetched : (c.withGate g).fetched = c.fetched := rfl
  rw [cycle_eq c, cycle_eq (c.withGate g), fetched]
  by_cases out : c.bus.size ≤ c.state.pc + 1
  · have out' : (c.withGate g).bus.size ≤ (c.withGate g).state.pc + 1 := out
    rw [if_pos out, if_pos out']
    rfl
  have inside' : ¬ (c.withGate g).bus.size ≤ (c.withGate g).state.pc + 1 := out
  rw [if_neg out, if_neg inside']
  rcases c.fetched with ⟨bus, e | w⟩
  · rfl
  dsimp only
  split
  · rfl
  · exact perform_withGate c g bus w

theorem notify_withGate (operation : Option Operation) (next : Option Opcode) (always : Bool) :
    (c.withGate g).notify operation next always =
      ((c.notify operation next always).1.withGate g, (c.notify operation next always).2) := by
  unfold notify snapshot takeFrame withGate
  dsimp only
  split <;> rfl

theorem conclude_withGate (w : Fetched) (o : Operation) :
    (c.withGate g).conclude w o = ((c.conclude w o).1.withGate g, (c.conclude w o).2) :=
  notify_withGate c g (some o) w.next false

theorem deliver_withGate (k : Key) : (c.withGate g).deliver k = (c.deliver k).withGate g := by
  unfold deliver withGate
  dsimp only
  split <;> rfl

theorem requestTone_withGate (beeping : Bool) : (c.withGate g).requestTone beeping =
    ((c.requestTone beeping).1.withGate g, (c.requestTone beeping).2) := by
  unfold requestTone withGate
  dsimp only
  split <;> rfl

theorem tick_withGate : (c.withGate g).tick = (c.tick.1.withGate g, c.tick.2) :=
  requestTone_withGate c.countDown.1 g c.countDown.2

/-! ## The gate stays as it is -/

@[simp] theorem gate_requestTone (beeping : Bool) : (c.requestTone beeping).1.gate = c.gate := by
  unfold requestTone
  split <;> rfl

@[simp] theorem gate_tick : c.tick.1.gate = c.gate := gate_requestTone _ _

@[simp] theorem gate_notify (operation : Option Operation) (next : Option Opcode) (always : Bool) :
    (c.notify operation next always).1.gate = c.gate := by
  unfold notify snapshot takeFrame
  dsimp only
  split <;> rfl

@[simp] theorem gate_conclude (w : Fetched) (o : Operation) : (c.conclude w o).1.gate = c.gate :=
  gate_notify c _ _ _

@[simp] theorem gate_deliver (k : Key) : (c.deliver k).gate = c.gate := by
  unfold deliver
  split <;> rfl

@[simp] theorem gate_cycle : c.cycle.1.gate = c.gate := by
  have same := cycle_withGate c c.gate
  rw [withGate_self] at same
  rw [same]
  rfl

@[simp] theorem gate_blank : c.blank.1.gate = c.gate := by
  unfold blank
  rcases c.bus.clear.load 0 Font.bytes with ⟨bus, _ | e⟩
  · exact gate_requestTone _ _
  · rfl

@[simp] theorem gate_reset : c.reset.1.gate = c.gate := by
  rcases reset_cases c with same | shown
  · rw [same, gate_blank]
  · rw [shown, gate_notify, gate_blank]

@[simp] theorem gate_loadProgram (data : List UInt8) : (c.loadProgram data).1.gate = c.gate := by
  cases fits : Rom.checkSize c.romLimit data.length none with
  | error e => rw [loadProgram_of_error fits]
  | ok u =>
    rcases loadProgram_cases fits with same | ⟨d, rfl, same | shown⟩
    · rw [same, gate_blank]
    · rw [same]
      exact gate_blank c
    · rw [shown, gate_notify]
      exact gate_blank c

/-! ## Alike but for the gate -/

/-- Two processors agree on all that instructions read, but perhaps not on the gate. -/
def AlikeButGate (c d : Cpu) : Prop := (c.withGate d.gate).Alike d

namespace AlikeButGate

variable {c d : Cpu}

theorem withGate (c : Cpu) (g : Gate) : c.AlikeButGate (c.withGate g) := .refl _

/-- The first of the two may get another speaker and another gate. -/
theorem around (h : c.AlikeButGate d) (speaker : Option Speaker) (gate : Gate) :
    AlikeButGate { c with speaker, gate } d :=
  { (show (c.withGate d.gate).Alike d from h) with }

theorem withKeypad (h : c.AlikeButGate d) {p q : Keypad} (down : q.down = p.down) :
    AlikeButGate { c with keypad := p } { d with keypad := q } :=
  Alike.withKeypad h down

theorem state (h : c.AlikeButGate d) : d.state = c.state :=
  (show (c.withGate d.gate).Alike d from h).state

theorem down (h : c.AlikeButGate d) : d.keypad.down = c.keypad.down :=
  (show (c.withGate d.gate).Alike d from h).down

/-- Asking for a key leaves the keys as they are. -/
theorem await (h : c.AlikeButGate d) : AlikeButGate { c with keypad := c.keypad.await.1 }
    { d with keypad := d.keypad.await.1 } := by
  have keeps (p : Keypad) : p.await.1.down = p.down := by
    unfold Keypad.await
    split <;> rfl
  exact h.withKeypad ((keeps _).trans (h.down.trans (keeps _).symm))

theorem first? (h : c.AlikeButGate d) : d.keypad.first? = c.keypad.first? := by
  unfold Keypad.first? Keypad.isDown
  rw [h.down]

theorem cycle (h : c.AlikeButGate d) :
    c.cycle.1.AlikeButGate d.cycle.1 ∧ d.cycle.2 = c.cycle.2 := by
  obtain ⟨alike, same⟩ := Alike.cycle h
  rw [cycle_withGate] at alike same
  refine ⟨?_, same⟩
  rw [AlikeButGate, gate_cycle]
  exact alike

theorem deliver (h : c.AlikeButGate d) (k : Key) : (c.deliver k).AlikeButGate (d.deliver k) := by
  have alike := Alike.deliver h k
  rw [deliver_withGate] at alike
  rw [AlikeButGate, gate_deliver]
  exact alike

theorem conclude (h : c.AlikeButGate d) (w : Fetched) (o : Operation) :
    (c.conclude w o).1.AlikeButGate (d.conclude w o).1 ∧
      SameButTones (c.conclude w o).2 (d.conclude w o).2 := by
  obtain ⟨alike, told⟩ := Alike.conclude h w o
  rw [conclude_withGate] at alike told
  refine ⟨?_, told⟩
  rw [AlikeButGate, gate_conclude]
  exact alike

theorem tick (h : c.AlikeButGate d) :
    c.tick.1.AlikeButGate d.tick.1 ∧ SameButTones c.tick.2 d.tick.2 := by
  obtain ⟨alike, told⟩ := Alike.tick h
  rw [tick_withGate] at alike told
  refine ⟨?_, told⟩
  rw [AlikeButGate, gate_tick]
  exact alike

end AlikeButGate

end Hexscope.Cpu
