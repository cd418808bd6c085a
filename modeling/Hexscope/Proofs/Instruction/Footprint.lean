import Hexscope.Proofs.Cpu.Log

/-!
# What an instruction may change

`Reach` says what an instruction may change and where it leaves the program counter, and `Opcode.reach?`
tells it for every opcode that is an instruction. The table is read off the opcode itself. That it fits the
instructions of the opcodes is `Opcode.reach?_eq`, and what it leaves out does not change:

* `Instruction.spares_effect`, `Instruction.sparesTimers_effect`: the registers, the screen, the call
  stack and the timers;
* `Instruction.pc_effect`: the program counter;
* `Instruction.memory_effect`, `Instruction.random_effect`: the memory and the source of random bytes.
-/

namespace Hexscope

/-- Whether the key is down whose number is in a register. Numbers above fifteen are no keys. -/
def Keypad.holds (keys : Keypad) (b : UInt8) : Bool := keys.pressed.any (·.val = b.toNat)

theorem Keypad.isPressed_eq_holds (keys : Keypad) (b : UInt8) :
    keys.isPressed b.toNat = keys.holds b := by
  rw [Bool.eq_iff_iff]
  simp only [holds, pressed, List.any_eq_true, List.mem_filter, List.mem_finRange, true_and,
    decide_eq_true_eq]
  unfold isPressed key?
  split
  · rename_i k hk
    split at hk
    · cases hk
      constructor
      · intro down
        exact ⟨_, down, rfl⟩
      · rintro ⟨k, down, same⟩
        have : (⟨(b.toNat : Int).toNat, by omega⟩ : Key) = k := Fin.ext same.symm
        rw [this]
        exact down
    · cases hk
  · rename_i e he
    split at he
    · cases he
    · rename_i none
      refine ⟨nofun, ?_⟩
      rintro ⟨k, -, same⟩
      omega

/-- What an instruction may change besides the count of cycles, and where it leaves the program
counter. -/
structure Reach where
  registers : List Register := []
  index : Bool := false
  delay : Bool := false
  sound : Bool := false
  screen : Bool := false
  /-- The stack pointer. -/
  pointer : Bool := false
  /-- The slot of the call stack at the stack pointer. -/
  slot : Bool := false
  /-- How many bytes from the index on. -/
  bytes : Nat := 0
  /-- Whether a random byte is taken. -/
  random : Bool := false
  /-- The next program counter, by the keys and the registers before. -/
  next : Keypad → Registers → Int := fun _ r => r.pc + 2

namespace Reach

/-- Jumps to an address. -/
def jump (target : Int) : Reach := { next := fun _ _ => target }

/-- Passes over the next instruction if a condition holds. -/
def skip (condition : Keypad → Registers → Bool) : Reach :=
  { next := fun keys r => if condition keys r then r.pc + 4 else r.pc + 2 }

end Reach

namespace Opcode

/-- The reach of the opcodes of family 8. -/
def registersReach? (w : Opcode) : Option Reach :=
  match w.n.val with
  | 0 | 1 | 2 | 3 => some { registers := [w.x] }
  | 4 | 5 | 6 | 7 | 14 => some { registers := [w.x, 0xF] }
  | _ => none

/-- The reach of the opcodes of family F. -/
def devicesReach? (w : Opcode) : Option Reach :=
  match w.low.toNat with
  | 0x07 | 0x0A => some { registers := [w.x] }
  | 0x15 => some { delay := true }
  | 0x18 => some { sound := true }
  | 0x1E | 0x29 => some { index := true }
  | 0x33 => some { bytes := 3 }
  | 0x55 => some { bytes := w.x.val + 1 }
  | 0x65 => some { registers := w.x.upTo }
  | _ => none

/-- What an opcode may change, or nothing if it is no instruction. -/
def reach? (w : Opcode) : Option Reach :=
  match w.family with
  | 0x0 =>
    some (if w = 0x00E0 then { screen := true }
      else if w = 0x00EE then
        { pointer := true, next := fun _ r => r.stack.getD (r.sp - 1).toNat 0 }
      else {})
  | 0x1 => some (.jump w.nnn.val)
  | 0x2 => some { Reach.jump w.nnn.val with pointer := true, slot := true }
  | 0x3 => some (.skip fun _ r => r.v.get w.x = w.low)
  | 0x4 => some (.skip fun _ r => r.v.get w.x ≠ w.low)
  | 0x5 => if w.n = 0 then some (.skip fun _ r => r.v.get w.x = r.v.get w.y) else none
  | 0x6 | 0x7 => some { registers := [w.x] }
  | 0x8 => w.registersReach?
  | 0x9 => if w.n = 0 then some (.skip fun _ r => r.v.get w.x ≠ r.v.get w.y) else none
  | 0xA => some { index := true }
  | 0xB => some { next := fun _ r => w.nnn.val + (r.v.get 0).toNat }
  | 0xC => some { registers := [w.x], random := true }
  | 0xD => some { registers := [0xF], screen := true }
  | 0xE =>
    if w.low = 0x9E then some (.skip fun keys r => keys.holds (r.v.get w.x))
    else if w.low = 0xA1 then some (.skip fun keys r => !keys.holds (r.v.get w.x)) else none
  | 0xF => w.devicesReach?
  | _ => none

end Opcode

/-- What an instruction may change. -/
def Instruction.reach : Instruction → Reach
  | .sys _ => {}
  | .cls => { screen := true }
  | .ret => { pointer := true, next := fun _ r => r.stack.getD (r.sp - 1).toNat 0 }
  | .jump a => .jump a.val
  | .call a => { Reach.jump a.val with pointer := true, slot := true }
  | .skipIfByte x b => .skip fun _ r => r.v.get x = b
  | .skipUnlessByte x b => .skip fun _ r => r.v.get x ≠ b
  | .skipIfSame x y => .skip fun _ r => r.v.get x = r.v.get y
  | .skipUnlessSame x y => .skip fun _ r => r.v.get x ≠ r.v.get y
  | .skipIfKey x => .skip fun keys r => keys.holds (r.v.get x)
  | .skipUnlessKey x => .skip fun keys r => !keys.holds (r.v.get x)
  | .loadByte x _ | .addByte x _ | .copy x _ | .or x _ | .and x _ | .xor x _ | .readDelay x
  | .awaitKey x => { registers := [x] }
  | .add x _ | .sub x _ | .shiftRight x _ | .subFrom x _ | .shiftLeft x _ =>
    { registers := [x, 0xF] }
  | .random x _ => { registers := [x], random := true }
  | .draw _ _ _ => { registers := [0xF], screen := true }
  | .fill x => { registers := x.upTo }
  | .loadIndex _ | .addIndex _ | .glyph _ => { index := true }
  | .jumpPlus a => { next := fun _ r => a.val + (r.v.get 0).toNat }
  | .setDelay _ => { delay := true }
  | .setSound _ => { sound := true }
  | .decimal _ => { bytes := 3 }
  | .store x => { bytes := x.val + 1 }

/-- The table fits the instructions of the opcodes. -/
theorem Opcode.reach?_eq (w : Opcode) :
    w.reach? = (Instruction.decode? w).map Instruction.reach := by
  have registers : w.registersReach? = (Instruction.decodeRegisters? w).map Instruction.reach := by
    unfold registersReach? Instruction.decodeRegisters?
    generalize w.n.val = n
    split
    case h_10 => simp only [*, Option.map_none]
    all_goals rfl
  have devices : w.devicesReach? = (Instruction.decodeDevices? w).map Instruction.reach := by
    unfold devicesReach? Instruction.decodeDevices?
    generalize w.low.toNat = l
    split
    case h_10 => simp only [*, Option.map_none]
    all_goals rfl
  unfold reach? Instruction.decode?
  rw [registers, devices]
  generalize w.family = family
  split
  case h_1 =>
    split
    · rfl
    · split <;> rfl
  case h_6 | h_10 => split <;> rfl
  case h_15 =>
    split
    · rfl
    · split <;> rfl
  case h_17 => simp only [*, Option.map_none]
  all_goals rfl

/-! ## Registers, screen and call stack -/

namespace Reach

/-- From one state to another, only what is within reach has changed, and perhaps the program counter,
the timers, or whether the screen must be shown. A register for which an instruction waits that began
before is up to that one. -/
structure Spares (reach : Reach) (s t : State) : Prop where
  registers : ∀ x ∉ reach.registers, x ∉ s.keyWait → t.v.get x = s.v.get x
  index : reach.index = false → t.i = s.i
  screen : reach.screen = false → t.screen = s.screen
  pointer : reach.pointer = false → t.sp = s.sp
  stack : ∃ a, t.stack = if reach.slot then s.stack.set s.sp.toNat a else s.stack
  waits : ∀ x ∈ t.keyWait, x ∈ reach.registers ∨ x ∈ s.keyWait

/-- Only the timers within reach have changed. -/
structure SparesTimers (reach : Reach) (r q : Registers) : Prop where
  delay : reach.delay = false → q.delay = r.delay
  sound : reach.sound = false → q.sound = r.sound

variable {reach : Reach} {s t : State} {x : Register} {a : Int}

namespace Spares

theorem refl (h : reach.slot = false) (s : State) : reach.Spares s s where
  registers _ _ _ := rfl
  index _ := rfl
  screen _ := rfl
  pointer _ := rfl
  stack := ⟨0, by rw [h]; rfl⟩
  waits _ hx := .inr hx

theorem setV (h : reach.Spares s t) (hx : x ∈ reach.registers) (b : UInt8) :
    reach.Spares s (t.setV x b) :=
  { h with
    registers := fun y hy free => by
      have other : x ≠ y := fun same => hy (same ▸ hx)
      rw [State.setV, RegisterFile.get_set, if_neg other]
      exact h.registers y hy free }

theorem setFlag (h : reach.Spares s t) (hx : 0xF ∈ reach.registers) (b : Bool) :
    reach.Spares s (t.setFlag b) :=
  h.setV hx _

theorem withIndex (h : reach.Spares s t) (hi : reach.index = true) (a : Int) :
    reach.Spares s { t with i := a } :=
  { h with index := fun no => absurd (no.symm.trans hi) Bool.false_ne_true }

theorem withScreen (h : reach.Spares s t) (hs : reach.screen = true) (screen : Screen) :
    reach.Spares s { t with screen } :=
  { h with screen := fun no => absurd (no.symm.trans hs) Bool.false_ne_true }

theorem withKeyWait (h : reach.Spares s t) (hx : x ∈ reach.registers) :
    reach.Spares s { t with keyWait := some x } :=
  { h with waits := fun _ hy => .inl (Option.mem_some_iff.mp hy ▸ hx) }

theorem withPc (h : reach.Spares s t) (a : Int) : reach.Spares s { t with pc := a } := { h with }

theorem skipIf (h : reach.Spares s t) (condition : Bool) : reach.Spares s (t.skipIf condition) := by
  unfold State.skipIf
  split
  · exact h.withPc _
  · exact h

theorem ret {b : Board} (sound : b.state.StackSound) (hp : reach.pointer = true)
    (hs : reach.slot = false) : reach.Spares b.state b.ret.1.state := by
  rw [Board.ret_of_stackSound sound]
  split
  · exact refl hs _
  · exact { refl hs b.state with pointer := fun no => absurd (no.symm.trans hp) Bool.false_ne_true }

theorem call {b : Board} (sound : b.state.StackSound) (hp : reach.pointer = true)
    (hs : reach.slot = true) (target : Nat) : reach.Spares b.state (b.call target).1.state := by
  have entered {pc sp : Int} {stack : List Int} (a : Int)
      (h : stack = b.state.stack.set b.state.sp.toNat a) :
      reach.Spares b.state { b.state with pc, sp, stack } :=
    { registers := fun _ _ _ => rfl
      index := fun _ => rfl
      screen := fun _ => rfl
      pointer := fun no => absurd (no.symm.trans hp) Bool.false_ne_true
      stack := ⟨a, by rw [hs]; exact h⟩
      waits := fun _ hx => .inr hx }
  rw [Board.call_of_stackSound sound]
  split
  · rename_i full
    have behind : b.state.stack.length ≤ b.state.sp.toNat := by
      have length := sound.length
      omega
    exact entered 0 (List.set_eq_of_length_le behind).symm
  · exact entered b.state.pc rfl

theorem draw {b : Board} (h : reach.Spares s b.state) (hx : 0xF ∈ reach.registers)
    (hs : reach.screen = true) (x y : UInt8) (n : Nat) :
    reach.Spares s (b.draw x y n).1.state :=
  Board.keep_draw (P := fun d => reach.Spares s d.state)
    (fun _ _ _ _ screen _ h => h.withScreen hs screen)
    (fun _ hit h => { h.setFlag hx hit with }) h x y n

theorem fillFrom {b : Board} (h : reach.Spares s b.state) (a : Int) {xs : List Register}
    (hxs : ∀ x ∈ xs, x ∈ reach.registers) : reach.Spares s (b.fillFrom a xs).1.state := by
  induction xs generalizing b a with
  | nil => exact h
  | cons x xs ih =>
    simp only [Board.fillFrom]
    cases b.bus.read a with
    | error e => exact h
    | ok r =>
      obtain ⟨d, bus⟩ := r
      exact ih (b := { b with bus, state := b.state.setV x d })
        (h.setV (hxs x (List.mem_cons_self ..)) d) (a + 1) fun y hy =>
        hxs y (List.mem_cons_of_mem _ hy)

end Spares

end Reach

/-- A return changes nothing but program counter and stack pointer. -/
theorem Board.exists_ret (b : Board) :
    ∃ pc sp, b.ret.1 = b.withState { b.state with pc, sp } := by
  unfold ret
  dsimp only
  split
  · exact ⟨b.state.pc, b.state.sp, rfl⟩
  · split <;> exact ⟨_, _, rfl⟩

/-- A call changes nothing but program counter and call stack. -/
theorem Board.exists_call (b : Board) (target : Nat) :
    ∃ pc sp stack, (b.call target).1 = b.withState { b.state with pc, sp, stack } := by
  unfold call
  dsimp only
  split
  · exact ⟨b.state.pc, b.state.sp, b.state.stack, rfl⟩
  · split
    · exact ⟨_, _, _, rfl⟩
    · exact ⟨b.state.pc, b.state.sp, b.state.stack, rfl⟩

namespace Instruction

variable {b : Board}

/-- An instruction changes only registers, screen and call stack within its reach. -/
theorem spares_effect (sound : b.state.StackSound) (i : Instruction) (keys : Keypad) :
    i.reach.Spares b.state (i.effect keys b).1.state := by
  have still (free : i.reach.slot = false) : i.reach.Spares b.state b.state := .refl free _
  have only (x : Register) : x ∈ [x] := List.mem_singleton_self x
  cases i with
  | sys a | decimal x | store x => exact still rfl
  | cls => exact { (still rfl).withScreen rfl .blank with }
  | ret => exact .ret sound rfl rfl
  | call a => exact .call sound rfl rfl a
  | jump a | jumpPlus a => exact (still rfl).withPc _
  | skipIfByte x n | skipUnlessByte x n | skipIfSame x y | skipUnlessSame x y | skipIfKey x
  | skipUnlessKey x => exact (still rfl).skipIf _
  | loadByte x n | addByte x n | copy x y | or x y | and x y | xor x y | readDelay x
  | random x n => exact (still rfl).setV (only x) _
  | add x y | sub x y | shiftRight x y | subFrom x y | shiftLeft x y =>
    have flag : (0xF : Register) ∈ [x, 0xF] := List.mem_cons_of_mem x (only 0xF)
    exact ((still rfl).setV flag _).setV (List.mem_cons_self ..) _
  | loadIndex a | addIndex x | glyph x => exact (still rfl).withIndex rfl _
  | draw x y n => exact (still rfl).draw (only 0xF) rfl _ _ _
  | awaitKey x => exact (still rfl).withKeyWait (only x)
  | setDelay x | setSound x => exact { still rfl with }
  | fill x => exact (still rfl).fillFrom b.state.i fun _ hx => hx

/-- An instruction changes only the timers within its reach. -/
theorem sparesTimers_effect (i : Instruction) (keys : Keypad) (b : Board) :
    i.reach.SparesTimers b.state.toRegisters (i.effect keys b).1.state.toRegisters := by
  have same (c : Board) (h : (c.state.delay, c.state.sound) = (b.state.delay, b.state.sound)) :
      i.reach.SparesTimers b.state.toRegisters c.state.toRegisters :=
    ⟨fun _ => congrArg Prod.fst h, fun _ => congrArg Prod.snd h⟩
  cases i with
  | ret =>
    obtain ⟨pc, sp, e⟩ := b.exists_ret
    rw [show (Instruction.ret.effect keys b).1 = _ from e]
    exact same _ rfl
  | call a =>
    obtain ⟨pc, sp, stack, e⟩ := b.exists_call a
    rw [show ((Instruction.call a).effect keys b).1 = _ from e]
    exact same _ rfl
  | draw x y n =>
    exact same _ (Board.keep_draw
      (P := fun d => (d.state.delay, d.state.sound) = (b.state.delay, b.state.sound))
      (fun _ _ _ _ _ _ h => h) (fun _ _ h => h) rfl _ _ _)
  | fill x =>
    exact same _ (Board.keep_fillFrom
      (P := fun d => (d.state.delay, d.state.sound) = (b.state.delay, b.state.sound))
      (fun _ _ _ _ _ _ h => h) rfl _ _)
  | skipIfByte x n | skipUnlessByte x n | skipIfSame x y | skipUnlessSame x y | skipIfKey x
  | skipUnlessKey x =>
    refine same _ ?_
    simp only [effect, Board.withState, State.skipIf]
    split <;> rfl
  | setDelay x => exact ⟨by rintro ⟨⟩, fun _ => rfl⟩
  | setSound x => exact ⟨fun _ => rfl, by rintro ⟨⟩⟩
  | _ => exact same _ rfl

/-! ## Random bytes, memory and program counter -/

/-- One instruction takes a random byte, and no other. -/
theorem random_effect (i : Instruction) (keys : Keypad) (b : Board) :
    (i.effect keys b).1.random = if i.reach.random then b.random.next.2 else b.random := by
  cases i with
  | ret =>
    obtain ⟨pc, sp, e⟩ := b.exists_ret
    exact congrArg (·.random) e
  | call a =>
    obtain ⟨pc, sp, stack, e⟩ := b.exists_call a
    exact congrArg (·.random) e
  | draw x y n =>
    exact Board.keep_draw (P := fun d => d.random = b.random)
      (fun _ _ _ _ _ _ h => h) (fun _ _ h => h) rfl _ _ _
  | fill x =>
    exact Board.keep_fillFrom (P := fun d => d.random = b.random)
      (fun _ _ _ _ _ _ h => h) rfl _ _
  | _ => rfl

/-- What is written at consecutive addresses changes no other. -/
theorem replay_writes_of_outside {memory : Bus.Memory} {a x : Int} {ds : List Int}
    (h : x < a ∨ a + ds.length ≤ x) : Bus.replay memory (Bus.writes a ds) x = memory x := by
  induction ds generalizing memory a with
  | nil => rfl
  | cons d ds ih =>
    rw [List.length_cons] at h
    have other : x ≠ a := by omega
    have first : Bus.carryOut memory ⟨a, d, .write⟩ x = memory x := Function.update_of_ne other _ _
    exact (ih (by omega)).trans first

/-- An instruction that is not stopped changes only bytes within its reach. -/
theorem memory_effect {i : Instruction} {keys : Keypad} {b' : Board} (plain : b.bus.Plain)
    (h : i.effect keys b = (b', none)) {a : Int}
    (outside : a < b.state.i ∨ b.state.i + i.reach.bytes ≤ a) : b'.bus.peek a = b.bus.peek a := by
  rw [(logs_effect plain h).memory]
  cases i with
  | draw x y n | fill x => exact congrFun (Bus.replay_reads _ _) a
  | decimal x => exact replay_writes_of_outside outside
  | store x =>
    refine replay_writes_of_outside ?_
    rw [List.length_map, Register.length_upTo]
    exact outside
  | _ => rfl

/-- Where an instruction that is not stopped leaves the program counter, if its own address is `pc`. -/
theorem pc_effect {i : Instruction} {keys : Keypad} {b' : Board} {pc : Int}
    (sound : b.state.StackSound) (behind : b.state.pc = pc + 2) (low : 0 ≤ pc) (high : pc < 65532)
    (h : i.effect keys b = (b', none)) :
    b'.state.pc = i.reach.next keys { b.state.toRegisters with pc } := by
  have skips (condition : Bool) :
      (b.state.skipIf condition).pc = if condition then pc + 4 else pc + 2 := by
    unfold State.skipIf
    split
    · rw [State.advance, behind]
      exact (wrapWord_of_bounds (by omega) (by omega)).trans (by omega)
    · exact behind
  cases i with
  | ret =>
    rw [effect, Board.ret_of_stackSound sound] at h
    split at h <;> cases h
    rfl
  | call a =>
    rw [effect, Board.call_of_stackSound sound] at h
    split at h <;> cases h
    rfl
  | draw x y n =>
    have drawn := Board.keep_draw (P := fun d => d.state.pc = pc + 2)
      (fun _ _ _ _ _ _ h => h) (fun _ _ h => h) behind (b.state.v.get x) (b.state.v.get y) n
    rw [show b.draw _ _ _ = _ from h] at drawn
    exact drawn
  | fill x =>
    have filled := Board.keep_fillFrom (P := fun d => d.state.pc = pc + 2)
      (fun _ _ _ _ _ _ h => h) behind b.state.i x.upTo
    rw [show b.fillFrom _ _ = _ from h] at filled
    exact filled
  | decimal x | store x =>
    have same : b'.state = b.state := (congrArg (·.1.state) h).symm
    rw [same]
    exact behind
  | jump a =>
    cases h
    rfl
  | jumpPlus a =>
    cases h
    have byte := (b.state.v.get 0).toNat_lt
    exact wrapWord_of_bounds (by omega) (by omega)
  | skipIfByte x n | skipUnlessByte x n | skipIfSame x y | skipUnlessSame x y =>
    cases h
    exact skips _
  | skipIfKey x | skipUnlessKey x =>
    cases h
    rw [Keypad.isPressed_eq_holds]
    exact skips _
  | _ =>
    cases h
    exact behind

end Instruction

end Hexscope
