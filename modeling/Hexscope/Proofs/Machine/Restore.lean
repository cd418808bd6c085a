import Hexscope.Proofs.Cpu.Account
import Hexscope.Proofs.Machine.Footprint
import Hexscope.Proofs.Machine.Outcome

/-!
# What is stored comes back

One instruction stores registers at the index, one stores the decimal digits of a register, and one fills
registers from the index. In between other instructions may run, on any thread, and as long as none of them
writes the block (`Machine.spares`), what was stored is filled in again.

* `Board.get_fillFrom`: what filling puts into a register;
* `Machine.peek_after`: a block that no instruction writes keeps its bytes;
* `Machine.Faces.stores`, `Machine.Faces.fills`: the two steps;
* `Machine.restores_registers`: a store, any run that spares the block, and a fill.
-/

namespace Hexscope

namespace Byte

/-- The digits of a byte. -/
theorem digits_eq (b : UInt8) :
    100 * (ofInt (b.toNat / 100 : Nat)).toNat + 10 * (ofInt (b.toNat / 10 % 10 : Nat)).toNat +
      (ofInt (b.toNat % 10 : Nat)).toNat = b.toNat ∧
    (ofInt (b.toNat / 100 : Nat)).toNat ≤ 9 ∧ (ofInt (b.toNat / 10 % 10 : Nat)).toNat ≤ 9 ∧
      (ofInt (b.toNat % 10 : Nat)).toNat ≤ 9 := by
  have := b.toNat_lt
  simp only [toNat_ofInt]
  omega

end Byte

/-! ## Filling -/

theorem Register.mem_upTo {r x : Register} : r ∈ x.upTo ↔ r ≤ x := by
  simp [upTo]

theorem Register.getElem?_upTo {r x : Register} (h : r ≤ x) : x.upTo[r.val]? = some r := by
  revert r x
  decide

theorem Register.nodup_upTo (x : Register) : x.upTo.Nodup :=
  (List.nodup_finRange 16).filter _

namespace Board

variable {b b' : Board} {a : Int} {xs : List Register} {r : Register}

/-- Filling leaves the other registers alone. -/
theorem get_fillFrom_of_not_mem (h : r ∉ xs) : (b.fillFrom a xs).1.state.v.get r = b.state.v.get r := by
  induction xs generalizing b a with
  | nil => rfl
  | cons x xs ih =>
    simp only [List.mem_cons, not_or] at h
    obtain ⟨other, h⟩ := h
    simp only [fillFrom]
    cases b.bus.read a with
    | error e => rfl
    | ok p =>
      obtain ⟨d, bus⟩ := p
      refine (ih h).trans ?_
      exact (RegisterFile.get_set ..).trans (if_neg (Ne.symm other))

/-- Filling puts the bytes at consecutive addresses into the registers, in order. -/
theorem get_fillFrom (nodup : xs.Nodup) (h : b.fillFrom a xs = (b', none)) {k : Nat}
    (hr : xs[k]? = some r) : b.bus.peek (a + k) = .ok (b'.state.v.get r) := by
  induction xs generalizing b a k with
  | nil => cases hr
  | cons x xs ih =>
    obtain ⟨fresh, nodup⟩ := List.nodup_cons.mp nodup
    simp only [fillFrom] at h
    cases read : b.bus.read a with
    | error e => rw [read] at h; cases h
    | ok p =>
      obtain ⟨d, bus⟩ := p
      rw [read] at h
      dsimp only at h
      cases k with
      | zero =>
        cases hr
        have kept := get_fillFrom_of_not_mem (b := { b with bus, state := b.state.setV r d })
          (a := a + 1) fresh
        rw [h] at kept
        rw [show b'.state.v.get r = d from kept.trans (RegisterFile.get_set_self ..),
          Int.natCast_zero, Int.add_zero]
        exact (Bus.peek_of_read read).1
      | succ k =>
        have rest := ih nodup h hr
        rw [show Bus.peek bus = b.bus.peek from (Bus.logs_read read).2] at rest
        rw [Int.natCast_succ, Int.add_comm (k : Int) 1, ← Int.add_assoc]
        exact rest

end Board

namespace Cpu

variable {c d : Cpu} {r : Register}

/-! What follows on a cycle changes no memory, and at most a register that waits for a key. -/

theorem Follows.peek (h : c.Follows d) : d.bus.peek = c.bus.peek := by
  cases h with
  | rests rests => exact congrArg (·.bus.peek) rests.core
  | @served k rests =>
    have same : d.bus.peek = (c.deliver k).bus.peek := congrArg (·.bus.peek) rests.core
    rw [same, bus_deliver]

theorem Follows.index (h : c.Follows d) : d.state.i = c.state.i := by
  cases h with
  | rests rests => exact congrArg (·.state.i) rests.core
  | @served k rests =>
    have same : d.state.i = (c.deliver k).state.i := congrArg (·.state.i) rests.core
    rw [same]
    unfold deliver
    split <;> rfl

theorem Follows.get (h : c.Follows d) (free : r ∉ c.state.keyWait) :
    d.state.v.get r = c.state.v.get r := by
  cases h with
  | rests rests => exact congrArg (·.get r) rests.v
  | @served k rests =>
    rw [rests.v]
    unfold deliver
    split
    · rename_i x waits
      have other : x ≠ r := by
        rintro rfl
        exact free waits
      exact (RegisterFile.get_set ..).trans (if_neg other)
    · rfl

end Cpu

namespace Machine

variable {m n : Machine} {a : Action} {as : List Action} {k : Nat} {x r : Register} {first last y : Int}

/-- The addresses that an action writes. -/
def writes (m : Machine) (a : Action) : List Int :=
  if m.begins a then Bus.written m.cpu.cycle.1.bus.log else []

/-- Whether no instruction of a run writes an address of a block, and no memory is blanked. -/
def spares (m : Machine) (first last : Int) : List Action → Bool
  | [] => true
  | a :: as => !m.restarts a && (m.writes a).all (fun y => y < first || last < y) &&
      (m.act a).spares first last as

/-- What an action does not write stays as it is. -/
theorem peek_act (plain : m.cpu.bus.Plain) (kept : m.restarts a = false) (free : y ∉ m.writes a) :
    (m.act a).cpu.bus.peek y = m.cpu.bus.peek y := by
  have follows := follows_act kept
  unfold writes at free
  split at follows
  · rename_i begins
    rw [if_pos begins] at free
    exact (congrFun follows.peek y).trans (Cpu.peek_cycle plain free)
  · exact congrFun follows.peek y

/-- A block that no instruction writes keeps its bytes. -/
theorem peek_after (within : m.cpu.Within .standard) (spares : m.spares first last as = true)
    (hy : first ≤ y ∧ y ≤ last) : (m.after as).cpu.bus.peek y = m.cpu.bus.peek y := by
  induction as generalizing m with
  | nil => rfl
  | cons a as ih =>
    simp only [Machine.spares, Bool.and_eq_true, Bool.not_eq_true', List.all_eq_true, Bool.or_eq_true,
      decide_eq_true_eq] at spares
    obtain ⟨⟨kept, free⟩, spares⟩ := spares
    have plain := Bus.plain_standard.of_layout within.layout
    have unwritten : y ∉ m.writes a := fun here => by
      have := free y here
      omega
    exact (ih (law_act (Cpu.within_law .standard) within a) spares).trans (peek_act plain kept unwritten)

/-- A thread that moves begins with an opcode. -/
structure Faces (m : Machine) (k : Nat) (w : Opcode) : Prop where
  begins : m.begins (.move k) = true
  here : m.cpu.bus.peekOpcode m.cpu.state.pc = .ok w

namespace Faces

variable {w : Opcode} {i : Instruction}

/-- An instruction that nothing stops is executed. -/
theorem executes (faces : m.Faces k w) (within : m.cpu.Within .standard) (nonzero : w ≠ 0)
    (decoded : Instruction.decode? w = some i) (free : i.refusal? m.cpu.state.toRegisters = none) :
    (m.executed? (.move k)).isSome ∧ m.cpu.cycle.1.Follows (m.act (.move k)).cpu ∧
      ∃ v o bus, v.opcode = w ∧ bus.peek = m.cpu.bus.peek ∧ m.cpu.cycle.2 = .done v o ∧
        i.effect m.cpu.keypad (m.cpu.ready bus) = (m.cpu.cycle.1.toBoard, none) := by
  obtain ⟨v, o, bus, b, same, memory, done, effect, cycle⟩ :=
    Cpu.cycle_of_decoded within faces.here nonzero decoded free
  have follows := follows_act (m := m) (a := .move k) rfl
  rw [if_pos faces.begins] at follows
  refine ⟨?_, follows, v, o, bus, same, memory, done, by rw [effect, cycle]⟩
  rw [executed?, if_pos faces.begins, done]
  rfl

/-- A step that writes values from the index on changes nothing else in memory, and not the index. -/
theorem stores (faces : m.Faces k w) (within : m.cpu.Within .standard) (nonzero : w ≠ 0)
    (decoded : Instruction.decode? w = some i) (free : i.refusal? m.cpu.state.toRegisters = none)
    {ds : List Int} (records : ∀ memory, i.records memory m.cpu.state = Bus.writes m.cpu.state.i ds)
    (still : ∀ keys b, (i.effect keys b).1.state = b.state) :
    (m.executed? (.move k)).isSome ∧ (m.act (.move k)).cpu.state.i = m.cpu.state.i ∧
      (m.act (.move k)).cpu.bus.peek =
        Bus.replay m.cpu.bus.peek (Bus.writes m.cpu.state.i ds) := by
  obtain ⟨executed, follows, v, o, bus, rfl, -, done, effect⟩ :=
    faces.executes within nonzero decoded free
  obtain ⟨j, found, -, logs⟩ := Cpu.logs_cycle (Bus.plain_standard.of_layout within.layout) done
  cases decoded.symm.trans found
  have same : m.cpu.cycle.1.state = (m.cpu.ready bus).state := by
    rw [← still m.cpu.keypad (m.cpu.ready bus), effect]
  have memory : m.cpu.cycle.1.bus.peek = _ := logs.memory
  rw [records, Bus.replay_append] at memory
  refine ⟨executed, ?_, ?_⟩
  · rw [follows.index, same]
    rfl
  · rw [follows.peek, memory]
    exact congrArg (Bus.replay · _) (Bus.replay_reads m.cpu.bus.peek _)

/-- A step that fills registers takes their bytes from the block at the index, and leaves the other
registers and the index alone. A register that waits for a key of another thread is up to that. -/
theorem fills (faces : m.Faces k (.ofDigits 0xF x 0x6 0x5)) (within : m.cpu.Within .standard)
    (inside : m.cpu.state.i + x.val ≤ 0xFFF) :
    (m.executed? (.move k)).isSome ∧ (m.act (.move k)).cpu.state.i = m.cpu.state.i ∧
      ∀ r ∉ m.cpu.state.keyWait,
        if r ≤ x then
          m.cpu.bus.peek (m.cpu.state.i + r.val) = .ok ((m.act (.move k)).cpu.state.v.get r)
        else (m.act (.move k)).cpu.state.v.get r = m.cpu.state.v.get r := by
  have free : (Instruction.fill x).refusal? m.cpu.state.toRegisters = none :=
    if_neg (Int.not_lt.mpr inside)
  obtain ⟨executed, follows, v, o, bus, -, memory, -, effect⟩ := faces.executes within
    (Opcode.ofDigits_ne_zero _ _ _) (Instruction.decode?_ofDigits x 0x6 0x5) free
  have filled : (m.cpu.ready bus).fillFrom m.cpu.state.i x.upTo = (m.cpu.cycle.1.toBoard, none) := effect
  have kept (P : Board → Prop)
      (hP : ∀ (b : Board) (d : UInt8) (bus : Bus) (x : Register), P b →
        P { b with bus, state := b.state.setV x d }) (h : P (m.cpu.ready bus)) :
      P m.cpu.cycle.1.toBoard := by
    have after := Board.keep_fillFrom (fun b _ d bus x _ => hP b d bus x) h m.cpu.state.i x.upTo
    rw [filled] at after
    exact after
  have index : m.cpu.cycle.1.state.i = m.cpu.state.i :=
    kept (fun b => b.state.i = m.cpu.state.i) (fun _ _ _ _ h => h) rfl
  have keyWait : m.cpu.cycle.1.state.keyWait = m.cpu.state.keyWait :=
    kept (fun b => b.state.keyWait = m.cpu.state.keyWait) (fun _ _ _ _ h => h) rfl
  refine ⟨executed, follows.index.trans index, fun r waits => ?_⟩
  rw [follows.get (keyWait ▸ waits)]
  split
  · rename_i low
    rw [← memory]
    exact Board.get_fillFrom (Register.nodup_upTo x) filled (Register.getElem?_upTo low)
  · rename_i high
    have other := Board.get_fillFrom_of_not_mem (b := m.cpu.ready bus) (a := m.cpu.state.i)
      (fun here => high (Register.mem_upTo.mp here))
    rw [filled] at other
    exact other

end Faces

/-- What a block holds when it is stored is filled in again after a run that spares it. -/
theorem fills_after (within : m.cpu.Within .standard) {between : List Action}
    (spares : m.spares first last between = true) (hn : n = m.after between)
    (faces : n.Faces k (.ofDigits 0xF x 0x6 0x5)) (index : n.cpu.state.i = first)
    (top : first + x.val = last) (inside : last ≤ 0xFFF) :
    (n.executed? (.move k)).isSome ∧ (n.act (.move k)).cpu.state.i = first ∧
      ∀ r ∉ n.cpu.state.keyWait,
        if r ≤ x then
          m.cpu.bus.peek (first + r.val) = .ok ((n.act (.move k)).cpu.state.v.get r)
        else (n.act (.move k)).cpu.state.v.get r = n.cpu.state.v.get r := by
  subst hn
  have later := law_after (Cpu.within_law .standard) within between
  obtain ⟨executed, still, get⟩ := faces.fills later (by omega)
  refine ⟨executed, still.trans index, fun r waits => ?_⟩
  have got := get r waits
  split at got
  · rename_i low
    rw [if_pos low, ← got, index]
    refine (peek_after within spares ⟨?_, ?_⟩).symm
    · omega
    · have : r.val ≤ x.val := low
      omega
  · rename_i high
    rw [if_neg high]
    exact got

/-- Values that are stored are filled in again after a run that spares them. -/
theorem Faces.restores {w : Opcode} {i : Instruction} (faces : m.Faces k w)
    (within : m.cpu.Within .standard) (nonzero : w ≠ 0) (decoded : Instruction.decode? w = some i)
    (free : i.refusal? m.cpu.state.toRegisters = none) {ds : List Int}
    (records : ∀ memory, i.records memory m.cpu.state = Bus.writes m.cpu.state.i ds)
    (still : ∀ keys b, (i.effect keys b).1.state = b.state) (length : ds.length = x.val + 1)
    (inside : m.cpu.state.i + x.val ≤ 0xFFF) :
    (m.executed? (.move k)).isSome ∧ (m.act (.move k)).cpu.state.i = m.cpu.state.i ∧
      (∀ y, y < m.cpu.state.i ∨ m.cpu.state.i + x.val < y →
        (m.act (.move k)).cpu.bus.peek y = m.cpu.bus.peek y) ∧
      ∀ between j n, (m.act (.move k)).spares m.cpu.state.i (m.cpu.state.i + x.val) between = true →
        n = (m.act (.move k)).after between → n.Faces j (.ofDigits 0xF x 0x6 0x5) →
        n.cpu.state.i = m.cpu.state.i →
        (n.executed? (.move j)).isSome ∧ (n.act (.move j)).cpu.state.i = m.cpu.state.i ∧
        ∀ r ∉ n.cpu.state.keyWait,
          if r ≤ x then ∀ d, ds[r.val]? = some d → (n.act (.move j)).cpu.state.v.get r = Byte.ofInt d
          else (n.act (.move j)).cpu.state.v.get r = n.cpu.state.v.get r := by
  obtain ⟨executed, index, memory⟩ := faces.stores within nonzero decoded free records still
  have later : (m.act (.move k)).cpu.Within .standard := law_act (Cpu.within_law .standard) within _
  refine ⟨executed, index, fun y outside => ?_, fun between j n spares hn faces back => ?_⟩
  · rw [memory]
    refine Instruction.replay_writes_of_outside ?_
    rw [length]
    omega
  · obtain ⟨executed, still, get⟩ := fills_after later spares hn faces back rfl inside
    refine ⟨executed, still, fun r waits => ?_⟩
    have got := get r waits
    split at got
    · rename_i low
      rw [if_pos low]
      intro d hd
      rw [memory, Bus.replay_writes hd] at got
      exact (Except.ok.inj got).symm
    · rename_i high
      rw [if_neg high]
      exact got

/-- A step that stores registers or digits at the index, a run on any threads that blanks nothing and writes
no byte of what was stored, and a step that fills registers from the same index. If the block lies in memory,
both steps are executed and leave the index alone, and the first one changes no byte outside the block. The
registers that were stored come back, and the others are what they were before the last step. Of a byte whose
digits were stored, V0, V1 and V2 are the decimal digits. A register for which another thread waits for a key is
up to that key. -/
theorem restores_registers (within : m.cpu.Within .standard) :
    (∀ k (x : Register), m.Faces k (.ofDigits 0xF x 0x5 0x5) → m.cpu.state.i + x.val ≤ 0xFFF →
      let first := m.cpu.state.i
      let last := m.cpu.state.i + x.val
      let stored := m.act (.move k)
      (m.executed? (.move k)).isSome ∧ stored.cpu.state.i = first ∧
      (∀ y, y < first ∨ last < y → stored.cpu.bus.peek y = m.cpu.bus.peek y) ∧
      ∀ between j n, stored.spares first last between = true → n = stored.after between →
        n.Faces j (.ofDigits 0xF x 0x6 0x5) → n.cpu.state.i = first →
        (n.executed? (.move j)).isSome ∧ (n.act (.move j)).cpu.state.i = first ∧
        ∀ r ∉ n.cpu.state.keyWait, (n.act (.move j)).cpu.state.v.get r =
          (if r ≤ x then m else n).cpu.state.v.get r) ∧
    ∀ k (x : Register), m.Faces k (.ofDigits 0xF x 0x3 0x3) → m.cpu.state.i + 2 ≤ 0xFFF →
      let first := m.cpu.state.i
      let stored := m.act (.move k)
      (m.executed? (.move k)).isSome ∧ stored.cpu.state.i = first ∧
      (∀ y, y < first ∨ first + 2 < y → stored.cpu.bus.peek y = m.cpu.bus.peek y) ∧
      ∀ between j n, stored.spares first (first + 2) between = true → n = stored.after between →
        n.Faces j (.ofDigits 0xF 0x2 0x6 0x5) → n.cpu.state.i = first →
        (∀ r ≤ 2, r ∉ n.cpu.state.keyWait) →
        let digit (r : Register) := ((n.act (.move j)).cpu.state.v.get r).toNat
        (n.executed? (.move j)).isSome ∧
        100 * digit 0 + 10 * digit 1 + digit 2 = (m.cpu.state.v.get x).toNat ∧
        digit 0 ≤ 9 ∧ digit 1 ≤ 9 ∧ digit 2 ≤ 9 := by
  refine ⟨fun k x faces inside => ?_, fun k x faces inside => ?_⟩
  · have length : (x.upTo.map fun r : Register => ((m.cpu.state.v.get r).toNat : Int)).length = x.val + 1 := by
      rw [List.length_map, Register.length_upTo]
    obtain ⟨executed, index, memory, restores⟩ := faces.restores within (Opcode.ofDigits_ne_zero _ _ _)
      (Instruction.decode?_ofDigits x 0x5 0x5) (if_neg (Int.not_lt.mpr inside)) (fun _ => rfl) (fun _ _ => rfl)
      length inside
    refine ⟨executed, index, memory, fun between j n spares hn faces back => ?_⟩
    obtain ⟨executed, still, get⟩ := restores between j n spares hn faces back
    refine ⟨executed, still, fun r waits => ?_⟩
    have got := get r waits
    split at got
    · rename_i low
      rw [if_pos low, ← Byte.ofInt_toNat (m.cpu.state.v.get r)]
      refine got _ ?_
      rw [List.getElem?_map, Register.getElem?_upTo low, Option.map_some]
    · rename_i high
      rw [if_neg high]
      exact got
  · have length : (decimalDigits (m.cpu.state.v.get x)).length = (2 : Register).val + 1 := rfl
    obtain ⟨executed, index, memory, restores⟩ := faces.restores within (Opcode.ofDigits_ne_zero _ _ _)
      (Instruction.decode?_ofDigits x 0x3 0x3) (if_neg (Int.not_lt.mpr inside)) (fun _ => rfl) (fun _ _ => rfl)
      length inside
    refine ⟨executed, index, memory, fun between j n spares hn faces back waits => ?_⟩
    obtain ⟨executed, -, get⟩ := restores between j n spares hn faces back
    have digit {r : Register} {d : Int} (low : r ≤ 2)
        (hd : (decimalDigits (m.cpu.state.v.get x))[r.val]? = some d) :
        (n.act (.move j)).cpu.state.v.get r = Byte.ofInt d := by
      have got := get r (waits r low)
      rw [if_pos low] at got
      exact got d hd
    have first := digit (r := 0) (by decide) rfl
    have second := digit (r := 1) (by decide) rfl
    have third := digit (r := 2) (by decide) rfl
    dsimp only
    rw [first, second, third]
    exact ⟨executed, Byte.digits_eq (m.cpu.state.v.get x)⟩

/-- A machine that is about to store two registers, to change one of them, and to fill them in again. -/
def aboutToStore : Machine :=
  (default : Machine).after [.load [0x61, 0xEA, 0xF1, 0x55, 0x61, 0x09, 0xF1, 0x65, 0xF1, 0x33, 0xF2, 0x65],
    .step 6, .move 0]

/-- The machine after that. It is about to store the digits of the other one, and to fill them in. -/
def aboutToSplit : Machine := aboutToStore.after [.move 0, .move 0, .move 0]

/-- The number 234 comes back, and falls into its digits. -/
theorem restores_aboutToStore :
    (((aboutToStore.act (.move 0)).after [.move 0]).act (.move 0)).cpu.state.v.get 1 = 234 ∧
    let v := ((aboutToSplit.act (.move 0)).act (.move 0)).cpu.state.v
    100 * (v.get 0).toNat + 10 * (v.get 1).toNat + (v.get 2).toNat = 234 := by
  have assembled : assemble (.assemble .standard default none default Rom.standardLimit)
      standardCpuHz standardTimerHz Debugger.standardLimit = .ok default := rfl
  have block : aboutToStore.begins (.move 0) = true ∧
      aboutToStore.cpu.bus.peekOpcode aboutToStore.cpu.state.pc = .ok (.ofDigits 0xF 1 0x5 0x5) ∧
      aboutToStore.cpu.state.i = 0 ∧ aboutToStore.cpu.state.v.get 1 = 234 ∧
      let stored := aboutToStore.act (.move 0)
      let n := stored.after [.move 0]
      stored.spares 0 1 [.move 0] = true ∧ n.begins (.move 0) = true ∧
        n.cpu.bus.peekOpcode n.cpu.state.pc = .ok (.ofDigits 0xF 1 0x6 0x5) ∧
        n.cpu.state.i = 0 ∧ n.cpu.state.keyWait = none := by
    decide +kernel
  have decimal : aboutToSplit.begins (.move 0) = true ∧
      aboutToSplit.cpu.bus.peekOpcode aboutToSplit.cpu.state.pc = .ok (.ofDigits 0xF 1 0x3 0x3) ∧
      aboutToSplit.cpu.state.i = 0 ∧ (aboutToSplit.cpu.state.v.get 1).toNat = 234 ∧
      let n := aboutToSplit.act (.move 0)
      n.begins (.move 0) = true ∧
        n.cpu.bus.peekOpcode n.cpu.state.pc = .ok (.ofDigits 0xF 2 0x6 0x5) ∧
        n.cpu.state.i = 0 ∧ n.cpu.state.keyWait = none := by
    decide +kernel
  have within : aboutToStore.cpu.Within .standard := within_after assembled _
  constructor
  · obtain ⟨begins, here, index, value, spares, begins', here', index', free⟩ := block
    obtain ⟨-, -, -, restores⟩ :=
      (restores_registers within).1 0 1 ⟨begins, here⟩ (by rw [index]; decide)
    rw [index] at restores
    obtain ⟨-, -, get⟩ := restores [.move 0] 0 _ spares rfl ⟨begins', here'⟩ index'
    rw [get 1 (by rw [free]; exact nofun), if_pos (by decide), value]
  · obtain ⟨begins, here, index, value, begins', here', index', free⟩ := decimal
    have within : aboutToSplit.cpu.Within .standard := law_after (Cpu.within_law .standard) within _
    obtain ⟨-, -, -, restores⟩ :=
      (restores_registers within).2 0 1 ⟨begins, here⟩ (by rw [index]; decide)
    rw [index] at restores
    have waits (r : Register) : r ∉ (aboutToSplit.act (.move 0)).cpu.state.keyWait := by
      rw [free]
      exact nofun
    obtain ⟨-, sum, -⟩ := restores [] 0 (aboutToSplit.act (.move 0)) rfl rfl ⟨begins', here'⟩ index'
      fun r _ => waits r
    rw [value] at sum
    exact sum

end Machine

end Hexscope
