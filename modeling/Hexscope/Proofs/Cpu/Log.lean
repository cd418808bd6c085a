import Hexscope.Proofs.Bus.Log
import Hexscope.Proofs.Cpu.Cycle

/-!
# What a cycle records

A cycle drops the old records first, and its fetch looks at the opcode behind without a record. So
after a cycle that executed an instruction, the access log holds the two reads of the opcode and what
the instruction itself reads and writes (`Instruction.records`), and nothing else.

* `logs_effect`: the records of an instruction that is not stopped;
* `Cpu.logs_cycle`: the records of a cycle that executed an instruction.
-/

namespace Hexscope

/-- The records of an instruction, in order. Every row of a sprite is read, also one that lies below
the bottom of the screen. -/
def Instruction.records (memory : Bus.Memory) (s : State) : Instruction → List Access
  | .draw _ _ n => Bus.reads memory (Bus.addresses s.i n)
  | .decimal x => Bus.writes s.i (decimalDigits (s.v.get x))
  | .store x => Bus.writes s.i (x.upTo.map fun r => ((s.v.get r).toNat : Int))
  | .fill x => Bus.reads memory (Bus.addresses s.i (x.val + 1))
  | _ => []

namespace Board

variable {b b' : Board}

theorem logs_storeAll (plain : b.bus.Plain) {ds : List Int} (bytes : ∀ d ∈ ds, 0 ≤ d ∧ d ≤ 255)
    (h : b.storeAll ds = (b', none)) : b.bus.Logs b'.bus (Bus.writes b.state.i ds) := by
  simp only [storeAll] at h
  rcases hw : b.bus.writeAll b.state.i ds with ⟨bus, _ | e⟩
  · rw [hw] at h
    cases h
    exact plain.logs_writeAll bytes hw
  · rw [hw] at h
    cases h

theorem logs_fillFrom {a : Int} {xs : List Register} (h : b.fillFrom a xs = (b', none)) :
    b.bus.Logs b'.bus (Bus.reads b.bus.peek (Bus.addresses a xs.length)) := by
  induction xs generalizing b a with
  | nil =>
    cases h
    exact .refl _
  | cons x xs ih =>
    simp only [fillFrom] at h
    cases hr : b.bus.read a with
    | error e => rw [hr] at h; cases h
    | ok r =>
      obtain ⟨d, bus⟩ := r
      rw [hr] at h
      obtain ⟨first, same⟩ := Bus.logs_read hr
      have rest := ih h
      rw [show Bus.peek bus = b.bus.peek from same] at rest
      rw [List.length_cons, Bus.addresses_succ]
      exact first.trans rest

theorem logs_drawRows {x y : Nat} {hit met : Bool} {rs : List Nat}
    (h : b.drawRows x y hit rs = (b', .ok met)) :
    b.bus.Logs b'.bus (Bus.reads b.bus.peek (rs.map fun r : Nat => b.state.i + (r : Int))) := by
  induction rs generalizing b hit with
  | nil =>
    cases h
    exact .refl _
  | cons r rs ih =>
    simp only [drawRows] at h
    cases hr : b.bus.read (b.state.i + r) with
    | error e => rw [hr] at h; cases h
    | ok p =>
      obtain ⟨d, bus⟩ := p
      rw [hr] at h
      obtain ⟨first, same⟩ := Bus.logs_read hr
      have rest := ih h
      rw [show Bus.peek bus = b.bus.peek from same] at rest
      exact first.trans rest

theorem logs_draw {x y : UInt8} {n : Nat} (h : b.draw x y n = (b', none)) :
    b.bus.Logs b'.bus (Bus.reads b.bus.peek (Bus.addresses b.state.i n)) := by
  unfold draw at h
  rcases hd : b.drawRows (x.toNat % Screen.width) (y.toNat % Screen.height) false (List.range n)
    with ⟨d, e | hit⟩
  · rw [hd] at h
    cases h
  · rw [hd] at h
    cases h
    have rows := logs_drawRows hd
    exact rows

end Board

/-- An instruction that is not stopped leaves its records, which account for what it writes. -/
theorem logs_effect {b b' : Board} {i : Instruction} {keys : Keypad} (plain : b.bus.Plain)
    (h : i.effect keys b = (b', none)) :
    b.bus.Logs b'.bus (i.records b.bus.peek b.state) := by
  cases i with
  | draw x y n => exact Board.logs_draw h
  | decimal x => exact Board.logs_storeAll plain (bytes_decimalDigits _) h
  | store x => exact Board.logs_storeAll plain (bytes_values _ _) h
  | fill x =>
    have filled : b.bus.Logs b'.bus (Bus.reads b.bus.peek (Bus.addresses b.state.i x.upTo.length)) :=
      Board.logs_fillFrom h
    rw [Register.length_upTo] at filled
    exact filled
  | ret =>
    simp only [Instruction.effect, Board.ret] at h
    split at h
    · cases h
    · split at h <;> cases h
      exact .refl _
  | call a =>
    simp only [Instruction.effect, Board.call] at h
    split at h
    · cases h
    · split at h <;> cases h
      exact .refl _
  | _ =>
    cases h
    exact .refl _

namespace Bus

/-- A fetch records the reads of an opcode, and only looks at the one behind it. -/
theorem logs_fetch {b b' : Bus} {pc : Int} {w : Fetched} (h : b.fetch pc = (b', .ok w)) :
    b.Logs b' (reads b.peek [pc, pc + 1]) ∧ b'.peek = b.peek ∧ b.peekOpcode pc = .ok w.opcode := by
  obtain ⟨high, low, b₁, hr, hr', -, opcode, -⟩ := fetch_eq_ok h
  obtain ⟨first, same₁⟩ := logs_read hr
  obtain ⟨second, same₂⟩ := logs_read hr'
  rw [same₁] at second
  refine ⟨first.trans second, same₂.trans same₁, ?_⟩
  have byte := (peek_of_read hr).1
  have byte' : b.peek (pc + 1) = .ok low := same₁ ▸ (peek_of_read hr').1
  simp only [peekOpcode, byte, byte', opcode]
  rfl

theorem peekOpcode_congr {b b' : Bus} {a : Int} (high : b'.peek a = b.peek a)
    (low : b'.peek (a + 1) = b.peek (a + 1)) : b'.peekOpcode a = b.peekOpcode a := by
  rw [peekOpcode, high, low, peekOpcode]

/-- What can be known of the opcode at an address: the opcode, if both its bytes lie below the end. -/
def Ahead (b : Bus) (a : Int) (next : Option Opcode) : Prop :=
  if a + 1 < b.size then ∃ w, b.peekOpcode a = .ok w ∧ next = some w else next = none

/-- With an opcode the one behind it is fetched. -/
theorem ahead_of_fetch {b b' : Bus} {pc : Int} {w : Fetched} (h : b.fetch pc = (b', .ok w)) :
    b.Ahead (pc + 2) w.next := by
  obtain ⟨logs, same, -⟩ := logs_fetch h
  obtain ⟨_, _, _, _, _, -, -, next⟩ := fetch_eq_ok h
  rw [size_of_layout logs.layout, peekOpcode_congr (congrFun same _) (congrFun same _)] at next
  have behind : pc + 2 + 1 = pc + 3 := by omega
  rw [Ahead, behind]
  exact next

end Bus

namespace Cpu

variable {c : Cpu} {w : Fetched} {o : Operation}

/-- The records of a cycle that executed an instruction: the opcode at the program counter was read,
and what the instruction says. The old records are gone. -/
theorem logs_cycle (plain : c.bus.Plain) (h : c.cycle.2 = .done w o) :
    ∃ i, Instruction.decode? w.opcode = some i ∧
      c.bus.peekOpcode c.state.pc = .ok w.opcode ∧
      c.bus.dropLog.Logs c.cycle.1.bus
        (Bus.reads c.bus.peek [c.state.pc, c.state.pc + 1] ++ i.records c.bus.peek c.state) := by
  have ends := ends_cycle c
  rw [h] at ends
  generalize c.cycle.1 = d at ends
  cases ends with
  | @done bus w i b _ hf _ hi he =>
    obtain ⟨opcode, same, here⟩ := Bus.logs_fetch hf
    have plain' : bus.Plain := plain.of_layout (layout_fetched hf)
    have after := logs_effect (b := c.ready bus) plain' he
    have records : i.records (c.ready bus).bus.peek (c.ready bus).state =
        i.records c.bus.peek c.state := by
      rw [show (c.ready bus).bus.peek = c.bus.peek from same]
      cases i <;> rfl
    rw [records] at after
    exact ⟨i, hi, here, opcode.trans after⟩

end Cpu

end Hexscope
