import Hexscope.Proofs.Instruction.Form
import Mathlib.Logic.Function.Basic

/-!
# Flag arithmetic

The sums, differences and shifts of two registers write a flag and a result, and either may be written over
an operand. The sum takes both operands before anything is written (`summed`). The others write the flag
first and take their operands from registers in which it stands already (`flagged`).

* `Opcode.computes_flagged`: what an instruction computes that writes the flag first;
* `Opcode.effect_flagArithmetic`: what the five opcodes make of the registers, whichever they name, and how
  flag and result belong together if neither operand is the flag.
-/

namespace Hexscope

open Function (update)

namespace Byte

theorem toInt_add (a b : UInt8) : toInt (a + b) = (toInt a + toInt b) % 256 := by
  simp only [toInt, UInt8.toNat_add]
  omega

theorem toInt_sub (a b : UInt8) : toInt (a - b) = (toInt a - toInt b) % 256 := by
  have := b.toNat_lt
  simp only [toInt, UInt8.toNat_sub]
  omega

theorem toInt_lowest (a : UInt8) : toInt (a &&& 1) = toInt a % 2 := by
  have one : (1 : UInt8).toNat = 1 := rfl
  simp only [toInt, UInt8.toNat_and, one, Nat.and_one_is_mod]
  omega

theorem toInt_half (a : UInt8) : toInt (a >>> 1) = toInt a / 2 := by
  have one : (1 : UInt8).toNat % 8 = 1 := rfl
  simp only [toInt, UInt8.toNat_shiftRight, one, Nat.shiftRight_eq_div_pow]
  omega

theorem toInt_highest (a : UInt8) : toInt (a >>> 7) = toInt a / 128 := by
  have seven : (7 : UInt8).toNat % 8 = 7 := rfl
  simp only [toInt, UInt8.toNat_shiftRight, seven, Nat.shiftRight_eq_div_pow]
  omega

theorem toInt_double (a : UInt8) : toInt (a <<< 1) = 2 * toInt a % 256 := by
  have one : (1 : UInt8).toNat % 8 = 1 := rfl
  simp only [toInt, UInt8.toNat_shiftLeft, one, Nat.shiftLeft_eq]
  omega

theorem lt_iff_toInt (a b : UInt8) : a < b ↔ toInt a < toInt b := by
  simp only [toInt, UInt8.lt_iff_toNat_lt]
  omega

theorem toInt_ite (p : Prop) [Decidable p] :
    toInt (if decide p then 1 else 0) = if p then 1 else 0 := by
  by_cases h : p <;> simp [h, toInt]

end Byte

/-- The registers as numbers. -/
def RegisterFile.numbers (f : RegisterFile) : Register → Int := fun r => Byte.toInt (f.get r)

theorem RegisterFile.numbers_set (f : RegisterFile) (x : Register) (b : UInt8) :
    (f.set x b).numbers = update f.numbers x (Byte.toInt b) := by
  funext r
  rw [numbers, get_set, Function.update_apply, numbers]
  simp only [eq_comm (a := x)]
  split <;> rfl

/-- The registers after a sum. Both operands are taken from the registers as they were. -/
def summed (x y : Register) (V : Register → Int) : Register → Int :=
  update (update V State.flag (if 255 < V x + V y then 1 else 0)) x ((V x + V y) % 256)

/-- The registers after the flag has been written and then a result, which is computed from the registers
with the flag in them. -/
def flagged (x : Register) (flag result : (Register → Int) → Int) (V : Register → Int) :
    Register → Int :=
  let W := update V State.flag (flag V)
  update W x (result W)

section

variable {x y : Register} {V : Register → Int} {flag result : (Register → Int) → Int}

theorem summed_self : summed x y V x = (V x + V y) % 256 := Function.update_self ..

theorem summed_flag (hx : x ≠ State.flag) :
    summed x y V State.flag = if 255 < V x + V y then 1 else 0 := by
  rw [summed, Function.update_of_ne hx.symm, Function.update_self]

theorem summed_other (hx : y ≠ x) (hy : y ≠ State.flag) : summed x y V y = V y := by
  rw [summed, Function.update_of_ne hx, Function.update_of_ne hy]

theorem flagged_self : flagged x flag result V x = result (update V State.flag (flag V)) :=
  Function.update_self ..

theorem flagged_flag (hx : x ≠ State.flag) : flagged x flag result V State.flag = flag V := by
  rw [flagged, Function.update_of_ne hx.symm, Function.update_self]

end

namespace Opcode

/-- An opcode is carried out on every board and changes nothing but the registers. A function tells what
it makes of their numbers. -/
def Computes (w : Opcode) (f : (Register → Int) → Register → Int) : Prop :=
  ∀ pc keys (b : Board), ∃ v : RegisterFile, v.numbers = f b.state.v.numbers ∧
    w.effect pc keys b = (b.withState { b.state with v }, none)

variable {w : Opcode} {i : Instruction}

/-- What an instruction computes that writes the flag first and then a register. -/
theorem computes_flagged {x : Register} {f g : RegisterFile → UInt8}
    {flag result : (Register → Int) → Int} (decoded : Instruction.decode? w = some i)
    (effect : ∀ keys (b : Board), i.effect keys b =
      (b.withState ((b.state.setV State.flag (f b.state.v)).setV x
        (g (b.state.setV State.flag (f b.state.v)).v)), none))
    (flags : ∀ v, Byte.toInt (f v) = flag v.numbers)
    (results : ∀ v, Byte.toInt (g v) = result v.numbers) :
    w.Computes (flagged x flag result) := by
  intro pc keys b
  refine ⟨_, ?_, effect_of_done decoded (effect keys b) pc⟩
  simp only [State.setV, RegisterFile.numbers_set, results, flags, flagged]

section

variable (x y : Register)

theorem computes_sum : (ofDigits 0x8 x y 0x4).Computes (summed x y) := by
  have decoded : Instruction.decode? (ofDigits 0x8 x y 0x4) = some (.add x y) :=
    Instruction.decode?_ofDigits_registers x y _
  intro pc keys b
  refine ⟨_, ?_, effect_of_done decoded rfl pc⟩
  have carry : 255 < Byte.wideSum (b.state.v.get x) (b.state.v.get y) ↔
      255 < b.state.v.numbers x + b.state.v.numbers y := by
    simp only [Byte.wideSum, RegisterFile.numbers, Byte.toInt]
    omega
  simp only [State.setV, State.setFlag, RegisterFile.numbers_set, Byte.toInt_ite, Byte.toInt_add, carry, summed]
  rfl

theorem computes_difference : (ofDigits 0x8 x y 0x5).Computes
    (flagged x (fun V => if V y < V x then 1 else 0) fun W => (W x - W y) % 256) := by
  have decoded : Instruction.decode? (ofDigits 0x8 x y 0x5) = some (.sub x y) :=
    Instruction.decode?_ofDigits_registers x y _
  refine computes_flagged decoded (f := fun v => if decide (v.get y < v.get x) then 1 else 0)
    (fun _ _ => rfl) (fun v => ?_) (fun v => Byte.toInt_sub (v.get x) (v.get y))
  rw [Byte.toInt_ite]
  exact if_congr (Byte.lt_iff_toInt (v.get y) (v.get x)) rfl rfl

theorem computes_half : (ofDigits 0x8 x y 0x6).Computes
    (flagged x (fun V => V x % 2) fun W => W x / 2) := by
  have decoded : Instruction.decode? (ofDigits 0x8 x y 0x6) = some (.shiftRight x y) :=
    Instruction.decode?_ofDigits_registers x y _
  exact computes_flagged decoded (fun _ _ => rfl) (fun v => Byte.toInt_lowest (v.get x))
    fun v => Byte.toInt_half (v.get x)

theorem computes_converse : (ofDigits 0x8 x y 0x7).Computes
    (flagged x (fun V => if V x < V y then 1 else 0) fun W => (W y - W x) % 256) := by
  have decoded : Instruction.decode? (ofDigits 0x8 x y 0x7) = some (.subFrom x y) :=
    Instruction.decode?_ofDigits_registers x y _
  refine computes_flagged decoded (f := fun v => if decide (v.get x < v.get y) then 1 else 0)
    (fun _ _ => rfl) (fun v => ?_) (fun v => Byte.toInt_sub (v.get y) (v.get x))
  rw [Byte.toInt_ite]
  exact if_congr (Byte.lt_iff_toInt (v.get x) (v.get y)) rfl rfl

theorem computes_double : (ofDigits 0x8 x y 0xE).Computes
    (flagged x (fun V => V x / 128) fun W => 2 * W x % 256) := by
  have decoded : Instruction.decode? (ofDigits 0x8 x y 0xE) = some (.shiftLeft x y) :=
    Instruction.decode?_ofDigits_registers x y _
  exact computes_flagged decoded (fun _ _ => rfl) (fun v => Byte.toInt_highest (v.get x))
    fun v => Byte.toInt_double (v.get x)

end

theorem Computes.numbers {f : (Register → Int) → Register → Int} (h : w.Computes f) (pc : Int)
    (keys : Keypad) (b : Board) :
    (w.effect pc keys b).1.state.v.numbers = f b.state.v.numbers := by
  obtain ⟨v, same, effect⟩ := h pc keys b
  rw [effect]
  exact same

/-- Each of the five opcodes changes nothing but the registers, whichever registers it names. The sum is that
of the numbers before, and the other results are computed from registers in which the flag stands already.
If neither operand is the flag, flag and result together are the exact sum, the exact double, or what was
halved, the flag of a difference tells which operand was greater, and a difference takes a sum back. -/
theorem effect_flagArithmetic (x y : Register) :
    (ofDigits 0x8 x y 0x4).Computes (summed x y) ∧
    (ofDigits 0x8 x y 0x5).Computes
      (flagged x (fun V => if V y < V x then 1 else 0) fun W => (W x - W y) % 256) ∧
    (ofDigits 0x8 x y 0x6).Computes (flagged x (fun V => V x % 2) fun W => W x / 2) ∧
    (ofDigits 0x8 x y 0x7).Computes
      (flagged x (fun V => if V x < V y then 1 else 0) fun W => (W y - W x) % 256) ∧
    (ofDigits 0x8 x y 0xE).Computes (flagged x (fun V => V x / 128) fun W => 2 * W x % 256) ∧
    (x ≠ State.flag → y ≠ State.flag → ∀ pc keys (b : Board),
      let V := b.state.v.numbers
      let after (o : Fin 16) := ((ofDigits 0x8 x y o).effect pc keys b).1.state.v.numbers
      256 * after 0x4 State.flag + after 0x4 x = V x + V y ∧
      2 * after 0x6 x + after 0x6 State.flag = V x ∧
      256 * after 0xE State.flag + after 0xE x = 2 * V x ∧
      (after 0x5 State.flag = 1 ↔ V y < V x) ∧
      (x ≠ y → ∀ pc' keys' (b' : Board), b'.state.v.numbers = after 0x4 →
        ((ofDigits 0x8 x y 0x5).effect pc' keys' b').1.state.v.get x = b.state.v.get x)) := by
  refine ⟨computes_sum x y, computes_difference x y, computes_half x y, computes_converse x y,
    computes_double x y, fun hx hy pc keys b => ?_⟩
  intro V after
  have byte (r : Register) : 0 ≤ V r ∧ V r < 256 := ⟨Byte.toInt_nonneg _, Byte.toInt_lt _⟩
  have first := byte x
  have second := byte y
  have sum : after 0x4 = summed x y V := (computes_sum x y).numbers pc keys b
  have half : after 0x6 = flagged x _ _ V := (computes_half x y).numbers pc keys b
  have double : after 0xE = flagged x _ _ V := (computes_double x y).numbers pc keys b
  have difference : after 0x5 = flagged x _ _ V := (computes_difference x y).numbers pc keys b
  refine ⟨?_, ?_, ?_, ?_, fun distinct pc' keys' b' same => ?_⟩
  · rw [sum, summed_flag hx, summed_self]
    split <;> omega
  · rw [half, flagged_flag hx, flagged_self, Function.update_of_ne hx]
    omega
  · rw [double, flagged_flag hx, flagged_self, Function.update_of_ne hx]
    omega
  · rw [difference, flagged_flag hx]
    split
    · exact iff_of_true rfl ‹_›
    · exact iff_of_false Int.zero_ne_one ‹_›
  · have restored := congrFun ((computes_difference x y).numbers pc' keys' b') x
    rw [same, sum, flagged_self, Function.update_of_ne hx, Function.update_of_ne hy, summed_self,
      summed_other distinct.symm hy] at restored
    apply UInt8.toNat_inj.mp
    have found : V x = Byte.toInt (b.state.v.get x) := rfl
    simp only [RegisterFile.numbers, Byte.toInt] at restored found
    omega

/-- A board on which two registers have a sum beyond a byte. -/
def summing : Board :=
  { (default : Board) with state := (State.initial.setV 0 200).setV 1 100 }

/-- The sum of 200 and 100 is 300, in flag and register together, and the difference takes it back. -/
theorem flagArithmetic_summing : (0 : Register) ≠ State.flag ∧ (1 : Register) ≠ State.flag ∧
    (0 : Register) ≠ 1 ∧
    let after := ((ofDigits 0x8 0 1 0x4).effect 0x200 default summing).1
    256 * after.state.v.numbers State.flag + after.state.v.numbers 0 = 300 ∧
    ((ofDigits 0x8 0 1 0x5).effect 0x202 default after).1.state.v.get 0 = 200 := by
  have operand : (0 : Register) ≠ State.flag := by decide
  have other : (1 : Register) ≠ State.flag := by decide
  obtain ⟨sum, -, -, -, restored⟩ :=
    (effect_flagArithmetic 0 1).2.2.2.2.2 operand other 0x200 default summing
  exact ⟨operand, other, by decide, sum, restored (by decide) 0x202 default _ rfl⟩

end Opcode

end Hexscope
