import Hexscope.Proofs.Machine.Range
import Hexscope.Proofs.Machine.Step

/-!
# Calls and returns

A call puts the address behind it into the slot at the stack pointer, and a return takes its address
from the slot below. No other instruction touches the slots or the pointer, and neither does a call or
a return that fails (`Cpu.steers_cycle`). So a slot below the pointer stays as it is until a return
brings the pointer back to it (`Machine.Holds`), whatever happens above.

* `Machine.sp_after`: the stack pointer counts the calls and the returns of a run;
* `Machine.returns_match_calls`: the return that ends a subroutine goes behind the call that entered
  it.
-/

namespace Hexscope

/-! ## Opcodes -/

/-- Whether an opcode calls a subroutine: it has the form 2nnn. -/
def Opcode.isCall (w : Opcode) : Bool := w.family == 2

/-- Whether an opcode returns from a subroutine. -/
def Opcode.isReturn (w : Opcode) : Bool := w == 0x00EE

theorem Opcode.isCall_iff {w : Opcode} {i : Instruction} (h : Instruction.decode? w = some i) :
    w.isCall = true ↔ ∃ a, i = .call a := by
  rw [isCall, beq_iff_eq]
  constructor
  · intro family
    simp only [Instruction.decode?, family, Option.some.injEq] at h
    exact ⟨_, h.symm⟩
  · rintro ⟨a, rfl⟩
    unfold Instruction.decode? Instruction.decodeRegisters? Instruction.decodeDevices? at h
    repeat' split at h
    all_goals first | assumption | cases h

theorem Opcode.isReturn_iff {w : Opcode} {i : Instruction} (h : Instruction.decode? w = some i) :
    w.isReturn = true ↔ i = .ret := by
  rw [isReturn, beq_iff_eq]
  constructor
  · rintro rfl
    cases h
    rfl
  · rintro rfl
    unfold Instruction.decode? Instruction.decodeRegisters? Instruction.decodeDevices? at h
    repeat' split at h
    all_goals first | assumption | cases h

theorem Opcode.isReturn_of_isCall {w : Opcode} (h : w.isCall = true) : w.isReturn = false := by
  rw [isReturn, beq_eq_false_iff_ne]
  rintro rfl
  cases h

/-! ## One instruction -/

theorem State.frames_skipIf (s : State) (condition : Bool) :
    (s.skipIf condition).frames = s.frames := by
  unfold skipIf
  split <;> rfl

/-- Only calls and returns touch the call stack. -/
theorem frames_effect {i : Instruction} (call : ∀ a, i ≠ .call a) (ret : i ≠ .ret) (keys : Keypad)
    (b : Board) : (i.effect keys b).1.state.frames = b.state.frames := by
  cases i with
  | call a => exact absurd rfl (call a)
  | ret => exact absurd rfl ret
  | draw x y n =>
    exact Board.keep_draw (P := fun d => d.state.frames = b.state.frames)
      (fun _ _ _ _ _ _ h => h) (fun _ _ h => h) rfl _ _ _
  | fill x =>
    exact Board.keep_fillFrom (P := fun d => d.state.frames = b.state.frames)
      (fun _ _ _ _ _ _ h => h) rfl _ _
  | skipIfByte x n | skipUnlessByte x n | skipIfSame x y | skipUnlessSame x y | skipIfKey x
  | skipUnlessKey x => exact State.frames_skipIf _ _
  | _ => rfl

namespace Cpu

variable {c d e : Cpu} {executed : Option Fetched}

/-- What happens to the call stack while an opcode is executed, or none is. -/
inductive Steers (c d : Cpu) (executed : Option Fetched) : Prop where
  | calls {w : Fetched} : executed = some w → w.opcode.isCall = true →
    c.state.sp < stackDepth → d.state.frames =
      (c.state.sp + 1, c.state.stack.set c.state.sp.toNat (c.state.advance 2).pc) →
    Steers c d executed
  | returns {w : Fetched} : executed = some w → w.opcode.isReturn = true → 0 < c.state.sp →
    d.state.frames = (c.state.sp - 1, c.state.stack) →
    d.state.pc = c.state.stack.getD (c.state.sp - 1).toNat 0 → Steers c d executed
  /-- Another opcode is executed, or none is. -/
  | keeps : (∀ w ∈ executed, w.opcode.isCall = false ∧ w.opcode.isReturn = false) →
    d.state.frames = c.state.frames → Steers c d executed

/-- Only a call or a return that is executed to its end touches the call stack. -/
theorem steers_cycle (hs : c.state.StackSound) : c.Steers c.cycle.1 c.cycle.2.word? := by
  have ends := ends_cycle c
  generalize c.cycle.1 = d, c.cycle.2 = o at ends
  have sound (bus : Bus) : (c.ready bus).state.StackSound := ⟨hs.length, hs.sp_nonneg, hs.sp_le⟩
  have stopped {bus : Bus} {i : Instruction} {b : Board} {t : Trap}
      (he : i.effect c.keypad (c.ready bus) = (b, some t)) :
      b.state.frames = c.state.frames := by
    by_cases call : ∃ a, i = .call a
    · obtain ⟨a, rfl⟩ := call
      rw [Instruction.effect, Board.call_of_stackSound (sound bus)] at he
      split at he <;> cases he
      rfl
    by_cases ret : i = .ret
    · subst ret
      rw [Instruction.effect, Board.ret_of_stackSound (sound bus)] at he
      split at he <;> cases he
      rfl
    have keep := frames_effect (fun a e => call ⟨a, e⟩) ret c.keypad (c.ready bus)
    rw [he] at keep
    exact keep
  cases ends with
  | outside | unreadable | stopped | unknown => exact .keeps (by rintro _ ⟨⟩) rfl
  | faulted _ _ _ _ he | refused _ _ _ _ he => exact .keeps (by rintro _ ⟨⟩) (stopped he)
  | @done bus w i b _ _ _ hi he =>
    by_cases call : ∃ a, i = .call a
    · have isCall := (Opcode.isCall_iff hi).mpr call
      obtain ⟨a, rfl⟩ := call
      rw [Instruction.effect, Board.call_of_stackSound (sound bus)] at he
      split at he <;> cases he
      rename_i free
      exact .calls rfl isCall (Int.not_le.mp free) rfl
    by_cases ret : i = .ret
    · have isReturn := (Opcode.isReturn_iff hi).mpr ret
      subst ret
      rw [Instruction.effect, Board.ret_of_stackSound (sound bus)] at he
      split at he <;> cases he
      rename_i filled
      exact .returns rfl isReturn (Int.not_le.mp filled) rfl rfl
    · have keep := frames_effect (fun a e => call ⟨a, e⟩) ret c.keypad (c.ready bus)
      rw [he] at keep
      refine .keeps ?_ keep
      rintro _ ⟨⟩
      exact ⟨Bool.eq_false_iff.mpr fun h => call ((Opcode.isCall_iff hi).mp h),
        Bool.eq_false_iff.mpr fun h => ret ((Opcode.isReturn_iff hi).mp h)⟩

theorem Steers.follows (h : c.Steers d executed) (follows : d.Follows e) :
    c.Steers e executed := by
  cases h with
  | calls here isCall free frames => exact .calls here isCall free (follows.frames.trans frames)
  | returns here isReturn filled frames pc =>
    exact .returns here isReturn filled (follows.frames.trans frames) (follows.pc.trans pc)
  | keeps other frames => exact .keeps other (follows.frames.trans frames)

end Cpu

namespace Machine

variable {m : Machine} {a : Action} {k address : Int} {bus : Bus}

/-- What an action does to the call stack, unless it blanks it. -/
theorem steers_act (hs : m.cpu.state.StackSound) (kept : m.restarts a = false) :
    m.cpu.Steers (m.act a).cpu (m.executed? a) := by
  have follows := follows_act kept
  unfold executed?
  split at follows
  · rename_i h
    rw [if_pos h]
    exact (Cpu.steers_cycle hs).follows follows
  · rename_i h
    rw [if_neg h]
    exact .keeps nofun follows.frames

/-! ## Counting -/

/-- The opcodes that a run executes, from the last time on that registers and memory were blanked,
behind those that were executed before the run. -/
def executedSince (m : Machine) (earlier : List Fetched) : List Action → List Fetched
  | [] => earlier
  | a :: as => (m.act a).executedSince
      (if m.restarts a then [] else earlier ++ (m.executed? a).toList) as

/-- How many more calls than returns some opcodes are. -/
def depth (ws : List Fetched) : Int :=
  ws.countP (·.opcode.isCall) - ws.countP (·.opcode.isReturn)

theorem depth_append (ws vs : List Fetched) : depth (ws ++ vs) = depth ws + depth vs := by
  simp only [depth, List.countP_append]
  omega

theorem sp_of_steers {c d : Cpu} {executed : Option Fetched} (h : c.Steers d executed) :
    d.state.sp = c.state.sp + depth executed.toList := by
  cases h with
  | calls here isCall _ frames =>
    obtain ⟨sp, -⟩ := Prod.mk.inj frames
    rw [sp, here]
    simp [depth, isCall, Opcode.isReturn_of_isCall isCall]
  | @returns w here isReturn _ frames _ =>
    obtain ⟨sp, -⟩ := Prod.mk.inj frames
    have isCall : w.opcode.isCall = false := Bool.eq_false_iff.mpr fun isCall => by
      rw [Opcode.isReturn_of_isCall isCall] at isReturn
      cases isReturn
    rw [sp, here]
    simp [depth, isReturn, isCall, Int.sub_eq_add_neg]
  | keeps other frames =>
    obtain ⟨sp, -⟩ := Prod.mk.inj frames
    rw [sp]
    cases executed with
    | none => simp [depth]
    | some w => simp [depth, other w rfl]

/-- The stack pointer counts calls and returns. -/
theorem sp_after (within : m.cpu.Within bus) {earlier : List Fetched}
    (h : m.cpu.state.sp = depth earlier) (as : List Action) :
    (m.after as).cpu.state.sp = depth (m.executedSince earlier as) := by
  induction as generalizing m earlier with
  | nil => exact h
  | cons a as ih =>
    refine ih (law_act (Cpu.within_law bus) within a) ?_
    cases restarts : m.restarts a with
    | true =>
      obtain ⟨d, initial, rests⟩ := fresh_act restarts
      have frames := rests.frames
      rw [initial] at frames
      exact congrArg Prod.fst frames
    | false =>
      rw [if_neg Bool.false_ne_true, depth_append, ← h]
      exact sp_of_steers (steers_act within.inRange.stackSound restarts)

/-! ## Going back -/

/-- Whether an action executes a return that brings the stack pointer to `k`. -/
def returnsTo (m : Machine) (k : Int) (a : Action) : Bool :=
  (m.executed? a).any (·.opcode.isReturn) && (m.act a).cpu.state.sp == k

/-- Whether a return brings the stack pointer to `k` at some moment of a run. -/
def comesBack (m : Machine) (k : Int) : List Action → Bool
  | [] => false
  | a :: as => m.returnsTo k a || (m.act a).comesBack k as

/-- The stack pointer is above a slot, which holds an address. -/
structure Holds (m : Machine) (k address : Int) : Prop where
  above : k < m.cpu.state.sp
  slot : m.cpu.state.stack.getD k.toNat 0 = address

/-- After a call, the slot at the old pointer holds the address behind the call. -/
theorem holds_call {w : Fetched} (hs : m.cpu.state.StackSound) (kept : m.restarts a = false)
    (here : m.executed? a = some w) (isCall : w.opcode.isCall = true) :
    (m.act a).Holds m.cpu.state.sp (m.cpu.state.advance 2).pc := by
  have low := hs.sp_nonneg
  have length := hs.length
  cases steers_act hs kept with
  | calls _ _ free frames =>
    obtain ⟨sp, stack⟩ := Prod.mk.inj frames
    refine ⟨by omega, ?_⟩
    rw [stack, List.getD_eq_getElem?_getD, List.getElem?_set_self (by omega)]
    rfl
  | returns here' isReturn _ _ _ =>
    rw [here] at here'
    cases here'
    rw [Opcode.isReturn_of_isCall isCall] at isReturn
    cases isReturn
  | keeps other _ =>
    rw [(other w here).1] at isCall
    cases isCall

/-- A slot below the pointer keeps its address until a return comes back to it. -/
theorem Holds.act (h : m.Holds k address) (low : 0 ≤ k) (hs : m.cpu.state.StackSound)
    (kept : m.restarts a = false) (stays : m.returnsTo k a = false) :
    (m.act a).Holds k address := by
  have above := h.above
  cases steers_act hs kept with
  | calls _ _ _ frames =>
    obtain ⟨sp, stack⟩ := Prod.mk.inj frames
    -- The slot that is filled lies at the old pointer, so it is another one.
    have other : m.cpu.state.sp.toNat ≠ k.toNat := by omega
    refine ⟨by omega, ?_⟩
    rw [stack, List.getD_eq_getElem?_getD, List.getElem?_set_ne other,
      ← List.getD_eq_getElem?_getD, h.slot]
  | @returns w here isReturn _ frames _ =>
    obtain ⟨sp, stack⟩ := Prod.mk.inj frames
    have ne : (m.act a).cpu.state.sp ≠ k := by
      simpa [returnsTo, here, isReturn] using stays
    exact ⟨by omega, stack ▸ h.slot⟩
  | keeps _ frames =>
    obtain ⟨sp, stack⟩ := Prod.mk.inj frames
    exact ⟨sp ▸ above, stack ▸ h.slot⟩

theorem Holds.after (h : m.Holds k address) (low : 0 ≤ k) (within : m.cpu.Within bus)
    {as : List Action} (kept : ∀ a ∈ as, a.keepsProgram = true)
    (stays : m.comesBack k as = false) : (m.after as).Holds k address := by
  induction as generalizing m with
  | nil => exact h
  | cons a as ih =>
    simp only [comesBack, Bool.or_eq_false_iff] at stays
    have keeps := restarts_of_keepsProgram m (kept a (List.mem_cons_self ..))
    exact ih (h.act low within.inRange.stackSound keeps stays.1)
      (law_act (Cpu.within_law bus) within a)
      (fun b hb => kept b (List.mem_cons_of_mem _ hb)) stays.2

/-- A return that comes back to a slot goes to the address in it. -/
theorem Holds.pc_of_returnsTo (h : m.Holds k address) (hs : m.cpu.state.StackSound)
    (kept : m.restarts a = false) (back : m.returnsTo k a = true) :
    (m.act a).cpu.state.pc = address := by
  simp only [returnsTo, Bool.and_eq_true, Option.any_eq_true, beq_iff_eq] at back
  obtain ⟨⟨w, here, isReturn⟩, sp⟩ := back
  cases steers_act hs kept with
  | calls here' isCall _ _ =>
    rw [here] at here'
    cases here'
    rw [Opcode.isReturn_of_isCall isCall] at isReturn
    cases isReturn
  | returns _ _ _ frames pc =>
    obtain ⟨below, -⟩ := Prod.mk.inj frames
    rw [pc, ← below, sp, h.slot]
  | keeps other _ =>
    rw [(other w here).2] at isReturn
    cases isReturn

variable {keypad : Keypad} {speaker : Option Speaker} {random : Random} {romLimit : Number}
  {cpuHz timerHz : Frequency} {historyLimit : Nat}

/-- Along every run of a machine with the standard memory, the stack pointer is the number of calls
minus the number of returns since the machine was reset. And if a call is executed while the stack
pointer is `k`, then the first return that brings it back to `k` goes behind the call, whatever is
executed in between. -/
theorem returns_match_calls
    (assembled : assemble (.assemble .standard keypad speaker random romLimit) cpuHz timerHz
      historyLimit = .ok m) (before : List Action) :
    (m.after before).cpu.state.sp =
        ((m.executedSince [] before).countP (·.opcode.isCall) : Int) -
          ((m.executedSince [] before).countP (·.opcode.isReturn) : Int) ∧
      ∀ (a : Action) (w : Fetched) (between : List Action) (b : Action),
        (m.after before).executed? a = some w → w.opcode.isCall = true →
        (∀ c ∈ between, c.keepsProgram = true) →
        (m.after (before ++ [a])).comesBack (m.after before).cpu.state.sp between = false →
        (m.after (before ++ a :: between)).returnsTo (m.after before).cpu.state.sp b = true →
        (m.after (before ++ a :: between ++ [b])).cpu.state.pc =
          (m.after before).cpu.state.pc + 2 := by
  have initial : m.cpu.state.sp = depth [] := by
    rw [(of_assemble assembled).1]
    rfl
  have first : m.cpu.Within .standard := within_after assembled []
  refine ⟨sp_after first initial before, fun a w between b here isCall kept stays back => ?_⟩
  have within := within_after assembled before
  have within' := within_after assembled (before ++ [a])
  have within'' := within_after assembled (before ++ a :: between)
  have r := within.inRange
  -- What executes an instruction, as `a` and `b` do, blanks nothing.
  have moves {m : Machine} {a : Action} (h : (m.executed? a).isSome) : m.restarts a = false := by
    cases a with
    | reset | load data => cases h
    | _ => rfl
  have called := holds_call r.stackSound (moves (by rw [here]; rfl)) here isCall
  have low := r.pc_nonneg
  have high := r.pc_le
  rw [Bus.size_standard, Registers.pcLimit] at high
  have behind : ((m.after before).cpu.state.advance 2).pc = (m.after before).cpu.state.pc + 2 :=
    wrapWord_of_bounds (by omega) (by omega)
  rw [behind] at called
  simp only [after_append, after_cons] at called within' within'' stays back ⊢
  have held := called.after r.sp_nonneg within' kept stays
  refine held.pc_of_returnsTo within''.inRange.stackSound (moves ?_) back
  simp only [returnsTo, Bool.and_eq_true] at back
  cases h : ((m.after before).act a |>.after between).executed? b with
  | none => rw [h] at back; cases back.1
  | some v => rfl

/-- A machine whose program calls a subroutine, which calls another one, in four steps. -/
def nestedCalls : Machine := (default : Machine).after
  [.load [0x22, 0x04, 0x00, 0x00, 0x22, 0x08, 0x00, 0xEE, 0x00, 0xEE], .step 4]

/-- The second of two returns goes behind the first of two calls. -/
theorem returns_nestedCalls :
    (∃ w, nestedCalls.executed? (.move 0) = some w ∧ w.opcode.isCall = true) ∧
      (nestedCalls.act (.move 0)).comesBack 0 [.move 0, .tick, .move 0] = false ∧
      (nestedCalls.after [.move 0, .move 0, .tick, .move 0]).returnsTo 0 (.move 0) = true ∧
      (nestedCalls.after [.move 0, .move 0, .tick, .move 0, .move 0]).cpu.state.pc = 0x202 := by
  have assembled : assemble (.assemble .standard default none default Rom.standardLimit)
      standardCpuHz standardTimerHz Debugger.standardLimit = .ok default := rfl
  obtain ⟨call, pc, sp, stays, back⟩ :
      (nestedCalls.executed? (.move 0)).any (·.opcode.isCall) = true ∧
        nestedCalls.cpu.state.pc = 0x200 ∧ nestedCalls.cpu.state.sp = 0 ∧
        (nestedCalls.act (.move 0)).comesBack 0 [.move 0, .tick, .move 0] = false ∧
        (nestedCalls.after [.move 0, .move 0, .tick, .move 0]).returnsTo 0 (.move 0) = true := by
    decide +kernel
  obtain ⟨w, here, isCall⟩ := Option.any_eq_true _ _ |>.mp call
  have behind := (returns_match_calls assembled
    [.load [0x22, 0x04, 0x00, 0x00, 0x22, 0x08, 0x00, 0xEE, 0x00, 0xEE], .step 4]).2
    (.move 0) w [.move 0, .tick, .move 0] (.move 0) here isCall (by decide) (sp ▸ stays) (sp ▸ back)
  exact ⟨⟨w, here, isCall⟩, stays, back, behind.trans (by rw [← nestedCalls, pc]; rfl)⟩

end Machine

end Hexscope
