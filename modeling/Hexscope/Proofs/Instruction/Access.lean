import Hexscope.Proofs.Bus.Layout

/-!
# The memory that an instruction works on

`Instruction.accesses` lists the addresses that an instruction reads or writes, in order. An
instruction is stopped by the memory exactly if one of them is not mapped, and the first such
address is the one that it reports.

* `Bus.Kept.effect`, `layout_effect`: what every access keeps, every instruction keeps, so none changes
  the layout of the bus;
* `Bus.Sound.trap_effect`: why an instruction stops short, on a sound bus and with a sound stack.
-/

namespace Hexscope

/-- `n` addresses from one on. -/
def Bus.addresses (a : Int) (n : Nat) : List Int := (List.range n).map fun k : Nat => a + (k : Int)

/-- The first of some addresses at which no device answers. -/
def Bus.gap? (b : Bus) (addresses : List Int) : Option Int :=
  addresses.find? fun a => ¬ b.IsMapped a

/-- The addresses that an instruction reads or writes, in order. -/
def Instruction.accesses (s : State) : Instruction → List Int
  | .draw _ _ n => Bus.addresses s.i n
  | .decimal _ => Bus.addresses s.i 3
  | .store x | .fill x => Bus.addresses s.i (x.val + 1)
  | _ => []

/-- The call stack has sixteen slots, and its pointer lies on them or right behind them. -/
structure Registers.StackSound (r : Registers) : Prop where
  length : r.stack.length = stackDepth
  sp_nonneg : 0 ≤ r.sp
  sp_le : r.sp ≤ stackDepth

/-- What stops an instruction besides memory. -/
def Instruction.stackTrap? (s : State) : Instruction → Option Trap
  | .ret => if s.sp ≤ 0 then some .stackUnderflow else none
  | .call _ => if stackDepth ≤ s.sp then some .stackOverflow else none
  | _ => none

/-- Whether an instruction uses the call stack. -/
def Instruction.usesStack : Instruction → Bool
  | .ret | .call _ => true
  | _ => false

namespace Bus

variable {b b' : Bus} {a : Int}

theorem addresses_succ (a : Int) (n : Nat) :
    addresses a (n + 1) = a :: addresses (a + 1) n := by
  simp only [addresses, List.range_succ_eq_map, List.map_cons, List.map_map]
  refine List.cons_eq_cons.mpr ⟨by omega, List.map_congr_left fun k _ => ?_⟩
  simp only [Function.comp]
  omega

@[simp] theorem mem_addresses {a x : Int} {n : Nat} : x ∈ addresses a n ↔ a ≤ x ∧ x < a + n := by
  simp only [addresses, List.mem_map, List.mem_range]
  constructor
  · rintro ⟨k, hk, rfl⟩
    omega
  · rintro ⟨h₀, h₁⟩
    exact ⟨(x - a).toNat, by omega, by omega⟩

theorem gap?_cons_of_isMapped (h : b.IsMapped a) (as : List Int) :
    b.gap? (a :: as) = b.gap? as := by
  simp [gap?, h]

theorem gap?_cons_of_not_isMapped (h : ¬ b.IsMapped a) (as : List Int) :
    b.gap? (a :: as) = some a := by
  simp [gap?, h]

theorem gap?_of_layout (h : b'.layout = b.layout) (as : List Int) : b'.gap? as = b.gap? as := by
  unfold gap?
  congr 1
  funext a
  rw [decide_eq_decide, isMapped_of_layout h]

theorem mem_of_gap? {as : List Int} (h : b.gap? as = some a) : a ∈ as :=
  List.mem_of_find?_eq_some h

theorem not_isMapped_of_gap? {as : List Int} (h : b.gap? as = some a) : ¬ b.IsMapped a := by
  simpa using List.find?_some h

/-- What stops an instruction at the first of some addresses that is not mapped. -/
def gapTrap? (b : Bus) (as : List Int) : Option Trap :=
  (b.gap? as).map fun a => .access (.bus (.unmapped a))

theorem gapTrap?_cons_of_isMapped (h : b.IsMapped a) (as : List Int) :
    b.gapTrap? (a :: as) = b.gapTrap? as := by
  rw [gapTrap?, gap?_cons_of_isMapped h, gapTrap?]

theorem gapTrap?_cons_of_not_isMapped (h : ¬ b.IsMapped a) (as : List Int) :
    b.gapTrap? (a :: as) = some (.access (.bus (.unmapped a))) := by
  rw [gapTrap?, gap?_cons_of_not_isMapped h]
  rfl

theorem gapTrap?_of_layout (h : b'.layout = b.layout) (as : List Int) :
    b'.gapTrap? as = b.gapTrap? as := by
  rw [gapTrap?, gap?_of_layout h, gapTrap?]

end Bus

namespace Board

variable {b : Board}

/-! ## Storing -/

/-- Values that are stored are bytes; the first address without a device stops them. -/
theorem error_writeAll {b : Bus} (hb : b.Sound) (a : Int) (ds : List Int)
    (bytes : ∀ d ∈ ds, 0 ≤ d ∧ d ≤ 255) :
    (b.writeAll a ds).2 = (b.gap? (Bus.addresses a ds.length)).map .unmapped := by
  induction ds generalizing b a with
  | nil => rfl
  | cons d ds ih =>
    simp only [List.length_cons, Bus.addresses_succ, Bus.writeAll]
    by_cases h : b.IsMapped a
    · obtain ⟨h₀, h₁⟩ := bytes d (List.mem_cons_self ..)
      obtain ⟨b', hw⟩ := hb.exists_write h h₀ h₁
      have keep := Bus.layout_write hw
      rw [Bus.gap?_cons_of_isMapped h, hw, ← Bus.gap?_of_layout keep]
      exact ih (hb.of_layout keep) (a + 1) fun d hd => bytes d (List.mem_cons_of_mem _ hd)
    · rw [Bus.gap?_cons_of_not_isMapped h, Bus.write_of_not_isMapped h]
      rfl

theorem trap_storeAll (hb : b.bus.Sound) (ds : List Int) (bytes : ∀ d ∈ ds, 0 ≤ d ∧ d ≤ 255) :
    (b.storeAll ds).2 = b.bus.gapTrap? (Bus.addresses b.state.i ds.length) := by
  have h := error_writeAll hb b.state.i ds bytes
  simp only [storeAll, h, Option.map_map]
  rfl

/-! ## Filling -/

theorem trap_fillFrom (hb : b.bus.Sound) (a : Int) (xs : List Register) :
    (b.fillFrom a xs).2 = b.bus.gapTrap? (Bus.addresses a xs.length) := by
  induction xs generalizing b a with
  | nil => rfl
  | cons x xs ih =>
    simp only [List.length_cons, Bus.addresses_succ, fillFrom]
    by_cases h : b.bus.IsMapped a
    · obtain ⟨d, bus, hr⟩ := hb.exists_read h
      have keep := Bus.layout_read hr
      rw [Bus.gapTrap?_cons_of_isMapped h, hr, ← Bus.gapTrap?_of_layout keep]
      exact ih (hb.of_layout keep) (a + 1)
    · rw [Bus.gapTrap?_cons_of_not_isMapped h, Bus.read_of_not_isMapped h]

/-- What every filled register keeps, filling keeps. -/
theorem keep_fillFrom {P : Board → Prop}
    (fill : ∀ (b : Board) (a : Int) (d : UInt8) (bus : Bus) (x : Register),
      b.bus.read a = .ok (d, bus) → P b → P { b with bus, state := b.state.setV x d })
    (h : P b) (a : Int) (xs : List Register) : P (b.fillFrom a xs).1 := by
  induction xs generalizing b a with
  | nil => exact h
  | cons x xs ih =>
    simp only [fillFrom]
    cases hr : b.bus.read a with
    | error e => exact h
    | ok r =>
      obtain ⟨d, bus⟩ := r
      exact ih (fill b a d bus x hr h) (a + 1)

/-! ## Drawing -/

/-- Rows are read up to the first one at an address without a device. -/
theorem drawRows_cases (hb : b.bus.Sound) (x y : Nat) (hit : Bool) (rs : List Nat) :
    (∃ met, (b.drawRows x y hit rs).2 = .ok met ∧
      b.bus.gap? (rs.map fun r : Nat => b.state.i + (r : Int)) = none) ∨
    ∃ a, (b.drawRows x y hit rs).2 = .error (.unmapped a) ∧
      b.bus.gap? (rs.map fun r : Nat => b.state.i + (r : Int)) = some a := by
  induction rs generalizing b hit with
  | nil => exact .inl ⟨hit, rfl, rfl⟩
  | cons r rs ih =>
    simp only [List.map_cons, drawRows]
    by_cases h : b.bus.IsMapped (b.state.i + r)
    · obtain ⟨d, bus, hr⟩ := hb.exists_read h
      have keep := Bus.layout_read hr
      rw [Bus.gap?_cons_of_isMapped h, hr, ← Bus.gap?_of_layout keep]
      exact ih (b := { b with bus, state := { b.state with
        screen := (b.state.screen.drawRow x (y + r) d).1 } }) (hb.of_layout keep) _
    · rw [Bus.gap?_cons_of_not_isMapped h, Bus.read_of_not_isMapped h]
      exact .inr ⟨_, rfl, rfl⟩

theorem trap_draw (hb : b.bus.Sound) (x y : UInt8) (n : Nat) :
    (b.draw x y n).2 = b.bus.gapTrap? (Bus.addresses b.state.i n) := by
  have h := drawRows_cases hb (x.toNat % Screen.width) (y.toNat % Screen.height) false
    (List.range n)
  rw [← Bus.addresses] at h
  unfold draw Bus.gapTrap?
  generalize b.drawRows (x.toNat % Screen.width) (y.toNat % Screen.height) false
    (List.range n) = r at h
  obtain ⟨d, e⟩ := r
  rcases h with ⟨met, rfl, hg⟩ | ⟨a, rfl, hg⟩ <;> rw [hg] <;> rfl

/-- What every row and the flag keep, drawing keeps. -/
theorem keep_draw {P : Board → Prop}
    (row : ∀ (b : Board) (a : Int) (d : UInt8) (bus : Bus) (screen : Screen),
      b.bus.read a = .ok (d, bus) → P b → P { b with bus, state := { b.state with screen } })
    (flag : ∀ (b : Board) (hit : Bool), P b →
      P (b.withState { b.state.setFlag hit with renderNeeded := true }))
    (h : P b) (x y : UInt8) (n : Nat) : P (b.draw x y n).1 := by
  have rows (x y : Nat) (hit : Bool) (rs : List Nat) : P (b.drawRows x y hit rs).1 := by
    induction rs generalizing b hit with
    | nil => exact h
    | cons r rs ih =>
      simp only [drawRows]
      cases hr : b.bus.read (b.state.i + r) with
      | error e => exact h
      | ok p =>
        obtain ⟨d, bus⟩ := p
        exact ih (row b _ d bus (b.state.screen.drawRow x (y + r) d).1 hr h) _
  have drawn := rows (x.toNat % Screen.width) (y.toNat % Screen.height) false (List.range n)
  unfold draw
  generalize b.drawRows (x.toNat % Screen.width) (y.toNat % Screen.height) false
    (List.range n) = r at drawn
  obtain ⟨d, e | hit⟩ := r
  · exact drawn
  · exact flag d hit drawn

/-! ## Calls -/

theorem slot?_of_lt {s : State} {sp : Int} (h₀ : 0 ≤ sp) (h₁ : sp < s.stack.length) :
    s.slot? sp = some sp.toNat := by
  unfold State.slot?
  rw [if_pos ⟨h₀, h₁⟩]

/-- On a sound stack a return finds its slot. -/
theorem ret_of_stackSound (hs : b.state.StackSound) :
    b.ret = if b.state.sp ≤ 0 then (b, some .stackUnderflow)
      else (b.withState { b.state with
        sp := b.state.sp - 1
        pc := b.state.stack.getD (b.state.sp - 1).toNat 0 }, none) := by
  have := hs.sp_le
  have := hs.length
  unfold ret
  dsimp only
  split
  · rfl
  · rw [slot?_of_lt (by omega) (by dsimp only; omega)]

/-- On a sound stack a call finds its slot. -/
theorem call_of_stackSound (hs : b.state.StackSound) (target : Nat) :
    b.call target = if stackDepth ≤ b.state.sp then (b, some .stackOverflow)
      else (b.withState { b.state with
        stack := b.state.stack.set b.state.sp.toNat b.state.pc
        sp := b.state.sp + 1
        pc := target }, none) := by
  have := hs.sp_nonneg
  have := hs.length
  unfold call
  dsimp only
  split
  · rfl
  · rw [slot?_of_lt (by omega) (by omega)]

end Board

/-! ## Instructions -/

/-- No instruction accesses memory before the index. -/
theorem Instruction.le_of_mem_accesses {s : State} {i : Instruction} {a : Int}
    (h : a ∈ i.accesses s) : s.i ≤ a := by
  cases i with
  | draw x y n | decimal x | store x | fill x => exact (Bus.mem_addresses.mp h).1
  | _ => cases h

theorem bytes_decimalDigits (b : UInt8) : ∀ d ∈ decimalDigits b, 0 ≤ d ∧ d ≤ 255 := by
  intro d hd
  have := b.toNat_lt
  simp only [decimalDigits, List.mem_cons, List.not_mem_nil, or_false] at hd
  rcases hd with rfl | rfl | rfl <;> omega

theorem bytes_values (v : RegisterFile) (xs : List Register) :
    ∀ d ∈ xs.map fun r => ((v.get r).toNat : Int), 0 ≤ d ∧ d ≤ 255 := by
  intro d hd
  simp only [List.mem_map] at hd
  obtain ⟨r, -, rfl⟩ := hd
  have := (v.get r).toNat_lt
  omega

theorem Register.length_upTo (x : Register) : x.upTo.length = x.val + 1 := by
  revert x
  decide

variable {b : Board}

/-- What every access keeps, every instruction keeps. -/
theorem Bus.Kept.effect {P : Bus → Prop} (kept : Bus.Kept P) (h : P b.bus) (i : Instruction)
    (keys : Keypad) : P (i.effect keys b).1.bus := by
  cases i with
  | draw x y n =>
    exact Board.keep_draw (P := fun d => P d.bus) (fun _ _ _ _ _ hr h => kept.read hr h)
      (fun _ _ h => h) h _ _ _
  | decimal x => exact kept.writeAll h b.state.i (decimalDigits (b.state.v.get x))
  | store x =>
    exact kept.writeAll h b.state.i (x.upTo.map fun r => ((b.state.v.get r).toNat : Int))
  | fill x =>
    exact Board.keep_fillFrom (P := fun d => P d.bus) (fun _ _ _ _ _ hr h => kept.read hr h) h _ _
  | ret =>
    simp only [Instruction.effect, Board.ret]
    split
    · exact h
    · split <;> exact h
  | call a =>
    simp only [Instruction.effect, Board.call]
    split
    · exact h
    · split <;> exact h
  | _ => exact h

/-- No instruction changes the layout of the bus. -/
@[simp] theorem layout_effect (i : Instruction) (keys : Keypad) (b : Board) :
    (i.effect keys b).1.bus.layout = b.bus.layout :=
  (Bus.kept_layout b.bus.layout).effect rfl i keys

/-- An instruction that does not use the call stack stops short at the first of its addresses that is not
mapped. -/
theorem Bus.Sound.trap_of_stackless (hb : b.bus.Sound) {i : Instruction} (keys : Keypad)
    (stackless : i.usesStack = false) : (i.effect keys b).2 = b.bus.gapTrap? (i.accesses b.state) := by
  cases i with
  | draw x y n => exact Board.trap_draw hb _ _ _
  | decimal x => exact Board.trap_storeAll hb _ (bytes_decimalDigits _)
  | store x =>
    have h : (Instruction.effect keys (.store x) b).2 = _ :=
      Board.trap_storeAll hb _ (bytes_values b.state.v x.upTo)
    rw [h, List.length_map, Register.length_upTo]
    rfl
  | fill x =>
    have h : (Instruction.effect keys (.fill x) b).2 = _ :=
      Board.trap_fillFrom hb b.state.i x.upTo
    rw [h, Register.length_upTo]
    rfl
  | ret | call a => cases stackless
  | _ => rfl

/-- Why an instruction stops short: a return on an empty stack, a call on a full one, or the first
of its addresses that is not mapped. -/
theorem Bus.Sound.trap_effect (hb : b.bus.Sound) (hs : b.state.StackSound) (i : Instruction)
    (keys : Keypad) :
    (i.effect keys b).2 = (i.stackTrap? b.state).or (b.bus.gapTrap? (i.accesses b.state)) := by
  cases i with
  | ret =>
    have h : (Instruction.effect keys .ret b) = _ := Board.ret_of_stackSound hs
    rw [h]
    simp only [Instruction.stackTrap?]
    split <;> rfl
  | call a =>
    have h : (Instruction.effect keys (.call a) b) = _ := Board.call_of_stackSound hs a
    rw [h]
    simp only [Instruction.stackTrap?]
    split <;> rfl
  | _ => exact hb.trap_of_stackless keys rfl

end Hexscope
