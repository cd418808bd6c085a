import Hexscope.Cpu
import Hexscope.Proofs.Instruction.Range

/-!
# How a cycle ends

`Cpu.Ends` has one case for each way in which `Cpu.cycle` can end, with what is known there and the
processor that is left. Everything about one cycle is proved by these cases.

* `ends_cycle`: the cases are complete;
* `Ends.inRange`, `Ends.layout`: a cycle keeps the registers in range and the layout of the bus;
* `raised_iff`: an access is refused outside the reach of faults exactly if it is one of the fetch;
* `fault_of_gap`: one of the instruction becomes a fault.
-/

namespace Hexscope

/-! ## The fetch -/

namespace Bus

variable {b b' : Bus} {pc : Int}

/-- The addresses that are read when an opcode is fetched: its own, and those of the opcode behind
it unless that lies beyond the end. -/
def fetchAddresses (b : Bus) (pc : Int) : List Int :=
  addresses pc (if pc + 3 < b.size then 4 else 2)

theorem fetchAddresses_of_layout (h : b'.layout = b.layout) (pc : Int) :
    b'.fetchAddresses pc = b.fetchAddresses pc := by
  rw [fetchAddresses, size_of_layout h, fetchAddresses]

/-- Both bytes of an opcode are below the end. -/
theorem lt_size_of_peekOpcode {a : Int} {w : Opcode} (here : b.peekOpcode a = .ok w) :
    a + 1 < b.size := by
  obtain ⟨high, -, rest⟩ := exists_of_bind_eq_ok here
  obtain ⟨low, byte, -⟩ := exists_of_bind_eq_ok rest
  obtain ⟨cell, resolved, -⟩ := exists_of_bind_eq_ok byte
  exact lt_size_of_isMapped (isMapped_of_resolve resolved)

/-- In a memory without gaps all addresses that are read for a fetch are mapped. -/
theorem gap?_fetchAddresses (whole : b.IsWhole) (low : 0 ≤ pc) (inside : pc + 1 < b.size) :
    b.gap? (b.fetchAddresses pc) = none := by
  refine Option.eq_none_iff_forall_ne_some.mpr fun x gap => ?_
  have address := mem_of_gap? gap
  refine not_isMapped_of_gap? gap (whole x ?_ ?_)
  all_goals
    unfold fetchAddresses at address
    split at address <;> simp only [mem_addresses] at address <;> omega

/-- Where one of two bytes is not mapped, the first such address is reported. -/
theorem peekOpcode_cases (hb : b.Sound) (a : Int) :
    (∃ w, b.peekOpcode a = .ok w ∧ b.gap? (addresses a 2) = none) ∨
    ∃ x, b.peekOpcode a = .error (.unmapped x) ∧ b.gap? (addresses a 2) = some x := by
  simp only [addresses_succ, show addresses (a + 1 + 1) 0 = [] from rfl]
  by_cases h₀ : b.IsMapped a
  · obtain ⟨high, hh⟩ := hb.exists_peek h₀
    rw [gap?_cons_of_isMapped h₀]
    by_cases h₁ : b.IsMapped (a + 1)
    · obtain ⟨low, hl⟩ := hb.exists_peek h₁
      rw [gap?_cons_of_isMapped h₁]
      exact .inl ⟨.ofBytes high low, by simp only [peekOpcode, hh, hl]; rfl, rfl⟩
    · rw [gap?_cons_of_not_isMapped h₁]
      exact .inr ⟨a + 1, by simp only [peekOpcode, hh, peek_of_not_isMapped h₁]; rfl, rfl⟩
  · rw [gap?_cons_of_not_isMapped h₀]
    exact .inr ⟨a, by simp only [peekOpcode, peek_of_not_isMapped h₀]; rfl, rfl⟩

/-- A fetch yields the opcode of its address, or is refused at the first address that is not
mapped. -/
theorem fetch_cases (hb : b.Sound) (pc : Int) :
    (∃ w, (b.fetch pc).2 = .ok w ∧ b.gap? (b.fetchAddresses pc) = none) ∨
    ∃ a, (b.fetch pc).2 = .error (.unmapped a) ∧ b.gap? (b.fetchAddresses pc) = some a := by
  have split : b.fetchAddresses pc =
      pc :: (pc + 1) :: if pc + 3 < b.size then addresses (pc + 2) 2 else [] := by
    unfold fetchAddresses
    split
    · simp only [addresses_succ, Int.add_assoc]
      rfl
    · simp only [addresses_succ]
      rfl
  rw [split]
  by_cases h₀ : b.IsMapped pc
  · obtain ⟨high, b₁, hr⟩ := hb.exists_read h₀
    have keep₁ := layout_read hr
    rw [gap?_cons_of_isMapped h₀]
    by_cases h₁ : b.IsMapped (pc + 1)
    · obtain ⟨low, b₂, hr'⟩ :=
        (hb.of_layout keep₁).exists_read ((isMapped_of_layout keep₁ _).mpr h₁)
      have keep : b₂.layout = b.layout := (layout_read hr').trans keep₁
      rw [gap?_cons_of_isMapped h₁]
      simp only [fetch, hr, hr', size_of_layout keep]
      split
      · rw [← gap?_of_layout keep]
        rcases peekOpcode_cases (hb.of_layout keep) (pc + 2) with ⟨w, hw, hg⟩ | ⟨a, hw, hg⟩
        · exact .inl ⟨_, by rw [hw]; rfl, hg⟩
        · exact .inr ⟨a, by rw [hw]; rfl, hg⟩
      · exact .inl ⟨_, rfl, rfl⟩
    · have := (not_congr (isMapped_of_layout keep₁ _)).mpr h₁
      rw [gap?_cons_of_not_isMapped h₁]
      exact .inr ⟨pc + 1, by simp only [fetch, hr, read_of_not_isMapped this], rfl⟩
  · rw [gap?_cons_of_not_isMapped h₀]
    exact .inr ⟨pc, by simp only [fetch, read_of_not_isMapped h₀], rfl⟩

theorem Kept.fetch {P : Bus → Prop} (kept : Kept P) (hb : P b) (pc : Int) : P (b.fetch pc).1 := by
  unfold Bus.fetch
  cases hr : b.read pc with
  | error e => exact hb
  | ok p =>
    obtain ⟨high, b₁⟩ := p
    have first := kept.read hr hb
    dsimp only
    cases hr' : b₁.read (pc + 1) with
    | error e => exact first
    | ok p =>
      obtain ⟨low, b₂⟩ := p
      have second := kept.read hr' first
      dsimp only
      split <;> exact second

theorem layout_fetch (b : Bus) (pc : Int) : (b.fetch pc).1.layout = b.layout :=
  (kept_layout b.layout).fetch rfl pc

/-- What a fetch that is not refused consists of: two reads, and a look at the opcode behind unless that lies
beyond the end. -/
theorem fetch_eq_ok {b' : Bus} {w : Fetched} (h : b.fetch pc = (b', .ok w)) :
    ∃ high low b₁, b.read pc = .ok (high, b₁) ∧ b₁.read (pc + 1) = .ok (low, b') ∧ w.pc = pc ∧
      w.opcode = .ofBytes high low ∧
      if pc + 3 < b'.size then ∃ next, b'.peekOpcode (pc + 2) = .ok next ∧ w.next = some next
      else w.next = none := by
  unfold fetch at h
  cases hr : b.read pc with
  | error e => rw [hr] at h; cases h
  | ok p =>
    obtain ⟨high, b₁⟩ := p
    rw [hr] at h
    dsimp only at h
    cases hr' : b₁.read (pc + 1) with
    | error e => rw [hr'] at h; cases h
    | ok p =>
      obtain ⟨low, b₂⟩ := p
      rw [hr'] at h
      dsimp only at h
      split at h
      · rename_i below
        cases hp : b₂.peekOpcode (pc + 2) with
        | error e => rw [hp] at h; cases h
        | ok next =>
          rw [hp] at h
          cases h
          refine ⟨high, low, b₁, rfl, hr', rfl, rfl, ?_⟩
          rw [if_pos below]
          exact ⟨next, hp, rfl⟩
      · rename_i beyond
        cases h
        refine ⟨high, low, b₁, rfl, hr', rfl, rfl, ?_⟩
        rw [if_neg beyond]

theorem pc_of_fetch {w : Fetched} (h : (b.fetch pc).2 = .ok w) : w.pc = pc := by
  obtain ⟨_, _, _, _, _, same, _⟩ := fetch_eq_ok (Prod.ext rfl h)
  exact same

end Bus

/-! ## The cycle -/

/-- The cause of the fault that a trap becomes. -/
def Trap.cause : Trap → Fault.Cause
  | .stackOverflow => .stackOverflow
  | .stackUnderflow => .stackUnderflow
  | .access e => .access e

/-- What a trap becomes at an address and for an opcode: a fault, except for data that is no
byte. -/
def Trap.refusal (pc opcode : Int) : Trap → Refusal
  | .access (.bus (.notByte d)) => .access (.bus (.notByte d))
  | t => .fault ⟨t.cause, pc, opcode⟩

theorem Trap.refusal_of_ne {t : Trap} (h : ∀ d, t ≠ .access (.bus (.notByte d)))
    (pc opcode : Int) : t.refusal pc opcode = .fault ⟨t.cause, pc, opcode⟩ := by
  unfold refusal
  split
  · exact absurd rfl (h _)
  · rfl

namespace Cpu

/-- What a cycle fetches. -/
def fetched (c : Cpu) : Bus × Except Bus.Error Fetched := c.bus.dropLog.fetch c.state.pc

/-- The board on which a fetched instruction is executed: the program counter points behind it. -/
def ready (c : Cpu) (bus : Bus) : Board where
  state := { c.state.advance 2 with renderNeeded := false }
  bus := bus
  random := c.random

/-- The ways in which a cycle ends, with the processor that is left. -/
inductive Ends (c : Cpu) : Cpu → Outcome Fetched → Prop where
  /-- The program counter has left the memory. -/
  | outside : c.bus.size ≤ c.state.pc + 1 → Ends c { c with bus := c.bus.dropLog } .halted
  /-- The fetch is refused. -/
  | unreadable {bus : Bus} {e : Bus.Error} : c.state.pc + 1 < c.bus.size →
    c.fetched = (bus, .error e) → Ends c { c with bus := bus } (.raised (.bus e))
  /-- The word marks the end of the program. -/
  | stopped {bus : Bus} {w : Fetched} : c.state.pc + 1 < c.bus.size → c.fetched = (bus, .ok w) →
    w.opcode = 0 → Ends c { c with bus := bus } .halted
  | unknown {bus : Bus} {w : Fetched} : c.state.pc + 1 < c.bus.size → c.fetched = (bus, .ok w) →
    w.opcode ≠ 0 → Instruction.decode? w.opcode = none →
    Ends c { c with bus := bus, fault := some ⟨.unknownOpcode, w.pc, w.opcode.toNat⟩ } .fatal
  | faulted {bus : Bus} {w : Fetched} {i : Instruction} {b : Board} {t : Trap} :
    c.state.pc + 1 < c.bus.size → c.fetched = (bus, .ok w) → w.opcode ≠ 0 →
    Instruction.decode? w.opcode = some i → i.effect c.keypad (c.ready bus) = (b, some t) →
    (∀ d, t ≠ .access (.bus (.notByte d))) →
    Ends c { c with toBoard := b, fault := some ⟨t.cause, w.pc, w.opcode.toNat⟩ } .fatal
  /-- An instruction writes what is no byte. -/
  | refused {bus : Bus} {w : Fetched} {i : Instruction} {b : Board} {d : Number} :
    c.state.pc + 1 < c.bus.size → c.fetched = (bus, .ok w) → w.opcode ≠ 0 →
    Instruction.decode? w.opcode = some i →
    i.effect c.keypad (c.ready bus) = (b, some (.access (.bus (.notByte d)))) →
    Ends c { c with toBoard := b } (.raised (.bus (.notByte d)))
  | done {bus : Bus} {w : Fetched} {i : Instruction} {b : Board} :
    c.state.pc + 1 < c.bus.size → c.fetched = (bus, .ok w) → w.opcode ≠ 0 →
    Instruction.decode? w.opcode = some i → i.effect c.keypad (c.ready bus) = (b, none) →
    Ends c { c with toBoard := b, cycles := c.cycles + 1 }
      (.done w (w.opcode.report i.mnemonic i.operands))

variable {c d : Cpu} {o : Outcome Fetched} {size : Int}

/-- Decoding and executing a fetched word. -/
theorem perform_eq (c : Cpu) (bus : Bus) (w : Fetched) : processor.perform w { c with bus := bus } =
    match Instruction.decode? w.opcode with
    | none => ({ c with bus := bus, fault := some ⟨.unknownOpcode, w.pc, w.opcode.toNat⟩ }, .fatal)
    | some i =>
      match i.effect c.keypad (c.ready bus) with
      | (b, none) =>
        ({ c with toBoard := b, cycles := c.cycles + 1 },
          .done w (w.opcode.report i.mnemonic i.operands))
      | (b, some t) =>
        match t.refusal w.pc w.opcode.toNat with
        | .fault f => ({ c with toBoard := b, fault := some f }, .fatal)
        | .access e => ({ c with toBoard := b }, .raised e) := by
  cases hi : Instruction.decode? w.opcode with
  | none =>
    have e : decode w = .error ⟨.unknownOpcode, w.pc, w.opcode.toNat⟩ := by
      simp only [decode, Opcode.operation?, hi, Option.map_none]
    simp only [Processor.perform, processor, e]
  | some i =>
    have e : decode w = .ok (w.opcode.report i.mnemonic i.operands) := by
      simp only [decode, Opcode.operation?, hi, Option.map_some]
    have run : execute w { c with bus := bus, state := c.state.advance 2 } =
        ({ c with toBoard := (i.effect c.keypad (c.ready bus)).1 },
          (i.effect c.keypad (c.ready bus)).2.map (Trap.refusal w.pc w.opcode.toNat)) := by
      simp only [execute, Opcode.effect, hi, ready]
      rcases i.effect c.keypad ⟨{ c.state.advance 2 with renderNeeded := false }, bus, c.random⟩
        with ⟨b, t⟩
      rcases t with _ | _ | _ | (e | _ | _ | _)
      all_goals try rfl
      cases e <;> rfl
    simp only [Processor.perform, processor, e]
    rw [show (w.opcode.report i.mnemonic i.operands).length = 2 from rfl, run]
    rcases i.effect c.keypad (c.ready bus) with ⟨b, _ | t⟩
    · rfl
    · dsimp only [Option.map_some]
      cases t.refusal w.pc w.opcode.toNat <;> rfl

/-- The stages of a cycle up to the end of the program or a word that does not mark it. -/
theorem cycle_eq (c : Cpu) : c.cycle =
    if c.bus.size ≤ c.state.pc + 1 then ({ c with bus := c.bus.dropLog }, .halted)
    else
      match c.fetched with
      | (bus, .error e) => ({ c with bus := bus }, .raised (.bus e))
      | (bus, .ok w) =>
        if w.opcode = 0 then ({ c with bus := bus }, .halted)
        else processor.perform w { c with bus := bus } := by
  have size : c.bus.dropLog.size = c.bus.size := Bus.size_of_layout (Bus.layout_dropLog c.bus)
  simp only [cycle, Processor.cycle, processor, fetched, size]
  split
  · rfl
  · rcases c.bus.dropLog.fetch c.state.pc with ⟨bus, e | w⟩
    · rfl
    · simp only [decide_eq_true_eq]

/-- A word that does not mark the end is decoded and executed. -/
theorem ends_perform {bus : Bus} {w : Fetched} (inside : c.state.pc + 1 < c.bus.size)
    (hf : c.fetched = (bus, .ok w)) (hw : w.opcode ≠ 0) :
    c.Ends (processor.perform w { c with bus := bus }).1
      (processor.perform w { c with bus := bus }).2 := by
  rw [perform_eq]
  cases hi : Instruction.decode? w.opcode with
  | none => exact .unknown inside hf hw hi
  | some i =>
    dsimp only
    rcases he : i.effect c.keypad (c.ready bus) with ⟨b, _ | t⟩
    · exact .done inside hf hw hi he
    · dsimp only
      by_cases h : ∃ d, t = .access (.bus (.notByte d))
      · obtain ⟨d, rfl⟩ := h
        exact .refused inside hf hw hi he
      · rw [Trap.refusal_of_ne fun d hd => h ⟨d, hd⟩]
        exact .faulted inside hf hw hi he fun d hd => h ⟨d, hd⟩

/-- The cases are complete. -/
theorem ends_cycle (c : Cpu) : c.Ends c.cycle.1 c.cycle.2 := by
  rw [cycle_eq]
  split
  · rename_i out
    exact .outside out
  · rename_i inside
    rcases hf : c.fetched with ⟨bus, e | w⟩
    · exact .unreadable (Int.not_le.mp inside) hf
    · dsimp only
      split
      · rename_i hw
        exact .stopped (Int.not_le.mp inside) hf hw
      · rename_i hw
        exact ends_perform (Int.not_le.mp inside) hf hw

/-! ## What a cycle keeps -/

theorem layout_fetched {bus : Bus} {r : Except Bus.Error Fetched} (h : c.fetched = (bus, r)) :
    bus.layout = c.bus.layout := by
  have keep := Bus.layout_fetch c.bus.dropLog c.state.pc
  rw [← fetched, h] at keep
  exact keep

/-- What every access keeps, a cycle keeps. -/
theorem Ends.kept {P : Bus → Prop} (h : c.Ends d o) (kept : Bus.Kept P) (hc : P c.bus) :
    P d.bus := by
  have dropped : P c.bus.dropLog := kept.log [] hc
  have fetched {bus : Bus} {r : Except Bus.Error Fetched} (hf : c.fetched = (bus, r)) : P bus := by
    have keep := kept.fetch dropped c.state.pc
    rw [← Cpu.fetched, hf] at keep
    exact keep
  have executed {bus : Bus} {w : Fetched} {i : Instruction} {b : Board} {t : Option Trap}
      (hf : c.fetched = (bus, .ok w)) (he : i.effect c.keypad (c.ready bus) = (b, t)) :
      P b.bus := by
    have keep := kept.effect (b := c.ready bus) (fetched hf) i c.keypad
    rw [he] at keep
    exact keep
  cases h with
  | outside => exact dropped
  | unreadable _ hf | stopped _ hf | unknown _ hf => exact fetched hf
  | faulted _ hf _ _ he | refused _ hf _ _ he | done _ hf _ _ he => exact executed hf he

/-- A cycle keeps the layout of the bus. -/
theorem Ends.layout (h : c.Ends d o) : d.bus.layout = c.bus.layout :=
  h.kept (Bus.kept_layout c.bus.layout) rfl

theorem inRange_of_effect {bus : Bus} {i : Instruction} {b : Board} {t : Option Trap}
    (hc : c.state.InRange size) (inside : c.state.pc + 1 < size)
    (he : i.effect c.keypad (c.ready bus) = (b, t)) : b.state.InRange size := by
  obtain ⟨ready, hpc⟩ := hc.advance inside
  have after := ready.effect (b := c.ready bus) hpc i c.keypad
  rw [he] at after
  exact after

/-- A cycle keeps the registers in range. -/
theorem Ends.inRange (h : c.Ends d o) (hc : c.state.InRange c.bus.size) :
    d.state.InRange c.bus.size := by
  cases h with
  | outside | unreadable | stopped | unknown => exact hc
  | faulted inside _ _ _ he | refused inside _ _ _ he | done inside _ _ _ he =>
    exact inRange_of_effect hc inside he

/-! ## Refused accesses -/

theorem fetched_cases (hb : c.bus.Sound) :
    (∃ w, c.fetched.2 = .ok w ∧ c.bus.gap? (c.bus.fetchAddresses c.state.pc) = none) ∨
    ∃ a, c.fetched.2 = .error (.unmapped a) ∧
      c.bus.gap? (c.bus.fetchAddresses c.state.pc) = some a := by
  have keep := Bus.layout_dropLog c.bus
  rw [← Bus.fetchAddresses_of_layout keep, ← Bus.gap?_of_layout keep]
  exact Bus.fetch_cases (hb.of_layout keep) c.state.pc

/-- In a memory without gaps every fetch below the end succeeds. -/
theorem exists_fetched (hb : c.bus.Sound) (whole : c.bus.IsWhole) (low : 0 ≤ c.state.pc)
    (inside : c.state.pc + 1 < c.bus.size) : ∃ w, c.fetched.2 = .ok w := by
  rcases fetched_cases hb with ⟨w, read, -⟩ | ⟨a, -, gap⟩
  · exact ⟨w, read⟩
  · rw [Bus.gap?_fetchAddresses whole low inside] at gap
    cases gap

/-- Why an instruction that was fetched stops short. -/
theorem trap_of_effect {bus : Bus} {w : Fetched} {i : Instruction} {b : Board} {t : Option Trap}
    (hb : c.bus.Sound) (hs : c.state.StackSound) (hf : c.fetched = (bus, .ok w))
    (he : i.effect c.keypad (c.ready bus) = (b, t)) :
    t = (i.stackTrap? c.state).or (c.bus.gapTrap? (i.accesses c.state)) := by
  have keep := layout_fetched hf
  have trap := Bus.Sound.trap_effect (b := c.ready bus) (hb.of_layout keep)
    ⟨hs.length, hs.sp_nonneg, hs.sp_le⟩ i c.keypad
  rw [he, ready, Bus.gapTrap?_of_layout keep] at trap
  cases i <;> exact trap

/-- An access that stops an instruction is one to an address that is not mapped. -/
theorem gap_of_trap {e : AccessError} {i : Instruction}
    (h : some (.access e) = (i.stackTrap? c.state).or (c.bus.gapTrap? (i.accesses c.state))) :
    ∃ a, c.bus.gap? (i.accesses c.state) = some a ∧ .bus (.unmapped a) = e := by
  cases hs : i.stackTrap? c.state with
  | some u =>
    rw [hs, Option.some_or] at h
    cases h
    unfold Instruction.stackTrap? at hs
    split at hs
    · split at hs <;> cases hs
    · split at hs <;> cases hs
    · cases hs
  | none =>
    rw [hs, Option.none_or, eq_comm, Bus.gapTrap?, Option.map_eq_some_iff] at h
    obtain ⟨a, ha, h⟩ := h
    cases h
    exact ⟨a, ha, rfl⟩

/-- An access is refused outside the reach of faults exactly if it is one of the fetch. -/
theorem raised_iff (hb : c.bus.Sound) (hs : c.state.StackSound) (e : AccessError) :
    c.cycle.2 = .raised e ↔ c.state.pc + 1 < c.bus.size ∧
      ∃ a, c.bus.gap? (c.bus.fetchAddresses c.state.pc) = some a ∧ e = .bus (.unmapped a) := by
  have ends := ends_cycle c
  generalize c.cycle.1 = d, c.cycle.2 = o at ends ⊢
  constructor
  · rintro rfl
    cases ends with
    | unreadable inside hf =>
      refine ⟨inside, ?_⟩
      rcases fetched_cases hb with ⟨w, hw, -⟩ | ⟨a, ha, hg⟩
      · rw [hf] at hw; cases hw
      · rw [hf] at ha; cases ha; exact ⟨a, hg, rfl⟩
    | refused _ hf _ _ he =>
      obtain ⟨a, -, e⟩ := gap_of_trap (trap_of_effect hb hs hf he)
      cases e
  · rintro ⟨inside, a, hg, rfl⟩
    rcases fetched_cases hb with ⟨w, -, hg'⟩ | ⟨a', ha, hg'⟩
    · rw [hg] at hg'; cases hg'
    rw [hg] at hg'
    cases hg'
    cases ends with
    | outside h => omega
    | unreadable _ hf => rw [hf] at ha; cases ha; rfl
    | stopped _ hf | unknown _ hf | faulted _ hf | refused _ hf | done _ hf =>
      rw [hf] at ha
      cases ha

/-- What a fault can say: that the opcode is none, that the stack is full or empty, or that an
address that the instruction accesses is not mapped. -/
theorem fatal_cases (hb : c.bus.Sound) (hs : c.state.StackSound) (h : c.cycle.2 = .fatal) :
    ∃ f, c.cycle.1.fault = some f ∧ f.pc = c.state.pc ∧
      (f.cause = .unknownOpcode ∨ f.cause = .stackOverflow ∨ f.cause = .stackUnderflow ∨
        ∃ (i : Instruction) (a : Int), a ∈ i.accesses c.state ∧ ¬ c.bus.IsMapped a ∧
          f.cause = .access (.bus (.unmapped a))) := by
  have ends := ends_cycle c
  generalize c.cycle.1 = d, c.cycle.2 = o at ends h ⊢
  subst h
  cases ends with
  | unknown _ hf => exact ⟨_, rfl, Bus.pc_of_fetch (congrArg Prod.snd hf), .inl rfl⟩
  | @faulted bus w i b t _ hf _ _ he =>
    refine ⟨_, rfl, Bus.pc_of_fetch (congrArg Prod.snd hf), ?_⟩
    have trap := trap_of_effect hb hs hf he
    cases t with
    | stackOverflow => exact .inr (.inl rfl)
    | stackUnderflow => exact .inr (.inr (.inl rfl))
    | access e =>
      obtain ⟨a, ha, rfl⟩ := gap_of_trap trap
      exact .inr (.inr (.inr ⟨i, a, Bus.mem_of_gap? ha, Bus.not_isMapped_of_gap? ha, rfl⟩))

/-- An instruction that accesses an address that is not mapped ends in a fault, which names the
first such address. -/
theorem fault_of_gap (hb : c.bus.Sound) (hs : c.state.StackSound)
    (inside : c.state.pc + 1 < c.bus.size) {w : Fetched} (hf : c.fetched.2 = .ok w)
    {i : Instruction} (hi : Instruction.decode? w.opcode = some i) {a : Int}
    (hg : c.bus.gap? (i.accesses c.state) = some a) :
    c.cycle.2 = .fatal ∧
      c.cycle.1.fault = some ⟨.access (.bus (.unmapped a)), c.state.pc, w.opcode.toNat⟩ := by
  have trap : (i.stackTrap? c.state).or (c.bus.gapTrap? (i.accesses c.state)) =
      some (.access (.bus (.unmapped a))) := by
    simp only [Bus.gapTrap?, hg]
    cases i <;> first | rfl | cases hg
  have nonzero : w.opcode ≠ 0 := by
    intro h
    rw [h] at hi
    cases hi
    cases hg
  have hpc : w.pc = c.state.pc := Bus.pc_of_fetch hf
  have ends := ends_cycle c
  generalize c.cycle.1 = d, c.cycle.2 = o at ends ⊢
  cases ends with
  | outside h => omega
  | unreadable _ hf' => rw [hf'] at hf; cases hf
  | stopped _ hf' hw => rw [hf'] at hf; cases hf; exact absurd hw nonzero
  | unknown _ hf' _ hi' => rw [hf'] at hf; cases hf; rw [hi] at hi'; cases hi'
  | faulted _ hf' _ hi' he =>
    rw [hf'] at hf
    cases hf
    rw [hi] at hi'
    cases hi'
    have := trap_of_effect hb hs hf' he
    rw [trap] at this
    cases this
    exact ⟨rfl, by rw [hpc]; rfl⟩
  | refused _ hf' _ _ he =>
    obtain ⟨b, -, e⟩ := gap_of_trap (trap_of_effect hb hs hf' he)
    cases e
  | done _ hf' _ hi' he =>
    rw [hf'] at hf
    cases hf
    rw [hi] at hi'
    cases hi'
    have := trap_of_effect hb hs hf' he
    rw [trap] at this
    cases this

end Cpu

end Hexscope
