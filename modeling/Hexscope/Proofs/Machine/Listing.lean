import Hexscope.Proofs.Bus.Listing
import Hexscope.Proofs.Instruction.Text
import Hexscope.Proofs.Machine.Inspect
import Hexscope.Proofs.Machine.Outcome

/-!
# A listing and what is executed

A listing names the instructions that the processor executes. Where a line stands before an opcode other than
zero, a step at its address either executes that opcode, and the snapshot carries the text of the line, or it
ends with a fault. The text is that of a data word exactly if the opcode has no instruction.

* `Opcode.isData_iff`: which opcodes are shown as data;
* `Cpu.meets`: how a cycle ends that comes upon an opcode in a memory without gaps;
* `Machine.step_meets`: what a thread does that steps there;
* `Machine.listing_agrees`: what a listing shows, and how a step goes at each of its lines.
-/

namespace Hexscope

/-! ## The text of an opcode -/

theorem Operation.exists_text (o : Operation) : ∃ rest, o.text = o.mnemonic ++ rest := by
  unfold Operation.text
  split
  · exact ⟨"", String.append_empty.symm⟩
  · exact ⟨_, String.append_assoc ..⟩

/-- No instruction is written like a data word. -/
theorem Instruction.mnemonic_ne_data (i : Instruction) (rest rest' : String) :
    i.mnemonic ++ rest ≠ "DW" ++ rest' := by
  intro same
  have letters := congrArg String.toList same
  rw [String.toList_append, String.toList_append] at letters
  cases i <;> simp [mnemonic] at letters

/-- An opcode is shown as data exactly if it has no instruction. -/
theorem Opcode.isData_iff (w : Opcode) :
    (∃ rest, w.describe.text = "DW" ++ rest) ↔ Instruction.decode? w = none := by
  obtain ⟨rest, text⟩ := w.describe.exists_text
  cases decoded : Instruction.decode? w with
  | none =>
    rw [describe_of_none decoded] at text ⊢
    exact iff_of_true ⟨rest, text⟩ rfl
  | some i =>
    rw [describe_of_decode? decoded] at text ⊢
    refine iff_of_false ?_ (Option.some_ne_none i)
    rintro ⟨rest', data⟩
    exact i.mnemonic_ne_data rest rest' (text.symm.trans data)

/-! ## A cycle -/

theorem Trap.ofSlot_ne_bus {near : AccessError} {e : Bus.Error} (h : near ≠ .bus e) (number : Int) :
    some (Trap.access (near.ofSlot number)) ≠ some (Trap.access (.bus e)) := by
  unfold AccessError.ofSlot
  split
  · simpa using h
  · simp

namespace Bus

theorem gapTrap?_ne_notByte (b : Bus) (as : List Int) (d : Number) :
    b.gapTrap? as ≠ some (.access (.bus (.notByte d))) := by
  rw [gapTrap?, ne_eq, Option.map_eq_some_iff]
  rintro ⟨a, -, same⟩
  cases same

/-- What an instruction writes are bytes, whatever is on the stack. -/
theorem Sound.effect_ne_notByte {b : Board} (sound : b.bus.Sound) (i : Instruction) (keys : Keypad)
    (d : Number) : (i.effect keys b).2 ≠ some (.access (.bus (.notByte d))) := by
  cases i with
  | ret =>
    simp only [Instruction.effect, Board.ret]
    split
    · simp
    · split
      · simp
      · exact Trap.ofSlot_ne_bus (by simp) _
  | call a =>
    simp only [Instruction.effect, Board.call]
    split
    · simp
    · split
      · simp
      · exact Trap.ofSlot_ne_bus (by simp) _
  | _ =>
    intro trap
    exact gapTrap?_ne_notByte _ _ d ((sound.trap_of_stackless keys rfl).symm.trans trap)

end Bus

namespace Cpu

variable {c : Cpu} {w : Opcode}

/-- How a cycle ends that comes upon an opcode. -/
inductive Meets (c : Cpu) (w : Opcode) : Prop where
  /-- With a fault, which tells where it happened. -/
  | fails {cause : Fault.Cause} : c.cycle.2 = .fatal →
    c.cycle.1.fault = some ⟨cause, c.state.pc, w.toNat⟩ →
    (cause.kind = .invalidOpcode ↔ Instruction.decode? w = none) → Meets c w
  | executes {v : Fetched} : v.opcode = w → Instruction.decode? w ≠ none →
    c.cycle.2 = .done v w.describe → Meets c w

/-- In a memory without gaps nothing else happens to an opcode that does not end the program. -/
theorem meets (sound : c.bus.Sound) (whole : c.bus.IsWhole) (low : 0 ≤ c.state.pc)
    (inside : c.state.pc + 1 < c.bus.size) (here : c.bus.peekOpcode c.state.pc = .ok w) (nonzero : w ≠ 0) :
    c.Meets w := by
  have known {v : Fetched} {bus : Bus} (fetched : c.fetched = (bus, .ok v)) :
      v.opcode = w ∧ v.pc = c.state.pc := by
    obtain ⟨opcode, pc, -⟩ := opcode_of_fetched fetched
    exact ⟨Except.ok.inj (opcode.symm.trans here), pc⟩
  have ends := ends_cycle c
  generalize left : c.cycle = r at ends
  obtain ⟨d, outcome⟩ := r
  cases ends with
  | outside beyond => omega
  | unreadable _ fetched =>
    obtain ⟨v, read⟩ := exists_fetched sound whole low inside
    rw [fetched] at read
    cases read
  | stopped _ fetched zero => exact absurd ((known fetched).1.symm.trans zero) nonzero
  | unknown _ fetched _ none =>
    obtain ⟨same, pc⟩ := known fetched
    rw [same] at none
    have fault : c.cycle.1.fault = some ⟨.unknownOpcode, c.state.pc, w.toNat⟩ := by
      rw [left, same, pc]
    exact .fails (by rw [left]) fault (iff_of_true rfl none)
  | @faulted bus v i b t _ fetched _ decoded _ _ =>
    obtain ⟨same, pc⟩ := known fetched
    rw [same] at decoded
    have kind : t.cause.kind ≠ .invalidOpcode := by
      cases t <;> simp [Trap.cause, Fault.Cause.kind]
    have fault : c.cycle.1.fault = some ⟨t.cause, c.state.pc, w.toNat⟩ := by
      rw [left, same, pc]
    refine .fails (by rw [left]) fault (iff_of_false kind ?_)
    rw [decoded]
    exact Option.some_ne_none i
  | refused _ fetched _ _ effect =>
    have keep := layout_fetched fetched
    exact absurd (congrArg Prod.snd effect) (Bus.Sound.effect_ne_notByte (sound.of_layout keep) _ _ _)
  | @done bus v i b _ fetched _ decoded _ =>
    obtain ⟨same, -⟩ := known fetched
    rw [same] at decoded
    refine .executes same ?_ (by rw [left, Opcode.describe_of_decode? decoded, same])
    rw [decoded]
    exact Option.some_ne_none i

end Cpu

namespace Machine

variable {m : Machine} {k : Nat} {t : Thread} {w : Opcode}

/-- A step ends with a fault of a kind, which tells the address and the opcode. -/
structure Faults (m n : Machine) (address : Int) (w : Opcode) (kind : ErrorKind) : Prop where
  results : n.results = m.results ++ [.fatal]
  fault : ∃ cause : Fault.Cause, cause.kind = kind ∧ n.cpu.fault = some ⟨cause, address, w.toNat⟩

/-- The snapshot of the instruction that a step executes carries a text. It is told at once, or later if the
instruction waits for a key. -/
inductive Names (m n : Machine) (text : String) : Prop where
  | told {c : Cpu} {now : Moment} : n.inside = m.inside → Tells c m n [now] → now.symbol = some text →
    Names m n text
  | opens {v : Fetched} {o : Operation} {xs ys : List (Fetched × Operation)} : m.inside = xs ++ ys →
    n.inside = xs ++ (v, o) :: ys → Tells m.cpu.cycle.1 m n [] →
    (∀ c : Cpu, (c.closing v o).symbol = some text) → Names m n text

theorem names_of_done {a : Action} {v : Fetched} {o : Operation} (begins : m.begins a = true)
    (done : m.cpu.cycle.2 = .done v o) : m.Names (m.act a) o.text := by
  cases begins_act begins with
  | fails failed _ _ => exact absurd done (failed v o)
  | reports done' _ inside tells =>
    cases done.symm.trans done'
    exact .told inside tells rfl
  | suspends done' before after tells =>
    cases done.symm.trans done'
    exact .opens before after tells fun _ => rfl

/-- A step that comes upon an opcode in a memory without gaps executes it and tells its text, or ends with a
fault. It is the fault of an unknown opcode exactly if there is no such instruction. -/
theorem step_meets (meets : m.cpu.Meets w) (ht : m.threads[k]? = some t)
    (enters : t.enters m.cpu.gate = true) :
    let next := m.act (.move k)
    let address := m.cpu.state.pc
    (m.GoesOn next k t.task w ∧ m.Names next w.describe.text ∨ ∃ kind, m.Faults next address w kind) ∧
    (m.Faults next address w .invalidOpcode ↔ Instruction.decode? w = none) := by
  intro next address
  cases meets with
  | @fails cause fatal fault kind =>
    obtain ⟨results, -, speaker, gate, cpu⟩ := stops_of_stop ht enters (congrArg Outcome.stop? fatal)
    have left : next.cpu.fault = some ⟨cause, address, w.toNat⟩ := by
      rw [cpu]
      exact fault
    refine ⟨.inr ⟨cause.kind, results, cause, rfl, left⟩, ?_, fun none => ?_⟩
    · rintro ⟨-, cause', kind', found⟩
      cases left.symm.trans found
      exact kind.mp kind'
    · exact ⟨results, cause, kind.mpr none, left⟩
  | @executes v same known done =>
    have goesOn := goesOn_of_done ht enters done
    have begins : m.begins (.move k) = true := by
      rw [begins, ht, Option.any_some, enters]
    refine ⟨.inl ⟨same ▸ goesOn, names_of_done begins done⟩, iff_of_false ?_ known⟩
    exact fun faults => goesOn.results_ne (by decide) faults.results

/-- A listing of a memory without gaps covers the range that it was asked for. Each line shows the two bytes
at its address, and the last byte of all stands alone and ends the listing; nothing is recorded. At the address
of a line that stands before an opcode other than zero, whoever steps executes that opcode and tells the text of
the line, or hears of a fault there. The fault is that there is no such instruction exactly if the line shows a
data word. -/
theorem listing_agrees {b : Bus} (built : b.Built) (whole : b.IsWhole) {start : Int} (low : 0 ≤ start)
    (length : Int) : ∃ lines, b.listing start length = .ok lines ∧
      b.Tiles start (min (start + length) b.size) lines ∧ (∀ l ∈ lines, b.Shows l) ∧
      (∀ m : Machine, m.cpu.bus = b →
        m.inspect (.listing start length) = (m, .listing (.ok lines))) ∧
      ∀ l ∈ lines, ∀ w, b.peekOpcode l.address = .ok w → w ≠ 0 →
        ∀ (m : Machine) (k : Nat) (t : Thread), m.cpu.bus.dropLog = b.dropLog →
          m.cpu.state.pc = l.address → m.threads[k]? = some t → t.enters m.cpu.gate = true →
          let next := m.act (.move k)
          (m.GoesOn next k t.task w ∧ m.Names next l.text ∨
            ∃ kind, m.Faults next l.address w kind) ∧
          (m.Faults next l.address w .invalidOpcode ↔ ∃ rest, l.text = "DW" ++ rest) := by
  obtain ⟨lines, listed, tiles, shows⟩ := Bus.exists_listing built.sound whole low length
  refine ⟨lines, listed, tiles, shows, fun m same => ?_, ?_⟩
  · rw [← listed, ← same]
    rfl
  intro l hl w here nonzero m k t memory pc ht enters next
  have layout : m.cpu.bus.layout = b.layout := by
    simpa using congrArg Bus.layout memory
  have opcode : m.cpu.bus.peekOpcode m.cpu.state.pc = .ok w :=
    (congrFun (congrArg Bus.peekOpcode memory) _).trans (pc ▸ here)
  obtain ⟨inside, text⟩ := (shows l hl).text here
  have nonneg := tiles.le_address hl
  rw [← Bus.size_of_layout layout] at inside
  have meets : m.cpu.Meets w :=
    Cpu.meets (built.sound.of_layout layout) (whole.of_layout layout) (by omega) (by omega) opcode nonzero
  rw [text, Opcode.isData_iff, ← pc]
  exact step_meets meets ht enters

/-- A memory with an opcode without instruction, and one that has an instruction behind it. -/
def partlyData : Bus := (Bus.standard.load 0x200 [0x50, 0x01, 0x60, 0x05]).1

/-- A machine with a memory, and a thread that is about to make its first step. -/
def setOut (b : Bus) : Machine :=
  { (default : Machine) with cpu := { (default : Machine).cpu with bus := b } }.act (.step 1)

theorem bus_setOut (b : Bus) : (setOut b).cpu.bus = b := rfl

/-- The listing of an odd number of addresses has a line more. The first opcode is listed as data, and
the step there ends with a fault. -/
theorem agrees_partlyData :
    partlyData.listing 0x200 3 = .ok [⟨0x200, "50 01", "DW #$5001"⟩, ⟨0x202, "60 05", "LD V0, #$05"⟩] ∧
    (setOut partlyData).Faults ((setOut partlyData).act (.move 0)) 0x200 0x5001 .invalidOpcode := by
  have whole : partlyData.IsWhole := by
    refine Bus.IsWhole.of_layout (Bus.layout_load _ _ _) fun a low inside => ?_
    exact Bus.isMapped_standard.mpr ⟨low, inside⟩
  have facts : partlyData.listing 0x200 3 =
        .ok [⟨0x200, "50 01", "DW #$5001"⟩, ⟨0x202, "60 05", "LD V0, #$05"⟩] ∧
      partlyData.peekOpcode 0x200 = .ok 0x5001 ∧ (setOut partlyData).cpu.state.pc = 0x200 ∧
      (setOut partlyData).threads[0]? = some ⟨.steps 1, .ready⟩ ∧
      Thread.enters ⟨.steps 1, .ready⟩ (setOut partlyData).cpu.gate = true := by
    decide +kernel
  obtain ⟨listing, here, pc, thread, enters⟩ := facts
  have built : partlyData.Built := .load _ _ Bus.built_standard
  obtain ⟨lines, listed, -, -, -, agrees⟩ := listing_agrees built whole (by decide : (0 : Int) ≤ 0x200) 3
  cases listing.symm.trans listed
  obtain ⟨-, iff⟩ := agrees _ (List.mem_cons_self ..) 0x5001 here (by decide) (setOut partlyData) 0 _
    (by rw [bus_setOut]) pc thread enters
  exact ⟨listing, iff.mpr ⟨" #$5001", rfl⟩⟩

end Machine

end Hexscope
