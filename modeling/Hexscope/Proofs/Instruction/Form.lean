import Mathlib.Data.Fin.Basic
import Hexscope.Instruction.Effect

/-!
# The forms of opcodes

An opcode is four digits of base sixteen. The first one is its family, and each instruction has a form, which
fixes some of the others (`Instruction.form`). The opcodes that have the form of an instruction are those that
have one.

* `Opcode.ofDigits`: the opcode of four digits, and what is read from it;
* `Instruction.decode?_eq_lookup`: the instruction of an opcode stands in one table, where its selector leads;
* `Instruction.decode?_ofDigits`, `Instruction.decode?_ofDigits_registers`: the instructions of families F and 8,
  by their digits;
* `Instruction.encode_of_decode?`: an instruction belongs to one opcode only;
* `Instruction.fits_of_decode?`: an opcode has the form of its instruction;
* `Instruction.decode?_eq_none_iff`: an opcode without an instruction has no form.
-/

namespace Hexscope

namespace Opcode

/-- The opcode of four digits. -/
def ofDigits (a b c d : Fin 16) : Opcode :=
  UInt16.ofNat (a.val * 4096 + b.val * 256 + c.val * 16 + d.val)

section

variable (a b c d : Fin 16)

theorem toNat_ofDigits :
    (ofDigits a b c d).toNat = a.val * 4096 + b.val * 256 + c.val * 16 + d.val := by
  rw [ofDigits, UInt16.toNat_ofNat']
  omega

@[simp] theorem family_ofDigits : (ofDigits a b c d).family = a.val := by
  rw [family, toNat_ofDigits]
  omega

@[simp] theorem x_ofDigits : (ofDigits a b c d).x = b := by
  apply Fin.ext
  simp only [x, toNat_ofDigits]
  omega

@[simp] theorem y_ofDigits : (ofDigits a b c d).y = c := by
  apply Fin.ext
  simp only [y, toNat_ofDigits]
  omega

@[simp] theorem n_ofDigits : (ofDigits a b c d).n = d := by
  apply Fin.ext
  simp only [n, toNat_ofDigits]
  omega

end

theorem ofDigits_ne_zero (x c d : Fin 16) : ofDigits 0xF x c d ≠ 0 := by
  intro zero
  have family := family_ofDigits 0xF x c d
  rw [zero] at family
  cases family

/-- The opcode of a family that takes an address. -/
def ofAddress (a : Fin 16) (nnn : Fin 4096) : Opcode := UInt16.ofNat (a.val * 4096 + nnn.val)

/-- The opcode of a register and a byte. -/
def ofByte (a b : Fin 16) (kk : UInt8) : Opcode := UInt16.ofNat (a.val * 4096 + b.val * 256 + kk.toNat)

section

variable (a b : Fin 16) (nnn : Fin 4096) (kk : UInt8)

theorem toNat_ofAddress : (ofAddress a nnn).toNat = a.val * 4096 + nnn.val := by
  rw [ofAddress, UInt16.toNat_ofNat']
  omega

theorem toNat_ofByte : (ofByte a b kk).toNat = a.val * 4096 + b.val * 256 + kk.toNat := by
  have bound := kk.toNat_lt
  rw [ofByte, UInt16.toNat_ofNat']
  omega

@[simp] theorem family_ofAddress : (ofAddress a nnn).family = a.val := by
  rw [family, toNat_ofAddress]
  omega

@[simp] theorem family_ofByte : (ofByte a b kk).family = a.val := by
  have bound := kk.toNat_lt
  rw [family, toNat_ofByte]
  omega

@[simp] theorem y_ofByte : (ofByte a b kk).y.val = kk.toNat / 16 := by
  have bound := kk.toNat_lt
  simp only [y, toNat_ofByte]
  omega

@[simp] theorem n_ofByte : (ofByte a b kk).n.val = kk.toNat % 16 := by
  simp only [n, toNat_ofByte]
  omega

end

section

variable {w : Opcode} {a d : Fin 16}

theorem eq_ofDigits (family : w.family = a.val) (last : w.n.val = d.val) : ofDigits a w.x w.y d = w := by
  rw [← UInt16.toNat_inj, toNat_ofDigits, ← family, ← last]
  simp only [Opcode.family, x, y, n]
  omega

theorem eq_ofAddress (family : w.family = a.val) : ofAddress a w.nnn = w := by
  rw [← UInt16.toNat_inj, toNat_ofAddress, ← family]
  simp only [Opcode.family, nnn]
  omega

theorem eq_ofByte (family : w.family = a.val) {kk : UInt8} (low : w.low.toNat = kk.toNat) :
    ofByte a w.x kk = w := by
  rw [← UInt16.toNat_inj, toNat_ofByte, ← family, ← low]
  simp only [Opcode.family, x, Opcode.low, UInt8.toNat_ofNat']
  omega

end

/-- The second byte of an opcode is its last two digits. -/
theorem toNat_low (w : Opcode) : w.low.toNat = w.y.val * 16 + w.n.val := by
  simp only [low, y, n, UInt8.toNat_ofNat']
  omega

/-- The second byte of an opcode by its digits. -/
theorem low_eq_iff (w : Opcode) (b : UInt8) :
    w.low = b ↔ w.y.val = b.toNat / 16 ∧ w.n.val = b.toNat % 16 := by
  have last := w.n.isLt
  rw [← UInt8.toNat_inj, toNat_low]
  omega

end Opcode

/-- A form of opcodes, by its digits. A digit that is left open belongs to an operand. -/
structure Form where
  first : Nat
  second : Option Nat := none
  third : Option Nat := none
  last : Option Nat := none
deriving DecidableEq, Repr

namespace Form

/-- An opcode has the digits that a form fixes. -/
def Fits (f : Form) (w : Opcode) : Prop :=
  w.family = f.first ∧ (∀ d ∈ f.second, w.x.val = d) ∧ (∀ d ∈ f.third, w.y.val = d) ∧
    ∀ d ∈ f.last, w.n.val = d

instance (f : Form) (w : Opcode) : Decidable (f.Fits w) :=
  inferInstanceAs (Decidable (_ ∧ _ ∧ _ ∧ _))

end Form

namespace Instruction

/-- The form of the opcodes of an instruction. -/
def form : Instruction → Form
  | .sys _ => { first := 0x0 }
  | .cls => { first := 0x0, second := some 0x0, third := some 0xE, last := some 0x0 }
  | .ret => { first := 0x0, second := some 0x0, third := some 0xE, last := some 0xE }
  | .jump _ => { first := 0x1 }
  | .call _ => { first := 0x2 }
  | .skipIfByte _ _ => { first := 0x3 }
  | .skipUnlessByte _ _ => { first := 0x4 }
  | .skipIfSame _ _ => { first := 0x5, last := some 0x0 }
  | .loadByte _ _ => { first := 0x6 }
  | .addByte _ _ => { first := 0x7 }
  | .copy _ _ => { first := 0x8, last := some 0x0 }
  | .or _ _ => { first := 0x8, last := some 0x1 }
  | .and _ _ => { first := 0x8, last := some 0x2 }
  | .xor _ _ => { first := 0x8, last := some 0x3 }
  | .add _ _ => { first := 0x8, last := some 0x4 }
  | .sub _ _ => { first := 0x8, last := some 0x5 }
  | .shiftRight _ _ => { first := 0x8, last := some 0x6 }
  | .subFrom _ _ => { first := 0x8, last := some 0x7 }
  | .shiftLeft _ _ => { first := 0x8, last := some 0xE }
  | .skipUnlessSame _ _ => { first := 0x9, last := some 0x0 }
  | .loadIndex _ => { first := 0xA }
  | .jumpPlus _ => { first := 0xB }
  | .random _ _ => { first := 0xC }
  | .draw _ _ _ => { first := 0xD }
  | .skipIfKey _ => { first := 0xE, third := some 0x9, last := some 0xE }
  | .skipUnlessKey _ => { first := 0xE, third := some 0xA, last := some 0x1 }
  | .readDelay _ => { first := 0xF, third := some 0x0, last := some 0x7 }
  | .awaitKey _ => { first := 0xF, third := some 0x0, last := some 0xA }
  | .setDelay _ => { first := 0xF, third := some 0x1, last := some 0x5 }
  | .setSound _ => { first := 0xF, third := some 0x1, last := some 0x8 }
  | .addIndex _ => { first := 0xF, third := some 0x1, last := some 0xE }
  | .glyph _ => { first := 0xF, third := some 0x2, last := some 0x9 }
  | .decimal _ => { first := 0xF, third := some 0x3, last := some 0x3 }
  | .store _ => { first := 0xF, third := some 0x5, last := some 0x5 }
  | .fill _ => { first := 0xF, third := some 0x6, last := some 0x5 }

variable {w : Opcode} {i : Instruction}

theorem decode?_registers (family : w.family = 0x8) : decode? w = decodeRegisters? w := by
  simp only [decode?, family]

theorem decode?_devices (family : w.family = 0xF) : decode? w = decodeDevices? w := by
  simp only [decode?, family]

/-- The instruction of an opcode of family F, by its last two digits. -/
theorem decode?_ofDigits (x c d : Fin 16) : decode? (.ofDigits 0xF x c d) =
    match c.val * 16 + d.val with
    | 0x07 => some (.readDelay x)
    | 0x0A => some (.awaitKey x)
    | 0x15 => some (.setDelay x)
    | 0x18 => some (.setSound x)
    | 0x1E => some (.addIndex x)
    | 0x29 => some (.glyph x)
    | 0x33 => some (.decimal x)
    | 0x55 => some (.store x)
    | 0x65 => some (.fill x)
    | _ => none := by
  have low : (Opcode.ofDigits 0xF x c d).low.toNat = c.val * 16 + d.val := by
    rw [Opcode.toNat_low, Opcode.y_ofDigits, Opcode.n_ofDigits]
  have decoded := decode?_devices (Opcode.family_ofDigits (0xF : Fin 16) x c d)
  rw [decodeDevices?, low, Opcode.x_ofDigits] at decoded
  exact decoded

/-- The instruction of an opcode of family 8, by its last digit. -/
theorem decode?_ofDigits_registers (x y d : Fin 16) : decode? (.ofDigits 0x8 x y d) =
    match d.val with
    | 0 => some (.copy x y)
    | 1 => some (.or x y)
    | 2 => some (.and x y)
    | 3 => some (.xor x y)
    | 4 => some (.add x y)
    | 5 => some (.sub x y)
    | 6 => some (.shiftRight x y)
    | 7 => some (.subFrom x y)
    | 14 => some (.shiftLeft x y)
    | _ => none := by
  have decoded := decode?_registers (Opcode.family_ofDigits (0x8 : Fin 16) x y d)
  rw [decodeRegisters?, Opcode.n_ofDigits, Opcode.x_ofDigits, Opcode.y_ofDigits] at decoded
  exact decoded

/-- The instructions by the selectors of their opcodes, each with its operands read from the opcode. -/
def table : List (Nat × (Opcode → Instruction)) := [
  (0x0000, fun w => .sys w.nnn),
  (0x00E0, fun _ => .cls),
  (0x00EE, fun _ => .ret),
  (0x1000, fun w => .jump w.nnn),
  (0x2000, fun w => .call w.nnn),
  (0x3000, fun w => .skipIfByte w.x w.low),
  (0x4000, fun w => .skipUnlessByte w.x w.low),
  (0x5000, fun w => .skipIfSame w.x w.y),
  (0x6000, fun w => .loadByte w.x w.low),
  (0x7000, fun w => .addByte w.x w.low),
  (0x8000, fun w => .copy w.x w.y),
  (0x8001, fun w => .or w.x w.y),
  (0x8002, fun w => .and w.x w.y),
  (0x8003, fun w => .xor w.x w.y),
  (0x8004, fun w => .add w.x w.y),
  (0x8005, fun w => .sub w.x w.y),
  (0x8006, fun w => .shiftRight w.x w.y),
  (0x8007, fun w => .subFrom w.x w.y),
  (0x800E, fun w => .shiftLeft w.x w.y),
  (0x9000, fun w => .skipUnlessSame w.x w.y),
  (0xA000, fun w => .loadIndex w.nnn),
  (0xB000, fun w => .jumpPlus w.nnn),
  (0xC000, fun w => .random w.x w.low),
  (0xD000, fun w => .draw w.x w.y w.n),
  (0xE09E, fun w => .skipIfKey w.x),
  (0xE0A1, fun w => .skipUnlessKey w.x),
  (0xF007, fun w => .readDelay w.x),
  (0xF00A, fun w => .awaitKey w.x),
  (0xF015, fun w => .setDelay w.x),
  (0xF018, fun w => .setSound w.x),
  (0xF01E, fun w => .addIndex w.x),
  (0xF029, fun w => .glyph w.x),
  (0xF033, fun w => .decimal w.x),
  (0xF055, fun w => .store w.x),
  (0xF065, fun w => .fill w.x)]

theorem lookup_table_eq_none {k : Nat} (h : k ∉ table.map Prod.fst) : table.lookup k = none := by
  rw [List.lookup_eq_none_iff]
  intro e he
  have other : k ≠ e.1 := fun same => h (same ▸ List.mem_map_of_mem he)
  simpa using other

theorem decodeRegisters?_eq_lookup (w : Opcode) :
    decodeRegisters? w = (table.lookup (0x8000 + w.n.val)).map fun read => read w := by
  have digit := w.n.isLt
  unfold decodeRegisters?
  split
  case h_10 =>
    rw [lookup_table_eq_none]
    · rfl
    · simp only [table, List.map_cons, List.map_nil, List.mem_cons, List.not_mem_nil, or_false, imp_false] at *
      omega
  all_goals
    rename_i last
    rw [last]
    rfl

theorem decodeDevices?_eq_lookup (w : Opcode) :
    decodeDevices? w = (table.lookup (0xF000 + w.low.toNat)).map fun read => read w := by
  have byte := w.low.toNat_lt
  unfold decodeDevices?
  split
  case h_10 =>
    rw [lookup_table_eq_none]
    · rfl
    · simp only [table, List.map_cons, List.map_nil, List.mem_cons, List.not_mem_nil, or_false, imp_false] at *
      omega
  all_goals
    rename_i low
    rw [low]
    rfl

/-- The family of key tests has two forms, by the second byte. -/
theorem lookup_keyTest (w : Opcode) : (table.lookup (0xE000 + w.low.toNat)).map (fun read => read w) =
    if w.low = 0x9E then some (.skipIfKey w.x) else if w.low = 0xA1 then some (.skipUnlessKey w.x) else none := by
  split
  · rename_i low
    rw [low]
    rfl
  · split
    · rename_i low
      rw [low]
      rfl
    · rename_i first second
      have byte := w.low.toNat_lt
      have first : w.low.toNat ≠ 0x9E := fun same => first (UInt8.toNat_inj.mp same)
      have second : w.low.toNat ≠ 0xA1 := fun same => second (UInt8.toNat_inj.mp same)
      rw [lookup_table_eq_none]
      · rfl
      · simp only [table, List.map_cons, List.map_nil, List.mem_cons, List.not_mem_nil, or_false]
        omega

/-- A comparison of two registers has a zero for its last digit. -/
theorem lookup_comparison {first : Nat} (family : first = 0x5000 ∨ first = 0x9000) {d : Fin 16} (other : d ≠ 0) :
    table.lookup (first + d.val) = none := by
  have digit := d.isLt
  have last : d.val ≠ 0 := fun zero => other (Fin.ext zero)
  refine lookup_table_eq_none ?_
  simp only [table, List.map_cons, List.map_nil, List.mem_cons, List.not_mem_nil, or_false]
  omega

/-- An opcode is read as the table has it for its selector. -/
theorem decode?_eq_lookup (w : Opcode) : decode? w = (table.lookup w.selector).map fun read => read w := by
  unfold decode?
  split
  case h_1 family =>
    split
    · subst w
      rfl
    · split
      · subst w
        rfl
      · have selector : w.selector = 0 := by simp [Opcode.selector, *]
        rw [selector]
        rfl
  case h_6 family | h_10 family =>
    have selector : w.selector = w.family * 4096 + w.n := by simp only [Opcode.selector, family]
    rw [selector, family]
    split
    · rename_i last
      rw [last]
      rfl
    · rename_i other
      rw [lookup_comparison (by decide) other]
      rfl
  case h_9 family =>
    have selector : w.selector = w.family * 4096 + w.n := by simp only [Opcode.selector, family]
    rw [selector, family]
    exact decodeRegisters?_eq_lookup w
  case h_15 family =>
    have selector : w.selector = w.family * 4096 + w.low.toNat := by simp only [Opcode.selector, family]
    rw [selector, family]
    exact (lookup_keyTest w).symm
  case h_16 family =>
    have selector : w.selector = w.family * 4096 + w.low.toNat := by simp only [Opcode.selector, family]
    rw [selector, family]
    exact decodeDevices?_eq_lookup w
  case h_17 =>
    have bound := w.toNat_lt
    have inside : w.family < 16 := by unfold Opcode.family; omega
    simp only [imp_false] at *
    omega
  all_goals
    rename_i family
    have selector : w.selector = w.family * 4096 := by simp only [Opcode.selector, family]
    rw [selector, family]
    rfl

/-- The opcode of an instruction. -/
def encode : Instruction → Opcode
  | .sys a => .ofAddress 0x0 a
  | .cls => 0x00E0
  | .ret => 0x00EE
  | .jump a => .ofAddress 0x1 a
  | .call a => .ofAddress 0x2 a
  | .skipIfByte x b => .ofByte 0x3 x b
  | .skipUnlessByte x b => .ofByte 0x4 x b
  | .skipIfSame x y => .ofDigits 0x5 x y 0x0
  | .loadByte x b => .ofByte 0x6 x b
  | .addByte x b => .ofByte 0x7 x b
  | .copy x y => .ofDigits 0x8 x y 0x0
  | .or x y => .ofDigits 0x8 x y 0x1
  | .and x y => .ofDigits 0x8 x y 0x2
  | .xor x y => .ofDigits 0x8 x y 0x3
  | .add x y => .ofDigits 0x8 x y 0x4
  | .sub x y => .ofDigits 0x8 x y 0x5
  | .shiftRight x y => .ofDigits 0x8 x y 0x6
  | .subFrom x y => .ofDigits 0x8 x y 0x7
  | .shiftLeft x y => .ofDigits 0x8 x y 0xE
  | .skipUnlessSame x y => .ofDigits 0x9 x y 0x0
  | .loadIndex a => .ofAddress 0xA a
  | .jumpPlus a => .ofAddress 0xB a
  | .random x b => .ofByte 0xC x b
  | .draw x y n => .ofDigits 0xD x y n
  | .skipIfKey x => .ofByte 0xE x 0x9E
  | .skipUnlessKey x => .ofByte 0xE x 0xA1
  | .readDelay x => .ofByte 0xF x 0x07
  | .awaitKey x => .ofByte 0xF x 0x0A
  | .setDelay x => .ofByte 0xF x 0x15
  | .setSound x => .ofByte 0xF x 0x18
  | .addIndex x => .ofByte 0xF x 0x1E
  | .glyph x => .ofByte 0xF x 0x29
  | .decimal x => .ofByte 0xF x 0x33
  | .store x => .ofByte 0xF x 0x55
  | .fill x => .ofByte 0xF x 0x65

theorem encode_of_decodeRegisters? (family : w.family = 0x8) (h : decodeRegisters? w = some i) :
    i.encode = w := by
  unfold decodeRegisters? at h
  split at h
  case h_10 => cases h
  all_goals
    rename_i last
    cases h
    exact Opcode.eq_ofDigits family last

theorem encode_of_decodeDevices? (family : w.family = 0xF) (h : decodeDevices? w = some i) :
    i.encode = w := by
  unfold decodeDevices? at h
  split at h
  case h_10 => cases h
  all_goals
    rename_i low
    cases h
    exact Opcode.eq_ofByte family low

/-- An instruction belongs to one opcode only. -/
theorem encode_of_decode? (h : decode? w = some i) : i.encode = w := by
  unfold decode? at h
  split at h
  case h_1 family =>
    split at h
    · rename_i same
      cases h
      exact same.symm
    · split at h
      · rename_i same
        cases h
        exact same.symm
      · cases h
        exact Opcode.eq_ofAddress family
  case h_2 family | h_3 family | h_11 family | h_12 family =>
    cases h
    exact Opcode.eq_ofAddress family
  case h_4 family | h_5 family | h_7 family | h_8 family | h_13 family =>
    cases h
    exact Opcode.eq_ofByte family rfl
  case h_6 family | h_10 family =>
    split at h
    · rename_i last
      cases h
      exact Opcode.eq_ofDigits family (congrArg Fin.val last)
    · cases h
  case h_9 family => exact encode_of_decodeRegisters? family h
  case h_14 family =>
    cases h
    exact Opcode.eq_ofDigits family rfl
  case h_15 family =>
    split at h
    · rename_i low
      cases h
      exact Opcode.eq_ofByte family (congrArg UInt8.toNat low)
    · split at h
      · rename_i low
        cases h
        exact Opcode.eq_ofByte family (congrArg UInt8.toNat low)
      · cases h
  case h_16 family => exact encode_of_decodeDevices? family h
  case h_17 => cases h

theorem fits_encode (i : Instruction) : i.form.Fits i.encode := by
  cases i with
  | cls | ret => decide
  | _ => simp [form, encode, Form.Fits]

/-- The opcode of an instruction has its form. -/
theorem fits_of_decode? (h : decode? w = some i) : i.form.Fits w := by
  rw [← encode_of_decode? h]
  exact fits_encode i

/-- An opcode that has the form of an instruction is one of that form. -/
theorem isSome_decode?_of_fits (h : i.form.Fits w) : (decode? w).isSome := by
  have digits := w.toNat_low
  obtain ⟨family, -, third, last⟩ := h
  unfold decode?
  cases i
  case skipIfSame | skipUnlessSame =>
    have zero : w.n = 0 := Fin.ext (last 0 rfl)
    simp only [show w.family = _ from family, form, if_pos zero, Option.isSome_some]
  case copy | or | and | xor | add | sub | shiftRight | subFrom | shiftLeft =>
    simp only [show w.family = _ from family, form, decodeRegisters?, last _ rfl, Option.isSome_some]
  case skipIfKey =>
    have low : w.low = 0x9E := (w.low_eq_iff _).mpr ⟨third _ rfl, last _ rfl⟩
    simp only [show w.family = _ from family, form, if_pos low, Option.isSome_some]
  case skipUnlessKey =>
    have low : w.low = 0xA1 := (w.low_eq_iff _).mpr ⟨third _ rfl, last _ rfl⟩
    simp [show w.family = _ from family, form, low]
  case readDelay | awaitKey | setDelay | setSound | addIndex | glyph | decimal | store | fill =>
    rw [third _ rfl, last _ rfl] at digits
    simp only [show w.family = _ from family, form, decodeDevices?, digits, Option.isSome_some]
  all_goals
    simp only [show w.family = _ from family, form, Option.isSome_some]

/-- The opcodes without an instruction are those that have the form of none. -/
theorem decode?_eq_none_iff (w : Opcode) : decode? w = none ↔ ∀ i : Instruction, ¬ i.form.Fits w := by
  constructor
  · intro none i fits
    have some := isSome_decode?_of_fits fits
    rw [none] at some
    cases some
  · intro unfit
    cases h : decode? w with
    | none => rfl
    | some i => exact absurd (fits_of_decode? h) (unfit i)

end Instruction

/-- An opcode does what its instruction does, if nothing stops that. -/
theorem Opcode.effect_of_done {w : Opcode} {i : Instruction} {keys : Keypad} {b b' : Board}
    (decoded : Instruction.decode? w = some i) (done : i.effect keys b = (b', none)) (pc : Int) :
    w.effect pc keys b = (b', none) := by
  rw [effect, decoded]
  simp only [done]

end Hexscope
