import Mathlib.Algebra.Ring.Nat
import Mathlib.Data.List.Basic
import Hexscope.Instruction.Assembly
import Hexscope.Proofs.Instruction.Form

/-!
# What is told by the text of an instruction

The text of an opcode can be read back. Its parts are found again, because no mnemonic has a blank and no
operand has a comma. An operand is found again from its letters (`Operand.read?`), and an instruction from its
mnemonic and its operands (`Instruction.assemble?`).

* `Operand.read?_text`: an operand can be read back;
* `Opcode.report_text_inj`: a text has one mnemonic and one list of operands;
* `Instruction.assemble?_operands`: so can an instruction, but for the register that a shift ignores;
* `Opcode.text_determines_effect`: opcodes of the same text have the same effect, and are the same but for that
  register.
-/

namespace Hexscope

namespace Radix

theorem toList_hex (places n : Nat) : (hex places n).toList = nibbles places n := String.toList_ofList

theorem hexDigit?_digit {d : Nat} (h : d < 16) : hexDigit? (digit d) = some d := by
  revert d
  decide

/-- A digit is none of the signs that stand between operands and in front of numbers. -/
theorem digit_ne_comma {d : Nat} (h : d < 16) : digit d ≠ ',' := by
  revert d
  decide

/-- Digits are read back as what is left of a number in so many places. -/
theorem ofHex?_nibbles (places n : Nat) : ofHex? (nibbles places n) = some (n % 16 ^ places) := by
  induction places generalizing n with
  | zero => simp [nibbles, ofHex?, Nat.mod_one]
  | succ places ih =>
    have last : n % 16 < 16 := Nat.mod_lt _ (by decide)
    have split : n / 16 % 16 ^ places * 16 + n % 16 = n % 16 ^ (places + 1) := by
      rw [Nat.pow_succ', Nat.mod_mul]
      omega
    have front : (nibbles places (n / 16)).foldlM
        (fun n c => (hexDigit? c).map (n * 16 + ·)) 0 = some (n / 16 % 16 ^ places) := ih (n / 16)
    simp only [nibbles, ofHex?, List.foldlM_append, front, List.foldlM_cons, List.foldlM_nil,
      hexDigit?_digit last, Option.map_some, Option.bind_eq_bind, Option.bind_some, pure, split]

theorem ofHex?_of_lt {places n : Nat} (h : n < 16 ^ places) : ofHex? (nibbles places n) = some n := by
  rw [ofHex?_nibbles, Nat.mod_eq_of_lt h]

theorem hex_inj {places m n : Nat} (hm : m < 16 ^ places) (hn : n < 16 ^ places) (same : hex places m = hex places n) :
    m = n := by
  have letters := congrArg (fun s => ofHex? s.toList) same
  simpa only [toList_hex, ofHex?_of_lt hm, ofHex?_of_lt hn, Option.some.injEq] using letters

theorem comma_notMem_nibbles (places n : Nat) : ',' ∉ nibbles places n := by
  induction places generalizing n with
  | zero => simp [nibbles]
  | succ places ih =>
    have last : n % 16 < 16 := Nat.mod_lt _ (by decide)
    simp [nibbles, ih, (digit_ne_comma last).symm]

end Radix

/-! ## Operands -/

/-- Reads an operand. -/
def Operand.read? : List Char → Option Operand
  | ['I'] => some .index
  | ['[', 'I', ']'] => some .memory
  | ['D', 'T'] => some .delay
  | ['S', 'T'] => some .sound
  | ['K'] => some .key
  | ['F'] => some .font
  | ['B'] => some .digits
  | 'V' :: cs => (Radix.ofHex? cs).map fun n => .register (Fin.ofNat 16 n)
  | '$' :: cs => (Radix.ofHex? cs).map fun n => .address (Fin.ofNat 4096 n)
  | ['#', '$', a, b] => (Radix.ofHex? [a, b]).map fun n => .byte (UInt8.ofNat n)
  | '#' :: '$' :: cs => (Radix.ofHex? cs).map fun n => .word (UInt16.ofNat n)
  | cs => ((List.finRange 16).find? fun n => s!"{n.val}".toList = cs).map .count

theorem Operand.text_register (x : Register) : (register x).text.toList = 'V' :: Radix.nibbles 1 x := by
  rw [text, String.toList_append, Radix.toList_hex]
  rfl

theorem Operand.text_address (a : Fin 4096) : (address a).text.toList = '$' :: Radix.nibbles 3 a := by
  rw [text, String.toList_append, Radix.toList_hex]
  rfl

theorem Operand.text_byte (b : UInt8) : (byte b).text.toList = '#' :: '$' :: Radix.nibbles 2 b.toNat := by
  rw [text, String.toList_append, Radix.toList_hex]
  rfl

theorem Operand.text_word (w : Opcode) : (word w).text.toList = '#' :: '$' :: Radix.nibbles 4 w.toNat := by
  rw [text, String.toList_append, Radix.toList_hex]
  rfl

/-- An operand can be read back. -/
theorem Operand.read?_text (o : Operand) : read? o.text.toList = some o := by
  cases o with
  | register x =>
    rw [text_register]
    show (Radix.ofHex? _).map _ = _
    rw [Radix.ofHex?_of_lt (show x.val < 16 ^ 1 from x.isLt)]
    exact congrArg (some ∘ register) (Fin.ofNat_val_eq_self x)
  | address a =>
    rw [text_address]
    show (Radix.ofHex? _).map _ = _
    rw [Radix.ofHex?_of_lt (show a.val < 16 ^ 3 from a.isLt)]
    exact congrArg (some ∘ address) (Fin.ofNat_val_eq_self a)
  | byte b =>
    rw [text_byte]
    show (Radix.ofHex? (Radix.nibbles 2 b.toNat)).map _ = _
    rw [Radix.ofHex?_of_lt (show b.toNat < 16 ^ 2 from b.toNat_lt)]
    exact congrArg (some ∘ byte) UInt8.ofNat_toNat
  | count n =>
    revert n
    decide
  | word w =>
    rw [text_word]
    show (Radix.ofHex? (Radix.nibbles 4 w.toNat)).map _ = _
    rw [Radix.ofHex?_of_lt (show w.toNat < 16 ^ 4 from w.toNat_lt)]
    exact congrArg (some ∘ word) UInt16.ofNat_toNat
  | _ => rfl

theorem Operand.text_inj {o o' : Operand} (same : o.text.toList = o'.text.toList) : o = o' :=
  Option.some_inj.mp (by rw [← read?_text o, same, read?_text])

theorem Operand.comma_notMem_text (o : Operand) : ',' ∉ o.text.toList := by
  cases o with
  | register x => simp [text_register, Radix.comma_notMem_nibbles]
  | address a => simp [text_address, Radix.comma_notMem_nibbles]
  | byte b => simp [text_byte, Radix.comma_notMem_nibbles]
  | count n =>
    revert n
    decide
  | word w => simp [text_word, Radix.comma_notMem_nibbles]
  | _ => decide

/-! ## Lines -/

/-- What stands before the first of some signs is told by the whole, and so is what stands behind it. -/
theorem eq_of_append_cons_eq {α : Type} {c : α} {front front' back back' : List α} (none : c ∉ front)
    (none' : c ∉ front') (same : front ++ c :: back = front' ++ c :: back') :
    front = front' ∧ back = back' := by
  induction front generalizing front' with
  | nil =>
    cases front' with
    | nil => exact ⟨rfl, (List.cons.inj same).2⟩
    | cons d ds => exact absurd (List.cons.inj same).1 fun eq => none' (eq ▸ List.mem_cons_self)
  | cons d ds ih =>
    cases front' with
    | nil => exact absurd (List.cons.inj same).1 fun eq => none (eq ▸ List.mem_cons_self)
    | cons d' ds' =>
      obtain ⟨head, tail⟩ := List.cons.inj same
      obtain ⟨rest, back⟩ := ih (fun h => none (List.mem_cons_of_mem _ h))
        (fun h => none' (List.mem_cons_of_mem _ h)) tail
      exact ⟨by rw [head, rest], back⟩

/-- Words without commas can be told apart behind each other. -/
theorem intercalate_inj {words words' : List (List Char)} (some : words ≠ []) (some' : words' ≠ [])
    (plain : ∀ cs ∈ words, ',' ∉ cs) (plain' : ∀ cs ∈ words', ',' ∉ cs)
    (same : [',', ' '].intercalate words = [',', ' '].intercalate words') : words = words' := by
  induction words generalizing words' with
  | nil => exact absurd rfl some
  | cons cs rest ih =>
    cases words' with
    | nil => exact absurd rfl some'
    | cons cs' rest' =>
      have none := plain cs List.mem_cons_self
      have none' := plain' cs' List.mem_cons_self
      cases rest with
      | nil =>
        cases rest' with
        | nil => simpa using same
        | cons ds' more' =>
          refine absurd ?_ none
          rw [List.intercalate_singleton, List.intercalate_cons_cons] at same
          simp [same]
      | cons ds more =>
        cases rest' with
        | nil =>
          refine absurd ?_ none'
          rw [List.intercalate_singleton, List.intercalate_cons_cons] at same
          simp [← same]
        | cons ds' more' =>
          rw [List.intercalate_cons_cons, List.intercalate_cons_cons, List.append_assoc,
            List.append_assoc] at same
          obtain ⟨first, behind⟩ := eq_of_append_cons_eq none none' same
          have tail := ih (List.cons_ne_nil _ _) (List.cons_ne_nil _ _)
            (fun cs h => plain cs (List.mem_cons_of_mem _ h))
            (fun cs h => plain' cs (List.mem_cons_of_mem _ h)) (List.cons.inj behind).2
          rw [first, tail]

namespace Opcode

variable {w w' : Opcode} {mnemonic mnemonic' : String} {operands operands' : List Operand}

theorem text_report_nil (w : Opcode) (mnemonic : String) : (w.report mnemonic []).text = mnemonic := rfl

theorem text_report_cons (w : Opcode) (mnemonic : String) (o : Operand) (os : List Operand) :
    (w.report mnemonic (o :: os)).text.toList = mnemonic.toList ++ ' ' ::
      [',', ' '].intercalate ((o :: os).map fun o => o.text.toList) := by
  have joined : (w.report mnemonic (o :: os)).text =
      mnemonic ++ " " ++ String.intercalate ", " ((o :: os).map Operand.text) := rfl
  rw [joined, String.toList_append, String.toList_append, String.toList_intercalate, List.map_map,
    List.append_assoc]
  rfl

/-- A line has one mnemonic and one list of operands. -/
theorem report_text_inj (plain : ' ' ∉ mnemonic.toList) (plain' : ' ' ∉ mnemonic'.toList)
    (same : (w.report mnemonic operands).text = (w'.report mnemonic' operands').text) :
    mnemonic = mnemonic' ∧ operands = operands' := by
  have letters := congrArg String.toList same
  cases operands with
  | nil =>
    cases operands' with
    | nil => exact ⟨same, rfl⟩
    | cons o' os' =>
      refine absurd ?_ plain
      rw [text_report_nil, text_report_cons] at letters
      simp [letters]
  | cons o os =>
    cases operands' with
    | nil =>
      refine absurd ?_ plain'
      rw [text_report_nil, text_report_cons] at letters
      simp [← letters]
    | cons o' os' =>
      rw [text_report_cons, text_report_cons] at letters
      obtain ⟨front, back⟩ := eq_of_append_cons_eq plain plain' letters
      have words := intercalate_inj (by simp) (by simp) (by simp [Operand.comma_notMem_text]) (by simp [Operand.comma_notMem_text]) back
      exact ⟨String.toList_inj.mp front, List.map_injective_iff.mpr (fun _ _ => Operand.text_inj) words⟩

theorem describe_of_decode? {i : Instruction} (decoded : Instruction.decode? w = some i) :
    w.describe = w.report i.mnemonic i.operands := by
  rw [describe, operation?, decoded]
  rfl

theorem describe_of_none (none : Instruction.decode? w = none) : w.describe = w.report "DW" [.word w] := by
  rw [describe, operation?, none]
  rfl

end Opcode

/-! ## Instructions -/

namespace Instruction

/-- An instruction without the register that a shift ignores. -/
def plain : Instruction → Instruction
  | .shiftRight x _ => .shiftRight x 0
  | .shiftLeft x _ => .shiftLeft x 0
  | i => i

/-- Reads an instruction. -/
def assemble? : String → List Operand → Option Instruction
  | "SYS", [.address a] => some (.sys a)
  | "CLS", [] => some .cls
  | "RET", [] => some .ret
  | "JP", [.address a] => some (.jump a)
  | "JP", [.register _, .address a] => some (.jumpPlus a)
  | "CALL", [.address a] => some (.call a)
  | "SE", [.register x, .byte b] => some (.skipIfByte x b)
  | "SE", [.register x, .register y] => some (.skipIfSame x y)
  | "SNE", [.register x, .byte b] => some (.skipUnlessByte x b)
  | "SNE", [.register x, .register y] => some (.skipUnlessSame x y)
  | "ADD", [.register x, .byte b] => some (.addByte x b)
  | "ADD", [.register x, .register y] => some (.add x y)
  | "ADD", [.index, .register x] => some (.addIndex x)
  | "OR", [.register x, .register y] => some (.or x y)
  | "AND", [.register x, .register y] => some (.and x y)
  | "XOR", [.register x, .register y] => some (.xor x y)
  | "SUB", [.register x, .register y] => some (.sub x y)
  | "SHR", [.register x] => some (.shiftRight x 0)
  | "SUBN", [.register x, .register y] => some (.subFrom x y)
  | "SHL", [.register x] => some (.shiftLeft x 0)
  | "RND", [.register x, .byte b] => some (.random x b)
  | "DRW", [.register x, .register y, .count n] => some (.draw x y n)
  | "SKP", [.register x] => some (.skipIfKey x)
  | "SKNP", [.register x] => some (.skipUnlessKey x)
  | "LD", [.register x, .byte b] => some (.loadByte x b)
  | "LD", [.register x, .register y] => some (.copy x y)
  | "LD", [.index, .address a] => some (.loadIndex a)
  | "LD", [.register x, .delay] => some (.readDelay x)
  | "LD", [.register x, .key] => some (.awaitKey x)
  | "LD", [.delay, .register x] => some (.setDelay x)
  | "LD", [.sound, .register x] => some (.setSound x)
  | "LD", [.font, .register x] => some (.glyph x)
  | "LD", [.digits, .register x] => some (.decimal x)
  | "LD", [.memory, .register x] => some (.store x)
  | "LD", [.register x, .memory] => some (.fill x)
  | _, _ => none

/-- The mnemonic and the operands of an instruction tell all that matters of it. -/
theorem assemble?_operands (i : Instruction) : assemble? i.mnemonic i.operands = some i.plain := by
  cases i <;> rfl

/-- A shift does the same whatever its second register is. -/
theorem effect_plain (i : Instruction) (keys : Keypad) (b : Board) :
    i.plain.effect keys b = i.effect keys b := by
  cases i <;> rfl

theorem blank_notMem_mnemonic (i : Instruction) : ' ' ∉ i.mnemonic.toList := by
  cases i <;> simp [mnemonic]

theorem mnemonic_ne_word (i : Instruction) : i.mnemonic ≠ "DW" := by
  cases i <;> simp [mnemonic]

theorem plain_cases (i : Instruction) :
    i.plain = i ∨ (∃ x y, i = .shiftRight x y) ∨ ∃ x y, i = .shiftLeft x y := by
  cases i with
  | shiftRight x y => exact .inr (.inl ⟨x, y, rfl⟩)
  | shiftLeft x y => exact .inr (.inr ⟨x, y, rfl⟩)
  | _ => exact .inl rfl

/-- Instructions that are the same but for the register that a shift ignores. -/
def Alike (i i' : Instruction) : Prop :=
  i = i' ∨ ∃ x y y', (i = .shiftRight x y ∧ i' = .shiftRight x y') ∨ (i = .shiftLeft x y ∧ i' = .shiftLeft x y')

theorem alike_of_plain {i i' : Instruction} (same : i.plain = i'.plain) : i.Alike i' := by
  obtain own | ⟨x, y, rfl⟩ | ⟨x, y, rfl⟩ := i.plain_cases
  · obtain own' | ⟨x, y, rfl⟩ | ⟨x, y, rfl⟩ := i'.plain_cases
    · exact .inl (own.symm.trans (same.trans own'))
    · exact .inr ⟨x, 0, y, .inl ⟨own.symm.trans same, rfl⟩⟩
    · exact .inr ⟨x, 0, y, .inr ⟨own.symm.trans same, rfl⟩⟩
  · obtain own' | ⟨x', y', rfl⟩ | ⟨x', y', rfl⟩ := i'.plain_cases
    · exact .inr ⟨x, y, 0, .inl ⟨rfl, own'.symm.trans same.symm⟩⟩
    · cases same
      exact .inr ⟨x, y, y', .inl ⟨rfl, rfl⟩⟩
    · cases same
  · obtain own' | ⟨x', y', rfl⟩ | ⟨x', y', rfl⟩ := i'.plain_cases
    · exact .inr ⟨x, y, 0, .inr ⟨rfl, own'.symm.trans same.symm⟩⟩
    · cases same
    · cases same
      exact .inr ⟨x, y, y', .inr ⟨rfl, rfl⟩⟩

end Instruction

namespace Opcode

variable {w w' : Opcode}

/-- An opcode is described as a data word exactly if it has no instruction. -/
theorem describe_mnemonic_iff (w : Opcode) : w.describe.mnemonic = "DW" ↔ Instruction.decode? w = none := by
  cases decoded : Instruction.decode? w with
  | none =>
    rw [describe_of_none decoded]
    exact iff_of_true rfl rfl
  | some i =>
    rw [describe_of_decode? decoded]
    exact iff_of_false i.mnemonic_ne_word (Option.some_ne_none i)

/-- A description tells the opcode, also where the text does not. -/
theorem describe_inj (same : w.describe = w'.describe) : w = w' := by
  have code (w : Opcode) : w.describe.code.toList = Radix.nibbles 4 w.toNat := by
    cases decoded : Instruction.decode? w with
    | none =>
      rw [describe_of_none decoded]
      exact Radix.toList_hex ..
    | some i =>
      rw [describe_of_decode? decoded]
      exact Radix.toList_hex ..
  have read (w : Opcode) : Radix.ofHex? w.describe.code.toList = some w.toNat := by
    rw [code, Radix.ofHex?_of_lt (show w.toNat < 16 ^ 4 from w.toNat_lt)]
  exact UInt16.toNat_inj.mp (Option.some_inj.mp (by rw [← read w, same, read w']))

/-- Opcodes that are the same but for the register that a shift ignores. -/
def Alike (w w' : Opcode) : Prop :=
  w = w' ∨ ∃ x y y', (w = .ofDigits 0x8 x y 0x6 ∧ w' = .ofDigits 0x8 x y' 0x6) ∨
    (w = .ofDigits 0x8 x y 0xE ∧ w' = .ofDigits 0x8 x y' 0xE)

/-- What is written alike is alike. -/
theorem alike_of_text (same : w.describe.text = w'.describe.text) : w.Alike w' := by
  have blank : ' ' ∉ "DW".toList := by decide
  cases decoded : Instruction.decode? w with
  | none =>
    rw [describe_of_none decoded] at same
    cases decoded' : Instruction.decode? w' with
    | none =>
      rw [describe_of_none decoded'] at same
      obtain ⟨-, operands⟩ := report_text_inj blank blank same
      cases operands
      exact .inl rfl
    | some i' =>
      rw [describe_of_decode? decoded'] at same
      obtain ⟨mnemonic, -⟩ := report_text_inj blank i'.blank_notMem_mnemonic same
      exact absurd mnemonic.symm i'.mnemonic_ne_word
  | some i =>
    rw [describe_of_decode? decoded] at same
    cases decoded' : Instruction.decode? w' with
    | none =>
      rw [describe_of_none decoded'] at same
      obtain ⟨mnemonic, -⟩ := report_text_inj i.blank_notMem_mnemonic blank same
      exact absurd mnemonic i.mnemonic_ne_word
    | some i' =>
      rw [describe_of_decode? decoded'] at same
      obtain ⟨mnemonic, operands⟩ := report_text_inj i.blank_notMem_mnemonic i'.blank_notMem_mnemonic same
      -- The same mnemonic and operands are read as one instruction, and that has one opcode.
      have read := i.assemble?_operands
      rw [mnemonic, operands, i'.assemble?_operands, Option.some_inj] at read
      have code := Instruction.encode_of_decode? decoded
      have code' := Instruction.encode_of_decode? decoded'
      obtain rfl | ⟨x, y, y', ⟨rfl, rfl⟩ | ⟨rfl, rfl⟩⟩ := Instruction.alike_of_plain read.symm
      · exact .inl (code.symm.trans code')
      · exact .inr ⟨x, y, y', .inl ⟨code.symm, code'.symm⟩⟩
      · exact .inr ⟨x, y, y', .inr ⟨code.symm, code'.symm⟩⟩

/-- Two opcodes are written in the same way and do the same, or neither of them has an instruction. -/
structure Agree (w w' : Opcode) : Prop where
  text : w.describe.text = w'.describe.text
  undefined : Instruction.decode? w = none ↔ Instruction.decode? w' = none
  effect : ∀ pc keys b, w.effect pc keys b = w'.effect pc keys b

/-- Instructions that are written with the same parts, and that nothing stops from doing the same. -/
theorem agree_of_decode? {i i' : Instruction} (decoded : Instruction.decode? w = some i)
    (decoded' : Instruction.decode? w' = some i') (mnemonic : i.mnemonic = i'.mnemonic)
    (operands : i.operands = i'.operands)
    (does : ∀ keys b, ∃ b', i.effect keys b = (b', none) ∧ i'.effect keys b = (b', none)) : w.Agree w' where
  text := by
    rw [describe_of_decode? decoded, describe_of_decode? decoded', mnemonic, operands]
    rfl
  undefined := by
    rw [decoded, decoded']
    exact iff_of_false (Option.some_ne_none i) (Option.some_ne_none i')
  effect pc keys b := by
    obtain ⟨b', done, done'⟩ := does keys b
    rw [effect_of_done decoded done, effect_of_done decoded' done']

theorem Alike.agree (h : w.Alike w') : w.Agree w' := by
  obtain rfl | ⟨x, y, y', ⟨rfl, rfl⟩ | ⟨rfl, rfl⟩⟩ := h
  · exact ⟨rfl, Iff.rfl, fun _ _ _ => rfl⟩
  · exact agree_of_decode? (Instruction.decode?_ofDigits_registers x y 0x6)
      (Instruction.decode?_ofDigits_registers x y' 0x6) rfl rfl fun _ _ => ⟨_, rfl, rfl⟩
  · exact agree_of_decode? (Instruction.decode?_ofDigits_registers x y 0xE)
      (Instruction.decode?_ofDigits_registers x y' 0xE) rfl rfl fun _ _ => ⟨_, rfl, rfl⟩

/-- Two opcodes are written in the same way exactly if they are the same, or shift the same register into the
same direction. Both are undefined then, or neither, and they have the same effect at every address, on every
state, bus and source of random bytes, with any keys down. -/
theorem text_determines_effect (w w' : Opcode) :
    (w.describe.text = w'.describe.text ↔
      w = w' ∨ ∃ x y y', (w = .ofDigits 0x8 x y 0x6 ∧ w' = .ofDigits 0x8 x y' 0x6) ∨
        (w = .ofDigits 0x8 x y 0xE ∧ w' = .ofDigits 0x8 x y' 0xE)) ∧
    (w.describe.text = w'.describe.text →
      (Instruction.decode? w = none ↔ Instruction.decode? w' = none) ∧
      ∀ pc keys b, w.effect pc keys b = w'.effect pc keys b) :=
  ⟨⟨alike_of_text, fun alike => (Alike.agree alike).text⟩,
    fun same => ⟨(alike_of_text same).agree.undefined, (alike_of_text same).agree.effect⟩⟩

/-- The second register of a shift is neither written nor read. -/
theorem text_determines_effect_shift : (0x8126 : Opcode).describe.text = (0x8136 : Opcode).describe.text ∧
    ∀ pc keys b, (0x8126 : Opcode).effect pc keys b = (0x8136 : Opcode).effect pc keys b :=
  have same : (0x8126 : Opcode).describe.text = (0x8136 : Opcode).describe.text := by decide
  ⟨same, ((text_determines_effect 0x8126 0x8136).2 same).2⟩

end Opcode

end Hexscope
