import Hexscope.Text.Integer
import Mathlib.Data.List.TakeWhile

/-!
# Hexadecimal numerals

Before a numeral is read, each of its code points is reduced to ASCII, where a digit of any script is the same
as the ASCII digit of its value. What is read then may have blanks around it, a sign, the mark of its base, and
single underscores behind the mark and between two digits.

* `Text.Integer.hexadecimal?_eq`: a numeral is read as the reduced one;
* `Text.Integer.Digits`, `Text.Integer.Numeral`: the grammar;
* `Text.Integer.isSome_hexadecimal?_iff`: exactly the numerals of the grammar are read.
-/

namespace Hexscope.Text

/-! ## Reduced characters -/

/-- What holds of each number below 127 holds of each character that a numeral is reduced to. -/
theorem forall_ascii {p : Char → Prop} (h : ∀ k < 127, p (Char.ofNat k)) {c : Char} (hc : c.toNat < 127) :
    p c := by
  rw [← Char.ofNat_toNat c]
  exact h _ hc

theorem value?_of_wideBlank {c : Char} (h : wideBlanks.contains c.toNat = true) :
    DecimalDigit.value? c = none := by
  have apart : ∀ r ∈ wideBlanks, ∀ z ∈ DecimalDigit.zeros, r.2 < z ∨ z + 10 ≤ r.1 := by
    decide +kernel
  obtain ⟨r, hr, low, high⟩ := Ranges.contains_iff.mp h
  refine List.findSome?_eq_none_iff.mpr fun z hz => if_neg ?_
  rcases apart r hr z hz with below | above <;> omega

namespace Integer

theorem plainChar_lt (c : Char) : (plainChar c).toNat < 127 := by
  unfold plainChar
  split
  · assumption
  · split
    · decide
    · cases value : DecimalDigit.value? c with
      | none => decide
      | some d =>
        have small : ∀ d < 10, (Char.ofNat (48 + d)).toNat < 127 := by decide
        exact small d (DecimalDigit.value?_lt value)

theorem plain_lt : (p : CodePoint) → (plain p).toNat < 127
  | .char c => plainChar_lt c
  | .half _ => show '?'.toNat < 127 by decide

/-- The integer of a hexadecimal numeral that is reduced to ASCII. -/
def hexadecimalValue? (cs : List Char) : Option Int :=
  let signedDigits := splitSign (stripBlanks cs)
  (digitsValue? 16 0 false (dropMark 16 signedDigits.2)).map (signed signedDigits.1)

theorem hexadecimal?_eq (s : Text) : hexadecimal? s = hexadecimalValue? (s.points.map plain) := by
  unfold hexadecimal? read hexadecimalValue? body
  simp only [show ¬ (16 = 10) by decide, false_and, if_false]
  split <;> rename_i value <;> rw [value] <;> rfl

theorem digit?_lt {c : Char} {d : Nat} (h : digit? 16 c = some d) : d < 16 := by
  simp only [digit?, Option.ite_none_right_eq_some, Option.some.injEq] at h
  exact h.2 ▸ h.1

/-- A numeral of one code point is one digit. -/
theorem hexadecimal?_singleton (p : CodePoint) :
    hexadecimal? ⟨[p]⟩ = (digit? 16 (plain p)).map Int.ofNat := by
  have ascii : ∀ k < 127, hexadecimalValue? [Char.ofNat k] =
      (digit? 16 (Char.ofNat k)).map Int.ofNat := by
    decide +kernel
  rw [hexadecimal?_eq]
  exact forall_ascii (p := fun c => hexadecimalValue? [c] = (digit? 16 c).map Int.ofNat) ascii (plain_lt p)

/-! ## The grammar -/

/-- One of the digits `0` to `9`, `a` to `f` and `A` to `F`. -/
def HexDigit (c : Char) : Prop :=
  ('0' ≤ c ∧ c ≤ '9') ∨ ('a' ≤ c ∧ c ≤ 'f') ∨ ('A' ≤ c ∧ c ≤ 'F')

instance (c : Char) : Decidable (HexDigit c) := inferInstanceAs (Decidable (_ ∨ _ ∨ _))

/-- Hexadecimal digits with single underscores between them. -/
inductive Digits : List Char → Prop where
  | one {c} : HexDigit c → Digits [c]
  | more {c cs} : HexDigit c → Digits cs → Digits (c :: cs)
  | spaced {c cs} : HexDigit c → Digits cs → Digits (c :: '_' :: cs)

/-- The signs of a numeral. -/
def signs : List (List Char) := [[], ['+'], ['-']]

/-- The marks of a hexadecimal numeral. -/
def marks : List (List Char) :=
  [[], ['0', 'x'], ['0', 'X'], ['0', 'x', '_'], ['0', 'X', '_']]

/-- Digits behind a sign and a mark, with blanks around them. -/
inductive Numeral : List Char → Prop where
  | mk {before sign mark digits behind} :
    (∀ c ∈ before, isBlank c = true) → sign ∈ signs → mark ∈ marks → Digits digits →
      (∀ c ∈ behind, isBlank c = true) → Numeral (before ++ (sign ++ (mark ++ digits)) ++ behind)

variable {c : Char} {cs : List Char}

theorem le_iff_toNat_le {a b : Char} : a ≤ b ↔ a.toNat ≤ b.toNat := UInt32.le_iff_toNat_le

theorem isSome_digit?_iff : (digit? 16 c).isSome = true ↔ HexDigit c := by
  simp only [HexDigit, le_iff_toNat_le, show '0'.toNat = 48 from rfl, show '9'.toNat = 57 from rfl,
    show 'a'.toNat = 97 from rfl, show 'f'.toNat = 102 from rfl, show 'A'.toNat = 65 from rfl,
    show 'F'.toNat = 70 from rfl, digit?, Option.isSome_ite]
  split
  · omega
  · split
    · omega
    · split <;> omega

theorem not_hexDigit_underscore : ¬ HexDigit '_' := by decide

theorem digits_cons_iff (digit : HexDigit c) :
    Digits (c :: cs) ↔ cs = [] ∨ Digits cs ∨ ∃ ds, cs = '_' :: ds ∧ Digits ds := by
  constructor
  · intro h
    cases h with
    | one _ => exact .inl rfl
    | more _ rest => exact .inr (.inl rest)
    | spaced _ rest => exact .inr (.inr ⟨_, rfl, rest⟩)
  · rintro (rfl | rest | ⟨ds, rfl, rest⟩)
    · exact .one digit
    · exact .more digit rest
    · exact .spaced digit rest

theorem Digits.head (h : Digits (c :: cs)) : HexDigit c := by
  cases h <;> assumption

/-- Exactly the digits of the grammar have a value. Behind a digit there may be nothing more, or an
underscore. -/
theorem isSome_digitsValue?_iff (acc : Nat) (cs : List Char) :
    ((digitsValue? 16 acc false cs).isSome = true ↔ Digits cs) ∧
      ((digitsValue? 16 acc true cs).isSome = true ↔
        cs = [] ∨ Digits cs ∨ ∃ ds, cs = '_' :: ds ∧ Digits ds) := by
  induction cs generalizing acc with
  | nil =>
    refine ⟨iff_of_false (by simp [digitsValue?]) fun h => ?_, iff_of_true rfl (.inl rfl)⟩
    cases h
  | cons c cs ih =>
    by_cases underscore : c = '_'
    · subst underscore
      have none : ¬ Digits ('_' :: cs) := fun h => not_hexDigit_underscore h.head
      refine ⟨iff_of_false (by simp [digitsValue?]) none, ?_⟩
      rw [digitsValue?, if_pos rfl, if_pos rfl, (ih acc).1]
      simp [none]
    · have notSpaced : ¬ ∃ ds, c :: cs = '_' :: ds ∧ Digits ds := fun ⟨_, same, _⟩ =>
        underscore (List.cons.inj same).1
      cases value : digit? 16 c with
      | none =>
        have noDigit : ¬ Digits (c :: cs) := fun h => by
          have := isSome_digit?_iff.mpr h.head
          rw [value] at this
          cases this
        simp [digitsValue?, underscore, value, noDigit]
      | some d =>
        have digit : HexDigit c := isSome_digit?_iff.mp (by rw [value]; rfl)
        have reads (after : Bool) : digitsValue? 16 acc after (c :: cs) = digitsValue? 16 (acc * 16 + d) true cs := by
          rw [digitsValue?, if_neg underscore, value]
        rw [reads, reads, (ih _).2, digits_cons_iff digit]
        simp [underscore]

/-! ## Signs and marks -/

theorem exists_splitSign (cs : List Char) : ∃ sign ∈ signs, cs = sign ++ (splitSign cs).2 := by
  unfold splitSign
  split
  · exact ⟨['-'], by decide, rfl⟩
  · exact ⟨['+'], by decide, rfl⟩
  · exact ⟨[], by decide, rfl⟩

theorem toLower_eq_x_iff {m : Char} : m.toLower = 'x' ↔ m = 'x' ∨ m = 'X' := by
  by_cases ascii : m.toNat < 127
  · have all : ∀ k < 127, (Char.ofNat k).toLower = 'x' ↔ Char.ofNat k = 'x' ∨ Char.ofNat k = 'X' := by decide
    exact forall_ascii (p := fun m => m.toLower = 'x' ↔ m = 'x' ∨ m = 'X') all ascii
  · have same : m.toLower = m := by
      unfold Char.toLower
      split
      · rename_i capital
        have := le_iff_toNat_le.mp capital.2
        exact absurd (Nat.lt_of_le_of_lt this (by decide)) ascii
      · rfl
    rw [same]
    refine ⟨.inl, fun h => ?_⟩
    rcases h with rfl | rfl
    · rfl
    · exact absurd (by decide) ascii

theorem exists_dropMark (cs : List Char) : ∃ mark ∈ marks, cs = mark ++ dropMark 16 cs := by
  unfold dropMark
  split
  · rename_i m cs
    split
    · rename_i marked
      rcases toLower_eq_x_iff.mp (Option.some.inj marked).symm with rfl | rfl
      · split
        · exact ⟨['0', 'x', '_'], by decide, rfl⟩
        · exact ⟨['0', 'x'], by decide, rfl⟩
      · split
        · exact ⟨['0', 'X', '_'], by decide, rfl⟩
        · exact ⟨['0', 'X'], by decide, rfl⟩
    · exact ⟨[], by decide, rfl⟩
  · exact ⟨[], by decide, rfl⟩

/-- The digits behind a mark are what is left when the mark is dropped. -/
theorem dropMark_append {mark digits : List Char} (mem : mark ∈ marks) (h : Digits digits) :
    dropMark 16 (mark ++ digits) = digits := by
  have unmarked : dropMark 16 digits = digits := by
    unfold dropMark
    split
    · rename_i m cs
      refine if_neg fun marked => ?_
      have letter := toLower_eq_x_iff.mp (Option.some.inj marked).symm
      have notDigit : ¬ HexDigit m := by rcases letter with rfl | rfl <;> decide
      cases h with
      | more _ rest => exact notDigit rest.head
      | spaced _ _ => revert letter; decide
    · rfl
  have unspaced (ds : List Char) : digits ≠ '_' :: ds := fun same =>
    not_hexDigit_underscore (same ▸ h).head
  simp only [marks, List.mem_cons, List.not_mem_nil, or_false] at mem
  rcases mem with rfl | rfl | rfl | rfl | rfl
  · exact unmarked
  · rw [List.cons_append, List.cons_append, List.nil_append, dropMark, if_pos (by decide)]
    exact unspaced
  · rw [List.cons_append, List.cons_append, List.nil_append, dropMark, if_pos (by decide)]
    exact unspaced
  · rfl
  · rfl

theorem splitSign_append {sign rest : List Char} (mem : sign ∈ signs) (minus : ∀ cs, rest ≠ '-' :: cs)
    (plus : ∀ cs, rest ≠ '+' :: cs) : (splitSign (sign ++ rest)).2 = rest := by
  simp only [signs, List.mem_cons, List.not_mem_nil, or_false] at mem
  rcases mem with rfl | rfl | rfl
  · rw [List.nil_append]
    unfold splitSign
    split
    · exact absurd rfl (minus _)
    · exact absurd rfl (plus _)
    · rfl
  · rfl
  · rfl

/-! ## Blanks -/

theorem exists_stripBlanks (cs : List Char) : ∃ before behind, (∀ c ∈ before, isBlank c = true) ∧
    (∀ c ∈ behind, isBlank c = true) ∧ cs = before ++ stripBlanks cs ++ behind := by
  have parts : ((cs.dropWhile isBlank).reverse.dropWhile isBlank).reverse ++
      ((cs.dropWhile isBlank).reverse.takeWhile isBlank).reverse = cs.dropWhile isBlank := by
    rw [← List.reverse_append, List.takeWhile_append_dropWhile, List.reverse_reverse]
  refine ⟨cs.takeWhile isBlank, ((cs.dropWhile isBlank).reverse.takeWhile isBlank).reverse,
    fun c mem => List.mem_takeWhile_imp mem,
    fun c mem => List.mem_takeWhile_imp (List.mem_reverse.mp mem), ?_⟩
  rw [List.append_assoc, stripBlanks, parts, List.takeWhile_append_dropWhile]

theorem stripBlanks_append {before middle behind : List Char} (blankBefore : ∀ c ∈ before, isBlank c = true)
    (blankBehind : ∀ c ∈ behind, isBlank c = true)
    (first : ∃ c cs, middle = c :: cs ∧ isBlank c = false)
    (last : ∃ cs c, middle = cs ++ [c] ∧ isBlank c = false) :
    stripBlanks (before ++ middle ++ behind) = middle := by
  obtain ⟨c, cs, head, blankFirst⟩ := first
  obtain ⟨ds, d, tail, blankLast⟩ := last
  have left : (before ++ middle ++ behind).dropWhile isBlank = middle ++ behind := by
    rw [List.append_assoc, List.dropWhile_append_of_pos blankBefore, head, List.cons_append,
      List.dropWhile_cons_of_neg (by simp [blankFirst])]
  have right : (middle ++ behind).reverse.dropWhile isBlank = middle.reverse := by
    rw [List.reverse_append,
      List.dropWhile_append_of_pos fun c mem => blankBehind c (List.mem_reverse.mp mem), tail,
      List.reverse_append]
    exact List.dropWhile_cons_of_neg (by simp [blankLast])
  rw [stripBlanks, left, right, List.reverse_reverse]

theorem lt_of_hexDigit (h : HexDigit c) : c.toNat < 127 := by
  rcases h with h | h | h <;> exact Nat.lt_of_le_of_lt (le_iff_toNat_le.mp h.2) (by decide)

theorem isBlank_of_hexDigit (h : HexDigit c) : isBlank c = false := by
  have all : ∀ k < 127, HexDigit (Char.ofNat k) → isBlank (Char.ofNat k) = false := by decide
  exact forall_ascii (p := fun c => HexDigit c → isBlank c = false) all (lt_of_hexDigit h) h

theorem Digits.exists_last (h : Digits cs) : ∃ ds d, cs = ds ++ [d] ∧ HexDigit d := by
  induction h with
  | one digit => exact ⟨[], _, rfl, digit⟩
  | more _ _ ih =>
    obtain ⟨ds, d, rfl, digit⟩ := ih
    exact ⟨_ :: ds, d, rfl, digit⟩
  | spaced _ _ ih =>
    obtain ⟨ds, d, rfl, digit⟩ := ih
    exact ⟨_ :: '_' :: ds, d, rfl, digit⟩

/-- Behind a sign, a numeral begins with a digit. -/
theorem Digits.exists_first {mark digits : List Char} (mem : mark ∈ marks) (h : Digits digits) :
    ∃ c cs, mark ++ digits = c :: cs ∧ HexDigit c := by
  simp only [marks, List.mem_cons, List.not_mem_nil, or_false] at mem
  rcases mem with rfl | rfl | rfl | rfl | rfl
  · cases h with
    | one digit | more digit _ | spaced digit _ => exact ⟨_, _, rfl, digit⟩
  all_goals exact ⟨'0', _, rfl, by decide⟩

theorem exists_first_of_signs {sign rest ds : List Char} {d : Char} (mem : sign ∈ signs) (first : rest = d :: ds)
    (blank : isBlank d = false) : ∃ c cs, sign ++ rest = c :: cs ∧ isBlank c = false := by
  simp only [signs, List.mem_cons, List.not_mem_nil, or_false] at mem
  rcases mem with rfl | rfl | rfl
  · exact ⟨d, ds, first, blank⟩
  · exact ⟨'+', rest, rfl, by decide⟩
  · exact ⟨'-', rest, rfl, by decide⟩

/-- Exactly the numerals of the grammar are read. -/
theorem isSome_hexadecimalValue?_iff : (hexadecimalValue? cs).isSome = true ↔ Numeral cs := by
  rw [hexadecimalValue?, Option.isSome_map, (isSome_digitsValue?_iff 0 _).1]
  constructor
  · intro digits
    obtain ⟨before, behind, blankBefore, blankBehind, parts⟩ := exists_stripBlanks cs
    obtain ⟨sign, signed, middle⟩ := exists_splitSign (stripBlanks cs)
    obtain ⟨mark, marked, rest⟩ := exists_dropMark (splitSign (stripBlanks cs)).2
    rw [parts, middle, rest]
    exact .mk blankBefore signed marked digits blankBehind
  · intro h
    cases h with
    | @mk before sign mark digits behind blankBefore signed marked reads blankBehind =>
      obtain ⟨d, ds, first, digit⟩ := reads.exists_first marked
      obtain ⟨es, e, last, lastDigit⟩ := reads.exists_last
      have unsigned (c : Char) (notDigit : ¬ HexDigit c) (cs : List Char) : mark ++ digits ≠ c :: cs := by
        rw [first]
        exact fun same => notDigit ((List.cons.inj same).1 ▸ digit)
      have stripped := stripBlanks_append blankBefore blankBehind
        (exists_first_of_signs signed first (isBlank_of_hexDigit digit))
        ⟨sign ++ (mark ++ es), e, by rw [last]; simp, isBlank_of_hexDigit lastDigit⟩
      rw [stripped, splitSign_append signed (unsigned '-' (by decide)) (unsigned '+' (by decide)),
        dropMark_append marked reads]
      exact reads

theorem isSome_hexadecimal?_iff {s : Text} :
    (hexadecimal? s).isSome = true ↔ Numeral (s.points.map plain) := by
  rw [hexadecimal?_eq, isSome_hexadecimalValue?_iff]

end Integer

end Hexscope.Text
