import Hexscope.Text.Lowercase

/-!
# Texts in lower case

A small letter is no capital: the runs of small letters that belong to the runs of capitals do not meet these.
So a text in lower case stays as it is.

* `Text.Case.IsSmall`: the numbers of the characters that are not changed;
* `Text.Case.isSmall_of_simple?`: a small letter is one of them;
* `Text.lowercase_lowercase`: lower-casing twice is lower-casing once.
-/

namespace Hexscope.Text

namespace Case

/-- The number of a character that stays as it is. -/
def IsSmall (n : Nat) : Prop := n ≠ 0x130 ∧ n ≠ 0x3A3 ∧ simple? n = none

instance (n : Nat) : Decidable (IsSmall n) := inferInstanceAs (Decidable (_ ∧ _ ∧ _))

/-- The small letter of the first capital of a run. -/
def Run.low (r : Run) : Nat := ((r.first : Int) + r.shift).toNat

/-- The small letter of the last capital of a run. -/
def Run.high (r : Run) : Nat := ((r.last : Int) + r.shift).toNat

/-- Whether letters between two bounds are none of the capitals of a run. Letters that are all odd or all even
may lie between capitals at distances of two. -/
def avoids (low high : Nat) (alternate : Bool) (q : Run) : Bool :=
  Nat.blt high q.first || Nat.blt q.last low ||
    (alternate && Nat.beq q.step 2 && Nat.beq ((low + q.first) % 2) 1)

/-- Whether the small letters of a run are no capitals, nor the dotted capital I. -/
def Run.isApart (r : Run) : Bool :=
  (Nat.blt r.high 0x130 || Nat.blt 0x130 r.low) &&
    runs.all (avoids r.low r.high (Nat.beq r.step 2 || Nat.beq r.first r.last))

theorem isApart_of_mem {r : Run} (mem : r ∈ runs) : r.isApart = true := by
  have all : runs.all Run.isApart = true := by decide +kernel
  exact List.all_eq_true.mp all r mem

theorem first_shift_nonneg {r : Run} (mem : r ∈ runs) : 0 ≤ (r.first : Int) + r.shift := by
  have all : ∀ r ∈ runs, 0 ≤ (r.first : Int) + r.shift := by decide +kernel
  exact all r mem

theorem simple?_eq_some {n l : Nat} (h : simple? n = some l) :
    ∃ r ∈ runs, r.first ≤ n ∧ n ≤ r.last ∧ (n - r.first) % r.step = 0 ∧ l = ((n : Int) + r.shift).toNat := by
  obtain ⟨r, mem, here⟩ := List.exists_of_findSome?_eq_some h
  simp only [Option.ite_none_right_eq_some, Option.some.injEq] at here
  obtain ⟨⟨low, high, step⟩, rfl⟩ := here
  exact ⟨r, mem, low, high, step, rfl⟩

/-- No letter between bounds is a capital of a run that the bounds avoid. -/
theorem not_capital_of_avoids {low high n : Nat} {alternate : Bool} {q : Run}
    (apart : avoids low high alternate q = true) (above : low ≤ n) (below : n ≤ high)
    (even : alternate = true → (n - low) % 2 = 0) :
    ¬ (q.first ≤ n ∧ n ≤ q.last ∧ (n - q.first) % q.step = 0) := by
  rintro ⟨first, last, step⟩
  simp only [avoids, Bool.or_eq_true, Bool.and_eq_true, Nat.blt_eq, Nat.beq_eq] at apart
  rcases apart with (left | right) | ⟨⟨same, two⟩, odd⟩
  · omega
  · omega
  · have := even same
    rw [two] at step
    omega

/-- A small letter is no capital. -/
theorem isSmall_of_simple? {n l : Nat} (h : simple? n = some l) : IsSmall l := by
  obtain ⟨r, mem, first, last, step, rfl⟩ := simple?_eq_some h
  have apart := isApart_of_mem mem
  have nonneg := first_shift_nonneg mem
  simp only [Run.isApart, Bool.and_eq_true, Bool.or_eq_true, Nat.blt_eq, List.all_eq_true] at apart
  obtain ⟨dotted, apart⟩ := apart
  have above : r.low ≤ ((n : Int) + r.shift).toNat := by unfold Run.low; omega
  have below : ((n : Int) + r.shift).toNat ≤ r.high := by unfold Run.high; omega
  have even : (Nat.beq r.step 2 || Nat.beq r.first r.last) = true →
      (((n : Int) + r.shift).toNat - r.low) % 2 = 0 := by
    rw [show ((n : Int) + r.shift).toNat - r.low = n - r.first by unfold Run.low; omega, Bool.or_eq_true,
      Nat.beq_eq, Nat.beq_eq]
    rintro (two | single)
    · rw [two] at step
      exact step
    · omega
  have none : simple? ((n : Int) + r.shift).toNat = none :=
    List.findSome?_eq_none_iff.mpr fun q mem =>
      if_neg (not_capital_of_avoids (apart q mem) above below even)
  refine ⟨by omega, fun sigma => ?_, none⟩
  rw [sigma] at none
  exact absurd none (by decide)

theorem isSmall_toNat_ofNat {n : Nat} (h : IsSmall n) : IsSmall (Char.ofNat n).toNat := by
  by_cases valid : n.isValidChar
  · have same : Char.ofNat n = Char.ofNatAux n valid := dif_pos valid
    rw [same]
    exact h
  · have zero : Char.ofNat n = '\x00' := dif_neg valid
    rw [zero]
    decide

/-- A code point that stays as it is. -/
def Stays (p : CodePoint) : Prop := ∀ c, p = .char c → IsSmall c.toNat

/-- What becomes of a character stays as it is. -/
theorem stays_lowerAt {before behind : List CodePoint} {c d : Char} (mem : d ∈ lowerAt before c behind) :
    IsSmall d.toNat := by
  unfold lowerAt at mem
  split at mem
  · rcases List.mem_cons.mp mem with rfl | mem
    · decide
    · rw [List.mem_singleton.mp mem]
      decide
  · rename_i dotted
    split at mem
    · rw [List.mem_singleton.mp mem]
      split <;> decide
    · rename_i sigma
      split at mem
      · rename_i l small
        rw [List.mem_singleton.mp mem]
        exact isSmall_toNat_ofNat (isSmall_of_simple? small)
      · rename_i none
        rw [List.mem_singleton.mp mem]
        exact ⟨dotted, sigma, none⟩

theorem lowerAt_of_isSmall {before behind : List CodePoint} {c : Char} (small : IsSmall c.toNat) :
    lowerAt before c behind = [c] := by
  obtain ⟨dotted, sigma, none⟩ := small
  rw [lowerAt, if_neg dotted, if_neg sigma, none]

theorem stays_lowerFrom {before ps : List CodePoint} {p : CodePoint} (mem : p ∈ lowerFrom before ps) :
    Stays p := by
  induction ps generalizing before with
  | nil => cases mem
  | cons q ps ih =>
    cases q with
    | char c =>
      rcases List.mem_append.mp mem with here | rest
      · obtain ⟨d, lowered, rfl⟩ := List.mem_map.mp here
        exact fun e same => CodePoint.char.inj same ▸ stays_lowerAt lowered
      · exact ih rest
    | half k =>
      rcases List.mem_cons.mp mem with rfl | rest
      · exact fun _ same => by cases same
      · exact ih rest

/-- Code points that stay are not changed, whatever is around them. -/
theorem lowerFrom_of_stays {before ps : List CodePoint} (stays : ∀ p ∈ ps, Stays p) :
    lowerFrom before ps = ps := by
  induction ps generalizing before with
  | nil => rfl
  | cons q ps ih =>
    have rest (before : List CodePoint) : lowerFrom before ps = ps :=
      ih fun p mem => stays p (List.mem_cons_of_mem _ mem)
    cases q with
    | char c =>
      rw [lowerFrom, lowerAt_of_isSmall (stays _ List.mem_cons_self c rfl), rest]
      rfl
    | half k =>
      rw [lowerFrom, rest]
      exact fun _ same => by cases same

end Case

/-- A text in lower case stays as it is. -/
@[simp] theorem lowercase_lowercase (s : Text) : s.lowercase.lowercase = s.lowercase :=
  congrArg Text.mk (Case.lowerFrom_of_stays fun _ => Case.stays_lowerFrom)

end Hexscope.Text
