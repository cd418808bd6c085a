import Hexscope.Files
import Hexscope.Proofs.Results

/-!
# Texts that name files

Every character has bytes, and so has a half of a surrogate pair that stands for a byte beyond ASCII. A text of
such code points names a file or an account unless it holds the null character, which is the only code point
with a null byte.

* `Text.IsName`: the texts that the system takes;
* `FileName.exists_ofText_iff`: they are the ones that have a file name.
-/

namespace Hexscope

namespace Text

/-- Every code point has bytes, and none of them is the null character. -/
def IsName (s : Text) : Prop :=
  ∀ p ∈ s.points, p ≠ .char (Char.ofNat 0) ∧ ∀ k, p = .half k → 0x480 ≤ k.val ∧ k.val < 0x500

theorem exists_halfByte?_iff {k : Fin 0x800} :
    (∃ b, halfByte? k = some b) ↔ 0x480 ≤ k.val ∧ k.val < 0x500 := by
  simp only [halfByte?, Option.ite_none_right_eq_some, exists_and_left, and_iff_left_iff_imp]
  exact fun _ => ⟨_, rfl⟩

theorem halfByte?_ne_zero {k : Fin 0x800} {b : UInt8} (h : halfByte? k = some b) : b ≠ 0 := by
  simp only [halfByte?, Option.ite_none_right_eq_some, Option.some.injEq] at h
  obtain ⟨bounds, rfl⟩ := h
  intro zero
  have value : (k.val - 0x400) % 256 = 0 := by
    have := congrArg UInt8.toNat zero
    simpa [UInt8.toNat_ofNat'] using this
  omega

/-- The null character is the only one with a null byte. -/
theorem zero_mem_utf8EncodeChar_iff {c : Char} : 0 ∈ String.utf8EncodeChar c ↔ c = Char.ofNat 0 := by
  have byte_zero (n : Nat) : (0 = UInt8.ofNat n) ↔ n % 256 = 0 := by
    rw [eq_comm, ← UInt8.toNat_inj, UInt8.toNat_ofNat']
    rfl
  have zero_iff : c = Char.ofNat 0 ↔ c.val.toNat = 0 := by
    rw [← Char.toNat_inj]
    rfl
  rw [zero_iff, String.utf8EncodeChar]
  split
  · simp only [List.mem_singleton, byte_zero]
    omega
  · split
    · simp only [List.mem_cons, List.not_mem_nil, or_false, byte_zero]
      omega
    · split
      · simp only [List.mem_cons, List.not_mem_nil, or_false, byte_zero]
        omega
      · simp only [List.mem_cons, List.not_mem_nil, or_false, byte_zero]
        omega

/-- The code points of a name have bytes, none of which is null. -/
theorem isName_iff (position : Nat) (ps : List CodePoint) :
    IsName ⟨ps⟩ ↔ ∃ bs, systemBytesFrom position ps = .ok bs ∧ 0 ∉ bs := by
  induction ps generalizing position with
  | nil => exact iff_of_true (fun _ mem => by cases mem) ⟨[], rfl, by simp⟩
  | cons p ps ih =>
    have head_tail : IsName ⟨p :: ps⟩ ↔ (p ≠ .char (Char.ofNat 0) ∧
        ∀ k, p = .half k → 0x480 ≤ k.val ∧ k.val < 0x500) ∧ IsName ⟨ps⟩ :=
      List.forall_mem_cons
    rw [head_tail, ih (position + 1)]
    cases p with
    | char c =>
      simp only [systemBytesFrom, ne_eq, CodePoint.char.injEq, reduceCtorEq, false_implies, implies_true,
        and_true]
      cases systemBytesFrom (position + 1) ps with
      | error e => simp [bind, Except.bind]
      | ok bs => simp [bind, Except.bind, pure, Except.pure, zero_mem_utf8EncodeChar_iff]
    | half k =>
      simp only [systemBytesFrom, ne_eq, reduceCtorEq, not_false_eq_true, CodePoint.half.injEq,
        forall_eq', true_and, ← exists_halfByte?_iff]
      cases byte : halfByte? k with
      | none => simp
      | some b =>
        have nonzero : ¬ 0 = b := fun zero => halfByte?_ne_zero byte zero.symm
        cases systemBytesFrom (position + 1) ps with
        | error e => simp [bind, Except.bind]
        | ok bs => simp [bind, Except.bind, pure, Except.pure, nonzero]

end Text

/-- A text has a file name if it is one that the system takes. -/
theorem FileName.exists_ofText_iff {s : Text} : (∃ path, ofText s = .ok path) ↔ s.IsName := by
  rw [show s.IsName ↔ _ from Text.isName_iff 0 s.points]
  change _ ↔ ∃ bs, s.systemBytes = .ok bs ∧ 0 ∉ bs
  unfold ofText
  cases s.systemBytes with
  | error e => simp [mapError_error, bind, Except.bind]
  | ok bs =>
    simp only [mapError_ok, bind, Except.bind, List.contains_eq_mem, decide_eq_true_eq]
    by_cases zero : 0 ∈ bs
    · simp [zero, throw, throwThe, MonadExceptOf.throw]
    · simp [zero, pure, Except.pure]

end Hexscope
