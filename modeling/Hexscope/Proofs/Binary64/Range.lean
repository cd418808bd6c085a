import Hexscope.Binary64
import Mathlib.Algebra.Ring.Nat

/-!
# The range of floating point numbers

An integer has a floating point form unless it lies beyond the largest number by half a step of it or more.
Clamping puts every number between zero and one, also infinite ones and what is not a number, and a number that
has been clamped stays as it is.

* `Binary64.ofInt?_eq_none_iff`: the integers without a floating point form;
* `Binary64.inUnit_clampUnit`, `Binary64.clampUnit_clampUnit`: what clamping does.
-/

namespace Hexscope.Binary64

/-! ## Integers -/

/-- The largest number has 53 bits, and half a step of it is two to this power. -/
def halfStep : Nat := 970

/-- The least magnitude of an integer that rounds beyond the largest number: half a step below the next
power of two. -/
def hugeFrom : Nat := 2 ^ (54 + halfStep) - 2 ^ halfStep

/-- A quotient below a power of two rounds up to it from half a step below it on. -/
theorem roundQuotient_eq_iff (num den : Nat) (below : num < 2 ^ 53 * den) :
    roundQuotient num den = 2 ^ 53 ↔ 2 ^ 54 * den ≤ 2 * num + den := by
  have den_pos : 0 < den := Nat.pos_of_mul_pos_left (Nat.zero_lt_of_lt below)
  have whole := Nat.div_add_mod num den
  have rest : num % den < den := Nat.mod_lt _ den_pos
  have quotient : num / den < 2 ^ 53 := (Nat.div_lt_iff_lt_mul den_pos).mpr below
  unfold roundQuotient
  by_cases last : num / den = 0x1FFFFFFFFFFFFF
  · rw [last] at whole ⊢
    simp only [show ¬ 0x1FFFFFFFFFFFFF % 2 = 0 by decide, if_false]
    split
    · omega
    · split <;> omega
  · have early : den * (num / den + 2) ≤ den * 2 ^ 53 := Nat.mul_le_mul_left den (by omega)
    rw [Nat.mul_add, Nat.mul_comm den (2 ^ 53)] at early
    dsimp only
    split
    · omega
    · split
      · omega
      · split <;> omega

theorem exponentOf_one (n : Nat) (nonzero : n ≠ 0) : exponentOf n 1 = (Nat.log2 n : Int) - 52 := by
  have full : 1 <<< Nat.log2 n ≤ n := by
    rw [Nat.one_shiftLeft]
    exact Nat.log2_self_le nonzero
  have low : (Nat.log2 n : Int) - Nat.log2 1 - precision = Nat.log2 n - 53 := by
    rw [show Nat.log2 1 = 0 by decide]
    simp [precision]
  have scaled : scale n 1 ((Nat.log2 n : Int) - 53 + precision) = (n, 1 <<< Nat.log2 n) := by
    rw [show (Nat.log2 n : Int) - 53 + precision = Nat.log2 n by simp [precision], scale,
      if_pos (Int.natCast_nonneg _)]
    rfl
  unfold exponentOf
  dsimp only
  rw [low, scaled]
  dsimp only
  rw [if_pos full, minExponent]
  omega

/-- What an integer rounds to is infinite if its exponent is too large, perhaps only after it has been rounded
up to a power of two. -/
theorem infinite_ofRatio_iff (s : Bool) {n num den : Nat} (nonzero : n ≠ 0)
    (scaled : scale n 1 (Nat.log2 n - 52) = (num, den)) :
    (∃ t, ofRatio s n 1 = .infinite t) ↔
      1024 ≤ Nat.log2 n + if roundQuotient num den = 2 ^ 53 then 1 else 0 := by
  simp only [ofRatio, if_neg nonzero, exponentOf_one n nonzero, scaled, Nat.one_shiftLeft, precision]
  by_cases carried : roundQuotient num den = 2 ^ 53
  · rw [if_pos carried, if_pos carried]
    by_cases beyond : maxExponent < (Nat.log2 n : Int) - 52 + 1
    · rw [if_pos beyond]
      simp only [maxExponent] at beyond
      exact iff_of_true ⟨s, rfl⟩ (by omega)
    · rw [if_neg beyond]
      simp only [maxExponent] at beyond
      exact iff_of_false (fun ⟨_, h⟩ => by cases h) (by omega)
  · rw [if_neg carried, if_neg carried]
    by_cases beyond : maxExponent < (Nat.log2 n : Int) - 52
    · rw [if_pos beyond]
      simp only [maxExponent] at beyond
      exact iff_of_true ⟨s, rfl⟩ (by omega)
    · rw [if_neg beyond]
      simp only [maxExponent] at beyond
      exact iff_of_false (fun ⟨_, h⟩ => by cases h) (by omega)

theorem ofInt?_eq_none (n : Int) :
    ofInt? n = none ↔ ∃ t, ofRatio (n < 0) n.natAbs 1 = .infinite t := by
  unfold ofInt?
  split
  · rename_i t huge
    exact iff_of_true rfl ⟨t, huge⟩
  · rename_i x finite
    exact iff_of_false (fun h => by cases h) fun ⟨t, h⟩ => finite t h

/-- Whether an integer reaches a power of two when it is rounded to 53 bits, half a step below the power being
`2 ^ t`. -/
theorem reaches_iff {t n num den : Nat} (nonzero : n ≠ 0)
    (scaled : Nat.log2 n = 53 + t → num = n ∧ den = 2 * 2 ^ t) :
    54 + t ≤ Nat.log2 n + (if roundQuotient num den = 2 ^ 53 then 1 else 0) ↔
      2 ^ (54 + t) ≤ n + 2 ^ t := by
  have low : 2 ^ Nat.log2 n ≤ n := Nat.log2_self_le nonzero
  have high : n < 2 ^ (Nat.log2 n + 1) := Nat.lt_log2_self
  have top : 2 ^ (54 + t) = 2 ^ 54 * 2 ^ t := Nat.pow_add 2 54 t
  rcases Nat.lt_trichotomy (Nat.log2 n) (53 + t) with less | same | more
  · -- The power of two above the integer is smaller by far.
    have bound : 2 ^ (Nat.log2 n + 1) ≤ 2 ^ (53 + t) := Nat.pow_le_pow_right (by decide) less
    have below : 2 ^ (53 + t) = 2 ^ 53 * 2 ^ t := Nat.pow_add 2 53 t
    refine iff_of_false ?_ (by omega)
    split <;> omega
  · obtain ⟨rfl, rfl⟩ := scaled same
    rw [same, show 53 + t + 1 = 54 + t by omega] at high
    have rounds := roundQuotient_eq_iff num (2 * 2 ^ t) (by omega)
    rw [same]
    by_cases up : roundQuotient num (2 * 2 ^ t) = 2 ^ 53
    · rw [if_pos up]
      have reached := rounds.mp up
      exact iff_of_true (by omega) (by omega)
    · rw [if_neg up]
      exact iff_of_false (by omega) fun h => up (rounds.mpr (by omega))
  · have bound : 2 ^ (54 + t) ≤ 2 ^ Nat.log2 n := Nat.pow_le_pow_right (by decide) (by omega)
    exact iff_of_true (by omega) (by omega)

/-- The integers without a floating point form are those that lie at least half a step beyond the largest
number. -/
theorem ofInt?_eq_none_iff {n : Int} : ofInt? n = none ↔ hugeFrom ≤ n.natAbs := by
  rw [ofInt?_eq_none, hugeFrom, Nat.sub_le_iff_le_add]
  -- As a number, the power would be evaluated.
  generalize same_step : halfStep = t
  by_cases zero : n.natAbs = 0
  · rw [zero]
    have power : 2 ^ (54 + t) = 2 ^ 54 * 2 ^ t := Nat.pow_add ..
    have positive := Nat.two_pow_pos t
    exact iff_of_false (fun ⟨_, h⟩ => by simp [ofRatio] at h) (by omega)
  · rcases scaled : scale n.natAbs 1 (Nat.log2 n.natAbs - 52) with ⟨num, den⟩
    rw [infinite_ofRatio_iff _ zero scaled, show 1024 = 54 + t by rw [← same_step]; rfl]
    refine reaches_iff zero fun same => ?_
    rw [same, show ((53 + t : Nat) : Int) - 52 = (t + 1 : Nat) by omega, scale,
      if_pos (Int.natCast_nonneg _), Int.toNat_natCast, Nat.one_shiftLeft, Nat.pow_succ'] at scaled
    exact ⟨(Prod.mk.inj scaled).1.symm, (Prod.mk.inj scaled).2.symm⟩

/-! ## Clamping -/

variable {x y : Binary64}

theorem lt_asymm (h : lt x y = true) : lt y x = false := by
  cases x with
  | nan => simp [lt] at h
  | infinite s => cases y <;> simp_all [lt]
  | finite s m e =>
    cases y with
    | nan => rfl
    | infinite t => simp_all [lt]
    | finite t n f =>
      simp only [lt, decide_eq_true_eq, decide_eq_false_iff_not] at h ⊢
      omega

/-- What clamping makes of a number: a bound, or the number itself if it is between them. -/
theorem clampUnit_cases (x : Binary64) :
    clampUnit x = zero ∨ clampUnit x = ofNat 1 ∨
      (clampUnit x = x ∧ lt zero x = true ∧ lt (ofNat 1) x = false) := by
  unfold clampUnit
  dsimp only
  by_cases positive : lt zero x = true
  · rw [if_pos positive]
    by_cases above : lt (ofNat 1) x = true
    · exact .inr (.inl (if_pos above))
    · exact .inr (.inr ⟨if_neg above, positive, Bool.eq_false_iff.mpr above⟩)
  · rw [if_neg positive]
    exact .inl (if_neg (by decide))

/-- A clamped number lies between zero and one. -/
theorem inUnit_clampUnit (x : Binary64) : InUnit (clampUnit x) := by
  rcases clampUnit_cases x with low | high | ⟨same, positive, upTo⟩
  · rw [low]
    decide
  · rw [high]
    decide
  · rw [same]
    refine ⟨lt_asymm positive, upTo, ?_⟩
    rintro rfl
    cases positive

/-- A number that has been clamped stays as it is. -/
theorem clampUnit_clampUnit (x : Binary64) : clampUnit (clampUnit x) = clampUnit x := by
  rcases clampUnit_cases x with low | high | ⟨same, -⟩
  · rw [low]
    decide
  · rw [high]
    decide
  · rw [same]
    exact same

end Hexscope.Binary64
