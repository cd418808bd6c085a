/-!
# Bytes and words

Registers and memory cells hold unsigned bytes, so their sums and differences wrap at 256. Address
arithmetic that wraps does so at 65536 (`wrapWord`). The sum of two bytes before it wraps decides
the carry (`Byte.wideSum`).
-/

namespace Hexscope

/-- An integer reduced to sixteen bits. -/
def wrapWord (n : Int) : Int := n % 65536

theorem wrapWord_nonneg (n : Int) : 0 ≤ wrapWord n := by unfold wrapWord; omega

theorem wrapWord_lt (n : Int) : wrapWord n < 65536 := by unfold wrapWord; omega

theorem wrapWord_of_bounds {n : Int} (h₀ : 0 ≤ n) (h₁ : n < 65536) : wrapWord n = n := by
  unfold wrapWord; omega

/-- Four bits have sixteen values, so registers and keys have a zero. -/
instance neZero_sixteen : @NeZero Nat Zero.ofOfNat0 16 := ⟨Nat.succ_ne_zero 15⟩

theorem toNat_lt_sixteen {n : Int} (h : 0 ≤ n ∧ n < 16) : n.toNat < 16 := by omega

namespace Byte

/-- An integer reduced to a byte. -/
def ofInt (n : Int) : UInt8 := UInt8.ofNat (n % 256).toNat

@[simp] theorem toNat_ofInt (n : Int) : (ofInt n).toNat = (n % 256).toNat := by
  simp [ofInt]; omega

/-- The sum of two bytes before it wraps. -/
def wideSum (x y : UInt8) : Nat := x.toNat + y.toNat

/-- A byte as a number, with its top bit first. -/
def bits (b : UInt8) : List Bool :=
  (List.range 8).map fun k => b.toNat.testBit (7 - k)

/-- A byte as an integer. -/
def toInt (b : UInt8) : Int := b.toNat

theorem toInt_nonneg (b : UInt8) : 0 ≤ toInt b := by simp [toInt]

theorem toInt_lt (b : UInt8) : toInt b < 256 := by
  have := b.toNat_lt; simp [toInt]; omega

end Byte

end Hexscope
