import Mathlib.Algebra.Order.Ring.Nat

/-!
# Checked arithmetic on fixed-width unsigned integers

The addition, subtraction and multiplication that answer `none` instead of
wrapping around.  Each is characterised by the exact equation it satisfies
over the natural numbers, so that proofs about balances and counters never
look at a word again.
-/

namespace Checked

variable {w : Nat}

instance linearOrder : LinearOrder (BitVec w) where
  le_refl x := BitVec.le_refl x
  le_trans _ _ _ := BitVec.le_trans
  le_antisymm _ _ := BitVec.le_antisymm
  le_total x y := BitVec.le_total x y
  lt_iff_le_not_ge x y := by
    simp only [BitVec.lt_def, BitVec.le_def]
    omega
  toDecidableLE := inferInstance

/-- Addition, refused when the sum does not fit. -/
def add (x y : BitVec w) : Option (BitVec w) :=
  if x.toNat + y.toNat < 2 ^ w then some (x + y) else none

/-- Subtraction, refused when the difference would be negative. -/
def sub (x y : BitVec w) : Option (BitVec w) :=
  if y.toNat ≤ x.toNat then some (x - y) else none

/-- Multiplication, refused when the product does not fit. -/
def mul (x y : BitVec w) : Option (BitVec w) :=
  if x.toNat * y.toNat < 2 ^ w then some (x * y) else none

/-- Addition that stops at the largest value. -/
def saturatingAdd (x y : BitVec w) : BitVec w :=
  (add x y).getD (BitVec.allOnes w)

theorem add_eq_some {x y z : BitVec w} :
    add x y = some z ↔ z.toNat = x.toNat + y.toNat := by
  have bound := z.isLt
  unfold add
  split
  · next fits =>
      simp only [Option.some.injEq, BitVec.toNat_eq, BitVec.toNat_add, Nat.mod_eq_of_lt fits]
      exact eq_comm
  · next overflow =>
      simp only [reduceCtorEq, false_iff]
      omega

theorem sub_eq_some {x y z : BitVec w} :
    sub x y = some z ↔ x.toNat = z.toNat + y.toNat := by
  unfold sub
  split
  · next fits =>
      simp only [Option.some.injEq, BitVec.toNat_eq,
        BitVec.toNat_sub_of_le (BitVec.le_def.mpr fits)]
      omega
  · next underflow =>
      simp only [reduceCtorEq, false_iff]
      omega

theorem mul_eq_some {x y z : BitVec w} :
    mul x y = some z ↔ z.toNat = x.toNat * y.toNat := by
  have bound := z.isLt
  unfold mul
  split
  · next fits =>
      simp only [Option.some.injEq, BitVec.toNat_eq, BitVec.toNat_mul, Nat.mod_eq_of_lt fits]
      exact eq_comm
  · next overflow =>
      simp only [reduceCtorEq, false_iff]
      omega

theorem exists_add {x y : BitVec w} (fits : x.toNat + y.toNat < 2 ^ w) :
    ∃ z, add x y = some z :=
  ⟨x + y, if_pos fits⟩

theorem exists_sub {x y : BitVec w} (fits : y.toNat ≤ x.toNat) :
    ∃ z, sub x y = some z :=
  ⟨x - y, if_pos fits⟩

theorem exists_mul {x y : BitVec w} (fits : x.toNat * y.toNat < 2 ^ w) :
    ∃ z, mul x y = some z :=
  ⟨x * y, if_pos fits⟩

/-- The next value of a counter exists below the largest word. -/
theorem exists_add_one {x : BitVec w} (positive : 0 < w) (below : x ≠ BitVec.allOnes w) :
    ∃ z, add x 1#w = some z := by
  apply exists_add
  have bound := x.isLt
  have ne : x.toNat ≠ 2 ^ w - 1 := by
    intro equal
    exact below (BitVec.eq_of_toNat_eq (by simpa using equal))
  have one : (1#w).toNat = 1 := by simp [Nat.one_mod_eq_one]; omega
  omega

/-- The successor of a word below the largest does not wrap around. -/
theorem toNat_add_one {x : BitVec w} (positive : 0 < w) (below : x ≠ BitVec.allOnes w) :
    (x + 1#w).toNat = x.toNat + 1 := by
  obtain ⟨z, added⟩ := exists_add_one positive below
  have value := add_eq_some.mp added
  have bound := z.isLt
  rw [BitVec.toNat_one positive] at value
  rw [BitVec.toNat_add, BitVec.toNat_one positive, ← value, Nat.mod_eq_of_lt bound]

/-- A saturated sum is the sum or the largest word. -/
theorem toNat_saturatingAdd (x y : BitVec w) :
    (saturatingAdd x y).toNat = min (x.toNat + y.toNat) (2 ^ w - 1) := by
  have positive := Nat.two_pow_pos w
  unfold saturatingAdd add
  split
  · next fits =>
      rw [Option.getD_some, BitVec.toNat_add, Nat.mod_eq_of_lt fits]
      omega
  · next overflow =>
      rw [Option.getD_none, BitVec.toNat_allOnes]
      omega

theorem saturatingAdd_one {x : BitVec w} (positive : 0 < w) (below : x ≠ BitVec.allOnes w) :
    saturatingAdd x 1#w = x + 1#w := by
  obtain ⟨z, added⟩ := exists_add_one positive below
  have value := add_eq_some.mp added
  rw [BitVec.toNat_one positive, ← toNat_add_one positive below] at value
  rw [saturatingAdd, added, Option.getD_some]
  exact BitVec.eq_of_toNat_eq value

theorem saturatingAdd_allOnes (positive : 0 < w) :
    saturatingAdd (BitVec.allOnes w) 1#w = BitVec.allOnes w := by
  have full : add (BitVec.allOnes w) 1#w = none := by
    apply if_neg
    rw [BitVec.toNat_allOnes, BitVec.toNat_one positive]
    have room := Nat.two_pow_pos w
    omega
  rw [saturatingAdd, full, Option.getD_none]

end Checked
