import Mathlib.Algebra.Order.Group.Nat
import Mathlib.Data.Nat.Bitwise
import Mathlib.Tactic.Ring

namespace Sigproxy.Library

-- A block of addresses is what agrees in all but its low `k` bits. A mask over
-- the high bits, a quotient and a range of values say the same thing.
variable {x y : BitVec width}

theorem toNat_and_high (x : BitVec width) (k : Nat) :
    (x &&& (BitVec.allOnes width <<< k)).toNat = x.toNat / 2 ^ k * 2 ^ k := by
  have cleared : x &&& (BitVec.allOnes width <<< k) = (x >>> k) <<< k := by
    ext i inside
    simp only [BitVec.getElem_and,BitVec.getElem_shiftLeft,BitVec.getElem_allOnes,BitVec.getElem_ushiftRight]
    by_cases low : i < k
    · simp [low]
    · have back : k + (i - k) = i := by omega
      simp [low,inside,back]
  rw [cleared,BitVec.toNat_shiftLeft,BitVec.toNat_ushiftRight,Nat.shiftLeft_eq,Nat.shiftRight_eq_div_pow,Nat.mod_eq_of_lt]
  exact lt_of_le_of_lt (Nat.div_mul_le_self _ _) x.isLt

theorem and_high_eq_iff : x &&& (BitVec.allOnes width <<< k) = y &&& (BitVec.allOnes width <<< k) ↔
    x.toNat / 2 ^ k = y.toNat / 2 ^ k := by
  rw [← BitVec.toNat_inj,toNat_and_high,toNat_and_high]
  exact Nat.mul_left_inj (Nat.pos_iff_ne_zero.mp (Nat.two_pow_pos k))

theorem div_eq_iff_within (value base k : Nat) : value / 2 ^ k = base / 2 ^ k ↔
    base / 2 ^ k * 2 ^ k ≤ value ∧ value ≤ base / 2 ^ k * 2 ^ k + (2 ^ k - 1) := by
  have positive := Nat.two_pow_pos k
  rw [Nat.div_eq_iff positive]
  omega

theorem toNat_high_or_low (x : BitVec width) (within : k ≤ width) :
    ((x &&& (BitVec.allOnes width <<< k)) ||| ~~~(BitVec.allOnes width <<< k)).toNat = x.toNat / 2 ^ k * 2 ^ k + (2 ^ k - 1) := by
  have low : (~~~(BitVec.allOnes width <<< k)).toNat = 2 ^ k - 1 := by
    have mask := toNat_and_high (BitVec.allOnes width) k
    have larger := Nat.pow_le_pow_right (Nat.zero_lt_two) within
    have split : 2 ^ width = 2 ^ (width - k) * 2 ^ k := by rw [← pow_add,Nat.sub_add_cancel within]
    have blocks : (2 ^ width - 1) / 2 ^ k = 2 ^ (width - k) - 1 := by
      rw [Nat.div_eq_iff (Nat.two_pow_pos k),Nat.sub_mul,← split]
      have positive := Nat.two_pow_pos k
      omega
    rw [BitVec.allOnes_and,BitVec.toNat_allOnes,blocks,Nat.sub_mul,← split,Nat.one_mul] at mask
    rw [BitVec.toNat_not,mask]
    omega
  have below : 2 ^ k - 1 < 2 ^ k := Nat.sub_lt (Nat.two_pow_pos k) Nat.one_pos
  rw [BitVec.toNat_or,toNat_and_high,low,← Nat.shiftLeft_eq,Nat.shiftLeft_add_eq_or_of_lt below]

-- The mask over the high bits bounds the block from both sides.
theorem between_high_iff (x value : BitVec width) (within : k ≤ width) :
    (x &&& (BitVec.allOnes width <<< k) ≤ value ∧
      value ≤ (x &&& (BitVec.allOnes width <<< k)) ||| ~~~(BitVec.allOnes width <<< k)) ↔
      x.toNat / 2 ^ k = value.toNat / 2 ^ k := by
  rw [BitVec.le_def,BitVec.le_def,toNat_and_high,toNat_high_or_low x within,eq_comm,div_eq_iff_within]

theorem two_pow_ctz_dvd (x : BitVec width) : 2 ^ x.ctz.toNat ∣ x.toNat := by
  refine Nat.dvd_of_mod_eq_zero (Nat.zero_of_testBit_eq_false fun i => ?_)
  rw [Nat.testBit_mod_two_pow]
  by_cases low : i < x.ctz.toNat
  · rw [BitVec.testBit_toNat,BitVec.getLsbD_false_of_lt_ctz low,Bool.and_false]
  · rw [decide_eq_false low,Bool.false_and]

-- A block that begins below a power of two ends below it.
theorem aligned_block_le (aligned : 2 ^ k ∣ start) (within : k ≤ width) (below : start < 2 ^ width) :
    start + 2 ^ k ≤ 2 ^ width := by
  obtain ⟨quotient,rfl⟩ := aligned
  have split : 2 ^ width = 2 ^ k * 2 ^ (width - k) := by rw [← pow_add,Nat.add_sub_cancel' within]
  rw [split] at below ⊢
  have fewer : quotient + 1 ≤ 2 ^ (width - k) := Nat.lt_of_mul_lt_mul_left below
  calc 2 ^ k * quotient + 2 ^ k = 2 ^ k * (quotient + 1) := by rw [Nat.mul_add,Nat.mul_one]
    _ ≤ 2 ^ k * 2 ^ (width - k) := Nat.mul_le_mul_left _ fewer

-- Leading bits of two fields laid side by side, the cut falling into the lower one.
theorem div_side_by_side (upper lower : Nat) (within : k ≤ width) :
    (upper * 2 ^ width + lower) / 2 ^ (width - k) = upper * 2 ^ k + lower / 2 ^ (width - k) := by
  have split : upper * 2 ^ width = 2 ^ (width - k) * (upper * 2 ^ k) := by
    rw [mul_left_comm,← pow_add,Nat.sub_add_cancel within]
  rw [split,Nat.mul_add_div (Nat.two_pow_pos _)]

theorem side_by_side_inj (first : lower < 2 ^ k) (second : lower' < 2 ^ k) :
    upper * 2 ^ k + lower = upper' * 2 ^ k + lower' ↔ upper = upper' ∧ lower = lower' := by
  constructor
  · intro same
    have uppers := congrArg (· / 2 ^ k) same
    have positive := Nat.two_pow_pos k
    simp only [mul_comm _ (2 ^ k),Nat.mul_add_div positive,Nat.div_eq_of_lt first,Nat.div_eq_of_lt second,add_zero] at uppers
    subst uppers
    exact ⟨rfl,by omega⟩
  · intro both
    rcases both with ⟨rfl,rfl⟩
    rfl

end Sigproxy.Library
