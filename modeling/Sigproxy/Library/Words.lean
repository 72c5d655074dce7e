import Mathlib.Data.BitVec
import Mathlib.Data.Nat.Log

namespace Sigproxy.Library.Words

variable {width : Nat}

-- Words of a fixed width that saturate, or refuse, where they would wrap.
def saturatingMul (first second : BitVec width) : BitVec width :=
  if BitVec.umulOverflow first second then BitVec.allOnes width else first * second

def checkedAdd (first second : BitVec width) : Option (BitVec width) :=
  if BitVec.uaddOverflow first second then none else some (first + second)

-- All ones from the highest one of the predecessor down.
def oneLessThanNextPowerOfTwo (value : BitVec width) : BitVec width :=
  if value.toNat ≤ 1 then 0 else BitVec.allOnes width >>> (value - BitVec.ofNat width 1).clz.toNat

def checkedNextPowerOfTwo (value : BitVec width) : Option (BitVec width) := checkedAdd (oneLessThanNextPowerOfTwo value) (BitVec.ofNat width 1)

theorem toNat_saturatingMul (first second : BitVec width) :
    (saturatingMul first second).toNat = min (first.toNat * second.toNat) (2 ^ width - 1) := by
  unfold saturatingMul
  split
  · rename_i wraps
    have beyond : 2 ^ width ≤ first.toNat * second.toNat := by simpa [BitVec.umulOverflow] using wraps
    rw [BitVec.toNat_allOnes,Nat.min_eq_right (by omega)]
  · rename_i fits
    have within : first.toNat * second.toNat < 2 ^ width := by simpa [BitVec.umulOverflow] using fits
    rw [BitVec.toNat_mul_of_not_umulOverflow fits,Nat.min_eq_left (by omega)]

theorem checkedAdd_toNat (first second : BitVec width) :
    (checkedAdd first second).map BitVec.toNat =
      if first.toNat + second.toNat < 2 ^ width then some (first.toNat + second.toNat) else none := by
  unfold checkedAdd
  split
  · rename_i wraps
    have beyond : 2 ^ width ≤ first.toNat + second.toNat := by simpa [BitVec.uaddOverflow] using wraps
    rw [if_neg (by omega)]
    rfl
  · rename_i fits
    have within : first.toNat + second.toNat < 2 ^ width := by simpa [BitVec.uaddOverflow] using fits
    rw [if_pos within,Option.map_some,BitVec.toNat_add_of_not_uaddOverflow fits]

section Powers

-- The loop of `Nat.nextPowerOfTwo` has no public name.
open private Nat.nextPowerOfTwo.go from Init.Data.Nat.Power2.Basic

theorem nextPowerOfTwo_go {number power : Nat} (positive : 0 < power) (exponent : power = 2 ^ start) :
    Nat.nextPowerOfTwo.go number power positive = 2 ^ max start (Nat.clog 2 number) := by
  unfold Nat.nextPowerOfTwo.go
  subst exponent
  split
  · rename_i short
    have further : start < Nat.clog 2 number := (Nat.lt_clog_iff_pow_lt Nat.one_lt_two).mpr short
    rw [nextPowerOfTwo_go _ (Nat.pow_succ ..).symm,Nat.max_eq_right further,Nat.max_eq_right further.le]
  · rename_i reached
    have here : Nat.clog 2 number ≤ start := (Nat.clog_le_iff_le_pow Nat.one_lt_two).mpr (Nat.le_of_not_lt reached)
    rw [Nat.max_eq_left here]
termination_by number - power
decreasing_by
  subst exponent
  omega

theorem nextPowerOfTwo_clog (number : Nat) : number.nextPowerOfTwo = 2 ^ Nat.clog 2 number := by
  rw [Nat.nextPowerOfTwo,nextPowerOfTwo_go Nat.one_pos (Nat.pow_zero 2).symm,Nat.max_eq_right (Nat.zero_le _)]

theorem le_nextPowerOfTwo (number : Nat) : number ≤ number.nextPowerOfTwo := by
  rw [nextPowerOfTwo_clog]
  exact Nat.le_pow_clog Nat.one_lt_two number

theorem nextPowerOfTwo_lt_iff (number limit : Nat) : number.nextPowerOfTwo < 2 ^ (limit + 1) ↔ number ≤ 2 ^ limit := by
  rw [nextPowerOfTwo_clog,Nat.pow_lt_pow_iff_right Nat.one_lt_two,Nat.lt_succ_iff,Nat.clog_le_iff_le_pow Nat.one_lt_two]

theorem oneLess_toNat (positive : 0 < width) (value : BitVec width) :
    (oneLessThanNextPowerOfTwo value).toNat + 1 = value.toNat.nextPowerOfTwo := by
  rw [nextPowerOfTwo_clog]
  unfold oneLessThanNextPowerOfTwo
  split
  · rename_i small
    rw [Nat.clog_of_right_le_one small]
    rfl
  · rename_i large
    -- The predecessor has its highest one below the power, and the power is the least above it.
    have wide : 1 < 2 ^ width := Nat.one_lt_two_pow positive.ne'
    have one : (BitVec.ofNat width 1).toNat = 1 := by rw [BitVec.toNat_ofNat,Nat.mod_eq_of_lt wide]
    have before : (value - BitVec.ofNat width 1).toNat = value.toNat - 1 := by
      rw [BitVec.toNat_sub_of_le (BitVec.le_def.mpr (by omega)),one]
    have nonzero : value - BitVec.ofNat width 1 ≠ BitVec.ofNat width 0 := by
      intro zero
      rw [zero,BitVec.toNat_zero] at before
      omega
    have lower := BitVec.two_pow_sub_clz_le_toNat_of_ne_zero positive nonzero
    have upper := @BitVec.toNat_lt_two_pow_sub_clz width (value - BitVec.ofNat width 1)
    have leading : (value - BitVec.ofNat width 1).clz.toNat < width := by
      have below := BitVec.lt_def.mp (BitVec.clz_lt_iff_ne_zero.mpr nonzero)
      rwa [BitVec.natCast_eq_ofNat,BitVec.toNat_ofNat,Nat.mod_eq_of_lt Nat.lt_two_pow_self] at below
    rw [before] at lower upper
    generalize (value - BitVec.ofNat width 1).clz.toNat = zeros at lower upper leading ⊢
    have exponent : Nat.clog 2 value.toNat = width - zeros := by
      apply Nat.le_antisymm
      · exact (Nat.clog_le_iff_le_pow Nat.one_lt_two).mpr (by omega)
      · have below : width - 1 - zeros < Nat.clog 2 value.toNat := (Nat.lt_clog_iff_pow_lt Nat.one_lt_two).mpr (by omega)
        omega
    have split : 2 ^ width = 2 ^ zeros * 2 ^ (width - zeros) := by rw [← Nat.pow_add,Nat.add_sub_cancel' leading.le]
    have nonempty : 0 < 2 ^ (width - zeros) := Nat.two_pow_pos _
    have ones : (2 ^ width - 1) / 2 ^ zeros = 2 ^ (width - zeros) - 1 := by
      rw [split,Nat.mul_sub_div 0 _ _ (Nat.mul_pos (Nat.two_pow_pos _) nonempty),Nat.zero_div]
    rw [exponent,BitVec.toNat_ushiftRight,BitVec.toNat_allOnes,Nat.shiftRight_eq_div_pow,ones,Nat.sub_add_cancel nonempty]

theorem checkedNextPowerOfTwo_toNat (positive : 0 < width) (value : BitVec width) :
    (checkedNextPowerOfTwo value).map BitVec.toNat =
      if value.toNat.nextPowerOfTwo < 2 ^ width then some value.toNat.nextPowerOfTwo else none := by
  have one : (BitVec.ofNat width 1).toNat = 1 := by rw [BitVec.toNat_ofNat,Nat.mod_eq_of_lt (Nat.one_lt_two_pow positive.ne')]
  rw [checkedNextPowerOfTwo,checkedAdd_toNat,one,oneLess_toNat positive]

end Powers

end Sigproxy.Library.Words
