import Sigproxy.Library.Words
import Sigproxy.Xdp.Restart

namespace Sigproxy.Xdp.MapSizing
open Library

abbrev U32 := BitVec 32

def least (first second : U32) : U32 := if second < first then second else first
def greatest (first second : U32) : U32 := if first < second then second else first

-- `desired_xdp_map_entries` on the words it computes with.
def desiredXdpMapEntries (mapName : String) (requiredEntries : Nat) (defaultEntries maxEntries : U32) (autoSize : Bool) : Except String U32 :=
  if 2 ^ 32 ≤ requiredEntries then .error ("XDP " ++ mapName ++ " map requires too many entries")
  else
    let requiredEntries := BitVec.ofNat 32 requiredEntries
    if maxEntries < defaultEntries then
      .error ("XDP " ++ mapName ++ " configured max_entries " ++ Nat.repr maxEntries.toNat ++ " is below default capacity " ++
        Nat.repr defaultEntries.toNat)
    else if defaultEntries < requiredEntries ∧ ¬ autoSize then
      .error ("XDP " ++ mapName ++ " map requires " ++ Nat.repr requiredEntries.toNat ++ " entries but object capacity is " ++
        Nat.repr defaultEntries.toNat ++ "; enable proxy.security.xdp.auto_size_maps or increase the BPF map capacity")
    else if maxEntries < requiredEntries then
      .error ("XDP " ++ mapName ++ " map requires " ++ Nat.repr requiredEntries.toNat ++ " entries but configured max_entries is " ++
        Nat.repr maxEntries.toNat ++ "; increase proxy.security.xdp.max_" ++ mapName ++
        "_entries or reduce enabled XDP listeners/prefix sources")
    else if ¬ autoSize then .ok defaultEntries
    else if requiredEntries ≤ defaultEntries then .ok defaultEntries
    else
      let doubled := Words.saturatingMul requiredEntries 2
      let rounded := (Words.checkedNextPowerOfTwo doubled).getD maxEntries
      .ok (greatest (least rounded maxEntries) defaultEntries)

section Exact

theorem toNat_least (first second : U32) : (least first second).toNat = min first.toNat second.toNat := by
  unfold least
  split
  · rename_i below
    exact (Nat.min_eq_right (BitVec.lt_def.mp below).le).symm
  · rename_i above
    exact (Nat.min_eq_left (Nat.le_of_not_lt (mt BitVec.lt_def.mpr above))).symm

theorem toNat_greatest (first second : U32) : (greatest first second).toNat = max first.toNat second.toNat := by
  unfold greatest
  split
  · rename_i below
    exact (Nat.max_eq_right (BitVec.lt_def.mp below).le).symm
  · rename_i above
    exact (Nat.max_eq_left (Nat.le_of_not_lt (mt BitVec.lt_def.mpr above))).symm

theorem doubled_toNat (entries : U32) : (Words.saturatingMul entries 2).toNat = min (entries.toNat * 2) (2 ^ 32 - 1) :=
  Words.toNat_saturatingMul entries 2

theorem rounded_toNat (entries : U32) : (Words.checkedNextPowerOfTwo entries).map BitVec.toNat = checkedNextPowerOfTwo entries.toNat := by
  rw [Words.checkedNextPowerOfTwo_toNat (by decide),checkedNextPowerOfTwo]
  simp only [Words.nextPowerOfTwo_lt_iff]

-- The words hold what unbounded arithmetic gives at every step.
theorem desiredXdpMapEntries_exact (mapName : String) (requiredEntries : Nat) (defaultEntries maxEntries : U32) (autoSize : Bool) :
    (desiredXdpMapEntries mapName requiredEntries defaultEntries maxEntries autoSize).map BitVec.toNat =
      Xdp.desiredXdpMapEntries mapName requiredEntries defaultEntries.toNat maxEntries.toNat autoSize := by
  unfold desiredXdpMapEntries Xdp.desiredXdpMapEntries
  by_cases wide : 2 ^ 32 ≤ requiredEntries
  · rw [if_pos wide,if_pos wide]
    rfl
  · have fits : (BitVec.ofNat 32 requiredEntries).toNat = requiredEntries := by
      rw [BitVec.toNat_ofNat,Nat.mod_eq_of_lt (Nat.lt_of_not_le wide)]
    rw [if_neg wide,if_neg wide]
    have target : (greatest (least ((Words.checkedNextPowerOfTwo (Words.saturatingMul (BitVec.ofNat 32 requiredEntries) 2)).getD maxEntries) maxEntries)
        defaultEntries).toNat = max (min ((checkedNextPowerOfTwo (min (requiredEntries * 2) (2 ^ 32 - 1))).getD maxEntries.toNat) maxEntries.toNat)
        defaultEntries.toNat := by
      rw [toNat_greatest,toNat_least,← fits,← doubled_toNat,← rounded_toNat,fits]
      cases Words.checkedNextPowerOfTwo (Words.saturatingMul (BitVec.ofNat 32 requiredEntries) 2) <;> rfl
    simp only [BitVec.lt_def,BitVec.le_def,fits]
    repeat' split
    all_goals first
      | rfl
      | exact congrArg Except.ok target

end Exact

section Bounds
variable {mapName : String} {requiredEntries defaultEntries maxEntries capacity : Nat} {autoSize : Bool}

theorem target_bounds (requiredEntries maxEntries : Nat) :
    min (2 * requiredEntries) maxEntries ≤ min ((checkedNextPowerOfTwo (min (requiredEntries * 2) (2 ^ 32 - 1))).getD maxEntries) maxEntries := by
  unfold checkedNextPowerOfTwo
  split
  · rename_i small
    have unsaturated : min (requiredEntries * 2) (2 ^ 32 - 1) = requiredEntries * 2 := by omega
    have power := Words.le_nextPowerOfTwo (requiredEntries * 2)
    rw [unsaturated,Option.getD_some]
    omega
  · rw [Option.getD_none]
    omega

theorem sized_bounds (sized : Xdp.desiredXdpMapEntries mapName requiredEntries defaultEntries maxEntries autoSize = .ok capacity) :
    requiredEntries ≤ capacity ∧ defaultEntries ≤ capacity ∧ capacity ≤ max maxEntries defaultEntries ∧
      (autoSize = true → defaultEntries < requiredEntries → min (2 * requiredEntries) maxEntries ≤ capacity) := by
  unfold Xdp.desiredXdpMapEntries at sized
  repeat' split at sized
  all_goals cases sized
  · rename_i below _ fixed
    have within : requiredEntries ≤ defaultEntries := Nat.le_of_not_lt fun beyond => below ⟨beyond,fixed⟩
    exact ⟨within,Nat.le_refl _,Nat.le_max_right ..,fun sizes => (fixed sizes).elim⟩
  · rename_i within
    exact ⟨within,Nat.le_refl _,Nat.le_max_right ..,fun _ beyond => (Nat.not_le_of_lt beyond within).elim⟩
  · rename_i requirement _ _
    have bounds := target_bounds requiredEntries maxEntries
    refine ⟨?_,Nat.le_max_right ..,?_,fun _ _ => Nat.le_trans bounds (Nat.le_max_left ..)⟩
    · omega
    · omega

theorem refused_iff (mapName : String) :
    (∃ error, Xdp.desiredXdpMapEntries mapName requiredEntries defaultEntries maxEntries autoSize = .error error) ↔
      2 ^ 32 ≤ requiredEntries ∨ maxEntries < defaultEntries ∨ maxEntries < requiredEntries ∨ defaultEntries < requiredEntries ∧ autoSize = false := by
  unfold Xdp.desiredXdpMapEntries
  cases autoSize with
  | false =>
      simp only [Bool.false_eq_true,not_false_eq_true,and_true,if_true]
      repeat' split
      all_goals simp only [Except.error.injEq,exists_eq',reduceCtorEq,exists_false,true_iff,false_iff]
      all_goals omega
  | true =>
      simp only [not_true_eq_false,and_false,if_false,Bool.true_eq_false,or_false]
      repeat' split
      all_goals simp only [Except.error.injEq,exists_eq',reduceCtorEq,exists_false,true_iff,false_iff]
      all_goals omega

end Bounds

theorem xdp_map_sizing (mapName : String) (requiredEntries : Nat) (defaultEntries maxEntries : U32) (autoSize : Bool) :
    (∀ capacity, desiredXdpMapEntries mapName requiredEntries defaultEntries maxEntries autoSize = .ok capacity →
      requiredEntries ≤ capacity.toNat ∧ defaultEntries ≤ capacity ∧ capacity.toNat ≤ max maxEntries.toNat defaultEntries.toNat ∧
      (autoSize = true → defaultEntries.toNat < requiredEntries → min (2 * requiredEntries) maxEntries.toNat ≤ capacity.toNat)) ∧
    ((∃ error, desiredXdpMapEntries mapName requiredEntries defaultEntries maxEntries autoSize = .error error) ↔
      2 ^ 32 ≤ requiredEntries ∨ maxEntries < defaultEntries ∨ maxEntries.toNat < requiredEntries ∨
        defaultEntries.toNat < requiredEntries ∧ autoSize = false) ∧
    -- Nothing wraps: the words are the numbers that unbounded arithmetic gives.
    (desiredXdpMapEntries mapName requiredEntries defaultEntries maxEntries autoSize).map BitVec.toNat =
      Xdp.desiredXdpMapEntries mapName requiredEntries defaultEntries.toNat maxEntries.toNat autoSize ∧
    ∀ entries : U32, (Words.saturatingMul entries 2).toNat = min (entries.toNat * 2) (2 ^ 32 - 1) ∧
      ∀ power, Words.checkedNextPowerOfTwo entries = some power → power.toNat = entries.toNat.nextPowerOfTwo := by
  have exact := desiredXdpMapEntries_exact mapName requiredEntries defaultEntries maxEntries autoSize
  refine ⟨?_,?_,exact,fun entries => ⟨doubled_toNat entries,?_⟩⟩
  · intro capacity sized
    rw [sized] at exact
    obtain ⟨enough,atLeast,atMost,grown⟩ := sized_bounds exact.symm
    exact ⟨enough,BitVec.le_def.mpr atLeast,atMost,grown⟩
  · rw [BitVec.lt_def,← refused_iff mapName,← exact]
    cases desiredXdpMapEntries mapName requiredEntries defaultEntries maxEntries autoSize <;> simp [Except.map]
  · intro power rounded
    have value := rounded_toNat entries
    rw [rounded,Option.map_some,checkedNextPowerOfTwo] at value
    split at value
    · exact Option.some.inj value
    · cases value

end Sigproxy.Xdp.MapSizing
