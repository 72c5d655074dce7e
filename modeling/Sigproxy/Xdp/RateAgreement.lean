import Mathlib.Data.Nat.Cast.Order.Field
import Sigproxy.Security.TokenBucket
import Sigproxy.Xdp.Policy

namespace Sigproxy.Xdp
open Library Library.Bucket Security

def inSeconds (ns : BitVec 64) : ℚ := ns.toNat / 10 ^ 9

-- The arrivals of one source at one of its limits.
def XdpKernel.arrivals (key : XdpIpKey) (limit : RateLimit) (stat : XdpStat) : XdpKernel → List (BitVec 64) → List (ℚ × Bool)
  | _,[] => []
  | kernel,now :: rest =>
    let decided := {kernel with nowNs:=now}.checkBucketRateLimit key limit stat
    (inSeconds now,decide (decided.1 = .pass)) :: decided.2.arrivals key limit stat rest

section Level
variable {limit : RateLimit}

-- What the elapsed time has earned, in billionths of a token: the product wraps around.
def RateBucket.carried (bucket : RateBucket) (limit : RateLimit) (now : BitVec 64) : BitVec 64 :=
  (now - bucket.updatedNs) * limit.packetsPerSecond.setWidth 64

def RateBucket.level (bucket : RateBucket) (limit : RateLimit) (now : BitVec 64) : ℚ :=
  bucket.tokens.toNat + (bucket.carried limit now).toNat / 10 ^ 9

theorem inSeconds_le (later : since ≤ now) : inSeconds since ≤ inSeconds now := by
  have later : (since.toNat : ℚ) ≤ now.toNat := by exact_mod_cast BitVec.le_def.mp later
  unfold inSeconds
  linarith

theorem RateBucket.carried_toNat {bucket : RateBucket} (past : bucket.updatedNs ≤ now) :
    (bucket.carried limit now).toNat = (now.toNat - bucket.updatedNs.toNat) * limit.packetsPerSecond.toNat % 2 ^ 64 := by
  rw [carried,BitVec.toNat_mul,BitVec.toNat_sub_of_le past,BitVec.toNat_setWidth_of_le (by decide)]

theorem RateBucket.level_nonneg (bucket : RateBucket) : 0 ≤ bucket.level limit now := by
  unfold level
  positivity

theorem RateBucket.level_spent {bucket : RateBucket} (some : bucket.tokens ≠ 0) :
    (⟨bucket.tokens - 1,bucket.updatedNs⟩ : RateBucket).level limit now + 1 = bucket.level limit now := by
  have spent : (bucket.tokens - 1).toNat + 1 = bucket.tokens.toNat := by bv_omega
  have counted : ((bucket.tokens - 1).toNat : ℚ) + 1 = bucket.tokens.toNat := by exact_mod_cast spent
  simp only [level,carried] at counted ⊢
  linarith

-- The wrap around can only lose: the level grows no faster than the rate.
theorem RateBucket.level_grows {bucket : RateBucket} (past : bucket.updatedNs ≤ since) (later : since ≤ now) :
    bucket.level limit now ≤ bucket.level limit since + (inSeconds now - inSeconds since) * limit.packetsPerSecond.toNat := by
  have earned : (bucket.carried limit now).toNat ≤
      (bucket.carried limit since).toNat + (now.toNat - since.toNat) * limit.packetsPerSecond.toNat := by
    rw [carried_toNat (BitVec.le_trans past later),carried_toNat past]
    have split : (now.toNat - bucket.updatedNs.toNat) * limit.packetsPerSecond.toNat =
        (since.toNat - bucket.updatedNs.toNat) * limit.packetsPerSecond.toNat + (now.toNat - since.toNat) * limit.packetsPerSecond.toNat := by
      rw [← Nat.add_mul]
      congr 1
      have := BitVec.le_def.mp past
      have := BitVec.le_def.mp later
      omega
    rw [split,← Nat.mod_add_mod]
    exact Nat.mod_le _ _
  have cast : ((now.toNat - since.toNat : Nat) : ℚ) = now.toNat - since.toNat := Nat.cast_sub (BitVec.le_def.mp later)
  have counted : ((bucket.carried limit now).toNat : ℚ) ≤
      (bucket.carried limit since).toNat + (now.toNat - since.toNat) * limit.packetsPerSecond.toNat := by
    rw [← cast]
    exact_mod_cast earned
  unfold level inSeconds
  linarith

theorem RateBucket.refilled_short {bucket : RateBucket} (short : (bucket.carried limit now).toNat < 10 ^ 9) :
    bucket.refilled limit now = bucket := by
  have none : ¬ 0 < bucket.carried limit now / 1000000000 := by
    rw [BitVec.lt_def]
    exact Nat.not_lt.mpr (Nat.div_eq_of_lt short).le
  exact if_neg none

theorem RateBucket.refilled_enough {bucket : RateBucket} (sized : bucket.tokens.toNat < limit.burst.toNat)
    (enough : 10 ^ 9 ≤ (bucket.carried limit now).toNat) : (bucket.refilled limit now).updatedNs = now ∧
      (bucket.refilled limit now).tokens.toNat = min (bucket.tokens.toNat + (bucket.carried limit now).toNat / 10 ^ 9) limit.burst.toNat := by
  have gained : (bucket.carried limit now / 1000000000).toNat = (bucket.carried limit now).toNat / 10 ^ 9 := rfl
  have some : 0 < bucket.carried limit now / 1000000000 := by
    rw [BitVec.lt_def,gained]
    exact Nat.div_pos enough (by decide)
  have room := (bucket.carried limit now).isLt
  have sum : (bucket.tokens + bucket.carried limit now / 1000000000).toNat = bucket.tokens.toNat + (bucket.carried limit now).toNat / 10 ^ 9 := by
    have narrow := limit.burst.isLt
    rw [BitVec.toNat_add,gained]
    omega
  have wide : (limit.burst.setWidth 64).toNat = limit.burst.toNat := BitVec.toNat_setWidth_of_le (by decide)
  unfold carried at some sum
  unfold refilled
  dsimp only
  rw [if_pos some]
  refine ⟨rfl,?_⟩
  dsimp only
  split
  · rename_i beyond
    rw [BitVec.lt_def,sum,wide] at beyond
    rw [wide]
    exact (Nat.min_eq_right beyond.le).symm
  · rename_i under
    rw [BitVec.lt_def,sum,wide] at under
    rw [sum]
    exact (Nat.min_eq_left (not_lt.mp under)).symm

theorem RateBucket.level_stamped {bucket : RateBucket} (stamped : bucket.updatedNs = now) :
    bucket.level limit now = bucket.tokens.toNat := by
  simp [level,carried,stamped]

-- One decision of the kernel, in the terms of the levels around it.
theorem RateBucket.refilled_pays {bucket : RateBucket} (sized : bucket.tokens.toNat < limit.burst.toNat)
    (past : bucket.updatedNs ≤ since) (later : since ≤ now) :
    (bucket.refilled limit now).updatedNs ≤ now ∧ (bucket.refilled limit now).tokens.toNat ≤ limit.burst.toNat ∧
      ((bucket.refilled limit now).tokens = 0 → (bucket.refilled limit now) = bucket) ∧
      (bucket.refilled limit now).level limit now ≤ min
        (bucket.level limit since + (inSeconds now - inSeconds since) * limit.packetsPerSecond.toNat) limit.burst.toNat := by
  have grows : bucket.level limit now ≤ _ := level_grows past later
  by_cases short : (bucket.carried limit now).toNat < 10 ^ 9
  · rw [refilled_short short]
    refine ⟨BitVec.le_trans past later,sized.le,fun _ => rfl,le_min grows ?_⟩
    have one : ((bucket.carried limit now).toNat : ℚ) / 10 ^ 9 ≤ 1 := by
      rw [div_le_one (by norm_num)]
      exact_mod_cast short.le
    have room : (bucket.tokens.toNat : ℚ) + 1 ≤ limit.burst.toNat := by exact_mod_cast sized
    unfold level
    linarith
  · obtain ⟨stamped,filled⟩ := refilled_enough sized (not_lt.mp short)
    have some : 0 < (bucket.carried limit now).toNat / 10 ^ 9 := Nat.div_pos (not_lt.mp short) (by decide)
    refine ⟨by simp [stamped],by omega,fun empty => ?_,?_⟩
    · have none : (bucket.refilled limit now).tokens.toNat = 0 := by simp [empty]
      omega
    · rw [level_stamped stamped,filled]
      have gained : (((bucket.carried limit now).toNat / 10 ^ 9 : Nat) : ℚ) ≤ (bucket.carried limit now).toNat / 10 ^ 9 := by
        exact_mod_cast Nat.cast_div_le
      push_cast at gained ⊢
      exact min_le_min_right _ (le_trans (by unfold level; linarith) grows)

end Level

section Run
variable {limit : RateLimit} {kernel : XdpKernel} {stat : XdpStat}

theorem check_held (rated : limit.packetsPerSecond ≠ 0) (sized : limit.burst ≠ 0) (held : kernel.rateBuckets.lookup key = some bucket) :
    {kernel with nowNs:=now}.checkBucketRateLimit key limit stat =
      let filled := bucket.refilled limit now
      let keep (bucket : RateBucket) := {kernel with nowNs:=now,rateBuckets:=kernel.rateBuckets.insert key bucket}
      if filled.tokens = 0 then (.drop stat,keep ⟨bucket.tokens,filled.updatedNs⟩)
      else (.pass,keep ⟨filled.tokens - 1,filled.updatedNs⟩) := by
  unfold XdpKernel.checkBucketRateLimit
  simp only [rated,sized,or_self,if_false,held]

theorem check_fresh (rated : limit.packetsPerSecond ≠ 0) (sized : limit.burst ≠ 0) (fresh : kernel.rateBuckets.lookup key = none) :
    {kernel with nowNs:=now}.checkBucketRateLimit key limit stat =
      (.pass,{kernel with nowNs:=now,rateBuckets:=kernel.rateBuckets.insert key ⟨(limit.burst - 1).setWidth 64,now⟩}) := by
  unfold XdpKernel.checkBucketRateLimit
  simp only [rated,sized,or_self,if_false,fresh]

theorem arrivals_held (rated : limit.packetsPerSecond ≠ 0) (held : kernel.rateBuckets.lookup key = some bucket)
    (sized : bucket.tokens.toNat < limit.burst.toNat) (past : bucket.updatedNs ≤ since) (ordered : (since :: times).Pairwise (· ≤ ·)) :
    Conforms (limit.packetsPerSecond.toNat : ℚ) limit.burst.toNat (bucket.level limit since) (inSeconds since)
      (kernel.arrivals key limit stat times) := by
  have some : limit.burst ≠ 0 := by
    intro zero
    simp [zero] at sized
  induction times generalizing kernel bucket since with
  | nil => exact .done bucket.level_nonneg
  | cons now rest ih =>
      obtain ⟨first,ordered⟩ := List.pairwise_cons.mp ordered
      have later := first now (by simp)
      obtain ⟨stamped,bounded,unchanged,pays⟩ := RateBucket.refilled_pays sized past later
      have funded : 0 ≤ bucket.level limit since := bucket.level_nonneg
      have timed := inSeconds_le later
      unfold XdpKernel.arrivals
      simp only [check_held rated some held]
      by_cases empty : (bucket.refilled limit now).tokens = 0
      · simp only [if_pos empty]
        rw [unchanged empty] at pays stamped ⊢
        exact .arrival funded timed (by simpa [cost] using pays) (ih (AList.lookup_insert _) sized stamped ordered)
      · simp only [if_neg empty]
        rw [← RateBucket.level_spent empty] at pays
        refine .arrival funded timed ?_ (ih (AList.lookup_insert _) ?_ stamped ordered)
        · simpa only [cost,decide_true,if_true] using pays
        · bv_omega

theorem arrivals_fresh (rated : limit.packetsPerSecond ≠ 0) (sized : limit.burst ≠ 0) (fresh : kernel.rateBuckets.lookup key = none)
    (ordered : (first :: rest).Pairwise (· ≤ ·)) : Conforms (limit.packetsPerSecond.toNat : ℚ) limit.burst.toNat limit.burst.toNat
      (inSeconds first) (kernel.arrivals key limit stat (first :: rest)) := by
  have spent : ((limit.burst - 1).setWidth 64).toNat + 1 = limit.burst.toNat := by
    rw [BitVec.toNat_setWidth_of_le (by decide)]
    bv_omega
  have paid : (((limit.burst - 1).setWidth 64).toNat : ℚ) + 1 = limit.burst.toNat := by exact_mod_cast spent
  unfold XdpKernel.arrivals
  simp only [check_fresh rated sized fresh]
  refine .arrival (Nat.cast_nonneg _) (le_refl _) ?_ (arrivals_held rated (AList.lookup_insert _) ?_ (BitVec.le_refl first) ordered)
  · rw [RateBucket.level_stamped rfl]
    simpa [cost] using paid.le
  · dsimp only
    omega

theorem arrivals_times (kernel : XdpKernel) (times : List (BitVec 64)) :
    (kernel.arrivals key limit stat times).map (·.1) = times.map inSeconds := by
  induction times generalizing kernel with
  | nil => rfl
  | cons now rest ih => simp only [XdpKernel.arrivals,List.map_cons,ih]

theorem seconds_ordered {times : List (BitVec 64)} (ordered : times.Pairwise (· ≤ ·)) : (times.map inSeconds).Pairwise (· ≤ ·) :=
  List.pairwise_map.mpr (ordered.imp inSeconds_le)

theorem kernel_passes_within_user (rated : limit.packetsPerSecond ≠ 0) (sized : limit.burst ≠ 0)
    (fresh : kernel.rateBuckets.lookup key = none) (ordered : times.Pairwise (· ≤ ·)) :
    let kernelVerdicts := kernel.arrivals key limit stat times
    let userVerdicts := TokenBucket.arrivals limit.packetsPerSecond.toNat limit.burst.toNat none (times.map inSeconds)
    (∀ count, passes (kernelVerdicts.take count) ≤ passes (userVerdicts.take count)) ∧
      ∀ start length, 0 ≤ length →
        (passesIn kernelVerdicts start length : ℚ) ≤ limit.burst.toNat + limit.packetsPerSecond.toNat * length ∧
        (passesIn userVerdicts start length : ℚ) ≤ limit.burst.toNat + limit.packetsPerSecond.toNat * length := by
  have rate : (0 : ℚ) ≤ limit.packetsPerSecond.toNat := Nat.cast_nonneg _
  have burst : (0 : ℚ) ≤ limit.burst.toNat := Nat.cast_nonneg _
  dsimp only
  cases times with
  | nil =>
      refine ⟨fun count => by simp [XdpKernel.arrivals,passes],fun start length lasts => ?_⟩
      have room := add_nonneg burst (mul_nonneg rate lasts)
      exact ⟨by simpa [XdpKernel.arrivals,passesIn] using room,by simpa [TokenBucket.arrivals,passesIn] using room⟩
  | cons first rest =>
      have conforms : Conforms _ _ _ _ (kernel.arrivals key limit stat _) := arrivals_fresh rated sized fresh ordered
      have inOrder := seconds_ordered ordered
      rw [List.map_cons] at inOrder ⊢
      have user := TokenBucket.fresh_conforms rate burst inOrder
      refine ⟨fun count => ?_,fun start length lasts => ⟨conforms.window rate burst start lasts,user.window rate burst start lasts⟩⟩
      have most := conforms.at_most count
      rwa [arrivals_times,List.map_cons,← TokenBucket.arrivals_fresh _ inOrder] at most

-- The last gap is long enough for the product of the kernel to wrap around.
theorem kernel_passes_within_user_wrapping :
    let limit : RateLimit := ⟨4294967295,2⟩
    let kernel : XdpKernel := ⟨.empty,∅,∅,0⟩
    let key : XdpIpKey := ⟨4,17,5060,0⟩
    let times : List (BitVec 64) := [0,0,0,4294967298]
    (kernel.arrivals key limit .rateLimitDrop times).map (·.2) = [true,true,false,true] ∧
    (∀ count, passes ((kernel.arrivals key limit .rateLimitDrop times).take count) ≤
      passes ((TokenBucket.arrivals 4294967295 2 none (times.map inSeconds)).take count)) ∧
      ∀ start length, 0 ≤ length →
        (passesIn (kernel.arrivals key limit .rateLimitDrop times) start length : ℚ) ≤ 2 + 4294967295 * length ∧
        (passesIn (TokenBucket.arrivals 4294967295 2 none (times.map inSeconds)) start length : ℚ) ≤ 2 + 4294967295 * length :=
  ⟨by decide +kernel,kernel_passes_within_user (by decide) (by decide) rfl (by decide)⟩

end Run

end Sigproxy.Xdp
