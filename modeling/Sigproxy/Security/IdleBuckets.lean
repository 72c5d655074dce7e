import Mathlib.Tactic.FieldSimp
import Mathlib.Tactic.NormNum
import Sigproxy.Security.InviteRate
import Sigproxy.Security.Validation

namespace Sigproxy.Security
open Library Library.Bucket Net

section Model

structure Limit where
  rate : Rate
  burst : Nat
  deriving DecidableEq, Repr

-- Where one of the two is zero, `allow_bucket` keeps no bucket.
def Limit.counts (limit : Limit) : Prop := 0 < limit.rate.tokens ∧ 0 < limit.burst

instance (limit : Limit) : Decidable limit.counts := inferInstanceAs (Decidable (_ ∧ _))

def Limit.perMinute (count : Nat) : Limit := ⟨Security.perMinute count,count⟩

-- SECURITY_BUCKET_IDLE_TTL, in seconds.
def securityBucketIdleTtl : ℚ := 600

def SecurityState.pruneExpired (tick : ℚ) (state : SecurityState TokenBucket) (now : Nat) : SecurityState TokenBucket where
  blocks := state.blocks.retain fun _ until' => decide (now < until')
  buckets := state.buckets.retain fun _ bucket => decide (max (now * tick - bucket.updatedAt) 0 ≤ securityBucketIdleTtl)

inductive BucketStep where
  | allowBucket (now : Nat) (key : String)
  | pruneExpired (now : Nat)
  deriving DecidableEq, Repr

def BucketStep.now : BucketStep → Nat
  | .allowBucket now _ => now
  | .pruneExpired now => now

def BucketStep.asks : BucketStep → Bool
  | .allowBucket _ _ => true
  | .pruneExpired _ => false

variable {Packet Bucket : Type} (view : SecurityCodec Packet Bucket) (tick : ℚ) (limits : String → Limit)

-- The verdicts in the order in which the calls take the lock; a call reads the
-- clock before that.
def decisions : SecurityState TokenBucket → List BucketStep → List (String × ℚ × Bool)
  | _,[] => []
  | state,.allowBucket now key :: rest =>
    let decided := state.allowBucket (exactly tick view) now key (limits key).rate (limits key).burst
    (key,now * tick,decided.1) :: decisions decided.2 rest
  | state,.pruneExpired now :: rest => decisions (state.pruneExpired tick now) rest

def verdictsOf (key : String) (decided : List (String × ℚ × Bool)) : List (ℚ × Bool) :=
  (decided.filter fun verdict => decide (verdict.1 = key)).map (·.2)

end Model

section Calls
variable {Packet Bucket : Type} {view : SecurityCodec Packet Bucket} {tick : ℚ} {limits : String → Limit} {limit : Limit}

theorem Limit.rated (limit : Limit) : 0 ≤ limit.rate.perSecond := div_nonneg (Nat.cast_nonneg _) (Nat.cast_nonneg _)

theorem allowBucket_counted (counts : limit.counts) (state : SecurityState TokenBucket) (now : Nat) (key : String) :
    let bucket := (state.buckets.lookup key).getD (.new limit.rate.perSecond limit.burst (now * tick))
    let decided := bucket.allow (now * tick) limit.rate.perSecond limit.burst
    state.allowBucket (exactly tick view) now key limit.rate limit.burst = (decided.1,{state with buckets:=state.buckets.insert key decided.2}) := by
  have kept : ¬ (limit.rate.tokens = 0 ∨ limit.burst = 0) := by
    intro either
    rcases either with free | free
    · exact counts.1.ne' free
    · exact counts.2.ne' free
  unfold SecurityState.allowBucket
  rw [if_neg kept]
  rfl

theorem allowBucket_free (free : ¬ limit.counts) (state : SecurityState TokenBucket) (now : Nat) (key : String) :
    state.allowBucket (exactly tick view) now key limit.rate limit.burst = (true,state) := by
  unfold Limit.counts at free
  unfold SecurityState.allowBucket
  exact if_pos (by omega)

-- A call leaves the buckets of other keys alone.
theorem allowBucket_other (state : SecurityState TokenBucket) (now : Nat) (apart : key ≠ other) :
    (state.allowBucket (exactly tick view) now key limit.rate limit.burst).2.buckets.lookup other = state.buckets.lookup other := by
  by_cases counts : limit.counts
  · rw [allowBucket_counted counts]
    exact AList.lookup_insert_ne apart.symm
  · rw [allowBucket_free counts]

def callTimes (tick : ℚ) (key : String) (calls : List (Nat × String)) : List ℚ :=
  (calls.filter fun call => decide (call.2 = key)).map fun call => call.1 * tick

-- The bucket of a key sees the calls for that key, whatever comes between them.
theorem verdictsOf_calls (counts : (limits key).counts) (state : SecurityState TokenBucket) (calls : List (Nat × String)) :
    verdictsOf key (decisions view tick limits state (calls.map fun call => .allowBucket call.1 call.2)) =
      TokenBucket.arrivals (limits key).rate.perSecond (limits key).burst (state.buckets.lookup key) (callTimes tick key calls) := by
  induction calls generalizing state with
  | nil => rfl
  | cons call rest ih =>
      obtain ⟨now,asked⟩ := call
      by_cases same : asked = key
      · subst same
        have here := ih (state.allowBucket (exactly tick view) now asked (limits asked).rate (limits asked).burst).2
        rw [allowBucket_counted counts,AList.lookup_insert] at here
        simp only [List.map_cons,decisions,verdictsOf,callTimes,List.filter_cons,decide_true,if_true,TokenBucket.arrivals,
          allowBucket_counted counts]
        exact congrArg _ here
      · have there := ih (state.allowBucket (exactly tick view) now asked (limits asked).rate (limits asked).burst).2
        rw [allowBucket_other state now same] at there
        simp only [List.map_cons,decisions,verdictsOf,callTimes,List.filter_cons,decide_eq_true_eq,if_neg same]
        exact there

-- No call for the key takes the lock after one that has read a later time.
def Timely (key : String) (calls : List (Nat × String)) : Prop :=
  (calls.filter fun call => decide (call.2 = key)).Pairwise fun first second => first.1 ≤ second.1

theorem Timely.ordered (timely : Timely key calls) (ticks : 0 ≤ tick) : (callTimes tick key calls).Pairwise (· ≤ ·) :=
  List.pairwise_map.mpr (timely.imp fun earlier => mul_le_mul_of_nonneg_right (Nat.cast_le.mpr earlier) ticks)

theorem admitted_bounded (counts : (limits key).counts) (ticks : 0 ≤ tick) {calls : List (Nat × String)} (timely : Timely key calls)
    (start : ℚ) {length : ℚ} (lasts : 0 ≤ length) :
    (passesIn (verdictsOf key (decisions view tick limits ⟨∅,∅⟩ (calls.map fun call => .allowBucket call.1 call.2))) start length : ℚ) ≤
      (limits key).burst + (limits key).rate.perSecond * length := by
  have ordered := timely.ordered ticks
  rw [verdictsOf_calls counts]
  cases times : callTimes tick key calls with
  | nil =>
      simp only [TokenBucket.arrivals,passesIn,List.countP_nil,Nat.cast_zero]
      exact add_nonneg (Nat.cast_nonneg _) (mul_nonneg (limits key).rated lasts)
  | cons first rest =>
      rw [times] at ordered
      exact (TokenBucket.fresh_conforms (limits key).rated (Nat.cast_nonneg _) ordered).window (limits key).rated (Nat.cast_nonneg _) start lasts

def aThousandPerSecond : Limit := ⟨perSecond 1000,1⟩

theorem punctual_calls_bounded : (passesIn (verdictsOf "key" (decisions plainCheck (1 / 1000) (fun _ => aThousandPerSecond) ⟨∅,∅⟩
    ([(0,"key"),(0,"other"),(1,"key")].map fun call => .allowBucket call.1 call.2))) 0 (1 / 1000) : ℚ) ≤
      aThousandPerSecond.burst + aThousandPerSecond.rate.perSecond * (1 / 1000) := by
  have counts : aThousandPerSecond.counts := by decide
  have timely : Timely "key" [(0,"key"),(0,"other"),(1,"key")] := by
    unfold Timely
    decide
  exact admitted_bounded counts (by norm_num) timely 0 (by norm_num)

-- The call that is late takes the bucket back in time, and what it had been given
-- since is given again.
theorem late_call_pays_twice : aThousandPerSecond.counts ∧
    passesIn (verdictsOf "key" (decisions plainCheck (1 / 1000) (fun _ => aThousandPerSecond) ⟨∅,∅⟩
      ([(1,"key"),(0,"key"),(1,"key")].map fun call => .allowBucket call.1 call.2))) (1 / 1000) 0 = 2 ∧
    (aThousandPerSecond.burst : ℚ) + aThousandPerSecond.rate.perSecond * 0 < 2 := by
  refine ⟨by decide,by decide +kernel,?_⟩
  norm_num [aThousandPerSecond]

end Calls

section Pruning
variable {Packet Bucket : Type} {view : SecurityCodec Packet Bucket} {tick : ℚ} {limits : String → Limit} {limit : Limit}

-- The bucket that was dropped for one that has been left alone for so long.
structure StandsIn (at' : ℚ) (pruned kept : Option TokenBucket) : Prop where
  funded : ∀ bucket ∈ kept, 0 ≤ bucket.tokens
  same : pruned = kept ∨ pruned = none ∧ ∀ bucket ∈ kept, bucket.updatedAt + securityBucketIdleTtl < at'

theorem StandsIn.refl (at' : ℚ) (funded : ∀ bucket ∈ kept, 0 ≤ bucket.tokens) : StandsIn at' kept kept := ⟨funded,.inl rfl⟩

theorem StandsIn.later (stands : StandsIn before pruned kept) (later : before ≤ after) : StandsIn after pruned kept := by
  refine ⟨stands.funded,stands.same.imp id fun dropped => ⟨dropped.1,fun bucket member => ?_⟩⟩
  exact lt_of_lt_of_le (dropped.2 bucket member) later

theorem StandsIn.prune (stands : StandsIn at' pruned kept) :
    StandsIn at' (pruned.filter fun bucket => decide (max (at' - bucket.updatedAt) 0 ≤ securityBucketIdleTtl)) kept := by
  refine ⟨stands.funded,?_⟩
  rcases stands.same with rfl | ⟨rfl,idle⟩
  · cases pruned with
    | none => exact .inl rfl
    | some bucket =>
        by_cases stays : max (at' - bucket.updatedAt) 0 ≤ securityBucketIdleTtl
        · exact .inl (by simp [Option.filter,stays])
        · refine .inr ⟨by simp [Option.filter,stays],fun other member => ?_⟩
          cases member
          rcases lt_max_iff.mp (not_le.mp stays) with idle | never
          · linarith
          · exact absurd never (by unfold securityBucketIdleTtl; norm_num)
  · exact .inr ⟨rfl,idle⟩

theorem allow_funded (sized : 0 ≤ burst) (rated : 0 ≤ rate) {bucket : TokenBucket} (funded : 0 ≤ bucket.tokens) (now : ℚ) :
    0 ≤ (bucket.allow now rate burst).2.tokens := by
  have filled : 0 ≤ min (bucket.tokens + max (now - bucket.updatedAt) 0 * rate) burst :=
    le_min (add_nonneg funded (mul_nonneg (le_max_right _ _) rated)) sized
  unfold TokenBucket.allow
  dsimp only
  split
  · rename_i enough
    exact sub_nonneg.mpr enough
  · exact filled

theorem allow_filled {bucket : TokenBucket} (filled : burst ≤ bucket.tokens + max (now - bucket.updatedAt) 0 * rate) :
    bucket.allow now rate burst = (TokenBucket.new rate burst now).allow now rate burst := by
  have fresh : burst ≤ burst + max (now - now) 0 * rate := by simp
  unfold TokenBucket.allow TokenBucket.new
  simp only [min_eq_right filled,min_eq_right fresh]

def Limit.refills (limit : Limit) : Prop := limit.burst ≤ securityBucketIdleTtl * limit.rate.perSecond

-- What a call finds is as full as a bucket made for it.
theorem StandsIn.asked (stands : StandsIn at' pruned kept) (refills : limit.refills) :
    (pruned.getD (.new limit.rate.perSecond limit.burst at')).allow at' limit.rate.perSecond limit.burst =
      (kept.getD (.new limit.rate.perSecond limit.burst at')).allow at' limit.rate.perSecond limit.burst := by
  rcases stands.same with rfl | ⟨rfl,idle⟩
  · rfl
  · cases kept with
    | none => rfl
    | some bucket =>
        have long : securityBucketIdleTtl ≤ max (at' - bucket.updatedAt) 0 :=
          le_trans (by linarith [idle bucket rfl]) (le_max_left (at' - bucket.updatedAt) 0)
        have earned := mul_le_mul_of_nonneg_right long limit.rated
        have funded := stands.funded bucket rfl
        have full : (limit.burst : ℚ) ≤ bucket.tokens + max (at' - bucket.updatedAt) 0 * limit.rate.perSecond := by
          unfold Limit.refills at refills
          linarith
        exact (allow_filled full).symm

theorem getD_funded {kept : Option TokenBucket} (funded : ∀ bucket ∈ kept, 0 ≤ bucket.tokens) (limit : Limit) (now : ℚ) :
    0 ≤ (kept.getD (.new limit.rate.perSecond limit.burst now)).tokens := by
  cases kept with
  | none => exact Nat.cast_nonneg _
  | some bucket => exact funded bucket rfl

def StandFor (at' : ℚ) (pruned kept : SecurityState TokenBucket) : Prop :=
  ∀ key, StandsIn at' (pruned.buckets.lookup key) (kept.buckets.lookup key)

theorem StandFor.allowBucket {now : Nat} (stand : StandFor (now * tick) pruned kept) (refills : limit.counts → limit.refills) :
    let left := pruned.allowBucket (exactly tick view) now key limit.rate limit.burst
    let right := kept.allowBucket (exactly tick view) now key limit.rate limit.burst
    left.1 = right.1 ∧ StandFor (now * tick) left.2 right.2 := by
  by_cases counts : limit.counts
  · have asked := (stand key).asked (refills counts)
    simp only [allowBucket_counted counts,asked,true_and]
    intro other
    by_cases same : other = key
    · subst same
      rw [AList.lookup_insert,AList.lookup_insert]
      refine .refl _ fun bucket member => ?_
      cases member
      exact allow_funded (Nat.cast_nonneg _) limit.rated (getD_funded (stand other).funded limit _) _
    · rw [AList.lookup_insert_ne same,AList.lookup_insert_ne same]
      exact stand other
  · simp only [allowBucket_free counts,true_and]
    exact stand

theorem StandFor.pruneExpired {now : Nat} (stand : StandFor (now * tick) pruned kept) : StandFor (now * tick) (pruned.pruneExpired tick now) kept := by
  intro key
  unfold SecurityState.pruneExpired
  rw [Table.lookup_retain]
  exact (stand key).prune

theorem StandFor.decided (stand : StandFor since pruned kept) (ticks : 0 ≤ tick) (refills : ∀ key, (limits key).counts → (limits key).refills)
    {steps : List BucketStep} (begins : ∀ step ∈ steps, since ≤ step.now * tick) (ordered : steps.Pairwise fun first second => first.now ≤ second.now) :
    decisions view tick limits pruned steps = decisions view tick limits kept (steps.filter (·.asks)) := by
  induction steps generalizing since pruned kept with
  | nil => rfl
  | cons step rest ih =>
      obtain ⟨first,after⟩ := List.pairwise_cons.mp ordered
      have later := fun key => (stand key).later (begins step (by simp))
      have next : ∀ other ∈ rest, step.now * tick ≤ other.now * tick := fun other member =>
        mul_le_mul_of_nonneg_right (Nat.cast_le.mpr (first other member)) ticks
      cases step with
      | allowBucket now key =>
          have stand : StandFor (now * tick) pruned kept := later
          obtain ⟨same,stands⟩ := stand.allowBucket (refills key)
          simp only [decisions,List.filter_cons,BucketStep.asks,if_true]
          exact congrArg₂ List.cons (by rw [same]) (ih stands next after)
      | pruneExpired now =>
          simp only [decisions,List.filter_cons,BucketStep.asks,Bool.false_eq_true,if_false]
          exact ih (StandFor.pruneExpired later) next after

theorem decisions_pays (counts : (limits key).counts) {now : Nat} {state : SecurityState TokenBucket}
    (filled : (state.buckets.lookup key).getD (.new (limits key).rate.perSecond (limits key).burst (now * tick)) = ⟨(count + 1 : Nat),now * tick⟩)
    (bounded : count + 1 ≤ (limits key).burst) (rest : List BucketStep) :
    decisions view tick limits state (.allowBucket now key :: rest) =
      (key,now * tick,true) :: decisions view tick limits {state with buckets:=state.buckets.insert key ⟨count,now * tick⟩} rest := by
  have level : min (((count + 1 : Nat) : ℚ) + max (now * tick - now * tick) 0 * (limits key).rate.perSecond) (limits key).burst = count + 1 := by
    rw [sub_self,max_self,zero_mul,add_zero,min_eq_left (Nat.cast_le.mpr bounded)]
    push_cast
    rfl
  have enough : (1 : ℚ) ≤ count + 1 := le_add_of_nonneg_left (Nat.cast_nonneg count)
  have granted : (⟨(count + 1 : Nat),now * tick⟩ : TokenBucket).allow (now * tick) (limits key).rate.perSecond (limits key).burst =
      (true,⟨count,now * tick⟩) := by
    unfold TokenBucket.allow
    simp only [level,if_pos enough,add_sub_cancel_right]
  simp only [decisions,allowBucket_counted counts,filled,granted]

-- Calls of one instant that find enough tokens.
theorem decisions_burst (counts : (limits key).counts) {now : Nat} (count : Nat) {state : SecurityState TokenBucket}
    (filled : (state.buckets.lookup key).getD (.new (limits key).rate.perSecond (limits key).burst (now * tick)) = ⟨(count + 1 : Nat),now * tick⟩)
    (bounded : count + 1 ≤ (limits key).burst) (rest : List BucketStep) :
    decisions view tick limits state (List.replicate (count + 1) (.allowBucket now key) ++ rest) = List.replicate (count + 1) (key,now * tick,true) ++
      decisions view tick limits {state with buckets:=state.buckets.insert key ⟨(0 : Nat),now * tick⟩} rest := by
  induction count generalizing state with
  | zero => exact decisions_pays counts filled bounded rest
  | succ count ih =>
      have next := @ih {state with buckets:=state.buckets.insert key ⟨(count + 1 : Nat),now * tick⟩} (by rw [AList.lookup_insert]; rfl) (Nat.le_of_succ_le bounded)
      rw [AList.insert_insert] at next
      rw [List.replicate_succ,List.cons_append,decisions_pays counts filled bounded,next]
      rfl

-- The whole burst twice, the bucket left alone in between for longer than it is kept.
def idleRun (key : String) (burst gap : Nat) : List BucketStep :=
  List.replicate burst (.allowBucket 0 key) ++ .pruneExpired gap :: List.replicate burst (.allowBucket gap key)

theorem idleRun_ordered (key : String) (burst gap : Nat) : (idleRun key burst gap).Pairwise fun first second => first.now ≤ second.now := by
  unfold idleRun
  refine List.pairwise_append.mpr ⟨List.pairwise_replicate.mpr (.inr (Nat.le_refl _)),List.pairwise_cons.mpr ⟨?_,List.pairwise_replicate.mpr (.inr (Nat.le_refl _))⟩,?_⟩
  · intro step member
    rw [List.eq_of_mem_replicate member]
    exact Nat.le_refl gap
  · intro step member _ _
    rw [List.eq_of_mem_replicate member]
    exact Nat.zero_le _

theorem idleRun_calls (key : String) (burst gap : Nat) : (idleRun key burst gap).filter (·.asks) =
    (List.replicate burst (0,key) ++ List.replicate burst (gap,key)).map fun call : Nat × String => .allowBucket call.1 call.2 := by
  simp [idleRun,BucketStep.asks]

theorem verdictsOf_append (key : String) (one other : List (String × ℚ × Bool)) :
    verdictsOf key (one ++ other) = verdictsOf key one ++ verdictsOf key other := by
  simp only [verdictsOf,List.filter_append,List.map_append]

theorem passesIn_replicate (count : Nat) (inside : start ≤ now ∧ now ≤ start + length) :
    passesIn (verdictsOf key (List.replicate count (key,now,true))) start length = count := by
  unfold verdictsOf passesIn
  rw [List.filter_replicate,if_pos (decide_eq_true rfl),List.map_replicate,List.countP_replicate,if_pos (by simpa using inside)]

theorem passesIn_append (one other : List (ℚ × Bool)) (start length : ℚ) :
    passesIn (one ++ other) start length = passesIn one start length + passesIn other start length := List.countP_append

theorem idleRun_pruned (counts : (limits key).counts) {gap : Nat} (idle : securityBucketIdleTtl < gap * tick) :
    passesIn (verdictsOf key (decisions view tick limits ⟨∅,∅⟩ (idleRun key (limits key).burst gap))) 0 (gap * tick) =
      (limits key).burst + (limits key).burst := by
  obtain ⟨count,whole⟩ := Nat.exists_eq_succ_of_ne_zero counts.2.ne'
  have lasts : 0 ≤ gap * tick := le_of_lt (lt_trans (by unfold securityBucketIdleTtl; norm_num) idle)
  let drained : SecurityState TokenBucket := ⟨(∅ : Table String TokenBucket).insert key ⟨(0 : Nat),(0 : Nat) * tick⟩,∅⟩
  have begun : ((⟨∅,∅⟩ : SecurityState TokenBucket).buckets.lookup key).getD (.new (limits key).rate.perSecond (limits key).burst ((0 : Nat) * tick)) =
      ⟨(count + 1 : Nat),(0 : Nat) * tick⟩ := by
    rw [← Nat.succ_eq_add_one,← whole]
    rfl
  have dropped : ((drained.pruneExpired tick gap).buckets.lookup key).getD (.new (limits key).rate.perSecond (limits key).burst (gap * tick)) =
      ⟨(count + 1 : Nat),gap * tick⟩ := by
    have old : ¬ max (gap * tick - (0 : Nat) * tick) 0 ≤ securityBucketIdleTtl := by
      rw [Nat.cast_zero,zero_mul,sub_zero,max_eq_left lasts]
      exact not_le.mpr idle
    unfold SecurityState.pruneExpired
    rw [Table.lookup_retain,AList.lookup_insert,Option.filter_some_neg (by simpa using old),Option.getD_none,← Nat.succ_eq_add_one,← whole]
    rfl
  have second : decisions view tick limits (drained.pruneExpired tick gap) (List.replicate (count + 1) (.allowBucket gap key) ++ []) =
      List.replicate (count + 1) (key,gap * tick,true) ++ [] := decisions_burst counts count dropped whole.ge []
  have first : decisions view tick limits ⟨∅,∅⟩ (idleRun key (count + 1) gap) = List.replicate (count + 1) (key,(0 : Nat) * tick,true) ++
      decisions view tick limits (drained.pruneExpired tick gap) (List.replicate (count + 1) (.allowBucket gap key)) :=
    decisions_burst counts count begun whole.ge _
  rw [List.append_nil,List.append_nil] at second
  rw [whole,Nat.succ_eq_add_one,first,second,verdictsOf_append,passesIn_append,passesIn_replicate _ (by simpa using lasts),
    passesIn_replicate _ (by simpa using lasts)]

-- What is left of a burst that the idle time does not earn back shows.
theorem idleRun_shows (counts : (limits key).counts) (ticks : 0 ≤ tick) {gap : Nat} (idle : securityBucketIdleTtl < gap * tick)
    (short : gap * tick * (limits key).rate.perSecond < (limits key).burst) :
    decisions view tick limits ⟨∅,∅⟩ (idleRun key (limits key).burst gap) ≠
      decisions view tick limits ⟨∅,∅⟩ ((idleRun key (limits key).burst gap).filter (·.asks)) := by
  intro same
  have lasts : 0 ≤ gap * tick := le_of_lt (lt_trans (by unfold securityBucketIdleTtl; norm_num) idle)
  have timely : Timely key (List.replicate (limits key).burst (0,key) ++ List.replicate (limits key).burst (gap,key)) := by
    refine List.Pairwise.filter _ (List.pairwise_append.mpr ⟨List.pairwise_replicate.mpr (.inr (Nat.le_refl _)),
      List.pairwise_replicate.mpr (.inr (Nat.le_refl _)),?_⟩)
    intro call member _ _
    rw [List.eq_of_mem_replicate member]
    exact Nat.zero_le _
  have kept : (passesIn (verdictsOf key (decisions view tick limits ⟨∅,∅⟩ ((idleRun key (limits key).burst gap).filter (·.asks)))) 0 (gap * tick) : ℚ) ≤
      (limits key).burst + (limits key).rate.perSecond * (gap * tick) := by
    rw [idleRun_calls]
    exact admitted_bounded counts ticks timely 0 lasts
  rw [← same,idleRun_pruned counts idle] at kept
  push_cast at kept
  linarith

def PruningUnseen (view : SecurityCodec Packet Bucket) (tick : ℚ) (limits : String → Limit) : Prop :=
  ∀ steps : List BucketStep, (steps.Pairwise fun first second => first.now ≤ second.now) →
    decisions view tick limits ⟨∅,∅⟩ steps = decisions view tick limits ⟨∅,∅⟩ (steps.filter (·.asks))

theorem unseen_when_refilled (ticks : 0 ≤ tick) (refills : ∀ key, (limits key).counts → (limits key).refills) : PruningUnseen view tick limits := by
  intro steps ordered
  have empty : StandFor 0 ⟨∅,∅⟩ ⟨∅,∅⟩ := fun _ => .refl 0 (fun _ member => nomatch member)
  exact empty.decided ticks refills (fun step _ => mul_nonneg (Nat.cast_nonneg _) ticks) ordered

-- A clock whose one tick is longer than a bucket is kept, and too short to fill it.
theorem Limit.gap (short : ¬ limit.refills) : ∃ tick : ℚ, securityBucketIdleTtl < tick ∧ tick * limit.rate.perSecond < limit.burst := by
  have missing : 0 < limit.burst - securityBucketIdleTtl * limit.rate.perSecond := sub_pos.mpr (not_le.mp short)
  have rated : 0 < limit.rate.perSecond + 1 := by linarith [limit.rated]
  refine ⟨securityBucketIdleTtl + (limit.burst - securityBucketIdleTtl * limit.rate.perSecond) / (limit.rate.perSecond + 1),?_,?_⟩
  · exact lt_add_of_pos_right _ (div_pos missing rated)
  · have part : (limit.burst - securityBucketIdleTtl * limit.rate.perSecond) / (limit.rate.perSecond + 1) * limit.rate.perSecond <
        limit.burst - securityBucketIdleTtl * limit.rate.perSecond := by
      rw [div_mul_eq_mul_div,div_lt_iff₀ rated]
      exact mul_lt_mul_of_pos_left (lt_add_one _) missing
    rw [add_mul]
    linarith

theorem unseen_iff_refilled : (∀ tick, 0 < tick → PruningUnseen view tick limits) ↔ ∀ key, (limits key).counts → (limits key).refills := by
  constructor
  · intro unseen key counts
    by_contra short
    obtain ⟨tick,idle,rest⟩ := Limit.gap short
    have ticks : 0 < tick := lt_trans (by unfold securityBucketIdleTtl; norm_num) idle
    have alone : ((1 : Nat) : ℚ) * tick = tick := by rw [Nat.cast_one,one_mul]
    exact idleRun_shows counts ticks.le (by rwa [alone]) (by rwa [alone]) (unseen tick ticks _ (idleRun_ordered key (limits key).burst 1))
  · exact fun refills tick ticks => unseen_when_refilled ticks.le refills

theorem Limit.perMinute_refills (count : Nat) : (Limit.perMinute count).refills := by
  have counted : (0 : ℚ) ≤ count := Nat.cast_nonneg count
  unfold refills perMinute securityBucketIdleTtl Rate.perSecond Security.perMinute
  push_cast
  linarith

end Pruning

section Kinds
variable {Packet Bucket : Type} {view : SecurityCodec Packet Bucket}

-- What `allow_bucket` is asked for.
inductive BucketKind where
  | floodPackets (transport : SipTransport)
  | packets
  | parseErrors
  | dynamicBan (offense : DynamicOffense)
  | invalidLog (samplePerMinute : Nat)
  | sipRate (method : Proxy.Method)
  deriving DecidableEq, Repr

def BucketKind.countsPackets : BucketKind → Bool
  | .floodPackets _ | .packets => true
  | _ => false

def bucketLimit (config : EffectiveProxySecurityConfig) : BucketKind → Limit
  | .floodPackets transport => ⟨perSecond (floodLimit config.flood transport).1,(floodLimit config.flood transport).2.1⟩
  | .packets => ⟨perSecond config.ipRateLimit.packetsPerSecond,config.ipRateLimit.burst⟩
  | .parseErrors => .perMinute config.ipRateLimit.parseErrorsPerMinute
  | .dynamicBan .invalidPacket => .perMinute config.dynamicBan.invalidPacketsPerMinute
  | .dynamicBan .parseError => .perMinute config.dynamicBan.parseErrorsPerMinute
  | .dynamicBan .sipRateViolation => .perMinute config.dynamicBan.sipRateViolationsPerMinute
  | .invalidLog samplePerMinute => .perMinute samplePerMinute
  | .sipRate method => .perMinute ((SecurityRuntime.sipRateLimit config.sipRateLimit method).elim 0 (·.1))

theorem bucketLimit_minutely {kind : BucketKind} (config : EffectiveProxySecurityConfig) (slow : kind.countsPackets = false) : (bucketLimit config kind).refills := by
  cases kind with
  | floodPackets transport => cases slow
  | packets => cases slow
  | parseErrors => exact Limit.perMinute_refills _
  | dynamicBan offense => cases offense <;> exact Limit.perMinute_refills _
  | invalidLog samplePerMinute => exact Limit.perMinute_refills _
  | sipRate method => exact Limit.perMinute_refills _

-- Only the buckets that count packets can be dropped before they are full.
theorem pruning_unseen_iff (view : SecurityCodec Packet Bucket) (config : EffectiveProxySecurityConfig) (kindOf : String → BucketKind) :
    (∀ tick, 0 < tick → PruningUnseen view tick fun key => bucketLimit config (kindOf key)) ↔
      ∀ key, (kindOf key).countsPackets = true → (bucketLimit config (kindOf key)).counts →
        (bucketLimit config (kindOf key)).burst ≤ securityBucketIdleTtl * (bucketLimit config (kindOf key)).rate.perSecond := by
  rw [unseen_iff_refilled]
  constructor
  · exact fun refills key _ counts => refills key counts
  · intro refills key counts
    cases packets : (kindOf key).countsPackets with
    | true => exact refills key packets counts
    | false => exact bucketLimit_minutely config packets

-- A packet a second and a burst of a thousand, which the validation lets pass.
def slowPackets : ConfiguredSecurity := {ConfiguredSecurity.unset with ipRateLimit:=⟨some true,some 1,some 1000,none,none⟩}

theorem idle_burst_returns : validateSecurityConfig (fun _ => .error "invalid IP address syntax") slowPackets "proxy.security" = .ok () ∧
    ∃ steps : List BucketStep, (steps.Pairwise fun first second => first.now ≤ second.now) ∧
      let limits := fun _ : String => bucketLimit (slowPackets.applyToEffective .off) .packets
      decisions plainCheck (1 / 1000) limits ⟨∅,∅⟩ steps ≠ decisions plainCheck (1 / 1000) limits ⟨∅,∅⟩ (steps.filter (·.asks)) := by
  refine ⟨any_packet_limit_accepted _ _ 0 999,idleRun "packets|udp/0.0.0.0:5060|10.0.0.1" 1000 601000,idleRun_ordered _ _ _,?_⟩
  have counts : (bucketLimit (slowPackets.applyToEffective .off) .packets).counts := by decide
  refine idleRun_shows counts (by norm_num) ?_ ?_
  · norm_num [securityBucketIdleTtl]
  · norm_num [bucketLimit,slowPackets,ProxySecurityConfig.applyToEffective,ProxyIpRateLimitConfig.applyToEffective,Rate.perSecond,perSecond]

end Kinds

end Sigproxy.Security
