import Mathlib.Algebra.Order.Field.Basic
import Mathlib.Data.List.Pairwise
import Mathlib.Tactic.Linarith
import Mathlib.Tactic.Positivity
import Mathlib.Tactic.Ring

namespace Sigproxy.Library.Bucket

-- Verdicts on arrivals: when each one came, and whether it was let through.
variable {K : Type} [Field K] [LinearOrder K] {rate burst : K}

def cost (passed : Bool) : K := if passed then 1 else 0

def passes (verdicts : List (K × Bool)) : Nat := verdicts.countP (·.2)

def passesIn (verdicts : List (K × Bool)) (start length : K) : Nat :=
  verdicts.countP fun verdict => verdict.2 && decide (start ≤ verdict.1 ∧ verdict.1 ≤ start + length)

-- A limiter keeps to a rate and a burst when some level of tokens accounts for its
-- verdicts: the level grows no faster than the rate, never beyond the burst, and
-- every arrival let through is paid from it.
inductive Conforms (rate burst : K) : K → K → List (K × Bool) → Prop where
  | done (funded : 0 ≤ level) : Conforms rate burst level since []
  | arrival (funded : 0 ≤ level) (later : since ≤ now)
      (paid : next + cost passed ≤ min (level + (now - since) * rate) burst) (rest : Conforms rate burst next now verdicts) :
      Conforms rate burst level since ((now,passed) :: verdicts)

-- The bucket that refills exactly and lets through whatever it can pay.
def grant (rate burst level elapsed : K) : Bool × K :=
  let filled := min (level + elapsed * rate) burst
  if 1 ≤ filled then (true,filled - 1) else (false,filled)

def greedy (rate burst : K) : K → K → List K → List (K × Bool)
  | _,_,[] => []
  | level,since,now :: rest =>
    let granted := grant rate burst level (now - since)
    (now,granted.1) :: greedy rate burst granted.2 now rest

theorem Conforms.funded (conforms : Conforms rate burst level since verdicts) : 0 ≤ level := by
  cases conforms <;> assumption

theorem Conforms.take (conforms : Conforms rate burst level since verdicts) (count : Nat) :
    Conforms rate burst level since (verdicts.take count) := by
  induction conforms generalizing count with
  | done funded => simpa using Conforms.done funded
  | arrival funded later paid rest ih =>
      cases count with
      | zero => exact .done funded
      | succ count => exact .arrival funded later paid (ih count)

theorem greedy_take (level since : K) (times : List K) (count : Nat) :
    (greedy rate burst level since times).take count = greedy rate burst level since (times.take count) := by
  induction times generalizing level since count with
  | nil => simp [greedy]
  | cons now rest ih =>
      cases count with
      | zero => rfl
      | succ count => simp only [greedy,List.take_succ_cons,ih]

theorem grant_passed (enough : 1 ≤ min (level + elapsed * rate) burst) :
    grant rate burst level elapsed = (true,min (level + elapsed * rate) burst - 1) := if_pos enough

theorem grant_refused (short : ¬ 1 ≤ min (level + elapsed * rate) burst) :
    grant rate burst level elapsed = (false,min (level + elapsed * rate) burst) := if_neg short

theorem grant_pays (rate burst level elapsed : K) :
    (grant rate burst level elapsed).2 + cost (grant rate burst level elapsed).1 = min (level + elapsed * rate) burst := by
  by_cases enough : 1 ≤ min (level + elapsed * rate) burst
  · simp [grant_passed enough,cost]
  · simp [grant_refused enough,cost]

theorem Conforms.after (conforms : Conforms rate burst level since verdicts) : ∀ verdict ∈ verdicts, since ≤ verdict.1 := by
  induction conforms with
  | done => simp
  | arrival _ later _ _ ih =>
      intro verdict either
      rcases either with _ | ⟨_,member⟩
      · exact later
      · exact le_trans later (ih verdict member)

omit [LinearOrder K] in
theorem count_cons (counts : K → Bool) (now : K) (passed : Bool) (verdicts : List (K × Bool)) :
    (((now,passed) :: verdicts).countP (fun verdict => verdict.2 && counts verdict.1) : K) =
      verdicts.countP (fun verdict => verdict.2 && counts verdict.1) + if counts now then cost passed else 0 := by
  cases passed <;> cases counted : counts now <;> simp [counted,cost]

variable [IsStrictOrderedRing K]

theorem grant_funded (filled : 0 ≤ min (level + elapsed * rate) burst) : 0 ≤ (grant rate burst level elapsed).2 := by
  by_cases enough : 1 ≤ min (level + elapsed * rate) burst
  · rw [grant_passed enough]
    exact sub_nonneg.mpr enough
  · rwa [grant_refused enough]

-- An arrival turned away before the limiter is asked.
theorem Conforms.unseen (conforms : Conforms rate burst level since verdicts) (rated : 0 ≤ rate) (sized : 0 ≤ burst)
    (later : since ≤ now) (ordered : ∀ verdict ∈ verdicts, now ≤ verdict.1) :
    Conforms rate burst level since ((now,false) :: verdicts) := by
  have filled : 0 ≤ min (level + (now - since) * rate) burst :=
    le_min (add_nonneg conforms.funded (mul_nonneg (sub_nonneg.mpr later) rated)) sized
  refine .arrival conforms.funded later (le_of_eq (add_zero _)) ?_
  cases conforms with
  | done => exact .done filled
  | @arrival _ _ next _ passed verdicts _ _ paid rest =>
      have before : now ≤ next := ordered (next,passed) (by simp)
      have waits : 0 ≤ (next - now) * rate := mul_nonneg (sub_nonneg.mpr before) rated
      refine .arrival filled before (le_trans paid (le_min ?_ (min_le_right _ _))) rest
      rcases min_choice (level + (now - since) * rate) burst with short | full
      · rw [short]
        linarith [min_le_left (level + (next - since) * rate) burst]
      · rw [full]
        linarith [min_le_right (level + (next - since) * rate) burst]

theorem greedy_conforms (rated : 0 ≤ rate) (sized : 0 ≤ burst) (funded : 0 ≤ level) (ordered : (since :: times).Pairwise (· ≤ ·)) :
    Conforms rate burst level since (greedy rate burst level since times) := by
  induction times generalizing level since with
  | nil => exact .done funded
  | cons now rest ih =>
      obtain ⟨first,later⟩ := List.pairwise_cons.mp ordered
      have elapsed : since ≤ now := first now (by simp)
      have filled : 0 ≤ min (level + (now - since) * rate) burst :=
        le_min (add_nonneg funded (mul_nonneg (sub_nonneg.mpr elapsed) rated)) sized
      exact .arrival funded elapsed (grant_pays rate burst level (now - since)).le (ih (grant_funded filled) later)

theorem refill_mono (within : level ≤ filled + ahead) (ahead_nonneg : 0 ≤ ahead) (gained burst : K) :
    min (level + gained) burst ≤ min (filled + gained) burst + ahead := by
  rcases min_choice (filled + gained) burst with short | full
  · rw [short]
    linarith [min_le_left (level + gained) burst]
  · rw [full]
    linarith [min_le_right (level + gained) burst]

-- Whatever a conforming limiter lets through, the greedy bucket does too, up to what
-- its level is behind: `ahead` counts the arrivals the bucket alone has let through.
theorem Conforms.behind (conforms : Conforms rate burst level since verdicts) {filled : K} {ahead : Nat}
    (within : level ≤ filled + ahead) :
    passes verdicts ≤ ahead + passes (greedy rate burst filled since (verdicts.map (·.1))) := by
  induction conforms generalizing filled ahead with
  | done => simp [passes]
  | @arrival level since now next passed verdicts funded later paid rest ih =>
      have refilled := refill_mono within (Nat.cast_nonneg ahead) ((now - since) * rate) burst
      have funds := rest.funded
      simp only [passes] at ih
      by_cases enough : 1 ≤ min (filled + (now - since) * rate) burst
      · simp only [List.map_cons,greedy,grant_passed enough,passes,List.countP_cons]
        cases passed with
        | true =>
            have stays : next ≤ min (filled + (now - since) * rate) burst - 1 + ahead := by
              simp only [cost,if_true] at paid
              linarith
            have := ih stays
            simp only [if_true]
            omega
        | false =>
            have grows : next ≤ min (filled + (now - since) * rate) burst - 1 + (ahead + 1 : Nat) := by
              simp only [cost,Bool.false_eq_true,if_false] at paid
              push_cast
              linarith
            have := ih grows
            simp only [if_true,Bool.false_eq_true,if_false]
            omega
      · simp only [List.map_cons,greedy,grant_refused enough,passes,List.countP_cons]
        cases passed with
        | true =>
            simp only [cost,if_true] at paid
            -- It paid a token that the bucket did not have, so it was ahead of it.
            obtain _ | ahead := ahead
            · simp only [Nat.cast_zero] at refilled
              exact (enough (by linarith)).elim
            · have shrinks : next ≤ min (filled + (now - since) * rate) burst + ahead := by
                push_cast at refilled
                linarith
              have := ih shrinks
              simp only [if_true,Bool.false_eq_true,if_false]
              omega
        | false =>
            have stays : next ≤ min (filled + (now - since) * rate) burst + ahead := by
              simp only [cost,Bool.false_eq_true,if_false] at paid
              linarith
            have := ih stays
            simp only [Bool.false_eq_true,if_false]
            omega

theorem Conforms.at_most (conforms : Conforms rate burst level since verdicts) (count : Nat) : passes (verdicts.take count) ≤
    passes ((greedy rate burst level since (verdicts.map (·.1))).take count) := by
  have level : level ≤ level + (0 : Nat) := by simp
  have behind := (conforms.take count).behind level
  rwa [Nat.zero_add,List.map_take,← greedy_take] at behind

theorem Conforms.until (conforms : Conforms rate burst level since verdicts) (rated : 0 ≤ rate) (within : since ≤ stop) :
    (verdicts.countP (fun verdict => verdict.2 && decide (verdict.1 ≤ stop)) : K) ≤ level + (stop - since) * rate := by
  induction conforms with
  | done funded => simpa using add_nonneg funded (mul_nonneg (sub_nonneg.mpr within) rated)
  | @arrival level since now next passed verdicts funded later paid rest ih =>
      by_cases early : now ≤ stop
      · have counted := ih early
        have refilled := min_le_left (level + (now - since) * rate) burst
        rw [count_cons (fun now => decide (now ≤ stop)),if_pos (decide_eq_true early)]
        linarith
      · have none : ((now,passed) :: verdicts).countP (fun verdict => verdict.2 && decide (verdict.1 ≤ stop)) = 0 := by
          apply List.countP_eq_zero.mpr
          intro verdict either
          rcases either with _ | ⟨_,member⟩
          · simp [early]
          · simp [not_le.mpr (lt_of_lt_of_le (not_le.mp early) (rest.after verdict member))]
        rw [none]
        simpa using add_nonneg funded (mul_nonneg (sub_nonneg.mpr within) rated)

theorem Conforms.window (conforms : Conforms rate burst level since verdicts) (rated : 0 ≤ rate) (sized : 0 ≤ burst)
    (start : K) (lasts : 0 ≤ length) : (passesIn verdicts start length : K) ≤ burst + rate * length := by
  have bound : 0 ≤ burst + rate * length := add_nonneg sized (mul_nonneg rated lasts)
  unfold passesIn
  induction conforms with
  | done => simpa using bound
  | @arrival level since now next passed verdicts funded later paid rest ih =>
      rw [count_cons (fun now => decide (start ≤ now ∧ now ≤ start + length))]
      by_cases inside : start ≤ now ∧ now ≤ start + length
      · have filled := min_le_right (level + (now - since) * rate) burst
        have counted : (verdicts.countP (fun verdict => verdict.2 && decide (start ≤ verdict.1 ∧ verdict.1 ≤ start + length)) : K) ≤
            next + (start + length - now) * rate :=
          le_trans (Nat.cast_le.mpr (List.countP_mono_left (by simp +contextual))) (rest.until rated inside.2)
        have spent : (start + length - now) * rate ≤ length * rate :=
          mul_le_mul_of_nonneg_right (by linarith [inside.1]) rated
        rw [if_pos (decide_eq_true inside)]
        linarith
      · rw [if_neg (by simpa using inside),add_zero]
        exact ih

end Sigproxy.Library.Bucket
