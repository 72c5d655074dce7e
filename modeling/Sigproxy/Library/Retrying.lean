import Mathlib.Data.List.Basic

namespace Sigproxy.Library.Retrying

section Attempts
variable {Attempt Result : Type} (settles : Attempt → Bool) (outcome : Attempt → Except String Result)

-- Numbered attempts, made until one of them settles the matter. What the last one came to
-- is kept, and is the answer where none settles it.
def retry (attempts : Nat → Attempt) : List Nat → Option String → Except String Result
  | [],lastError => .error (lastError.getD "empty retry loop")
  | number :: rest,_ =>
    if settles (attempts number) then outcome (attempts number)
    else match outcome (attempts number) with
      | .ok result => .ok result
      | .error error => retry attempts rest (some error)

-- The numbers of a loop `for attempt in 1..=count`.
def numbers (count : Nat) : List Nat := List.range' 1 count

variable {settles outcome}

-- The answer is that of one attempt, in front of which every one was made in vain.
def Decided (settles : Attempt → Bool) (outcome : Attempt → Except String Result) (attempts : Nat → Attempt) (first last : Nat)
    (result : Except String Result) : Prop :=
  ∃ number, first ≤ number ∧ number ≤ last ∧ result = outcome (attempts number) ∧
    (settles (attempts number) = true ∨ number = last) ∧ ∀ earlier, first ≤ earlier → earlier < number → settles (attempts earlier) = false

theorem retry_decided (goesOn : ∀ attempt, settles attempt = false → ∃ error, outcome attempt = .error error) (attempts : Nat → Attempt)
    (first count : Nat) (lastError : Option String) :
    Decided settles outcome attempts first (first + count) (retry settles outcome attempts (List.range' first (count + 1)) lastError) := by
  induction count generalizing first lastError with
  | zero =>
      refine ⟨first,Nat.le_refl _,Nat.le_refl _,?_,.inr rfl,fun earlier above below => absurd above (Nat.not_le.mpr below)⟩
      rw [Nat.zero_add,List.range'_one,retry]
      split
      · rfl
      · rename_i unsettled
        obtain ⟨error,failed⟩ := goesOn _ (Bool.eq_false_iff.mpr unsettled)
        rw [failed]
        rfl
  | succ count ih =>
      rw [List.range'_succ,retry]
      split
      · rename_i settled
        exact ⟨first,Nat.le_refl _,Nat.le_add_right _ _,rfl,.inl settled,fun earlier above below => absurd above (Nat.not_le.mpr below)⟩
      · rename_i unsettled
        have vain := Bool.eq_false_iff.mpr unsettled
        obtain ⟨error,failed⟩ := goesOn _ vain
        rw [failed]
        obtain ⟨number,above,below,result,ends,earlier⟩ := ih (first + 1) (some error)
        refine ⟨number,by omega,by omega,result,ends.imp_right fun same => by omega,fun other low high => ?_⟩
        rcases Nat.eq_or_lt_of_le low with same | later
        · exact same ▸ vain
        · exact earlier other later high

theorem retry_ok (goesOn : ∀ attempt, settles attempt = false → ∃ error, outcome attempt = .error error) (attempts : Nat → Attempt)
    (count : Nat) (result : Result) : retry settles outcome attempts (numbers (max count 1)) none = .ok result ↔
    ∃ number, 1 ≤ number ∧ number ≤ max count 1 ∧ outcome (attempts number) = .ok result ∧
      ∀ earlier, 1 ≤ earlier → earlier < number → settles (attempts earlier) = false := by
  have decided := retry_decided goesOn attempts 1 (max count 1 - 1) none
  have bound : 1 + (max count 1 - 1) = max count 1 := by omega
  rw [Nat.sub_add_cancel (Nat.le_max_right ..),bound] at decided
  change Decided settles outcome attempts 1 (max count 1) (retry settles outcome attempts (numbers (max count 1)) none) at decided
  obtain ⟨found,above,below,answer,ends,vain⟩ := decided
  rw [answer]
  constructor
  · exact fun given => ⟨found,above,below,given,vain⟩
  · intro given
    obtain ⟨number,low,high,good,earlier⟩ := given
    rcases Nat.lt_trichotomy found number with before | same | after
    · rcases ends with settled | last
      · cases (earlier found above before).symm.trans settled
      · omega
    · rwa [same]
    · obtain ⟨error,failed⟩ := goesOn _ (vain number low after)
      cases failed.symm.trans good

end Attempts

end Sigproxy.Library.Retrying
