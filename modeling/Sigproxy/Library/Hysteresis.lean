import Mathlib.Data.List.Basic
import Mathlib.Data.List.Infix

namespace Sigproxy.Library.Hysteresis

-- How long the signal has had a value, at the end of what was recorded of it.
def trailing (value : Bool) (results : List Bool) : Nat := (results.reverse.takeWhile (· == value)).length

-- Since a run of failures last reached its threshold, a run of successes has reached its own.
def Recovered (successThreshold failureThreshold : Nat) (results : List Bool) : Prop :=
  ∀ failed, failed <+: results → failureThreshold ≤ trailing false failed →
    ∃ restored, failed <+: restored ∧ restored <+: results ∧ successThreshold ≤ trailing true restored

@[simp] theorem trailing_nil (value : Bool) : trailing value [] = 0 := rfl

@[simp] theorem trailing_snoc (value : Bool) (results : List Bool) (last : Bool) :
    trailing value (results ++ [last]) = if last = value then trailing value results + 1 else 0 := by
  simp only [trailing,List.reverse_append,List.reverse_singleton,List.singleton_append,List.takeWhile_cons,beq_iff_eq]
  split <;> rfl

-- A signal does not end in both values.
theorem trailing_other (value : Bool) (results : List Bool) : trailing value results = 0 ∨ trailing (!value) results = 0 := by
  rcases List.eq_nil_or_concat results with rfl | ⟨before,last,rfl⟩
  · exact .inl rfl
  · rw [List.concat_eq_append]
    by_cases same : last = value
    · exact .inr (by simp [same])
    · exact .inl (by simp [same])

section Recovery
variable {successThreshold failureThreshold : Nat}

theorem Recovered.nil (failurePositive : 0 < failureThreshold) : Recovered successThreshold failureThreshold [] := by
  intro failed initial reached
  rw [List.prefix_nil.mp initial] at reached
  exact absurd reached (Nat.not_le_of_lt failurePositive)

theorem recovered_of_reached (reached : successThreshold ≤ trailing true results) : Recovered successThreshold failureThreshold results :=
  fun _ initial _ => ⟨results,initial,List.prefix_rfl,reached⟩

theorem not_recovered_of_reached (successPositive : 0 < successThreshold) (failurePositive : 0 < failureThreshold)
    (reached : failureThreshold ≤ trailing false results) : ¬Recovered successThreshold failureThreshold results := by
  intro recovered
  obtain ⟨restored,after,initial,succeeded⟩ := recovered results List.prefix_rfl reached
  have whole : restored = results := initial.eq_of_length_le after.length_le
  rw [whole] at succeeded
  have only := trailing_other true results
  simp only [Bool.not_true] at only
  omega

theorem recovered_success (failurePositive : 0 < failureThreshold) : Recovered successThreshold failureThreshold (results ++ [true]) ↔
    Recovered successThreshold failureThreshold results ∨ successThreshold ≤ trailing true (results ++ [true]) := by
  constructor
  · intro recovered
    by_cases reached : successThreshold ≤ trailing true (results ++ [true])
    · exact .inr reached
    · refine .inl fun failed initial fell => ?_
      obtain ⟨restored,after,within,succeeded⟩ := recovered failed (initial.trans (List.prefix_append results [true])) fell
      obtain whole | early := List.prefix_concat_iff.mp within
      · rw [whole] at succeeded
        exact absurd succeeded reached
      · exact ⟨restored,after,early,succeeded⟩
  · intro either
    cases either with
    | inr reached => exact recovered_of_reached reached
    | inl recovered =>
        intro failed initial fell
        obtain whole | early := List.prefix_concat_iff.mp initial
        · rw [whole,trailing_snoc] at fell
          exact absurd fell (Nat.not_le_of_lt failurePositive)
        · obtain ⟨restored,after,within,succeeded⟩ := recovered failed early fell
          exact ⟨restored,after,within.trans (List.prefix_append results [true]),succeeded⟩

theorem recovered_failure (successPositive : 0 < successThreshold) (failurePositive : 0 < failureThreshold) :
    Recovered successThreshold failureThreshold (results ++ [false]) ↔
      Recovered successThreshold failureThreshold results ∧ trailing false (results ++ [false]) < failureThreshold := by
  constructor
  · intro recovered
    refine ⟨fun failed initial fell => ?_,Nat.lt_of_not_le fun reached => not_recovered_of_reached successPositive failurePositive reached recovered⟩
    obtain ⟨restored,after,within,succeeded⟩ := recovered failed (initial.trans (List.prefix_append results [false])) fell
    obtain whole | early := List.prefix_concat_iff.mp within
    · rw [whole,trailing_snoc] at succeeded
      exact absurd succeeded (Nat.not_le_of_lt successPositive)
    · exact ⟨restored,after,early,succeeded⟩
  · intro ⟨recovered,below⟩ failed initial fell
    obtain whole | early := List.prefix_concat_iff.mp initial
    · rw [whole] at fell
      exact absurd fell (Nat.not_le_of_lt below)
    · obtain ⟨restored,after,within,succeeded⟩ := recovered failed early fell
      exact ⟨restored,after,within.trans (List.prefix_append results [false]),succeeded⟩

end Recovery
end Sigproxy.Library.Hysteresis
