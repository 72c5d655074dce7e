import Mathlib.Data.List.Chain

namespace Sigproxy.Library.Changes

section Definitions
variable {Value : Type} [DecidableEq Value]

-- The values of a series that differ from the one in front of them.
def changes (previous : Value) : List Value → List Value
  | [] => []
  | value :: rest => if value = previous then changes previous rest else value :: changes value rest

def latest (previous : Value) (values : List Value) : Value := values.getLast?.getD previous

end Definitions

section Latest
variable {Value : Type} {previous : Value}

@[simp] theorem latest_nil : latest previous [] = previous := rfl

@[simp] theorem latest_snoc (values : List Value) (value : Value) : latest previous (values ++ [value]) = value := by
  simp [latest]

theorem latest_cons (value : Value) (rest : List Value) : latest previous (value :: rest) = latest value rest := by
  simp [latest,List.getLast?_cons]

theorem latest_some (some : values ≠ []) (first second : Value) : latest first values = latest second values := by
  cases values with
  | nil => exact absurd rfl some
  | cons value rest => rw [latest_cons,latest_cons]

theorem chain_snoc (chained : (previous :: values).IsChain (· ≠ ·)) (different : latest previous values ≠ value) :
    (previous :: (values ++ [value])).IsChain (· ≠ ·) := by
  induction values generalizing previous with
  | nil => exact .cons_cons different (.singleton _)
  | cons first rest ih =>
      obtain ⟨apart,later⟩ := List.isChain_cons_cons.mp chained
      rw [latest_cons] at different
      exact .cons_cons apart (ih later different)

end Latest

section Series
variable {Value : Type} [DecidableEq Value] {previous : Value}

theorem changes_append (previous : Value) (first second : List Value) :
    changes previous (first ++ second) = changes previous first ++ changes (latest previous first) second := by
  induction first generalizing previous with
  | nil => rfl
  | cons value rest ih =>
      rw [List.cons_append,changes,changes,latest_cons]
      split
      · rename_i same
        rw [ih,same]
      · rw [ih,List.cons_append]

theorem changes_cons (previous value : Value) (rest : List Value) :
    changes previous (value :: rest) = changes previous [value] ++ changes value rest := by
  rw [← List.singleton_append,changes_append]
  rfl

end Series

end Sigproxy.Library.Changes
