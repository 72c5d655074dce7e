import Mathlib.Data.List.Nodup
import Mathlib.Data.List.Infix

namespace Sigproxy.Library

variable {Item : Type} {first second : List Item} {keep : Item → Bool} {item : Item}

-- Two lines through which the same items pass: `second` is served in the order of
-- `first`, among the items that `keep` selects, as long as nobody jumps the queue.
theorem inOrder_snoc [DecidableEq Item] (distinct : first.Nodup) (ordered : second.filter keep <+: first.filter keep)
    (waiting : item ∈ first) (fresh : item ∉ second)
    (turn : ∀ other ∈ first.takeWhile fun other => decide (other ≠ item), keep other = true → other ∈ second) :
    (second ++ [item]).filter keep <+: first.filter keep := by
  obtain ⟨before,after,split,absent⟩ := List.eq_append_cons_of_mem waiting
  have ahead : (first.takeWhile fun other => decide (other ≠ item)) = before := by
    rw [split,List.takeWhile_append_of_pos]
    · simp
    · intro other member
      exact decide_eq_true fun same => absent (same ▸ member)
  rw [ahead] at turn
  cases kept : keep item with
  | false => simpa [kept] using ordered
  | true =>
      obtain ⟨rest,served⟩ := ordered
      rw [split,List.filter_append,List.filter_cons_of_pos kept,List.append_eq_append_iff] at served
      rw [split,List.filter_append,List.filter_append,List.filter_cons_of_pos kept,List.filter_cons_of_pos kept,
        List.filter_nil]
      obtain ⟨skipped,early,-⟩ | ⟨extra,late,tail⟩ := served
      · -- Whoever stands before the item has been served, so nobody is skipped.
        have none : skipped = [] := by
          apply List.eq_nil_iff_forall_not_mem.mpr
          intro other member
          have listed : other ∈ before.filter keep := early ▸ List.mem_append_right _ member
          have served := List.mem_filter.mpr
            ⟨turn other (List.mem_of_mem_filter listed) (List.mem_filter.mp listed).2,(List.mem_filter.mp listed).2⟩
          have apart : (before.filter keep).Nodup :=
            (distinct.sublist (split ▸ List.sublist_append_left before _)).filter keep
          rw [early,List.nodup_append] at apart
          exact apart.2.2 other served other member rfl
        rw [early,none,List.append_nil]
        exact ⟨after.filter keep,by simp⟩
      · cases extra with
        | nil =>
            rw [late,List.append_nil]
            exact ⟨after.filter keep,by simp⟩
        | cons head more =>
            rw [List.cons_append,List.cons.injEq] at tail
            have served : item ∈ second.filter keep := by rw [late,tail.1]; simp
            exact absurd (List.mem_of_mem_filter served) fresh

theorem inOrder_done (distinct : first.Nodup) (ordered : second.filter keep <+: first.filter keep)
    (served : ∀ item ∈ first, item ∈ second) : second.filter keep = first.filter keep := by
  obtain ⟨rest,split⟩ := ordered
  have none : rest = [] := by
    apply List.eq_nil_iff_forall_not_mem.mpr
    intro item member
    have listed : item ∈ first.filter keep := split ▸ List.mem_append_right _ member
    have apart := distinct.filter keep
    rw [← split,List.nodup_append] at apart
    have early : item ∈ second.filter keep :=
      List.mem_filter.mpr ⟨served item (List.mem_of_mem_filter listed),(List.mem_filter.mp listed).2⟩
    exact apart.2.2 item early item member rfl
  rw [← split,none,List.append_nil]

end Sigproxy.Library
