import Mathlib.Data.List.Basic

namespace Sigproxy.Library.CanonicalSort
open Std

section Sorting
variable {Item : Type} (cmp : Item → Item → Ordering)

-- The stable sort by a comparison.
def sortBy (items : List Item) : List Item := items.mergeSort fun first second => (cmp first second).isLE

theorem sortBy_perm (items : List Item) : (sortBy cmp items).Perm items := List.mergeSort_perm items _

theorem sortBy_ordered [TransCmp cmp] (items : List Item) : (sortBy cmp items).Pairwise fun first second => (cmp first second).isLE = true := by
  apply List.pairwise_mergeSort
  · intro first second third before behind
    exact TransCmp.isLE_trans before behind
  · intro first second
    have turned : cmp second first = (cmp first second).swap := OrientedCmp.eq_swap
    rw [turned]
    cases cmp first second <;> rfl

-- Where no two items tie, the sorted list does not know the order it came from.
theorem sortBy_canonical [TransCmp cmp] [LawfulEqCmp cmp] {items other : List Item} (same : items.Perm other) :
    sortBy cmp items = sortBy cmp other := by
  apply List.Perm.eq_of_pairwise _ (sortBy_ordered cmp items) (sortBy_ordered cmp other)
  · exact (sortBy_perm cmp items).trans (same.trans (sortBy_perm cmp other).symm)
  · intro first second _ _ before behind
    exact LawfulEqCmp.eq_of_compare (OrientedCmp.isLE_antisymm before behind)

end Sorting
end Sigproxy.Library.CanonicalSort
