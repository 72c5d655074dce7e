import Mathlib.Data.List.Forall2
import Mathlib.Data.List.Infix

namespace Sigproxy.Library
variable {Item Mark : Type}

-- The wanted items of which the list holds no mark are given theirs in front of it.
def reinstated (present : Item → Bool) (mark : Item → Mark) (wanted : List Item) (existing : List Mark) : List Mark :=
  (wanted.filter fun item => !present item).map mark ++ existing

-- What the list still marks is the end of what is wanted, and it is marked in order.
structure EndKept (stands : Item → Mark → Prop) (present : Item → Bool) (wanted : List Item) (existing : List Mark) : Prop where
  below : wanted.Pairwise fun upper lower => present upper = true → present lower = true
  inOrder : List.SublistForall₂ stands (wanted.filter present) existing

section Splitting
variable {stands : Item → Mark → Prop} {present : Item → Bool}

theorem sublistForall₂_append (first : List.SublistForall₂ stands items marks) (second : List.SublistForall₂ stands others more) :
    List.SublistForall₂ stands (items ++ others) (marks ++ more) := by
  obtain ⟨front,matched,within⟩ := List.sublistForall₂_iff.mp first
  obtain ⟨back,matchedToo,withinToo⟩ := List.sublistForall₂_iff.mp second
  exact List.sublistForall₂_iff.mpr ⟨front ++ back,List.rel_append matched matchedToo,within.append withinToo⟩

theorem sublistForall₂_split (all : List.SublistForall₂ stands items (marks ++ more)) : ∃ upper lower, items = upper ++ lower ∧
    List.SublistForall₂ stands upper marks ∧ List.SublistForall₂ stands lower more := by
  obtain ⟨chosen,matched,within⟩ := List.sublistForall₂_iff.mp all
  obtain ⟨front,back,rfl,inFront,inBack⟩ := List.sublist_append_iff.mp within
  refine ⟨items.take front.length,items.drop front.length,(List.take_append_drop _ items).symm,?_,?_⟩
  · exact List.sublistForall₂_iff.mpr ⟨front,List.forall₂_take_append items front back matched,inFront⟩
  · exact List.sublistForall₂_iff.mpr ⟨back,List.forall₂_drop_append items front back matched,inBack⟩

theorem sublistForall₂_mem (all : List.SublistForall₂ stands items marks) (member : item ∈ items) : ∃ mark ∈ marks, stands item mark := by
  induction all with
  | nil => cases member
  | cons here _ ih =>
      cases List.mem_cons.mp member with
      | inl same => exact ⟨_,List.mem_cons_self,same ▸ here⟩
      | inr later =>
          obtain ⟨mark,listed,found⟩ := ih later
          exact ⟨mark,List.mem_cons_of_mem _ listed,found⟩
  | cons_right _ ih =>
      obtain ⟨mark,listed,found⟩ := ih member
      exact ⟨mark,List.mem_cons_of_mem _ listed,found⟩

theorem missing_above (below : List.Pairwise (fun upper lower => present upper = true → present lower = true) wanted) :
    wanted = (wanted.filter fun item => !present item) ++ wanted.filter present := by
  induction wanted with
  | nil => rfl
  | cons item wanted ih =>
      obtain ⟨first,rest⟩ := List.pairwise_cons.mp below
      cases found : present item with
      | false => simpa [found] using ih rest
      | true =>
          have all : ∀ other ∈ wanted, present other = true := fun other member => first other member found
          have none : (wanted.filter fun item => !present item) = [] := by simpa [List.filter_eq_nil_iff] using all
          simp [found,none,List.filter_eq_self.mpr all]

end Splitting

section Order
variable {stands : Item → Mark → Prop} {present : Item → Bool} {mark : Item → Mark} {wanted : List Item} {existing : List Mark}

theorem EndKept.reinstates (kept : EndKept stands present wanted existing) (marks : ∀ item ∈ wanted, stands item (mark item)) :
    List.SublistForall₂ stands wanted (reinstated present mark wanted existing) := by
  have missing : ∀ items, (∀ item ∈ items, stands item (mark item)) → List.SublistForall₂ stands items (items.map mark) := by
    intro items given
    refine List.sublistForall₂_map_right_iff.mpr (List.sublistForall₂_iff.mpr ⟨items,?_,List.Sublist.refl items⟩)
    exact List.forall₂_same.mpr given
  have front := missing (wanted.filter fun item => !present item) fun item member => marks item (List.mem_of_mem_filter member)
  have joined := sublistForall₂_append front kept.inOrder
  rwa [← missing_above kept.below] at joined

-- Marks in order can only come from such a list, where no mark stands for two of the wanted.
theorem endKept_of_reinstates (apart : ∀ item ∈ wanted, ∀ other ∈ wanted, stands item (mark other) → item = other)
    (seen : ∀ item ∈ wanted, ∀ found ∈ existing, stands item found → present item = true)
    (ordered : List.SublistForall₂ stands wanted (reinstated present mark wanted existing)) : EndKept stands present wanted existing := by
  obtain ⟨upper,lower,split,inFront,behind⟩ := sublistForall₂_split ordered
  have absent : ∀ item ∈ upper, present item = false := by
    intro item member
    have listed : item ∈ wanted := split ▸ List.mem_append_left lower member
    obtain ⟨found,made,here⟩ := sublistForall₂_mem inFront member
    obtain ⟨other,missing,rfl⟩ := List.mem_map.mp made
    have same := apart item listed other (List.mem_of_mem_filter missing) here
    simpa [same] using (List.mem_filter.mp missing).2
  have held : ∀ item ∈ lower, present item = true := by
    intro item member
    obtain ⟨found,listed,here⟩ := sublistForall₂_mem behind member
    exact seen item (split ▸ List.mem_append_right upper member) found listed here
  have none : upper.filter present = [] := by
    rw [List.filter_eq_nil_iff]
    exact fun item member => Bool.eq_false_iff.mp (absent item member)
  constructor
  · rw [split,List.pairwise_append]
    refine ⟨?_,?_,fun _ _ item member _ => held item member⟩
    · exact List.Pairwise.imp_of_mem (fun member _ _ found => absurd found (Bool.eq_false_iff.mp (absent _ member))) (List.pairwise_of_forall fun _ _ => trivial)
    · exact List.Pairwise.imp_of_mem (fun _ member _ _ => held _ member) (List.pairwise_of_forall fun _ _ => trivial)
  · rw [split,List.filter_append,none,List.nil_append,List.filter_eq_self.mpr held]
    exact behind

end Order
end Sigproxy.Library
