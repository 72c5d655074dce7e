import Mathlib.Data.List.Forall2

namespace Sigproxy.Library

section Outcomes

theorem bind_ok {first : Except String First} {next : First → Except String Second} :
    (first >>= next) = .ok result ↔ ∃ value, first = .ok value ∧ next value = .ok result := by
  cases first with
  | error message => exact ⟨nofun,nofun⟩
  | ok value => simp [bind,Except.bind]

theorem mapM_ok {f : Item → Except String Result} :
    items.mapM f = .ok results ↔ List.Forall₂ (fun item result => f item = .ok result) items results := by
  induction items generalizing results with
  | nil => simp [pure,Except.pure,eq_comm]
  | cons item rest ih =>
      rw [List.mapM_cons,bind_ok]
      constructor
      · intro given
        rcases given with ⟨result,here,later⟩
        obtain ⟨others,rested,last⟩ := bind_ok.mp later
        cases last
        exact .cons here (ih.mp rested)
      · intro either
        rcases either with _ | ⟨here,later⟩
        exact ⟨_,here,bind_ok.mpr ⟨_,ih.mpr later,rfl⟩⟩

-- The first item that fails is the one whose error is given.
theorem mapM_error {f : Item → Except String Result} : items.mapM f = .error message ↔
    ∃ before item after results, items = before ++ item :: after ∧ before.mapM f = .ok results ∧ f item = .error message := by
  induction items with
  | nil => simp [pure,Except.pure]
  | cons first rest ih =>
      rw [List.mapM_cons]
      constructor
      · intro failed
        cases here : f first with
        | error other =>
            rw [here] at failed
            cases failed
            exact ⟨[],first,rest,[],rfl,rfl,here⟩
        | ok result =>
            rw [here] at failed
            cases later : rest.mapM f with
            | ok results =>
                rw [later] at failed
                cases failed
            | error other =>
                rw [later] at failed
                cases failed
                obtain ⟨before,item,after,results,split,given,stops⟩ := ih.mp later
                refine ⟨first :: before,item,after,result :: results,by rw [split]; rfl,?_,stops⟩
                rw [List.mapM_cons,here,given]
                rfl
      · intro stops
        obtain ⟨before,item,after,results,split,given,stops⟩ := stops
        cases before with
        | nil =>
            cases split
            rw [stops]
            rfl
        | cons next before =>
            obtain ⟨rfl,rfl⟩ := List.cons.inj split
            rw [List.mapM_cons,bind_ok] at given
            obtain ⟨result,here,given⟩ := given
            obtain ⟨others,given,_⟩ := bind_ok.mp given
            rw [here,ih.mpr ⟨before,item,after,others,rfl,given,stops⟩]
            rfl

theorem forM_ok {items : List Item} {check : Item → Except String Unit} : items.forM check = .ok () ↔ ∀ item ∈ items, check item = .ok () := by
  induction items with
  | nil => simp [pure,Except.pure]
  | cons item rest ih =>
      change (check item >>= fun _ => rest.forM check) = .ok () ↔ _
      rw [bind_ok,List.forall_mem_cons]
      constructor
      · intro given
        rcases given with ⟨_,here,later⟩
        exact ⟨here,ih.mp later⟩
      · intro both
        rcases both with ⟨here,later⟩
        exact ⟨(),here,ih.mpr later⟩

theorem toOption_bind {first : Except String First} {next : First → Except String Second} :
    (first >>= next).toOption = first.toOption.bind fun value => (next value).toOption := by
  cases first <;> rfl

theorem toOption_mapError {outcome : Except String Result} {change : String → String} :
    (outcome.mapError change).toOption = outcome.toOption := by
  cases outcome <;> rfl

theorem toOption_ok {outcome : Except String Result} : outcome.toOption = some result ↔ outcome = .ok result := by
  cases outcome <;> simp [Except.toOption]

end Outcomes

section Alongside
variable {First Second : Type} {related : First → Second → Prop}

theorem forall₂_exists {holds : First → Prop} {holds' : Second → Prop} (both : List.Forall₂ related xs ys)
    (same : ∀ x y, related x y → (holds x ↔ holds' y)) : (∃ x ∈ xs, holds x) ↔ ∃ y ∈ ys, holds' y := by
  induction both with
  | nil => simp
  | cons here later ih => rw [List.exists_mem_cons_iff,List.exists_mem_cons_iff,ih,same _ _ here]

theorem forall₂_getLast (both : List.Forall₂ related xs ys) (last : xs.getLast? = some x) :
    ∃ y, ys.getLast? = some y ∧ related x y := by
  rw [List.getLast?_eq_head?_reverse] at last ⊢
  have reversed := List.forall₂_reverse_iff.mpr both
  generalize xs.reverse = xs at last reversed
  generalize ys.reverse = ys at reversed ⊢
  obtain _ | ⟨here,later⟩ := reversed
  · cases last
  · cases last
    exact ⟨_,rfl,here⟩

theorem forall₂_mem (both : List.Forall₂ related xs ys) (member : x ∈ xs) : ∃ y ∈ ys, related x y := by
  induction both with
  | nil => cases member
  | @cons first second _ _ here later ih =>
      rcases List.mem_cons.mp member with rfl | member
      · exact ⟨second,List.mem_cons_self,here⟩
      · obtain ⟨y,listed,rel⟩ := ih member
        exact ⟨y,List.mem_cons_of_mem _ listed,rel⟩

end Alongside

end Sigproxy.Library
