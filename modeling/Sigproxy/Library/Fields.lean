import Mathlib.Data.List.Basic

namespace Sigproxy.Library.Fields

section Definitions
variable {Item : Type} [DecidableEq Item] (separator : Item)

-- The text in front of the first separator, and the text behind it.
def cut : List Item → List Item × Option (List Item)
  | [] => ([],none)
  | item :: rest => if item = separator then ([],some rest) else (item :: (cut rest).1,(cut rest).2)

-- At most so many fields: the last one is what is left, with its separators.
def splitn : Nat → List Item → List (List Item)
  | 0,_ => []
  | 1,text => [text]
  | count + 2,text =>
    match cut separator text with
    | (field,none) => [field]
    | (field,some rest) => field :: splitn (count + 1) rest

end Definitions

section Cutting
variable {Item : Type} [DecidableEq Item] {separator : Item}

theorem cut_free (text : List Item) : separator ∉ (cut separator text).1 := by
  induction text with
  | nil => exact List.not_mem_nil
  | cons item rest ih =>
      unfold cut
      split
      · exact List.not_mem_nil
      · rename_i different
        exact List.not_mem_cons_of_ne_of_not_mem (Ne.symm different) ih

theorem cut_whole (found : cut separator text = (field,none)) : field = text := by
  induction text generalizing field with
  | nil =>
      cases found
      rfl
  | cons item rest ih =>
      unfold cut at found
      split at found
      · cases found
      · obtain ⟨rfl,none⟩ := Prod.mk.inj found
        exact congrArg (item :: ·) (ih (Prod.ext rfl none))

theorem cut_parts (found : cut separator text = (field,some behind)) : text = field ++ separator :: behind := by
  induction text generalizing field with
  | nil => cases found
  | cons item rest ih =>
      unfold cut at found
      split at found
      · rename_i same
        cases found
        rw [same]
        rfl
      · obtain ⟨rfl,some⟩ := Prod.mk.inj found
        rw [List.cons_append,← ih (Prod.ext rfl some)]

theorem cut_front {field behind : List Item} (free : separator ∉ field) : cut separator (field ++ separator :: behind) = (field,some behind) := by
  induction field with
  | nil => simp [cut]
  | cons item rest ih =>
      have different := List.ne_of_not_mem_cons free
      simp [cut,Ne.symm different,ih (List.not_mem_of_not_mem_cons free)]

theorem cut_all {field : List Item} (free : separator ∉ field) : cut separator field = (field,none) := by
  induction field with
  | nil => rfl
  | cons item rest ih =>
      have different := List.ne_of_not_mem_cons free
      simp [cut,Ne.symm different,ih (List.not_mem_of_not_mem_cons free)]

theorem splitn_ne_nil (separator : Item) (count : Nat) (text : List Item) : splitn separator (count + 1) text ≠ [] := by
  cases count with
  | zero => exact List.cons_ne_nil text []
  | succ count =>
      unfold splitn
      split <;> exact List.cons_ne_nil _ _

theorem splitn_length (separator : Item) (count : Nat) (text : List Item) : (splitn separator count text).length ≤ count := by
  fun_induction splitn separator count text with
  | case1 => exact Nat.le_refl 0
  | case2 => exact Nat.le_refl 1
  | case3 count text field found => exact Nat.succ_le_succ (Nat.zero_le _)
  | case4 count text field rest found ih => exact Nat.succ_le_succ ih

theorem splitn_joined (separator : Item) (count : Nat) (text : List Item) : [separator].intercalate (splitn separator (count + 1) text) = text := by
  induction count generalizing text with
  | zero => exact List.intercalate_singleton
  | succ count ih =>
      unfold splitn
      split
      · rename_i field found
        rw [List.intercalate_singleton,cut_whole found]
      · rename_i field rest found
        have joined := ih rest
        cases later : splitn separator (count + 1) rest with
        | nil => exact absurd later (splitn_ne_nil separator count rest)
        | cons next fields =>
            rw [later] at joined
            rw [List.intercalate_cons_cons,joined,cut_parts found,List.append_assoc]
            rfl

-- Only the last of the fields has separators.
theorem splitn_free (separator : Item) (count : Nat) (text : List Item) (index : Nat) (early : index < count)
    (here : (splitn separator (count + 1) text)[index]? = some field) : separator ∉ field := by
  induction count generalizing text index with
  | zero => cases early
  | succ count ih =>
      have free : separator ∉ (cut separator text).1 := cut_free text
      unfold splitn at here
      cases found : cut separator text with
      | mk front behind =>
          rw [found] at here free
          cases behind with
          | none =>
              cases index with
              | zero =>
                  cases here
                  exact free
              | succ index => cases here
          | some rest =>
              cases index with
              | zero =>
                  cases here
                  exact free
              | succ index => exact ih rest index (Nat.lt_of_succ_lt_succ early) here

end Cutting

section Joining
variable {Item : Type} {separator : Item}

-- A field without separators is read back from the front of a text, and from its end.
theorem front_inj {first second : List Item} (firstFree : separator ∉ first) (secondFree : separator ∉ second) :
    first ++ separator :: rest = second ++ separator :: other ↔ first = second ∧ rest = other := by
  constructor
  · intro same
    induction first generalizing second with
    | nil =>
        cases second with
        | nil => exact ⟨rfl,(List.cons.inj same).2⟩
        | cons item second => exact absurd ((List.cons.inj same).1 ▸ List.mem_cons_self) secondFree
    | cons item first ih =>
        cases second with
        | nil => exact absurd ((List.cons.inj same).1 ▸ List.mem_cons_self) firstFree
        | cons head second =>
            obtain ⟨rfl,later⟩ := List.cons.inj same
            obtain ⟨rfl,behind⟩ := ih (fun member => firstFree (List.mem_cons_of_mem _ member))
              (fun member => secondFree (List.mem_cons_of_mem _ member)) later
            exact ⟨rfl,behind⟩
  · intro ⟨front,back⟩
    rw [front,back]

theorem back_inj {first second : List Item} (firstFree : separator ∉ first) (secondFree : separator ∉ second) :
    rest ++ separator :: first = other ++ separator :: second ↔ rest = other ∧ first = second := by
  have turned : rest ++ separator :: first = other ++ separator :: second ↔
      first.reverse ++ separator :: rest.reverse = second.reverse ++ separator :: other.reverse := by
    rw [← List.reverse_inj]
    simp
  rw [turned,front_inj (by simpa using firstFree) (by simpa using secondFree),List.reverse_inj,List.reverse_inj,and_comm]

theorem joined_append {first second : List (List Item)} (firstSome : first ≠ []) (secondSome : second ≠ []) :
    [separator].intercalate (first ++ second) = [separator].intercalate first ++ separator :: [separator].intercalate second := by
  induction first with
  | nil => exact absurd rfl firstSome
  | cons field first ih =>
      cases first with
      | nil =>
          cases second with
          | nil => exact absurd rfl secondSome
          | cons next second => simp
      | cons next first =>
          have rest := ih (List.cons_ne_nil next first)
          rw [List.cons_append] at rest
          rw [List.cons_append,List.cons_append,List.intercalate_cons_cons,rest,List.intercalate_cons_cons]
          simp only [List.append_assoc]

theorem not_mem_joined {item : Item} (other : item ≠ separator) {fields : List (List Item)} (free : ∀ field ∈ fields, item ∉ field) :
    item ∉ [separator].intercalate fields := by
  induction fields with
  | nil => exact List.not_mem_nil
  | cons field fields ih =>
      obtain ⟨here,later⟩ := List.forall_mem_cons.mp free
      cases fields with
      | nil => rwa [List.intercalate_singleton]
      | cons next fields =>
          rw [List.intercalate_cons_cons,List.mem_append,List.mem_append,List.mem_singleton]
          intro either
          rcases either with (first | between) | behind
          · exact here first
          · exact other between
          · exact ih later behind

-- Fields without the separator are told from their joined text.
theorem joined_inj [DecidableEq Item] {first second : List (List Item)} (firstSome : first ≠ []) (secondSome : second ≠ [])
    (firstFree : ∀ field ∈ first, separator ∉ field) (secondFree : ∀ field ∈ second, separator ∉ field) :
    [separator].intercalate first = [separator].intercalate second ↔ first = second := by
  constructor
  · intro same
    rw [← List.splitOn_intercalate separator firstFree firstSome,same,List.splitOn_intercalate separator secondFree secondSome]
  · intro same
    rw [same]

end Joining
end Sigproxy.Library.Fields
