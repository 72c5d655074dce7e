import Mathlib.Data.List.DropRight

namespace Sigproxy.Library

-- A text is read item by item. Some items are separators where the reader stands free,
-- and the reader says at the end whether the text may end there.
structure Splitter (State Item : Type) where
  start : State
  step : State → Item → State
  separates : State → Item → Bool
  closed : State → Bool

def trimmed (blank : Item → Bool) (text : List Item) : List Item := (text.dropWhile blank).rdropWhile blank

-- What stands behind the last separator is no entry where it is empty.
def listed : List (List Item) → List (List Item)
  | [] => []
  | [field,[]] => [field]
  | field :: rest => field :: listed rest

namespace Splitter

section Definitions
variable {State Item : Type} (splitter : Splitter State Item)

def read (state : State) (text : List Item) : State := text.foldl splitter.step state

-- The text in front of the first separator, and the text behind it.
def first : State → List Item → Option (List Item × Option (List Item))
  | state,[] => if splitter.closed state then some ([],none) else none
  | state,item :: rest =>
    if splitter.separates state item then some ([],some rest)
    else (first (splitter.step state item) rest).map fun split => (item :: split.1,split.2)

def pieces : State → List Item → List (List Item)
  | _,[] => [[]]
  | state,item :: rest =>
    if splitter.separates state item then [] :: pieces splitter.start rest
    else (pieces (splitter.step state item) rest).modifyHead (item :: ·)

def fields (blank : Item → Bool) (text : List Item) : List (List Item) :=
  (splitter.pieces splitter.start text).map (trimmed blank)

def entries (blank : Item → Bool) (text : List Item) : List (List Item) := listed (splitter.fields blank text)

-- No item of the text separates.
def Unbroken (state : State) (text : List Item) : Prop :=
  ∀ before item rest, text = before ++ item :: rest → splitter.separates (splitter.read state before) item = false

structure Lawful (blank : Item → Bool) : Prop where
  restarts : ∀ state item, splitter.separates state item = true → splitter.step state item = splitter.start
  leads : ∀ item, blank item = true → splitter.step splitter.start item = splitter.start
  passes : ∀ state item, blank item = true → splitter.separates state item = false
  closes : ∀ state item, blank item = true → splitter.closed (splitter.step state item) = splitter.closed state

end Definitions

section Trimming
variable {blank : Item → Bool}

theorem trimmed_lead (isBlank : blank item = true) (text : List Item) : trimmed blank (item :: text) = trimmed blank text := by
  rw [trimmed,trimmed,List.dropWhile_cons_of_pos isBlank]

theorem trimmed_trail (isBlank : blank item = true) (text : List Item) : trimmed blank (text ++ [item]) = trimmed blank text := by
  unfold trimmed
  rw [List.dropWhile_append]
  split
  · rename_i allBlank
    rw [List.isEmpty_iff.mp allBlank,List.dropWhile_cons_of_pos isBlank,List.dropWhile_nil]
  · exact List.rdropWhile_concat_pos blank _ item isBlank

-- What holds of a text and is not changed at a blank end holds of the trimmed text.
theorem trimmed_keeps (kept : List Item → Prop) (lead : ∀ item text, blank item = true → kept (item :: text) → kept text)
    (trail : ∀ item text, blank item = true → kept (text ++ [item]) → kept text) (start : kept text) : kept (trimmed blank text) := by
  have leading : kept (text.dropWhile blank) := by
    induction text with
    | nil => exact start
    | cons item text ih =>
        by_cases isBlank : blank item = true
        · rw [List.dropWhile_cons_of_pos isBlank]
          exact ih (lead item text isBlank start)
        · rwa [List.dropWhile_cons_of_neg isBlank]
  unfold trimmed
  generalize text.dropWhile blank = rest at leading
  induction rest using List.reverseRecOn with
  | nil => exact leading
  | append_singleton rest item ih =>
      by_cases isBlank : blank item = true
      · rw [List.rdropWhile_concat_pos blank rest item isBlank]
        exact ih (trail item rest isBlank leading)
      · rwa [List.rdropWhile_concat_neg blank rest item isBlank]

theorem trimmed_inside (blank : Item → Bool) (text : List Item) : trimmed blank text <:+: text :=
  (List.rdropWhile_prefix blank _).isInfix.trans (List.dropWhile_suffix blank).isInfix

end Trimming

section Listing

theorem listed_cons (field : List Item) (more : rest ≠ [[]]) : listed (field :: rest) = field :: listed rest := listed.eq_3 field rest more

theorem listed_ne_nil {fields : List (List Item)} (some : fields ≠ []) : listed fields ≠ [] := by
  cases fields with
  | nil => exact some
  | cons field rest =>
      by_cases last : rest = [[]]
      · subst last
        exact List.cons_ne_nil field []
      · rw [listed_cons field last]
        exact List.cons_ne_nil field _

theorem listed_length (fields : List (List Item)) : (listed fields).length ≤ fields.length := by
  fun_induction listed fields with
  | case1 => exact Nat.le_refl 0
  | case2 field => exact Nat.le_succ 1
  | case3 field rest more ih => exact Nat.succ_le_succ ih

theorem listed_subset (fields : List (List Item)) : listed fields ⊆ fields := by
  fun_induction listed fields with
  | case1 => exact List.Subset.refl []
  | case2 field => exact List.cons_subset_cons field (List.nil_subset [[]])
  | case3 field rest more ih => exact List.cons_subset_cons field ih

end Listing

section Reading
variable {State Item : Type} {splitter : Splitter State Item}

theorem pieces_ne_nil (state : State) (text : List Item) : splitter.pieces state text ≠ [] := by
  induction text generalizing state with
  | nil => exact List.cons_ne_nil [] []
  | cons item rest ih =>
      unfold pieces
      split
      · exact List.cons_ne_nil _ _
      · exact fun none => ih _ (List.modifyHead_eq_nil_iff.mp none)

theorem pieces_alone (alone : splitter.pieces state text = [piece]) : piece = text := by
  induction text generalizing state piece with
  | nil => cases alone; rfl
  | cons item rest ih =>
      unfold pieces at alone
      split at alone
      · exact absurd (List.cons.inj alone).2 (pieces_ne_nil splitter.start rest)
      · cases found : splitter.pieces (splitter.step state item) rest with
        | nil => exact absurd found (pieces_ne_nil _ _)
        | cons head tail =>
            rw [found] at alone
            obtain ⟨rfl,rfl⟩ := List.cons.inj alone
            rw [ih found]

theorem pieces_length (state : State) (text : List Item) : (splitter.pieces state text).length ≤ text.length + 1 := by
  induction text generalizing state with
  | nil => exact Nat.le_refl 1
  | cons item rest ih =>
      unfold pieces
      split
      · exact Nat.succ_le_succ (ih _)
      · rw [List.length_modifyHead]
        exact Nat.le_succ_of_le (ih _)

theorem pieces_within (splitter : Splitter State Item) (state : State) (text : List Item) :
    ∃ head tail, splitter.pieces state text = head :: tail ∧ head <+: text ∧ ∀ piece ∈ tail, piece <:+: text := by
  induction text generalizing state with
  | nil => exact ⟨[],[],rfl,List.prefix_rfl,List.forall_mem_nil _⟩
  | cons item rest ih =>
      unfold pieces
      split
      · obtain ⟨head,tail,split,first,others⟩ := ih splitter.start
        refine ⟨[],_,rfl,List.nil_prefix,?_⟩
        rw [split]
        exact List.forall_mem_cons.mpr ⟨List.infix_cons first.isInfix,fun piece member => List.infix_cons (others piece member)⟩
      · obtain ⟨head,tail,split,first,others⟩ := ih (splitter.step state item)
        rw [split]
        exact ⟨item :: head,tail,rfl,(List.prefix_cons_inj item).mpr first,fun piece member => List.infix_cons (others piece member)⟩

-- A reader that ends closed finds the first piece, and reads the rest afresh.
theorem first_reads (restarts : ∀ state item, splitter.separates state item = true → splitter.step state item = splitter.start)
    (closes : splitter.closed (splitter.read state text) = true) :
    ∃ top after, splitter.first state text = some (top,after) ∧
      match after with
      | none => top = text ∧ splitter.pieces state text = [text]
      | some rest => splitter.pieces state text = top :: splitter.pieces splitter.start rest ∧
        splitter.closed (splitter.read splitter.start rest) = true := by
  induction text generalizing state with
  | nil => exact ⟨[],none,if_pos closes,rfl,rfl⟩
  | cons item rest ih =>
      by_cases separator : splitter.separates state item = true
      · refine ⟨[],some rest,by simp [first,separator],by simp [pieces,separator],?_⟩
        rw [← restarts state item separator]
        exact closes
      · obtain ⟨top,after,found,split⟩ := ih closes
        refine ⟨item :: top,after,by simp [first,separator,found],?_⟩
        cases after with
        | none => exact ⟨congrArg _ split.1,by simp [pieces,separator,split.2]⟩
        | some behind => exact ⟨by simp [pieces,separator,split.1],split.2⟩

theorem unbroken_nil (state : State) : splitter.Unbroken state [] := fun _ _ _ split => absurd split.symm (by simp)

theorem unbroken_cons : splitter.Unbroken state (item :: text) ↔
    splitter.separates state item = false ∧ splitter.Unbroken (splitter.step state item) text := by
  constructor
  · intro unbroken
    refine ⟨unbroken [] item text rfl,?_⟩
    intro before other rest split
    exact unbroken (item :: before) other rest (by rw [split]; rfl)
  · intro ⟨here,behind⟩ before other rest split
    cases before with
    | nil =>
        cases split
        exact here
    | cons head before =>
        obtain ⟨rfl,later⟩ := List.cons.inj split
        exact behind before other rest later

theorem first_whole_iff : splitter.first state text = some (top,none) ↔
    top = text ∧ splitter.Unbroken state text ∧ splitter.closed (splitter.read state text) = true := by
  induction text generalizing state top with
  | nil =>
      rw [first,read,List.foldl_nil]
      split
      · rename_i closes
        simp [unbroken_nil,closes,eq_comm]
      · rename_i opened
        simp [opened]
  | cons item text ih =>
      rw [first,unbroken_cons]
      split
      · rename_i separates
        simp [separates]
      · rename_i passes
        rw [Option.map_eq_some_iff]
        constructor
        · intro ⟨⟨rest,after⟩,found,same⟩
          obtain ⟨rfl,rfl⟩ := Prod.mk.inj same
          obtain ⟨rfl,unbroken,closes⟩ := ih.mp found
          exact ⟨rfl,⟨Bool.eq_false_iff.mpr passes,unbroken⟩,closes⟩
        · intro ⟨whole,⟨_,unbroken⟩,closes⟩
          subst whole
          exact ⟨(text,none),ih.mpr ⟨rfl,unbroken,closes⟩,rfl⟩

theorem first_parts_iff : splitter.first state text = some (top,some rest) ↔
    ∃ item, text = top ++ item :: rest ∧ splitter.separates (splitter.read state top) item = true ∧ splitter.Unbroken state top := by
  induction text generalizing state top with
  | nil =>
      rw [first]
      split <;> simp
  | cons head text ih =>
      rw [first]
      split
      · rename_i separates
        constructor
        · intro found
          cases found
          exact ⟨head,rfl,separates,unbroken_nil state⟩
        · intro ⟨item,split,_,unbroken⟩
          cases top with
          | nil =>
              cases split
              rfl
          | cons other top =>
              obtain ⟨rfl,later⟩ := List.cons.inj split
              rw [(unbroken_cons.mp unbroken).1] at separates
              cases separates
      · rename_i passes
        rw [Option.map_eq_some_iff]
        constructor
        · intro ⟨⟨shorter,after⟩,found,same⟩
          obtain ⟨rfl,rfl⟩ := Prod.mk.inj same
          obtain ⟨item,rfl,separates,unbroken⟩ := ih.mp found
          exact ⟨item,rfl,separates,unbroken_cons.mpr ⟨Bool.eq_false_iff.mpr passes,unbroken⟩⟩
        · intro ⟨item,split,separates,unbroken⟩
          cases top with
          | nil =>
              cases split
              exact absurd separates passes
          | cons other top =>
              obtain ⟨rfl,later⟩ := List.cons.inj split
              exact ⟨(top,some rest),ih.mpr ⟨item,later,separates,(unbroken_cons.mp unbroken).2⟩,rfl⟩

theorem first_none_iff : splitter.first state text = none ↔
    splitter.Unbroken state text ∧ splitter.closed (splitter.read state text) = false := by
  induction text generalizing state with
  | nil =>
      rw [first,read,List.foldl_nil]
      split
      · rename_i closes
        simp [closes]
      · rename_i opened
        simp [unbroken_nil,opened]
  | cons item text ih =>
      rw [first,unbroken_cons]
      split
      · rename_i separates
        simp [separates]
      · rename_i passes
        rw [Option.map_eq_none_iff,ih,Bool.eq_false_iff.mpr passes]
        exact ⟨fun both => ⟨⟨rfl,both.1⟩,both.2⟩,fun both => ⟨both.1.2,both.2⟩⟩

theorem fields_lead {blank : Item → Bool} (lawful : splitter.Lawful blank) (isBlank : blank item = true) (text : List Item) :
    splitter.fields blank (item :: text) = splitter.fields blank text := by
  unfold fields
  rw [pieces,lawful.passes _ _ isBlank,if_neg Bool.false_ne_true,lawful.leads item isBlank]
  cases found : splitter.pieces splitter.start text with
  | nil => exact absurd found (pieces_ne_nil _ _)
  | cons head tail => exact congrArg (· :: tail.map (trimmed blank)) (trimmed_lead isBlank head)

theorem pieces_trail {blank : Item → Bool} (lawful : splitter.Lawful blank) (isBlank : blank item = true) (state : State) (text : List Item) :
    ∃ before last, splitter.pieces state text = before ++ [last] ∧ splitter.pieces state (text ++ [item]) = before ++ [last ++ [item]] := by
  induction text generalizing state with
  | nil => exact ⟨[],[],rfl,by simp [pieces,lawful.passes _ _ isBlank]⟩
  | cons head text ih =>
      rw [List.cons_append,pieces,pieces]
      split
      · obtain ⟨before,last,shorter,longer⟩ := ih splitter.start
        exact ⟨[] :: before,last,by rw [shorter]; rfl,by rw [longer]; rfl⟩
      · obtain ⟨before,last,shorter,longer⟩ := ih (splitter.step state head)
        rw [shorter,longer]
        cases before with
        | nil => exact ⟨[],head :: last,rfl,rfl⟩
        | cons piece before => exact ⟨(head :: piece) :: before,last,rfl,rfl⟩

theorem fields_trail {blank : Item → Bool} (lawful : splitter.Lawful blank) (isBlank : blank item = true) (text : List Item) :
    splitter.fields blank (text ++ [item]) = splitter.fields blank text := by
  obtain ⟨before,last,shorter,longer⟩ := pieces_trail lawful isBlank splitter.start text
  rw [fields,fields,shorter,longer,List.map_append,List.map_append,List.map_singleton,List.map_singleton,trimmed_trail isBlank]

theorem fields_trimmed {blank : Item → Bool} (lawful : splitter.Lawful blank) (text : List Item) :
    splitter.fields blank (trimmed blank text) = splitter.fields blank text := by
  refine trimmed_keeps (fun kept => splitter.fields blank kept = splitter.fields blank text) ?_ ?_ rfl
  · intro item kept isBlank same
    exact (fields_lead lawful isBlank kept).symm.trans same
  · intro item kept isBlank same
    exact (fields_trail lawful isBlank kept).symm.trans same

theorem closed_trimmed {blank : Item → Bool} (lawful : splitter.Lawful blank) (closes : splitter.closed (splitter.read splitter.start text) = true) :
    splitter.closed (splitter.read splitter.start (trimmed blank text)) = true := by
  refine trimmed_keeps (fun kept => splitter.closed (splitter.read splitter.start kept) = true) ?_ ?_ closes
  · intro item kept isBlank closes
    rwa [read,List.foldl_cons,lawful.leads item isBlank] at closes
  · intro item kept isBlank closes
    rwa [read,List.foldl_append,List.foldl_cons,List.foldl_nil,lawful.closes _ _ isBlank] at closes

theorem entries_ne_nil (blank : Item → Bool) (text : List Item) : splitter.entries blank text ≠ [] :=
  listed_ne_nil fun none => pieces_ne_nil _ _ (List.map_eq_nil_iff.mp none)

theorem entries_length (blank : Item → Bool) (text : List Item) : (splitter.entries blank text).length ≤ text.length + 1 :=
  calc (splitter.entries blank text).length
      ≤ (splitter.fields blank text).length := listed_length _
    _ = (splitter.pieces splitter.start text).length := List.length_map _
    _ ≤ text.length + 1 := pieces_length _ _

theorem entries_alone {blank : Item → Bool} (alone : splitter.pieces splitter.start text = [text]) :
    splitter.entries blank text = [trimmed blank text] := by
  rw [entries,fields,alone,List.map_singleton,listed_cons _ (List.cons_ne_nil [] []).symm,listed]

-- Behind the first piece stand the other entries, or nothing that counts.
theorem entries_behind {blank : Item → Bool} (lawful : splitter.Lawful blank)
    (split : splitter.pieces splitter.start text = top :: splitter.pieces splitter.start rest) :
    splitter.entries blank text = trimmed blank top ::
      (if trimmed blank rest = [] then [] else splitter.entries blank (trimmed blank rest)) := by
  have fields : splitter.fields blank text = trimmed blank top :: splitter.fields blank rest := by rw [fields,split]; rfl
  rw [entries,fields]
  by_cases nothing : trimmed blank rest = []
  · have empty : splitter.fields blank rest = [[]] := by
      rw [← fields_trimmed lawful rest,nothing]
      rfl
    rw [if_pos nothing,empty,listed]
  · have more : splitter.fields blank rest ≠ [[]] := by
      intro empty
      obtain ⟨piece,alone,trimmedPiece⟩ := List.map_eq_singleton_iff.mp empty
      rw [pieces_alone alone] at trimmedPiece
      exact nothing trimmedPiece
    rw [if_neg nothing,listed_cons _ more,entries,fields_trimmed lawful rest]

theorem entries_inside {blank : Item → Bool} (member : entry ∈ splitter.entries blank text) : entry <:+: text := by
  obtain ⟨piece,listed,rfl⟩ := List.mem_map.mp (listed_subset _ member)
  obtain ⟨head,tail,split,first,others⟩ := pieces_within splitter splitter.start text
  have within : piece <:+: text := by
    rw [split] at listed
    cases List.mem_cons.mp listed with
    | inl same => exact same ▸ first.isInfix
    | inr later => exact others piece later
  exact (trimmed_inside blank piece).trans within

theorem pieces_joined (restarts : ∀ state item, splitter.separates state item = true → splitter.step state item = splitter.start)
    (apart : splitter.separates (splitter.read state text) item = true) (rest : List Item) :
    splitter.pieces state (text ++ item :: rest) = splitter.pieces state text ++ splitter.pieces splitter.start rest := by
  induction text generalizing state with
  | nil =>
      have here : splitter.separates state item = true := apart
      simp [pieces,here]
  | cons head text ih =>
      rw [List.cons_append,pieces,pieces]
      split
      · rename_i separator
        rw [List.cons_append,ih (restarts state head separator ▸ apart)]
      · rw [ih apart]
        cases found : splitter.pieces (splitter.step state head) text with
        | nil => exact absurd found (pieces_ne_nil _ _)
        | cons piece pieces => rfl

-- A text that stands as one entry wherever the separator joins it to others.
structure Word (splitter : Splitter State Item) (blank : Item → Bool) (separator : Item) (text : List Item) : Prop where
  alone : splitter.pieces splitter.start text = [text]
  apart : splitter.separates (splitter.read splitter.start text) separator = true
  bare : trimmed blank text = text
  some : text ≠ []

theorem fields_joined {blank : Item → Bool} (lawful : splitter.Lawful blank) {separator : Item} {gap : List Item}
    (gapBlank : ∀ item ∈ gap, blank item = true) {words : List (List Item)} (any : words ≠ [])
    (all : ∀ word ∈ words, Word splitter blank separator word) :
    splitter.fields blank ((separator :: gap).intercalate words) = words := by
  have skipped (text : List Item) : splitter.fields blank (gap ++ text) = splitter.fields blank text := by
    induction gap with
    | nil => rfl
    | cons item gap ih =>
        rw [List.cons_append,fields_lead lawful (gapBlank item List.mem_cons_self)]
        exact ih fun item member => gapBlank item (List.mem_cons_of_mem _ member)
  induction words with
  | nil => exact absurd rfl any
  | cons word words ih =>
      have here := all word List.mem_cons_self
      cases words with
      | nil => rw [List.intercalate_singleton,fields,here.alone,List.map_singleton,here.bare]
      | cons next words =>
          have rest := ih (List.cons_ne_nil next words) fun other member => all other (List.mem_cons_of_mem word member)
          rw [List.intercalate_cons_cons,List.append_assoc,List.cons_append,fields,
            pieces_joined lawful.restarts here.apart,here.alone,List.map_append,List.map_singleton,here.bare]
          exact congrArg (word :: ·) ((skipped _).trans rest)

theorem entries_joined {blank : Item → Bool} (lawful : splitter.Lawful blank) {separator : Item} {gap : List Item}
    (gapBlank : ∀ item ∈ gap, blank item = true) {words : List (List Item)} (any : words ≠ [])
    (all : ∀ word ∈ words, Word splitter blank separator word) :
    splitter.entries blank ((separator :: gap).intercalate words) = words := by
  have nonempty : ∀ word ∈ words, word ≠ [] := fun word member => (all word member).some
  rw [entries,fields_joined lawful gapBlank any all]
  clear any all
  induction words with
  | nil => rfl
  | cons word words ih =>
      have others : ∀ other ∈ words, other ≠ [] := fun other member => nonempty other (List.mem_cons_of_mem word member)
      have more : words ≠ [[]] := fun last => others [] (last ▸ List.mem_cons_self) rfl
      rw [listed_cons word more,ih others]

end Reading
end Splitter
end Sigproxy.Library
