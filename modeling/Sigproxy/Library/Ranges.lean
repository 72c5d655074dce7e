import Mathlib.Algebra.Order.Group.Nat
import Mathlib.Data.List.Pairwise
import Mathlib.Data.List.Sort
import Mathlib.Data.Prod.Lex
import Mathlib.Tactic.Common

namespace Sigproxy.Library

section Bisection
variable {Item : Type} {probe : Item → Ordering} {items : List Item}

-- Halves the part of the list that may hold the item that the probe is after:
-- `lt` sends the search to the left, `gt` to the right.
def bisect (probe : Item → Ordering) (items : List Item) (low high : Nat) : Option Item :=
  if low < high then
    match items[low + (high - low) / 2]? with
    | none => none
    | some item =>
      match probe item with
      | .lt => bisect probe items low (low + (high - low) / 2)
      | .gt => bisect probe items (low + (high - low) / 2 + 1) high
      | .eq => some item
  else none
termination_by high - low

theorem bisect_sound (found : bisect probe items low high = some item) : item ∈ items ∧ probe item = .eq := by
  fun_induction bisect probe items low high with
  | case1 => cases found
  | case2 _ _ _ _ _ _ ih => exact ih found
  | case3 _ _ _ _ _ _ ih => exact ih found
  | case4 _ _ _ _ there hit =>
      cases found
      exact ⟨List.mem_of_getElem? there,hit⟩
  | case5 => cases found

-- What lies right of an item that is too far right is too far right as well, and
-- likewise on the left.
def Directed (probe : Item → Ordering) (items : List Item) : Prop :=
  items.Pairwise fun first second => (probe first = .lt → probe second = .lt) ∧ (probe second = .gt → probe first = .gt)

theorem Directed.at {first second : Nat} (directed : Directed probe items) (before : first < second) (left : items[first]? = some early)
    (right : items[second]? = some late) :
    (probe early = .lt → probe late = .lt) ∧ (probe late = .gt → probe early = .gt) := by
  obtain ⟨inside,rfl⟩ := List.getElem?_eq_some_iff.mp left
  obtain ⟨beyond,rfl⟩ := List.getElem?_eq_some_iff.mp right
  exact List.pairwise_iff_getElem.mp directed first second inside beyond before

theorem bisect_complete (directed : Directed probe items) (bounded : high ≤ items.length) (after : low ≤ index)
    (before : index < high) (there : items[index]? = some item) (hit : probe item = .eq) :
    (bisect probe items low high).isSome = true := by
  fun_induction bisect probe items low high with
  | case1 low high begun missing =>
      have beyond := List.getElem?_eq_none_iff.mp missing
      omega
  | case2 low high begun middle seen left ih =>
      -- The item cannot stand at the middle nor to the right of it.
      apply ih (by omega) after
      rcases Nat.lt_trichotomy index (low + (high - low) / 2) with less | same | more
      · exact less
      · rw [same,seen] at there; cases there; rw [left] at hit; cases hit
      · have beyond := (directed.at more seen there).1 left
        rw [beyond] at hit; cases hit
  | case3 low high begun middle seen right ih =>
      refine ih bounded ?_ before
      rcases Nat.lt_trichotomy index (low + (high - low) / 2) with less | same | more
      · have beyond := (directed.at less there seen).2 right
        rw [beyond] at hit; cases hit
      · rw [same,seen] at there; cases there; rw [right] at hit; cases hit
      · exact more
  | case4 => rfl
  | case5 low high ended => omega

-- The places that the search passes between two bounds on the way to a place.
def waypoints (low high place : Nat) : List Nat :=
  if low < high then
    let middle := low + (high - low) / 2
    middle :: if place < middle then waypoints low middle place else if middle < place then waypoints (middle + 1) high place else []
  else []
termination_by high - low

-- The search goes the right way at each of them.
def Guided (probe : Item → Ordering) (items : List Item) (place : Nat) (passed : List Nat) : Prop :=
  ∀ middle ∈ passed, ∀ item, items[middle]? = some item →
    (place < middle → probe item = .lt) ∧ (middle < place → probe item = .gt)

theorem guided_cons {place : Nat} (there : items[middle]? = some item) : Guided probe items place (middle :: passed) ↔
    ((place < middle → probe item = .lt) ∧ (middle < place → probe item = .gt)) ∧ Guided probe items place passed := by
  simp [Guided,there]

theorem waypoints_left {place : Nat} (begun : low < high) (before : place < low + (high - low) / 2) :
    waypoints low high place = (low + (high - low) / 2) :: waypoints low (low + (high - low) / 2) place := by
  rw [waypoints,if_pos begun]
  simp [before]

theorem waypoints_right {place : Nat} (begun : low < high) (after : low + (high - low) / 2 < place) :
    waypoints low high place = (low + (high - low) / 2) :: waypoints (low + (high - low) / 2 + 1) high place := by
  rw [waypoints,if_pos begun]
  simp [after,Nat.lt_asymm after]

-- What is found stands at a place to which the search is guided.
theorem bisect_iff (bounded : high ≤ items.length) : bisect probe items low high = some item ↔
    ∃ place, low ≤ place ∧ place < high ∧ items[place]? = some item ∧ probe item = .eq ∧ Guided probe items place (waypoints low high place) := by
  fun_induction bisect probe items low high with
  | case1 low high begun missing =>
      have beyond := List.getElem?_eq_none_iff.mp missing
      omega
  | case2 low high begun middle seen left ih =>
      rw [ih (by omega)]
      constructor
      · intro given
        rcases given with ⟨place,after,before,there,hit,guided⟩
        refine ⟨place,after,by omega,there,hit,?_⟩
        rw [waypoints_left begun before,guided_cons seen]
        exact ⟨⟨fun _ => left,fun beyond => by omega⟩,guided⟩
      · intro given
        rcases given with ⟨place,after,before,there,hit,guided⟩
        rcases Nat.lt_trichotomy place (low + (high - low) / 2) with less | same | more
        · rw [waypoints_left begun less,guided_cons seen] at guided
          exact ⟨place,after,less,there,hit,guided.2⟩
        · rw [same,seen] at there; cases there; rw [left] at hit; cases hit
        · rw [waypoints_right begun more,guided_cons seen] at guided
          cases left.symm.trans (guided.1.2 more)
  | case3 low high begun middle seen right ih =>
      rw [ih bounded]
      constructor
      · intro given
        rcases given with ⟨place,after,before,there,hit,guided⟩
        refine ⟨place,by omega,before,there,hit,?_⟩
        rw [waypoints_right begun (by omega),guided_cons seen]
        exact ⟨⟨fun beyond => by omega,fun _ => right⟩,guided⟩
      · intro given
        rcases given with ⟨place,after,before,there,hit,guided⟩
        rcases Nat.lt_trichotomy place (low + (high - low) / 2) with less | same | more
        · rw [waypoints_left begun less,guided_cons seen] at guided
          cases right.symm.trans (guided.1.1 less)
        · rw [same,seen] at there; cases there; rw [right] at hit; cases hit
        · rw [waypoints_right begun more,guided_cons seen] at guided
          exact ⟨place,more,before,there,hit,guided.2⟩
  | case4 low high begun middle seen hit =>
      constructor
      · intro found
        cases found
        refine ⟨_,by omega,by omega,seen,hit,?_⟩
        rw [waypoints,if_pos begun]
        simp [Guided]
      · intro given
        rcases given with ⟨place,after,before,there,_,guided⟩
        rcases Nat.lt_trichotomy place (low + (high - low) / 2) with less | same | more
        · rw [waypoints_left begun less,guided_cons seen] at guided
          cases hit.symm.trans (guided.1.1 less)
        · rw [same,seen] at there; exact there
        · rw [waypoints_right begun more,guided_cons seen] at guided
          cases hit.symm.trans (guided.1.2 more)
  | case5 low high ended =>
      refine ⟨nofun,fun ⟨place,after,before,_⟩ => ?_⟩
      omega

end Bisection

section Sorting
variable {Item Rank : Type} [LinearOrder Rank]

def sortBy (key : Item → Rank) (items : List Item) : List Item := items.insertionSort fun first second => key first ≤ key second

variable (key : Item → Rank)

theorem sortBy_perm (items : List Item) : (sortBy key items).Perm items := List.perm_insertionSort _ items

theorem mem_sortBy {items : List Item} : item ∈ sortBy key items ↔ item ∈ items := (sortBy_perm key items).mem_iff

theorem sortBy_sorted (items : List Item) : (sortBy key items).Pairwise fun first second => key first ≤ key second := by
  have total : Std.Total fun first second : Item => key first ≤ key second := ⟨fun first second => le_total (key first) (key second)⟩
  have trans : IsTrans Item fun first second => key first ≤ key second := ⟨fun _ _ _ => le_trans⟩
  exact List.pairwise_insertionSort _ items

-- A sort by a key that tells the items apart forgets the order they came in.
theorem sortBy_eq {items items' : List Item} (apart : Function.Injective key) (same : items.Perm items') :
    sortBy key items = sortBy key items' := by
  refine List.Perm.eq_of_pairwise (fun first second _ _ before after => apart (le_antisymm before after)) ?_ ?_ ?_
  · exact sortBy_sorted key items
  · exact sortBy_sorted key items'
  · exact (sortBy_perm key items).trans (same.trans (sortBy_perm key items').symm)

end Sorting

section Spans

-- The values from `start` to `stop`, both included; none where they stand the
-- other way round.
structure Span (width : Nat) (Label : Type) where
  start : BitVec width
  stop : BitVec width
  label : Label
  deriving DecidableEq, Repr

namespace Span
variable {Label : Type} {spans : List (Span width Label)}

def Contains (span : Span width Label) (value : BitVec width) : Prop := span.start ≤ value ∧ value ≤ span.stop

def probe (value : BitVec width) (span : Span width Label) : Ordering :=
  if value < span.start then .lt else if span.stop < value then .gt else .eq

theorem probe_lt {span : Span width Label} : span.probe value = .lt ↔ value < span.start := by
  unfold probe
  split
  · simp_all
  · split <;> simp_all

theorem probe_gt {span : Span width Label} : span.probe value = .gt ↔ span.start ≤ value ∧ span.stop < value := by
  unfold probe
  split
  · rename_i below
    simp [BitVec.not_le.mpr below]
  · rename_i reached
    split <;> simp_all

theorem probe_eq {span : Span width Label} : span.probe value = .eq ↔ span.Contains value := by
  unfold probe Contains
  split
  · rename_i below
    simp [BitVec.not_le.mpr below]
  · rename_i reached
    split <;> simp_all

def Proper (spans : List (Span width Label)) : Prop := ∀ span ∈ spans, span.start ≤ span.stop

-- One after another without overlap.
def Apart (spans : List (Span width Label)) : Prop := spans.Pairwise fun first second => first.stop < second.start

instance (spans : List (Span width Label)) : Decidable (Proper spans) :=
  inferInstanceAs (Decidable (∀ span ∈ spans, span.start ≤ span.stop))

instance (spans : List (Span width Label)) : Decidable (Apart spans) :=
  inferInstanceAs (Decidable (spans.Pairwise fun first second => first.stop < second.start))

theorem apart_directed (proper : Proper spans) (apart : Apart spans) (value : BitVec width) : Directed (probe value) spans := by
  refine List.Pairwise.imp_of_mem ?_ apart
  intro first second early late between
  have ends := proper first early
  have ends' := proper second late
  simp only [probe_lt,probe_gt]
  bv_omega

theorem apart_unique (apart : Apart spans) (early : first ∈ spans) (late : second ∈ spans)
    (inFirst : first.Contains value) (inSecond : second.Contains value) : first = second := by
  by_contra different
  have exclusive : spans.Pairwise fun first second => ¬ (first.Contains value ∧ second.Contains value) := by
    refine List.Pairwise.imp ?_ apart
    intro first second between
    unfold Contains
    bv_omega
  have symmetric : Std.Symm fun first second : Span width Label => ¬ (first.Contains value ∧ second.Contains value) :=
    ⟨fun _ _ apart both => apart both.symm⟩
  exact exclusive.forall early late different ⟨inFirst,inSecond⟩

-- Bisection finds the span that contains a value.
def find (spans : List (Span width Label)) (value : BitVec width) : Option (Span width Label) :=
  bisect (probe value) spans 0 spans.length

theorem find_eq_some (proper : Proper spans) (apart : Apart spans) :
    find spans value = some span ↔ span ∈ spans ∧ span.Contains value := by
  have sound {found : Span width Label} (hit : find spans value = some found) : found ∈ spans ∧ found.Contains value :=
    (bisect_sound hit).imp_right probe_eq.mp
  refine ⟨sound,fun ⟨member,inside⟩ => ?_⟩
  obtain ⟨index,there⟩ := List.mem_iff_getElem?.mp member
  have within := (List.getElem?_eq_some_iff.mp there).1
  have searched := bisect_complete (apart_directed proper apart value) (Nat.le_refl _) (Nat.zero_le index) within there (probe_eq.mpr inside)
  obtain ⟨found,hit⟩ := Option.isSome_iff_exists.mp searched
  obtain ⟨listed,holds⟩ := sound hit
  rw [find,hit,apart_unique apart listed member holds inside]

section Coalescing
variable {last next : Span width Label} {rest : List (Span width Label)}

def Covered (spans : List (Span width Label)) (label : Label) (value : BitVec width) : Prop :=
  ∃ span ∈ spans, span.label = label ∧ span.Contains value

theorem covered_perm (same : spans.Perm spans') (label : Label) (value : BitVec width) :
    Covered spans label value ↔ Covered spans' label value := by
  unfold Covered
  simp only [same.mem_iff]

def Sorted (spans : List (Span width Label)) : Prop := spans.Pairwise fun first second => first.start ≤ second.start

-- No value lies in spans of two labels.
def Exclusive (spans : List (Span width Label)) : Prop :=
  ∀ value one other, Covered spans one value → Covered spans other value → one = other

theorem find_label (proper : Proper spans) (apart : Apart spans) (label : Label) (value : BitVec width) :
    (find spans value).map Span.label = some label ↔ Covered spans label value := by
  simp only [Option.map_eq_some_iff,find_eq_some proper apart,Covered]
  exact ⟨fun ⟨span,⟨listed,inside⟩,named⟩ => ⟨span,listed,named,inside⟩,fun ⟨span,listed,named,inside⟩ => ⟨span,⟨listed,inside⟩,named⟩⟩

-- A range with the value can be reached by bisection, for each label that one of
-- them has.
def Findable (spans : List (Span width Label)) (value : BitVec width) : Prop :=
  ∀ span ∈ spans, span.Contains value → ∃ place found, spans[place]? = some found ∧ found.Contains value ∧ found.label = span.label ∧
    Guided (probe value) spans place (waypoints 0 spans.length place)

theorem find_covered {label : Label} (found : (find spans value).map Span.label = some label) : Covered spans label value := by
  obtain ⟨span,hit,rfl⟩ := Option.map_eq_some_iff.mp found
  obtain ⟨listed,inside⟩ := bisect_sound hit
  exact ⟨span,listed,rfl,probe_eq.mp inside⟩

theorem findable_iff (spans : List (Span width Label)) (value : BitVec width) :
    (∀ label, (find spans value).map Span.label = some label ↔ Covered spans label value) ↔ Findable spans value := by
  constructor
  · intro exact span listed inside
    obtain ⟨found,hit,named⟩ := Option.map_eq_some_iff.mp ((exact span.label).mpr ⟨span,listed,rfl,inside⟩)
    obtain ⟨place,_,_,there,reached,guided⟩ := (bisect_iff (Nat.le_refl _)).mp hit
    exact ⟨place,found,there,probe_eq.mp reached,named,guided⟩
  · intro findable label
    refine ⟨find_covered,?_⟩
    intro given
    rcases given with ⟨span,listed,rfl,inside⟩
    obtain ⟨place,found,there,reached,named,guided⟩ := findable span listed inside
    have within := (List.getElem?_eq_some_iff.mp there).1
    have hit := (bisect_iff (Nat.le_refl _)).mpr ⟨place,Nat.zero_le place,within,there,probe_eq.mpr reached,guided⟩
    exact Option.map_eq_some_iff.mpr ⟨found,hit,named⟩

theorem exclusive_of_apart (apart : Apart spans) : Exclusive spans := by
  intro value _ _ given parts
  rcases given with ⟨first,early,rfl,inFirst⟩
  rcases parts with ⟨second,late,rfl,inSecond⟩
  rw [apart_unique apart early late inFirst inSecond]

def widen (last next : Span width Label) : Span width Label :=
  {last with stop:=if last.stop ≤ next.stop then next.stop else last.stop}

-- A span that begins inside or right behind another one widens it to what the two cover.
theorem widen_contains (order : last.start ≤ next.start)
    (touching : next.start.toNat ≤ min (last.stop.toNat + 1) (2 ^ width - 1)) (value : BitVec width) :
    (last.widen next).Contains value ↔ last.Contains value ∨ next.Contains value := by
  have reached := Nat.le_trans touching (Nat.min_le_left _ _)
  unfold Contains widen
  dsimp only
  split <;> bv_omega

theorem widen_covered (order : last.start ≤ next.start) (same : last.label = next.label)
    (touching : next.start.toNat ≤ min (last.stop.toNat + 1) (2 ^ width - 1)) (label : Label) (value : BitVec width) :
    Covered (last.widen next :: rest) label value ↔ Covered (last :: next :: rest) label value := by
  unfold Covered
  simp only [List.exists_mem_cons_iff,← or_assoc]
  apply or_congr_left
  rw [widen_contains order touching,← same,← and_or_left]
  rfl

theorem widen_sorted (sorted : Sorted (last :: next :: rest)) : Sorted (last.widen next :: rest) := by
  obtain ⟨first,later⟩ := List.pairwise_cons.mp sorted
  exact List.pairwise_cons.mpr ⟨fun span listed => first span (List.mem_cons_of_mem _ listed),(List.pairwise_cons.mp later).2⟩

theorem widen_proper (proper : Proper (last :: next :: rest)) : Proper (last.widen next :: rest) := by
  obtain ⟨lastProper,_,restProper⟩ : last.start ≤ last.stop ∧ next.start ≤ next.stop ∧ Proper rest := by
    simpa [Proper] using proper
  refine List.forall_mem_cons.mpr ⟨?_,restProper⟩
  unfold widen
  dsimp only
  split <;> bv_omega

variable [DecidableEq Label]

-- Neighbours of one label that touch or overlap become one; the span in hand is
-- the last one written so far. One past the last value is the last value.
def coalesceFrom (last : Span width Label) : List (Span width Label) → List (Span width Label)
  | [] => [last]
  | span :: rest =>
    if last.label = span.label ∧ span.start.toNat ≤ min (last.stop.toNat + 1) (2 ^ width - 1) then
      coalesceFrom (last.widen span) rest
    else last :: coalesceFrom span rest

def coalesce : List (Span width Label) → List (Span width Label)
  | [] => []
  | span :: rest => coalesceFrom span rest

theorem coalesceFrom_start (member : span ∈ coalesceFrom last rest) :
    span.start = last.start ∨ ∃ other ∈ rest, span.start = other.start := by
  induction rest generalizing last with
  | nil => exact .inl (congrArg Span.start (List.mem_singleton.mp member))
  | cons next rest ih =>
      unfold coalesceFrom at member
      split at member
      · exact (ih member).imp_right fun ⟨other,listed,same⟩ => ⟨other,List.mem_cons_of_mem _ listed,same⟩
      · rcases List.mem_cons.mp member with rfl | later
        · exact .inl rfl
        · rcases ih later with same | ⟨other,listed,same⟩
          · exact .inr ⟨next,List.mem_cons_self,same⟩
          · exact .inr ⟨other,List.mem_cons_of_mem _ listed,same⟩

theorem coalesceFrom_labelled (label : Label) :
    (∃ span ∈ coalesceFrom last rest, span.label = label) ↔ ∃ span ∈ last :: rest, span.label = label := by
  induction rest generalizing last with
  | nil => simp [coalesceFrom]
  | cons next rest ih =>
      rw [coalesceFrom]
      split
      · rename_i joined
        rw [ih]
        simp [widen,← joined.1]
      · simp only [List.exists_mem_cons_iff,ih]

theorem coalesceFrom_proper (proper : Proper (last :: rest)) : Proper (coalesceFrom last rest) := by
  induction rest generalizing last with
  | nil => exact proper
  | cons next rest ih =>
      unfold coalesceFrom
      split
      · exact ih (widen_proper proper)
      · obtain ⟨lastProper,restProper⟩ := List.forall_mem_cons.mp proper
        exact List.forall_mem_cons.mpr ⟨lastProper,ih restProper⟩

-- Coalescing keeps what each label covers.
theorem coalesceFrom_covered (sorted : Sorted (last :: rest)) (label : Label) (value : BitVec width) :
    Covered (coalesceFrom last rest) label value ↔ Covered (last :: rest) label value := by
  induction rest generalizing last with
  | nil => rfl
  | cons next rest ih =>
      obtain ⟨first,later⟩ := List.pairwise_cons.mp sorted
      unfold coalesceFrom
      split
      · rename_i joined
        rw [ih (widen_sorted sorted)]
        exact widen_covered (first next List.mem_cons_self) joined.1 joined.2 label value
      · rw [Covered,List.exists_mem_cons_iff,← Covered,ih later,Covered,Covered,List.exists_mem_cons_iff _ last]

-- Neighbours that are not joined leave a gap: of one label because they do not
-- touch, of two because the later one begins where the earlier one may not be.
theorem gap_of_parted (sorted : Sorted (last :: next :: rest)) (proper : Proper (last :: next :: rest))
    (exclusive : Exclusive (last :: next :: rest))
    (parted : ¬ (last.label = next.label ∧ next.start.toNat ≤ min (last.stop.toNat + 1) (2 ^ width - 1))) :
    last.stop < next.start := by
  have order := List.rel_of_pairwise_cons sorted List.mem_cons_self
  by_cases same : last.label = next.label
  · have beyond : ¬ next.start.toNat ≤ min (last.stop.toNat + 1) (2 ^ width - 1) := fun touching => parted ⟨same,touching⟩
    have inside := next.start.isLt
    bv_omega
  · by_contra reaching
    have inLast : last.Contains next.start := ⟨order,BitVec.not_lt.mp reaching⟩
    have inNext : next.Contains next.start := ⟨BitVec.le_refl _,proper next (by simp)⟩
    exact same (exclusive next.start _ _ ⟨last,by simp,rfl,inLast⟩ ⟨next,by simp,rfl,inNext⟩)

theorem coalesceFrom_apart (sorted : Sorted (last :: rest)) (proper : Proper (last :: rest)) (exclusive : Exclusive (last :: rest)) :
    Apart (coalesceFrom last rest) := by
  induction rest generalizing last with
  | nil => exact List.pairwise_singleton _ _
  | cons next rest ih =>
      obtain ⟨first,later⟩ := List.pairwise_cons.mp sorted
      unfold coalesceFrom
      split
      · rename_i joined
        have same (label : Label) (value : BitVec width) := @widen_covered _ _ _ _ rest (first next List.mem_cons_self) joined.1 joined.2 label value
        apply ih (widen_sorted sorted) (widen_proper proper)
        intro value one other inOne inOther
        exact exclusive value one other ((same one value).mp inOne) ((same other value).mp inOther)
      · rename_i parted
        have gap := gap_of_parted sorted proper exclusive parted
        refine List.pairwise_cons.mpr ⟨fun span listed => ?_,ih later (List.forall_mem_cons.mp proper).2 ?_⟩
        · rcases coalesceFrom_start listed with same | ⟨other,member,same⟩
          · rw [same]; exact gap
          · have order := List.rel_of_pairwise_cons later member
            rw [same]
            bv_omega
        · intro value one other given parts
          rcases given with ⟨span,inOne,holds⟩
          rcases parts with ⟨span',inOther,holds'⟩
          exact exclusive value one other ⟨span,List.mem_cons_of_mem _ inOne,holds⟩ ⟨span',List.mem_cons_of_mem _ inOther,holds'⟩

theorem coalesce_covered (sorted : Sorted spans) (label : Label) (value : BitVec width) :
    Covered (coalesce spans) label value ↔ Covered spans label value := by
  cases spans with
  | nil => rfl
  | cons span rest => exact coalesceFrom_covered sorted label value

theorem coalesce_labelled (spans : List (Span width Label)) (label : Label) :
    (∃ span ∈ coalesce spans, span.label = label) ↔ ∃ span ∈ spans, span.label = label := by
  cases spans with
  | nil => rfl
  | cons span rest => exact coalesceFrom_labelled label

theorem coalesce_proper (proper : Proper spans) : Proper (coalesce spans) := by
  cases spans with
  | nil => exact proper
  | cons span rest => exact coalesceFrom_proper proper

theorem coalesce_apart (sorted : Sorted spans) (proper : Proper spans) : Apart (coalesce spans) ↔ Exclusive spans := by
  constructor
  · intro apart value one other inOne inOther
    have inOne := (coalesce_covered sorted one value).mpr inOne
    exact exclusive_of_apart apart value one other inOne ((coalesce_covered sorted other value).mpr inOther)
  · intro exclusive
    cases spans with
    | nil => exact List.Pairwise.nil
    | cons span rest => exact coalesceFrom_apart sorted proper exclusive

end Coalescing

section Normalizing
variable (rank : Label → Nat)

def sortKey (span : Span width Label) : Nat ×ₗ Nat ×ₗ Nat :=
  toLex (span.start.toNat,toLex (span.stop.toNat,rank span.label))

theorem sortKey_injective (apart : Function.Injective rank) : Function.Injective (sortKey rank : Span width Label → _) := by
  intro first second same
  simp only [sortKey,EmbeddingLike.apply_eq_iff_eq,Prod.mk.injEq,BitVec.toNat_inj] at same
  obtain ⟨starts,stops,labels⟩ := same
  cases first; cases second
  have labels := apart labels
  simp_all

theorem sortBy_sortKey_sorted (spans : List (Span width Label)) : Sorted (sortBy (sortKey rank) spans) := by
  refine List.Pairwise.imp ?_ (sortBy_sorted (sortKey rank) spans)
  intro first second before
  rcases Prod.Lex.le_iff.mp before with less | ⟨same,_⟩
  · exact Nat.le_of_lt less
  · exact Nat.le_of_eq same

variable [DecidableEq Label]

def normalize (spans : List (Span width Label)) : List (Span width Label) := coalesce (sortBy (sortKey rank) spans)

theorem normalize_covered (spans : List (Span width Label)) (label : Label) (value : BitVec width) :
    Covered (normalize rank spans) label value ↔ Covered spans label value := by
  rw [normalize,coalesce_covered (sortBy_sortKey_sorted rank spans)]
  exact covered_perm (sortBy_perm _ spans) label value

theorem normalize_labelled (spans : List (Span width Label)) (label : Label) :
    (∃ span ∈ normalize rank spans, span.label = label) ↔ ∃ span ∈ spans, span.label = label := by
  rw [normalize,coalesce_labelled]
  simp only [mem_sortBy]

theorem normalize_proper (proper : Proper spans) : Proper (normalize rank spans) :=
  coalesce_proper fun span listed => proper span ((mem_sortBy _).mp listed)

theorem normalize_apart (proper : Proper spans) : Apart (normalize rank spans) ↔ Exclusive spans := by
  have sameProper : Proper (sortBy (sortKey rank) spans) := fun span listed => proper span ((mem_sortBy _).mp listed)
  rw [normalize,coalesce_apart (sortBy_sortKey_sorted rank spans) sameProper]
  unfold Exclusive
  simp only [covered_perm (sortBy_perm _ spans)]

theorem normalize_perm (apart : Function.Injective rank) (same : spans.Perm spans') : normalize rank spans = normalize rank spans' := by
  rw [normalize,normalize,sortBy_eq _ (sortKey_injective rank apart) same]

-- What bisection finds in the normal form is what the spans it came from cover.
theorem find_normalize (proper : Proper spans) (exclusive : Exclusive spans) (label : Label) (value : BitVec width) :
    (find (normalize rank spans) value).map Span.label = some label ↔ Covered spans label value := by
  rw [find_label (normalize_proper rank proper) ((normalize_apart rank proper).mpr exclusive)]
  exact normalize_covered rank spans label value

end Normalizing

section Validation

-- The check of neighbours: each span ends before the next one begins.
def nonOverlapping : List (Span width Label) → Bool
  | first :: second :: rest => !decide (second.start ≤ first.stop) && nonOverlapping (second :: rest)
  | _ => true

theorem nonOverlapping_iff (proper : Proper spans) : nonOverlapping spans = true ↔ Apart spans := by
  fun_induction nonOverlapping spans with
  | case1 first second rest ih =>
      have tail : Proper (second :: rest) := (List.forall_mem_cons.mp proper).2
      have ends : second.start ≤ second.stop := tail second List.mem_cons_self
      have parted : (!decide (second.start ≤ first.stop)) = true ↔ first.stop < second.start := by simp
      rw [Bool.and_eq_true,ih tail,parted]
      constructor
      · intro both
        rcases both with ⟨gap,apart⟩
        refine List.pairwise_cons.mpr ⟨fun span listed => ?_,apart⟩
        rcases List.mem_cons.mp listed with rfl | later
        · exact gap
        · have next := List.rel_of_pairwise_cons apart later
          bv_omega
      · intro apart
        obtain ⟨gaps,apart⟩ := List.pairwise_cons.mp apart
        exact ⟨gaps second List.mem_cons_self,apart⟩
  | case2 spans short =>
      have alone : Apart spans := by
        rcases spans with - | ⟨first,- | ⟨second,rest⟩⟩
        · exact List.Pairwise.nil
        · exact List.pairwise_singleton _ _
        · exact absurd rfl (short first second rest)
      exact iff_of_true rfl alone

end Validation

end Span

end Spans

end Sigproxy.Library
