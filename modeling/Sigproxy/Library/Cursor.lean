import Sigproxy.Library.Octets

namespace Sigproxy.Library

-- A computation that may fail with an error, or stop in a panic: `none`.
abbrev Risky := ExceptT String Option

namespace Risky

def Gives (computation : Risky Result) (result : Result) : Prop := computation.run = some (.ok result)

def Safe (computation : Risky Result) : Prop := computation.run ≠ none

theorem gives_pure {result other : Result} : Gives (pure result) other ↔ result = other := by
  change some (Except.ok result) = some (Except.ok other) ↔ _
  simp

theorem gives_throw (error : String) (result : Result) : ¬ Gives (throw error) result := nofun

theorem safe_pure (result : Result) : Safe (pure result) := nofun

theorem safe_throw (error : String) : Safe (throw error : Risky Result) := nofun

theorem gives_bind {first : Risky First} {next : First → Risky Second} {result : Second} :
    Gives (first >>= next) result ↔ ∃ value, Gives first value ∧ Gives (next value) result := by
  obtain _ | error | value := first
  · exact ⟨nofun,fun ⟨_,given,_⟩ => nomatch given⟩
  · exact ⟨nofun,fun ⟨_,given,_⟩ => nomatch given⟩
  · refine ⟨fun given => ⟨value,rfl,given⟩,fun ⟨_,given,rest⟩ => ?_⟩
    cases given
    exact rest

theorem gives_unless {condition : Prop} [Decidable condition] {error : String} {computation : Risky Result} {result : Result} :
    Gives (if condition then throw error else computation) result ↔ ¬ condition ∧ Gives computation result := by
  split
  · rename_i holds
    exact ⟨fun given => (gives_throw _ _ given).elim,fun both => (both.1 holds).elim⟩
  · rename_i fails
    exact ⟨fun given => ⟨fails,given⟩,fun both => both.2⟩

theorem safe_unless {condition : Prop} [Decidable condition] {computation : Risky Result} (error : String) (safe : ¬ condition → Safe computation) :
    Safe (if condition then throw error else computation) := by
  split
  · exact safe_throw error
  · rename_i fails
    exact safe fails

theorem gives_lift {outcome : Except String Result} {result : Result} : Gives (liftM outcome) result ↔ outcome = .ok result := by
  cases outcome with
  | error error => exact ⟨nofun,nofun⟩
  | ok value =>
      change some (Except.ok value) = some (Except.ok result) ↔ _
      simp

theorem safe_lift (outcome : Except String Result) : Safe (liftM outcome) := by
  cases outcome <;> exact nofun

theorem safe_bind {first : Risky First} {next : First → Risky Second} (safe : Safe first)
    (rest : ∀ value, Gives first value → Safe (next value)) : Safe (first >>= next) := by
  obtain _ | error | value := first
  · exact (safe rfl).elim
  · exact nofun
  · exact rest value rfl

end Risky

-- The range `items[first..last]`: out of bounds it panics.
def slice (items : List Item) (first last : Nat) : Risky (List Item) :=
  if first ≤ last ∧ last ≤ items.length then pure ((items.drop first).take (last - first)) else ExceptT.mk none

theorem slice_inside {items : List Item} (before : first ≤ last) (inside : last ≤ items.length) :
    slice items first last = pure ((items.drop first).take (last - first)) := by
  simp [slice,before,inside]

-- An index out of bounds panics, too.
def itemAt (items : List Item) (index : Nat) : Risky Item := ExceptT.mk ((items[index]?).map .ok)

theorem itemAt_inside {items : List Item} (inside : index < items.length) (missing : Item) :
    itemAt items index = pure (items.getD index missing) := by
  rw [itemAt,List.getD_eq_getElem?_getD,List.getElem?_eq_getElem inside]
  rfl

structure Cursor (Item : Type) where
  items : List Item
  offset : Nat
  deriving DecidableEq, Repr

namespace Cursor
variable {Item Value : Type} {here next last : Cursor Item}

def usizeLimit : Nat := 2 ^ 64

def Within (here : Cursor Item) : Prop := here.offset ≤ here.items.length ∧ here.offset < usizeLimit

def rest (here : Cursor Item) : List Item := here.items.drop here.offset

theorem within_start (items : List Item) : (Cursor.mk items 0).Within := ⟨Nat.zero_le _,Nat.two_pow_pos 64⟩

-- The cursor has moved over the given items.
structure Consumes (here : Cursor Item) (taken : List Item) (next : Cursor Item) : Prop where
  items : next.items = here.items
  offset : next.offset = here.offset + taken.length
  rest : here.rest = taken ++ next.rest

theorem Consumes.trans (first : here.Consumes early next) (second : next.Consumes late last) : here.Consumes (early ++ late) last where
  items := second.items.trans first.items
  offset := by rw [second.offset,first.offset,List.length_append,Nat.add_assoc]
  rest := by rw [first.rest,second.rest,List.append_assoc]

theorem Consumes.onward (consumed : here.Consumes taken next) : here.offset ≤ next.offset :=
  Nat.le_trans (Nat.le_add_right _ _) (Nat.le_of_eq consumed.offset.symm)

theorem consumes_nil : here.Consumes [] next ↔ next = here := by
  refine ⟨fun consumed => ?_,fun same => same ▸ ⟨rfl,rfl,rfl⟩⟩
  obtain ⟨items,offset,_⟩ := consumed
  cases here
  cases next
  cases items
  cases offset
  rfl

theorem consumes_append : here.Consumes (early ++ late) last ↔ ∃ next, here.Consumes early next ∧ next.Consumes late last := by
  refine ⟨fun consumed => ?_,fun ⟨_,first,second⟩ => first.trans second⟩
  have passed : here.rest = early ++ (late ++ last.rest) := by rw [consumed.rest,List.append_assoc]
  have behind : (Cursor.mk here.items (here.offset + early.length)).rest = late ++ last.rest := by
    rw [rest,← List.drop_drop,← rest,passed,List.drop_left]
  refine ⟨⟨here.items,here.offset + early.length⟩,⟨rfl,rfl,by rw [behind,passed]⟩,consumed.items,?_,behind⟩
  rw [consumed.offset,List.length_append,Nat.add_assoc]

theorem Consumes.within (consumed : here.Consumes taken next) (within : here.Within) (bounded : next.offset < usizeLimit) : next.Within := by
  refine ⟨?_,bounded⟩
  have lengths := congrArg List.length consumed.rest
  have inside := within.1
  rw [consumed.items,consumed.offset]
  simp only [Cursor.rest,List.length_append,List.length_drop] at lengths
  omega

-- To be at the end is to have passed everything.
theorem consumes_all (items : List Item) : (Cursor.mk items 0).Consumes taken next ∧ next.offset = next.items.length ↔
    taken = items ∧ next = ⟨items,items.length⟩ := by
  constructor
  · intro both
    rcases both with ⟨consumed,ended⟩
    have nothing : next.rest = [] := by rw [rest,ended,List.drop_length]
    have all := consumed.rest
    rw [nothing,List.append_nil] at all
    refine ⟨all.symm,?_⟩
    obtain ⟨others,place⟩ := next
    cases consumed.items
    exact congrArg _ ended
  · intro both
    rcases both with ⟨rfl,rfl⟩
    exact ⟨⟨rfl,by simp,by simp [rest]⟩,rfl⟩

end Cursor

-- A reader that takes a value off the cursor as it was written, and never panics.
structure Reads (read : Cursor Item → Risky (Value × Cursor Item)) (write : Value → List Item) : Prop where
  safe : ∀ here : Cursor Item, here.Within → (read here).Safe
  gives : ∀ (here next : Cursor Item) value, here.Within →
    ((read here).Gives (value,next) ↔ here.Consumes (write value) next ∧ next.offset < Cursor.usizeLimit)

section Repeating
variable {Item Value : Type}

theorem Reads.within {read : Cursor Item → Risky (Value × Cursor Item)} {write : Value → List Item} (reads : Reads read write)
    (within : Cursor.Within here) (given : (read here).Gives (value,next)) : next.Within :=
  have ⟨consumed,limit⟩ := (reads.gives here next value within).mp given
  consumed.within within limit

-- What follows a reader goes on where the value that it took ends.
theorem Reads.followed {Result : Type} {read : Cursor Item → Risky (Value × Cursor Item)} {write : Value → List Item}
    {rest : Value × Cursor Item → Risky Result} {result : Result} (reads : Reads read write) (within : Cursor.Within here) :
    Risky.Gives (read here >>= rest) result ↔
      ∃ value next, here.Consumes (write value) next ∧ next.Within ∧ Risky.Gives (rest (value,next)) result := by
  rw [Risky.gives_bind]
  constructor
  · intro all
    rcases all with ⟨⟨value,next⟩,given,done⟩
    obtain ⟨consumed,limit⟩ := (reads.gives here next value within).mp given
    exact ⟨value,next,consumed,consumed.within within limit,done⟩
  · intro given
    rcases given with ⟨value,next,consumed,inside,done⟩
    exact ⟨(value,next),(reads.gives here next value within).mpr ⟨consumed,inside.2⟩,done⟩

-- So many values, one after another.
def readMany (read : Cursor Item → Risky (Value × Cursor Item)) : Nat → Cursor Item → Risky (List Value × Cursor Item)
  | 0,here => return ([],here)
  | count + 1,here => do
    let (value,here) ← read here
    let (values,here) ← readMany read count here
    return (value :: values,here)

variable {read : Cursor Item → Risky (Value × Cursor Item)} {write : Value → List Item}

theorem readMany_safe (reads : Reads read write) (count : Nat) (within : Cursor.Within here) : (readMany read count here).Safe := by
  induction count generalizing here with
  | zero => exact Risky.safe_pure _
  | succ count ih =>
      refine Risky.safe_bind (reads.safe here within) fun ⟨value,next⟩ given => ?_
      exact Risky.safe_bind (ih (reads.within within given)) fun _ _ => Risky.safe_pure _

theorem readMany_gives (reads : Reads read write) (within : Cursor.Within here) : (readMany read count here).Gives (values,next) ↔
    values.length = count ∧ here.Consumes (values.flatMap write) next ∧ next.offset < Cursor.usizeLimit := by
  induction count generalizing here values next with
  | zero =>
      rw [readMany,Risky.gives_pure,List.length_eq_zero_iff]
      constructor
      · intro same
        cases same
        exact ⟨rfl,Cursor.consumes_nil.mpr rfl,within.2⟩
      · intro all
        rcases all with ⟨rfl,consumed,_⟩
        rw [Cursor.consumes_nil.mp consumed]
  | succ count ih =>
      rw [readMany,reads.followed within]
      constructor
      · intro all
        rcases all with ⟨value,middle,consumed,inside,rest⟩
        obtain ⟨⟨later,after⟩,given,done⟩ := Risky.gives_bind.mp rest
        obtain ⟨counted,further,limit⟩ := (ih inside).mp given
        cases Risky.gives_pure.mp done
        exact ⟨by simp [counted],by simpa using consumed.trans further,limit⟩
      · intro given
        rcases given with ⟨counted,consumed,limit⟩
        obtain _ | ⟨value,later⟩ := values
        · cases counted
        · rw [List.flatMap_cons] at consumed
          obtain ⟨middle,first,second⟩ := Cursor.consumes_append.mp consumed
          have inside := first.within within (Nat.lt_of_le_of_lt second.onward limit)
          refine ⟨value,middle,first,inside,Risky.gives_bind.mpr ⟨(later,next),?_,rfl⟩⟩
          exact (ih inside).mpr ⟨by simpa using counted,second,limit⟩

theorem readMany_followed {Result : Type} {rest : List Value × Cursor Item → Risky Result} {result : Result} (reads : Reads read write)
    (within : Cursor.Within here) : Risky.Gives (readMany read count here >>= rest) result ↔
      ∃ values next, values.length = count ∧ here.Consumes (values.flatMap write) next ∧ next.Within ∧ Risky.Gives (rest (values,next)) result := by
  rw [Risky.gives_bind]
  constructor
  · intro all
    rcases all with ⟨⟨values,next⟩,given,done⟩
    obtain ⟨counted,consumed,limit⟩ := (readMany_gives reads within).mp given
    exact ⟨values,next,counted,consumed,consumed.within within limit,done⟩
  · intro given
    rcases given with ⟨values,next,counted,consumed,inside,done⟩
    exact ⟨(values,next),(readMany_gives reads within).mpr ⟨counted,consumed,inside.2⟩,done⟩

end Repeating

end Sigproxy.Library
