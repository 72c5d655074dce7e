import Mathlib.Data.List.Basic
import Mathlib.Data.List.Nodup

namespace Sigproxy.Library

variable {Entry : Type} {seq : Entry → Nat} {log fresh rows : List Entry}

-- A log whose entries carry the numbers 1, 2, 3, ... in order.
def Numbered (seq : Entry → Nat) (log : List Entry) : Prop := log.map seq = List.range' 1 log.length

-- The first `count` entries past the number `after`.
def window (seq : Entry → Nat) (after count : Nat) (log : List Entry) : List Entry :=
  (log.filter fun entry => decide (after < seq entry)).take count

namespace Numbered

theorem nil : Numbered seq [] := rfl

theorem append (numbered : Numbered seq log) (next : fresh.map seq = List.range' (log.length + 1) fresh.length) :
    Numbered seq (log ++ fresh) := by
  unfold Numbered at numbered ⊢
  rw [List.map_append,numbered,next,List.length_append,Nat.add_comm log.length 1,List.range'_append_1]

theorem at_index (numbered : Numbered seq log) (i : Nat) (inside : i < log.length) : seq log[i] = i + 1 := by
  have same : (log.map seq)[i]? = (List.range' 1 log.length)[i]? := congrArg (·[i]?) numbered
  simpa [inside,Nat.add_comm] using same

theorem nodup (numbered : Numbered seq log) : log.Nodup :=
  List.Nodup.of_map seq (numbered ▸ List.nodup_range')

theorem filter_eq_drop (numbered : Numbered seq log) (after : Nat) :
    (log.filter fun entry => decide (after < seq entry)) = log.drop after := by
  have early : ((log.take after).filter fun entry => decide (after < seq entry)) = [] := by
    rw [List.filter_eq_nil_iff]
    intro entry member
    obtain ⟨i,inside,rfl⟩ := List.mem_take_iff_getElem.mp member
    rw [numbered.at_index i (by omega)]
    simp; omega
  have late : ((log.drop after).filter fun entry => decide (after < seq entry)) = log.drop after := by
    rw [List.filter_eq_self]
    intro entry member
    obtain ⟨i,inside,rfl⟩ := List.mem_drop_iff_getElem.mp member
    rw [numbered.at_index (after + i) (by omega)]
    exact decide_eq_true (by omega)
  calc (log.filter fun entry => decide (after < seq entry))
      = ((log.take after ++ log.drop after).filter fun entry => decide (after < seq entry)) := by
        rw [List.take_append_drop]
    _ = log.drop after := by rw [List.filter_append,early,late,List.nil_append]

theorem window_seqs (numbered : Numbered seq log) (after count : Nat) :
    (window seq after count log).map seq = List.range' (after + 1) (window seq after count log).length := by
  have rest : (log.drop after).map seq = List.range' (after + 1) (log.length - after) := by
    rw [List.map_drop,numbered,List.drop_range',Nat.mul_one,Nat.add_comm]
  rw [window,numbered.filter_eq_drop,List.map_take,rest,List.length_take,List.length_drop]
  rcases Nat.le_total count (log.length - after) with short | long
  · rw [List.take_range'_of_length_ge short,Nat.min_eq_left short]
  · rw [List.take_range'_of_length_le long,Nat.min_eq_right long]

theorem mem_window (numbered : Numbered seq log) :
    entry ∈ window seq after count log ↔ entry ∈ log ∧ after < seq entry ∧ seq entry ≤ after + count := by
  rw [window,numbered.filter_eq_drop]
  constructor
  · intro member
    obtain ⟨i,inside,rfl⟩ := List.mem_take_iff_getElem.mp member
    rw [List.length_drop] at inside
    rw [List.getElem_drop]
    have number := numbered.at_index (after + i) (by omega)
    exact ⟨List.getElem_mem _,by omega,by omega⟩
  · intro given
    rcases given with ⟨member,later,near⟩
    obtain ⟨i,inside,rfl⟩ := List.mem_iff_getElem.mp member
    rw [numbered.at_index i inside] at later near
    refine List.mem_take_iff_getElem.mpr ⟨i - after,?_,?_⟩
    · rw [List.length_drop]; omega
    · rw [List.getElem_drop]; congr 1; omega

end Numbered

theorem take_of_sublist (kept : rows.Sublist log) (distinct : log.Nodup)
    (retained : ∀ entry ∈ log.take count, entry ∈ rows) : rows.take count = log.take count := by
  induction count generalizing rows log with
  | zero => simp
  | succ count ih =>
      cases kept with
      | slnil => rfl
      | @cons _ log entry kept =>
          -- A dropped head would have to stand twice in the log.
          exact absurd (kept.subset (retained entry (by simp))) (List.nodup_cons.mp distinct).1
      | @cons_cons rows log entry kept =>
          obtain ⟨fresh,distinct⟩ := List.nodup_cons.mp distinct
          have rest : ∀ other ∈ log.take count, other ∈ rows := by
            intro other member
            have stored := retained other (by simp [member])
            rcases List.mem_cons.mp stored with rfl | stored
            · exact absurd (List.mem_of_mem_take member) fresh
            · exact stored
          rw [List.take_succ_cons,List.take_succ_cons,ih kept distinct rest]

-- A pruned copy of the log shows the true window exactly when it still holds it.
theorem window_exact (kept : rows.Sublist log) (numbered : Numbered seq log) :
    window seq after count rows = window seq after count log ↔
      ∀ entry ∈ log, after < seq entry → seq entry ≤ after + count → entry ∈ rows := by
  constructor
  · intro same entry member later near
    have shown : entry ∈ window seq after count rows :=
      same ▸ numbered.mem_window.mpr ⟨member,later,near⟩
    exact List.mem_of_mem_filter (List.mem_of_mem_take shown)
  · intro retained
    apply take_of_sublist (kept.filter _) (numbered.nodup.filter _)
    intro entry shown
    obtain ⟨member,later,near⟩ := numbered.mem_window.mp shown
    exact List.mem_filter.mpr ⟨retained entry member later near,by simpa using later⟩

end Sigproxy.Library
