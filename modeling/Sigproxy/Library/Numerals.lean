import Mathlib.Data.List.Basic

namespace Sigproxy.Library.Numerals

-- Numbers written with the digits up to f.
theorem digitChar_inj : ∀ first < 16, ∀ second < 16, Nat.digitChar first = Nat.digitChar second → first = second := by decide

theorem toDigits_split {base : Nat} (wide : 1 < base) (number : Nat) : Nat.toDigits base number =
    (if number < base then [] else Nat.toDigits base (number / base)) ++ [(number % base).digitChar] := by
  rw [Nat.toDigits_eq_if wide]
  split
  · rename_i small
    rw [Nat.mod_eq_of_lt small]
    rfl
  · rfl

theorem mem_toDigits {base : Nat} (wide : 1 < base) {char : Char} (member : char ∈ Nat.toDigits base number) :
    ∃ digit < base, char = digit.digitChar := by
  induction number using Nat.strongRecOn with
  | ind number ih =>
      rw [toDigits_split wide] at member
      have last : number % base < base := Nat.mod_lt _ (Nat.lt_of_succ_lt wide)
      rcases List.mem_append.mp member with leading | trailing
      · split at leading
        · cases leading
        · rename_i large
          exact ih (number / base) (Nat.div_lt_self (by omega) wide) leading
      · exact ⟨_,last,List.mem_singleton.mp trailing⟩

-- What is no digit stands in no numeral.
theorem not_mem_toDigits {base : Nat} (wide : 1 < base) (narrow : base ≤ 16) {char : Char}
    (other : ∀ digit < 16, Nat.digitChar digit ≠ char) (number : Nat) : char ∉ Nat.toDigits base number := by
  intro member
  obtain ⟨digit,below,same⟩ := mem_toDigits wide member
  exact other digit (by omega) same.symm

theorem toDigits_inj {base : Nat} (wide : 1 < base) (narrow : base ≤ 16) {first second : Nat} :
    Nat.toDigits base first = Nat.toDigits base second ↔ first = second := by
  constructor
  · intro same
    induction first using Nat.strongRecOn generalizing second with
    | ind first ih =>
        rw [toDigits_split wide first,toDigits_split wide second] at same
        obtain ⟨leading,last⟩ := List.append_inj' same rfl
        have rest : first % base = second % base := by
          have firstBound : first % base < base := Nat.mod_lt _ (by omega)
          have secondBound : second % base < base := Nat.mod_lt _ (by omega)
          exact digitChar_inj _ (by omega) _ (by omega) (List.cons.inj last).1
        have quotient : first / base = second / base := by
          split at leading
          · split at leading
            · rw [Nat.div_eq_of_lt ‹_›,Nat.div_eq_of_lt ‹_›]
            · exact absurd leading.symm Nat.toDigits_ne_nil
          · split at leading
            · exact absurd leading Nat.toDigits_ne_nil
            · exact ih (first / base) (Nat.div_lt_self (by omega) wide) leading
        rw [← Nat.div_add_mod first base,← Nat.div_add_mod second base,quotient,rest]
  · intro same
    rw [same]

end Sigproxy.Library.Numerals
