import Mathlib.Data.Char
import Mathlib.Data.List.Lex
import Mathlib.Tactic.Positivity
import Mathlib.Tactic.Ring

namespace Sigproxy.Library.DecimalText

-- Numbers written in decimal and compared as texts, byte by byte from the left.
def digits (number : Nat) : Nat := (Nat.toDigits 10 number).length

-- The shorter of two numbers, filled up with zeros on the right to the length of the
-- longer one, does not exceed it.
def Aligned (left right : Nat) : Prop :=
  (digits left < digits right → left * 10 ^ (digits right - digits left) ≤ right) ∧
    (digits right < digits left → right * 10 ^ (digits left - digits right) ≤ left)

instance (left right : Nat) : Decidable (Aligned left right) := inferInstanceAs (Decidable (_ ∧ _))

theorem digit_le {char : Char} (digital : char.isDigit = true) : 48 ≤ char.toNat ∧ char.toNat ≤ 57 := by
  simpa [Char.isDigit,UInt32.le_iff_toNat_le] using digital

theorem value_cons (char : Char) (rest : List Char) :
    Nat.ofDigitChars 10 (char :: rest) 0 = (char.toNat - 48) * 10 ^ rest.length + Nat.ofDigitChars 10 rest 0 := by
  rw [Nat.ofDigitChars_cons,Nat.ofDigitChars_eq_ofDigitChars_zero,Nat.mul_zero,Nat.zero_add,Nat.mul_comm]
  rfl

theorem value_lt {text : List Char} (digital : ∀ char ∈ text, char.isDigit = true) : Nat.ofDigitChars 10 text 0 < 10 ^ text.length := by
  induction text with
  | nil => simp
  | cons char rest ih =>
      obtain ⟨here,later⟩ := List.forall_mem_cons.mp digital
      have bound := ih later
      have small : (char.toNat - 48) * 10 ^ rest.length ≤ 9 * 10 ^ rest.length := Nat.mul_le_mul_right _ (by have := digit_le here; omega)
      rw [value_cons,List.length_cons,Nat.pow_succ]
      omega

-- The leading digits decide, and only where they are the same does the rest count.
theorem leading_decides {scale : Nat} (first second : Nat) (leftSmall : left < scale) (rightSmall : right < scale) :
    first * scale + left < second * scale + right ↔ first < second ∨ first = second ∧ left < right := by
  rcases Nat.lt_trichotomy first second with less | same | more
  · have := Nat.mul_le_mul_right scale less
    rw [Nat.succ_mul] at this
    exact ⟨fun _ => .inl less,fun _ => by omega⟩
  · subst same
    simp
  · have := Nat.mul_le_mul_right scale more
    rw [Nat.succ_mul] at this
    exact ⟨fun below => by omega,fun either => by omega⟩

theorem leading_agrees {scale : Nat} (first second : Nat) (leftSmall : left < scale) (rightSmall : right < scale) :
    first * scale + left = second * scale + right ↔ first = second ∧ left = right := by
  have below := leading_decides first second leftSmall rightSmall
  have above := leading_decides second first rightSmall leftSmall
  omega

theorem digit_lt {first second : Char} (firstDigit : first.isDigit = true) (secondDigit : second.isDigit = true) :
    (first < second ↔ first.toNat - 48 < second.toNat - 48) ∧ (first = second ↔ first.toNat - 48 = second.toNat - 48) := by
  have low := digit_le firstDigit
  have high := digit_le secondDigit
  have order : first < second ↔ first.toNat < second.toNat := Char.lt_def.trans UInt32.lt_iff_toNat_lt
  have same : first = second ↔ first.toNat = second.toNat := Char.toNat_inj.symm
  exact ⟨order.trans (by omega),same.trans (by omega)⟩

theorem texts_lt_iff {left right : List Char} (leftDigital : ∀ char ∈ left, char.isDigit = true)
    (rightDigital : ∀ char ∈ right, char.isDigit = true) :
    left < right ↔
      Nat.ofDigitChars 10 left 0 * 10 ^ right.length < Nat.ofDigitChars 10 right 0 * 10 ^ left.length ∨
      Nat.ofDigitChars 10 left 0 * 10 ^ right.length = Nat.ofDigitChars 10 right 0 * 10 ^ left.length ∧ left.length < right.length := by
  induction left generalizing right with
  | nil =>
      cases right with
      | nil => simp
      | cons second right =>
          simp only [List.nil_lt_cons,Nat.ofDigitChars_nil,Nat.zero_mul,List.length_nil,Nat.pow_zero,Nat.mul_one,true_iff,List.length_cons]
          omega
  | cons first left ih =>
      cases right with
      | nil => simp
      | cons second right =>
          obtain ⟨firstDigit,leftDigital⟩ := List.forall_mem_cons.mp leftDigital
          obtain ⟨secondDigit,rightDigital⟩ := List.forall_mem_cons.mp rightDigital
          have leftBound := value_lt leftDigital
          have rightBound := value_lt rightDigital
          have spread : ∀ digit value here there : Nat, (digit * 10 ^ here + value) * 10 ^ (there + 1) =
              10 * (digit * 10 ^ (here + there) + value * 10 ^ there) := by
            intro digit value here there
            rw [Nat.pow_succ,Nat.pow_add]
            ring
          have leftSmall : Nat.ofDigitChars 10 left 0 * 10 ^ right.length < 10 ^ (left.length + right.length) := by
            rw [Nat.pow_add]
            exact Nat.mul_lt_mul_of_pos_right leftBound (by positivity)
          have rightSmall : Nat.ofDigitChars 10 right 0 * 10 ^ left.length < 10 ^ (left.length + right.length) := by
            rw [Nat.add_comm,Nat.pow_add]
            exact Nat.mul_lt_mul_of_pos_right rightBound (by positivity)
          obtain ⟨order,same⟩ := digit_lt firstDigit secondDigit
          have decides := leading_decides (first.toNat - 48) (second.toNat - 48) leftSmall rightSmall
          have agrees := leading_agrees (first.toNat - 48) (second.toNat - 48) leftSmall rightSmall
          rw [List.cons_lt_cons_iff,ih leftDigital rightDigital,value_cons,value_cons,List.length_cons,List.length_cons,
            spread,spread,Nat.add_comm right.length left.length,order,same]
          omega

theorem text_le_iff (left right : Nat) : Nat.toDigits 10 left ≤ Nat.toDigits 10 right ↔
    left * 10 ^ digits right < right * 10 ^ digits left ∨
      left * 10 ^ digits right = right * 10 ^ digits left ∧ digits left ≤ digits right := by
  have digital : ∀ number : Nat, ∀ char ∈ Nat.toDigits 10 number, char.isDigit = true :=
    fun number char member => Nat.isDigit_of_mem_toDigits (by decide) (by decide) member
  rw [← not_lt,texts_lt_iff (digital right) (digital left),Nat.ofDigitChars_ten_toDigits,Nat.ofDigitChars_ten_toDigits]
  unfold digits
  omega

theorem digits_lt (shorter : digits left < digits right) : left < right := by
  have start : 0 < digits left := Nat.length_toDigits_pos
  have below : left < 10 ^ digits left := (Nat.length_toDigits_le_iff (by decide) start).mp (Nat.le_refl _)
  have above : ¬ right < 10 ^ digits left := fun short => by
    have narrow : digits right ≤ digits left := (Nat.length_toDigits_le_iff (by decide) start).mpr short
    omega
  omega

theorem text_le_agrees (left right : Nat) : (Nat.toDigits 10 left ≤ Nat.toDigits 10 right ↔ left ≤ right) ↔ Aligned left right := by
  have spread : ∀ number short long : Nat, short < long → number * 10 ^ long = number * 10 ^ (long - short) * 10 ^ short := by
    intro number short long shorter
    rw [Nat.mul_assoc,← Nat.pow_add,Nat.sub_add_cancel shorter.le]
  have positive : ∀ count : Nat, 0 < 10 ^ count := fun count => by positivity
  rw [text_le_iff,Aligned]
  rcases Nat.lt_trichotomy (digits left) (digits right) with shorter | same | longer
  · have numeric := digits_lt shorter
    rw [spread left _ _ shorter,Nat.mul_lt_mul_right (positive _),Nat.mul_left_inj (positive _).ne']
    omega
  · rw [same,Nat.mul_lt_mul_right (positive _),Nat.mul_left_inj (positive _).ne']
    omega
  · have numeric := digits_lt longer
    rw [spread right _ _ longer,Nat.mul_lt_mul_right (positive _),Nat.mul_left_inj (positive _).ne']
    omega

end Sigproxy.Library.DecimalText
