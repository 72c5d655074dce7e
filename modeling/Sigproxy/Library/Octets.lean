import Mathlib.Data.List.Basic
import Mathlib.Data.BitVec

namespace Sigproxy.Library

abbrev Octet := BitVec 8

namespace Octets

-- A word in network byte order, as it stands at the head of a run of octets. What is
-- missing reads as zero: a reader checks the length first.
def word : (n : Nat) → List Octet → BitVec (8 * n)
  | 0,_ => 0
  | n + 1,octets => word n octets ++ octets.getD n 0

def bytesOf : (n : Nat) → BitVec (8 * n) → List Octet
  | 0,_ => []
  | n + 1,value => bytesOf n (value.extractLsb' 8 (8 * n)) ++ [value.extractLsb' 0 8]

@[simp] theorem length_bytesOf (n : Nat) (value : BitVec (8 * n)) : (bytesOf n value).length = n := by
  induction n with
  | zero => rfl
  | succ n ih => rw [bytesOf,List.length_append,ih,List.length_singleton]

@[simp] theorem word_bytesOf (n : Nat) (value : BitVec (8 * n)) (rest : List Octet) : word n (bytesOf n value ++ rest) = value := by
  induction n generalizing rest with
  | zero => exact BitVec.of_length_zero.symm
  | succ n ih =>
      have last : (bytesOf (n + 1) value ++ rest).getD n 0 = value.extractLsb' 0 8 := by
        simp [bytesOf,List.getD_eq_getElem?_getD]
      rw [word,last,bytesOf,List.append_assoc,ih]
      exact BitVec.extractLsb'_append_extractLsb'

theorem bytesOf_word (n : Nat) (octets : List Octet) (enough : n ≤ octets.length) : bytesOf n (word n octets) = octets.take n := by
  induction n with
  | zero => rfl
  | succ n ih =>
      have upper : (word (n + 1) octets).extractLsb' 8 (8 * n) = word n octets := BitVec.extractLsb'_append_eq_left
      have lower : (word (n + 1) octets).extractLsb' 0 8 = octets.getD n 0 := BitVec.extractLsb'_append_eq_right
      rw [bytesOf,upper,lower,ih (by omega),List.take_succ_eq_append_getElem (by omega)]
      simp [List.getD_eq_getElem?_getD,List.getElem?_eq_getElem enough]

theorem word_take (octets : List Octet) (enough : n ≤ size) : word n (octets.take size) = word n octets := by
  induction n with
  | zero => rfl
  | succ n ih =>
      have same : (octets.take size).getD n 0 = octets.getD n 0 := by
        simp only [List.getD_eq_getElem?_getD,List.getElem?_take_of_lt (Nat.lt_of_succ_le enough)]
      rw [word,word,ih (Nat.le_of_succ_le enough),same]

-- A word is known by its pieces of one size.
theorem eq_of_pieces (size : Nat) (positive : 0 < size) {first second : BitVec width}
    (same : ∀ place, size * place < width → first.extractLsb' (size * place) size = second.extractLsb' (size * place) size) : first = second := by
  apply BitVec.eq_of_getLsbD_eq
  intro bit inside
  have within : bit % size < size := Nat.mod_lt _ positive
  have place : size * (bit / size) + bit % size = bit := Nat.div_add_mod bit size
  have piece := congrArg (·.getLsbD (bit % size)) (same (bit / size) (by omega))
  simpa only [BitVec.getLsbD_extractLsb',decide_eq_true within,Bool.true_and,place] using piece

-- What stands behind so many octets is read from there.
theorem octet_after {before after : List Octet} (here : before.length = place) (octet : Octet) :
    (before ++ octet :: after).getD place 0 = octet := by
  subst here
  simp [List.getD_eq_getElem?_getD]

theorem word_after {before after : List Octet} (here : before.length = place) (n : Nat) (value : BitVec (8 * n)) :
    word n ((before ++ (bytesOf n value ++ after)).drop place) = value := by
  rw [List.drop_left' here,word_bytesOf]

end Octets

end Sigproxy.Library
