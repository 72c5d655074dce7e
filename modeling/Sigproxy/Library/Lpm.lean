import Mathlib.Algebra.Group.Nat.Defs
import Sigproxy.Library.Table

namespace Sigproxy.Library

-- A key of a longest-prefix-match trie: the first `prefixLen` bits of the data
-- count, the bits behind them are carried along.
structure LpmKey (width : Nat) where
  prefixLen : BitVec 32
  data : BitVec width
  deriving DecidableEq, Repr

-- What the trie keeps of a key: two keys with the same node are one entry.
def LpmKey.node (key : LpmKey width) : Nat × Nat :=
  (key.prefixLen.toNat,key.data.toNat / 2 ^ (width - key.prefixLen.toNat))

-- The first key is no longer than the second and its bits begin the second.
def LpmKey.Covers (key target : LpmKey width) : Prop :=
  key.prefixLen.toNat ≤ target.prefixLen.toNat ∧ key.data.toNat / 2 ^ (width - key.prefixLen.toNat) =
    target.data.toNat / 2 ^ (width - key.prefixLen.toNat)

abbrev LpmTrie (Value : Type) := Table (Nat × Nat) Value

namespace LpmTrie
variable {Value : Type}

def insert (trie : LpmTrie Value) (key : LpmKey width) (value : Value) : LpmTrie Value := AList.insert key.node value trie

-- A key that is not there cannot be removed.
def remove (trie : LpmTrie Value) (key : LpmKey width) : Option (LpmTrie Value) :=
  if (trie.lookup key.node).isSome then some (trie.erase key.node) else none

-- The longest entry of at most `length` bits that the data begins with.
def longest (trie : LpmTrie Value) (data : BitVec width) : Nat → Option Value
  | 0 => trie.lookup (0,data.toNat / 2 ^ width)
  | length + 1 => (trie.lookup (length + 1,data.toNat / 2 ^ (width - (length + 1)))).or (trie.longest data length)

def match? (trie : LpmTrie Value) (key : LpmKey width) : Option Value := trie.longest key.data key.prefixLen.toNat

theorem longest_isSome {trie : LpmTrie Value} {data : BitVec width} : (trie.longest data length).isSome = true ↔
    ∃ shorter ≤ length, (trie.lookup (shorter,data.toNat / 2 ^ (width - shorter))).isSome = true := by
  induction length with
  | zero => simp [longest]
  | succ length ih =>
      rw [longest,Option.isSome_or,Bool.or_eq_true,ih]
      constructor
      · intro either
        rcases either with here | ⟨shorter,below,found⟩
        · exact ⟨length + 1,le_rfl,here⟩
        · exact ⟨shorter,by omega,found⟩
      · intro given
        rcases given with ⟨shorter,below,found⟩
        rcases Nat.lt_or_ge length shorter with above | within
        · obtain rfl : shorter = length + 1 := by omega
          exact .inl found
        · exact .inr ⟨shorter,within,found⟩

-- A trie that holds the nodes of the listed keys matches what one of them covers.
theorem match?_isSome {trie : LpmTrie Value} {keys : List (LpmKey width)}
    (held : ∀ node, (trie.lookup node).isSome = true ↔ ∃ key ∈ keys, key.node = node) (target : LpmKey width) :
    (trie.match? target).isSome = true ↔ ∃ key ∈ keys, key.Covers target := by
  rw [match?,longest_isSome]
  constructor
  · intro given
    rcases given with ⟨length,within,found⟩
    obtain ⟨key,listed,same⟩ := (held _).mp found
    obtain ⟨lengths,leading⟩ := Prod.mk.injEq .. ▸ same
    subst lengths
    exact ⟨key,listed,within,leading⟩
  · intro given
    rcases given with ⟨key,listed,within,leading⟩
    exact ⟨key.prefixLen.toNat,within,(held _).mpr ⟨key,listed,by rw [LpmKey.node,leading]⟩⟩

theorem longest_entry {trie : LpmTrie Value} {data : BitVec width} (found : trie.longest data length = some value) :
    ∃ shorter ≤ length, trie.lookup (shorter,data.toNat / 2 ^ (width - shorter)) = some value := by
  induction length with
  | zero => exact ⟨0,le_rfl,by simpa [longest] using found⟩
  | succ length ih =>
      rw [longest,Option.or_eq_some_iff] at found
      rcases found with here | ⟨_,below⟩
      · exact ⟨length + 1,le_rfl,here⟩
      · obtain ⟨shorter,within,entry⟩ := ih below
        exact ⟨shorter,by omega,entry⟩

section Filled
variable {entries : List (LpmKey width × Value)}

def filled (entries : List (LpmKey width × Value)) : LpmTrie Value :=
  entries.foldl (fun trie entry => trie.insert entry.1 entry.2) ∅

theorem filled_snoc (entry : LpmKey width × Value) : filled (entries ++ [entry]) = (filled entries).insert entry.1 entry.2 := by
  simp [filled]

theorem filled_lookup (found : (filled entries).lookup node = some value) : ∃ entry ∈ entries, entry.1.node = node ∧ entry.2 = value := by
  induction entries using List.reverseRecOn with
  | nil => cases found
  | append_singleton rest last ih =>
      rw [filled_snoc,insert,Table.lookup_insert_eq] at found
      split at found
      · rename_i same
        cases found
        exact ⟨last,by simp,same.symm,rfl⟩
      · obtain ⟨entry,listed,stored⟩ := ih found
        exact ⟨entry,List.mem_append_left _ listed,stored⟩

theorem filled_isSome : ((filled entries).lookup node).isSome = true ↔ ∃ key ∈ entries.map Prod.fst, key.node = node := by
  induction entries using List.reverseRecOn with
  | nil => simp [filled]
  | append_singleton rest last ih =>
      rw [filled_snoc,insert,Table.lookup_insert_eq]
      split
      · rename_i same
        simp [same]
      · rename_i other
        rw [ih,List.map_append,List.map_singleton]
        simp [List.mem_append,or_and_right,exists_or,eq_comm,other]

-- Where the entries that cover a key agree, the longest of them says what all say.
theorem match?_filled {target : LpmKey width} (agree : ∀ entry ∈ entries, entry.1.Covers target → entry.2 = value)
    (covered : ∃ entry ∈ entries, entry.1.Covers target) : (filled entries).match? target = some value := by
  obtain ⟨entry,listed,covers⟩ := covered
  have hit : ((filled entries).match? target).isSome = true :=
    (match?_isSome (fun _ => filled_isSome) target).mpr ⟨entry.1,List.mem_map_of_mem listed,covers⟩
  obtain ⟨found,matched⟩ := Option.isSome_iff_exists.mp hit
  obtain ⟨length,within,stored⟩ := longest_entry matched
  obtain ⟨other,member,node,rfl⟩ := filled_lookup stored
  obtain ⟨lengths,leading⟩ := Prod.mk.injEq .. ▸ node
  subst lengths
  rw [matched,agree other member ⟨within,leading⟩]

theorem match?_filled_none {target : LpmKey width} (bare : ∀ entry ∈ entries, ¬ entry.1.Covers target) :
    (filled entries).match? target = none := by
  by_contra found
  obtain ⟨key,listed,covers⟩ := (match?_isSome (fun _ => filled_isSome) target).mp (Option.isSome_iff_ne_none.mpr found)
  obtain ⟨entry,member,rfl⟩ := List.mem_map.mp listed
  exact bare entry member covers

end Filled

end LpmTrie

end Sigproxy.Library
