import Sigproxy.Library.Cursor

namespace Sigproxy.Library.TextSlices

-- The octets of a text.
def octets (text : String) : List UInt8 := text.toUTF8.data.toList

-- `char_indices`: the characters, each with the offset of its first octet.
def charIndices (offset : Nat) : List Char → List (Nat × Char)
  | [] => []
  | char :: rest => (offset,char) :: charIndices (offset + char.utf8Size) rest

-- A slice panics where its end is not between two characters.
def upTo (text : String) (index : Nat) : Risky String :=
  if between : (⟨index⟩ : String.Pos.Raw).IsValid text then pure (text.sliceTo (text.pos ⟨index⟩ between)).copy
  else ExceptT.mk none

def downFrom (text : String) (index : Nat) : Risky String :=
  if between : (⟨index⟩ : String.Pos.Raw).IsValid text then pure (text.sliceFrom (text.pos ⟨index⟩ between)).copy
  else ExceptT.mk none

section Offsets

theorem between_parts (front back : String) : (⟨front.utf8ByteSize⟩ : String.Pos.Raw).IsValid (front ++ back) :=
  String.Pos.Raw.isValid_iff_exists_append.mpr ⟨front,back,rfl,rfl⟩

theorem splits_parts (front back : String) :
    ((front ++ back).pos ⟨front.utf8ByteSize⟩ (between_parts front back)).Splits front back :=
  ⟨rfl,String.offset_pos⟩

theorem upTo_parts (front back : String) : upTo (front ++ back) front.utf8ByteSize = pure front := by
  rw [upTo,dif_pos (between_parts front back),(String.Pos.splits _).eq_left (splits_parts front back)]

theorem downFrom_parts (front back : String) : downFrom (front ++ back) front.utf8ByteSize = pure back := by
  rw [downFrom,dif_pos (between_parts front back),(String.Pos.splits _).eq_right (splits_parts front back)]

end Offsets

section Octets

theorem octets_append (front back : String) : octets (front ++ back) = octets front ++ octets back := by
  simp [octets]

theorem octets_decoded {bytes : List UInt8} {text : String} (decoded : String.fromUTF8? ⟨bytes.toArray⟩ = some text) : octets text = bytes := by
  unfold String.fromUTF8? at decoded
  split at decoded
  · cases decoded
    rfl
  · cases decoded

theorem encoded_low {char : Char} {octet : UInt8} (member : octet ∈ String.utf8EncodeChar char) (low : octet.toNat < 128) :
    octet.toNat = char.toNat := by
  simp only [String.utf8EncodeChar] at member
  split at member
  · rename_i small
    rw [List.mem_singleton.mp member,UInt8.toNat_ofNat']
    exact Nat.mod_eq_of_lt (Nat.lt_of_le_of_lt small (by omega))
  · exfalso
    have cut (count : Nat) (inside : count < 256) : (UInt8.ofNat count).toNat = count := by
      rw [UInt8.toNat_ofNat',Nat.mod_eq_of_lt inside]
    split at member
    · simp only [List.mem_cons,List.not_mem_nil,or_false] at member
      rcases member with rfl | rfl <;> rw [cut _ (by omega)] at low <;> omega
    · split at member
      · simp only [List.mem_cons,List.not_mem_nil,or_false] at member
        rcases member with rfl | rfl | rfl <;> rw [cut _ (by omega)] at low <;> omega
      · simp only [List.mem_cons,List.not_mem_nil,or_false] at member
        rcases member with rfl | rfl | rfl | rfl <;> rw [cut _ (by omega)] at low <;> omega

theorem octets_flatMap (text : List Char) : octets (.ofList text) = text.flatMap String.utf8EncodeChar := by
  simp [octets,List.utf8Encode]

-- An octet below 128 stands for itself.
theorem octet_stands {text : List Char} {octet : UInt8} (member : octet ∈ octets (.ofList text)) (low : octet.toNat < 128) :
    Char.ofNat octet.toNat ∈ text := by
  rw [octets_flatMap] at member
  obtain ⟨char,inside,encoded⟩ := List.mem_flatMap.mp member
  rwa [encoded_low encoded low,Char.ofNat_toNat]

theorem octets_decode (text : List Char) : String.fromUTF8? ⟨(octets (.ofList text)).toArray⟩ = some (.ofList text) := by
  have valid : (⟨(octets (.ofList text)).toArray⟩ : ByteArray) = (String.ofList text).toByteArray := rfl
  rw [valid,String.fromUTF8?,dif_pos (String.ofList text).isValidUTF8]
  rfl

end Octets
end Sigproxy.Library.TextSlices
