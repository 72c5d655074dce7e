import Sigproxy.Library.Cursor
import Sigproxy.Proxy.Stun

namespace Sigproxy.Proxy.StunMapping
open Library Net

section Parser

def readU16 (octets : List Octet) (index : Nat) : Risky (BitVec 16) := do
  let high ← itemAt octets index
  let low ← itemAt octets (index + 1)
  return high ++ low

def readU32 (octets : List Octet) (index : Nat) : Risky (BitVec 32) := do
  let first ← itemAt octets index
  let second ← itemAt octets (index + 1)
  let third ← itemAt octets (index + 2)
  let fourth ← itemAt octets (index + 3)
  return first ++ second ++ third ++ fourth

-- `is_stun_packet` with its reads: each conjunct is reached where those before it hold.
def readIsStunPacket (packet : List Octet) : Risky Bool :=
  if packet.length < 20 then return false
  else do
    let first ← itemAt packet 0
    if (first &&& 0b11000000#8) ≠ 0#8 then return false
    else
      let cookie ← readU32 packet 4
      if cookie ≠ stunMagicCookie then return false
      else
        let length ← readU16 packet 2
        return decide (20 + length.toNat ≤ packet.length)

-- `copy_from_slice` panics on another length.
def copyFromSlice (size : Nat) (source : List Octet) : Risky (List Octet) :=
  if source.length = size then pure source else ExceptT.mk none

-- The loop that takes the mask off the first octets behind `first`.
def unmask (value mask : List Octet) (first : Nat) : Nat → Risky (List Octet)
  | 0 => return []
  | count + 1 => do
    let octets ← unmask value mask first count
    let octet ← itemAt value (first + count)
    let masked ← itemAt mask count
    return octets ++ [octet ^^^ masked]

def parseStunXorMappedAddr (value transactionId : List Octet) : Risky (Option SocketAddr) :=
  if value.length < 8 ∨ transactionId.length ≠ 12 then return none
  else do
    let family ← itemAt value 1
    let masked ← readU16 value 2
    let port := masked ^^^ stunMagicCookie.extractLsb' 16 16
    if family = 0x01#8 ∧ 8 ≤ value.length then
      let octets ← unmask value (beBytes 4 stunMagicCookie) 4 4
      return some ⟨.v4 (Octets.word 4 octets),port⟩
    else if family = 0x02#8 ∧ 20 ≤ value.length then
      let rest ← copyFromSlice 12 transactionId
      let octets ← unmask value (beBytes 4 stunMagicCookie ++ rest) 4 16
      return some ⟨.v6 (Octets.word 16 octets),port⟩
    else return none

def parseStunPlainMappedAddr (value : List Octet) : Risky (Option SocketAddr) :=
  if value.length < 8 then return none
  else do
    let family ← itemAt value 1
    let port ← readU16 value 2
    if family = 0x01#8 ∧ 8 ≤ value.length then
      let first ← itemAt value 4
      let second ← itemAt value 5
      let third ← itemAt value 6
      let fourth ← itemAt value 7
      return some ⟨.v4 (first ++ second ++ third ++ fourth),port⟩
    else if family = 0x02#8 ∧ 20 ≤ value.length then
      let octets ← slice value 4 20
      return some ⟨.v6 (Octets.word 16 octets),port⟩
    else return none

def parseAttribute (attrType : BitVec 16) (value transactionId : List Octet) : Risky (Option SocketAddr) :=
  if attrType = 0x0020#16 then parseStunXorMappedAddr value transactionId
  else if attrType = 0x0001#16 then parseStunPlainMappedAddr value
  else return none

-- The walk over the attributes: it ends, for each of them moves the offset on. A slice
-- has at most 2^63 octets, so no offset leaves `usize`.
def walkAttributes (packet transactionId : List Octet) (offset : Nat) : Risky (Option SocketAddr) :=
  if inside : offset + 4 ≤ packet.length then do
    let attrType ← readU16 packet offset
    let attrLen ← readU16 packet (offset + 2)
    let valueEnd := offset + 4 + attrLen.toNat
    if packet.length < valueEnd then return none
    else
      let value ← slice packet (offset + 4) valueEnd
      let mapped ← parseAttribute attrType value transactionId
      if mapped.isSome then return mapped
      else walkAttributes packet transactionId (valueEnd + (4 - attrLen.toNat % 4) % 4)
  else return none
termination_by packet.length - offset

def parseStunMappedAddr (packet : List Octet) : Risky (Option SocketAddr) := do
  if !(← readIsStunPacket packet) then return none
  else if (← readU16 packet 0) ≠ 0x0101#16 then return none
  else
    let transactionId ← slice packet 8 20
    walkAttributes packet transactionId 20

end Parser

section Reads
variable {octets : List Octet}

theorem readU16_inside (inside : index + 1 < octets.length) : readU16 octets index = pure (octets.getD index 0 ++ octets.getD (index + 1) 0) := by
  rw [readU16,itemAt_inside (by omega) 0,pure_bind,itemAt_inside inside 0,pure_bind]

theorem readU32_inside (inside : index + 3 < octets.length) : readU32 octets index =
    pure (octets.getD index 0 ++ octets.getD (index + 1) 0 ++ octets.getD (index + 2) 0 ++ octets.getD (index + 3) 0) := by
  rw [readU32,itemAt_inside (by omega) 0,pure_bind,itemAt_inside (by omega) 0,pure_bind,itemAt_inside (by omega) 0,pure_bind,
    itemAt_inside inside 0,pure_bind]

theorem isStunPacket_eq (packet : List Octet) : isStunPacket packet = (decide (20 ≤ packet.length) && (packet.getD 0 0 &&& 0b11000000#8) == 0#8 &&
    packet.getD 4 0 ++ packet.getD (4 + 1) 0 ++ packet.getD (4 + 2) 0 ++ packet.getD (4 + 3) 0 == stunMagicCookie &&
    decide (20 + (packet.getD 2 0 ++ packet.getD (2 + 1) 0).toNat ≤ packet.length)) := rfl

theorem readIsStunPacket_reads (packet : List Octet) : readIsStunPacket packet = pure (isStunPacket packet) := by
  rw [readIsStunPacket,isStunPacket_eq]
  by_cases short : packet.length < 20
  · rw [if_pos short,decide_eq_false (by omega : ¬20 ≤ packet.length)]
    rfl
  · rw [if_neg short,decide_eq_true (by omega : 20 ≤ packet.length),itemAt_inside (by omega) 0,pure_bind,
      readU32_inside (by omega),pure_bind,readU16_inside (by omega),pure_bind]
    by_cases marked : (packet.getD 0 0 &&& 0b11000000#8) = 0#8
    · rw [if_neg (not_not.mpr marked),marked]
      by_cases cookie : packet.getD 4 0 ++ packet.getD (4 + 1) 0 ++ packet.getD (4 + 2) 0 ++ packet.getD (4 + 3) 0 = stunMagicCookie
      · rw [if_neg (not_not.mpr cookie)]
        simp only [cookie,beq_self_eq_true,Bool.true_and]
      · rw [if_pos cookie]
        simp only [beq_false_of_ne cookie,Bool.and_false,Bool.false_and]
    · rw [if_pos marked]
      simp only [beq_false_of_ne marked,Bool.and_false,Bool.false_and]

theorem unmask_inside (value mask : List Octet) (first : Nat) (inside : first + count ≤ value.length) (covered : count ≤ mask.length) :
    unmask value mask first count = pure (List.zipWith (· ^^^ ·) ((value.drop first).take count) (mask.take count)) := by
  induction count with
  | zero => rfl
  | succ count ih =>
      have there : first + count < value.length := by omega
      have here : count < mask.length := by omega
      have behind : count < (value.drop first).length := by rw [List.length_drop]; omega
      rw [unmask,ih (by omega) (by omega),pure_bind,itemAt_inside there 0,pure_bind,itemAt_inside here 0,pure_bind,
        List.take_succ_eq_append_getElem behind,List.take_succ_eq_append_getElem here,List.zipWith_append (by simp; omega),List.getElem_drop]
      simp [List.getD_eq_getElem?_getD,there,here]

end Reads

section Safety

theorem parseStunXorMappedAddr_safe (value transactionId : List Octet) : (parseStunXorMappedAddr value transactionId).Safe := by
  unfold parseStunXorMappedAddr
  split
  · exact Risky.safe_pure none
  · rename_i long
    rw [itemAt_inside (by omega) 0,pure_bind,readU16_inside (by omega),pure_bind]
    split
    · rename_i four
      rw [unmask_inside _ _ _ (by omega) (by decide),pure_bind]
      exact Risky.safe_pure _
    · split
      · rename_i six
        have whole : transactionId.length = 12 := by omega
        rw [copyFromSlice,if_pos whole,pure_bind,unmask_inside _ _ _ (by omega) (by simp [beBytes,whole]),pure_bind]
        exact Risky.safe_pure _
      · exact Risky.safe_pure none

theorem parseStunPlainMappedAddr_safe (value : List Octet) : (parseStunPlainMappedAddr value).Safe := by
  unfold parseStunPlainMappedAddr
  split
  · exact Risky.safe_pure none
  · rename_i long
    rw [itemAt_inside (by omega) 0,pure_bind,readU16_inside (by omega),pure_bind]
    split
    · rw [itemAt_inside (by omega) 0,pure_bind,itemAt_inside (by omega) 0,pure_bind,itemAt_inside (by omega) 0,pure_bind,
        itemAt_inside (by omega) 0,pure_bind]
      exact Risky.safe_pure _
    · split
      · rename_i six
        rw [slice_inside (by decide) six.2,pure_bind]
        exact Risky.safe_pure _
      · exact Risky.safe_pure none

theorem parseAttribute_safe (attrType : BitVec 16) (value transactionId : List Octet) : (parseAttribute attrType value transactionId).Safe := by
  unfold parseAttribute
  split
  · exact parseStunXorMappedAddr_safe value transactionId
  · split
    · exact parseStunPlainMappedAddr_safe value
    · exact Risky.safe_pure none

theorem walkAttributes_safe (packet transactionId : List Octet) (offset : Nat) : (walkAttributes packet transactionId offset).Safe := by
  induction offset using walkAttributes.induct packet with
  | case1 offset inside ih =>
      rw [walkAttributes,dif_pos inside,readU16_inside (by omega),pure_bind,readU16_inside (by omega),pure_bind]
      dsimp only
      split
      · exact Risky.safe_pure none
      · rename_i long
        rw [slice_inside (by omega) (by omega),pure_bind]
        apply Risky.safe_bind (parseAttribute_safe _ _ _)
        intro mapped _
        split
        · exact Risky.safe_pure mapped
        · exact ih _
  | case2 offset outside =>
      rw [walkAttributes,dif_neg outside]
      exact Risky.safe_pure none

-- Where the packet is a STUN packet its reads are in bounds.
theorem parseStunMappedAddr_safe (packet : List Octet) : (parseStunMappedAddr packet).Safe := by
  rw [parseStunMappedAddr,readIsStunPacket_reads,pure_bind]
  split
  · exact Risky.safe_pure none
  · rename_i stun
    have long : 20 ≤ packet.length := by
      simp only [isStunPacket,Bool.not_eq_true',Bool.not_eq_false,Bool.and_eq_true,decide_eq_true_eq] at stun
      exact stun.1.1.1
    rw [readU16_inside (by omega),pure_bind]
    split
    · exact Risky.safe_pure none
    · rw [slice_inside (by decide) long,pure_bind]
      exact walkAttributes_safe _ _ _

end Safety

section Answer

theorem beBytes_bytesOf (n : Nat) (value : BitVec (8 * n)) : beBytes n value = Octets.bytesOf n value := by
  induction n with
  | zero => rfl
  | succ n ih =>
      rw [Octets.bytesOf,← ih,beBytes,List.range_succ,List.map_append,List.map_singleton]
      congr 1
      · apply List.map_congr_left
        intro index below
        rw [List.mem_range] at below
        ext place inside
        simp only [BitVec.getElem_extractLsb',BitVec.getLsbD_extractLsb']
        have within : 8 * (n - 1 - index) + place < 8 * n := by omega
        have same : 8 * (n - index) + place = 8 + (8 * (n - 1 - index) + place) := by omega
        simp [within,same]
      · simp

theorem unmasked (octets mask : List Octet) (covered : octets.length ≤ mask.length) :
    List.zipWith (· ^^^ ·) (List.zipWith (· ^^^ ·) octets mask) mask = octets := by
  induction octets generalizing mask with
  | nil => rfl
  | cons octet octets ih =>
      cases mask with
      | nil => cases covered
      | cons masked mask =>
          rw [List.zipWith_cons_cons,List.zipWith_cons_cons,ih mask (Nat.le_of_succ_le_succ covered),BitVec.xor_assoc,BitVec.xor_self,BitVec.xor_zero]

theorem unmask_back {value octets mask : List Octet} (behind : value.drop first = List.zipWith (· ^^^ ·) octets mask)
    (inside : first + count ≤ value.length) (size : octets.length = count) (covered : mask.length = count) :
    unmask value mask first count = pure octets := by
  have together : (List.zipWith (· ^^^ ·) octets mask).length ≤ count := by
    rw [List.length_zipWith,size,covered,Nat.min_self]
  rw [unmask_inside value mask first inside covered.ge,behind,List.take_of_length_le together,List.take_of_length_le covered.le,
    unmasked octets mask (size.trans covered.symm).le]

theorem word_beBytes (n : Nat) (value : BitVec (8 * n)) : Octets.word n (beBytes n value) = value := by
  rw [beBytes_bytesOf,← List.append_nil (Octets.bytesOf n value),Octets.word_bytesOf]

theorem joined_u16 (value : BitVec 16) : value.extractLsb' 8 8 ++ value.extractLsb' 0 8 = value := BitVec.extractLsb'_append_extractLsb'

-- The value of the answer's attribute, and the header in front of it.
def answerValue (peer : SocketAddr) (transactionId : List Octet) : List Octet :=
  let xorPort := peer.port ^^^ stunMagicCookie.extractLsb' 16 16
  match peer.ip with
  | .v4 ip => [0x00#8,0x01#8] ++ beBytes 2 xorPort ++ List.zipWith (· ^^^ ·) (beBytes 4 ip) (beBytes 4 stunMagicCookie)
  | .v6 ip => [0x00#8,0x02#8] ++ beBytes 2 xorPort ++ List.zipWith (· ^^^ ·) (beBytes 16 ip) (beBytes 4 stunMagicCookie ++ transactionId)

def answerHeader (length : BitVec 16) (transactionId : List Octet) : List Octet :=
  beBytes 2 0x0101#16 ++ beBytes 2 length ++ beBytes 4 stunMagicCookie ++ transactionId

theorem attr_value (peer : SocketAddr) (transactionId : List Octet) : stunXorMappedAddressAttr peer transactionId =
    beBytes 2 0x0020#16 ++ beBytes 2 (BitVec.ofNat 16 (answerValue peer transactionId).length) ++ answerValue peer transactionId := rfl

theorem answerValue_length (peer : SocketAddr) {transactionId : List Octet} (whole : transactionId.length = 12) :
    (answerValue peer transactionId).length = (match peer.ip with | .v4 _ => 8 | .v6 _ => 20) := by
  unfold answerValue
  cases peer.ip <;> simp [beBytes,whole]

theorem parseStunXorMappedAddr_answer (peer : SocketAddr) {transactionId : List Octet} (whole : transactionId.length = 12) :
    parseStunXorMappedAddr (answerValue peer transactionId) transactionId = pure (some peer) := by
  have length := answerValue_length peer whole
  obtain ⟨ip,port⟩ := peer
  have portBack : (port ^^^ stunMagicCookie.extractLsb' 16 16) ^^^ stunMagicCookie.extractLsb' 16 16 = port := by
    rw [BitVec.xor_assoc,BitVec.xor_self,BitVec.xor_zero]
  have masked : ∀ ip : IpAddr, (answerValue ⟨ip,port⟩ transactionId).getD 2 0 ++ (answerValue ⟨ip,port⟩ transactionId).getD (2 + 1) 0 =
      port ^^^ stunMagicCookie.extractLsb' 16 16 := by
    intro ip
    cases ip <;> exact joined_u16 _
  cases ip with
  | v4 ip =>
      have family : (answerValue ⟨.v4 ip,port⟩ transactionId).getD 1 0 = 0x01#8 := rfl
      have behind : (answerValue ⟨.v4 ip,port⟩ transactionId).drop 4 = List.zipWith (· ^^^ ·) (beBytes 4 ip) (beBytes 4 stunMagicCookie) := rfl
      dsimp only at length
      rw [parseStunXorMappedAddr,if_neg (by omega),itemAt_inside (by omega) 0,pure_bind,readU16_inside (by omega),pure_bind,
        if_pos ⟨family,by omega⟩,unmask_back behind (by omega) (by simp [beBytes]) (by simp [beBytes]),pure_bind,masked,portBack,
        word_beBytes 4 ip]
  | v6 ip =>
      have family : (answerValue ⟨.v6 ip,port⟩ transactionId).getD 1 0 = 0x02#8 := rfl
      have behind : (answerValue ⟨.v6 ip,port⟩ transactionId).drop 4 =
          List.zipWith (· ^^^ ·) (beBytes 16 ip) (beBytes 4 stunMagicCookie ++ transactionId) := rfl
      have apart : ¬((answerValue ⟨.v6 ip,port⟩ transactionId).getD 1 0 = 0x01#8 ∧
          8 ≤ (answerValue ⟨.v6 ip,port⟩ transactionId).length) := by
        rw [family]
        exact fun both => absurd both.1 (by decide)
      dsimp only at length
      rw [parseStunXorMappedAddr,if_neg (by omega),itemAt_inside (by omega) 0,pure_bind,readU16_inside (by omega),pure_bind,
        if_neg apart,if_pos ⟨family,by omega⟩,copyFromSlice,if_pos whole,pure_bind,
        unmask_back behind (by omega) (by simp [beBytes]) (by simp [beBytes,whole]),pure_bind,masked,portBack,word_beBytes 16 ip]

theorem answerHeader_length (length : BitVec 16) {transactionId : List Octet} (whole : transactionId.length = 12) :
    (answerHeader length transactionId).length = 20 := by
  simp [answerHeader,beBytes,whole]

-- What stands behind the header is read from there.
theorem getD_behind {place : Nat} {before : List Octet} (here : before.length = place) (after : List Octet) (offset : Nat) :
    (before ++ after).getD (place + offset) 0 = after.getD offset 0 := by
  subst here
  rw [List.getD_eq_getElem?_getD,List.getD_eq_getElem?_getD,List.getElem?_append_right (Nat.le_add_right ..),Nat.add_sub_cancel_left]

theorem answer_isStunPacket {length : BitVec 16} {transactionId attr : List Octet} (whole : transactionId.length = 12)
    (sized : length.toNat = attr.length) :
    isStunPacket (answerHeader length transactionId ++ attr) = true := by
  have total : (answerHeader length transactionId ++ attr).length = 20 + attr.length := by
    rw [List.length_append,answerHeader_length length whole]
  have said : (answerHeader length transactionId ++ attr).getD 2 0 ++ (answerHeader length transactionId ++ attr).getD (2 + 1) 0 = length :=
    joined_u16 length
  have marked : (answerHeader length transactionId ++ attr).getD 0 0 = 0x01#8 := rfl
  have cookie : (answerHeader length transactionId ++ attr).getD 4 0 ++ (answerHeader length transactionId ++ attr).getD (4 + 1) 0 ++
      (answerHeader length transactionId ++ attr).getD (4 + 2) 0 ++ (answerHeader length transactionId ++ attr).getD (4 + 3) 0 = stunMagicCookie := by
    have octets : (beBytes 4 stunMagicCookie).getD 0 0 ++ (beBytes 4 stunMagicCookie).getD 1 0 ++ (beBytes 4 stunMagicCookie).getD 2 0 ++
        (beBytes 4 stunMagicCookie).getD 3 0 = stunMagicCookie := by decide
    exact octets
  rw [isStunPacket_eq,marked,cookie,said,total,sized,decide_eq_true (Nat.le_add_right ..),decide_eq_true (Nat.le_refl _)]
  rfl

theorem walkAttributes_answer (peer : SocketAddr) (length : BitVec 16) {transactionId : List Octet} (whole : transactionId.length = 12) :
    walkAttributes (answerHeader length transactionId ++ stunXorMappedAddressAttr peer transactionId) transactionId 20 = pure (some peer) := by
  have behind := getD_behind (answerHeader_length length whole) (stunXorMappedAddressAttr peer transactionId)
  have valueLength : (answerValue peer transactionId).length ≤ 20 := by
    rw [answerValue_length peer whole]
    split <;> omega
  have total : (answerHeader length transactionId ++ stunXorMappedAddressAttr peer transactionId).length =
      24 + (answerValue peer transactionId).length := by
    rw [List.length_append,answerHeader_length length whole,attr_value]
    simp [beBytes]
    omega
  have attrType : (answerHeader length transactionId ++ stunXorMappedAddressAttr peer transactionId).getD 20 0 ++
      (answerHeader length transactionId ++ stunXorMappedAddressAttr peer transactionId).getD (20 + 1) 0 = 0x0020#16 := by
    rw [behind 0,behind 1]
    exact joined_u16 0x0020#16
  have attrLen : ((answerHeader length transactionId ++ stunXorMappedAddressAttr peer transactionId).getD (20 + 2) 0 ++
      (answerHeader length transactionId ++ stunXorMappedAddressAttr peer transactionId).getD (20 + 2 + 1) 0).toNat =
        (answerValue peer transactionId).length := by
    have joined := congrArg BitVec.toNat (joined_u16 (BitVec.ofNat 16 (answerValue peer transactionId).length))
    rw [BitVec.toNat_ofNat,Nat.mod_eq_of_lt (by omega)] at joined
    rw [behind 2,behind 3]
    exact joined
  have value : ((answerHeader length transactionId ++ stunXorMappedAddressAttr peer transactionId).drop (20 + 4)).take
      (20 + 4 + (answerValue peer transactionId).length - (20 + 4)) = answerValue peer transactionId := by
    rw [Nat.add_sub_cancel_left,attr_value,← List.append_assoc,
      List.drop_left' (by rw [List.length_append,answerHeader_length length whole]; rfl),List.take_length]
  rw [walkAttributes,dif_pos (by omega),readU16_inside (by omega),pure_bind,readU16_inside (by omega),pure_bind,attrType]
  dsimp only
  rw [attrLen,if_neg (by omega),slice_inside (by omega) (by omega),pure_bind,value,parseAttribute,if_pos rfl,
    parseStunXorMappedAddr_answer peer whole,pure_bind,Option.isSome_some,if_pos rfl]

theorem parseStunMappedAddr_answer (peer : SocketAddr) {transactionId : List Octet} (whole : transactionId.length = 12) :
    (parseStunMappedAddr (answerHeader (BitVec.ofNat 16 (stunXorMappedAddressAttr peer transactionId).length) transactionId ++
      stunXorMappedAddressAttr peer transactionId)).Gives (some peer) := by
  have attrLength : (stunXorMappedAddressAttr peer transactionId).length ≤ 24 := by
    rw [attr_value,List.length_append,answerValue_length peer whole]
    split <;> simp [beBytes]
  have sized : (BitVec.ofNat 16 (stunXorMappedAddressAttr peer transactionId).length).toNat =
      (stunXorMappedAddressAttr peer transactionId).length := by
    rw [BitVec.toNat_ofNat,Nat.mod_eq_of_lt (by omega)]
  generalize BitVec.ofNat 16 (stunXorMappedAddressAttr peer transactionId).length = length at sized
  have total : (answerHeader length transactionId ++ stunXorMappedAddressAttr peer transactionId).length =
      20 + (stunXorMappedAddressAttr peer transactionId).length := by
    rw [List.length_append,answerHeader_length length whole]
  have kind : (answerHeader length transactionId ++ stunXorMappedAddressAttr peer transactionId).getD 0 0 ++
      (answerHeader length transactionId ++ stunXorMappedAddressAttr peer transactionId).getD (0 + 1) 0 = 0x0101#16 := joined_u16 0x0101#16
  have named : ((answerHeader length transactionId ++ stunXorMappedAddressAttr peer transactionId).drop 8).take (20 - 8) = transactionId := by
    have fixed : (beBytes 2 0x0101#16 ++ beBytes 2 length ++ beBytes 4 stunMagicCookie).length = 8 := rfl
    rw [answerHeader,List.append_assoc,List.drop_left' fixed,List.take_left' whole]
  rw [parseStunMappedAddr,readIsStunPacket_reads,answer_isStunPacket whole sized,pure_bind,Bool.not_true,if_neg Bool.false_ne_true,
    readU16_inside (by omega),pure_bind,kind,if_neg (not_not.mpr rfl),slice_inside (by decide) (by omega),pure_bind,named,
    walkAttributes_answer peer length whole]
  exact Risky.gives_pure.mpr rfl

end Answer

-- The answer to a binding request tells the peer its address, and no octets make the
-- parser read out of bounds.
theorem stun_answer_parsed : (∀ packet peer, isStunPacket packet = true → stunType packet = 0x0001#16 →
      ∃ response, stunBindingSuccessResponse packet peer = some response ∧ (parseStunMappedAddr response).Gives (some peer)) ∧
    ∀ packet, (parseStunMappedAddr packet).Safe := by
  refine ⟨fun packet peer stun binding => ?_,parseStunMappedAddr_safe⟩
  have long : 20 ≤ packet.length := by
    rw [isStunPacket_eq,Bool.and_eq_true,Bool.and_eq_true,Bool.and_eq_true,decide_eq_true_eq] at stun
    exact stun.1.1.1
  have whole : ((packet.drop 8).take 12).length = 12 := by
    rw [List.length_take,List.length_drop]
    omega
  have answered : stunBindingSuccessResponse packet peer = some (answerHeader (BitVec.ofNat 16 (stunXorMappedAddressAttr peer
      ((packet.drop 8).take 12)).length) ((packet.drop 8).take 12) ++ stunXorMappedAddressAttr peer ((packet.drop 8).take 12)) := by
    rw [stunBindingSuccessResponse,stun,binding]
    rfl
  rw [answered]
  generalize (packet.drop 8).take 12 = transactionId at whole
  exact ⟨_,rfl,parseStunMappedAddr_answer peer whole⟩

end Sigproxy.Proxy.StunMapping
