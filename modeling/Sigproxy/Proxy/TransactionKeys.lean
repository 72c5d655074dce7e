import Mathlib.Data.String.Basic
import Mathlib.Data.Sym.Sym2.Order
import Sigproxy.Net.AddressText
import Sigproxy.Proxy.HeaderValues
import Sigproxy.Proxy.ResponseRouting

namespace Sigproxy.Proxy.TransactionKeys
open Library Net Affinity

section Keys
variable {Packet Message : Type} (codec : Codec Packet Message)

-- The server's own peers are an IP address and a port. Here the key is made with the text
-- of the whole address that the socket gave.
def clientKeyOf (message : Message) (peer : StdSocketAddr) (method : Method) : Except String (Option String) :=
  udpClientTransactionKey { codec with showSocketAddr := fun _ => peer.display } message peer.socketAddr method

-- A request and what its transaction keys are made of.
structure Identified (message : Message) (branch callId : String) (number : Nat) : Prop where
  branch : codec.topViaBranch message = .ok (some branch)
  request : codec.isResponse message = false
  callId : codec.callIdHeader message = .ok callId
  number : codec.cseqNumber message = .ok number

structure InDialog (message : Message) (callId fromTag toTag : String) : Prop where
  callId : codec.callIdHeader message = .ok callId
  fromTag : codec.fromTag message = some fromTag
  toTag : codec.toTag message = some toTag

end Keys

section Text

theorem trim_free {char : Char} {text : String} (free : char ∉ text.toList) : char ∉ (trim text).toList := by
  have trimmedText := trim_ofList text.toList
  rw [String.ofList_toList] at trimmedText
  rw [trimmedText,String.toList_ofList]
  intro member
  exact free ((Splitter.trimmed_inside isWhiteSpace text.toList).sublist.subset member)

theorem number_free (number : Nat) : ':' ∉ (Nat.repr number).toList := by
  rw [Nat.toList_repr]
  exact not_mem_decimal (by decide) number

theorem number_inj {first second : Nat} : Nat.repr first = Nat.repr second ↔ first = second := by
  rw [← String.toList_inj,Nat.toList_repr,Nat.toList_repr,Numerals.toDigits_inj (by decide) (by decide)]

theorem method_free (method : Method) : ':' ∉ method.asStr.toList := by
  cases method <;> decide

theorem method_inj {first second : Method} : first.asStr = second.asStr ↔ first = second := by
  constructor
  · intro same
    cases first <;> cases second <;> first | rfl | exact absurd same (by decide)
  · intro same
    rw [same]

-- A part without a colon is told from the front of a key, and from its end.
theorem front_part {first second rest other : String} (firstFree : ':' ∉ first.toList) (secondFree : ':' ∉ second.toList) :
    first ++ ":" ++ rest = second ++ ":" ++ other ↔ first = second ∧ rest = other := by
  have parts : first.toList ++ ':' :: rest.toList = second.toList ++ ':' :: other.toList ↔ _ := Fields.front_inj firstFree secondFree
  rw [String.toList_inj,String.toList_inj] at parts
  rw [← parts,← String.toList_inj]
  simp

theorem back_part {first second rest other : String} (firstFree : ':' ∉ first.toList) (secondFree : ':' ∉ second.toList) :
    rest ++ ":" ++ first = other ++ ":" ++ second ↔ rest = other ∧ first = second := by
  have parts : rest.toList ++ ':' :: first.toList = other.toList ++ ':' :: second.toList ↔ _ := Fields.back_inj firstFree secondFree
  rw [String.toList_inj,String.toList_inj] at parts
  rw [← parts,← String.toList_inj]
  simp

theorem peer_part {first second : StdSocketAddr} {rest other : String} :
    first.display ++ ":" ++ rest = second.display ++ ":" ++ other ↔ first.shown = second.shown ∧ rest = other := by
  have parts := text_front first second rest.toList other.toList
  rw [String.toList_inj] at parts
  rw [← parts,← String.toList_inj]
  simp [StdSocketAddr.display]

end Text

section Transactions
variable {Packet Message : Type} {codec : Codec Packet Message}

theorem invite_key_text (identified : Identified codec message branch callId number) :
    inviteTransactionKey codec message = .ok (some (trim branch ++ ":" ++ trim callId ++ ":" ++ Nat.repr number)) := by
  simp only [inviteTransactionKey,identified.branch,identified.request,identified.callId,identified.number]
  rfl

theorem client_key_text (identified : Identified codec message branch callId number) (peer : StdSocketAddr) (method : Method) :
    clientKeyOf codec message peer method =
      .ok (some (peer.display ++ ":" ++ trim branch ++ ":" ++ trim callId ++ ":" ++ Nat.repr number ++ ":" ++ method.asStr)) := by
  simp only [clientKeyOf,udpClientTransactionKey,identified.branch,identified.request,identified.callId,identified.number]
  rfl

-- Where the codec shows a peer as the address it came from, this is the key of the server.
theorem clientKeyOf_server {peer : SocketAddr} (shows : codec.showSocketAddr peer = peer.std.display) (message : Message) (method : Method) :
    udpClientTransactionKey codec message peer method = clientKeyOf codec message peer.std method := by
  rw [clientKeyOf,udpClientTransactionKey,udpClientTransactionKey,shows]

-- Read from the left up to the Call-ID, and from the right back to it.
theorem invite_key_iff (first : Identified codec message branch callId number) (second : Identified codec other otherBranch otherCallId otherNumber)
    (firstFree : ':' ∉ branch.toList) (secondFree : ':' ∉ otherBranch.toList) :
    ∃ key otherKey, inviteTransactionKey codec message = .ok (some key) ∧ inviteTransactionKey codec other = .ok (some otherKey) ∧
      (key = otherKey ↔ trim branch = trim otherBranch ∧ trim callId = trim otherCallId ∧ number = otherNumber) := by
  refine ⟨_,_,invite_key_text first,invite_key_text second,?_⟩
  rw [back_part (number_free _) (number_free _),number_inj,front_part (trim_free firstFree) (trim_free secondFree),and_assoc]

theorem client_key_iff (first : Identified codec message branch callId number) (second : Identified codec other otherBranch otherCallId otherNumber)
    (firstFree : ':' ∉ branch.toList) (secondFree : ':' ∉ otherBranch.toList) (peer otherPeer : StdSocketAddr) (method otherMethod : Method) :
    ∃ key otherKey, clientKeyOf codec message peer method = .ok (some key) ∧
      clientKeyOf codec other otherPeer otherMethod = .ok (some otherKey) ∧
      (key = otherKey ↔ peer.shown = otherPeer.shown ∧ trim branch = trim otherBranch ∧ trim callId = trim otherCallId ∧
        number = otherNumber ∧ method = otherMethod) := by
  have grouped (peer branch callId : String) : peer ++ ":" ++ branch ++ ":" ++ callId = peer ++ ":" ++ (branch ++ ":" ++ callId) := by
    simp only [String.append_assoc]
  refine ⟨_,_,client_key_text first peer method,client_key_text second otherPeer otherMethod,?_⟩
  rw [back_part (method_free _) (method_free _),method_inj,back_part (number_free _) (number_free _),number_inj,grouped,grouped,peer_part,
    front_part (trim_free firstFree) (trim_free secondFree)]
  simp only [and_assoc]

end Transactions

section Dialogs
variable {Packet Message : Type} {codec : Codec Packet Message}

theorem dialog_key_text (dialog : InDialog codec message callId fromTag toTag) : dialogKey codec message =
    .ok (some ⟨"dialog-id:" ++ trim callId ++ ":" ++ (if toTag < fromTag then toTag else fromTag) ++ ":" ++
      (if toTag < fromTag then fromTag else toTag)⟩) := by
  simp only [dialogKey,dialog.callId,dialog.fromTag,dialog.toTag]
  split <;> rfl

theorem dialog_parts {key : AffinityKey} (made : dialogKey codec message = .ok (some key)) :
    ∃ callId fromTag toTag, InDialog codec message callId fromTag toTag := by
  unfold dialogKey at made
  cases named : codec.callIdHeader message with
  | error error =>
      rw [named] at made
      cases made
  | ok callId =>
      rw [named] at made
      cases fromTag : codec.fromTag message with
      | none =>
          simp only [fromTag] at made
          cases made
      | some first =>
          cases toTag : codec.toTag message with
          | none =>
              simp only [fromTag,toTag] at made
              cases made
          | some second => exact ⟨callId,first,second,named,fromTag,toTag⟩

-- Two sorted pairs are the same where the pairs are in any order.
theorem sorted_pairs (first second third fourth : String) :
    (if second < first then second else first) = (if fourth < third then fourth else third) ∧
      (if second < first then first else second) = (if fourth < third then third else fourth) ↔ s(first,second) = s(third,fourth) := by
  have least (left right : String) : (if right < left then right else left) = min left right := by
    split
    · rename_i below
      exact (min_eq_right (le_of_lt below)).symm
    · rename_i above
      exact (min_eq_left (not_lt.mp above)).symm
  have greatest (left right : String) : (if right < left then left else right) = max left right := by
    split
    · rename_i below
      exact (max_eq_left (le_of_lt below)).symm
    · rename_i above
      exact (max_eq_right (not_lt.mp above)).symm
  rw [least,least,greatest,greatest]
  have sorted : s(first,second).inf = s(third,fourth).inf ∧ s(first,second).sup = s(third,fourth).sup ↔ s(first,second) = s(third,fourth) :=
    Sym2.inf_eq_inf_and_sup_eq_sup
  exact sorted

theorem dialog_key_iff (first : InDialog codec message callId fromTag toTag) (second : InDialog codec other otherCallId otherFrom otherTo)
    (firstFree : ':' ∉ fromTag.toList ∧ ':' ∉ toTag.toList) (secondFree : ':' ∉ otherFrom.toList ∧ ':' ∉ otherTo.toList) :
    ∃ key otherKey, dialogKey codec message = .ok (some key) ∧ dialogKey codec other = .ok (some otherKey) ∧
      (key = otherKey ↔ trim callId = trim otherCallId ∧ s(fromTag,toTag) = s(otherFrom,otherTo)) := by
  have eitherFree {left right : String} {condition : Prop} [Decidable condition] (free : ':' ∉ left.toList ∧ ':' ∉ right.toList) :
      ':' ∉ (if condition then left else right).toList := by
    split
    · exact free.1
    · exact free.2
  refine ⟨_,_,dialog_key_text first,dialog_key_text second,?_⟩
  rw [AffinityKey.mk.injEq,back_part (eitherFree firstFree) (eitherFree secondFree),
    back_part (eitherFree firstFree.symm) (eitherFree secondFree.symm),String.append_right_inj,and_assoc,sorted_pairs]

end Dialogs

section Kinds
variable {Packet Message : Type} (codec : Codec Packet Message)

inductive KeyKind where
  | dialogId
  | callId
  | requestUri
  | registrationUpstream
  deriving DecidableEq, Repr

-- The keys that the functions of each kind make.
def KeyKind.Makes : KeyKind → AffinityKey → Prop
  | .dialogId,key => ∃ message, dialogKey codec message = .ok (some key)
  | .callId,key => ∃ message, callIdKey codec message = .ok key
  | .requestUri,key => ∃ message keys, affinityKeys codec .requestUri message = .ok keys ∧ key ∈ keys
  | .registrationUpstream,key => ∃ route, key = registrationUpstreamAffinityKey route

def KeyKind.stem : KeyKind → String
  | .dialogId => "dialog-id:"
  | .callId => "call-id:"
  | .requestUri => "request-uri:"
  | .registrationUpstream => "registration-upstream:"

theorem makes_stem {kind : KeyKind} (made : kind.Makes codec key) : ∃ rest, key.value = kind.stem ++ rest := by
  cases kind with
  | dialogId =>
      obtain ⟨message,made⟩ := made
      obtain ⟨callId,fromTag,toTag,dialog⟩ := dialog_parts made
      rw [dialog_key_text dialog] at made
      cases made
      simp only [String.append_assoc]
      exact ⟨_,rfl⟩
  | callId =>
      obtain ⟨message,made⟩ := made
      unfold callIdKey at made
      cases named : codec.callIdHeader message with
      | error error =>
          rw [named] at made
          cases made
      | ok callId =>
          rw [named] at made
          cases made
          exact ⟨trim callId,rfl⟩
  | requestUri =>
      obtain ⟨message,keys,made,member⟩ := made
      unfold affinityKeys at made
      split at made
      · cases made
        cases member
      · cases made
        rw [List.mem_singleton.mp member]
        exact ⟨_,rfl⟩
  | registrationUpstream =>
      obtain ⟨route,rfl⟩ := made
      exact ⟨route,rfl⟩

def KeyKind.name : KeyKind → String
  | .dialogId => "dialog-id"
  | .callId => "call-id"
  | .requestUri => "request-uri"
  | .registrationUpstream => "registration-upstream"

theorem stem_inj {first second : KeyKind} {rest other : String} (same : first.stem ++ rest = second.stem ++ other) : first = second := by
  have named (kind : KeyKind) (rest : String) : kind.stem ++ rest = kind.name ++ ":" ++ rest := by
    cases kind <;> rfl
  have free (kind : KeyKind) : ':' ∉ kind.name.toList := by
    cases kind <;> decide
  rw [named,named] at same
  have names := ((front_part (free first) (free second)).mp same).1
  cases first <;> cases second <;> first | rfl | exact absurd names (by decide)

theorem kinds_apart {first second : KeyKind} (made : first.Makes codec key) (also : second.Makes codec key) : first = second := by
  obtain ⟨rest,value⟩ := makes_stem codec made
  obtain ⟨other,otherValue⟩ := makes_stem codec also
  exact stem_inj (value.symm.trans otherValue)

end Kinds

-- A padded Call-ID and a flow label are not told apart.
def call (callId : String) : Envelope :=
  ⟨.request "INVITE" "sip:200@example.com" "SIP/2.0",[⟨"z9hG4bK1",none⟩],callId,(1,.invite),"sip:200@example.com",[]⟩

theorem padding_and_flow_merged :
    ("c1" ≠ "c1 " ∧ inviteTransactionKey envelopeCodec (call "c1") = .ok (some "z9hG4bK1:c1:1") ∧
      inviteTransactionKey envelopeCodec (call "c1 ") = .ok (some "z9hG4bK1:c1:1")) ∧
    StdSocketAddr.v6 ⟨1#128,5060#16,0,0⟩ ≠ .v6 ⟨1#128,5060#16,7,0⟩ ∧
      clientKeyOf envelopeCodec (call "c1") (.v6 ⟨1#128,5060#16,0,0⟩) .invite = .ok (some "[::1]:5060:z9hG4bK1:c1:1:INVITE") ∧
      clientKeyOf envelopeCodec (call "c1") (.v6 ⟨1#128,5060#16,7,0⟩) .invite = .ok (some "[::1]:5060:z9hG4bK1:c1:1:INVITE") := by
  decide +kernel

-- What the keys identify: dialogs in either direction, transactions, and their own kind.
theorem keys_identify {Packet Message : Type} (codec : Codec Packet Message) :
    (∀ message other callId fromTag toTag otherCallId otherFrom otherTo, InDialog codec message callId fromTag toTag →
      InDialog codec other otherCallId otherFrom otherTo → ':' ∉ fromTag.toList ∧ ':' ∉ toTag.toList →
      ':' ∉ otherFrom.toList ∧ ':' ∉ otherTo.toList → ∃ key otherKey, dialogKey codec message = .ok (some key) ∧
        dialogKey codec other = .ok (some otherKey) ∧
        (key = otherKey ↔ trim callId = trim otherCallId ∧ s(fromTag,toTag) = s(otherFrom,otherTo))) ∧
    (∀ message other branch callId number otherBranch otherCallId otherNumber, Identified codec message branch callId number →
      Identified codec other otherBranch otherCallId otherNumber → ':' ∉ branch.toList → ':' ∉ otherBranch.toList →
      (∃ key otherKey, inviteTransactionKey codec message = .ok (some key) ∧ inviteTransactionKey codec other = .ok (some otherKey) ∧
        (key = otherKey ↔ trim branch = trim otherBranch ∧ trim callId = trim otherCallId ∧ number = otherNumber)) ∧
      ∀ peer otherPeer method otherMethod, ∃ key otherKey, clientKeyOf codec message peer method = .ok (some key) ∧
        clientKeyOf codec other otherPeer otherMethod = .ok (some otherKey) ∧
        (key = otherKey ↔ peer.shown = otherPeer.shown ∧ trim branch = trim otherBranch ∧ trim callId = trim otherCallId ∧
          number = otherNumber ∧ method = otherMethod)) ∧
    ∀ first second : KeyKind, ∀ key, first.Makes codec key → second.Makes codec key → first = second := by
  refine ⟨?_,?_,?_⟩
  · intro message other callId fromTag toTag otherCallId otherFrom otherTo first second firstFree secondFree
    exact dialog_key_iff first second firstFree secondFree
  · intro message other branch callId number otherBranch otherCallId otherNumber first second firstFree secondFree
    exact ⟨invite_key_iff first second firstFree secondFree,client_key_iff first second firstFree secondFree⟩
  · intro first second key made also
    exact kinds_apart codec made also

end Sigproxy.Proxy.TransactionKeys
