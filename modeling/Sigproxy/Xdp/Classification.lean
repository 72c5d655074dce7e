import Sigproxy.Xdp.Parsing

namespace Sigproxy.Xdp
open Library Library.Octets Net

section Frames

inductive TagProtocol where
  | customer
  | service
  deriving DecidableEq, Repr

def TagProtocol.ethertype : TagProtocol → BitVec 16
  | .customer => ethP8021q
  | .service => ethP8021ad

structure VlanTag where
  protocol : TagProtocol
  control : BitVec 16
  deriving DecidableEq, Repr

structure UdpHeader where
  source : BitVec 16
  dest : BitVec 16
  length : BitVec 16
  checksum : BitVec 16

def UdpHeader.encode (header : UdpHeader) : List Octet :=
  bytesOf 2 header.source ++ bytesOf 2 header.dest ++ bytesOf 2 header.length ++ bytesOf 2 header.checksum

-- The flags between the data offset and the window, in their order on the wire.
structure TcpHeader where
  source : BitVec 16
  dest : BitVec 16
  sequence : BitVec 32
  acknowledgment : BitVec 32
  offset : BitVec 8
  congestion : BitVec 2
  urg : Bool
  ack : Bool
  psh : Bool
  rst : Bool
  syn : Bool
  fin : Bool
  window : BitVec 16
  checksum : BitVec 16
  urgent : BitVec 16

def TcpHeader.flags (header : TcpHeader) : BitVec 8 :=
  header.congestion ++ BitVec.ofBool header.urg ++ BitVec.ofBool header.ack ++ BitVec.ofBool header.psh ++ BitVec.ofBool header.rst ++
    BitVec.ofBool header.syn ++ BitVec.ofBool header.fin

def TcpHeader.encode (header : TcpHeader) : List Octet :=
  bytesOf 2 header.source ++ bytesOf 2 header.dest ++ bytesOf 4 header.sequence ++ bytesOf 4 header.acknowledgment ++
    [header.offset,header.flags] ++ bytesOf 2 header.window ++ bytesOf 2 header.checksum ++ bytesOf 2 header.urgent

-- What an IP packet carries for us to look at; nothing of an ICMP header matters.
inductive Transport where
  | udp (header : UdpHeader)
  | tcp (header : TcpHeader)
  | icmp (header : Vector Octet 8)

def Transport.encode : Transport → List Octet
  | .udp header => header.encode
  | .tcp header => header.encode
  | .icmp header => header.toList

structure Ipv4Header where
  service : Octet
  totalLength : BitVec 16
  identification : BitVec 16
  flags : BitVec 3
  fragmentOffset : BitVec 13
  timeToLive : Octet
  checksum : BitVec 16
  source : BitVec 32
  dest : BitVec 32
  options : List (BitVec 32)
  short : options.length ≤ 10

def Ipv4Header.encode (header : Ipv4Header) (protocol : Octet) : List Octet :=
  [4#4 ++ BitVec.ofNat 4 (5 + header.options.length),header.service] ++ bytesOf 2 header.totalLength ++ bytesOf 2 header.identification ++
    bytesOf 2 (header.flags ++ header.fragmentOffset) ++ [header.timeToLive,protocol] ++ bytesOf 2 header.checksum ++
    bytesOf 4 header.source ++ bytesOf 4 header.dest ++ header.options.flatMap (bytesOf 4)

inductive OptionsKind where
  | hopByHop
  | routing
  | destination
  deriving DecidableEq, Repr

def OptionsKind.number : OptionsKind → Octet
  | .hopByHop => ipprotoHopopts
  | .routing => ipprotoRouting
  | .destination => ipprotoDstopts

inductive Extension where
  | options (kind : OptionsKind) (length : Octet) (body : Vector Octet (length.toNat * 8 + 6))
  | authentication (length : Octet) (body : Vector Octet (length.toNat * 4 + 6))
  | fragment (reserved : Octet) (offset : BitVec 13) (flags : BitVec 3) (identification : BitVec 32)

def Extension.number : Extension → Octet
  | .options kind _ _ => kind.number
  | .authentication _ _ => ipprotoAh
  | .fragment _ _ _ _ => ipprotoFragment

def Extension.encode (extension : Extension) (next : Octet) : List Octet :=
  match extension with
  | .options _ length body => [next,length] ++ body.toList
  | .authentication length body => [next,length] ++ body.toList
  | .fragment reserved offset flags identification => [next,reserved] ++ bytesOf 2 (offset ++ flags) ++ bytesOf 4 identification

def Extension.laterFragment : Extension → Prop
  | .fragment _ offset _ _ => offset ≠ 0
  | _ => False

-- Each header names the protocol of the one behind it.
def leading (extensions : List Extension) (protocol : Octet) : Octet := (extensions.head?.map (·.number)).getD protocol

def encodeExtensions : List Extension → Octet → List Octet
  | [],_ => []
  | extension :: rest,protocol => extension.encode (leading rest protocol) ++ encodeExtensions rest protocol

structure Ipv6Header where
  trafficClass : BitVec 8
  flowLabel : BitVec 20
  payloadLength : BitVec 16
  hopLimit : Octet
  source : BitVec 128
  dest : BitVec 128
  extensions : List Extension

def Ipv6Header.encode (header : Ipv6Header) (protocol : Octet) : List Octet :=
  bytesOf 4 (6#4 ++ header.trafficClass ++ header.flowLabel) ++ bytesOf 2 header.payloadLength ++
    [leading header.extensions protocol,header.hopLimit] ++ bytesOf 16 header.source ++ bytesOf 16 header.dest ++
    encodeExtensions header.extensions protocol

inductive IpHeader where
  | v4 (header : Ipv4Header)
  | v6 (header : Ipv6Header)

namespace IpHeader

def ethertype : IpHeader → BitVec 16
  | .v4 _ => ethPIp
  | .v6 _ => ethPIpv6

def encode : IpHeader → Octet → List Octet
  | .v4 header => header.encode
  | .v6 header => header.encode

def src : IpHeader → IpAddr
  | .v4 header => .v4 header.source
  | .v6 header => .v6 header.source

-- A fragment other than the first one of its packet.
def laterFragment : IpHeader → Prop
  | .v4 header => header.fragmentOffset ≠ 0
  | .v6 header => ∃ extension ∈ header.extensions, extension.laterFragment

-- The extension headers that an IPv6 packet may have for its transport to be found.
def shallow : IpHeader → Prop
  | .v4 _ => True
  | .v6 header => header.extensions.length < maxIpv6ExtHeaders

-- The control protocol of either family has its own number.
def protocolOf : IpHeader → Transport → Octet
  | _,.udp _ => xdpProtoUdp
  | _,.tcp _ => xdpProtoTcp
  | .v4 _,.icmp _ => xdpProtoIcmp
  | .v6 _,.icmp _ => ipprotoIcmpv6

end IpHeader

structure Frame where
  hardware : Vector Octet 12
  tags : List VlanTag
  ip : IpHeader
  protocol : Octet
  payload : List Octet
  tagged : tags.length ≤ maxVlanDepth

def encodeTags : List VlanTag → BitVec 16 → List Octet
  | [],ethertype => bytesOf 2 ethertype
  | tag :: rest,ethertype => bytesOf 2 tag.protocol.ethertype ++ bytesOf 2 tag.control ++ encodeTags rest ethertype

def Frame.encode (frame : Frame) : List Octet :=
  frame.hardware.toList ++ encodeTags frame.tags frame.ip.ethertype ++ frame.ip.encode frame.protocol ++ frame.payload

end Frames

section Truth

def TcpHeader.packetClass (header : TcpHeader) : PacketClass :=
  match header.syn,header.ack with
  | true,false => .tcpSynFlood
  | false,true => .tcpAckFlood
  | _,_ => .tcpFlood

-- Control messages of both families come under the one protocol that a listener
-- policy knows for them.
def Transport.packet (src : IpAddr) : Transport → XdpPacket
  | .udp header => ⟨xdpProtoUdp,header.dest,src,.udpFlood⟩
  | .tcp header => ⟨xdpProtoTcp,header.dest,src,header.packetClass⟩
  | .icmp _ => ⟨xdpProtoIcmp,0,src,.icmpFlood⟩

structure Frame.Carries (frame : Frame) (transport : Transport) : Prop where
  protocol : frame.protocol = frame.ip.protocolOf transport
  header : ∃ data, frame.payload = transport.encode ++ data

-- A first fragment is evaluated as what it carries, and a later one not at all.
structure Frame.Classified (frame : Frame) : Prop where
  first : ¬ frame.ip.laterFragment → frame.ip.shallow → ∀ transport, frame.Carries transport →
    evaluated frame.encode = some (transport.packet frame.ip.src)
  later : frame.ip.laterFragment → evaluated frame.encode = none

end Truth

section Reading
variable {frame : Frame} {src : IpAddr} {header : Ipv4Header} {protocol : Octet} {payload : List Octet}

def leadingType (tags : List VlanTag) (ethertype : BitVec 16) : BitVec 16 := (tags.head?.map (·.protocol.ethertype)).getD ethertype

theorem encodeTags_head (tags : List VlanTag) (ethertype : BitVec 16) (rest : List Octet) :
    ∃ behind, encodeTags tags ethertype ++ rest = bytesOf 2 (leadingType tags ethertype) ++ behind := by
  cases tags with
  | nil => exact ⟨rest,rfl⟩
  | cons tag tags => exact ⟨bytesOf 2 tag.control ++ encodeTags tags ethertype ++ rest,by simp [encodeTags,leadingType]⟩

theorem parseVlan_encode (tags : List VlanTag) (fits : tags.length ≤ depth) (plain : ethertype ≠ ethP8021q ∧ ethertype ≠ ethP8021ad)
    (rest : List Octet) :
    parseVlan depth (leadingType tags ethertype) ((encodeTags tags ethertype ++ rest).drop 2) = some (ethertype,rest) := by
  induction tags generalizing depth with
  | nil =>
      have behind : (encodeTags [] ethertype ++ rest).drop 2 = rest := List.drop_left' (length_bytesOf 2 ethertype)
      rw [behind]
      cases depth with
      | zero => rfl
      | succ depth => exact if_pos plain
  | cons tag tags ih =>
      obtain ⟨depth,rfl⟩ : ∃ less, depth = less + 1 := ⟨depth - 1,by rw [List.length_cons] at fits; omega⟩
      have vlan : ¬ (tag.protocol.ethertype ≠ ethP8021q ∧ tag.protocol.ethertype ≠ ethP8021ad) := by
        cases tag.protocol <;> decide
      have behind : (encodeTags (tag :: tags) ethertype ++ rest).drop 2 =
          bytesOf 2 tag.control ++ (encodeTags tags ethertype ++ rest) := by
        simp only [encodeTags,List.append_assoc]
        exact List.drop_left' (length_bytesOf 2 _)
      obtain ⟨further,next⟩ := encodeTags_head tags ethertype rest
      have long : ¬ (bytesOf 2 tag.control ++ (encodeTags tags ethertype ++ rest)).length < 4 := by
        rw [next]
        simp only [List.length_append,length_bytesOf]
        omega
      have inner : (bytesOf 2 tag.control ++ (encodeTags tags ethertype ++ rest)).drop 2 = encodeTags tags ethertype ++ rest :=
        List.drop_left' (length_bytesOf 2 _)
      have outer : (bytesOf 2 tag.control ++ (encodeTags tags ethertype ++ rest)).drop 4 = (encodeTags tags ethertype ++ rest).drop 2 := by
        rw [← congrArg (List.drop 2) inner,List.drop_drop]
      rw [behind]
      change (if _ then _ else _) = _
      rw [leadingType,List.head?_cons,Option.map_some,Option.getD_some,if_neg vlan,if_neg long,inner,outer,next,word_bytesOf,← next]
      exact ih (by rw [List.length_cons] at fits; omega)

theorem parseEth_encode (frame : Frame) :
    parseEth frame.encode = some (frame.ip.ethertype,frame.ip.encode frame.protocol ++ frame.payload) := by
  have plain : frame.ip.ethertype ≠ ethP8021q ∧ frame.ip.ethertype ≠ ethP8021ad := by
    cases frame.ip with
    | v4 => exact (by decide : ethPIp ≠ ethP8021q ∧ ethPIp ≠ ethP8021ad)
    | v6 => exact (by decide : ethPIpv6 ≠ ethP8021q ∧ ethPIpv6 ≠ ethP8021ad)
  obtain ⟨behind,leads⟩ := encodeTags_head frame.tags frame.ip.ethertype (frame.ip.encode frame.protocol ++ frame.payload)
  have whole : frame.encode = frame.hardware.toList ++
      (encodeTags frame.tags frame.ip.ethertype ++ (frame.ip.encode frame.protocol ++ frame.payload)) := by
    simp [Frame.encode]
  have inside : frame.encode.drop 12 = encodeTags frame.tags frame.ip.ethertype ++ (frame.ip.encode frame.protocol ++ frame.payload) := by
    rw [whole]
    exact List.drop_left' (by simp)
  have long : ¬ frame.encode.length < 14 := by
    rw [whole,leads]
    simp only [List.length_append,length_bytesOf,Vector.length_toList]
    omega
  have further : frame.encode.drop 14 = (frame.encode.drop 12).drop 2 := by rw [List.drop_drop]
  rw [parseEth,if_neg long,further,inside,leads,word_bytesOf,← leads]
  exact parseVlan_encode frame.tags frame.tagged plain _

theorem Ipv4Header.encode_length (header : Ipv4Header) (protocol : Octet) :
    (header.encode protocol).length = (5 + header.options.length) * 4 := by
  have words : (header.options.flatMap (bytesOf 4)).length = header.options.length * 4 := by
    rw [List.length_flatMap]
    simp
  simp only [Ipv4Header.encode,List.length_append,length_bytesOf,words,List.length_cons,List.length_nil]
  omega

theorem Ipv4Header.ihl_encode (header : Ipv4Header) (protocol : Octet) (rest : List Octet) :
    (((header.encode protocol ++ rest).getD 0 0).extractLsb' 0 4).toNat = 5 + header.options.length := by
  have first : (header.encode protocol ++ rest).getD 0 0 = 4#4 ++ BitVec.ofNat 4 (5 + header.options.length) := rfl
  rw [first,BitVec.extractLsb'_append_eq_right,BitVec.toNat_ofNat]
  have short := header.short
  omega

theorem Ipv4Header.protocol_encode (header : Ipv4Header) (protocol : Octet) (rest : List Octet) :
    (header.encode protocol ++ rest).getD 9 0 = protocol := by
  have before : header.encode protocol ++ rest = ([4#4 ++ BitVec.ofNat 4 (5 + header.options.length),header.service] ++
      bytesOf 2 header.totalLength ++ bytesOf 2 header.identification ++ bytesOf 2 (header.flags ++ header.fragmentOffset) ++
      [header.timeToLive]) ++ protocol :: (bytesOf 2 header.checksum ++ bytesOf 4 header.source ++ bytesOf 4 header.dest ++
      header.options.flatMap (bytesOf 4) ++ rest) := by
    simp [Ipv4Header.encode]
  rw [before]
  exact octet_after (by simp) protocol

theorem Ipv4Header.source_encode (header : Ipv4Header) (protocol : Octet) (rest : List Octet) :
    word 4 ((header.encode protocol ++ rest).drop 12) = header.source := by
  have before : header.encode protocol ++ rest = ([4#4 ++ BitVec.ofNat 4 (5 + header.options.length),header.service] ++
      bytesOf 2 header.totalLength ++ bytesOf 2 header.identification ++ bytesOf 2 (header.flags ++ header.fragmentOffset) ++
      [header.timeToLive,protocol] ++ bytesOf 2 header.checksum) ++ (bytesOf 4 header.source ++ (bytesOf 4 header.dest ++
      header.options.flatMap (bytesOf 4) ++ rest)) := by
    simp [Ipv4Header.encode]
  rw [before]
  exact word_after (by simp) 4 _

theorem evaluated_v4 (is4 : frame.ip = .v4 header) : evaluated frame.encode =
    if frame.protocol = xdpProtoUdp then udpPacket (.v4 header.source) frame.payload
    else if frame.protocol = xdpProtoTcp then tcpPacket (.v4 header.source) frame.payload
    else if frame.protocol = xdpProtoIcmp then icmpPacket (.v4 header.source) frame.payload
    else none := by
  have length := header.encode_length frame.protocol
  have long : ¬ (header.encode frame.protocol ++ frame.payload).length < 20 := by
    rw [List.length_append]
    omega
  have whole : ¬ (header.encode frame.protocol ++ frame.payload).length < (5 + header.options.length) * 4 := by
    rw [List.length_append]
    omega
  have behind : (header.encode frame.protocol ++ frame.payload).drop ((5 + header.options.length) * 4) = frame.payload :=
    List.drop_left' length
  unfold evaluated
  rw [parseEth_encode,is4]
  simp only [IpHeader.ethertype,IpHeader.encode,if_true,if_neg long,header.ihl_encode,header.protocol_encode,header.source_encode,
    if_neg whole,behind,if_neg (show ¬ 5 + header.options.length < 5 by omega)]

theorem fragment_later (offset : BitVec 13) (flags : BitVec 3) : (offset ++ flags) &&& 0xfff8#16 ≠ 0 ↔ offset ≠ 0 := by
  have mask : (0xfff8#16 : BitVec (13 + 3)) = BitVec.allOnes 13 ++ 0#3 := by decide
  have zero : (0 : BitVec (13 + 3)) = 0#13 ++ 0#3 := by decide
  rw [mask,BitVec.and_append,BitVec.and_allOnes,BitVec.and_zero,zero,not_iff_not,BitVec.append_left_inj]
  rfl

theorem sized_header (next length : Octet) (body : Vector Octet size) (whole : len = size + 2) (rest : List Octet) :
    ¬ ([next,length] ++ body.toList ++ rest).length < 2 ∧ ¬ ([next,length] ++ body.toList ++ rest).length < len ∧
      ([next,length] ++ body.toList ++ rest).drop len = rest := by
  have own : ([next,length] ++ body.toList).length = len := by
    rw [List.length_append,Vector.length_toList,whole,List.length_cons,List.length_singleton]
    omega
  refine ⟨?_,?_,List.drop_left' own⟩ <;> rw [List.length_append,own] <;> omega

theorem fragment_header (next reserved : Octet) (offsets : BitVec 16) (identification : BitVec 32) (rest : List Octet) :
    let cursor := [next,reserved] ++ bytesOf 2 offsets ++ bytesOf 4 identification ++ rest
    ¬ cursor.length < 8 ∧ word 2 (cursor.drop 2) = offsets ∧ cursor.drop 8 = rest := by
  have own : ([next,reserved] ++ bytesOf 2 offsets ++ bytesOf 4 identification).length = 8 := by simp
  refine ⟨?_,?_,List.drop_left' own⟩
  · rw [List.length_append,own]
    omega
  · rw [List.append_assoc,List.append_assoc]
    exact word_after (by simp) 2 offsets

-- One round of the loop goes past a header.
theorem parseIpv6L4_past (extension : Extension) (first : ¬ extension.laterFragment) (count : Nat) (next : Octet) (rest : List Octet) :
    parseIpv6L4 (count + 1) extension.number (extension.encode next ++ rest) = parseIpv6L4 count next rest := by
  cases extension with
  | options kind length body =>
      have known : kind.number = ipprotoHopopts ∨ kind.number = ipprotoRouting ∨ kind.number = ipprotoDstopts := by
        cases kind <;> decide
      have other : ¬ (kind.number = xdpProtoUdp ∨ kind.number = xdpProtoTcp) := by
        cases kind <;> decide
      have size : (length.toNat + 1) * 8 = length.toNat * 8 + 6 + 2 := by omega
      obtain ⟨begun,whole,behind⟩ := sized_header next length body size rest
      rw [parseIpv6L4,Extension.number,if_neg other,if_pos known,Extension.encode,if_neg begun]
      exact (if_neg whole).trans (congrArg (parseIpv6L4 count next) behind)
  | authentication length body =>
      have size : (length.toNat + 2) * 4 = length.toNat * 4 + 6 + 2 := by omega
      obtain ⟨begun,whole,behind⟩ := sized_header next length body size rest
      rw [parseIpv6L4,Extension.number,if_neg (by decide),if_neg (by decide),if_pos rfl,Extension.encode,if_neg begun]
      exact (if_neg whole).trans (congrArg (parseIpv6L4 count next) behind)
  | fragment reserved offset flags identification =>
      have unshifted : ¬ (offset ++ flags) &&& 0xfff8#16 ≠ 0 := fun shifted => first ((fragment_later offset flags).mp shifted)
      rw [parseIpv6L4,Extension.number,if_neg (by decide),if_neg (by decide),if_neg (by decide),if_pos rfl,Extension.encode]
      obtain ⟨begun,offsets,behind⟩ := fragment_header next reserved (offset ++ flags) identification rest
      rw [if_neg begun,offsets,if_neg unshifted,behind]
      rfl

theorem parseIpv6L4_later (extension : Extension) (later : extension.laterFragment) (count : Nat) (next : Octet) (rest : List Octet) :
    parseIpv6L4 count extension.number (extension.encode next ++ rest) = none := by
  cases count with
  | zero => rfl
  | succ count =>
      cases extension with
      | options => exact later.elim
      | authentication => exact later.elim
      | fragment reserved offset flags identification =>
          obtain ⟨begun,offsets,_⟩ := fragment_header next reserved (offset ++ flags) identification rest
          rw [parseIpv6L4,Extension.number,if_neg (by decide),if_neg (by decide),if_neg (by decide),if_pos rfl,Extension.encode,
            if_neg begun,offsets]
          exact if_pos ((fragment_later offset flags).mpr later)

theorem parseIpv6L4_laterFragment (extensions : List Extension) (later : ∃ extension ∈ extensions, extension.laterFragment) (count : Nat)
    (protocol : Octet) (rest : List Octet) :
    parseIpv6L4 count (leading extensions protocol) (encodeExtensions extensions protocol ++ rest) = none := by
  induction extensions generalizing count with
  | nil =>
      obtain ⟨_,member,_⟩ := later
      cases member
  | cons extension extensions ih =>
      rw [leading,List.head?_cons,Option.map_some,Option.getD_some,encodeExtensions,List.append_assoc]
      by_cases own : extension.laterFragment
      · exact parseIpv6L4_later extension own count _ _
      · cases count with
        | zero => rfl
        | succ count =>
            rw [parseIpv6L4_past extension own]
            obtain ⟨other,member,broken⟩ := later
            rcases List.mem_cons.mp member with rfl | behind
            · exact (own broken).elim
            · exact ih ⟨other,behind,broken⟩ count

theorem parseIpv6L4_chain (extensions : List Extension) (first : ¬ ∃ extension ∈ extensions, extension.laterFragment) (count : Nat)
    (protocol : Octet) (rest : List Octet) :
    parseIpv6L4 (extensions.length + count) (leading extensions protocol) (encodeExtensions extensions protocol ++ rest) =
      parseIpv6L4 count protocol rest := by
  induction extensions with
  | nil => rw [List.length_nil,Nat.zero_add]; rfl
  | cons extension extensions ih =>
      have own : ¬ extension.laterFragment := fun broken => first ⟨extension,List.mem_cons_self,broken⟩
      rw [leading,List.head?_cons,Option.map_some,Option.getD_some,encodeExtensions,List.append_assoc,List.length_cons,Nat.add_right_comm,
        parseIpv6L4_past extension own]
      exact ih fun ⟨other,behind,broken⟩ => first ⟨other,List.mem_cons_of_mem _ behind,broken⟩

theorem evaluated_v6 {header : Ipv6Header} (is6 : frame.ip = .v6 header) : evaluated frame.encode =
    match parseIpv6L4 maxIpv6ExtHeaders (leading header.extensions frame.protocol)
      (encodeExtensions header.extensions frame.protocol ++ frame.payload) with
    | none => none
    | some (nexthdr,cursor) =>
      if nexthdr = xdpProtoUdp then udpPacket (.v6 header.source) cursor
      else if nexthdr = xdpProtoTcp then tcpPacket (.v6 header.source) cursor
      else if nexthdr = ipprotoIcmpv6 then icmpPacket (.v6 header.source) cursor
      else none := by
  let fixed := bytesOf 4 (6#4 ++ header.trafficClass ++ header.flowLabel) ++ bytesOf 2 header.payloadLength ++
    [leading header.extensions frame.protocol,header.hopLimit] ++ bytesOf 16 header.source ++ bytesOf 16 header.dest
  let behind := encodeExtensions header.extensions frame.protocol ++ frame.payload
  have split : header.encode frame.protocol ++ frame.payload = fixed ++ behind := List.append_assoc ..
  have size : fixed.length = 40 := by simp [fixed]
  have long : ¬ (fixed ++ behind).length < 40 := by
    rw [List.length_append,size]
    omega
  have next : (fixed ++ behind).getD 6 0 = leading header.extensions frame.protocol := by
    simp only [fixed,List.append_assoc]
    rw [← List.append_assoc]
    exact octet_after (by simp) _
  have source : word 16 ((fixed ++ behind).drop 8) = header.source := by
    have before : fixed ++ behind = (bytesOf 4 (6#4 ++ header.trafficClass ++ header.flowLabel) ++ bytesOf 2 header.payloadLength ++
        [leading header.extensions frame.protocol,header.hopLimit]) ++ (bytesOf 16 header.source ++ (bytesOf 16 header.dest ++ behind)) := by
      simp [fixed]
    rw [before]
    exact word_after (by simp) 16 _
  have cursor : (fixed ++ behind).drop 40 = behind := List.drop_left' size
  have other : ¬ ethPIpv6 = ethPIp := by decide
  unfold evaluated
  rw [parseEth_encode,is6]
  simp only [IpHeader.ethertype,IpHeader.encode,split,if_neg other,if_true,if_neg long,next,source,cursor]
  rfl

theorem udpPacket_encode (src : IpAddr) (header : UdpHeader) (rest : List Octet) :
    udpPacket src (header.encode ++ rest) = some (Transport.packet src (.udp header)) := by
  have long : ¬ (header.encode ++ rest).length < 8 := by
    simp only [UdpHeader.encode,List.length_append,length_bytesOf]
    omega
  have dest : word 2 ((header.encode ++ rest).drop 2) = header.dest := by
    simp only [UdpHeader.encode,List.append_assoc]
    exact word_after (length_bytesOf 2 _) 2 _
  rw [udpPacket,if_neg long,dest]
  rfl

theorem TcpHeader.flags_syn (header : TcpHeader) : header.flags.getLsbD 1 = header.syn := by
  simp only [TcpHeader.flags,BitVec.getLsbD_append]
  simp

theorem TcpHeader.flags_ack (header : TcpHeader) : header.flags.getLsbD 4 = header.ack := by
  simp only [TcpHeader.flags,BitVec.getLsbD_append]
  simp

theorem tcpPacket_encode (src : IpAddr) (header : TcpHeader) (rest : List Octet) :
    tcpPacket src (header.encode ++ rest) = some (Transport.packet src (.tcp header)) := by
  have long : ¬ (header.encode ++ rest).length < 20 := by
    simp only [TcpHeader.encode,List.length_append,length_bytesOf,List.length_cons]
    omega
  have dest : word 2 ((header.encode ++ rest).drop 2) = header.dest := by
    simp only [TcpHeader.encode,List.append_assoc]
    exact word_after (length_bytesOf 2 _) 2 _
  have flags : (header.encode ++ rest).getD 13 0 = header.flags := by
    have before : header.encode ++ rest = (bytesOf 2 header.source ++ bytesOf 2 header.dest ++ bytesOf 4 header.sequence ++
        bytesOf 4 header.acknowledgment ++ [header.offset]) ++ header.flags :: (bytesOf 2 header.window ++ bytesOf 2 header.checksum ++
        bytesOf 2 header.urgent ++ rest) := by
      simp [TcpHeader.encode]
    rw [before]
    exact octet_after (by simp) _
  have classed : tcpPacketClass header.syn header.ack = header.packetClass := by
    unfold tcpPacketClass TcpHeader.packetClass
    cases header.syn <;> cases header.ack <;> rfl
  simp only [tcpPacket,if_neg long,dest,flags,header.flags_syn,header.flags_ack,classed]
  rfl

theorem icmpPacket_encode (src : IpAddr) (header : Vector Octet 8) (rest : List Octet) :
    icmpPacket src (header.toList ++ rest) = some (Transport.packet src (.icmp header)) := by
  have long : ¬ (header.toList ++ rest).length < icmpMinHeaderBytes := by simp [icmpMinHeaderBytes]
  rw [icmpPacket,if_neg long]
  rfl

end Reading

section Exactness
variable {frame : Frame} {header : Ipv4Header} {header6 : Ipv6Header}

-- What the program wants to see of a protocol that it knows in an IPv4 packet.
def transportBytes (protocol : Octet) : Option Nat :=
  if protocol = xdpProtoUdp then some 8
  else if protocol = xdpProtoTcp then some 20
  else if protocol = xdpProtoIcmp then some icmpMinHeaderBytes
  else none

-- A later IPv4 fragment is too short to be taken for the start of what it is a part of,
-- and no IPv6 packet carries a control message.
def Frame.Plain (frame : Frame) : Prop :=
  match frame.ip with
  | .v4 header => header.fragmentOffset ≠ 0 → ∀ bytes, transportBytes frame.protocol = some bytes → frame.payload.length < bytes
  | .v6 _ => ¬ frame.ip.laterFragment → frame.ip.shallow → frame.protocol = ipprotoIcmpv6 → frame.payload.length < icmpMinHeaderBytes

theorem evaluated_v4_carries (is4 : frame.ip = .v4 header) {transport : Transport} (carries : frame.Carries transport) :
    evaluated frame.encode = some (transport.packet frame.ip.src) := by
  obtain ⟨protocol,data,payload⟩ := carries
  rw [is4] at protocol
  rw [evaluated_v4 is4,protocol,payload,is4]
  cases transport with
  | udp => exact (if_pos rfl).trans (udpPacket_encode ..)
  | tcp =>
      have other : ¬ xdpProtoTcp = xdpProtoUdp := by decide
      exact (if_neg other).trans ((if_pos rfl).trans (tcpPacket_encode ..))
  | icmp =>
      have other : ¬ xdpProtoIcmp = xdpProtoUdp ∧ ¬ xdpProtoIcmp = xdpProtoTcp := by decide
      exact (if_neg other.1).trans ((if_neg other.2).trans ((if_pos rfl).trans (icmpPacket_encode ..)))

theorem evaluated_v4_none (is4 : frame.ip = .v4 header) : evaluated frame.encode = none ↔
    ∀ bytes, transportBytes frame.protocol = some bytes → frame.payload.length < bytes := by
  rw [evaluated_v4 is4]
  unfold transportBytes
  split
  · simp [udpPacket]
  · split
    · simp [tcpPacket]
    · split
      · simp [icmpPacket]
      · simp

theorem evaluated_v6_first (is6 : frame.ip = .v6 header6) (first : ¬ frame.ip.laterFragment) (shallow : frame.ip.shallow) :
    ∃ count, evaluated frame.encode = match parseIpv6L4 (count + 1) frame.protocol frame.payload with
      | none => none
      | some (nexthdr,cursor) =>
        if nexthdr = xdpProtoUdp then udpPacket (.v6 header6.source) cursor
        else if nexthdr = xdpProtoTcp then tcpPacket (.v6 header6.source) cursor
        else if nexthdr = ipprotoIcmpv6 then icmpPacket (.v6 header6.source) cursor
        else none := by
  rw [is6] at first shallow
  have few : header6.extensions.length < maxIpv6ExtHeaders := shallow
  refine ⟨maxIpv6ExtHeaders - header6.extensions.length - 1,?_⟩
  have depth : maxIpv6ExtHeaders = header6.extensions.length + (maxIpv6ExtHeaders - header6.extensions.length - 1 + 1) := by omega
  have past := parseIpv6L4_chain header6.extensions first (maxIpv6ExtHeaders - header6.extensions.length - 1 + 1) frame.protocol frame.payload
  rw [← depth] at past
  rw [evaluated_v6 is6,past]

theorem evaluated_v6_carries (is6 : frame.ip = .v6 header6) (first : ¬ frame.ip.laterFragment) (shallow : frame.ip.shallow)
    {transport : Transport} (carries : frame.Carries transport) (plain : frame.protocol ≠ ipprotoIcmpv6) :
    evaluated frame.encode = some (transport.packet frame.ip.src) := by
  obtain ⟨protocol,data,payload⟩ := carries
  obtain ⟨count,reaches⟩ := evaluated_v6_first is6 first shallow
  rw [is6] at protocol
  rw [reaches,protocol,payload,is6]
  cases transport with
  | udp => exact udpPacket_encode ..
  | tcp header =>
      have stops : parseIpv6L4 (count + 1) xdpProtoTcp (header.encode ++ data) = some (xdpProtoTcp,header.encode ++ data) := rfl
      have elsewhere : xdpProtoTcp ≠ xdpProtoUdp := by decide
      rw [IpHeader.protocolOf,Transport.encode,stops]
      dsimp only
      rw [if_neg elsewhere,if_pos rfl]
      exact tcpPacket_encode ..
  | icmp => exact (plain protocol).elim

-- The loop gives up on a protocol that the program would know behind it.
theorem evaluated_v6_icmp (is6 : frame.ip = .v6 header6) (first : ¬ frame.ip.laterFragment) (shallow : frame.ip.shallow)
    (control : frame.protocol = ipprotoIcmpv6) : evaluated frame.encode = none := by
  obtain ⟨count,reaches⟩ := evaluated_v6_first is6 first shallow
  rw [reaches,control]
  rfl

theorem evaluated_v6_later (is6 : frame.ip = .v6 header6) (later : frame.ip.laterFragment) : evaluated frame.encode = none := by
  rw [is6] at later
  rw [evaluated_v6 is6,parseIpv6L4_laterFragment header6.extensions later]

theorem carries_icmpv6 (is6 : frame.ip = .v6 header6) (control : frame.protocol = ipprotoIcmpv6)
    (whole : icmpMinHeaderBytes ≤ frame.payload.length) : ∃ transport, frame.Carries transport := by
  have size : (frame.payload.take 8).toArray.size = 8 := by
    rw [List.size_toArray,List.length_take]
    exact Nat.min_eq_left whole
  refine ⟨.icmp ⟨(frame.payload.take 8).toArray,size⟩,?_,frame.payload.drop 8,?_⟩
  · rw [is6]
    exact control
  · exact (List.take_append_drop 8 frame.payload).symm

theorem carries_control (is6 : frame.ip = .v6 header6) {transport : Transport} (carries : frame.Carries transport)
    (control : frame.protocol = ipprotoIcmpv6) : icmpMinHeaderBytes ≤ frame.payload.length := by
  obtain ⟨protocol,data,payload⟩ := carries
  rw [is6,control] at protocol
  cases transport with
  | udp => exact absurd protocol (by decide : ipprotoIcmpv6 ≠ xdpProtoUdp)
  | tcp => exact absurd protocol (by decide : ipprotoIcmpv6 ≠ xdpProtoTcp)
  | icmp header =>
      rw [payload,Transport.encode,List.length_append,Vector.length_toList]
      exact Nat.le_add_right 8 _

end Exactness

section Fixed

def echoHeader : Vector Octet 8 := #v[128,0,0,0,0,1,0,1]

def echo6 : Frame where
  hardware := Vector.replicate 12 0
  tags := []
  ip := .v6 ⟨0,0,8,64,0x20010db8000000000000000000000001,0x20010db8000000000000000000000002,[]⟩
  protocol := ipprotoIcmpv6
  payload := echoHeader.toList
  tagged := by decide

-- The octets of the middle of a datagram, where a destination port would stand.
def middle4 : Frame where
  hardware := Vector.replicate 12 0
  tags := []
  ip := .v4 ⟨0,28,7,0,185,64,0,0xC0000201,0xC0000202,[],by decide⟩
  protocol := xdpProtoUdp
  payload := [0,0,0x13,0xC4,0,0,0,0]
  tagged := by decide

end Fixed

end Sigproxy.Xdp
