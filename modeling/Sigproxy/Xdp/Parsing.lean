import Sigproxy.Library.Octets
import Sigproxy.Xdp.Policy

namespace Sigproxy.Xdp
open Library Library.Octets Net

def ethPIp : BitVec 16 := 0x0800
def ethP8021q : BitVec 16 := 0x8100
def ethPIpv6 : BitVec 16 := 0x86DD
def ethP8021ad : BitVec 16 := 0x88A8

def ipprotoHopopts : BitVec 8 := 0
def ipprotoRouting : BitVec 8 := 43
def ipprotoFragment : BitVec 8 := 44
def ipprotoAh : BitVec 8 := 51
def ipprotoIcmpv6 : BitVec 8 := 58
def ipprotoDstopts : BitVec 8 := 60

def icmpMinHeaderBytes : Nat := 8
def maxVlanDepth : Nat := 4
def maxIpv6ExtHeaders : Nat := 6

-- A cursor is what lies between it and the end of the data.
abbrev Cursor := List Octet

def parseVlan : Nat → BitVec 16 → Cursor → Option (BitVec 16 × Cursor)
  | 0,ethProto,cursor => some (ethProto,cursor)
  | depth + 1,ethProto,cursor =>
    if ethProto ≠ ethP8021q ∧ ethProto ≠ ethP8021ad then some (ethProto,cursor)
    else if cursor.length < 4 then none
    else parseVlan depth (word 2 (cursor.drop 2)) (cursor.drop 4)

def parseEth (data : Cursor) : Option (BitVec 16 × Cursor) :=
  if data.length < 14 then none else parseVlan maxVlanDepth (word 2 (data.drop 12)) (data.drop 14)

-- The protocol after so many of the extension headers, and where it begins.
def parseIpv6L4 : Nat → BitVec 8 → Cursor → Option (BitVec 8 × Cursor)
  | 0,_,_ => none
  | count + 1,nexthdr,cursor =>
    if nexthdr = xdpProtoUdp ∨ nexthdr = xdpProtoTcp then some (nexthdr,cursor)
    else if nexthdr = ipprotoHopopts ∨ nexthdr = ipprotoRouting ∨ nexthdr = ipprotoDstopts then
      if cursor.length < 2 then none
      else
        let len := ((cursor.getD 1 0).toNat + 1) * 8
        if cursor.length < len then none else parseIpv6L4 count (cursor.getD 0 0) (cursor.drop len)
    else if nexthdr = ipprotoAh then
      if cursor.length < 2 then none
      else
        let len := ((cursor.getD 1 0).toNat + 2) * 4
        if cursor.length < len then none else parseIpv6L4 count (cursor.getD 0 0) (cursor.drop len)
    else if nexthdr = ipprotoFragment then
      if cursor.length < 8 then none
      else if word 2 (cursor.drop 2) &&& 0xfff8#16 ≠ 0 then none
      else parseIpv6L4 count (cursor.getD 0 0) (cursor.drop 8)
    else none

def udpPacket (src : IpAddr) (cursor : Cursor) : Option XdpPacket :=
  if cursor.length < 8 then none else some ⟨xdpProtoUdp,word 2 (cursor.drop 2),src,.udpFlood⟩

def tcpPacketClass (syn ack : Bool) : PacketClass :=
  if syn && !ack then .tcpSynFlood else if ack && !syn then .tcpAckFlood else .tcpFlood

def tcpPacket (src : IpAddr) (cursor : Cursor) : Option XdpPacket :=
  if cursor.length < 20 then none
  else
    let flags := cursor.getD 13 0
    some ⟨xdpProtoTcp,word 2 (cursor.drop 2),src,tcpPacketClass (flags.getLsbD 1) (flags.getLsbD 4)⟩

def icmpPacket (src : IpAddr) (cursor : Cursor) : Option XdpPacket :=
  if cursor.length < icmpMinHeaderBytes then none else some ⟨xdpProtoIcmp,0,src,.icmpFlood⟩

-- The packet that the program goes on to evaluate; it lets the others pass unseen.
def evaluated (data : Cursor) : Option XdpPacket :=
  match parseEth data with
  | none => none
  | some (ethProto,cursor) =>
    if ethProto = ethPIp then
      if cursor.length < 20 then none
      else
        let ihl := ((cursor.getD 0 0).extractLsb' 0 4).toNat
        if ihl < 5 then none
        else if cursor.length < ihl * 4 then none
        else
          let protocol := cursor.getD 9 0
          let src := IpAddr.v4 (word 4 (cursor.drop 12))
          let cursor := cursor.drop (ihl * 4)
          if protocol = xdpProtoUdp then udpPacket src cursor
          else if protocol = xdpProtoTcp then tcpPacket src cursor
          else if protocol = xdpProtoIcmp then icmpPacket src cursor
          else none
    else if ethProto = ethPIpv6 then
      if cursor.length < 40 then none
      else
        let src := IpAddr.v6 (word 16 (cursor.drop 8))
        match parseIpv6L4 maxIpv6ExtHeaders (cursor.getD 6 0) (cursor.drop 40) with
        | none => none
        | some (nexthdr,cursor) =>
          if nexthdr = xdpProtoUdp then udpPacket src cursor
          else if nexthdr = xdpProtoTcp then tcpPacket src cursor
          else if nexthdr = ipprotoIcmpv6 then icmpPacket src cursor
          else none
    else none

def XdpKernel.sigproxyXdp (kernel : XdpKernel) (data : Cursor) : XdpVerdict × XdpKernel :=
  match evaluated data with
  | none => (.pass,kernel)
  | some packet => kernel.evaluatePacket packet

end Sigproxy.Xdp
