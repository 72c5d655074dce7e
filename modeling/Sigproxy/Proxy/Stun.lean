import Sigproxy.Net

namespace Sigproxy.Proxy
open Net

def stunMagicCookie : BitVec 32 := 0x2112A442#32

-- `to_be_bytes`, the octets of an address among them.
def beBytes {width : Nat} (count : Nat) (value : BitVec width) : List (BitVec 8) :=
  (List.range count).map fun index => value.extractLsb' (8 * (count - 1 - index)) 8

def isCrlfKeepalive (packet : List (BitVec 8)) : Bool := packet.all fun byte => byte == 0x0D#8 || byte == 0x0A#8

def stunType (packet : List (BitVec 8)) : BitVec 16 := packet.getD 0 0 ++ packet.getD 1 0

def isStunPacket (packet : List (BitVec 8)) : Bool :=
  let byte (index : Nat) := packet.getD index 0
  let cookie : BitVec 32 := byte 4 ++ byte 5 ++ byte 6 ++ byte 7
  let length : BitVec 16 := byte 2 ++ byte 3
  decide (20 ≤ packet.length) && (byte 0 &&& 0b11000000#8) == 0#8 && cookie == stunMagicCookie &&
    decide (20 + length.toNat ≤ packet.length)

def stunXorMappedAddressAttr (peer : SocketAddr) (transactionId : List (BitVec 8)) : List (BitVec 8) :=
  let xorPort : BitVec 16 := peer.port ^^^ stunMagicCookie.extractLsb' 16 16
  let masked (octets mask : List (BitVec 8)) := octets.zipWith (· ^^^ ·) mask
  let value := match peer.ip with
    | .v4 ip => [0x00#8,0x01#8] ++ beBytes 2 xorPort ++ masked (beBytes 4 ip) (beBytes 4 stunMagicCookie)
    | .v6 ip => [0x00#8,0x02#8] ++ beBytes 2 xorPort ++ masked (beBytes 16 ip) (beBytes 4 stunMagicCookie ++ transactionId)
  beBytes 2 0x0020#16 ++ beBytes 2 (BitVec.ofNat 16 value.length) ++ value

def stunBindingSuccessResponse (packet : List (BitVec 8)) (peer : SocketAddr) : Option (List (BitVec 8)) :=
  if !isStunPacket packet || stunType packet != 0x0001#16 then none
  else
    let transactionId := (packet.drop 8).take 12
    let attr := stunXorMappedAddressAttr peer transactionId
    some (beBytes 2 0x0101#16 ++ beBytes 2 (BitVec.ofNat 16 attr.length) ++ beBytes 4 stunMagicCookie ++ transactionId ++ attr)

end Sigproxy.Proxy
