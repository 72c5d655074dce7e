namespace Sigproxy.Net

inductive IpAddr where
  | v4 (bits : BitVec 32)
  | v6 (bits : BitVec 128)
  deriving DecidableEq, Repr

structure SocketAddr where
  ip : IpAddr
  port : BitVec 16
  deriving DecidableEq, Repr

inductive SipTransport where
  | udp
  | tcp
  | tcpUdp
  deriving DecidableEq, Repr

def SipTransport.asStr : SipTransport → String
  | .udp => "udp"
  | .tcp => "tcp"
  | .tcpUdp => "tcp_udp"

def eqIgnoreAsciiCase (first second : String) : Bool := first.toList.map Char.toLower == second.toList.map Char.toLower

end Sigproxy.Net
