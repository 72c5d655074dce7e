import Sigproxy.Library.Blocks
import Sigproxy.Library.Ranges
import Sigproxy.Net

namespace Sigproxy.Net

def IpAddr.width : IpAddr → Nat
  | .v4 _ => 32
  | .v6 _ => 128

def IpAddr.value : IpAddr → Nat
  | .v4 bits => bits.toNat
  | .v6 bits => bits.toNat

theorem IpAddr.width_le (ip : IpAddr) : ip.width ≤ 128 := by
  cases ip <;> simp [width]

end Sigproxy.Net

namespace Sigproxy.Security
open Library Net

-- An address with the number of its leading bits that count; the parsers refuse
-- a number above the width of the address.
structure Cidr where
  addr : IpAddr
  prefixLen : Nat
  bounded : prefixLen ≤ addr.width
  deriving DecidableEq, Repr

def sameNetwork (prefixLen : Nat) (network ip : BitVec width) : Bool :=
  if prefixLen = 0 then true
  else
    let mask := BitVec.allOnes width <<< (width - prefixLen)
    network &&& mask == ip &&& mask

def Cidr.contains (cidr : Cidr) (ip : IpAddr) : Bool :=
  match cidr.addr,ip with
  | .v4 network,.v4 ip => sameNetwork cidr.prefixLen network ip
  | .v6 network,.v6 ip => sameNetwork cidr.prefixLen network ip
  | _,_ => false

theorem sameNetwork_iff {network ip : BitVec width} : sameNetwork prefixLen network ip = true ↔
    network.toNat / 2 ^ (width - prefixLen) = ip.toNat / 2 ^ (width - prefixLen) := by
  unfold sameNetwork
  split
  · rename_i none
    simp [none,Nat.div_eq_of_lt network.isLt,Nat.div_eq_of_lt ip.isLt]
  · rw [beq_iff_eq,and_high_eq_iff]

theorem Cidr.contains_iff (cidr : Cidr) (ip : IpAddr) : cidr.contains ip = true ↔ cidr.addr.width = ip.width ∧
    cidr.addr.value / 2 ^ (ip.width - cidr.prefixLen) = ip.value / 2 ^ (ip.width - cidr.prefixLen) := by
  obtain ⟨addr,prefixLen,_⟩ := cidr
  cases addr with
  | v4 network =>
      cases ip with
      | v4 ip => exact sameNetwork_iff.trans (iff_and_self.mpr fun _ => rfl)
      | v6 ip => simp [contains,IpAddr.width]
  | v6 network =>
      cases ip with
      | v4 ip => simp [contains,IpAddr.width]
      | v6 ip => exact sameNetwork_iff.trans (iff_and_self.mpr fun _ => rfl)

-- A range of one family stands for what the network contains of that family.
structure Represents {Label : Type} (range : Label → Cidr → Option (Span width Label)) (addr : BitVec width → IpAddr) : Prop where
  marked : range label cidr = some span → span.label = label
  proper : range label cidr = some span → span.start ≤ span.stop
  contains : (∃ span, range label cidr = some span ∧ span.Contains ip) ↔ cidr.contains (addr ip) = true

end Sigproxy.Security
