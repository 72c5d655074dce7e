import Sigproxy.Library.CanonicalSort
import Sigproxy.Library.TextSlices
import Sigproxy.Net.AddressText
import Sigproxy.Proxy.State

namespace Sigproxy.Ha.Checksum
open Library CanonicalSort TextSlices Net Cluster Affinity Proxy

section Snapshots

-- The affinity part of a snapshot with the whole addresses of the standard library.
structure Binding where
  key : AffinityKey
  addr : StdSocketAddr
  transport : SipTransport
  expiresAtEpochMs : Nat
  deriving DecidableEq, Repr

structure Snapshot where
  lastSeq : Nat
  checksum : String
  contacts : List ContactBinding
  bindings : List Binding
  deriving DecidableEq, Repr

end Snapshots

section Order

-- The derived order of the addresses: the variants first, and then field by field.
def cmpAddr : StdSocketAddr → StdSocketAddr → Ordering
  | .v4 first,.v4 second => (compare first.ip.toNat second.ip.toNat).then (compare first.port.toNat second.port.toNat)
  | .v4 _,.v6 _ => .lt
  | .v6 _,.v4 _ => .gt
  | .v6 first,.v6 second => (((compare first.ip.toNat second.ip.toNat).then (compare first.port.toNat second.port.toNat)).then
      (compare first.flowinfo.toNat second.flowinfo.toNat)).then (compare first.scopeId.toNat second.scopeId.toNat)

def cmpContacts (first second : ContactBinding) : Ordering :=
  (((compare first.aor second.aor).then (compare first.contact second.contact)).then (compare first.source second.source)).then
    (compare first.expiresAtEpochMs second.expiresAtEpochMs)

def cmpBindings (first second : Binding) : Ordering :=
  (((compare first.key.value second.key.value).then (cmpAddr first.addr second.addr)).then
    (compare first.transport.asStr second.transport.asStr)).then (compare first.expiresAtEpochMs second.expiresAtEpochMs)

end Order

section Hash

def fnvOffsetBasis : UInt64 := 0xcbf29ce484222325

def fnvPrime : UInt64 := 0x100000001b3

def hashBytes (hash : UInt64) (bytes : List UInt8) : UInt64 :=
  let mixed := bytes.foldl (fun hash byte => (hash ^^^ byte.toUInt64) * fnvPrime) hash
  (mixed ^^^ 0xff) * fnvPrime

def hashStr (hash : UInt64) (value : String) : UInt64 := hashBytes hash (octets value)

-- `to_be_bytes` of a word of so many octets.
def toBeBytes (count value : Nat) : List UInt8 :=
  (List.range count).map fun place => UInt8.ofNat (value / 256 ^ (count - 1 - place))

def hashU64 (hash : UInt64) (value : Nat) : UInt64 := hashBytes hash (toBeBytes 8 value)

def hashU128 (hash : UInt64) (value : Nat) : UInt64 := hashBytes hash (toBeBytes 16 value)

def hashContact (hash : UInt64) (contact : ContactBinding) : UInt64 :=
  hashU128 (hashStr (hashStr (hashStr hash contact.aor) contact.contact) contact.source) contact.expiresAtEpochMs

def hashBinding (hash : UInt64) (binding : Binding) : UInt64 :=
  hashU128 (hashStr (hashStr (hashStr hash binding.key.value) binding.addr.display) binding.transport.asStr) binding.expiresAtEpochMs

def Snapshot.computeChecksum (snapshot : Snapshot) : String :=
  let hash := hashU64 fnvOffsetBasis snapshot.lastSeq
  let hash := (sortBy cmpContacts snapshot.contacts).foldl hashContact hash
  let hash := (sortBy cmpBindings snapshot.bindings).foldl hashBinding hash
  "fnv1a64:" ++ .ofList ((Nat.toDigits 16 hash.toNat).leftpad 16 '0')

def Snapshot.withChecksum (snapshot : Snapshot) : Snapshot := { snapshot with checksum := snapshot.computeChecksum }

def Snapshot.checksumIsValid (snapshot : Snapshot) : Bool := snapshot.checksum.isEmpty || snapshot.checksum == snapshot.computeChecksum

end Hash

section Ties
open Std

-- What the order of the addresses compares, as one list.
def addrFields : StdSocketAddr → List Nat
  | .v4 addr => [4,addr.ip.toNat,addr.port.toNat]
  | .v6 addr => [6,addr.ip.toNat,addr.port.toNat,addr.flowinfo.toNat,addr.scopeId.toNat]

theorem cmpAddr_fields (first second : StdSocketAddr) : cmpAddr first second = compare (addrFields first) (addrFields second) := by
  change _ = List.compareLex compare (addrFields first) (addrFields second)
  cases first with
  | v4 first =>
      cases second with
      | v4 second => simp [cmpAddr,addrFields,List.compareLex_cons_cons,List.compareLex_nil_nil]
      | v6 second => rfl
  | v6 first =>
      cases second with
      | v4 second => rfl
      | v6 second => simp [cmpAddr,addrFields,List.compareLex_cons_cons,List.compareLex_nil_nil,Ordering.then_assoc]

theorem addrFields_inj {first second : StdSocketAddr} (same : addrFields first = addrFields second) : first = second := by
  cases first with
  | v4 first =>
      cases second with
      | v4 second =>
          simp only [addrFields,List.cons.injEq,BitVec.toNat_inj,true_and,and_true] at same
          rw [StdSocketAddr.v4.injEq,SocketAddrV4.mk.injEq]
          exact same
      | v6 second => simp [addrFields] at same
  | v6 first =>
      cases second with
      | v4 second => simp [addrFields] at same
      | v6 second =>
          simp only [addrFields,List.cons.injEq,BitVec.toNat_inj,true_and,and_true] at same
          rw [StdSocketAddr.v6.injEq,SocketAddrV6.mk.injEq]
          exact same

theorem cmpContacts_lex : cmpContacts = compareLex (compareLex (compareLex (compareOn ContactBinding.aor) (compareOn ContactBinding.contact))
    (compareOn ContactBinding.source)) (compareOn ContactBinding.expiresAtEpochMs) := rfl

theorem cmpBindings_lex : cmpBindings = compareLex (compareLex (compareLex (compareOn fun binding => binding.key.value)
    (compareOn fun binding => addrFields binding.addr)) (compareOn fun binding => binding.transport.asStr)) (compareOn Binding.expiresAtEpochMs) := by
  funext first second
  rw [cmpBindings,cmpAddr_fields]
  rfl

instance : TransCmp cmpContacts := cmpContacts_lex ▸ inferInstance

instance : TransCmp cmpBindings := cmpBindings_lex ▸ inferInstance

theorem transport_inj {first second : SipTransport} (same : first.asStr = second.asStr) : first = second := by
  cases first <;> cases second <;> first | rfl | exact absurd same (by decide)

-- The fields that the sort compares are all the fields: only equal elements tie.
theorem cmpContacts_eq (first second : ContactBinding) : cmpContacts first second = .eq ↔ first = second := by
  constructor
  · intro tied
    simp only [cmpContacts,Ordering.then_eq_eq,LawfulEqOrd.compare_eq_iff_eq] at tied
    obtain ⟨⟨⟨aor,contact⟩,source⟩,expires⟩ := tied
    rw [ContactBinding.mk.injEq]
    exact ⟨aor,contact,source,expires⟩
  · intro same
    rw [same]
    exact ReflCmp.compare_self

theorem cmpBindings_eq (first second : Binding) : cmpBindings first second = .eq ↔ first = second := by
  constructor
  · intro tied
    simp only [cmpBindings,cmpAddr_fields,Ordering.then_eq_eq,LawfulEqOrd.compare_eq_iff_eq] at tied
    obtain ⟨⟨⟨key,addr⟩,transport⟩,expires⟩ := tied
    rw [Binding.mk.injEq]
    exact ⟨congrArg AffinityKey.mk key,addrFields_inj addr,transport_inj transport,expires⟩
  · intro same
    rw [same]
    exact ReflCmp.compare_self

instance : LawfulEqCmp cmpContacts where
  eq_of_compare := (cmpContacts_eq _ _).mp

instance : LawfulEqCmp cmpBindings where
  eq_of_compare := (cmpBindings_eq _ _).mp

end Ties

section Delivery

theorem computeChecksum_perm (snapshot : Snapshot) {contacts : List ContactBinding} {bindings : List Binding}
    (sameContacts : contacts.Perm snapshot.contacts) (sameBindings : bindings.Perm snapshot.bindings) :
    Snapshot.computeChecksum { snapshot with contacts,bindings } = snapshot.computeChecksum := by
  rw [Snapshot.computeChecksum,sortBy_canonical cmpContacts sameContacts,sortBy_canonical cmpBindings sameBindings]
  rfl

theorem delivered_valid (snapshot : Snapshot) {contacts : List ContactBinding} {bindings : List Binding}
    (sameContacts : contacts.Perm snapshot.contacts) (sameBindings : bindings.Perm snapshot.bindings) :
    Snapshot.checksumIsValid { snapshot.withChecksum with contacts,bindings } = true := by
  have stamped : Snapshot.computeChecksum { snapshot.withChecksum with contacts,bindings } = snapshot.withChecksum.checksum :=
    computeChecksum_perm snapshot.withChecksum sameContacts sameBindings
  rw [Snapshot.checksumIsValid,stamped,beq_self_eq_true,Bool.or_true]

-- The snapshots of the server carry IP addresses and ports.
def wholeBinding (binding : AffinityBindingSnapshot) : Binding :=
  ⟨binding.key,binding.target.addr.std,binding.target.transport,binding.expiresAtEpochMs⟩

def whole (snapshot : HaStateSnapshot) : Snapshot :=
  ⟨snapshot.lastSeq,snapshot.checksum,snapshot.contacts.contacts,snapshot.affinity.bindings.map wholeBinding⟩

def haChecksum (snapshot : HaStateSnapshot) : String := (whole snapshot).computeChecksum

theorem checksumIsValid_whole (snapshot : HaStateSnapshot) : snapshot.checksumIsValid haChecksum = (whole snapshot).checksumIsValid := rfl

theorem delivered_accepted (snapshot : HaStateSnapshot) {contacts : List ContactBinding} {bindings : List AffinityBindingSnapshot}
    (sameContacts : contacts.Perm snapshot.contacts.contacts) (sameBindings : bindings.Perm snapshot.affinity.bindings) :
    HaStateSnapshot.checksumIsValid haChecksum
      { snapshot with checksum := haChecksum snapshot,contacts := ⟨contacts⟩,affinity := ⟨bindings⟩ } = true := by
  rw [checksumIsValid_whole]
  exact delivered_valid (whole snapshot) sameContacts (sameBindings.map wholeBinding)

end Delivery

-- The digest is one of the contents and not of their order: a stamped snapshot is valid in
-- whatever order its lists arrive, and the sort leaves no two distinct elements open.
theorem checksum_ignores_order :
    (∀ snapshot : Snapshot, ∀ contacts bindings, contacts.Perm snapshot.contacts → bindings.Perm snapshot.bindings →
      Snapshot.computeChecksum { snapshot with contacts,bindings } = snapshot.computeChecksum ∧
        Snapshot.checksumIsValid { snapshot.withChecksum with contacts,bindings } = true) ∧
    (∀ snapshot : HaStateSnapshot, ∀ contacts bindings, contacts.Perm snapshot.contacts.contacts → bindings.Perm snapshot.affinity.bindings →
      HaStateSnapshot.checksumIsValid haChecksum
        { snapshot with checksum := haChecksum snapshot,contacts := ⟨contacts⟩,affinity := ⟨bindings⟩ } = true) ∧
    (∀ first second, cmpContacts first second = .eq ↔ first = second) ∧
    ∀ first second, cmpBindings first second = .eq ↔ first = second := by
  refine ⟨?_,?_,cmpContacts_eq,cmpBindings_eq⟩
  · intro snapshot contacts bindings sameContacts sameBindings
    exact ⟨computeChecksum_perm snapshot sameContacts sameBindings,delivered_valid snapshot sameContacts sameBindings⟩
  · intro snapshot contacts bindings sameContacts sameBindings
    exact delivered_accepted snapshot sameContacts sameBindings

end Sigproxy.Ha.Checksum
