import Sigproxy.Library.Fallible
import Sigproxy.Proxy.Contacts
import Sigproxy.Proxy.DeviceDelivery

namespace Sigproxy.Proxy
open Library Net Cluster
open Library.System (Ensures Returned)
open Program

variable {Packet Message : Type}

section Grants
variable (codec : Codec Packet Message) (view : ContactView Message) (mode : RegisterRoutingMode)

-- What the proxy keeps of a REGISTER that it forwards.
def pendingFor (message : Message) (viaHost : String) (peer : SocketAddr) (target : UpstreamTarget) :
    Except String (Option PendingRegister) :=
  match mode with
  | .path => registerContactRoutesPending codec message viaHost peer target
  | .contactRewrite => (rewriteRegisterContactAndPending codec message viaHost peer target).map Prod.fst

namespace ContactView

def requestContacts (message : Message) : List TypedContact :=
  (((codec.headers "Contact" message).mapM view.parseHeaderList).toOption.getD []).flatten

-- What the request asks for one of its contacts: its own parameter before the header.
def requestedLifetime (message : Message) (contact : String) : Nat :=
  let own := (view.requestContacts codec message).find? fun value => !view.isStar value && view.showUri value.uri == contact
  ((own.bind TypedContact.seconds).or (view.expiresHeaderSeconds message)).getD 3600 * 1000

-- The registrar knows a contact by the URI that has been forwarded to it.
def forwardedContact (message : Message) (viaHost contact : String) : String :=
  match mode with
  | .path => contact
  | .contactRewrite =>
    let aor := ((view.reading codec).extractAor message).toOption
    let pairs := (view.rewriteContactHostWithUser codec viaHost (rewrittenRegisterContactUser (view.reading codec) aor) message).toOption
    ((pairs.bind fun rewritten => rewritten.1.find? fun pair => pair.1 == contact).map Prod.snd).getD contact

-- What has been granted to a contact, for any notion of two URIs being the same.
def grantedLifetime (same : String → String → Bool) (message response : Message) (viaHost contact : String) : Nat :=
  let listed := (view.responseContacts codec response).find? fun value =>
    same (view.showUri value.uri) (view.forwardedContact codec mode message viaHost contact)
  ((listed.bind TypedContact.seconds).map (· * 1000)).getD (view.requestedLifetime codec message contact)

-- Every contact of the address-of-record goes, whichever way the header is read.
structure ClearsAll (message : Message) : Prop where
  listed : ∀ contact ∈ view.requestContacts codec message, view.isStar contact = true
  typed : ∀ contacts, view.typedContactHeaders message = .ok contacts → ∀ contact ∈ contacts, view.isStar contact = true
  expires : view.expiresHeaderSeconds message = some 0

end ContactView

-- A value that every listed one stays within, and that is listed, unless none is.
def Largest (listed : List Nat) (otherwise value : Nat) : Prop :=
  (∀ seconds ∈ listed, seconds * 1000 ≤ value) ∧ if listed = [] then value = otherwise else ∃ seconds ∈ listed, value = seconds * 1000

theorem largest_iff (listed : List Nat) (otherwise value : Nat) :
    Largest listed otherwise value ↔ (listed.max?.map (· * 1000)).getD otherwise = value := by
  unfold Largest
  cases greatest : listed.max? with
  | none =>
      have none := List.max?_eq_none_iff.mp greatest
      simp [none,eq_comm]
  | some most =>
      obtain ⟨member,bounds⟩ := List.max?_eq_some_iff.mp greatest
      have some : listed ≠ [] := List.ne_nil_of_mem member
      rw [if_neg some,Option.map_some,Option.getD_some]
      constructor
      · intro given
        rcases given with ⟨above,seconds,listed,rfl⟩
        exact Nat.le_antisymm (above most member) (Nat.mul_le_mul_right 1000 (bounds seconds listed))
      · intro same
        rcases same with rfl
        exact ⟨fun seconds listed => Nat.mul_le_mul_right 1000 (bounds seconds listed),most,member,rfl⟩

end Grants

section Pending
variable {codec : Codec Packet Message}

def KeyedApart (bindings : List PendingRegisterBinding) : Prop := (bindings.map PendingRegisterBinding.aor).Nodup

theorem nil_apart : KeyedApart [] := List.nodup_nil

theorem push_apart (apart : KeyedApart bindings) (binding : PendingRegisterBinding) :
    KeyedApart (pushPendingRegisterBinding bindings binding) := by
  unfold pushPendingRegisterBinding
  split
  · exact apart
  · rename_i new
    unfold KeyedApart
    rw [List.map_append,List.map_singleton,List.nodup_append]
    refine ⟨apart,List.nodup_singleton _,fun first earlier second last => ?_⟩
    rw [List.mem_singleton.mp last]
    intro same
    rcases same with rfl
    obtain ⟨existing,member,same⟩ := List.mem_map.mp earlier
    exact new (List.any_eq_true.mpr ⟨existing,member,beq_iff_eq.mpr same⟩)

theorem collect_apart (apart : KeyedApart bindings) (route contact : String) (peer : SocketAddr) :
    KeyedApart (collectContactRouteBindings codec bindings route contact peer) := by
  unfold collectContactRouteBindings
  induction registrationRouteKeys codec route generalizing bindings with
  | nil => exact apart
  | cons key keys ih => exact ih (push_apart apart _)

theorem routes_apart (apart : KeyedApart bindings) (routes : List (String × String)) (peer : SocketAddr) :
    KeyedApart (routes.foldl (fun bindings pair => collectContactRouteBindings codec bindings pair.2 pair.1 peer) bindings) := by
  induction routes generalizing bindings with
  | nil => exact apart
  | cons pair rest ih => exact ih (collect_apart apart ..)

-- What the two modes differ in: the user part they send on, and the contact that
-- stands for the address-of-record.
def sentUser (codec : Codec Packet Message) (message : Message) : RegisterRoutingMode → String → String → String
  | .path => fun _ user => user
  | .contactRewrite => rewrittenRegisterContactUser codec (codec.extractAor message).toOption

def ownContact (codec : Codec Packet Message) (message : Message) (routes : List (String × String)) : RegisterRoutingMode → Option String
  | .path => routes.head?.map Prod.fst
  | .contactRewrite => (codec.extractContact message).toOption.join

def withOwn (codec : Codec Packet Message) (message : Message) (peer : SocketAddr) (bindings : List PendingRegisterBinding) :
    Option String → List PendingRegisterBinding
  | none => bindings
  | some contact =>
    match codec.extractAor message with
    | .ok aor => pushPendingRegisterBinding bindings ⟨aor,contact,codec.showSocketAddr peer⟩
    | .error _ => bindings

theorem pendingFor_made {message : Message} {peer : SocketAddr}
    (tracked : pendingFor codec mode message viaHost peer target = .ok pending) :
    ∃ routes edited, codec.rewriteContactHostWithUser viaHost (sentUser codec message mode) message = .ok (routes,edited) ∧
      pending = pendingRegister (withOwn codec message peer
        (routes.foldl (fun bindings pair => collectContactRouteBindings codec bindings pair.2 pair.1 peer) [])
        (ownContact codec message routes mode)) (codec.extractExpires message) target := by
  cases mode with
  | path =>
      obtain ⟨⟨routes,edited⟩,given,made⟩ := bind_ok.mp tracked
      refine ⟨routes,edited,given,?_⟩
      rw [← Except.ok.inj made]
      congr 1
      unfold withOwn ownContact
      cases routes.head?.map Prod.fst <;> cases codec.extractAor message <;> rfl
  | contactRewrite =>
      unfold pendingFor at tracked
      cases rewritten : rewriteRegisterContactAndPending codec message viaHost peer target with
      | error error =>
          rw [rewritten] at tracked
          cases tracked
      | ok made =>
          rw [rewritten] at tracked
          have kept : made.1 = pending := Except.ok.inj tracked
          obtain ⟨⟨routes,edited⟩,given,finished⟩ := bind_ok.mp rewritten
          refine ⟨routes,edited,given,?_⟩
          rw [← kept,← Except.ok.inj finished]
          dsimp only
          congr 1
          unfold withOwn ownContact
          cases (codec.extractContact message).toOption.join <;> cases codec.extractAor message <;> rfl

theorem pendingFor_apart {message : Message} {peer : SocketAddr}
    (tracked : pendingFor codec mode message viaHost peer target = .ok (some pending)) : KeyedApart pending.bindings := by
  obtain ⟨routes,edited,_,made⟩ := pendingFor_made tracked
  rw [pending_bindings made.symm]
  have collected := @routes_apart Packet Message codec [] nil_apart routes peer
  unfold withOwn
  split
  · exact collected
  · split
    · exact push_apart collected _
    · exact collected

theorem rewrite_stars {view : ContactView Message} {message : Message} {rewrite : String → String → String}
    (stars : ∀ contact ∈ view.requestContacts codec message, view.isStar contact = true)
    (given : view.rewriteContactHostWithUser codec viaHost rewrite message = .ok (pairs,edited)) : pairs = [] := by
  obtain ⟨host,_,rest⟩ := bind_ok.mp given
  obtain ⟨lists,parsed,made⟩ := bind_ok.mp rest
  have all : ∀ contact ∈ lists.flatten, view.isStar contact = true := by
    simpa [ContactView.requestContacts,parsed,Except.toOption] using stars
  have none : lists.flatten.filter (fun contact => !view.isStar contact) = [] :=
    List.filter_eq_nil_iff.mpr fun contact member => by simp [all contact member]
  have first := (Prod.mk.inj (Except.ok.inj made)).1
  rw [none] at first
  exact first.symm

theorem extractContact_stars {view : ContactView Message} {message : Message}
    (stars : ∀ contacts, view.typedContactHeaders message = .ok contacts → ∀ contact ∈ contacts, view.isStar contact = true) :
    (view.extractContact codec message).toOption.join = none := by
  unfold ContactView.extractContact
  split
  · rfl
  · cases typed : view.typedContactHeaders message with
    | error error => rfl
    | ok contacts =>
        have missed : contacts.find? (fun contact => !view.isStar contact) = none :=
          List.find?_eq_none.mpr fun contact member => by simp [stars contacts typed contact member]
        simp [Except.map,Except.toOption,missed]

-- A REGISTER that names no contact of its own leaves nothing pending.
theorem pendingFor_stars {view : ContactView Message} {message : Message} {peer : SocketAddr} (clears : view.ClearsAll codec message)
    (tracked : pendingFor (view.reading codec) mode message viaHost peer target = .ok pending) : pending = none := by
  obtain ⟨routes,edited,given,rfl⟩ := pendingFor_made tracked
  cases rewrite_stars clears.listed given
  have nameless : ownContact (view.reading codec) message [] mode = none := by
    cases mode with
    | path => rfl
    | contactRewrite => exact extractContact_stars clears.typed
  rw [nameless]
  rfl

end Pending

section Effect
variable {codec : Codec Packet Message} {settings : Settings} {w after : World Packet}

-- Where no two bindings share a key, each has its own.
theorem overlaid_own (apart : KeyedApart bindings) {binding : PendingRegisterBinding} (member : binding ∈ bindings)
    (lifetime time : Nat) (old : Option ContactBinding) :
    overlaid (bindings.map fun binding => ⟨binding,lifetime,time⟩) binding.aor old = Written.stored ⟨binding,lifetime,time⟩ := by
  unfold overlaid
  cases last : lastFor (fun written : Written => written.binding.aor == binding.aor)
      (bindings.map fun binding => ⟨binding,lifetime,time⟩) with
  | none =>
      have listed : (⟨binding,lifetime,time⟩ : Written) ∈ bindings.map fun binding => ⟨binding,lifetime,time⟩ :=
        List.mem_map.mpr ⟨binding,member,rfl⟩
      exact absurd (beq_self_eq_true binding.aor) (List.find?_eq_none.mp last _ (List.mem_reverse.mpr listed))
  | some written =>
      obtain ⟨same,listed⟩ := lastFor_some last
      obtain ⟨other,among,rfl⟩ := List.mem_map.mp listed
      rw [List.inj_on_of_nodup_map apart among member (beq_iff_eq.mp same)]

theorem stored_lifetime {binding : PendingRegisterBinding} :
    Written.stored ⟨binding,first,time⟩ = Written.stored ⟨binding,second,time⟩ ↔ first = second := by
  refine ⟨fun same => ?_,fun same => by rw [same]⟩
  simp only [Written.stored] at same
  split at same <;> split at same <;> simp_all

theorem response_overlays (waiting : livePending w branch = some pending) (success : 200 ≤ code ∧ code < 300) (response : Message) :
    Ensures (server codec settings) Accepting
      (Returned fun _ after => after.now = w.now ∧ ∀ key, after.state.peek key = overlaid (pending.content.bindings.map fun binding =>
        ⟨binding,(codec.extractResponseContactExpires response).getD pending.content.requestExpires,w.now⟩) key (w.state.peek key))
      (applyRegisterResponse codec branch response code) w := by
  have late : ¬ code < 200 := by omega
  unfold applyRegisterResponse
  rw [if_neg late]
  apply System.ensures_call
  intro choice _
  rw [server_perform,taken_live,waiting]
  simp only [Option.map_some,if_pos success.2]
  apply System.returned_mono (applyRegisterBindings_writes _ _ _ _)
  intro _ after written
  exact ⟨written.now,written.contacts⟩

theorem response_alone (missing : livePending w branch = none) (success : 200 ≤ code ∧ code < 300) (response : Message) :
    Ensures (server codec settings) Accepting (Returned fun _ after => after.now = w.now ∧ ∀ key, after.state.peek key = w.state.peek key)
      (applyRegisterResponse codec branch response code) w := by
  have late : ¬ code < 200 := by omega
  unfold applyRegisterResponse
  rw [if_neg late]
  apply System.ensures_call
  intro choice _
  rw [server_perform,taken_live,missing]
  exact ⟨rfl,fun _ => rfl⟩

theorem response_ends {after : World Packet → Prop} {program : Task Packet Unit} {answers : Nat → Choice Packet}
    (ensured : Ensures (server codec settings) Accepting (Returned fun _ => after) program w)
    (accepted : ∀ index, Accepting (answers index)) : after ((server codec settings).exec program answers w).2 := by
  obtain ⟨_,ended,returned,held⟩ := System.exec_returned ensured answers accepted
  rw [returned]
  exact held

end Effect

section Lifetimes
variable {codec : Codec Packet Message} {settings : Settings} {view : ContactView Message} {same : String → String → Bool}
  {mode : RegisterRoutingMode} {message response : Message} {w : World Packet} {theirs : String → Prop}

-- Each binding lives as long as its contact has been granted, and where all contacts
-- of an address-of-record go, none of its keys leads to one.
structure Honoured (w after : World Packet) (bindings : List PendingRegisterBinding) (granted : String → Nat) (clears : Prop)
    (theirs : String → Prop) : Prop where
  lifetimes : ∀ binding ∈ bindings, after.state.peek binding.aor = Written.stored ⟨binding,granted binding.contact,w.now⟩
  cleared : clears → ∀ key, theirs key → after.state.live after.now key = none

theorem live_peek {state : SharedState} : state.live now key = alive now (state.peek key) := state.live_eq now key

-- Surroundings that take every command.
def accepting (peer : SocketAddr) : Nat → Choice Packet := fun _ => ⟨.allow,none,peer,true,"",.ok []⟩

theorem lifetimes_honoured_iff {peer : SocketAddr} (theirs : String → Prop)
    (tracked : pendingFor (view.reading codec) mode message viaHost peer target = .ok pending)
    (waiting : (livePending w branch).map Stamped.content = pending) (success : 200 ≤ code ∧ code < 300) :
    (∀ answers : Nat → Choice Packet, (∀ index, Accepting (answers index)) →
      Honoured w ((server (view.reading codec) settings).exec (applyRegisterResponse (view.reading codec) branch response code) answers w).2
        ((pending.map PendingRegister.bindings).getD []) (view.grantedLifetime codec mode same message response viaHost)
        (view.ClearsAll codec message) theirs) ↔
    (∀ registered, pending = some registered → ∀ binding ∈ registered.bindings,
      Largest ((view.responseContacts codec response).filterMap TypedContact.seconds) registered.requestExpires
        (view.grantedLifetime codec mode same message response viaHost binding.contact)) ∧
    (view.ClearsAll codec message → ∀ key, theirs key → w.state.live w.now key = none) := by
  let outcome (answers : Nat → Choice Packet) :=
    ((server (view.reading codec) settings).exec (applyRegisterResponse (view.reading codec) branch response code) answers w).2
  cases pending with
  | none =>
      have missing : livePending w branch = none := Option.map_eq_none_iff.mp waiting
      have unchanged : ∀ answers, (∀ index, Accepting (answers index)) → ∀ key,
          (outcome answers).state.live (outcome answers).now key = w.state.live w.now key := by
        intro answers accepted key
        obtain ⟨clock,state⟩ := response_ends (response_alone missing success response) accepted
        rw [live_peek,live_peek,clock,state]
      constructor
      · intro honoured
        refine ⟨nofun,fun clears key named => ?_⟩
        have answered := (honoured (accepting peer) fun _ => rfl).cleared clears key named
        rwa [unchanged (accepting peer) (fun _ => rfl) key] at answered
      · intro both answers accepted
        rcases both with ⟨_,blank⟩
        refine ⟨nofun,fun clears key named => ?_⟩
        rw [unchanged answers accepted key]
        exact blank clears key named
  | some registered =>
      obtain ⟨stamped,live,rfl⟩ := Option.map_eq_some_iff.mp waiting
      have apart := pendingFor_apart tracked
      have unclear : ¬ view.ClearsAll codec message := fun clears => nomatch pendingFor_stars clears tracked
      have lives : ∀ answers, (∀ index, Accepting (answers index)) → ∀ binding ∈ stamped.content.bindings,
          ((outcome answers).state.peek binding.aor =
            Written.stored ⟨binding,view.grantedLifetime codec mode same message response viaHost binding.contact,w.now⟩ ↔
          Largest ((view.responseContacts codec response).filterMap TypedContact.seconds) stamped.content.requestExpires
            (view.grantedLifetime codec mode same message response viaHost binding.contact)) := by
        intro answers accepted binding member
        obtain ⟨_,state⟩ := response_ends (response_overlays live success response) accepted
        rw [state,overlaid_own apart member,stored_lifetime,largest_iff]
        rfl
      constructor
      · intro honoured
        refine ⟨?_,fun clears => (unclear clears).elim⟩
        intro _ both binding member
        rcases both with ⟨⟩
        exact (lives (accepting peer) (fun _ => rfl) binding member).mp ((honoured (accepting peer) fun _ => rfl).lifetimes binding member)
      · intro both answers accepted
        rcases both with ⟨largest,_⟩
        refine ⟨fun binding member => ?_,fun clears => (unclear clears).elim⟩
        exact (lives answers accepted binding member).mpr (largest _ rfl binding member)

end Lifetimes

section Runs

-- The lists that the runs below send, one value to a header.
def deskPhone (expires : UInt32) : TypedContact := ⟨none,⟨"sip",some ⟨"200",none⟩,"10.0.0.1:5060",[],[]⟩,some expires,[]⟩
def softPhone : TypedContact := ⟨none,⟨"sip",some ⟨"200",none⟩,"10.0.0.2:5060",[],[]⟩,some 300,[]⟩

def renderUri (uri : Uri) : String := uri.scheme ++ ":" ++ uri.user.elim "" (· ++ "@") ++ uri.hostWithPort

def renderContact (contact : TypedContact) : String :=
  renderUri contact.uri ++ contact.seconds.elim "" fun expires => ";expires=" ++ Nat.repr expires

def readContact (text : String) : Option TypedContact :=
  [deskPhone 0,deskPhone 120,softPhone].find? fun contact => renderContact contact == text

def proxyHost : String := "10.0.0.9:5060"

def readUri (text : String) : Option Uri :=
  [{softPhone.uri with hostWithPort:=proxyHost}].find? fun uri => renderUri uri == text

def contactCodec : Codec Envelope Envelope := {envelopeCodec with
  headers := fun name message => if name == "Contact" then message.contacts.map ContactUri.render else []}

def contactView : ContactView Envelope where
  typedContactHeaders message := .ok (message.contacts.filterMap fun contact => readContact contact.render)
  setContactHeaders rendered message := {message with contacts:=rendered.map fun text => ⟨"",text⟩}
  expiresHeader _ := none
  parseHeaderList text :=
    match readContact text with
    | some contact => .ok [contact]
    | none => .error "failed to parse Contact header"
  parseContact := readContact
  parseUri := readUri
  parseHostWithPort := .ok
  showContact := renderContact
  showUri := renderUri

abbrev readingCodec : Codec Envelope Envelope := contactView.reading contactCodec

def enrolling (contact : ContactUri) : Envelope := {request .register with toUri:="sip:200@example.com",contacts:=[contact]}
def confirming (contact : ContactUri) : Envelope := {answer .register 200 "OK" with contacts:=[contact]}

def overUdp : UpstreamTarget := ⟨upstreamAddr,.udp⟩

def waiting (pending : PendingRegister) : World Envelope :=
  {World.new Envelope ⟨true,3600⟩ with pendingRegisters:=Library.Table.collect [("b",⟨pending,0⟩)]}

def pendingPhone (expires : Nat) : PendingRegister :=
  let source := envelopeCodec.showSocketAddr clientAddr
  ⟨[⟨"sip:200@10.0.0.9:5060","sip:200@10.0.0.1:5060",source⟩,⟨"sip:200@example.com","sip:200@10.0.0.1:5060",source⟩],expires * 1000,overUdp⟩

-- Its own lifetime comes back with the answer.
theorem refresh_honoured : Honoured (waiting (pendingPhone 120))
    ((server readingCodec plainSettings).exec (applyRegisterResponse readingCodec "b" (confirming ⟨"200","10.0.0.1:5060;expires=120"⟩) 200)
      (accepting clientAddr) (waiting (pendingPhone 120))).2
    (pendingPhone 120).bindings
    (contactView.grantedLifetime contactCodec .path (· == ·) (enrolling ⟨"200","10.0.0.1:5060;expires=120"⟩)
      (confirming ⟨"200","10.0.0.1:5060;expires=120"⟩) proxyHost)
    (contactView.ClearsAll contactCodec (enrolling ⟨"200","10.0.0.1:5060;expires=120"⟩)) (fun _ => True) := by
  have made : (pendingFor readingCodec .path (enrolling ⟨"200","10.0.0.1:5060;expires=120"⟩) proxyHost clientAddr overUdp).toOption =
      some (some (pendingPhone 120)) := by
    decide +kernel
  have found : (livePending (waiting (pendingPhone 120)) "b").map Stamped.content = some (pendingPhone 120) := by decide +kernel
  have equal : ∀ binding ∈ (pendingPhone 120).bindings, Largest ((contactView.responseContacts contactCodec
      (confirming ⟨"200","10.0.0.1:5060;expires=120"⟩)).filterMap TypedContact.seconds) (pendingPhone 120).requestExpires
      (contactView.grantedLifetime contactCodec .path (· == ·) (enrolling ⟨"200","10.0.0.1:5060;expires=120"⟩)
        (confirming ⟨"200","10.0.0.1:5060;expires=120"⟩) proxyHost binding.contact) := by
    simp only [largest_iff]
    decide +kernel
  have named : ¬ contactView.ClearsAll contactCodec (enrolling ⟨"200","10.0.0.1:5060;expires=120"⟩) :=
    fun clears => nomatch clears.expires
  refine (lifetimes_honoured_iff (fun _ => True) (toOption_ok.mp made) found (by decide)).mpr ⟨?_,fun clears => (named clears).elim⟩
    (accepting clientAddr) fun _ => rfl
  intro _ both binding member
  rcases both with ⟨⟩
  exact equal binding member

-- The registrar takes the desk phone away and lists the soft phone that remains.
theorem removed_contact_registered :
    (pendingFor readingCodec .path (enrolling ⟨"200","10.0.0.1:5060;expires=0"⟩) proxyHost clientAddr overUdp).toOption =
      some (some (pendingPhone 0)) ∧
    contactView.grantedLifetime contactCodec .path (· == ·) (enrolling ⟨"200","10.0.0.1:5060;expires=0"⟩)
      (confirming ⟨"200","10.0.0.2:5060;expires=300"⟩) proxyHost "sip:200@10.0.0.1:5060" = 0 ∧
    ((server readingCodec plainSettings).exec (applyRegisterResponse readingCodec "b" (confirming ⟨"200","10.0.0.2:5060;expires=300"⟩) 200)
      (accepting clientAddr) (waiting (pendingPhone 0))).2.state.peek "sip:200@example.com" =
        some ⟨"sip:200@example.com","sip:200@10.0.0.1:5060",envelopeCodec.showSocketAddr clientAddr,300000⟩ := by
  decide +kernel

end Runs

end Sigproxy.Proxy
