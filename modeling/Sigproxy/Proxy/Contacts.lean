import Sigproxy.Proxy.Message

namespace Sigproxy.Proxy
open Library Net

section Uris

structure UriAuth where
  user : String
  password : Option String
  deriving DecidableEq, Repr

inductive UriParam where
  | ob
  | other (name : String) (value : Option String)
  deriving DecidableEq, Repr

structure Uri where
  scheme : String
  auth : Option UriAuth
  hostWithPort : String
  params : List UriParam
  headers : List (String × String)
  deriving DecidableEq, Repr

def Uri.user (uri : Uri) : Option String := uri.auth.map UriAuth.user

structure TypedContact where
  displayName : Option String
  uri : Uri
  expires : Option UInt32
  params : List String
  deriving DecidableEq, Repr

def TypedContact.seconds (contact : TypedContact) : Option Nat := contact.expires.map UInt32.toNat

-- What the SIP stack reads of Contact values and writes into them.
structure ContactView (Message : Type) where
  typedContactHeaders : Message → Except String (List TypedContact)
  setContactHeaders : List String → Message → Message
  expiresHeader : Message → Option String
  parseHeaderList : String → Except String (List TypedContact)
  parseContact : String → Option TypedContact
  parseUri : String → Option Uri
  parseHostWithPort : String → Except String String
  showContact : TypedContact → String
  showUri : Uri → String

end Uris

section Reading
variable {Packet Message : Type} (codec : Codec Packet Message) (view : ContactView Message)

-- `str::parse::<u64>`.
def parseU64 (text : String) : Option Nat :=
  let digits := match text.toList with
    | '+' :: rest => rest
    | all => all
  let value := Nat.ofDigitChars 10 digits 0
  if digits.isEmpty || !digits.all Char.isDigit || decide (2 ^ 64 ≤ value) then none else some value

namespace ContactView

def isStar (contact : TypedContact) : Bool := view.showContact contact == "*"

def extractContact (message : Message) : Except String (Option String) :=
  if codec.isResponse message then .error "REGISTER parsing requires a SIP request"
  else (view.typedContactHeaders message).map fun contacts =>
    (contacts.find? fun contact => !view.isStar contact).map fun contact => view.showUri contact.uri

def expiresHeaderSeconds (message : Message) : Option Nat := (view.expiresHeader message).bind fun value => parseU64 (trim value)

def extractExpires (message : Message) : Nat :=
  if codec.isResponse message then 3600 * 1000
  else
    let contacts := (view.typedContactHeaders message).toOption.getD []
    ((contacts.findSome? TypedContact.seconds).or (view.expiresHeaderSeconds message)).getD 3600 * 1000

-- A header that cannot be parsed is passed over.
def responseContacts (message : Message) : List TypedContact :=
  ((codec.headers "Contact" message).filterMap fun value => (view.parseHeaderList value).toOption).flatten

def extractResponseContactExpires (message : Message) : Option Nat :=
  ((view.responseContacts codec message).filterMap TypedContact.seconds).max?.map (· * 1000)

def rewriteUri (hostWithPort : String) (rewriteUser : String → String → String) (uri : Uri) : Uri :=
  let user := rewriteUser (view.showUri uri) (uri.user.getD "")
  let auth := if user.isEmpty then uri.auth else match uri.auth with
    | some auth => some {auth with user:=user}
    | none => some ⟨user,none⟩
  {uri with hostWithPort:=hostWithPort,params:=uri.params.filter (· != .ob),auth:=auth}

def rewriteContact (hostWithPort : String) (rewriteUser : String → String → String) (contact : TypedContact) : TypedContact :=
  if view.isStar contact then contact else {contact with uri:=view.rewriteUri hostWithPort rewriteUser contact.uri}

def rewriteContactHostWithUser (viaHost : String) (rewriteUser : String → String → String) (message : Message) :
    Except String (List (String × String) × Message) := do
  let hostWithPort ← view.parseHostWithPort viaHost
  let lists ← (codec.headers "Contact" message).mapM view.parseHeaderList
  let pairs := (lists.flatten.filter fun contact => !view.isStar contact).map fun contact =>
    (view.showUri contact.uri,view.showUri (view.rewriteUri hostWithPort rewriteUser contact.uri))
  let rendered := lists.map fun contacts =>
    ", ".intercalate (contacts.map fun contact => view.showContact (view.rewriteContact hostWithPort rewriteUser contact))
  return (pairs,view.setContactHeaders rendered message)

def normalizedSipUriWithoutParams (value : String) : Option String :=
  (((view.parseContact value).map TypedContact.uri).or (view.parseUri value)).map fun uri => view.showUri {uri with params:=[],headers:=[]}

-- The server's reading of messages over this view of their contacts.
def reading : Codec Packet Message := {codec with
  rewriteContactHostWithUser := view.rewriteContactHostWithUser codec
  extractContact := view.extractContact codec
  extractExpires := view.extractExpires codec
  extractResponseContactExpires := view.extractResponseContactExpires codec
  normalizedSipUriWithoutParams := view.normalizedSipUriWithoutParams}

end ContactView

end Reading

end Sigproxy.Proxy
