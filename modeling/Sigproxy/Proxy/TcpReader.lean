import Sigproxy.Library.Framing
import Sigproxy.Library.Octets

namespace Sigproxy.Proxy
open Library

section Reader

inductive SipCodecType (Message : Type) where
  | message (message : Message)
  | keepaliveRequest
  | keepaliveResponse

structure SipCodec (Message : Type) where
  decode : (buf : List Octet) → Except String (Option (Taken (SipCodecType Message) buf))
  toBytes : Message → List Octet

def SipCodec.framer {Message : Type} (codec : SipCodec Message) : Framer Octet (SipCodecType Message) Message where
  decode := codec.decode
  content
    | .message message => some message
    | .keepaliveRequest | .keepaliveResponse => none

inductive ReadError where
  | codec (error : String)
  | exceeded
  | closed
  deriving DecidableEq

def ReadError.text : ReadError → String
  | .codec error => error
  | .exceeded => "SIP TCP message exceeded max_message_bytes"
  | .closed => "SIP TCP connection closed before a complete message was received"

variable {Message : Type} (codec : SipCodec Message) (maxBytes : Nat)

-- The reads are what the stream yields from here on; it is at its end where there
-- is none left or one yields nothing. What remains is the buffer and the reads.
def readMessage (buf : List Octet) (reads : List (List Octet)) :
    Except ReadError (Option (List Octet)) × List Octet × List (List Octet) :=
  match codec.framer.next buf with
  | .error error => (.error (.codec error),buf,reads)
  | .ok (some message,buf) =>
    let bytes := codec.toBytes message
    if maxBytes < bytes.length then (.error .exceeded,buf,reads) else (.ok (some bytes),buf,reads)
  | .ok (none,buf) =>
    match reads with
    | [] => (if buf.isEmpty then .ok none else .error .closed,buf,[])
    | [] :: reads => (if buf.isEmpty then .ok none else .error .closed,buf,reads)
    | (octet :: chunk) :: reads =>
      let buf := buf ++ octet :: chunk
      if maxBytes < buf.length then (.error .exceeded,buf,reads) else readMessage buf reads

def unread (buf : List Octet) (reads : List (List Octet)) : Nat := buf.length + reads.flatten.length

theorem readMessage_unread (read : readMessage codec maxBytes buf reads = (.ok (some bytes),buf',reads')) :
    unread buf' reads' < unread buf reads := by
  fun_induction readMessage codec maxBytes buf reads with
  | case1 => cases read
  | case2 buf reads message rest found bytes longer => simp at read
  | case3 buf reads message rest found bytes short =>
      simp only [Prod.mk.injEq] at read
      obtain ⟨_,rfl,rfl⟩ := read
      have shorter := Framer.next_shorter found
      unfold unread
      omega
  | case4 => split at read <;> cases read
  | case5 => split at read <;> cases read
  | case6 => cases read
  | case7 buf rest ended octet chunk reads grown short ih =>
      have bounded := Framer.next_bounded ended
      have less := ih read
      simp only [unread,grown,List.flatten_cons,List.length_append] at less ⊢
      omega

-- The loop of handle_tcp_client: the packets it handles, and how it ends.
def packets (buf : List Octet) (reads : List (List Octet)) : List (List Octet) × Except ReadError Unit :=
  match _read : readMessage codec maxBytes buf reads with
  | (.error error,_) => ([],.error error)
  | (.ok none,_) => ([],.ok ())
  | (.ok (some bytes),buf,reads) => (bytes :: (packets buf reads).1,(packets buf reads).2)
termination_by unread buf reads
decreasing_by all_goals exact readMessage_unread codec maxBytes _read

end Reader

section Independence
variable {Message : Type} {codec : SipCodec Message} {maxBytes : Nat} {buf rest : List Octet} {reads : List (List Octet)}

theorem readMessage_failed (failed : codec.framer.next buf = .error error) :
    readMessage codec maxBytes buf reads = (.error (.codec error),buf,reads) := by
  rw [readMessage,failed]

theorem readMessage_message (found : codec.framer.next buf = .ok (some message,rest)) (short : (codec.toBytes message).length ≤ maxBytes) :
    readMessage codec maxBytes buf reads = (.ok (some (codec.toBytes message)),rest,reads) := by
  rw [readMessage,found]
  simp [Nat.not_lt.mpr short]

theorem readMessage_end (ended : codec.framer.next buf = .ok (none,rest)) :
    readMessage codec maxBytes buf [] = (if rest.isEmpty then .ok none else .error .closed,rest,[]) := by
  rw [readMessage,ended]

theorem readMessage_read (ended : codec.framer.next buf = .ok (none,rest)) (octet : Octet) (chunk : List Octet) (reads : List (List Octet)) :
    readMessage codec maxBytes buf ((octet :: chunk) :: reads) =
      if maxBytes < (rest ++ octet :: chunk).length then (.error .exceeded,rest ++ octet :: chunk,reads)
      else readMessage codec maxBytes (rest ++ octet :: chunk) reads := by
  rw [readMessage,ended]

theorem packets_error (read : readMessage codec maxBytes buf reads = (.error error,left)) : packets codec maxBytes buf reads = ([],.error error) := by
  rw [packets]
  split <;> rename_i other <;> rw [read] at other <;> cases other
  rfl

theorem packets_end (read : readMessage codec maxBytes buf reads = (.ok none,left)) : packets codec maxBytes buf reads = ([],.ok ()) := by
  rw [packets]
  split <;> rename_i other <;> rw [read] at other <;> cases other

theorem packets_packet (read : readMessage codec maxBytes buf reads = (.ok (some bytes),buf',reads')) :
    packets codec maxBytes buf reads = (bytes :: (packets codec maxBytes buf' reads').1,(packets codec maxBytes buf' reads').2) := by
  rw [packets]
  split <;> rename_i other <;> rw [read] at other <;> cases other
  rfl

theorem packets_same (same : readMessage codec maxBytes buf reads = readMessage codec maxBytes buf' reads') :
    packets codec maxBytes buf reads = packets codec maxBytes buf' reads' := by
  match read : readMessage codec maxBytes buf' reads' with
  | (.error error,left) => rw [packets_error (same.trans read),packets_error read]
  | (.ok none,left) => rw [packets_end (same.trans read),packets_end read]
  | (.ok (some bytes),left) => rw [packets_packet (same.trans read),packets_packet read]

-- How the reading of a stream ends whose messages have been taken.
def ending : Except String (List Octet) → Except ReadError Unit
  | .error error => .error (.codec error)
  | .ok rest => if rest.isEmpty then .ok () else .error .closed

-- Each read finds room behind what the reads before it left unfinished.
def Fits (codec : SipCodec Message) (maxBytes : Nat) (buf : List Octet) (reads : List (List Octet)) : Prop :=
  ∀ before chunk after, reads = before ++ chunk :: after →
    ∀ rest, (codec.framer.framed (buf ++ before.flatten)).2 = .ok rest → rest.length + chunk.length ≤ maxBytes

theorem fits_failed (incremental : codec.framer.Incremental) (failed : codec.framer.next buf = .error error) : Fits codec maxBytes buf reads := by
  intro before chunk after _ rest left
  rw [incremental.framed_error _ failed] at left
  cases left

theorem fits_nil : Fits codec maxBytes buf [] := by
  intro before chunk after split
  simp at split

theorem fits_message (incremental : codec.framer.Incremental) (found : codec.framer.next buf = .ok (some message,rest)) :
    Fits codec maxBytes buf reads ↔ Fits codec maxBytes rest reads := by
  have same (more : List Octet) : (codec.framer.framed (buf ++ more)).2 = (codec.framer.framed (rest ++ more)).2 := by
    rw [incremental.framed_after more found]
  simp only [Fits,same]

theorem fits_read (incremental : codec.framer.Incremental) (ended : codec.framer.next buf = .ok (none,rest)) (chunk : List Octet) :
    Fits codec maxBytes buf (chunk :: reads) ↔ rest.length + chunk.length ≤ maxBytes ∧ Fits codec maxBytes (rest ++ chunk) reads := by
  have later (more : List Octet) : codec.framer.framed (buf ++ (chunk ++ more)) = codec.framer.framed (rest ++ chunk ++ more) := by
    rw [incremental.framed_next _ ended,List.append_assoc]
  constructor
  · intro fits
    refine ⟨fits [] chunk reads rfl rest ?_,fun before other after split left pending => ?_⟩
    · rw [List.flatten_nil,List.append_nil,Framer.framed_unfinished ended]
    · apply fits (chunk :: before) other after (by rw [split]; rfl) left
      rw [List.flatten_cons,later]
      exact pending
  · intro both before other after split left pending
    rcases both with ⟨room,fits⟩
    obtain _ | ⟨first,before⟩ := before
    · cases split
      rw [List.flatten_nil,List.append_nil,Framer.framed_unfinished ended] at pending
      cases pending
      exact room
    · cases split
      rw [List.flatten_cons,later] at pending
      exact fits before other after rfl left pending

-- The messages as the codec writes them are no longer than allowed.
def Sized (codec : SipCodec Message) (maxBytes : Nat) (stream : List Octet) : Prop :=
  ∀ message ∈ (codec.framer.framed stream).1, (codec.toBytes message).length ≤ maxBytes

-- Reads that fit yield the messages of the stream, however it is cut; the first
-- that does not fit ends in the error.
theorem packets_eq (incremental : codec.framer.Incremental) (nonempty : ∀ chunk ∈ reads, chunk ≠ [])
    (sized : Sized codec maxBytes (buf ++ reads.flatten)) :
    (Fits codec maxBytes buf reads → packets codec maxBytes buf reads =
      ((codec.framer.framed (buf ++ reads.flatten)).1.map codec.toBytes,ending (codec.framer.framed (buf ++ reads.flatten)).2)) ∧
    (¬ Fits codec maxBytes buf reads → (packets codec maxBytes buf reads).2 = .error .exceeded) := by
  induction size : unread buf reads + reads.length using Nat.strong_induction_on generalizing buf reads with
  | _ total ih =>
    match found : codec.framer.next buf with
    | .error error =>
        refine ⟨fun _ => ?_,fun misfit => (misfit (fits_failed incremental found)).elim⟩
        rw [packets_error (readMessage_failed found),incremental.framed_error _ found]
        rfl
    | .ok (some message,rest) =>
        have whole := incremental.framed_after reads.flatten found
        have shorter := Framer.next_shorter found
        have short : (codec.toBytes message).length ≤ maxBytes := sized message (by rw [whole]; exact List.mem_cons_self)
        have later := ih (unread rest reads + reads.length) (by unfold unread at size ⊢; omega) nonempty
          (fun other member => sized other (by rw [whole]; exact List.mem_cons_of_mem _ member)) rfl
        rw [packets_packet (readMessage_message found short),fits_message incremental found,whole]
        exact ⟨fun fits => by rw [later.1 fits]; rfl,later.2⟩
    | .ok (none,rest) =>
        match reads with
        | [] =>
            have left : codec.framer.framed (buf ++ [].flatten) = ([],.ok rest) := by
              rw [List.flatten_nil,List.append_nil,Framer.framed_unfinished found]
            refine ⟨fun _ => ?_,fun misfit => (misfit fits_nil).elim⟩
            rw [left]
            have read := @readMessage_end _ codec maxBytes _ _ found
            cases empty : rest.isEmpty with
            | true => rw [packets_end (read.trans (by rw [empty]; rfl))]; simp [ending,empty]
            | false => rw [packets_error (read.trans (by rw [empty]; rfl))]; simp [ending,empty]
        | [] :: reads => exact (nonempty [] List.mem_cons_self rfl).elim
        | (octet :: chunk) :: reads =>
            have bounded := Framer.next_bounded found
            have later (more : List Octet) : codec.framer.framed (buf ++ (octet :: chunk ++ more)) =
                codec.framer.framed (rest ++ octet :: chunk ++ more) := by
              rw [incremental.framed_next _ found,List.append_assoc]
            rw [fits_read incremental found,List.flatten_cons,later]
            by_cases room : (rest ++ octet :: chunk).length ≤ maxBytes
            · have read := (readMessage_read found octet chunk reads).trans (if_neg (Nat.not_lt.mpr room))
              have fewer : unread (rest ++ octet :: chunk) reads + reads.length < total := by
                simp only [unread,List.flatten_cons,List.length_append,List.length_cons] at size ⊢
                omega
              have rested := ih _ fewer (fun other member => nonempty other (List.mem_cons_of_mem _ member))
                (fun message member => sized message (by rw [List.flatten_cons,later]; exact member)) rfl
              rw [packets_same read]
              refine ⟨fun fits => rested.1 fits.2,fun misfit => rested.2 fun fits => misfit ⟨?_,fits⟩⟩
              rwa [List.length_append] at room
            · rw [packets_error ((readMessage_read found octet chunk reads).trans (if_pos (Nat.lt_of_not_le room)))]
              refine ⟨fun fits => (room ?_).elim,fun _ => rfl⟩
              rw [List.length_append]
              exact fits.1

theorem ending_unexceeded (left : Except String (List Octet)) : ending left ≠ .error .exceeded := by
  cases left with
  | error error => exact nofun
  | ok rest =>
      unfold ending
      dsimp only
      split <;> exact nofun

end Independence

section Bodiless

def crlf : List Octet := [13,10]

-- A message without a body: all that stands before an empty line, with the line.
def headOf : List Octet → Option (List Octet × List Octet)
  | [] => none
  | octet :: rest =>
    if (octet :: rest).take 4 = crlf ++ crlf then some ((octet :: rest).take 4,(octet :: rest).drop 4)
    else (headOf rest).map fun split => (octet :: split.1,split.2)

theorem headOf_split (found : headOf buf = some (head,rest)) : buf = head ++ rest ∧ 4 ≤ head.length := by
  fun_induction headOf buf generalizing head rest with
  | case1 => cases found
  | case2 octet others empty =>
      cases found
      refine ⟨(List.take_append_drop 4 _).symm,?_⟩
      rw [empty]
      decide
  | case3 octet others full ih =>
      obtain ⟨⟨first,second⟩,split,same⟩ := Option.map_eq_some_iff.mp found
      cases same
      obtain ⟨whole,long⟩ := ih split
      exact ⟨by rw [whole]; rfl,by simp only [List.length_cons]; omega⟩

theorem starts_append {buf octets : List Octet} (starts : buf.take octets.length = octets) (more : List Octet) :
    (buf ++ more).take octets.length = octets ∧ (buf ++ more).drop octets.length = buf.drop octets.length ++ more := by
  have enough : octets.length ≤ buf.length := by
    have lengths := congrArg List.length starts
    rw [List.length_take] at lengths
    omega
  exact ⟨(List.take_append_of_le_length enough).trans starts,List.drop_append_of_le_length enough⟩

theorem headOf_append (found : headOf buf = some (head,rest)) (more : List Octet) : headOf (buf ++ more) = some (head,rest ++ more) := by
  fun_induction headOf buf generalizing head rest with
  | case1 => cases found
  | case2 octet others empty =>
      cases found
      obtain ⟨taken,dropped⟩ := @starts_append _ (crlf ++ crlf) empty more
      change (octet :: (others ++ more)).take 4 = _ at taken
      change (octet :: (others ++ more)).drop 4 = _ at dropped
      rw [List.cons_append,headOf,if_pos taken,taken,dropped,empty]
      rfl
  | case3 octet others full ih =>
      obtain ⟨⟨first,second⟩,split,same⟩ := Option.map_eq_some_iff.mp found
      cases same
      obtain ⟨whole,long⟩ := headOf_split split
      have enough : 4 ≤ (octet :: others).length := by
        rw [whole,List.length_cons,List.length_append]
        omega
      have still : ¬ (octet :: (others ++ more)).take 4 = crlf ++ crlf := by
        rw [← List.cons_append,List.take_append_of_le_length enough]
        exact full
      rw [List.cons_append,headOf,if_neg still,ih split]
      rfl

theorem drop_shorter {buf octets : List Octet} (starts : buf.take octets.length = octets) (nonempty : 0 < octets.length) :
    (buf.drop octets.length).length < buf.length := by
  have lengths := congrArg List.length starts
  rw [List.length_take] at lengths
  rw [List.length_drop]
  omega

def bodilessCodec : SipCodec (List Octet) where
  decode buf :=
    if double : buf.take 4 = crlf ++ crlf then .ok (some ⟨.keepaliveRequest,buf.drop 4,@drop_shorter _ (crlf ++ crlf) double (by decide)⟩)
    else if single : buf.take 2 = crlf then .ok (some ⟨.keepaliveResponse,buf.drop 2,@drop_shorter _ crlf single (by decide)⟩)
    else
      match found : headOf buf with
      | none => .ok none
      | some (head,rest) => .ok (some ⟨.message head,rest,by
          obtain ⟨whole,long⟩ := headOf_split found
          rw [whole,List.length_append]
          omega⟩)
  toBytes message := message

theorem next_double {buf : List Octet} (double : buf.take 4 = crlf ++ crlf) : bodilessCodec.framer.next buf = bodilessCodec.framer.next (buf.drop 4) := by
  have decoded : bodilessCodec.framer.decode buf = .ok (some ⟨.keepaliveRequest,buf.drop 4,@drop_shorter _ (crlf ++ crlf) double (by decide)⟩) := by
    simp [SipCodec.framer,bodilessCodec,double]
  exact Framer.next_skipped decoded rfl

-- A CRLF may be skipped by itself or as one half of two.
theorem next_single {buf : List Octet} (single : buf.take 2 = crlf) : bodilessCodec.framer.next buf = bodilessCodec.framer.next (buf.drop 2) := by
  induction size : buf.length using Nat.strong_induction_on generalizing buf with
  | _ total ih =>
    by_cases double : buf.take 4 = crlf ++ crlf
    · have rest : (buf.drop 2).take 2 = crlf := by
        have halves := congrArg (List.drop 2) double
        rw [List.drop_take] at halves
        exact halves
      have shorter := @drop_shorter _ crlf single (by decide)
      rw [next_double double,ih _ (size ▸ shorter) rest rfl,List.drop_drop]
    · have decoded : bodilessCodec.framer.decode buf = .ok (some ⟨.keepaliveResponse,buf.drop 2,@drop_shorter _ crlf single (by decide)⟩) := by
        simp [SipCodec.framer,bodilessCodec,double,single]
      exact Framer.next_skipped decoded rfl

theorem next_head {buf : List Octet} (several : buf.take 4 ≠ crlf ++ crlf) (other : buf.take 2 ≠ crlf) (found : headOf buf = some (head,rest)) :
    bodilessCodec.framer.next buf = .ok (some head,rest) := by
  have shorter : rest.length < buf.length := by
    obtain ⟨whole,long⟩ := headOf_split found
    rw [whole,List.length_append]
    omega
  have decoded : bodilessCodec.framer.decode buf = .ok (some ⟨.message head,rest,shorter⟩) := by
    simp only [SipCodec.framer,bodilessCodec,several,other,dite_false]
    split
    · rename_i missing; rw [found] at missing; cases missing
    · rename_i same; rw [found] at same; cases same; rfl
  exact Framer.next_message decoded rfl

-- What the codec takes off a buffer: one of the two keepalives or a head.
theorem bodiless_taken {buf : List Octet} {taken : Taken (SipCodecType (List Octet)) buf}
    (decoded : bodilessCodec.framer.decode buf = .ok (some taken)) :
    (buf.take 4 = crlf ++ crlf ∧ taken.frame = .keepaliveRequest ∧ taken.rest = buf.drop 4) ∨
    (buf.take 2 = crlf ∧ taken.frame = .keepaliveResponse ∧ taken.rest = buf.drop 2) ∨
    (buf.take 4 ≠ crlf ++ crlf ∧ buf.take 2 ≠ crlf ∧ ∃ head, taken.frame = .message head ∧ headOf buf = some (head,taken.rest)) := by
  change bodilessCodec.decode buf = _ at decoded
  unfold bodilessCodec at decoded
  dsimp only at decoded
  split at decoded
  · rename_i double
    cases decoded
    exact .inl ⟨double,rfl,rfl⟩
  rename_i several
  split at decoded
  · rename_i single
    cases decoded
    exact .inr (.inl ⟨single,rfl,rfl⟩)
  rename_i other
  split at decoded
  · cases decoded
  · rename_i head rest found
    cases decoded
    exact .inr (.inr ⟨several,other,head,rfl,found⟩)

theorem bodiless_incremental : bodilessCodec.framer.Incremental where
  delivers buf taken message more decoded isMessage := by
    obtain ⟨frame,rest,shorter⟩ := taken
    obtain ⟨_,rfl,_⟩ | ⟨_,rfl,_⟩ | ⟨several,other,head,rfl,found⟩ := bodiless_taken decoded
    · cases isMessage
    · cases isMessage
    cases isMessage
    obtain ⟨whole,long⟩ := headOf_split found
    have enough : 4 ≤ buf.length := by
      rw [whole,List.length_append]
      omega
    refine next_head ?_ ?_ (headOf_append found more)
    · rw [List.take_append_of_le_length enough]; exact several
    · rw [List.take_append_of_le_length (Nat.le_trans (by decide) enough)]; exact other
  skips buf taken more decoded skipped := by
    obtain ⟨frame,rest,shorter⟩ := taken
    obtain ⟨double,_,rfl⟩ | ⟨single,_,rfl⟩ | ⟨_,_,head,rfl,_⟩ := bodiless_taken decoded
    · obtain ⟨begins,dropped⟩ := @starts_append _ (crlf ++ crlf) double more
      rw [next_double begins]
      exact congrArg _ dropped
    · obtain ⟨begins,dropped⟩ := @starts_append _ crlf single more
      rw [next_single begins]
      exact congrArg _ dropped
    · cases skipped
  fails buf error more failed := by
    change bodilessCodec.decode buf = _ at failed
    unfold bodilessCodec at failed
    dsimp only at failed
    split at failed
    · cases failed
    split at failed
    · cases failed
    split at failed <;> cases failed

def octetsOf (text : String) : List Octet := text.toList.map fun char => BitVec.ofNat 8 char.toNat

def optionsA : List Octet := octetsOf "OPTIONS sip:a SIP/2.0\r\nContent-Length: 0\r\n\r\n"
def optionsB : List Octet := octetsOf "OPTIONS sip:b SIP/2.0\r\nContent-Length: 0\r\n\r\n"

-- One message a read, and a read that ends inside of the first message.
def aligned : List (List Octet) := [optionsA,optionsB]
def halved : List (List Octet) := [optionsA.take 10,optionsA.drop 10,optionsB.take 30,optionsB.drop 30]
def straddling : List (List Octet) := [optionsA.take 40,optionsA.drop 40 ++ optionsB]

end Bodiless

end Sigproxy.Proxy
