import Mathlib.Data.List.Basic

namespace Sigproxy.Proxy.UdpDispatch

section Channels
variable {Packet : Type}

-- A bounded channel: what waits in it, and whether its receiver is gone.
structure Sender (Packet : Type) where
  queued : List Packet
  capacity : Nat
  closed : Bool
  deriving DecidableEq, Repr

inductive TrySendError (Packet : Type) where
  | full (packet : Packet)
  | closed (packet : Packet)

def Sender.push (sender : Sender Packet) (packet : Packet) : Sender Packet := {sender with queued:=sender.queued ++ [packet]}

def Sender.trySend (sender : Sender Packet) (packet : Packet) : Except (TrySendError Packet) (Sender Packet) :=
  if sender.closed then .error (.closed packet)
  else if sender.queued.length < sender.capacity then .ok (sender.push packet)
  else .error (.full packet)

def Sender.accepts (sender : Sender Packet) : Bool := !sender.closed && decide (sender.queued.length < sender.capacity)

-- What a dispatch leaves: its result, the cursor and the queues.
abbrev Dispatched (Packet : Type) := Except Packet Nat × Nat × List (Sender Packet)

-- The loop over the offsets that are left. An `expect` or an index that fails is `none`.
def attempts (start : Nat) (handlers : List (Sender Packet)) : List Nat → Option Packet → Option (Dispatched Packet)
  | [],packet => do
    let packet ← packet
    return (.error packet,(start + 1) % handlers.length,handlers)
  | offset :: offsets,packet => do
    let index := (start + offset) % handlers.length
    let candidate ← packet
    let handler ← handlers[index]?
    match handler.trySend candidate with
    | .ok sent => return (.ok index,(index + 1) % handlers.length,handlers.set index sent)
    | .error (.full candidate) => attempts start handlers offsets (some candidate)
    | .error (.closed candidate) => attempts start handlers offsets (some candidate)

def trySendUdpPacketToHandlers (handlers : List (Sender Packet)) (nextHandler : Nat) (packet : Packet) : Option (Dispatched Packet) :=
  if handlers.isEmpty then some (.error packet,nextHandler,handlers)
  else attempts (nextHandler % handlers.length) handlers (List.range handlers.length) (some packet)

end Channels

section Attempts
variable {Packet : Type} {start : Nat} {handlers : List (Sender Packet)} {packet : Packet}

theorem trySend_accepts {sender : Sender Packet} (accepts : sender.accepts = true) : sender.trySend packet = .ok (sender.push packet) := by
  rw [Sender.accepts,Bool.and_eq_true,Bool.not_eq_true',decide_eq_true_eq] at accepts
  rw [Sender.trySend,accepts.1,if_neg Bool.false_ne_true,if_pos accepts.2]

-- A queue that rejects the packet hands it back as it was.
theorem trySend_rejects {sender : Sender Packet} (packet : Packet) (rejects : sender.accepts = false) :
    sender.trySend packet = .error (.closed packet) ∨ sender.trySend packet = .error (.full packet) := by
  unfold Sender.trySend
  split
  · exact .inl rfl
  · rename_i isOpen
    rw [Sender.accepts,Bool.eq_false_iff.mpr isOpen,Bool.not_false,Bool.true_and,decide_eq_false_iff_not] at rejects
    rw [if_neg rejects]
    exact .inr rfl

def acceptsAt (start : Nat) (handlers : List (Sender Packet)) (offset : Nat) : Bool :=
  handlers[(start + offset) % handlers.length]?.any Sender.accepts

-- After a rejection the packet is where it was before.
theorem attempts_step (nonempty : 0 < handlers.length) (rejected : acceptsAt start handlers offset = false) (offsets : List Nat) :
    attempts start handlers (offset :: offsets) (some packet) = attempts start handlers offsets (some packet) := by
  have inside : (start + offset) % handlers.length < handlers.length := Nat.mod_lt _ nonempty
  rw [acceptsAt,List.getElem?_eq_getElem inside,Option.any_some] at rejected
  rw [attempts,List.getElem?_eq_getElem inside]
  rcases trySend_rejects packet rejected with closed | full
  · simp only [closed,Option.bind_eq_bind,Option.bind_some]
  · simp only [full,Option.bind_eq_bind,Option.bind_some]

theorem attempts_rejected (nonempty : 0 < handlers.length) {offsets : List Nat} (rejected : ∀ offset ∈ offsets, acceptsAt start handlers offset = false) :
    attempts start handlers offsets (some packet) = some (.error packet,(start + 1) % handlers.length,handlers) := by
  induction offsets with
  | nil => rfl
  | cons offset offsets ih =>
      obtain ⟨here,later⟩ := List.forall_mem_cons.mp rejected
      rw [attempts_step nonempty here]
      exact ih later

theorem attempts_accepted {offsets : List Nat} {offset : Nat} {sender : Sender Packet} (nonempty : 0 < handlers.length)
    (rejected : ∀ earlier ∈ offsets, acceptsAt start handlers earlier = false)
    (found : handlers[(start + offset) % handlers.length]? = some sender) (accepts : sender.accepts = true) (later : List Nat) :
    attempts start handlers (offsets ++ offset :: later) (some packet) =
      some (.ok ((start + offset) % handlers.length),((start + offset) % handlers.length + 1) % handlers.length,
        handlers.set ((start + offset) % handlers.length) (sender.push packet)) := by
  induction offsets with
  | nil =>
      rw [List.nil_append,attempts,found]
      simp only [trySend_accepts accepts,Option.bind_eq_bind,Option.bind_some]
      rfl
  | cons earlier offsets ih =>
      obtain ⟨here,rest⟩ := List.forall_mem_cons.mp rejected
      rw [List.cons_append,attempts_step nonempty here]
      exact ih rest

theorem range_split (inside : offset < count) : ∃ later, List.range count = List.range offset ++ offset :: later := by
  refine ⟨(List.range count).drop (offset + 1),?_⟩
  have here : offset < (List.range count).length := by rwa [List.length_range]
  have behind := List.drop_eq_getElem_cons here
  rw [List.getElem_range] at behind
  have before : (List.range count).take offset = List.range offset := by
    rw [List.take_range,Nat.min_eq_left (Nat.le_of_lt inside)]
  rw [← behind,← before,List.take_append_drop]

theorem mem_at (start : Nat) (nonempty : 0 < handlers.length) (member : sender ∈ handlers) :
    ∃ offset < handlers.length, handlers[(start % handlers.length + offset) % handlers.length]? = some sender := by
  obtain ⟨index,inside,same⟩ := List.mem_iff_getElem.mp member
  have below : start % handlers.length < handlers.length := Nat.mod_lt _ nonempty
  refine ⟨(index + handlers.length - start % handlers.length) % handlers.length,Nat.mod_lt _ nonempty,?_⟩
  have around : (start % handlers.length + (index + handlers.length - start % handlers.length) % handlers.length) % handlers.length = index := by
    rw [Nat.add_mod_mod,Nat.add_sub_cancel' (by omega),Nat.add_mod_right,Nat.mod_eq_of_lt inside]
  rw [around,List.getElem?_eq_getElem inside,same]

end Attempts

section Dispatch
variable {Packet : Type}

-- What a dispatch has done: one queue holds the packet at its end, the first in cyclic
-- order that had room, or every queue stands as before and the packet comes back.
def Delivered (handlers : List (Sender Packet)) (nextHandler : Nat) (packet : Packet) (after : List (Sender Packet)) : Except Packet Nat → Prop
  | .ok index => ∃ offset < handlers.length, index = (nextHandler + offset) % handlers.length ∧
      (∀ earlier < offset, ∀ sender ∈ handlers[(nextHandler + earlier) % handlers.length]?, sender.accepts = false) ∧
      ∃ sender, handlers[index]? = some sender ∧ sender.accepts = true ∧ after = handlers.set index (sender.push packet)
  | .error returned => returned = packet ∧ after = handlers ∧ ∀ sender ∈ handlers, sender.accepts = false

theorem dispatch_keeps_packet (handlers : List (Sender Packet)) (nextHandler : Nat) (packet : Packet) :
    ∃ result next after, trySendUdpPacketToHandlers handlers nextHandler packet = some (result,next,after) ∧
      Delivered handlers nextHandler packet after result ∧
      (handlers ≠ [] → next < handlers.length) ∧ (handlers = [] → next = nextHandler) := by
  cases vacant : handlers.isEmpty with
  | true =>
      rw [List.isEmpty_iff] at vacant
      subst vacant
      exact ⟨_,_,_,rfl,⟨rfl,rfl,nofun⟩,fun present => (present rfl).elim,fun _ => rfl⟩
  | false =>
      have present : handlers ≠ [] := by rwa [ne_eq,← List.isEmpty_iff,Bool.not_eq_true]
      have nonempty : 0 < handlers.length := List.length_pos_iff.mpr present
      have turn : ∀ offset, (nextHandler % handlers.length + offset) % handlers.length = (nextHandler + offset) % handlers.length :=
        fun offset => Nat.mod_add_mod ..
      rw [trySendUdpPacketToHandlers,vacant,if_neg Bool.false_ne_true]
      cases found : (List.range handlers.length).find? (acceptsAt (nextHandler % handlers.length) handlers) with
      | none =>
          rw [List.find?_eq_none] at found
          have rejected : ∀ offset ∈ List.range handlers.length, acceptsAt (nextHandler % handlers.length) handlers offset = false :=
            fun offset member => Bool.eq_false_iff.mpr (found offset member)
          refine ⟨_,_,_,attempts_rejected nonempty rejected,⟨rfl,rfl,fun sender member => ?_⟩,fun _ => Nat.mod_lt _ nonempty,fun empty => (present empty).elim⟩
          obtain ⟨offset,inside,here⟩ := mem_at nextHandler nonempty member
          have refused := rejected offset (List.mem_range.mpr inside)
          rwa [acceptsAt,here] at refused
      | some offset =>
          rw [List.find?_range_eq_some] at found
          obtain ⟨accepts,member,earliest⟩ := found
          have inside := List.mem_range.mp member
          have rejected : ∀ earlier ∈ List.range offset, acceptsAt (nextHandler % handlers.length) handlers earlier = false :=
            fun earlier member => by simpa using earliest earlier (List.mem_range.mp member)
          have sends : (nextHandler % handlers.length + offset) % handlers.length < handlers.length := Nat.mod_lt _ nonempty
          rw [acceptsAt,List.getElem?_eq_getElem sends,Option.any_some] at accepts
          obtain ⟨later,split⟩ := range_split inside
          rw [split]
          refine ⟨_,_,_,attempts_accepted nonempty rejected (List.getElem?_eq_getElem sends) accepts later,?_,
            fun _ => Nat.mod_lt _ nonempty,fun empty => (present empty).elim⟩
          refine ⟨offset,inside,turn offset,fun earlier before sender there => ?_,_,List.getElem?_eq_getElem sends,accepts,rfl⟩
          have refused := rejected earlier (List.mem_range.mpr before)
          rwa [acceptsAt,turn,there] at refused

theorem no_handlers_keep_cursor : ¬∀ (handlers : List (Sender Unit)) (nextHandler : Nat) (packet : Unit),
    ∃ result next after, trySendUdpPacketToHandlers handlers nextHandler packet = some (result,next,after) ∧ next < handlers.length := by
  intro all
  obtain ⟨_,next,_,_,below⟩ := all [] 0 ()
  exact Nat.not_lt_zero next below

end Dispatch

end Sigproxy.Proxy.UdpDispatch
