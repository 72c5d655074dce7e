import Mathlib.Data.List.Basic

namespace Sigproxy.Library

-- What a decoder takes off the front of a buffer.
structure Taken (Frame : Type) (buffer : List Item) where
  frame : Frame
  rest : List Item
  shorter : rest.length < buffer.length

-- A decoder of frames, with the messages among them.
structure Framer (Item Frame Message : Type) where
  decode : (buffer : List Item) → Except String (Option (Taken Frame buffer))
  content : Frame → Option Message

namespace Framer
variable {Item Frame Message : Type}

-- Frames are taken until one is a message or no whole one is left.
def next (framer : Framer Item Frame Message) (buffer : List Item) : Except String (Option Message × List Item) :=
  match framer.decode buffer with
  | .error error => .error error
  | .ok none => .ok (none,buffer)
  | .ok (some taken) =>
    match framer.content taken.frame with
    | some message => .ok (some message,taken.rest)
    | none => framer.next taken.rest
termination_by buffer.length
decreasing_by exact taken.shorter

variable {framer : Framer Item Frame Message} {buffer rest : List Item}

theorem next_message {message : Message} {taken : Taken Frame buffer} (decoded : framer.decode buffer = .ok (some taken))
    (isMessage : framer.content taken.frame = some message) : framer.next buffer = .ok (some message,taken.rest) := by
  rw [next,decoded]
  simp only [isMessage]

theorem next_skipped {taken : Taken Frame buffer} (decoded : framer.decode buffer = .ok (some taken))
    (skipped : framer.content taken.frame = none) : framer.next buffer = framer.next taken.rest := by
  rw [next,decoded]
  simp only [skipped]

theorem next_shorter {message : Message} (found : framer.next buffer = .ok (some message,rest)) : rest.length < buffer.length := by
  fun_induction next framer buffer with
  | case1 => cases found
  | case2 => cases found
  | case3 buffer taken decoded other isMessage =>
      cases found
      exact taken.shorter
  | case4 buffer taken decoded skipped ih => exact Nat.lt_trans (ih found) taken.shorter

theorem next_bounded {found : Option Message} (ended : framer.next buffer = .ok (found,rest)) : rest.length ≤ buffer.length := by
  fun_induction next framer buffer with
  | case1 => cases ended
  | case2 => cases ended; exact Nat.le_refl _
  | case3 buffer taken decoded message isMessage => cases ended; exact Nat.le_of_lt taken.shorter
  | case4 buffer taken decoded skipped ih => exact Nat.le_trans (ih ended) (Nat.le_of_lt taken.shorter)

-- All messages of a stream, and what is left behind them.
def framed (framer : Framer Item Frame Message) (buffer : List Item) : List Message × Except String (List Item) :=
  match _found : framer.next buffer with
  | .error error => ([],.error error)
  | .ok (none,rest) => ([],.ok rest)
  | .ok (some message,rest) => (message :: (framer.framed rest).1,(framer.framed rest).2)
termination_by buffer.length
decreasing_by all_goals exact next_shorter _found

theorem framed_failed (failed : framer.next buffer = .error error) : framer.framed buffer = ([],.error error) := by
  rw [framed]
  split
  · rename_i other
    rw [failed] at other
    cases other
    rfl
  · rename_i other; rw [failed] at other; cases other
  · rename_i other; rw [failed] at other; cases other

theorem framed_unfinished (ended : framer.next buffer = .ok (none,rest)) : framer.framed buffer = ([],.ok rest) := by
  rw [framed]
  split
  · rename_i other; rw [ended] at other; cases other
  · rename_i other
    rw [ended] at other
    cases other
    rfl
  · rename_i other; rw [ended] at other; cases other

theorem framed_message {message : Message} (found : framer.next buffer = .ok (some message,rest)) :
    framer.framed buffer = (message :: (framer.framed rest).1,(framer.framed rest).2) := by
  rw [framed]
  split
  · rename_i other; rw [found] at other; cases other
  · rename_i other; rw [found] at other; cases other
  · rename_i other
    rw [found] at other
    cases other
    rfl

-- What has been taken off a buffer does not depend on what comes behind it, and
-- frames that are no messages may be skipped before or after it has come.
structure Incremental (framer : Framer Item Frame Message) : Prop where
  delivers : ∀ (buffer : List Item) (taken : Taken Frame buffer) (message : Message) (more : List Item), framer.decode buffer = .ok (some taken) →
    framer.content taken.frame = some message → framer.next (buffer ++ more) = .ok (some message,taken.rest ++ more)
  skips : ∀ (buffer : List Item) (taken : Taken Frame buffer) (more : List Item), framer.decode buffer = .ok (some taken) →
    framer.content taken.frame = none → framer.next (buffer ++ more) = framer.next (taken.rest ++ more)
  fails : ∀ buffer error more, framer.decode buffer = .error error → framer.next (buffer ++ more) = .error error

namespace Incremental
variable (incremental : framer.Incremental) (more : List Item)
include incremental

theorem next_append : framer.next (buffer ++ more) =
    match framer.next buffer with
    | .error error => .error error
    | .ok (none,rest) => framer.next (rest ++ more)
    | .ok (some message,rest) => .ok (some message,rest ++ more) := by
  fun_induction next framer buffer with
  | case1 buffer error failed => exact incremental.fails buffer error more failed
  | case2 buffer missing => rfl
  | case3 buffer taken decoded message isMessage => exact incremental.delivers buffer taken message more decoded isMessage
  | case4 buffer taken decoded skipped ih => exact (incremental.skips buffer taken more decoded skipped).trans ih

theorem framed_next (ended : framer.next buffer = .ok (none,rest)) : framer.framed (buffer ++ more) = framer.framed (rest ++ more) := by
  have same : framer.next (buffer ++ more) = framer.next (rest ++ more) := by rw [incremental.next_append,ended]
  match found : framer.next (rest ++ more) with
  | .error error => rw [framed_failed found,framed_failed (same.trans found)]
  | .ok (none,left) => rw [framed_unfinished found,framed_unfinished (same.trans found)]
  | .ok (some message,left) => rw [framed_message found,framed_message (same.trans found)]

theorem framed_after {message : Message} (found : framer.next buffer = .ok (some message,rest)) :
    framer.framed (buffer ++ more) = (message :: (framer.framed (rest ++ more)).1,(framer.framed (rest ++ more)).2) :=
  framed_message (by rw [incremental.next_append,found])

theorem framed_error (failed : framer.next buffer = .error error) : framer.framed (buffer ++ more) = ([],.error error) :=
  framed_failed (by rw [incremental.next_append,failed])

end Incremental
end Framer

end Sigproxy.Library
