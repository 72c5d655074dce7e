import Sigproxy.Library.Table

namespace Sigproxy.Cluster
open Library

abbrev NodeId := Nat

inductive ClusterRole where
  | leader
  | follower
  | candidate
  | standalone
  deriving DecidableEq, Repr

def ClusterRole.acceptsWrites : ClusterRole → Bool
  | .leader | .standalone => true
  | .follower | .candidate => false

-- Wall-clock milliseconds since the epoch; the source keeps them as u128.
structure ContactBinding where
  aor : String
  contact : String
  source : String
  expiresAtEpochMs : Nat
  deriving DecidableEq, Repr

def ContactBinding.isExpired (binding : ContactBinding) (now : Nat) : Bool :=
  decide (binding.expiresAtEpochMs ≤ now)

structure ContactStateSnapshot where
  contacts : List ContactBinding
  deriving DecidableEq, Repr

inductive ClusterCommand where
  | registerContact (binding : ContactBinding)
  | unregisterContact (aor : String)
  deriving DecidableEq, Repr

def ClusterCommand.aor : ClusterCommand → String
  | .registerContact binding => binding.aor
  | .unregisterContact aor => aor

structure SharedState where
  contacts : Table String ContactBinding

namespace SharedState

def empty : SharedState := ⟨∅⟩

-- Each arm takes the write lock once, so one command is one atomic change.
def apply (state : SharedState) : ClusterCommand → SharedState
  | .registerContact binding => ⟨state.contacts.insert binding.aor binding⟩
  | .unregisterContact aor => ⟨state.contacts.erase aor⟩

-- The two locked sections of a lookup: the clone under the read lock, and the
-- removal of an expired binding under a write lock taken afterwards.
def peek (state : SharedState) (aor : String) : Option ContactBinding := state.contacts.lookup aor
def evict (state : SharedState) (aor : String) : SharedState := ⟨state.contacts.erase aor⟩

def lookup (state : SharedState) (now : Nat) (aor : String) : Option ContactBinding × SharedState :=
  match state.peek aor with
  | none => (none,state)
  | some binding => if binding.isExpired now then (none,state.evict aor) else (some binding,state)

def retainUnexpired (state : SharedState) (now : Nat) : SharedState :=
  ⟨state.contacts.retain fun _ binding => !binding.isExpired now⟩

def snapshot (state : SharedState) (now : Nat) : ContactStateSnapshot × SharedState :=
  let kept := state.retainUnexpired now
  (⟨kept.contacts.values⟩,kept)

def installSnapshot (now : Nat) (snapshot : ContactStateSnapshot) : SharedState :=
  ⟨Table.collect ((snapshot.contacts.filter fun binding => !binding.isExpired now).map
    fun binding => (binding.aor,binding))⟩

-- The binding a lookup at `now` answers with.
def live (state : SharedState) (now : Nat) (aor : String) : Option ContactBinding :=
  (state.lookup now aor).1

theorem live_eq (state : SharedState) (now : Nat) (aor : String) :
    state.live now aor = (state.contacts.lookup aor).filter fun binding => !binding.isExpired now := by
  unfold live lookup peek
  cases found : state.contacts.lookup aor with
  | none => rfl
  | some binding => cases expired : binding.isExpired now <;> simp [expired,Option.filter]

-- Every binding stands under its own address of record.
def Keyed (state : SharedState) : Prop :=
  ∀ aor binding, state.contacts.lookup aor = some binding → binding.aor = aor

theorem apply_keyed (keyed : Keyed state) (command : ClusterCommand) : Keyed (state.apply command) := by
  intro aor binding found
  cases command with
  | registerContact registered =>
      simp only [apply,Table.lookup_insert_eq] at found
      split at found
      · rename_i same; cases found; exact same.symm
      · exact keyed aor binding found
  | unregisterContact removed =>
      simp only [apply,Table.lookup_erase_eq] at found
      split at found
      · cases found
      · exact keyed aor binding found

theorem snapshot_keyed (keyed : Keyed state) (now : Nat) : Keyed (state.snapshot now).2 := by
  intro aor binding found
  simp only [snapshot,retainUnexpired,Table.lookup_retain,Option.filter_eq_some_iff] at found
  exact keyed aor binding found.1

theorem isExpired_mono {binding : ContactBinding} (expired : binding.isExpired now = true) (later : now ≤ time) :
    binding.isExpired time = true := by
  simp only [ContactBinding.isExpired,decide_eq_true_eq] at expired ⊢
  omega

theorem filter_unexpired (held : Option ContactBinding) (later : now ≤ time) :
    ((held.filter fun binding => !binding.isExpired now).filter fun binding => !binding.isExpired time) =
      held.filter fun binding => !binding.isExpired time := by
  cases held with
  | none => rfl
  | some binding =>
      cases expired : binding.isExpired now with
      | true => simp [Option.filter,expired,isExpired_mono expired later]
      | false => simp [Option.filter,expired]

theorem snapshot_live (state : SharedState) (later : now ≤ time) (aor : String) :
    (state.snapshot now).2.live time aor = state.live time aor := by
  rw [live_eq,live_eq]
  simp only [snapshot,retainUnexpired,Table.lookup_retain]
  exact filter_unexpired _ later

-- A lookup removes nothing that is still alive.
theorem lookup_live (state : SharedState) (later : now ≤ time) (asked aor : String) :
    (state.lookup now asked).2.live time aor = state.live time aor := by
  unfold lookup peek
  cases found : state.contacts.lookup asked with
  | none => rfl
  | some binding =>
      cases expired : binding.isExpired now with
      | false => simp [expired]
      | true =>
          simp only [expired,if_true,live_eq,evict,Table.lookup_erase_eq]
          split
          · rename_i same
            rw [same,found]
            simp [Option.filter,isExpired_mono expired later]
          · rfl

-- A standby that installs the snapshot later holds what was alive when it was taken.
theorem install_snapshot_live (keyed : Keyed state) (later : now ≤ time) (aor : String) :
    (installSnapshot time (state.snapshot now).1).live time aor = state.live time aor := by
  have rebuilt : (installSnapshot time (state.snapshot now).1).contacts.lookup aor =
      ((state.snapshot now).2.contacts.lookup aor).filter fun binding => !binding.isExpired time :=
    Table.lookup_collect_values (snapshot_keyed keyed now) _ aor
  rw [← snapshot_live state later,live_eq,live_eq,rebuilt,filter_unexpired _ (Nat.le_refl time)]

end SharedState

def ClusterCommand.write : ClusterCommand → Table.Write String ContactBinding
  | .registerContact binding => .put binding.aor binding
  | .unregisterContact aor => .drop aor

@[simp] theorem ClusterCommand.write_key (command : ClusterCommand) : command.write.key = command.aor := by
  cases command <;> rfl

theorem SharedState.apply_contacts (state : SharedState) (command : ClusterCommand) :
    (state.apply command).contacts = state.contacts.write command.write := by
  cases command <;> rfl

end Sigproxy.Cluster
