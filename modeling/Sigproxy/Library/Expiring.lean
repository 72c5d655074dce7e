import Sigproxy.Library.Table

namespace Sigproxy.Library

-- An entry with the instant it was made at, good for a fixed time.
structure Stamped (Content : Type) where
  content : Content
  createdAt : Nat
  deriving DecidableEq, Repr

def Stamped.fresh (ttl now : Nat) (entry : Stamped Content) : Bool := decide (now - entry.createdAt ≤ ttl)

theorem Stamped.fresh_earlier {entry : Stamped Content} (later : now ≤ time) (fresh : entry.fresh ttl time = true) :
    entry.fresh ttl now = true := by
  simp only [Stamped.fresh,decide_eq_true_eq] at fresh ⊢
  omega

namespace Expiring
variable {Key Content : Type} [DecidableEq Key] {table reference : Table Key (Stamped Content)}

def prune (ttl now : Nat) (table : Table Key (Stamped Content)) : Table Key (Stamped Content) :=
  table.retain fun _ entry => entry.fresh ttl now

-- When entries are dropped once stale is of no account: at `now` the table shows
-- the same fresh entries as one that is never pruned.
def Agrees (ttl now : Nat) (table reference : Table Key (Stamped Content)) : Prop :=
  ∀ key, (table.lookup key).filter (Stamped.fresh ttl now) = (reference.lookup key).filter (Stamped.fresh ttl now)

theorem agrees_refl (ttl now : Nat) (table : Table Key (Stamped Content)) : Agrees ttl now table table := fun _ => rfl

theorem filter_fresh (later : now ≤ time) (found : Option (Stamped Content)) :
    (found.filter (Stamped.fresh ttl now)).filter (Stamped.fresh ttl time) = found.filter (Stamped.fresh ttl time) := by
  cases found with
  | none => rfl
  | some entry =>
      cases stays : entry.fresh ttl time with
      | false => by_cases before : entry.fresh ttl now = true <;> simp [Option.filter,before,stays]
      | true => simp [Option.filter,stays,Stamped.fresh_earlier later stays]

theorem agrees_later (agrees : Agrees ttl now table reference) (later : now ≤ time) :
    Agrees ttl time table reference := by
  intro key
  rw [← filter_fresh later,agrees key,filter_fresh later]

theorem agrees_prune (agrees : Agrees ttl now table reference) : Agrees ttl now (prune ttl now table) reference := by
  intro key
  rw [prune,Table.lookup_retain,filter_fresh (Nat.le_refl now)]
  exact agrees key

theorem agrees_write (agrees : Agrees ttl now table reference) (change : Table.Write Key (Stamped Content)) :
    Agrees ttl now (table.write change) (reference.write change) := by
  intro key
  rw [Table.lookup_write,Table.lookup_write]
  split
  · rfl
  · exact agrees key

theorem lookup_prune (agrees : Agrees ttl now table reference) (key : Key) :
    (prune ttl now table).lookup key = (reference.lookup key).filter (Stamped.fresh ttl now) := by
  rw [prune,Table.lookup_retain]
  exact agrees key

end Expiring
end Sigproxy.Library
