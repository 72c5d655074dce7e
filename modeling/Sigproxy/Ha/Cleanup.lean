import Sigproxy.Library.DecimalText
import Sigproxy.Persistence

namespace Sigproxy.Persistence.Database
open Library DecimalText Cluster Affinity

-- What a cleanup is for: rows that have expired go, and nothing else changes.
structure CleansExactly (db : Database) (now retainNow eventRetentionSeconds : Nat) : Prop where
  contacts : ∀ aor, (db.cleanupExpired now retainNow eventRetentionSeconds).contacts.lookup aor =
    (db.contacts.lookup aor).filter fun row => decide (now < row.expiresAtEpochMs)
  affinity : ∀ key, (db.cleanupExpired now retainNow eventRetentionSeconds).affinity.lookup key =
    (db.affinity.lookup key).filter fun row => decide (now < row.expiresAtEpochMs)
  loadContacts : (db.cleanupExpired now retainNow eventRetentionSeconds).loadContacts now = db.loadContacts now
  loadAffinity : (db.cleanupExpired now retainNow eventRetentionSeconds).loadAffinity now = db.loadAffinity now
  haEvents : (db.cleanupExpired now retainNow eventRetentionSeconds).haEvents =
    db.haEvents.filter fun row => decide (retainNow - eventRetentionSeconds * 1000 < row.createdAtEpochMs)

theorem textLe_agrees (left right : Nat) : (!textLe left right) = decide (right < left) ↔ Aligned left right := by
  rw [← text_le_agrees,textLe,← decide_not,decide_eq_decide,← not_le,not_iff_not]

section Rows
variable {Key Row : Type} [DecidableEq Key] {expires : Row → Nat}

-- Rows kept by the text of their expiry, against those that are still to expire.
theorem retained_exactly_iff (table : Table Key Row) (now : Nat) :
    (∀ key, (table.retain fun _ row => !textLe (expires row) now).lookup key =
        (table.lookup key).filter fun row => decide (now < expires row)) ↔
      ∀ entry ∈ table.entries, Aligned (expires entry.2) now := by
  simp only [Table.lookup_retain]
  constructor
  · intro exact entry member
    have kept := exact entry.1
    rw [Table.lookup_iff_mem.mpr member,Option.filter_some,Option.filter_some] at kept
    apply (textLe_agrees _ _).mp
    cases text : !textLe (expires entry.2) now <;> cases numeric : decide (now < expires entry.2) <;> simp [text,numeric] at kept ⊢
  · intro aligned key
    cases found : table.lookup key with
    | none => rfl
    | some row =>
        have agrees := (textLe_agrees _ _).mpr (aligned _ (Table.lookup_iff_mem.mp found))
        simp only [Option.filter_some,agrees]

omit [DecidableEq Key] in
theorem retained_loaded (table : Table Key Row) (now : Nat) (aligned : ∀ entry ∈ table.entries, Aligned (expires entry.2) now) :
    (table.retain fun _ row => !textLe (expires row) now).entries.filter (fun entry => decide (now < expires entry.2)) =
      table.entries.filter fun entry => decide (now < expires entry.2) := by
  unfold Table.retain
  rw [List.filter_filter]
  apply List.filter_congr
  intro entry member
  have agrees := (textLe_agrees _ _).mpr (aligned entry member)
  simp only [agrees,Bool.and_self]

end Rows

theorem filtered_exactly_iff {Row : Type} (rows : List Row) (first second : Row → Bool) :
    rows.filter first = rows.filter second ↔ ∀ row ∈ rows, first row = second row := by
  refine ⟨fun same row member => ?_,List.filter_congr⟩
  have kept : row ∈ rows.filter first ↔ row ∈ rows.filter second := by rw [same]
  simp only [List.mem_filter,member,true_and] at kept
  exact Bool.eq_iff_iff.mpr kept

theorem cleans_exactly_iff (db : Database) (now retainNow eventRetentionSeconds : Nat) :
    CleansExactly db now retainNow eventRetentionSeconds ↔
      (∀ entry ∈ db.contacts.entries, Aligned entry.2.expiresAtEpochMs now) ∧
      (∀ entry ∈ db.affinity.entries, Aligned entry.2.expiresAtEpochMs now) ∧
      ∀ row ∈ db.haEvents, Aligned row.createdAtEpochMs (retainNow - eventRetentionSeconds * 1000) := by
  have events := (filtered_exactly_iff db.haEvents (fun row => !textLe row.createdAtEpochMs (retainNow - eventRetentionSeconds * 1000))
    (fun row => decide (retainNow - eventRetentionSeconds * 1000 < row.createdAtEpochMs)))
  simp only [textLe_agrees] at events
  constructor
  · intro exact
    exact ⟨(retained_exactly_iff db.contacts now).mp exact.contacts,(retained_exactly_iff db.affinity now).mp exact.affinity,
      events.mp exact.haEvents⟩
  · intro given
    rcases given with ⟨contacts,affinity,logged⟩
    refine ⟨(retained_exactly_iff db.contacts now).mpr contacts,(retained_exactly_iff db.affinity now).mpr affinity,?_,?_,events.mpr logged⟩
    · have loaded := retained_loaded db.contacts now contacts
      unfold loadContacts cleanupExpired
      simp only [List.filter_map,Function.comp_def,contactOf,loaded]
    · have loaded := retained_loaded db.affinity now affinity
      unfold loadAffinity cleanupExpired
      simp only [loaded]

-- An expiry of one digit more than the clock, whose text is the smaller one.
def distantDatabase : Database :=
  {migrate with contacts:=Table.collect [("sip:200@example.com",⟨"sip:200@10.0.0.1:5060","10.0.0.1:5060",11700000000000,some 1⟩)]}

theorem distant_contact_deleted : (distantDatabase.loadContacts 1700000000000).contacts.length = 1 ∧
    ((distantDatabase.cleanupExpired 1700000000000 1700000000000 86400).loadContacts 1700000000000).contacts = [] := by
  decide +kernel

end Sigproxy.Persistence.Database
