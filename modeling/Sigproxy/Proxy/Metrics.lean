import Mathlib
import Sigproxy.Library.Fields
import Sigproxy.Library.Machine
import Sigproxy.Library.Table

namespace Sigproxy.Proxy.Metrics
open Library

def metricShards : Nat := 64

abbrev Label := String × String

-- A counter behind its Arc; the atomic value wraps around.
structure Counter where
  name : String
  labels : List Label
  value : Nat
  deriving DecidableEq, Repr

def counterKey (name : String) (labels : List Label) : String :=
  labels.foldl (fun key label => key ++ "|" ++ label.1 ++ "=" ++ label.2) name

def Counter.key (counter : Counter) : String := counterKey counter.name counter.labels

inductive Stage where
  | reading
  | inserting
  | holding (counter : Nat)
  deriving DecidableEq, Repr

-- A caller of incr, incr_by or counter: what it asks for, and how far counter_arc has come.
structure Task where
  name : String
  labels : List Label
  stage : Stage

-- Counters are numbered in the order they are made in; `added` is what has been added
-- under which key.
structure ProxyMetrics where
  shards : Nat → Table String Nat
  counters : List Counter
  tasks : List Task
  added : List (String × Nat)

inductive Action where
  | ask (name : String) (labels : List Label)
  | read (task : Nat)
  | insert (task : Nat)
  | incrBy (task amount : Nat)

section Steps
variable (hash : String → Nat)

def metricShardIndex (key : String) : Nat := hash key % metricShards

namespace ProxyMetrics

def default : ProxyMetrics := ⟨fun _ => ∅,[],[],[]⟩

def lookup (metrics : ProxyMetrics) (key : String) : Option Nat := (metrics.shards (metricShardIndex hash key)).lookup key

def stand (metrics : ProxyMetrics) (index : Nat) (task : Task) (stage : Stage) : ProxyMetrics :=
  {metrics with tasks:=metrics.tasks.set index {task with stage:=stage}}

-- What the write lock sees may have been put in since the read lock was given back.
def insertVacant (metrics : ProxyMetrics) (index : Nat) (task : Task) : ProxyMetrics :=
  let key := counterKey task.name task.labels
  match metrics.lookup hash key with
  | some counter => metrics.stand index task (.holding counter)
  | none =>
    let shard := metricShardIndex hash key
    {metrics.stand index task (.holding metrics.counters.length) with
      shards:=Function.update metrics.shards shard ((metrics.shards shard).insert key metrics.counters.length)
      counters:=metrics.counters ++ [⟨task.name,task.labels,0⟩]}

def fetchAdd (metrics : ProxyMetrics) (task : Task) (counter amount : Nat) : ProxyMetrics :=
  {metrics with
    counters:=metrics.counters.modify counter fun known => {known with value:=(known.value + amount) % 2 ^ 64}
    added:=metrics.added ++ [(counterKey task.name task.labels,amount)]}

def advance (metrics : ProxyMetrics) : Action → Option ProxyMetrics
  | .ask name labels => some {metrics with tasks:=metrics.tasks ++ [⟨name,labels,.reading⟩]}
  | .read index => do
    let task ← metrics.tasks[index]?
    match task.stage with
    | .reading =>
      match metrics.lookup hash (counterKey task.name task.labels) with
      | some counter => some (metrics.stand index task (.holding counter))
      | none => some (metrics.stand index task .inserting)
    | _ => none
  | .insert index => do
    let task ← metrics.tasks[index]?
    match task.stage with
    | .inserting => some (metrics.insertVacant hash index task)
    | _ => none
  | .incrBy index amount => do
    let task ← metrics.tasks[index]?
    match task.stage with
    | .holding counter => some (metrics.fetchAdd task counter amount)
    | _ => none

def shardCounters (metrics : ProxyMetrics) (shard : Nat) : List Counter :=
  (metrics.shards shard).values.filterMap fun counter => metrics.counters[counter]?

-- What render_prometheus takes out of the shards.
def samples (metrics : ProxyMetrics) : List Counter :=
  (List.range metricShards).flatMap fun shard => (metrics.shardCounters shard).filter fun counter => 0 < counter.value

end ProxyMetrics
end Steps

def addedUnder (added : List (String × Nat)) (key : String) : Nat := ((added.filter (·.1 == key)).map Prod.snd).sum

section Invariant
variable {hash : String → Nat} {metrics next : ProxyMetrics}

-- Every key has one counter, in its own shard, and what has been added under the key is
-- what the counter holds.
structure Sound (hash : String → Nat) (metrics : ProxyMetrics) : Prop where
  placed : ∀ shard key counter, (metrics.shards shard).lookup key = some counter → shard = metricShardIndex hash key ∧
    ∃ known, metrics.counters[counter]? = some known ∧ known.key = key
  numbered : ∀ (counter : Nat) (known : Counter), metrics.counters[counter]? = some known → metrics.lookup hash known.key = some counter
  held : ∀ task ∈ metrics.tasks, ∀ counter, task.stage = .holding counter → metrics.lookup hash (counterKey task.name task.labels) = some counter
  exact : ∀ (counter : Nat) (known : Counter), metrics.counters[counter]? = some known →
    known.value = addedUnder metrics.added known.key % 2 ^ 64
  credited : ∀ pair ∈ metrics.added, ∃ counter, metrics.lookup hash pair.1 = some counter

theorem default_sound (hash : String → Nat) : Sound hash .default where
  placed := by simp [ProxyMetrics.default]
  numbered := by simp [ProxyMetrics.default]
  held := by simp [ProxyMetrics.default]
  exact := by simp [ProxyMetrics.default]
  credited := by simp [ProxyMetrics.default]

theorem Sound.stand (sound : Sound hash metrics) {task : Task} (knows : ∀ counter, stage = .holding counter →
    metrics.lookup hash (counterKey task.name task.labels) = some counter) : Sound hash (metrics.stand index task stage) := by
  refine ⟨sound.placed,sound.numbered,fun other member counter holding => ?_,sound.exact,sound.credited⟩
  rcases List.mem_or_eq_of_mem_set member with old | rfl
  · exact sound.held other old counter holding
  · exact knows counter holding

theorem Sound.insertVacant (sound : Sound hash metrics) (index : Nat) (task : Task) : Sound hash (metrics.insertVacant hash index task) := by
  unfold ProxyMetrics.insertVacant
  dsimp only
  generalize own : counterKey task.name task.labels = key
  cases found : metrics.lookup hash key with
  | some counter => exact sound.stand fun other same => by cases same; exact own ▸ found
  | none =>
      -- The key has been in no shard, so that no other key's entry changes.
      have looked (other : String) : (Function.update metrics.shards (metricShardIndex hash key)
          ((metrics.shards (metricShardIndex hash key)).insert key metrics.counters.length) (metricShardIndex hash other)).lookup other =
            if other = key then some metrics.counters.length else metrics.lookup hash other := by
        by_cases shard : metricShardIndex hash other = metricShardIndex hash key
        · simp only [shard,Function.update_self,Table.lookup_insert_eq,ProxyMetrics.lookup]
        · have different : other ≠ key := fun same => shard (same ▸ rfl)
          simp only [Function.update_of_ne shard,if_neg different,ProxyMetrics.lookup]
      have kept (other : String) (counter : Nat) (before : metrics.lookup hash other = some counter) :
          (if other = key then some metrics.counters.length else metrics.lookup hash other) = some counter := by
        have different : other ≠ key := fun same => by cases (same ▸ found).symm.trans before
        rw [if_neg different,before]
      refine ⟨fun shard other counter held => ?placed,fun counter known counted => ?numbered,fun other member counter holding => ?held,
        fun counter known counted => ?exact,fun pair member => ?credited⟩
      case placed =>
          dsimp only at held
          by_cases same : shard = metricShardIndex hash key
          · subst same
            rw [Function.update_self,Table.lookup_insert_eq] at held
            split at held
            · cases held
              rename_i this
              exact ⟨by rw [this],⟨task.name,task.labels,0⟩,by simp,own.trans this.symm⟩
            · obtain ⟨placed,known,counted,labelled⟩ := sound.placed _ other counter held
              exact ⟨placed,known,(List.getElem?_append_left (List.getElem?_eq_some_iff.mp counted).1).trans counted,labelled⟩
          · rw [Function.update_of_ne same] at held
            obtain ⟨placed,known,counted,labelled⟩ := sound.placed shard other counter held
            exact ⟨placed,known,(List.getElem?_append_left (List.getElem?_eq_some_iff.mp counted).1).trans counted,labelled⟩
      case numbered =>
          refine (looked known.key).trans ?_
          rcases Nat.lt_or_ge counter metrics.counters.length with within | beyond
          · exact kept _ _ (sound.numbered counter known ((List.getElem?_append_left within).symm.trans counted))
          · have at_end := (List.getElem?_eq_some_iff.mp counted).1
            obtain rfl : counter = metrics.counters.length := by simp at at_end; omega
            obtain rfl : known = ⟨task.name,task.labels,0⟩ := by simpa using counted.symm
            exact if_pos own
      case held =>
          refine (looked _).trans ?_
          rcases List.mem_or_eq_of_mem_set member with old | rfl
          · exact kept _ _ (sound.held other old counter holding)
          · cases holding
            exact if_pos own
      case exact =>
          rcases Nat.lt_or_ge counter metrics.counters.length with within | beyond
          · exact sound.exact counter known ((List.getElem?_append_left within).symm.trans counted)
          · have at_end := (List.getElem?_eq_some_iff.mp counted).1
            obtain rfl : counter = metrics.counters.length := by simp at at_end; omega
            obtain rfl : known = ⟨task.name,task.labels,0⟩ := by simpa using counted.symm
            have unadded : addedUnder metrics.added key = 0 := by
              have none_added : metrics.added.filter (·.1 == key) = [] := by
                refine List.filter_eq_nil_iff.mpr fun pair member same => ?_
                obtain ⟨other,credited⟩ := sound.credited pair member
                rw [beq_iff_eq.mp same,found] at credited
                cases credited
              simp [addedUnder,none_added]
            have same : Counter.key ⟨task.name,task.labels,0⟩ = key := own
            simp only [ProxyMetrics.stand,same,unadded,Nat.zero_mod]
      case credited =>
          obtain ⟨counter,credited⟩ := sound.credited pair member
          exact ⟨counter,(looked pair.1).trans (kept _ _ credited)⟩

theorem Sound.fetchAdd (sound : Sound hash metrics) {task : Task} (member : task ∈ metrics.tasks) (holding : task.stage = .holding counter)
    (amount : Nat) : Sound hash (metrics.fetchAdd task counter amount) := by
  have own := sound.held task member counter holding
  obtain ⟨_,mine,counted,labelled⟩ := sound.placed _ _ _ own
  have summed (key : String) : addedUnder (metrics.added ++ [(counterKey task.name task.labels,amount)]) key =
      addedUnder metrics.added key + if counterKey task.name task.labels = key then amount else 0 := by
    by_cases same : counterKey task.name task.labels = key <;> simp [addedUnder,same]
  have modified (other : Nat) (known : Counter) (found : (metrics.fetchAdd task counter amount).counters[other]? = some known) :
      ∃ before, metrics.counters[other]? = some before ∧ known.key = before.key ∧
        known.value = if counter = other then (before.value + amount) % 2 ^ 64 else before.value := by
    simp only [ProxyMetrics.fetchAdd,List.getElem?_modify] at found
    cases before : metrics.counters[other]? with
    | none => simp [before] at found
    | some old =>
        simp only [before,Option.map_eq_map,Option.map_some,Option.some.injEq] at found
        subst found
        refine ⟨old,rfl,?_,?_⟩ <;> split <;> rfl
  refine ⟨fun shard key other held => ?placed,fun other known found => ?numbered,sound.held,fun other known found => ?exact,fun pair added => ?credited⟩
  case placed =>
      obtain ⟨placed,known,found,key⟩ := sound.placed shard key other held
      refine ⟨placed,?_⟩
      simp only [ProxyMetrics.fetchAdd,List.getElem?_modify,found,Option.map_eq_map,Option.map_some,Option.some.injEq,exists_eq_left']
      split <;> exact key
  case numbered =>
      obtain ⟨before,found,key,_⟩ := modified other known found
      rw [key]
      exact sound.numbered other before found
  case exact =>
      obtain ⟨before,found,key,value⟩ := modified other known found
      have exact := sound.exact other before found
      rw [value,key]
      refine Eq.trans ?_ (congrArg (· % 2 ^ 64) (summed before.key).symm)
      by_cases same : counter = other
      · subst same
        cases counted.symm.trans found
        simp only [if_true,labelled,exact,Nat.mod_add_mod]
      · have different : counterKey task.name task.labels ≠ before.key := by
          intro alike
          have again := sound.numbered other before found
          rw [← alike,own] at again
          exact same (Option.some.inj again)
        simp only [if_neg same,if_neg different,Nat.add_zero,exact]
  case credited =>
      rcases List.mem_append.mp added with before | last
      · exact sound.credited pair before
      · cases List.mem_singleton.mp last
        exact ⟨counter,own⟩

theorem step_sound (sound : Sound hash metrics) (stepped : metrics.advance hash action = some next) : Sound hash next := by
  cases action with
  | ask name labels =>
      cases stepped
      refine ⟨sound.placed,sound.numbered,fun task member counter holding => ?_,sound.exact,sound.credited⟩
      rcases List.mem_append.mp member with old | fresh
      · exact sound.held task old counter holding
      · cases List.mem_singleton.mp fresh
        cases holding
  | read index =>
      obtain ⟨task,found,stepped⟩ := Option.bind_eq_some_iff.mp stepped
      split at stepped
      · split at stepped <;> rename_i looked <;> cases stepped
        · exact sound.stand fun counter same => by cases same; exact looked
        · exact sound.stand fun counter same => by cases same
      · cases stepped
  | insert index =>
      obtain ⟨task,found,stepped⟩ := Option.bind_eq_some_iff.mp stepped
      split at stepped <;> cases stepped
      exact sound.insertVacant index task
  | incrBy index amount =>
      obtain ⟨task,found,stepped⟩ := Option.bind_eq_some_iff.mp stepped
      split at stepped
      · rename_i counter holding
        cases stepped
        exact sound.fetchAdd (List.mem_of_getElem? found) holding amount
      · cases stepped

-- What a task asks for never changes.
def Task.asked (task : Task) : String × List Label := (task.name,task.labels)

def Counter.series (counter : Counter) : String × List Label := (counter.name,counter.labels)

-- The series that an action adds to, and how much.
def credit (metrics : ProxyMetrics) : Action → Option ((String × List Label) × Nat)
  | .incrBy index amount => metrics.tasks[index]?.map fun task => (task.asked,amount)
  | _ => none

def keyed (entry : (String × List Label) × Nat) : String × Nat := (counterKey entry.1.1 entry.1.2,entry.2)

structure Recorded (actions : List Action) (metrics : ProxyMetrics) : Prop where
  added : metrics.added = (actions.filterMap (credit metrics)).map keyed
  begun : ∀ index amount, .incrBy index amount ∈ actions → index < metrics.tasks.length
  made : ∀ counter ∈ metrics.counters, ∃ task ∈ metrics.tasks, task.asked = counter.series

theorem stand_asked (metrics : ProxyMetrics) {task : Task} (found : metrics.tasks[index]? = some task) (stage : Stage) :
    (metrics.stand index task stage).tasks.map Task.asked = metrics.tasks.map Task.asked := by
  apply List.ext_getElem?
  intro other
  simp only [ProxyMetrics.stand,List.getElem?_map,List.getElem?_set]
  split
  · rename_i same
    subst same
    rw [if_pos (List.getElem?_eq_some_iff.mp found).1,found]
    rfl
  · rfl

theorem credit_asked (asked : next.tasks.map Task.asked = metrics.tasks.map Task.asked) : credit next = credit metrics := by
  funext action
  cases action with
  | incrBy index amount =>
      have same := congrArg (fun (entries : List (String × List Label)) => entries[index]?) asked
      simp only [List.getElem?_map] at same
      simp only [credit]
      cases later : next.tasks[index]? <;> cases earlier : metrics.tasks[index]? <;> simp [later,earlier] at same ⊢
      exact same
  | _ => rfl

theorem mem_asked (asked : next.tasks.map Task.asked = metrics.tasks.map Task.asked) (member : task ∈ metrics.tasks) :
    ∃ other ∈ next.tasks, other.asked = task.asked := by
  have held : task.asked ∈ next.tasks.map Task.asked := asked ▸ List.mem_map_of_mem member
  exact List.mem_map.mp held

-- A step that adds nothing and makes no counter but one for a task at work.
theorem Recorded.quiet (recorded : Recorded actions metrics) (asked : next.tasks.map Task.asked = metrics.tasks.map Task.asked)
    (added : next.added = metrics.added) (unadding : credit metrics action = none) (early : ∀ index amount, action ≠ .incrBy index amount)
    (made : ∀ counter ∈ next.counters, (∃ old ∈ metrics.counters, old.series = counter.series) ∨
      ∃ task ∈ metrics.tasks, task.asked = counter.series) : Recorded (actions ++ [action]) next := by
  have many : next.tasks.length = metrics.tasks.length := by simpa using congrArg List.length asked
  refine ⟨?_,fun index amount member => ?_,fun counter member => ?_⟩
  · rw [added,recorded.added,credit_asked asked,List.filterMap_append]
    simp [unadding]
  · rcases List.mem_append.mp member with before | last
    · exact many ▸ recorded.begun index amount before
    · exact absurd (List.mem_singleton.mp last).symm (early index amount)
  · rcases made counter member with ⟨old,known,same⟩ | ⟨task,known,same⟩
    · obtain ⟨task,present,series⟩ := recorded.made old known
      obtain ⟨other,there,alike⟩ := mem_asked asked present
      exact ⟨other,there,alike.trans (series.trans same)⟩
    · obtain ⟨other,there,alike⟩ := mem_asked asked known
      exact ⟨other,there,alike.trans same⟩

theorem step_recorded (recorded : Recorded actions metrics) (stepped : metrics.advance hash action = some next) :
    Recorded (actions ++ [action]) next := by
  have old : ∀ counter ∈ metrics.counters, (∃ old ∈ metrics.counters, old.series = counter.series) ∨
      ∃ task ∈ metrics.tasks, task.asked = counter.series := fun counter member => .inl ⟨counter,member,rfl⟩
  cases action with
  | ask name labels =>
      cases stepped
      refine ⟨?_,fun index amount member => ?_,fun counter member => ?_⟩
      · have same : actions.filterMap (credit {metrics with tasks:=metrics.tasks ++ [⟨name,labels,.reading⟩]}) = actions.filterMap (credit metrics) := by
          refine List.filterMap_congr fun action member => ?_
          cases action with
          | incrBy index amount => simp [credit,List.getElem?_append_left (recorded.begun index amount member)]
          | _ => rfl
        rw [List.filterMap_append,same]
        simpa [credit,List.filterMap_cons] using recorded.added
      · have before : Action.incrBy index amount ∈ actions := by simpa using member
        simpa using Nat.lt_succ_of_lt (recorded.begun index amount before)
      · obtain ⟨task,present,same⟩ := recorded.made counter member
        exact ⟨task,List.mem_append_left _ present,same⟩
  | read index =>
      obtain ⟨task,found,stepped⟩ := Option.bind_eq_some_iff.mp stepped
      split at stepped
      · split at stepped <;> cases stepped <;> exact recorded.quiet (stand_asked metrics found _) rfl rfl (by simp) old
      · cases stepped
  | insert index =>
      obtain ⟨task,found,stepped⟩ := Option.bind_eq_some_iff.mp stepped
      split at stepped
      · cases stepped
        unfold ProxyMetrics.insertVacant
        dsimp only
        split
        · exact recorded.quiet (stand_asked metrics found _) rfl rfl (by simp) old
        · refine recorded.quiet (stand_asked metrics found _) rfl rfl (by simp) fun counter member => ?_
          rcases List.mem_append.mp member with before | last
          · exact old counter before
          · cases List.mem_singleton.mp last
            exact .inr ⟨task,List.mem_of_getElem? found,rfl⟩
      · cases stepped
  | incrBy index amount =>
      obtain ⟨task,found,stepped⟩ := Option.bind_eq_some_iff.mp stepped
      split at stepped
      · rename_i counter holding
        cases stepped
        refine ⟨?_,fun other number member => ?_,fun counter member => ?_⟩
        · have same : credit (metrics.fetchAdd task counter amount) = credit metrics := credit_asked rfl
          rw [same,List.filterMap_append,List.map_append,← recorded.added]
          simp [ProxyMetrics.fetchAdd,credit,found,keyed,Task.asked]
        · rcases List.mem_append.mp member with before | last
          · exact recorded.begun other number before
          · cases List.mem_singleton.mp last
            exact (List.getElem?_eq_some_iff.mp found).1
        · obtain ⟨place,modified⟩ := List.mem_iff_getElem?.mp member
          simp only [ProxyMetrics.fetchAdd,List.getElem?_modify,Option.map_eq_map] at modified
          obtain ⟨before,counted,same⟩ := Option.map_eq_some_iff.mp modified
          obtain ⟨maker,present,series⟩ := recorded.made before (List.mem_of_getElem? counted)
          refine ⟨maker,present,series.trans ?_⟩
          subst same
          split <;> rfl
      · cases stepped

theorem run_sound (ran : Machine.run (ProxyMetrics.advance hash) .default actions = some metrics) : Sound hash metrics ∧ Recorded actions metrics := by
  induction actions using List.reverseRecOn generalizing metrics with
  | nil =>
      cases ran
      exact ⟨default_sound hash,rfl,by simp,by simp [ProxyMetrics.default]⟩
  | append_singleton actions last ih =>
      obtain ⟨before,reached,stepped⟩ := Machine.run_append.mp ran
      obtain ⟨_,stepped,done⟩ := Machine.run_cons.mp stepped
      cases done
      obtain ⟨sound,recorded⟩ := ih reached
      exact ⟨step_sound sound stepped,step_recorded recorded stepped⟩

end Invariant

section Keys

-- The texts of a series that its key can be taken apart into again.
structure Plain (series : String × List Label) : Prop where
  name : '|' ∉ series.1.toList
  labels : ∀ label ∈ series.2, '|' ∉ label.1.toList ∧ '=' ∉ label.1.toList ∧ '|' ∉ label.2.toList

def labelField (label : Label) : List Char := label.1.toList ++ '=' :: label.2.toList

theorem counterKey_fields (name : String) (labels : List Label) :
    (counterKey name labels).toList = ['|'].intercalate (name.toList :: labels.map labelField) := by
  induction labels using List.reverseRecOn with
  | nil => simp [counterKey]
  | append_singleton labels label ih =>
      have step : counterKey name (labels ++ [label]) = counterKey name labels ++ "|" ++ label.1 ++ "=" ++ label.2 := by
        simp [counterKey]
      have joined := @Fields.joined_append _ '|' _ _ (List.cons_ne_nil name.toList (labels.map labelField)) (List.cons_ne_nil (labelField label) [])
      rw [List.map_append,List.map_singleton,← List.cons_append,joined,← ih,step]
      simp [labelField]

theorem labelField_inj {first second : Label} (firstFree : '=' ∉ first.1.toList) (secondFree : '=' ∉ second.1.toList) :
    labelField first = labelField second ↔ first = second := by
  rw [labelField,labelField,Fields.front_inj firstFree secondFree,Prod.ext_iff,String.toList_inj,String.toList_inj]

theorem labelFields_inj {first second : List Label} (firstFree : ∀ label ∈ first, '=' ∉ label.1.toList)
    (secondFree : ∀ label ∈ second, '=' ∉ label.1.toList) (same : first.map labelField = second.map labelField) : first = second := by
  induction first generalizing second with
  | nil => exact (List.map_eq_nil_iff.mp same.symm).symm
  | cons label first ih =>
      cases second with
      | nil => cases same
      | cons other second =>
          obtain ⟨here,later⟩ := List.cons.inj same
          obtain ⟨free,frees⟩ := List.forall_mem_cons.mp firstFree
          obtain ⟨free',frees'⟩ := List.forall_mem_cons.mp secondFree
          rw [(labelField_inj free free').mp here,ih frees frees' later]

theorem counterKey_inj {first second : String × List Label} (firstPlain : Plain first) (secondPlain : Plain second)
    (same : counterKey first.1 first.2 = counterKey second.1 second.2) : first = second := by
  have free {series : String × List Label} (plain : Plain series) : ∀ field ∈ series.1.toList :: series.2.map labelField, '|' ∉ field := by
    refine List.forall_mem_cons.mpr ⟨plain.name,fun field member => ?_⟩
    obtain ⟨label,known,rfl⟩ := List.mem_map.mp member
    obtain ⟨key,_,value⟩ := plain.labels label known
    simp [labelField,key,value]
  have texts := congrArg String.toList same
  rw [counterKey_fields,counterKey_fields,Fields.joined_inj (List.cons_ne_nil _ _) (List.cons_ne_nil _ _) (free firstPlain) (free secondPlain)] at texts
  obtain ⟨names,labels⟩ := List.cons.inj texts
  refine Prod.ext (String.toList_inj.mp names) ?_
  exact labelFields_inj (fun label member => (firstPlain.labels label member).2.1) (fun label member => (secondPlain.labels label member).2.1) labels

-- Two series of which one has the separators in the text of a label share a counter.
example : counterKey "sip" [("a","b|c=d")] = counterKey "sip" [("a","b"),("c","d")] := by decide

end Keys

section Totals
variable {hash : String → Nat} {metrics : ProxyMetrics} {actions : List Action}

theorem mem_samples {counter : Counter} (sound : Sound hash metrics) :
    counter ∈ metrics.samples ↔ 0 < counter.value ∧ counter ∈ metrics.counters := by
  simp only [ProxyMetrics.samples,ProxyMetrics.shardCounters,List.mem_flatMap,List.mem_range,List.mem_filter,List.mem_filterMap,
    decide_eq_true_eq,Table.mem_values]
  constructor
  · intro given
    obtain ⟨shard,_,⟨number,_,counted⟩,positive⟩ := given
    exact ⟨positive,List.mem_of_getElem? counted⟩
  · intro both
    obtain ⟨number,counted⟩ := List.mem_iff_getElem?.mp both.2
    exact ⟨metricShardIndex hash counter.key,Nat.mod_lt _ (by decide),⟨number,⟨counter.key,sound.numbered number counter counted⟩,counted⟩,both.1⟩

-- What the actions have added to one series.
def total (metrics : ProxyMetrics) (actions : List Action) (series : String × List Label) : Nat :=
  (((actions.filterMap (credit metrics)).filter (·.1 == series)).map Prod.snd).sum

theorem credited_asked {entry : (String × List Label) × Nat} (member : entry ∈ actions.filterMap (credit metrics)) :
    ∃ task ∈ metrics.tasks, task.asked = entry.1 := by
  obtain ⟨action,_,credited⟩ := List.mem_filterMap.mp member
  cases action with
  | incrBy index amount =>
      obtain ⟨task,found,rfl⟩ := Option.map_eq_some_iff.mp credited
      exact ⟨task,List.mem_of_getElem? found,rfl⟩
  | _ => cases credited

theorem addedUnder_total (plain : ∀ task ∈ metrics.tasks, Plain task.asked) (recorded : Recorded actions metrics) (own : Plain series) :
    addedUnder metrics.added (counterKey series.1 series.2) = total metrics actions series := by
  rw [recorded.added,addedUnder,total,List.filter_map,List.map_map]
  have same : (actions.filterMap (credit metrics)).filter ((·.1 == counterKey series.1 series.2) ∘ keyed) =
      (actions.filterMap (credit metrics)).filter (·.1 == series) := by
    refine List.filter_congr fun entry member => ?_
    obtain ⟨task,known,asked⟩ := credited_asked member
    have entryPlain : Plain entry.1 := asked ▸ plain task known
    rw [Bool.eq_iff_iff]
    simp only [Function.comp_apply,keyed,beq_iff_eq]
    exact ⟨counterKey_inj entryPlain own,fun alike => by rw [alike]⟩
  rw [same]
  rfl

theorem shardCounters_keys (sound : Sound hash metrics) (shard : Nat) :
    (metrics.shardCounters shard).map Counter.key = (metrics.shards shard).keys := by
  have entries : ∀ entry ∈ (metrics.shards shard).entries, ∃ known, metrics.counters[entry.2]? = some known ∧ known.key = entry.1 :=
    fun entry member => (sound.placed shard entry.1 entry.2 (Table.lookup_iff_mem.mpr member)).2
  simp only [ProxyMetrics.shardCounters,Table.values,AList.keys,List.keys]
  generalize (metrics.shards shard).entries = held at entries
  induction held with
  | nil => rfl
  | cons entry rest ih =>
      obtain ⟨⟨known,counted,key⟩,later⟩ := List.forall_mem_cons.mp entries
      simp only [List.map_cons,List.filterMap_cons,counted,key]
      exact congrArg (entry.1 :: ·) (ih later)

theorem samples_nodup (sound : Sound hash metrics) : metrics.samples.Nodup := by
  have keyed (shard : Nat) : ((metrics.shardCounters shard).map Counter.key).Nodup := by
    rw [shardCounters_keys sound]
    exact (metrics.shards shard).keys_nodup
  refine List.nodup_flatMap.mpr ⟨fun shard _ => ((keyed shard).of_map _).filter _,?_⟩
  refine List.nodup_range.imp fun {shard other} different => ?_
  intro counter one two
  have index {shard : Nat} (member : counter ∈ (metrics.shardCounters shard).filter fun counter => 0 < counter.value) :
      shard = metricShardIndex hash counter.key := by
    have listed : counter.key ∈ (metrics.shards shard).keys :=
      shardCounters_keys sound shard ▸ List.mem_map_of_mem (List.mem_of_mem_filter member)
    obtain ⟨number,held⟩ := Option.isSome_iff_exists.mp (AList.lookup_isSome.mpr (AList.mem_keys.mpr listed))
    exact (sound.placed shard _ number held).1
  exact different ((index one).trans (index two).symm)

theorem samples_total (sound : Sound hash metrics) (recorded : Recorded actions metrics) (plain : ∀ task ∈ metrics.tasks, Plain task.asked)
    (name : String) (labels : List Label) (value : Nat) :
    ⟨name,labels,value⟩ ∈ metrics.samples ↔ 0 < value ∧ value = total metrics actions (name,labels) % 2 ^ 64 := by
  rw [mem_samples sound]
  refine and_congr_right fun positive => ⟨fun member => ?_,fun same => ?_⟩
  · obtain ⟨number,counted⟩ := List.mem_iff_getElem?.mp member
    obtain ⟨task,known,series⟩ := recorded.made _ member
    have own : Plain (name,labels) := by
      have plainTask := plain task known
      rwa [series] at plainTask
    exact (sound.exact number _ counted).trans (congrArg (· % 2 ^ 64) (addedUnder_total plain recorded own))
  · change 0 < value at positive
    change value = _ at same
    have some_added : ∃ entry ∈ actions.filterMap (credit metrics), entry.1 = (name,labels) := by
      by_contra none_added
      have empty : (actions.filterMap (credit metrics)).filter (·.1 == (name,labels)) = [] :=
        List.filter_eq_nil_iff.mpr fun entry member alike => none_added ⟨entry,member,beq_iff_eq.mp alike⟩
      simp [total,empty] at same
      omega
    obtain ⟨entry,member,series⟩ := some_added
    obtain ⟨task,known,asked⟩ := credited_asked member
    have own : Plain (name,labels) := by
      have plainTask := plain task known
      rwa [asked,series] at plainTask
    have added : keyed entry ∈ metrics.added := recorded.added ▸ List.mem_map_of_mem member
    obtain ⟨number,looked⟩ := sound.credited _ added
    obtain ⟨_,counter,counted,key⟩ := sound.placed _ _ _ looked
    have keyed_series : counter.key = counterKey name labels := by rw [key,keyed,series]
    obtain ⟨maker,present,made⟩ := recorded.made counter (List.mem_of_getElem? counted)
    have ownCounter : Plain counter.series := made ▸ plain maker present
    have alike : counter.series = (name,labels) := counterKey_inj ownCounter own keyed_series
    have value_is := sound.exact number counter counted
    have whole := addedUnder_total plain recorded own
    rw [keyed_series,whole,← same] at value_is
    obtain ⟨_,_,_⟩ := counter
    obtain ⟨rfl,rfl⟩ := Prod.mk.inj alike
    subst value_is
    exact List.mem_of_getElem? counted

-- Two callers both find the key absent; the second one to insert gets the counter of the first.
def overlapping : List Action :=
  [.ask "sip_requests_total" [("method","INVITE")],.ask "sip_requests_total" [("method","INVITE")],.read 0,.read 1,.insert 1,.insert 0,.incrBy 1 1,
    .incrBy 0 1]

end Totals

end Sigproxy.Proxy.Metrics
