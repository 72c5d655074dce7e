import Mathlib.Data.Prod.Lex
import Sigproxy.Library.Numerals
import Sigproxy.Library.Ranges
import Sigproxy.Proxy.Metrics

namespace Sigproxy.Proxy.Metrics
open Library

section Rendering

def replaceChar (char : Char) (text value : List Char) : List Char := value.flatMap fun item => if item = char then text else [item]

-- The backslashes come first, so that what the later steps put in stays as it is.
def escapeLabelValue (value : List Char) : List Char :=
  replaceChar '"' ['\\','"'] (replaceChar '\n' ['\\','n'] (replaceChar '\\' ['\\','\\'] value))

def renderLabel (label : Label) : List Char := label.1.toList ++ ('=' :: '"' :: escapeLabelValue label.2.toList) ++ ['"']

def renderLabels (labels : List Label) : List Char :=
  if labels.isEmpty then [] else '{' :: [','].intercalate (labels.map renderLabel) ++ ['}']

def renderSample (counter : Counter) : List Char :=
  counter.name.toList ++ renderLabels counter.labels ++ ' ' :: Nat.toDigits 10 counter.value ++ ['\n']

def typeLine (name : String) : List Char :=
  ['#',' ','T','Y','P','E',' '] ++ name.toList ++ [' ','c','o','u','n','t','e','r','\n']

-- The loop over the sorted samples, with the name of the last one.
def renderFrom : Option String → List Counter → List Char
  | _,[] => []
  | lastName,counter :: rest =>
    (if lastName ≠ some counter.name then typeLine counter.name else []) ++ renderSample counter ++ renderFrom (some counter.name) rest

def sampleKey (counter : Counter) : String ×ₗ List (String ×ₗ String) := toLex (counter.name,counter.labels.map toLex)

def renderSamples (samples : List Counter) : List Char := renderFrom none (sortBy sampleKey samples)

def ProxyMetrics.renderPrometheus (metrics : ProxyMetrics) : String := .ofList (renderSamples metrics.samples)

end Rendering

section Escaping

def escapeChar (char : Char) : List Char :=
  if char = '\\' then ['\\','\\'] else if char = '\n' then ['\\','n'] else if char = '"' then ['\\','"'] else [char]

theorem escapeLabelValue_chars (value : List Char) : escapeLabelValue value = value.flatMap escapeChar := by
  simp only [escapeLabelValue,replaceChar,List.flatMap_assoc]
  refine List.flatMap_congr fun char _ => ?_
  unfold escapeChar
  by_cases slash : char = '\\'
  · simp [slash]
  · by_cases line : char = '\n'
    · simp [line]
    · simp [slash,line]

-- What a scraper reads of a value, up to the first quote behind no backslash.
def readQuoted : List Char → Option (List Char × List Char)
  | '"' :: rest => some ([],rest)
  | '\\' :: '\\' :: rest => (readQuoted rest).map fun read => ('\\' :: read.1,read.2)
  | '\\' :: 'n' :: rest => (readQuoted rest).map fun read => ('\n' :: read.1,read.2)
  | '\\' :: '"' :: rest => (readQuoted rest).map fun read => ('"' :: read.1,read.2)
  | '\\' :: _ => none
  | char :: rest => (readQuoted rest).map fun read => (char :: read.1,read.2)
  | [] => none

theorem readQuoted_escaped (value rest : List Char) : readQuoted (escapeLabelValue value ++ '"' :: rest) = some (value,rest) := by
  rw [escapeLabelValue_chars]
  induction value with
  | nil => rfl
  | cons char value ih =>
      rw [List.flatMap_cons,List.append_assoc]
      by_cases slash : char = '\\'
      · have here : escapeChar char = ['\\','\\'] := if_pos slash
        rw [here,slash]
        simp [readQuoted,ih]
      · by_cases line : char = '\n'
        · have here : escapeChar char = ['\\','n'] := by simp [escapeChar,line]
          rw [here,line]
          simp [readQuoted,ih]
        · by_cases quote : char = '"'
          · have here : escapeChar char = ['\\','"'] := by simp [escapeChar,quote]
            rw [here,quote]
            simp [readQuoted,ih]
          · have here : escapeChar char = [char] := by simp [escapeChar,slash,line,quote]
            rw [here]
            simp [slash,readQuoted,ih]

theorem escaped_inj {first second rest other : List Char} :
    escapeLabelValue first ++ '"' :: rest = escapeLabelValue second ++ '"' :: other ↔ first = second ∧ rest = other := by
  constructor
  · intro same
    have read := congrArg readQuoted same
    simpa [readQuoted_escaped] using read
  · intro both
    rw [both.1,both.2]

end Escaping

section Reading

-- The names that metrics and labels may have.
def Name (text : String) : Prop := text ≠ "" ∧ text.toList.all (fun char => char.isAlphanum || char = '_') = true

structure Proper (counter : Counter) : Prop where
  name : Name counter.name
  labels : ∀ label ∈ counter.labels, Name label.1

theorem Name.free {text : String} (name : Name text) {char : Char} (other : char.isAlphanum = false) (noLine : char ≠ '_') : char ∉ text.toList := by
  intro member
  have allowed := List.all_eq_true.mp name.2 char member
  simp [other,noLine] at allowed

theorem renderLabel_inj {first second : Label} (firstName : Name first.1) (secondName : Name second.1) {rest other : List Char}
    (same : renderLabel first ++ rest = renderLabel second ++ other) : first = second ∧ rest = other := by
  simp only [renderLabel,List.append_assoc,List.cons_append] at same
  obtain ⟨keys,values⟩ := (Fields.front_inj (firstName.free (by decide) (by decide)) (secondName.free (by decide) (by decide))).mp same
  obtain ⟨texts,behind⟩ := escaped_inj.mp (List.cons.inj values).2
  exact ⟨Prod.ext (String.toList_inj.mp keys) (String.toList_inj.mp texts),behind⟩

-- Labels are told from what they are joined to, up to the brace that ends them.
theorem renderedLabels_inj {first second : List Label} (firstNames : ∀ label ∈ first, Name label.1) (secondNames : ∀ label ∈ second, Name label.1)
    (firstSome : first ≠ []) (secondSome : second ≠ []) {rest other : List Char}
    (same : [','].intercalate (first.map renderLabel) ++ '}' :: rest = [','].intercalate (second.map renderLabel) ++ '}' :: other) :
    first = second ∧ rest = other := by
  induction first generalizing second with
  | nil => exact absurd rfl firstSome
  | cons label first ih =>
      cases second with
      | nil => exact absurd rfl secondSome
      | cons label' second =>
          obtain ⟨name,names⟩ := List.forall_mem_cons.mp firstNames
          obtain ⟨name',names'⟩ := List.forall_mem_cons.mp secondNames
          cases first with
          | nil =>
              cases second with
              | nil =>
                  simp only [List.map_cons,List.map_nil,List.intercalate_singleton] at same
                  obtain ⟨rfl,behind⟩ := renderLabel_inj name name' same
                  exact ⟨rfl,(List.cons.inj behind).2⟩
              | cons next second =>
                  simp only [List.map_cons,List.map_nil,List.intercalate_singleton,List.intercalate_cons_cons,List.append_assoc] at same
                  obtain ⟨_,behind⟩ := renderLabel_inj name name' same
                  simp at behind
          | cons next first =>
              cases second with
              | nil =>
                  simp only [List.map_cons,List.map_nil,List.intercalate_singleton,List.intercalate_cons_cons,List.append_assoc] at same
                  obtain ⟨_,behind⟩ := renderLabel_inj name name' same
                  simp at behind
              | cons next' second =>
                  simp only [List.map_cons,List.intercalate_cons_cons,List.append_assoc] at same
                  obtain ⟨rfl,behind⟩ := renderLabel_inj name name' same
                  have later := (List.cons.inj behind).2
                  obtain ⟨equal,ended⟩ := ih names names' (List.cons_ne_nil _ _) (List.cons_ne_nil _ _) later
                  exact ⟨by rw [equal],ended⟩

theorem digits_free (value : Nat) : '\n' ∉ Nat.toDigits 10 value := by
  intro member
  have digit := Nat.isDigit_of_mem_toDigits (by decide) (by decide) member
  cases digit

theorem renderSample_inj {first second : Counter} (firstProper : Proper first) (secondProper : Proper second) (named : first.name = second.name)
    {rest other : List Char} (same : renderSample first ++ rest = renderSample second ++ other) : first = second ∧ rest = other := by
  obtain ⟨name,labels,value⟩ := first
  obtain ⟨_,labels',value'⟩ := second
  cases named
  simp only [renderSample,renderLabels,List.append_assoc,List.append_cancel_left_eq] at same
  have valued {rest other : List Char} (texts : ' ' :: Nat.toDigits 10 value ++ (['\n'] ++ rest) = ' ' :: Nat.toDigits 10 value' ++ (['\n'] ++ other)) :
      value = value' ∧ rest = other := by
    obtain ⟨digits,behind⟩ := (Fields.front_inj (digits_free value) (digits_free value')).mp (List.cons.inj texts).2
    exact ⟨(Numerals.toDigits_inj (by decide) (by decide)).mp digits,behind⟩
  cases labels with
  | nil =>
      cases labels' with
      | nil =>
          obtain ⟨rfl,behind⟩ := valued same
          exact ⟨rfl,behind⟩
      | cons label' labels' => simp at same
  | cons label labels =>
      cases labels' with
      | nil => simp at same
      | cons label' labels' =>
          simp only [List.isEmpty_cons,Bool.false_eq_true,if_false,List.append_assoc,List.cons_append,List.nil_append,List.cons.injEq,
            true_and] at same
          obtain ⟨equal,behind⟩ := renderedLabels_inj firstProper.labels secondProper.labels (List.cons_ne_nil _ _) (List.cons_ne_nil _ _) same
          obtain ⟨rfl,ended⟩ := valued behind
          dsimp only at equal
          rw [equal]
          exact ⟨rfl,ended⟩

theorem typeLine_inj {first second : String} (firstName : Name first) (secondName : Name second) {rest other : List Char}
    (same : typeLine first ++ rest = typeLine second ++ other) : first = second ∧ rest = other := by
  simp only [typeLine,List.append_assoc,List.cons_append,List.nil_append,List.cons.injEq,true_and] at same
  obtain ⟨names,behind⟩ := (Fields.front_inj (firstName.free (by decide) (by decide)) (secondName.free (by decide) (by decide))).mp same
  refine ⟨String.toList_inj.mp names,?_⟩
  simpa using behind

-- No sample begins as the line of a type does.
theorem renderSample_type {counter : Counter} (proper : Proper counter) (name : String) (rest other : List Char) :
    renderSample counter ++ rest ≠ typeLine name ++ other := by
  intro same
  have first : (typeLine name ++ other).head? = some '#' := rfl
  cases text : counter.name.toList with
  | nil => exact proper.name.1 (String.toList_inj.mp (by simpa using text))
  | cons char chars =>
      rw [← same] at first
      simp only [renderSample,text,List.cons_append,List.head?_cons,Option.some.injEq] at first
      have free : '#' ∉ counter.name.toList := proper.name.free (by decide) (by decide)
      rw [text,first] at free
      exact free List.mem_cons_self

theorem renderFrom_inj {first second : List Counter} (firstProper : ∀ counter ∈ first, Proper counter)
    (secondProper : ∀ counter ∈ second, Proper counter) (lastName : Option String) (same : renderFrom lastName first = renderFrom lastName second) :
    first = second := by
  have ends (lastName : Option String) (counter : Counter) (rest : List Counter) : renderFrom lastName (counter :: rest) ≠ [] := by
    simp [renderFrom,renderSample]
  induction first generalizing second lastName with
  | nil =>
      cases second with
      | nil => rfl
      | cons counter second => exact absurd same.symm (ends lastName counter second)
  | cons counter first ih =>
      cases second with
      | nil => exact absurd same (ends lastName counter first)
      | cons counter' second =>
          obtain ⟨proper,later⟩ := List.forall_mem_cons.mp firstProper
          obtain ⟨proper',later'⟩ := List.forall_mem_cons.mp secondProper
          have rest {text text' : List Char} (named : counter.name = counter'.name) (texts : renderSample counter ++ renderFrom (some counter.name) first =
              renderSample counter' ++ renderFrom (some counter'.name) second) : counter :: first = counter' :: second := by
            obtain ⟨rfl,behind⟩ := renderSample_inj proper proper' named texts
            rw [ih later later' _ behind]
          simp only [renderFrom] at same
          split at same
          · split at same
            · simp only [List.append_assoc] at same
              obtain ⟨named,behind⟩ := typeLine_inj proper.name proper'.name same
              exact @rest [] [] named behind
            · simp only [List.append_assoc,List.nil_append] at same
              exact absurd same.symm (renderSample_type proper' _ _ _)
          · rename_i last
            split at same
            · simp only [List.append_assoc,List.nil_append] at same
              exact absurd same (renderSample_type proper _ _ _)
            · rename_i last'
              have named : counter.name = counter'.name := by
                have one := not_not.mp last
                have two := not_not.mp last'
                exact Option.some.inj (one.symm.trans two)
              simp only [List.nil_append] at same
              exact @rest [] [] named same

-- The names a text announces, in the order of their lines.
def announced : Option String → List Counter → List String
  | _,[] => []
  | lastName,counter :: rest =>
    (if lastName ≠ some counter.name then [counter.name] else []) ++ announced (some counter.name) rest

theorem sampleKey_injective {first second : Counter} (same : sampleKey first = sampleKey second) : first.series = second.series := by
  have pairs := toLex_inj.mp same
  obtain ⟨names,labels⟩ := Prod.mk.inj pairs
  exact Prod.ext names (List.map_injective_iff.mpr (fun _ _ => toLex_inj.mp) labels)

-- Samples in the order of their names announce every name once.
theorem announced_ordered {samples : List Counter} (ordered : samples.Pairwise fun first second => first.name ≤ second.name) (lastName : Option String)
    (behind : ∀ name ∈ lastName, ∀ counter ∈ samples, name ≤ counter.name) : (announced lastName samples).Nodup ∧
    (∀ name, name ∈ announced lastName samples ↔ (∃ counter ∈ samples, counter.name = name) ∧ lastName ≠ some name) := by
  induction samples generalizing lastName with
  | nil => simp [announced]
  | cons counter rest ih =>
      obtain ⟨first,later⟩ := List.pairwise_cons.mp ordered
      obtain ⟨distinct,listed⟩ := ih later (some counter.name) fun name same other member => by
        cases Option.mem_some.mp same
        exact first other member
      rw [announced]
      split
      · rename_i fresh
        refine ⟨List.nodup_cons.mpr ⟨fun member => ((listed counter.name).mp member).2 rfl,distinct⟩,fun name => ?_⟩
        rw [List.singleton_append,List.mem_cons,listed,List.exists_mem_cons_iff]
        constructor
        · intro either
          rcases either with rfl | ⟨there,other⟩
          · exact ⟨.inl rfl,fresh⟩
          · refine ⟨.inr there,fun same => ?_⟩
            obtain ⟨found,member,rfl⟩ := there
            have above := behind found.name same counter List.mem_cons_self
            exact other (congrArg some (le_antisymm (first found member) above))
        · intro both
          by_cases same : name = counter.name
          · exact .inl same
          · refine .inr ⟨both.1.resolve_left fun alike => same alike.symm,fun alike => same (Option.some.inj alike).symm⟩
      · rename_i seen
        rw [not_not.mp seen,List.nil_append]
        refine ⟨distinct,fun name => ?_⟩
        rw [listed,List.exists_mem_cons_iff]
        refine and_congr_left fun other => (or_iff_right fun same => ?_).symm
        exact other (congrArg some same)

theorem renderSamples_perm {first second : List Counter} (firstProper : ∀ counter ∈ first, Proper counter)
    (secondProper : ∀ counter ∈ second, Proper counter) (distinct : (first.map Counter.series).Nodup) :
    renderSamples first = renderSamples second ↔ first.Perm second := by
  constructor
  · intro same
    have sorted := renderFrom_inj (fun counter member => firstProper counter ((mem_sortBy sampleKey).mp member))
      (fun counter member => secondProper counter ((mem_sortBy sampleKey).mp member)) none same
    exact (sortBy_perm sampleKey first).symm.trans (sorted ▸ sortBy_perm sampleKey second)
  · intro same
    have apart {one other : Counter} (member : one ∈ first) (also : other ∈ first) (alike : sampleKey one = sampleKey other) : one = other :=
      List.inj_on_of_nodup_map distinct member also (sampleKey_injective alike)
    have sorted : sortBy sampleKey first = sortBy sampleKey second := by
      refine List.Perm.eq_of_pairwise (fun one other member also before after => ?_) (sortBy_sorted sampleKey first) (sortBy_sorted sampleKey second)
        ((sortBy_perm sampleKey first).trans (same.trans (sortBy_perm sampleKey second).symm))
      have there : other ∈ first := same.mem_iff.mpr ((mem_sortBy sampleKey).mp also)
      exact apart ((mem_sortBy sampleKey).mp member) there (le_antisymm before after)
    simp only [renderSamples,sorted]

def invites : Counter := ⟨"sip_requests_total",[("method","INVITE")],2⟩

def quoted : Counter := ⟨"sip_requests_total",[("method","a\\\"b\n")],7⟩

end Reading

section Shown
variable {hash : String → Nat} {metrics other : ProxyMetrics}

-- What a scraper and the keys of the shards can both tell apart: the values of the labels
-- may hold anything but the separator of the keys.
structure Wellformed (series : String × List Label) : Prop where
  name : Name series.1
  labels : ∀ label ∈ series.2, Name label.1 ∧ '|' ∉ label.2.toList

theorem Wellformed.plain {series : String × List Label} (formed : Wellformed series) : Plain series := by
  refine ⟨formed.name.free (by decide) (by decide),fun label member => ?_⟩
  obtain ⟨name,value⟩ := formed.labels label member
  exact ⟨name.free (by decide) (by decide),name.free (by decide) (by decide),value⟩

theorem samples_proper (sound : Sound hash metrics) (recorded : Recorded actions metrics) (formed : ∀ task ∈ metrics.tasks, Wellformed task.asked) :
    ∀ counter ∈ metrics.samples, Proper counter := by
  intro counter member
  obtain ⟨task,known,series⟩ := recorded.made counter ((mem_samples sound).mp member).2
  have own : Wellformed counter.series := series ▸ formed task known
  exact ⟨own.name,fun label listed => (own.labels label listed).1⟩

theorem samples_distinct (sound : Sound hash metrics) (recorded : Recorded actions metrics) (formed : ∀ task ∈ metrics.tasks, Wellformed task.asked) :
    (metrics.samples.map Counter.series).Nodup := by
  refine (samples_nodup sound).map_on fun one member two also same => ?_
  have totals := samples_total sound recorded fun task known => (formed task known).plain
  obtain ⟨name,labels,value⟩ := one
  obtain ⟨_,_,value'⟩ := two
  obtain ⟨rfl,rfl⟩ := Prod.mk.inj same
  rw [((totals _ _ _).mp member).2,((totals _ _ _).mp also).2]

-- The same two increments through one handle.
def handled : List Action :=
  [.ask "sip_requests_total" [("method","INVITE")],.read 0,.insert 0,.incrBy 0 2]

end Shown

end Sigproxy.Proxy.Metrics
