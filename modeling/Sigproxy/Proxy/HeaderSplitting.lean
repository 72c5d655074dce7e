import Sigproxy.Library.Quotation
import Sigproxy.Library.TextSlices
import Sigproxy.Proxy.HeaderValues

namespace Sigproxy.Proxy.HeaderSplitting
open Library TextSlices

section Loop

-- `split_first_header_value` on the octets of the value: the loop over `char_indices`,
-- and the two slices around the comma that ends it.
def splitAtComma (value : String) : Quoting → List (Nat × Char) → Risky (String × Option String)
  | state,[] => if state.inQuotes then throw "unclosed quoted header value" else return (value,none)
  | state,(index,ch) :: rest =>
    if state.escaped then splitAtComma value { state with escaped := false } rest
    else if ch = '\\' ∧ state.inQuotes then splitAtComma value { state with escaped := true } rest
    else if ch = '"' then splitAtComma value { state with inQuotes := !state.inQuotes } rest
    else if ch = '<' ∧ !state.inQuotes then splitAtComma value { state with angleDepth := state.angleDepth + 1 } rest
    else if ch = '>' ∧ !state.inQuotes then splitAtComma value { state with angleDepth := state.angleDepth - 1 } rest
    else if ch = ',' ∧ !state.inQuotes ∧ state.angleDepth = 0 then do
      let top ← upTo value index
      let behind ← downFrom value (index + 1)
      return (top,some behind)
    else splitAtComma value state rest

def splitFirstValue (value : String) : Risky (String × Option String) :=
  if value.isEmpty then return (value,none)
  else splitAtComma value ⟨false,false,0⟩ (charIndices 0 value.toList)

end Loop

section Agreement

theorem mark_or_plain (ch : Char) :
    ch = '\\' ∨ ch = '"' ∨ ch = '<' ∨ ch = '>' ∨ ch ≠ '\\' ∧ ch ≠ '"' ∧ ch ≠ '<' ∧ ch ≠ '>' := by
  by_cases slash : ch = '\\'
  · exact .inl slash
  by_cases quote : ch = '"'
  · exact .inr (.inl quote)
  by_cases opening : ch = '<'
  · exact .inr (.inr (.inl opening))
  by_cases closing : ch = '>'
  · exact .inr (.inr (.inr (.inl closing)))
  exact .inr (.inr (.inr (.inr ⟨slash,quote,opening,closing⟩)))

theorem step_plain (state : Quoting) (free : state.escaped = false) {ch : Char}
    (plain : ch ≠ '\\' ∧ ch ≠ '"' ∧ ch ≠ '<' ∧ ch ≠ '>') : state.step ch = state := by
  obtain ⟨slash,quote,opening,closing⟩ := plain
  simp [Quoting.step,free]

-- One round of the loop: it ends at a separator and goes on with the step elsewhere.
theorem splitAtComma_cons (value : String) (state : Quoting) (index : Nat) (ch : Char) (rest : List (Nat × Char)) :
    splitAtComma value state ((index,ch) :: rest) =
      if headerSplitter.separates state ch then do
        let top ← upTo value index
        let behind ← downFrom value (index + 1)
        return (top,some behind)
      else splitAtComma value (state.step ch) rest := by
  obtain ⟨inQuotes,escaped,angleDepth⟩ := state
  have separates : headerSplitter.separates ⟨inQuotes,escaped,angleDepth⟩ ch = (!escaped && ch == ',' && !inQuotes && angleDepth == 0) := rfl
  rw [splitAtComma,separates]
  cases escaped with
  | true => rfl
  | false =>
      rcases mark_or_plain ch with rfl | rfl | rfl | rfl | plain
      · cases inQuotes <;> rfl
      · cases inQuotes <;> rfl
      · cases inQuotes <;> rfl
      · cases inQuotes <;> rfl
      · rw [step_plain _ rfl plain]
        obtain ⟨slash,quote,opening,closing⟩ := plain
        simp [slash,quote,opening,closing,and_assoc]

-- The loop behind a part of the value that it has read.
theorem splitAtComma_reads (front : String) (back : List Char) (state : Quoting) :
    splitAtComma (front ++ .ofList back) state (charIndices front.utf8ByteSize back) =
      match headerSplitter.first state back with
      | none => throw "unclosed quoted header value"
      | some (_,none) => return (front ++ .ofList back,none)
      | some (top,some rest) => return (front ++ .ofList top,some (.ofList rest)) := by
  induction back generalizing front state with
  | nil =>
      rw [charIndices,splitAtComma,Splitter.first]
      cases inQuotes : state.inQuotes with
      | true => simp [headerSplitter,inQuotes]
      | false => simp [headerSplitter,inQuotes]
  | cons ch back ih =>
      have longer (text : List Char) : front ++ .ofList (ch :: text) = front ++ .singleton ch ++ .ofList text := by
        rw [String.ofList_cons,String.append_assoc]
      have size : (front ++ .singleton ch).utf8ByteSize = front.utf8ByteSize + ch.utf8Size := by
        rw [String.utf8ByteSize_append,String.utf8ByteSize_singleton]
      rw [charIndices,splitAtComma_cons,Splitter.first]
      split
      · rename_i separates
        have comma : ch = ',' := by
          simp only [headerSplitter,Bool.and_eq_true,beq_iff_eq] at separates
          exact separates.1.1.2
        have behind : front.utf8ByteSize + 1 = (front ++ .singleton ch).utf8ByteSize := by
          rw [size,comma]
          rfl
        rw [upTo_parts,pure_bind,longer,behind,downFrom_parts,pure_bind]
        exact congrArg (fun top => pure (top,some _)) String.append_empty.symm
      · have stepped : headerSplitter.step state ch = state.step ch := rfl
        rw [longer,← size,ih,stepped]
        rcases headerSplitter.first (state.step ch) back with _ | ⟨top,_ | rest⟩
        · rfl
        · rfl
        · simp only [Option.map_some,longer]

theorem splitFirstValue_reads (value : String) : splitFirstValue value = ExceptT.mk (some (splitFirstHeaderValue value)) := by
  rw [splitFirstValue,splitFirstHeaderValue]
  split
  · rfl
  · have reads := splitAtComma_reads "" value.toList ⟨false,false,0⟩
    rw [String.empty_append,String.ofList_toList] at reads
    apply reads.trans
    have start : headerSplitter.start = ⟨false,false,0⟩ := rfl
    rw [start]
    rcases found : headerSplitter.first ⟨false,false,0⟩ value.toList with _ | ⟨top,_ | rest⟩
    · rfl
    · dsimp only
      rw [(Splitter.first_whole_iff.mp found).1,String.ofList_toList]
      rfl
    · dsimp only
      rw [String.empty_append]
      rfl

end Agreement

section Language

-- The quoting marks of a header.
def headerMarks : Quotation Char := ⟨'"','\\','<','>',by decide,by decide⟩

def reading (state : Quoting) : Quotation.Reading := ⟨state.inQuotes,state.escaped,state.angleDepth⟩

theorem reading_step (state : Quoting) (ch : Char) : reading (state.step ch) = headerMarks.step (reading state) ch := by
  obtain ⟨inQuotes,escaped,angleDepth⟩ := state
  cases escaped with
  | true => rfl
  | false =>
      rcases mark_or_plain ch with rfl | rfl | rfl | rfl | plain
      · cases inQuotes <;> rfl
      · cases inQuotes <;> rfl
      · cases inQuotes <;> rfl
      · cases inQuotes <;> rfl
      · rw [step_plain _ rfl plain]
        obtain ⟨slash,quote,opening,closing⟩ := plain
        simp [reading,Quotation.step,Quotation.levelled,headerMarks,slash,quote,opening,closing]

theorem reading_read (text : List Char) :
    reading (headerSplitter.read headerSplitter.start text) = headerMarks.read ⟨false,false,0⟩ text := by
  induction text using List.reverseRecOn with
  | nil => rfl
  | append_singleton text ch ih =>
      rw [Splitter.read,List.foldl_concat,Quotation.read,List.foldl_concat]
      exact (reading_step _ ch).trans (congrArg (headerMarks.step · ch) ih)

-- A comma outside of quotes and angle brackets.
def HasTopLevelComma (text : List Char) : Prop := ∃ before rest, text = before ++ ',' :: rest ∧ headerMarks.AtTopLevel before

theorem closed_iff (text : List Char) :
    headerSplitter.closed (headerSplitter.read headerSplitter.start text) = true ↔ headerMarks.Balanced text := by
  rw [Quotation.balanced_iff,← reading_read]
  exact iff_of_eq (Bool.not_eq_true' _)

theorem separates_iff (before : List Char) (ch : Char) :
    headerSplitter.separates (headerSplitter.read headerSplitter.start before) ch = true ↔ ch = ',' ∧ headerMarks.AtTopLevel before := by
  rw [Quotation.atTopLevel_iff,← reading_read]
  generalize headerSplitter.read headerSplitter.start before = state
  obtain ⟨inQuotes,escaped,angleDepth⟩ := state
  simp only [headerSplitter,reading,Bool.and_eq_true,Bool.not_eq_true',beq_iff_eq,Quotation.Reading.mk.injEq]
  constructor
  · intro separates
    obtain ⟨⟨⟨notEscaped,comma⟩,notQuoted⟩,level⟩ := separates
    exact ⟨comma,notQuoted,notEscaped,level⟩
  · intro behind
    obtain ⟨comma,notQuoted,notEscaped,level⟩ := behind
    exact ⟨⟨⟨notEscaped,comma⟩,notQuoted⟩,level⟩

theorem unbroken_iff (text : List Char) : headerSplitter.Unbroken headerSplitter.start text ↔ ¬HasTopLevelComma text := by
  constructor
  · intro unbroken ⟨before,rest,split,top⟩
    have separates := (separates_iff before ',').mpr ⟨rfl,top⟩
    rw [unbroken before ',' rest split] at separates
    cases separates
  · intro none before ch rest split
    apply Bool.eq_false_iff.mpr
    intro separates
    obtain ⟨rfl,top⟩ := (separates_iff before ch).mp separates
    exact none ⟨before,rest,split,top⟩

end Language

section Results

theorem splitFirstHeaderValue_eq (value : String) : splitFirstHeaderValue value =
    match headerSplitter.first headerSplitter.start value.toList with
    | none => .error "unclosed quoted header value"
    | some (top,rest) => .ok (.ofList top,rest.map .ofList) := by
  rw [splitFirstHeaderValue]
  split
  · rename_i empty
    rw [String.isEmpty_iff.mp empty]
    rfl
  · rfl

theorem gives_iff (value : String) (parts : String × Option String) :
    (splitFirstValue value).Gives parts ↔ splitFirstHeaderValue value = .ok parts := by
  rw [splitFirstValue_reads]
  exact Option.some_inj

theorem whole_iff (value top : String) : (splitFirstValue value).Gives (top,none) ↔
    top = value ∧ headerMarks.Balanced value.toList ∧ ¬HasTopLevelComma value.toList := by
  rw [gives_iff,splitFirstHeaderValue_eq,← closed_iff,← unbroken_iff]
  constructor
  · intro split
    rcases found : headerSplitter.first headerSplitter.start value.toList with _ | ⟨text,_ | rest⟩
    · rw [found] at split
      cases split
    · rw [found] at split
      obtain ⟨same,_⟩ := Prod.mk.inj (Except.ok.inj split)
      obtain ⟨rfl,unbroken,closes⟩ := Splitter.first_whole_iff.mp found
      rw [String.ofList_toList] at same
      exact ⟨same.symm,closes,unbroken⟩
    · rw [found] at split
      cases split
  · intro ⟨same,closes,unbroken⟩
    rw [Splitter.first_whole_iff.mpr ⟨rfl,unbroken,closes⟩,same]
    dsimp only
    rw [String.ofList_toList]
    rfl

theorem parts_iff (value top rest : String) : (splitFirstValue value).Gives (top,some rest) ↔
    value = top ++ "," ++ rest ∧ headerMarks.AtTopLevel top.toList ∧ ¬HasTopLevelComma top.toList := by
  rw [gives_iff,splitFirstHeaderValue_eq,← unbroken_iff]
  constructor
  · intro split
    rcases found : headerSplitter.first headerSplitter.start value.toList with _ | ⟨text,_ | behind⟩
    · rw [found] at split
      cases split
    · rw [found] at split
      cases split
    · rw [found] at split
      cases split
      obtain ⟨ch,text,separates,unbroken⟩ := Splitter.first_parts_iff.mp found
      obtain ⟨rfl,top⟩ := (separates_iff _ ch).mp separates
      rw [String.toList_ofList]
      refine ⟨?_,top,unbroken⟩
      rw [← String.toList_inj,text]
      simp
  · intro ⟨whole,level,unbroken⟩
    have text : value.toList = top.toList ++ ',' :: rest.toList := by
      rw [whole]
      simp
    rw [Splitter.first_parts_iff.mpr ⟨',',text,(separates_iff _ ',').mpr ⟨rfl,level⟩,unbroken⟩]
    simp

theorem fails_iff (value : String) : (∃ error, (splitFirstValue value).run = some (.error error)) ↔
    ¬headerMarks.Balanced value.toList ∧ ¬HasTopLevelComma value.toList := by
  have none_iff : headerSplitter.first headerSplitter.start value.toList = none ↔ _ := Splitter.first_none_iff
  rw [unbroken_iff,← Bool.not_eq_true,closed_iff,and_comm] at none_iff
  rw [← none_iff,splitFirstValue_reads,splitFirstHeaderValue_eq]
  cases headerSplitter.first headerSplitter.start value.toList with
  | none => simp
  | some parts => simp

-- No comma behind a quote that is not closed is a top-level comma.
theorem comma_before_quote {before body : List Char} (balanced : headerMarks.Balanced before) (unclosed : headerMarks.Unclosed body)
    (comma : HasTopLevelComma (before ++ '"' :: body)) : HasTopLevelComma before := by
  obtain ⟨front,rest,split,level⟩ := comma
  rcases List.append_eq_append_iff.mp split with ⟨middle,rfl,behind⟩ | ⟨middle,rfl,behind⟩
  · cases middle with
    | nil => cases behind
    | cons ch inner =>
        obtain ⟨rfl,rfl⟩ := List.cons.inj behind
        have closed : headerMarks.Balanced (before ++ headerMarks.quote :: inner) := level.imp fun _ both => both.1
        exact absurd closed (Quotation.not_balanced balanced (Quotation.unclosed_prefix unclosed))
  · cases middle with
    | nil => cases behind
    | cons ch inner =>
        obtain ⟨rfl,_⟩ := List.cons.inj behind
        exact ⟨front,inner,rfl,level⟩

theorem fails_iff_unclosed (value : String) : (∃ error, (splitFirstValue value).run = some (.error error)) ↔
    ∃ before body, value.toList = before ++ '"' :: body ∧ headerMarks.Balanced before ∧ headerMarks.Unclosed body ∧
      ¬HasTopLevelComma before := by
  rw [fails_iff]
  constructor
  · intro ⟨notBalanced,unbroken⟩
    rcases Quotation.balanced_or_unclosed headerMarks value.toList with balanced | ⟨before,body,split,balanced,unclosed⟩
    · exact absurd balanced notBalanced
    · refine ⟨before,body,split,balanced,unclosed,?_⟩
      intro ⟨front,rest,apart,level⟩
      exact unbroken ⟨front,rest ++ '"' :: body,by rw [split,apart]; simp [headerMarks],level⟩
  · intro ⟨before,body,split,balanced,unclosed,unbroken⟩
    rw [split]
    exact ⟨Quotation.not_balanced balanced unclosed,fun comma => unbroken (comma_before_quote balanced unclosed comma)⟩

theorem splitFirstValue_safe (value : String) : (splitFirstValue value).Safe := by
  rw [splitFirstValue_reads]
  exact Option.some_ne_none _

end Results

section Segments

theorem rest_shorter {value top rest : String} (split : (splitFirstValue value).Gives (top,some rest)) : rest.length < value.length := by
  rw [((parts_iff value top rest).mp split).1,String.length_append,String.length_append]
  exact Nat.lt_add_of_pos_left (Nat.succ_pos _)

-- The value is split again behind each comma. With the segments is what is left where a
-- split fails.
def headerSegments (value : String) : Option (List String × Option String) :=
  match split : (splitFirstValue value).run with
  | none => none
  | some (.error _) => some ([],some value)
  | some (.ok (top,none)) => some ([top],none)
  | some (.ok (top,some rest)) =>
    have _shorter : rest.length < value.length := rest_shorter split
    (headerSegments rest).map fun later => (top :: later.1,later.2)
termination_by value.length

theorem headerSegments_step (value : String) : headerSegments value =
    match (splitFirstValue value).run with
    | none => none
    | some (.error _) => some ([],some value)
    | some (.ok (top,none)) => some ([top],none)
    | some (.ok (top,some rest)) => (headerSegments rest).map fun later => (top :: later.1,later.2) := by
  rw [headerSegments]
  split
  · rename_i panics
    rw [panics]
  · rename_i fails
    rw [fails]
  · rename_i whole
    rw [whole]
  · rename_i parts
    dsimp only
    rw [parts]

-- A comma behind the first segment does not change what the rest reads.
theorem balanced_behind {top : String} (level : headerMarks.AtTopLevel top.toList) (rest : String) :
    headerMarks.Balanced (top ++ "," ++ rest).toList ↔ headerMarks.Balanced rest.toList := by
  have text : (top ++ "," ++ rest).toList = top.toList ++ ',' :: rest.toList := by simp
  rw [Quotation.balanced_iff,Quotation.balanced_iff,text,Quotation.read_append,(Quotation.atTopLevel_iff _).mp level]
  rfl

theorem headerSegments_joined (value : String) : ∃ segments left, headerSegments value = some (segments,left) ∧
    segments ++ left.toList ≠ [] ∧ ",".intercalate (segments ++ left.toList) = value ∧
    (∀ segment ∈ segments, headerMarks.Balanced segment.toList ∧ ¬HasTopLevelComma segment.toList) ∧
    (left = none ↔ headerMarks.Balanced value.toList) := by
  induction value using headerSegments.induct with
  | case1 value panics => exact absurd panics (splitFirstValue_safe value)
  | case2 value error fails =>
      have unclosed := ((fails_iff value).mp ⟨error,fails⟩).1
      refine ⟨[],some value,?_,List.cons_ne_nil value [],String.intercalate_singleton,List.forall_mem_nil _,?_⟩
      · rw [headerSegments_step,fails]
      · exact ⟨nofun,fun balanced => absurd balanced unclosed⟩
  | case3 value top split =>
      obtain ⟨rfl,balanced,unbroken⟩ := (whole_iff value top).mp split
      refine ⟨[top],none,?_,List.cons_ne_nil top [],String.intercalate_singleton,List.forall_mem_singleton.mpr ⟨balanced,unbroken⟩,?_⟩
      · rw [headerSegments_step,split]
      · exact ⟨fun _ => balanced,fun _ => rfl⟩
  | case4 value top rest split shorter ih =>
      obtain ⟨rfl,level,unbroken⟩ := (parts_iff value top rest).mp split
      obtain ⟨segments,left,read,some,joined,apart,closes⟩ := ih
      have balanced : headerMarks.Balanced top.toList := level.imp fun _ both => both.1
      refine ⟨top :: segments,left,?_,List.cons_ne_nil top _,?_,List.forall_mem_cons.mpr ⟨⟨balanced,unbroken⟩,apart⟩,?_⟩
      · rw [headerSegments_step,split]
        exact congrArg (Option.map _) read
      · rw [List.cons_append,String.intercalate_cons_of_ne_nil some,joined]
      · rw [closes,balanced_behind level]

end Segments

-- The parts and the commas between them are the value, octet for octet: no slice falls
-- inside of a character, and only a quote that is not closed is refused.
theorem header_split_lossless (value : String) :
    (∀ top, (splitFirstValue value).Gives (top,none) ↔
      top = value ∧ headerMarks.Balanced value.toList ∧ ¬HasTopLevelComma value.toList) ∧
    (∀ top rest, (splitFirstValue value).Gives (top,some rest) ↔
      value = top ++ "," ++ rest ∧ headerMarks.AtTopLevel top.toList ∧ ¬HasTopLevelComma top.toList) ∧
    ((∃ error, (splitFirstValue value).run = some (.error error)) ↔ ∃ before body, value.toList = before ++ '"' :: body ∧
      headerMarks.Balanced before ∧ headerMarks.Unclosed body ∧ ¬HasTopLevelComma before) ∧
    (splitFirstValue value).Safe ∧
    ∃ segments left, headerSegments value = some (segments,left) ∧ ",".intercalate (segments ++ left.toList) = value ∧
      (∀ segment ∈ segments, headerMarks.Balanced segment.toList ∧ ¬HasTopLevelComma segment.toList) ∧
      (left = none ↔ headerMarks.Balanced value.toList) := by
  obtain ⟨segments,left,read,_,joined,apart,closes⟩ := headerSegments_joined value
  exact ⟨whole_iff value,parts_iff value,fails_iff_unclosed value,splitFirstValue_safe value,segments,left,read,joined,apart,closes⟩

end Sigproxy.Proxy.HeaderSplitting
