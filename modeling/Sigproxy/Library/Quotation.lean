import Mathlib.Data.List.Basic
import Mathlib.Data.List.Infix

namespace Sigproxy.Library

-- The marks of a text with quoted parts and brackets. Between two quotes a bracket
-- counts as nothing, and the escape takes its mark from the item behind it.
structure Quotation (Item : Type) where
  quote : Item
  escape : Item
  opening : Item
  closing : Item
  quoteNotEscape : quote ≠ escape
  brackets : opening ≠ closing

namespace Quotation

section Language
variable {Item : Type} (marks : Quotation Item)

inductive Quoted : List Item → Prop where
  | empty : Quoted []
  | plain : item ≠ marks.quote → item ≠ marks.escape → Quoted text → Quoted (text ++ [item])
  | escaped : Quoted text → Quoted (text ++ [marks.escape,item])

-- A text that closes its quotes, and what of it stands outside them.
inductive Outside : List Item → List Item → Prop where
  | empty : Outside [] []
  | plain : item ≠ marks.quote → Outside text free → Outside (text ++ [item]) (free ++ [item])
  | quoted : Outside text free → marks.Quoted body → Outside (text ++ marks.quote :: (body ++ [marks.quote])) free

def Balanced (text : List Item) : Prop := ∃ free, marks.Outside text free

-- A quoted part that is not closed: its last item may be the escape of nothing.
def Unclosed (body : List Item) : Prop := marks.Quoted body ∨ ∃ inner, body = inner ++ [marks.escape] ∧ marks.Quoted inner

-- Some bracket that opens there is not closed there.
def Unmatched [DecidableEq Item] (free : List Item) : Prop :=
  ∃ behind, behind <:+ free ∧ behind.count marks.closing < behind.count marks.opening

-- The place behind the text is outside of quotes and brackets.
def AtTopLevel [DecidableEq Item] (text : List Item) : Prop := ∃ free, marks.Outside text free ∧ ¬marks.Unmatched free

end Language

structure Reading where
  inQuotes : Bool
  escaped : Bool
  depth : Nat
  deriving DecidableEq, Repr

section Reader
variable {Item : Type} [DecidableEq Item] (marks : Quotation Item)

-- A bracket that closes where none is open counts for nothing.
def levelled (depth : Nat) (item : Item) : Nat :=
  if item = marks.opening then depth + 1 else if item = marks.closing then depth - 1 else depth

def depth (free : List Item) : Nat := free.foldl marks.levelled 0

def step (state : Reading) (item : Item) : Reading :=
  if state.escaped then { state with escaped := false }
  else if item = marks.quote then { state with inQuotes := !state.inQuotes }
  else if state.inQuotes then if item = marks.escape then { state with escaped := true } else state
  else { state with depth := marks.levelled state.depth item }

def read (state : Reading) (text : List Item) : Reading := text.foldl marks.step state

end Reader

section Levels
variable {Item : Type} [DecidableEq Item] {marks : Quotation Item}

theorem depth_concat (free : List Item) (item : Item) : marks.depth (free ++ [item]) = marks.levelled (marks.depth free) item :=
  List.foldl_concat ..

theorem count_concat (behind : List Item) (item mark : Item) :
    (behind ++ [item]).count mark = behind.count mark + if item = mark then 1 else 0 := by
  rw [List.count_append,List.count_singleton]
  simp only [beq_iff_eq]

-- A part behind which more than `level` brackets stay open ends with the last item or is empty.
theorem suffix_concat {free : List Item} {item : Item} {level : Nat} :
    (∃ behind, behind <:+ free ++ [item] ∧ behind.count marks.closing + level < behind.count marks.opening) ↔
      ∃ behind, behind <:+ free ∧ (behind ++ [item]).count marks.closing + level < (behind ++ [item]).count marks.opening := by
  constructor
  · intro ⟨behind,within,more⟩
    rcases List.suffix_concat_iff.mp within with rfl | ⟨shorter,rfl,inside⟩
    · cases more
    · exact ⟨shorter,inside,more⟩
  · intro ⟨behind,within,more⟩
    exact ⟨_,List.suffix_concat_iff.mpr (.inr ⟨behind,rfl,within⟩),more⟩

-- Over the end of a text, by the bracket that stands last.
theorem lt_depth (free : List Item) (level : Nat) : level < marks.depth free ↔
    ∃ behind, behind <:+ free ∧ behind.count marks.closing + level < behind.count marks.opening := by
  induction free using List.reverseRecOn generalizing level with
  | nil => simp [depth]
  | append_singleton free item ih =>
      rw [depth_concat,suffix_concat,levelled]
      simp only [count_concat]
      by_cases opens : item = marks.opening
      · have stays : item ≠ marks.closing := opens ▸ marks.brackets
        simp only [if_pos opens,if_neg stays,Nat.add_zero]
        cases level with
        | zero => exact ⟨fun _ => ⟨[],List.nil_suffix,Nat.one_pos⟩,fun _ => Nat.succ_pos _⟩
        | succ level =>
            rw [Nat.succ_lt_succ_iff,ih level]
            exact ⟨fun ⟨behind,within,more⟩ => ⟨behind,within,Nat.succ_lt_succ more⟩,
              fun ⟨behind,within,more⟩ => ⟨behind,within,Nat.lt_of_succ_lt_succ more⟩⟩
      · by_cases closes : item = marks.closing
        · simp only [if_neg opens,if_pos closes,Nat.add_zero,Nat.add_assoc,Nat.add_comm 1 level,← ih (level + 1)]
          omega
        · simp only [if_neg opens,if_neg closes,Nat.add_zero,← ih level]

theorem depth_eq_zero (free : List Item) : marks.depth free = 0 ↔ ¬marks.Unmatched free := by
  have none : marks.depth free = 0 ↔ ¬0 < marks.depth free := by omega
  rw [none,lt_depth]
  rfl

end Levels

section Prefixes
variable {Item : Type} {marks : Quotation Item}

theorem unclosed_shorter (unclosed : marks.Unclosed (body ++ [item])) : marks.Unclosed body := by
  rcases unclosed with quoted | ⟨inner,split,quoted⟩
  · generalize whole : body ++ [item] = text at quoted
    cases quoted with
    | empty => exact absurd whole (List.append_ne_nil_of_right_ne_nil _ (List.cons_ne_nil item []))
    | plain notQuote notEscape quoted => exact .inl ((List.append_inj' whole rfl).1 ▸ quoted)
    | @escaped inner other quoted =>
        have parts : body ++ [item] = inner ++ [marks.escape] ++ [other] := by rw [whole]; simp
        exact .inr ⟨inner,(List.append_inj' parts rfl).1,quoted⟩
  · exact .inl ((List.append_inj' split rfl).1 ▸ quoted)

theorem unclosed_prefix {front back : List Item} (unclosed : marks.Unclosed (front ++ back)) : marks.Unclosed front := by
  induction back using List.reverseRecOn with
  | nil => rwa [List.append_nil] at unclosed
  | append_singleton back item ih =>
      rw [← List.append_assoc] at unclosed
      exact ih (unclosed_shorter unclosed)

end Prefixes

section Steps
variable {Item : Type} [DecidableEq Item] {marks : Quotation Item} {item : Item}

theorem step_escaped (inQuotes : Bool) (depth : Nat) : marks.step ⟨inQuotes,true,depth⟩ item = ⟨inQuotes,false,depth⟩ := rfl

theorem step_quote (inQuotes : Bool) (depth : Nat) : marks.step ⟨inQuotes,false,depth⟩ marks.quote = ⟨!inQuotes,false,depth⟩ := by
  simp [step]

theorem step_escape (depth : Nat) : marks.step ⟨true,false,depth⟩ marks.escape = ⟨true,true,depth⟩ := by
  simp [step,marks.quoteNotEscape.symm]

theorem step_plain (notQuote : item ≠ marks.quote) (notEscape : item ≠ marks.escape) (depth : Nat) :
    marks.step ⟨true,false,depth⟩ item = ⟨true,false,depth⟩ := by
  simp [step,notQuote,notEscape]

theorem step_free (notQuote : item ≠ marks.quote) (depth : Nat) :
    marks.step ⟨false,false,depth⟩ item = ⟨false,false,marks.levelled depth item⟩ := by
  simp [step,notQuote]

end Steps

section Parting
variable {Item : Type} [DecidableEq Item] {marks : Quotation Item}

theorem read_append (state : Reading) (front back : List Item) : marks.read state (front ++ back) = marks.read (marks.read state front) back :=
  List.foldl_append ..

theorem quoted_read (quoted : marks.Quoted body) (depth : Nat) : marks.read ⟨true,false,depth⟩ body = ⟨true,false,depth⟩ := by
  induction quoted with
  | empty => rfl
  | plain notQuote notEscape quoted ih =>
      rw [read_append,ih]
      exact step_plain notQuote notEscape depth
  | @escaped text item quoted ih =>
      rw [read_append,ih]
      change marks.step (marks.step ⟨true,false,depth⟩ marks.escape) item = _
      rw [step_escape,step_escaped]

theorem outside_read (outside : marks.Outside text free) : marks.read ⟨false,false,0⟩ text = ⟨false,false,marks.depth free⟩ := by
  induction outside with
  | empty => rfl
  | plain notQuote outside ih =>
      rw [read_append,ih,depth_concat]
      exact step_free notQuote _
  | @quoted text free body outside quoted ih =>
      rw [read_append,ih]
      change marks.read (marks.step ⟨false,false,_⟩ marks.quote) (body ++ [marks.quote]) = _
      rw [step_quote,read_append,Bool.not_false,quoted_read quoted]
      exact step_quote true _

theorem unclosed_read (unclosed : marks.Unclosed body) (depth : Nat) : (marks.read ⟨true,false,depth⟩ body).inQuotes = true := by
  rcases unclosed with quoted | ⟨inner,rfl,quoted⟩
  · rw [quoted_read quoted]
  · rw [read_append,quoted_read quoted]
    change (marks.step ⟨true,false,depth⟩ marks.escape).inQuotes = true
    rw [step_escape]

-- Over the end of a text, by what the item that stands last belongs to.
theorem balanced_or_unclosed (marks : Quotation Item) (text : List Item) : marks.Balanced text ∨
    ∃ before body, text = before ++ marks.quote :: body ∧ marks.Balanced before ∧ marks.Unclosed body := by
  induction text using List.reverseRecOn with
  | nil => exact .inl ⟨[],.empty⟩
  | append_singleton text item ih =>
      rcases ih with ⟨free,outside⟩ | ⟨before,body,rfl,⟨free,outside⟩,quoted | ⟨inner,rfl,quoted⟩⟩
      · by_cases isQuote : item = marks.quote
        · exact .inr ⟨text,[],isQuote ▸ rfl,⟨free,outside⟩,.inl .empty⟩
        · exact .inl ⟨_,.plain isQuote outside⟩
      · rw [List.append_assoc,List.cons_append]
        by_cases isQuote : item = marks.quote
        · subst isQuote
          exact .inl ⟨free,.quoted outside quoted⟩
        · apply Or.inr
          by_cases isEscape : item = marks.escape
          · exact ⟨before,body ++ [item],rfl,⟨free,outside⟩,.inr ⟨body,isEscape ▸ rfl,quoted⟩⟩
          · exact ⟨before,body ++ [item],rfl,⟨free,outside⟩,.inl (.plain isQuote isEscape quoted)⟩
      · refine .inr ⟨before,inner ++ [marks.escape,item],?_,⟨free,outside⟩,.inl (.escaped quoted)⟩
        simp

theorem unclosed_behind {before body : List Item} (balanced : marks.Balanced before) (unclosed : marks.Unclosed body) :
    (marks.read ⟨false,false,0⟩ (before ++ marks.quote :: body)).inQuotes = true := by
  obtain ⟨free,outside⟩ := balanced
  rw [read_append,outside_read outside]
  change (marks.read (marks.step ⟨false,false,_⟩ marks.quote) body).inQuotes = true
  rw [step_quote,Bool.not_false,unclosed_read unclosed]

theorem balanced_iff (text : List Item) : marks.Balanced text ↔ (marks.read ⟨false,false,0⟩ text).inQuotes = false := by
  constructor
  · intro ⟨free,outside⟩
    rw [outside_read outside]
  · intro closes
    rcases balanced_or_unclosed marks text with balanced | ⟨before,body,rfl,⟨free,outside⟩,unclosed⟩
    · exact balanced
    · rw [unclosed_behind ⟨free,outside⟩ unclosed] at closes
      cases closes

theorem not_balanced {before body : List Item} (balanced : marks.Balanced before) (unclosed : marks.Unclosed body) :
    ¬marks.Balanced (before ++ marks.quote :: body) := by
  rw [balanced_iff,unclosed_behind balanced unclosed]
  exact nofun

theorem atTopLevel_iff (text : List Item) : marks.AtTopLevel text ↔ marks.read ⟨false,false,0⟩ text = ⟨false,false,0⟩ := by
  constructor
  · intro ⟨free,outside,matched⟩
    rw [outside_read outside,(depth_eq_zero free).mpr matched]
  · intro reached
    obtain ⟨free,outside⟩ := (balanced_iff text).mpr (congrArg Reading.inQuotes reached)
    rw [outside_read outside] at reached
    exact ⟨free,outside,(depth_eq_zero free).mp (congrArg Reading.depth reached)⟩

end Parting
end Quotation
end Sigproxy.Library
