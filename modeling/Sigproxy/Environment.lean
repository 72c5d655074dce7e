import Sigproxy.Library.Fallible
import Sigproxy.Library.Fields

namespace Sigproxy.Environment
open Library

section Expansion

abbrev Lookup := List Char → Option (List Char)

def isEnvNameStart (char : Char) : Bool := char = '_' || char.isAlpha

def isEnvNameContinue (char : Char) : Bool := char = '_' || char.isAlphanum

def isValidEnvName : List Char → Bool
  | [] => false
  | char :: rest => isEnvNameStart char && rest.all isEnvNameContinue

def invalidName (name : List Char) : String := "invalid environment placeholder name '" ++ String.ofList name ++ "'"

def lookupEnvRequired (lookup : Lookup) (name : List Char) : Except String (List Char) :=
  if isValidEnvName name then
    match lookup name with
    | some value => .ok value
    | none => .error ("environment variable '" ++ String.ofList name ++ "' is not set")
  else .error (invalidName name)

-- `partsonce(":-")`
def splitDefault : List Char → List Char × Option (List Char)
  | [] => ([],none)
  | char :: rest =>
    if char = ':' ∧ rest.head? = some '-' then ([],some rest.tail)
    else (char :: (splitDefault rest).1,(splitDefault rest).2)

def resolveEnvExpression (lookup : Lookup) (expression : List Char) : Except String (List Char) :=
  let (name,default) := splitDefault expression
  if isValidEnvName name then
    match lookup name,default with
    | some value,none => .ok value
    | some value,some default => .ok (if value.isEmpty then default else value)
    | none,some default => .ok default
    | none,none => lookupEnvRequired lookup name
  else .error (invalidName name)

def unclosed (expression : List Char) : String := "unclosed environment placeholder '$\x7b" ++ String.ofList expression ++ "'"

-- The loop over the characters, with the text put out so far.
def expandFrom (lookup : Lookup) (output text : List Char) : Except String (List Char) :=
  match text with
  | [] => .ok output
  | char :: rest =>
    if char ≠ '$' then expandFrom lookup (output ++ [char]) rest
    else match rest with
    | [] => expandFrom lookup (output ++ ['$']) []
    | next :: behind =>
      if next = '{' then
        match _cut : Fields.cut '}' behind with
        | (expression,none) => .error (unclosed expression)
        | (expression,some later) => do
          let value ← resolveEnvExpression lookup expression
          expandFrom lookup (output ++ value) later
      else if isEnvNameStart next then do
        let value ← lookupEnvRequired lookup (next :: behind.takeWhile isEnvNameContinue)
        expandFrom lookup (output ++ value) (behind.dropWhile isEnvNameContinue)
      else expandFrom lookup (output ++ ['$']) (next :: behind)
termination_by text.length
decreasing_by
  all_goals simp only [List.length_cons]
  · exact Nat.lt_succ_self _
  · simp
  · have parts := congrArg List.length (Fields.cut_parts _cut)
    simp only [List.length_append,List.length_cons] at parts
    omega
  · have shorter := (List.dropWhile_sublist (l := behind) isEnvNameContinue).length_le
    omega
  · exact Nat.lt_succ_self _

def expandEnvPlaceholdersWith (input : List Char) (lookup : Lookup) : Except String (List Char) := expandFrom lookup [] input

end Expansion

section Readings

-- What a text is made of: plain characters, dollars that name nothing, and the two forms
-- of placeholders.
inductive Piece where
  | plain (char : Char)
  | dollar
  | named (name : List Char)
  | braced (expression : List Char)

def Piece.text : Piece → List Char
  | .plain char => [char]
  | .dollar => ['$']
  | .named name => '$' :: name
  | .braced expression => '$' :: '{' :: expression ++ ['}']

-- The text behind a piece must not read on as a part of it.
def Piece.Fits : Piece → List Char → Prop
  | .plain char,_ => char ≠ '$'
  | .dollar,behind => ∀ next ∈ behind.head?, next ≠ '{' ∧ isEnvNameStart next = false
  | .named name,behind => isValidEnvName name = true ∧ ∀ next ∈ behind.head?, isEnvNameContinue next = false
  | .braced expression,_ => '}' ∉ expression

-- The pieces in front of what is left: nothing, or a placeholder without its end.
inductive Reads : List Piece → Option (List Char) → List Char → Prop
  | nothing : Reads [] none []
  | unclosed (free : '}' ∉ expression) : Reads [] (some expression) ('$' :: '{' :: expression)
  | piece {piece : Piece} {behind : List Char} (fits : piece.Fits behind) (later : Reads pieces left behind) :
    Reads (piece :: pieces) left (piece.text ++ behind)

-- What a piece stands for where the variables are these.
def Piece.Gives (lookup : Lookup) : Piece → List Char → Prop
  | .plain char,value => value = [char]
  | .dollar,value => value = ['$']
  | .named name,value => lookup name = some value
  | .braced expression,value =>
    (isValidEnvName expression = true ∧ lookup expression = some value) ∨
    ∃ name fallback, expression = name ++ ':' :: '-' :: fallback ∧ isValidEnvName name = true ∧
      ((lookup name = some value ∧ value ≠ []) ∨ (value = fallback ∧ ∀ set ∈ lookup name, set = []))

def Piece.value (lookup : Lookup) : Piece → Except String (List Char)
  | .plain char => .ok [char]
  | .dollar => .ok ['$']
  | .named name => lookupEnvRequired lookup name
  | .braced expression => resolveEnvExpression lookup expression

end Readings

section Pieces

theorem isEnvNameStart_continue {char : Char} (starts : isEnvNameStart char = true) : isEnvNameContinue char = true := by
  simp only [isEnvNameStart,isEnvNameContinue,Bool.or_eq_true] at starts ⊢
  exact starts.imp_right fun letter => by simp [Char.isAlphanum,letter]

theorem isValidEnvName_all {name : List Char} (valid : isValidEnvName name = true) : name.all isEnvNameContinue = true := by
  cases name with
  | nil => rfl
  | cons char rest =>
      simp only [isValidEnvName,Bool.and_eq_true] at valid
      simp only [List.all_cons,Bool.and_eq_true]
      exact ⟨isEnvNameStart_continue valid.1,valid.2⟩

theorem isValidEnvName_free {name : List Char} (valid : isValidEnvName name = true) {char : Char} (other : isEnvNameContinue char = false) :
    char ∉ name := by
  intro member
  have there := List.all_eq_true.mp (isValidEnvName_all valid) char member
  cases other.symm.trans there

theorem takeWhile_named {rest behind : List Char} (all : rest.all isEnvNameContinue = true)
    (ends : ∀ next ∈ behind.head?, isEnvNameContinue next = false) :
    (rest ++ behind).takeWhile isEnvNameContinue = rest ∧ (rest ++ behind).dropWhile isEnvNameContinue = behind := by
  have each : ∀ char ∈ rest, isEnvNameContinue char = true := List.all_eq_true.mp all
  rw [List.takeWhile_append_of_pos each,List.dropWhile_append_of_pos each]
  cases behind with
  | nil => simp
  | cons next behind =>
      have stops := ends next rfl
      simp [stops]

-- The piece a text begins with, and the text behind it.
def firstPiece : List Char → Option (Piece × List Char)
  | [] => none
  | char :: rest =>
    if char ≠ '$' then some (.plain char,rest)
    else match rest with
    | [] => some (.dollar,[])
    | next :: behind =>
      if next = '{' then
        match Fields.cut '}' behind with
        | (_,none) => none
        | (expression,some later) => some (.braced expression,later)
      else if isEnvNameStart next then some (.named (next :: behind.takeWhile isEnvNameContinue),behind.dropWhile isEnvNameContinue)
      else some (.dollar,next :: behind)

theorem firstPiece_fits {piece : Piece} {behind : List Char} (fits : piece.Fits behind) : firstPiece (piece.text ++ behind) = some (piece,behind) := by
  cases piece with
  | plain char => simp [Piece.text,firstPiece,show char ≠ '$' from fits]
  | dollar =>
      cases behind with
      | nil => rfl
      | cons next behind =>
          obtain ⟨brace,starts⟩ := fits next rfl
          simp [Piece.text,firstPiece,brace,starts]
  | named name =>
      obtain ⟨valid,ends⟩ := fits
      cases name with
      | nil => cases valid
      | cons char rest =>
          simp only [isValidEnvName,Bool.and_eq_true] at valid
          obtain ⟨taken,dropped⟩ := takeWhile_named valid.2 ends
          have brace : char ≠ '{' := by
            intro same
            rw [same] at valid
            cases valid.1
          simp [Piece.text,firstPiece,brace,valid.1,taken,dropped]
  | braced expression =>
      have cut : Fields.cut '}' (expression ++ '}' :: behind) = (expression,some behind) := Fields.cut_front fits
      simp [Piece.text,firstPiece,cut]

theorem firstPiece_parts {text : List Char} (found : firstPiece text = some (piece,behind)) : text = piece.text ++ behind ∧ piece.Fits behind := by
  cases text with
  | nil => cases found
  | cons char rest =>
      simp only [firstPiece] at found
      split at found
      · rename_i plain
        cases found
        exact ⟨rfl,plain⟩
      · rename_i dollar
        cases not_not.mp dollar
        cases rest with
        | nil =>
            cases found
            exact ⟨rfl,fun next here => by cases here⟩
        | cons next rest =>
            dsimp only at found
            split at found
            · rename_i brace
              cases brace
              split at found
              · cases found
              · rename_i expression later cut
                cases found
                have free : '}' ∉ (Fields.cut '}' rest).1 := Fields.cut_free rest
                rw [cut] at free
                refine ⟨?_,free⟩
                rw [Fields.cut_parts cut]
                simp [Piece.text]
            · rename_i brace
              split at found
              · rename_i starts
                cases found
                refine ⟨?_,?_,fun after here => ?_⟩
                · simp [Piece.text]
                · simp only [isValidEnvName,starts,Bool.true_and]
                  exact List.all_takeWhile
                · have stops := List.head?_dropWhile_not isEnvNameContinue rest
                  rw [Option.mem_def.mp here] at stops
                  exact stops
              · rename_i starts
                cases found
                refine ⟨rfl,fun after here => ?_⟩
                cases here
                exact ⟨brace,Bool.eq_false_iff.mpr starts⟩

theorem firstPiece_none {text : List Char} (found : firstPiece text = none) :
    text = [] ∨ ∃ expression, '}' ∉ expression ∧ text = '$' :: '{' :: expression := by
  cases text with
  | nil => exact .inl rfl
  | cons char rest =>
      simp only [firstPiece] at found
      split at found
      · cases found
      · rename_i dollar
        cases not_not.mp dollar
        cases rest with
        | nil => cases found
        | cons next rest =>
            dsimp only at found
            split at found
            · rename_i brace
              cases brace
              split at found
              · rename_i expression cut
                have free : '}' ∉ (Fields.cut '}' rest).1 := Fields.cut_free rest
                rw [cut] at free
                cases Fields.cut_whole cut
                exact .inr ⟨_,free,rfl⟩
              · cases found
            · split at found <;> cases found

theorem firstPiece_unclosed {expression : List Char} (free : '}' ∉ expression) : firstPiece ('$' :: '{' :: expression) = none := by
  simp [firstPiece,Fields.cut_all free]

theorem firstPiece_shorter (found : firstPiece text = some (piece,behind)) : behind.length < text.length := by
  rw [(firstPiece_parts found).1]
  cases piece <;> simp [Piece.text] <;> omega

-- Every text is read in one way only.
theorem reads_exists (text : List Char) : ∃ pieces left, Reads pieces left text := by
  induction shorter : text.length using Nat.strongRecOn generalizing text with
  | ind length ih =>
      cases found : firstPiece text with
      | none =>
          rcases firstPiece_none found with rfl | ⟨expression,free,rfl⟩
          · exact ⟨[],none,.nothing⟩
          · exact ⟨[],some expression,.unclosed free⟩
      | some first =>
          obtain ⟨piece,behind⟩ := first
          obtain ⟨pieces,left,later⟩ := ih behind.length (shorter ▸ firstPiece_shorter found) behind rfl
          obtain ⟨rfl,fits⟩ := firstPiece_parts found
          exact ⟨piece :: pieces,left,.piece fits later⟩

theorem reads_unique (first : Reads pieces left text) (second : Reads others rest text) : others = pieces ∧ rest = left := by
  induction first generalizing others rest with
  | nothing =>
      generalize texts : ([] : List Char) = text at second
      cases second with
      | nothing => exact ⟨rfl,rfl⟩
      | unclosed free => cases texts
      | piece fits later =>
          have begins := firstPiece_fits fits
          rw [← texts] at begins
          cases begins
  | unclosed free =>
      rename_i expression
      have begins := firstPiece_unclosed free
      generalize texts : '$' :: '{' :: expression = text at begins second
      cases second with
      | nothing => cases texts
      | unclosed other =>
          cases texts
          exact ⟨rfl,rfl⟩
      | piece fits later => cases begins.symm.trans (firstPiece_fits fits)
  | @piece _ _ piece behind fits later ih =>
      have begins := firstPiece_fits fits
      generalize texts : piece.text ++ behind = text at begins second
      cases second with
      | nothing => cases begins
      | unclosed other => cases begins.symm.trans (firstPiece_unclosed other)
      | piece fits' later' =>
          cases begins.symm.trans (firstPiece_fits fits')
          obtain ⟨rfl,rfl⟩ := ih later'
          exact ⟨rfl,rfl⟩

end Pieces

section Values
variable {lookup : Lookup}

theorem expandFrom_first (found : firstPiece text = some (piece,behind)) (output : List Char) :
    expandFrom lookup output text = piece.value lookup >>= fun value => expandFrom lookup (output ++ value) behind := by
  cases text with
  | nil => cases found
  | cons char rest =>
      rw [expandFrom.eq_def]
      simp only [firstPiece] at found
      split at found
      · rename_i plain
        cases found
        simp only [plain,ne_eq,not_false_eq_true,if_true]
        rfl
      · rename_i dollar
        simp only [dollar,if_false]
        cases rest with
        | nil =>
            cases found
            rfl
        | cons next rest =>
            dsimp only at found ⊢
            split at found
            · rename_i brace
              rw [if_pos brace]
              split at found
              · cases found
              · rename_i expression later cut
                cases found
                split
                · rename_i whole
                  cases cut.symm.trans whole
                · rename_i parts
                  cases cut.symm.trans parts
                  rfl
            · rename_i brace
              rw [if_neg brace]
              split at found
              · rename_i starts
                cases found
                rw [if_pos starts]
                rfl
              · rename_i starts
                cases found
                rw [if_neg starts]
                rfl

theorem expandFrom_unclosed {expression : List Char} (free : '}' ∉ expression) (output : List Char) :
    expandFrom lookup output ('$' :: '{' :: expression) = .error (unclosed expression) := by
  rw [expandFrom.eq_def]
  simp only [ne_eq,not_true_eq_false,if_false,if_true]
  split
  · rename_i whole
    cases (Fields.cut_all free).symm.trans whole
    rfl
  · rename_i parts
    cases (Fields.cut_all free).symm.trans parts

theorem splitDefault_whole (parts : splitDefault expression = (name,none)) : name = expression := by
  induction expression generalizing name with
  | nil =>
      cases parts
      rfl
  | cons char rest ih =>
      simp only [splitDefault] at parts
      split at parts
      · cases parts
      · obtain ⟨rfl,none⟩ := Prod.mk.inj parts
        exact congrArg (char :: ·) (ih (Prod.ext rfl none))

theorem splitDefault_parts (parts : splitDefault expression = (name,some fallback)) : expression = name ++ ':' :: '-' :: fallback := by
  induction expression generalizing name with
  | nil => cases parts
  | cons char rest ih =>
      simp only [splitDefault] at parts
      split at parts
      · rename_i found
        obtain ⟨rfl,dash⟩ := found
        obtain ⟨rfl,tail⟩ := Prod.mk.inj parts
        cases rest with
        | nil => cases dash
        | cons next rest =>
            cases dash
            cases tail
            rfl
      · obtain ⟨rfl,some⟩ := Prod.mk.inj parts
        rw [List.cons_append,← ih (Prod.ext rfl some)]

theorem splitDefault_free {name : List Char} (free : ':' ∉ name) : splitDefault name = (name,none) := by
  induction name with
  | nil => rfl
  | cons char rest ih =>
      have different := List.ne_of_not_mem_cons free
      simp [splitDefault,Ne.symm different,ih (List.not_mem_of_not_mem_cons free)]

theorem splitDefault_front {name : List Char} (free : ':' ∉ name) (fallback : List Char) :
    splitDefault (name ++ ':' :: '-' :: fallback) = (name,some fallback) := by
  induction name with
  | nil => simp [splitDefault]
  | cons char rest ih =>
      have different := List.ne_of_not_mem_cons free
      simp [splitDefault,Ne.symm different,ih (List.not_mem_of_not_mem_cons free)]

theorem lookupEnvRequired_ok {name value : List Char} (valid : isValidEnvName name = true) :
    lookupEnvRequired lookup name = .ok value ↔ lookup name = some value := by
  rw [lookupEnvRequired,if_pos valid]
  cases lookup name <;> simp

theorem resolve_default {name : List Char} (valid : isValidEnvName name = true) (fallback : List Char) :
    resolveEnvExpression lookup (name ++ ':' :: '-' :: fallback) =
      .ok (match lookup name with
        | some value => if value.isEmpty then fallback else value
        | none => fallback) := by
  rw [resolveEnvExpression,splitDefault_front (isValidEnvName_free valid (by decide))]
  simp only [valid,if_true]
  cases lookup name <;> rfl

theorem resolve_name {name : List Char} (valid : isValidEnvName name = true) : resolveEnvExpression lookup name = lookupEnvRequired lookup name := by
  rw [resolveEnvExpression,splitDefault_free (isValidEnvName_free valid (by decide))]
  simp only [valid,if_true]
  cases found : lookup name with
  | none => rfl
  | some value => rw [lookupEnvRequired,if_pos valid,found]

theorem resolve_invalid {expression : List Char} (invalid : isValidEnvName (splitDefault expression).1 = false) :
    resolveEnvExpression lookup expression = .error (invalidName (splitDefault expression).1) := by
  simp [resolveEnvExpression,invalid]

theorem braced_gives {expression value : List Char} :
    resolveEnvExpression lookup expression = .ok value ↔ (Piece.braced expression).Gives lookup value := by
  have defaulted {name : List Char} (valid : isValidEnvName name = true) (fallback : List Char) :
      resolveEnvExpression lookup (name ++ ':' :: '-' :: fallback) = .ok value ↔
        (lookup name = some value ∧ value ≠ []) ∨ (value = fallback ∧ ∀ set ∈ lookup name, set = []) := by
    rw [resolve_default valid]
    cases lookup name with
    | none => simp [eq_comm]
    | some set =>
        by_cases empty : set = []
        · simp [empty,eq_comm]
        · simp [empty]
          intro same
          exact same ▸ empty
  constructor
  · intro given
    cases parts : splitDefault expression with
    | mk name rest =>
        cases valid : isValidEnvName name with
        | false =>
            have named : (splitDefault expression).1 = name := by rw [parts]
            rw [resolve_invalid (named ▸ valid)] at given
            cases given
        | true =>
            cases rest with
            | none =>
                cases splitDefault_whole parts
                rw [resolve_name valid,lookupEnvRequired_ok valid] at given
                exact .inl ⟨valid,given⟩
            | some fallback =>
                cases splitDefault_parts parts
                exact .inr ⟨name,fallback,rfl,valid,(defaulted valid fallback).mp given⟩
  · intro given
    rcases given with ⟨valid,set⟩ | ⟨name,fallback,rfl,valid,given⟩
    · rw [resolve_name valid]
      exact (lookupEnvRequired_ok valid).mpr set
    · exact (defaulted valid fallback).mpr given

theorem value_gives {piece : Piece} (fits : piece.Fits behind) (value : List Char) : piece.value lookup = .ok value ↔ piece.Gives lookup value := by
  cases piece with
  | plain char => simp [Piece.value,Piece.Gives,eq_comm]
  | dollar => simp [Piece.value,Piece.Gives,eq_comm]
  | named name => exact lookupEnvRequired_ok fits.1
  | braced expression => exact braced_gives

theorem reads_gives (reads : Reads pieces left text) :
    ∀ piece ∈ pieces, ∀ value, piece.value lookup = .ok value ↔ piece.Gives lookup value := by
  induction reads with
  | nothing | unclosed => simp
  | piece fits later ih => exact List.forall_mem_cons.mpr ⟨value_gives fits,ih⟩

theorem values_give {pieces : List Piece} (each : ∀ piece ∈ pieces, ∀ value, piece.value lookup = .ok value ↔ piece.Gives lookup value)
    (values : List (List Char)) : pieces.mapM (Piece.value lookup) = .ok values ↔ List.Forall₂ (Piece.Gives lookup) pieces values := by
  rw [mapM_ok]
  induction pieces generalizing values with
  | nil => simp
  | cons piece rest ih =>
      obtain ⟨here,later⟩ := List.forall_mem_cons.mp each
      cases values with
      | nil => simp
      | cons value values => rw [List.forall₂_cons,List.forall₂_cons,here,ih later]

theorem expandFrom_reads (reads : Reads pieces left text) (output : List Char) :
    expandFrom lookup output text = pieces.mapM (Piece.value lookup) >>= fun values =>
      match left with
      | none => .ok (output ++ values.flatten)
      | some expression => .error (unclosed expression) := by
  induction reads generalizing output with
  | nothing =>
      rw [expandFrom.eq_def]
      simp [pure,Except.pure,bind,Except.bind]
  | unclosed free =>
      rw [expandFrom_unclosed free]
      rfl
  | @piece _ left piece behind fits later ih =>
      rw [expandFrom_first (firstPiece_fits fits),List.mapM_cons]
      cases piece.value lookup with
      | error message => rfl
      | ok value =>
          change expandFrom lookup (output ++ value) behind = _
          rw [ih]
          cases List.mapM (Piece.value lookup) _ with
          | error message => rfl
          | ok values => cases left <;> simp [pure,Except.pure,bind,Except.bind]

-- A text has one reading, and its expansion is what the pieces stand for: nothing that is put
-- in is read again, and the first piece that stands for nothing gives the error.
theorem expansion_exact (lookup : Lookup) (input : List Char) : ∃ pieces left, Reads pieces left input ∧
    (∀ others rest, Reads others rest input → others = pieces ∧ rest = left) ∧
    (∀ output, expandEnvPlaceholdersWith input lookup = .ok output ↔
      left = none ∧ ∃ values, List.Forall₂ (Piece.Gives lookup) pieces values ∧ output = values.flatten) ∧
    ∀ message, expandEnvPlaceholdersWith input lookup = .error message ↔
      (∃ before piece after, pieces = before ++ piece :: after ∧ (∃ values, List.Forall₂ (Piece.Gives lookup) before values) ∧
        piece.value lookup = .error message) ∨
      ∃ expression, left = some expression ∧ (∃ values, List.Forall₂ (Piece.Gives lookup) pieces values) ∧ message = unclosed expression := by
  obtain ⟨pieces,left,reads⟩ := reads_exists input
  refine ⟨pieces,left,reads,fun others rest => reads_unique reads,fun output => ?_,fun message => ?_⟩
  · rw [expandEnvPlaceholdersWith,expandFrom_reads reads,bind_ok]
    simp only [values_give (reads_gives reads),List.nil_append]
    cases left with
    | none => simp [eq_comm]
    | some expression => simp
  · rw [expandEnvPlaceholdersWith,expandFrom_reads reads]
    have before_gives {before after : List Piece} {piece : Piece} (parts : pieces = before ++ piece :: after) (values : List (List Char)) :
        before.mapM (Piece.value lookup) = .ok values ↔ List.Forall₂ (Piece.Gives lookup) before values :=
      values_give (fun piece member => reads_gives reads piece (parts ▸ List.mem_append_left _ member)) values
    cases given : pieces.mapM (Piece.value lookup) with
    | error first =>
        have none_given (values : List (List Char)) : ¬ List.Forall₂ (Piece.Gives lookup) pieces values := fun all => by
          cases given.symm.trans ((values_give (reads_gives reads) values).mpr all)
        simp only [none_given,exists_false,and_false,false_and,or_false]
        constructor
        · intro same
          cases same
          obtain ⟨before,piece,after,values,parts,earlier,stops⟩ := mapM_error.mp given
          exact ⟨before,piece,after,parts,⟨values,(before_gives parts values).mp earlier⟩,stops⟩
        · intro stops
          obtain ⟨before,piece,after,parts,⟨values,earlier⟩,stops⟩ := stops
          cases given.symm.trans (mapM_error.mpr ⟨before,piece,after,values,parts,(before_gives parts values).mpr earlier,stops⟩)
          rfl
    | ok values =>
        have all := (values_give (reads_gives reads) values).mp given
        constructor
        · intro failed
          cases left with
          | none => cases failed
          | some expression =>
              cases failed
              exact .inr ⟨expression,rfl,⟨values,all⟩,rfl⟩
        · intro either
          rcases either with ⟨before,piece,after,parts,⟨values,earlier⟩,stops⟩ | ⟨expression,rfl,_,rfl⟩
          · cases given.symm.trans (mapM_error.mpr ⟨before,piece,after,values,parts,(before_gives parts values).mpr earlier,stops⟩)
          · rfl

end Values

end Sigproxy.Environment
